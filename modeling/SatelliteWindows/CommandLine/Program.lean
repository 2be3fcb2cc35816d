import SatelliteWindows.CommandLine.Arguments
import SatelliteWindows.CommandLine.Log
import SatelliteWindows.Scenario.Run
import SatelliteWindows.Scenario.Summary
import SatelliteWindows.Scenario.Text
import SatelliteWindows.Settings.Lookup

/-!
# What the program does

The program runs a scenario and shows the report, checks a scenario, or shows the settings that
hold. Everything it finds outside is handed to it, and what it says is returned, so that it is a
function.
-/

namespace SatelliteWindows

/-- What the program finds when it starts. -/
structure Surroundings where
  /-- Where settings may be found; scenarios are looked for in the same way. -/
  sources : SettingsSources
  /-- Whether text may be coloured. -/
  colour : Bool
  /-- What is found where the log is to be kept. -/
  logPlace : LogPlace
  /-- What is found under a path once there is a log that holds a text. -/
  lookBeside : String → String → FileState

namespace Surroundings

/-- The surroundings of a program that is started in a directory held in memory. -/
def inDirectory (d : Directory) (userPath logPath : String) (colour : Bool) : Surroundings where
  sources := { look := d.look, userPath := userPath }
  colour := colour
  logPlace := .inDirectory d logPath
  lookBeside log := (d.put logPath log.toUTF8).look

/-- The surroundings once there is a log that holds a text. -/
def withLog (outside : Surroundings) (log : String) : Surroundings :=
  { outside with sources := { outside.sources with look := outside.lookBeside log } }

end Surroundings

/-- What the program shows. -/
inductive Display where
  /-- Text. -/
  | text (content : String)
  /-- A report for programs. -/
  | report (report : Report)

/-- What comes of starting the program. -/
structure Ending where
  /-- The exit code. -/
  code : Nat
  /-- What is shown. -/
  display : Display := .text ""
  /-- Warnings and the error, in words. -/
  complaints : List String := []
  /-- Whether a log was kept. -/
  logged : Bool := false

namespace Program

/-- The scenario in a file, if it is well formed. -/
def loadScenario (look : String → FileState) (path : String) : Except String Scenario :=
  match look path with
  | .absent | .unreadable => .error ("Failed to read scenario " ++ path)
  | .text content =>
    match Scenario.ofText content with
    | .error _ => .error "Failed to parse scenario"
    | .ok s =>
      match s.flaw? with
      | some f => .error f.message
      | none => .ok s

/-- What is said about a scenario that is well formed. -/
def approval (colour : Bool) (s : Scenario) : String :=
  Text.paint colour .green 0 "✓" ++ " Scenario '" ++ Text.paint colour .cyan 0 s.name
    ++ "' is valid (" ++ toString s.steps.length ++ " steps)\n"

/-- Do what is to be done; an error is said in words. -/
def perform (outside : Surroundings) (settings : Settings) : Task → Except String Display
  | .run path format => do
    let s ← loadScenario outside.sources.look path
    match s.run settings none with
    | .error f => throw (f.chain.headD "")
    | .ok report =>
      match format with
      | .text => return .text (report.summary outside.colour)
      | .json => return .report report
  | .check path => do
    return .text (approval outside.colour (← loadScenario outside.sources.look path))
  | .showSettings => return .text settings.toText

/-- Load the settings and do what is to be done. -/
def proceed (outside : Surroundings) (a : Arguments) : Except String Display :=
  match outside.sources.load a.settings with
  | .error _ => .error "Failed to load configuration"
  | .ok settings => perform outside settings a.task

/-- The exit code of a command line that is not carried out: asking for help is no mistake. -/
def usageCode : UsageFault → Nat
  | .helpWanted | .versionWanted => 0
  | _ => 2

/-- What is said when no log can be kept. -/
def noLog : String := "Error: Failed to setup logging"

/-- How much is to be logged, in words: the command line comes first, then the settings. -/
def wantedLevel (sources : SettingsSources) (a : Arguments) : Option String :=
  a.logLevel <|> sources.logLevel a.settings

/-- What comes of a command line that was understood. The level of logging is looked up before
anything is made, a level that is not known is complained of once the directory of the log is there,
and the settings are loaded once the log itself is. -/
def carryOut (outside : Surroundings) (a : Arguments) : Ending :=
  let wanted := wantedLevel outside.sources a
  let warnings := LogLevel.warning wanted
  match outside.logPlace with
  | .outOfReach => { code := 1, complaints := [noLog] }
  | .taken => { code := 1, complaints := warnings ++ [noLog] }
  | .free =>
    match proceed (outside.withLog (LogLevel.chosen wanted).opening) a with
    | .ok display => { code := 0, display := display, complaints := warnings, logged := true }
    | .error e => { code := 1, complaints := warnings ++ ["Error: " ++ e], logged := true }

/-- What comes of starting the program with the given words. -/
def start (outside : Surroundings) (words : List String) : Except UsageFault Ending := do
  return carryOut outside (← Arguments.ofWords words)

end Program

namespace Ending

/-- A line without the carriage return at its end. -/
def stripReturn (line : String) : String :=
  if line.endsWith "\r" then String.ofList line.toList.dropLast else line

/-- The lines of the complaints up to the first empty one. -/
def complaintLines (e : Ending) : List String :=
  ((e.complaints.flatMap fun c => c.splitOn "\n").map stripReturn).takeWhile (!·.isEmpty)

end Ending

end SatelliteWindows

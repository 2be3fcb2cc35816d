import SatelliteWindows.OutputFormat

/-!
# The command line

A command line names a command, gives it its arguments, and may set options. Options that concern
every command can be given before the command and behind it; behind it they count. The value of an
option follows it as the next word, or directly, behind an equals sign or, for an option of one
letter, even without one. Two dashes end the options.

Words are read one after the other, and the value of an option is examined only when the next option
or argument begins, or at the end; so it is the order of words that decides which of several
mistakes is reported. What is wrong behind a command is reported before what is left to examine in
front of it.
-/

namespace SatelliteWindows

/-- Why a command line is not carried out. -/
inductive UsageFault where
  /-- The format of reports is not known. -/
  | unknownFormat
  /-- An option has no value, or a path is empty. -/
  | missingValue
  /-- No scenario is given. -/
  | missingScenario
  /-- There is no such option or argument. -/
  | unknownArgument
  /-- There is no such command. -/
  | unknownCommand
  /-- An option is given twice. -/
  | repeatedOption
  /-- A value is given to something that takes none. -/
  | unneededValue
  /-- No command is given. -/
  | missingCommand
  /-- Nothing is given. -/
  | nothingGiven
  /-- Help was asked for. -/
  | helpWanted
  /-- The version was asked for. -/
  | versionWanted
  deriving DecidableEq, Repr

/-- What is to be done. -/
inductive Task where
  /-- Run a scenario and show the report. -/
  | run (scenario : String) (format : OutputFormat)
  /-- Check a scenario. -/
  | check (scenario : String)
  /-- Show the settings. -/
  | showSettings
  deriving DecidableEq, Repr

/-- A command line that was understood. -/
structure Arguments where
  /-- What is to be done. -/
  task : Task
  /-- The file with the settings. -/
  settings : Option String
  /-- How much is logged. -/
  logLevel : Option String
  deriving DecidableEq, Repr

namespace CommandLine

/-- Where on the command line a word stands: in front of the command, or behind which one. -/
inductive Place where
  /-- In front of the command. -/
  | front
  /-- Behind the command that runs a scenario. -/
  | run
  /-- Behind the command that checks a scenario. -/
  | check
  /-- Behind the command that shows the settings. -/
  | config
  deriving DecidableEq, Repr

/-- Something that takes a value. -/
inductive Slot where
  /-- The file with the settings. -/
  | settings
  /-- How much is logged. -/
  | logLevel
  /-- The format of the report. -/
  | format
  /-- The scenario. -/
  | scenario
  deriving DecidableEq, Repr

/-- What an option does. -/
inductive Switch where
  /-- It takes a value. -/
  | takes (slot : Slot)
  /-- It asks for help. -/
  | help
  /-- It asks for the version. -/
  | version
  deriving DecidableEq, Repr

/-- The option of a letter. -/
def short? (place : Place) (letter : Char) : Option Switch :=
  match letter with
  | 'c' => some (.takes .settings)
  | 'l' => some (.takes .logLevel)
  | 'h' => some .help
  | 'f' => if place = .run then some (.takes .format) else none
  | 'V' => if place = .front then some .version else none
  | _ => none

/-- The option of a name. -/
def long? (place : Place) (name : String) : Option Switch :=
  match name with
  | "config" => some (.takes .settings)
  | "log-level" => some (.takes .logLevel)
  | "help" => some .help
  | "format" => if place = .run then some (.takes .format) else none
  | "version" => if place = .front then some .version else none
  | _ => none

/-- The place behind a command. -/
def command? (word : String) : Option Place :=
  match word with
  | "run" => some .run
  | "check" => some .check
  | "config" => some .config
  | _ => none

/-- Whether a scenario can be given at a place. -/
def takesScenario (place : Place) : Bool := place = .run || place = .check

/-- What was read of the words at one place. -/
structure Words where
  /-- The file with the settings. -/
  settings : Option String := none
  /-- How much is logged. -/
  logLevel : Option String := none
  /-- The format of the report. -/
  format : Option OutputFormat := none
  /-- The scenario. -/
  scenario : Option String := none
  /-- A slot whose value has not been examined, or has not been given yet. -/
  pending : Option (Slot × Option String) := none
  /-- Whether the next word is the value of the pending slot. -/
  awaiting : Bool := false
  /-- Whether a scenario was given. -/
  scenarioGiven : Bool := false
  /-- Whether two dashes have ended the options. -/
  literal : Bool := false

namespace Words

/-- Whether a slot has a value. -/
def isSet (w : Words) : Slot → Bool
  | .settings => w.settings.isSome
  | .logLevel => w.logLevel.isSome
  | .format => w.format.isSome
  | .scenario => w.scenario.isSome

/-- Give a slot its value. -/
def assign (slot : Slot) (value : String) (w : Words) : Except UsageFault Words :=
  if w.isSet slot then .error .repeatedOption
  else match slot with
    | .settings =>
      if value.isEmpty then .error .missingValue else .ok { w with settings := some value }
    | .logLevel => .ok { w with logLevel := some value }
    | .format =>
      match OutputFormat.ofText? value with
      | some format => .ok { w with format := some format }
      | none => .error .unknownFormat
    | .scenario =>
      if value.isEmpty then .error .missingValue else .ok { w with scenario := some value }

/-- Examine the value of the pending slot. -/
def settle (w : Words) : Except UsageFault Words :=
  let done := { w with pending := none, awaiting := false }
  match w.pending with
  | none => .ok done
  | some (_, none) => .error .missingValue
  | some (slot, some value) => done.assign slot value

/-- An option, perhaps with a value of its own. -/
def switch (s : Switch) (value : Option String) (w : Words) : Except UsageFault Words :=
  match s, value with
  | .takes slot, some value => do (← w.settle).assign slot value
  | .takes slot, none => do
    return { (← w.settle) with pending := some (slot, none), awaiting := true }
  | .help, none => do
    let _ ← w.settle
    throw .helpWanted
  | .version, none => do
    let _ ← w.settle
    throw .versionWanted
  | .help, some _ | .version, some _ => .error .unneededValue

/-- An option of one letter, given the characters behind the dash. -/
def shortOption (place : Place) (letters : List Char) (w : Words) : Except UsageFault Words :=
  match letters with
  | [] => .error .unknownArgument
  | letter :: rest =>
    match short? place letter with
    | none => .error .unknownArgument
    | some (.takes slot) =>
      match rest with
      | [] => w.switch (.takes slot) none
      | '=' :: value => w.switch (.takes slot) (some (String.ofList value))
      | value => w.switch (.takes slot) (some (String.ofList value))
    | some s => w.switch s none

/-- An option with a name, given the characters behind the dashes. -/
def longOption (place : Place) (characters : List Char) (w : Words) : Except UsageFault Words :=
  let name := characters.takeWhile (· != '=')
  let value := match characters.dropWhile (· != '=') with
    | [] => none
    | _ :: value => some (String.ofList value)
  match long? place (String.ofList name) with
  | none => .error .unknownArgument
  | some s => w.switch s value

/-- A word that is no option. -/
def argument (place : Place) (word : String) (w : Words) : Except UsageFault Words :=
  if takesScenario place && !w.scenarioGiven then do
    return { (← w.settle) with pending := some (.scenario, some word), scenarioGiven := true }
  else if place = .front then
    if w.literal && ((command? word).isSome || word == "help") then .error .unknownArgument
    else .error .unknownCommand
  else .error .unknownArgument

/-- A word that names no command. -/
def word (place : Place) (word : String) (w : Words) : Except UsageFault Words :=
  if w.literal then w.argument place word
  else match word.toList with
    | ['-', '-'] => .ok { w with literal := true }
    | '-' :: '-' :: characters => w.longOption place characters
    | '-' :: letter :: letters => w.shortOption place (letter :: letters)
    | _ =>
      match w.awaiting, w.pending with
      | true, some (slot, _) => .ok { w with pending := some (slot, some word), awaiting := false }
      | _, _ => w.argument place word

end Words

/-- Help about a command, if it is known. -/
def helpAbout : List String → UsageFault
  | [] => .helpWanted
  | [word] => if (command? word).isSome || word == "help" then .helpWanted else .unknownCommand
  | _ => .unknownCommand

/-- The words behind a command. -/
def behind (place : Place) : List String → Words → Except UsageFault Words
  | [], w => w.settle
  | word :: rest, w => do behind place rest (← w.word place word)

/-- What is to be done, given what was read behind the command. -/
def taskOf (place : Place) (w : Words) : Except UsageFault Task :=
  match place, w.scenario with
  | .run, some scenario => .ok (.run scenario (w.format.getD .default))
  | .check, some scenario => .ok (.check scenario)
  | .run, none | .check, none => .error .missingScenario
  | .config, _ => .ok .showSettings
  | .front, _ => .error .missingCommand

/-- The words in front of the command, the command, and the words behind it. -/
def read : List String → Words → Except UsageFault Arguments
  | [], w => do
    let w ← w.settle
    if w.settings.isSome || w.logLevel.isSome then throw .missingCommand else throw .nothingGiven
  | word :: rest, w => do
    if !w.literal && !w.awaiting then
      if word == "help" then throw (helpAbout rest)
      if let some place := command? word then
        let later ← behind place rest {}
        let task ← taskOf place later
        let earlier ← w.settle
        return {
          task := task
          settings := later.settings <|> earlier.settings
          logLevel := later.logLevel <|> earlier.logLevel }
    read rest (← w.word .front word)

end CommandLine

/-- What a command line says. -/
def Arguments.ofWords (words : List String) : Except UsageFault Arguments :=
  CommandLine.read words {}

end SatelliteWindows

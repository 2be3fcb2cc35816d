import SatelliteWindows.CommandLine.Help
import SatelliteWindows.CommandLine.Program
import SatelliteWindows.Payload.Indented

/-!
# The program

The outermost layer reads the files that a command line may need, makes the log, hands everything to
`SatelliteWindows.Program.carryOut`, and prints what comes of it.
-/

namespace SatelliteWindows

/-- What is found under a path. -/
def lookAt (path : String) : IO FileState := do
  try
    let bytes ← IO.FS.readBinFile path
    match String.fromUTF8? bytes with
    | some content => return .text content
    | none => return .unreadable
  catch
    | .noFileOrDirectory .. => return .absent
    | _ => return .unreadable

/-- A directory of the user's: the one that the environment sets, or one in the home directory. -/
def userDirectory (setting inHome : String) : IO String := do
  match ← IO.getEnv setting with
  | some path => if path.startsWith "/" then return path else home
  | none => home
where
  home : IO String := do
    match ← IO.getEnv "HOME" with
    | some path => return path ++ "/" ++ inHome
    | none => return "."

/-- Make a log that holds a text. -/
def prepareLog (directory file text : String) : IO LogPlace := do
  try
    IO.FS.createDirAll directory
  catch _ => return .outOfReach
  try
    IO.FS.writeFile (directory ++ "/" ++ file) text
    return .free
  catch _ => return .taken

/-- What is found under each of some paths. -/
def lookAtAll (paths : List String) : IO (String → FileState) := do
  let found ← paths.mapM fun path => return (path, ← lookAt path)
  return fun path => (found.lookup path).getD .absent

/-- Everything that a command line may need: what is found before the log is made, and after. -/
def surroundings (a : Arguments) : IO Surroundings := do
  let userPath := (← userDirectory "XDG_CONFIG_HOME" ".config")
    ++ "/satellite-manager/satellite-manager.yml"
  let sources : SettingsSources := { look := fun _ => .absent, userPath := userPath }
  let scenario := match a.task with
    | .run path _ | .check path => [path]
    | .showSettings => []
  let paths := scenario ++ a.settings.toList ++ sources.candidates
  let sources := { sources with look := ← lookAtAll paths }
  let level := LogLevel.chosen (Program.wantedLevel sources a)
  let logs := (← userDirectory "XDG_DATA_HOME" ".local/share") ++ "/satellite-manager/logs"
  let logPlace ← prepareLog logs "sm.log" level.opening
  let found ← lookAtAll paths
  return {
    sources := sources
    colour := (← IO.getEnv "NO_COLOR").isNone && (← (← IO.getStdout).isTty)
    logPlace := logPlace
    lookBeside := fun _ => found }

/-- Show something. -/
def Display.print : Display → IO Unit
  | .text content => IO.print content
  | .report r => IO.println (r.encode.indented 0)

/-- Show what came of the program. -/
def Ending.print (e : Ending) : IO Unit := do
  for complaint in e.complaints do
    IO.eprintln complaint
  e.display.print

end SatelliteWindows

open SatelliteWindows in
/-- Start the program with the words of its command line. -/
def main (words : List String) : IO UInt32 := do
  match Arguments.ofWords words with
  | .ok a =>
    let ending := Program.carryOut (← surroundings a) a
    ending.print
    return ending.code.toUInt32
  | .error fault =>
    for line in CommandLine.complaint fault do
      IO.eprintln line
    unless (CommandLine.shown fault).isEmpty do
      IO.println (CommandLine.shown fault)
    return (Program.usageCode fault).toUInt32

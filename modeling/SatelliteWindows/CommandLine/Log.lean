import SatelliteWindows.Directory
import SatelliteWindows.Text.Letters

/-!
# The log

How much the program logs, and where. A log is made anew by each start of the program, before the
settings are loaded: whatever stood in its place is gone by then, and a program that logs more than
troubles has written the first line.
-/

namespace SatelliteWindows

/-- How much is logged. -/
inductive LogLevel where
  /-- Everything. -/
  | trace
  /-- Every step. -/
  | debug
  /-- What is worth knowing. -/
  | info
  /-- What may be a mistake. -/
  | warn
  /-- What went wrong. -/
  | error
  deriving DecidableEq, Repr

namespace LogLevel

/-- The level that a word stands for, in letters of either case. -/
def ofText? (word : String) : Option LogLevel :=
  match Text.upper word with
  | "TRACE" => some .trace
  | "DEBUG" => some .debug
  | "INFO" => some .info
  | "WARN" | "WARNING" => some .warn
  | "ERROR" => some .error
  | _ => none

/-- The word for a level. -/
def word : LogLevel → String
  | .trace => "TRACE"
  | .debug => "DEBUG"
  | .info => "INFO"
  | .warn => "WARN"
  | .error => "ERROR"

/-- The level that holds when one is wanted, or none is. -/
def chosen (wanted : Option String) : LogLevel := (wanted.bind ofText?).getD .info

/-- What is said about a level that is not known. -/
def warning (wanted : Option String) : List String :=
  match wanted with
  | none => []
  | some word =>
    if (ofText? word).isSome then []
    else ["Warning: Unknown log-level '" ++ word ++ "', defaulting to INFO"]

/-- What a new log holds. -/
def opening : LogLevel → String
  | .warn | .error => ""
  | level => "INFO sm: Logging initialized (level: " ++ level.word ++ ")\n"

end LogLevel

/-- What the program finds where it wants to keep its log. -/
inductive LogPlace where
  /-- Nothing stands in its way. -/
  | free
  /-- Something else is in the log's place. -/
  | taken
  /-- The directory of the log cannot be made. -/
  | outOfReach
  deriving DecidableEq, Repr

/-- The log's place in a directory held in memory. -/
def LogPlace.inDirectory (d : Directory) (path : String) : LogPlace :=
  let place := Directory.names path
  if d.isBlocked place then .outOfReach
  else if d.isDirectory place then .taken
  else .free

end SatelliteWindows

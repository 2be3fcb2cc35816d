import SatelliteWindows.CommandLine.Arguments

/-!
# Help on the command line

What is said when help or the version is asked for, and what a mistake on the command line is
called.
-/

namespace SatelliteWindows.CommandLine

/-- The name of the program with its version. -/
def version : String := "sm 0.1.0"

/-- How the program is used. -/
def help : String :=
  "\n".intercalate [
    "Drive the satellite window coordinator through scripted sessions",
    "",
    "Usage: sm [OPTIONS] <COMMAND>",
    "",
    "Commands:",
    "  run     Run a scenario and report what every satellite received",
    "  check   Parse and validate a scenario without running it",
    "  config  Print the effective configuration",
    "  help    Print this message",
    "",
    "Options:",
    "  -c, --config <CONFIG>        Path to config file",
    "  -l, --log-level <LOG_LEVEL>  Log level (TRACE, DEBUG, INFO, WARN, ERROR)",
    "  -f, --format <FORMAT>        Output format of run: text or json",
    "  -h, --help                   Print help",
    "  -V, --version                Print version"]

/-- A mistake on the command line in words. -/
def mistake : UsageFault → String
  | .unknownFormat => "the format of reports is not known; use text or json"
  | .missingValue => "an option or argument has no value"
  | .missingScenario => "no scenario is given"
  | .unknownArgument => "there is an unexpected argument"
  | .unknownCommand => "there is no such command"
  | .repeatedOption => "an option is given more than once"
  | .unneededValue => "a value is given to an option that takes none"
  | .missingCommand | .nothingGiven => "no command is given"
  | .helpWanted | .versionWanted => ""

/-- What is shown for a command line that is not carried out. -/
def shown : UsageFault → String
  | .helpWanted => help
  | .versionWanted => version
  | _ => ""

/-- What is complained of for a command line that is not carried out. -/
def complaint (fault : UsageFault) : List String :=
  match fault with
  | .helpWanted | .versionWanted => []
  | .nothingGiven => [help]
  | _ => ["error: " ++ mistake fault, "", "For more information, try '--help'."]

end SatelliteWindows.CommandLine

import SatelliteWindows.Text.Letters

/-!
# Formats of reports
-/

namespace SatelliteWindows

/-- How a report is shown. -/
inductive OutputFormat where
  /-- For readers. -/
  | text
  /-- For programs. -/
  | json
  deriving DecidableEq, Repr, Inhabited

namespace OutputFormat

/-- Reports are for readers unless something else is said. -/
def default : OutputFormat := .text

/-- The name of a format. -/
def name : OutputFormat → String
  | text => "text"
  | json => "json"

/-- The format that a word names, in any case. -/
def ofText? (s : String) : Option OutputFormat :=
  match Text.lower s with
  | "text" | "plain" => some .text
  | "json" => some .json
  | _ => none

/-- What is said about a word that names no format. -/
def unknown (s : String) : String := "Unknown format: " ++ s ++ ". Use: text or json"

end OutputFormat

end SatelliteWindows

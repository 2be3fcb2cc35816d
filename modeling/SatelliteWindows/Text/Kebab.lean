/-!
# Names in kebab case

The alternatives of a written type are named in camel case, and many are tagged in kebab case: in
small letters, with a hyphen before every letter that was a capital but for the first.
-/

namespace SatelliteWindows.Text

/-- A letter inside a name in kebab case. -/
def kebabChar (c : Char) : List Char := if c.isUpper then ['-', c.toLower] else [c]

/-- A name in kebab case. -/
def kebab (s : String) : String :=
  match s.toList with
  | [] => ""
  | c :: rest => String.ofList (c.toLower :: rest.flatMap kebabChar)

end SatelliteWindows.Text

import SatelliteWindows.Payload

/-!
# Payloads over several lines

For readers a payload is set with one item or field a line, each level two blanks further in. Empty
lists and objects stay on one line, and the fields of an object keep the order they have.
-/

namespace SatelliteWindows.Payload

/-- A new line at a level. -/
def freshLine (level : Nat) : String := "\n" ++ String.ofList (List.replicate (2 * level) ' ')

/-- Parts between brackets, one a line; the brackets stand at the given level. -/
def bracketed (opening closing : String) (level : Nat) : List String → String
  | [] => opening ++ closing
  | parts =>
    opening ++ ",".intercalate (parts.map (freshLine (level + 1) ++ ·)) ++ freshLine level
      ++ closing

mutual
/-- The text of a payload that starts at the given level. -/
def indented (level : Nat) : Payload → String
  | .list items => bracketed "[" "]" level (indentedItems (level + 1) items)
  | .record fields => bracketed "\x7b" "\x7d" level (indentedFields (level + 1) fields)
  | p => p.render

/-- The texts of the items of a list. -/
def indentedItems (level : Nat) : List Payload → List String
  | [] => []
  | p :: rest => indented level p :: indentedItems level rest

/-- The texts of the fields of an object. -/
def indentedFields (level : Nat) : List (String × Payload) → List String
  | [] => []
  | (n, p) :: rest => (quote n ++ ": " ++ indented level p) :: indentedFields level rest
end

end SatelliteWindows.Payload

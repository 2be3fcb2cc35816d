/-!
# Payloads

Session snapshots, startup parameters and event data are passed on without being looked into. A
payload is a JSON value whose numbers are whole. An object names each of its fields once:
`Payload.object` lets a later field of one name replace an earlier one. The printed form is compact,
with the fields of an object in the order of the code points of their names.
-/

namespace SatelliteWindows

/-- A JSON value without fractions. -/
inductive Payload where
  /-- The absent value. -/
  | null
  /-- A truth value. -/
  | bool (value : Bool)
  /-- A whole number. -/
  | int (value : Int)
  /-- A text. -/
  | text (value : String)
  /-- A list of values. -/
  | list (items : List Payload)
  /-- Named values. -/
  | record (fields : List (String × Payload))
  deriving Inhabited, Repr

namespace Payload

mutual
/-- Equality of payloads is decided by comparing them part by part. -/
def decEq : (a b : Payload) → Decidable (a = b)
  | .null, .null => isTrue rfl
  | .bool a, .bool b => decidable_of_iff (a = b) (by simp)
  | .int a, .int b => decidable_of_iff (a = b) (by simp)
  | .text a, .text b => decidable_of_iff (a = b) (by simp)
  | .list a, .list b =>
    match decEqList a b with
    | isTrue h => isTrue (by rw [h])
    | isFalse h => isFalse (by simpa using h)
  | .record a, .record b =>
    match decEqFields a b with
    | isTrue h => isTrue (by rw [h])
    | isFalse h => isFalse (by simpa using h)
  | .null, .bool _ | .null, .int _ | .null, .text _ | .null, .list _ | .null, .record _
  | .bool _, .null | .bool _, .int _ | .bool _, .text _ | .bool _, .list _ | .bool _, .record _
  | .int _, .null | .int _, .bool _ | .int _, .text _ | .int _, .list _ | .int _, .record _
  | .text _, .null | .text _, .bool _ | .text _, .int _ | .text _, .list _ | .text _, .record _
  | .list _, .null | .list _, .bool _ | .list _, .int _ | .list _, .text _ | .list _, .record _
  | .record _, .null | .record _, .bool _ | .record _, .int _ | .record _, .text _
  | .record _, .list _ => isFalse (by simp)

/-- Equality of lists of payloads. -/
def decEqList : (a b : List Payload) → Decidable (a = b)
  | [], [] => isTrue rfl
  | [], _ :: _ => isFalse (by simp)
  | _ :: _, [] => isFalse (by simp)
  | x :: a, y :: b =>
    match decEq x y, decEqList a b with
    | isTrue h, isTrue k => isTrue (by rw [h, k])
    | isFalse h, _ => isFalse (by simp [h])
    | _, isFalse k => isFalse (by simp [k])

/-- Equality of lists of named payloads. -/
def decEqFields : (a b : List (String × Payload)) → Decidable (a = b)
  | [], [] => isTrue rfl
  | [], _ :: _ => isFalse (by simp)
  | _ :: _, [] => isFalse (by simp)
  | (m, x) :: a, (n, y) :: b =>
    if hn : m = n then
      match decEq x y, decEqFields a b with
      | isTrue h, isTrue k => isTrue (by rw [hn, h, k])
      | isFalse h, _ => isFalse (by simp [h])
      | _, isFalse k => isFalse (by simp [k])
    else isFalse (by simp [hn])
end

instance : DecidableEq Payload := decEq

/-- The fields that count when a name is given more than once: the last of each name. -/
def keepLast : List (String × Payload) → List (String × Payload)
  | [] => []
  | (n, v) :: rest =>
    if n ∈ rest.map Prod.fst then keepLast rest else (n, v) :: keepLast rest

/-- The object with the given fields; of two fields of one name the last counts. -/
def object (fields : List (String × Payload)) : Payload := .record (keepLast fields)

/-- Fields with distinct names all count. -/
theorem keepLast_eq_self {fields : List (String × Payload)}
    (h : (fields.map Prod.fst).Nodup) : keepLast fields = fields := by
  induction fields with
  | nil => rfl
  | cons f rest ih =>
    obtain ⟨n, v⟩ := f
    simp only [List.map_cons, List.nodup_cons] at h
    simp only [keepLast, h.1, if_false, ih h.2]

/-- A hexadecimal digit. -/
def hexDigit (n : Nat) : Char :=
  if n < 10 then Char.ofNat (48 + n) else Char.ofNat (87 + n)

/-- A character as it is written inside a JSON string: quotes, backslashes and control characters
are escaped, everything else stands for itself. -/
def escapeChar (c : Char) : List Char :=
  match c with
  | '"' => ['\\', '"']
  | '\\' => ['\\', '\\']
  | '\n' => ['\\', 'n']
  | '\r' => ['\\', 'r']
  | '\t' => ['\\', 't']
  | c =>
    match c.toNat with
    | 8 => ['\\', 'b']
    | 12 => ['\\', 'f']
    | n => if n < 32 then ['\\', 'u', '0', '0', hexDigit (n / 16), hexDigit (n % 16)] else [c]

/-- A JSON string. -/
def quote (s : String) : String :=
  "\"" ++ String.ofList (s.toList.flatMap escapeChar) ++ "\""

/-- The text of an object whose fields have been printed: sorted by name. -/
def renderObject (fields : List (String × String)) : String :=
  let sorted := fields.mergeSort (fun a b => decide (a.1 ≤ b.1))
  "\x7b" ++ ",".intercalate (sorted.map fun f => quote f.1 ++ ":" ++ f.2) ++ "\x7d"

mutual
/-- The compact JSON text of a payload. -/
def render : Payload → String
  | .null => "null"
  | .bool true => "true"
  | .bool false => "false"
  | .int i => toString i
  | .text s => quote s
  | .list items => "[" ++ ",".intercalate (renderList items) ++ "]"
  | .record fields => renderObject (renderFields fields)

/-- The texts of the items of a list. -/
def renderList : List Payload → List String
  | [] => []
  | p :: rest => render p :: renderList rest

/-- The names of an object with the texts of their values. -/
def renderFields : List (String × Payload) → List (String × String)
  | [] => []
  | (n, p) :: rest => (n, render p) :: renderFields rest
end

end Payload

end SatelliteWindows

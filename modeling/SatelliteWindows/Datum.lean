import SatelliteWindows.Payload

/-!
# Data as written down

Messages, platforms, settings and scenarios are written as JSON or YAML. A `Datum` is what either
notation can say, before anything is known about its meaning, and this module holds the rules by
which structures and alternatives are read from it:

* a structure is a record of its fields or the list of them in order of declaration
  (`Datum.fields`); unknown fields of a record are passed over, a repeated one is refused, and so is
  a list that is too long;
* an alternative is a record with its name in a tag field, or a list that starts with the name
  (`Datum.tagged`);
* a payload is any datum without fractions (`Datum.payload`); `payload_toDatum` says that a payload
  that is written down is read back.
-/

namespace SatelliteWindows

/-- Why a datum is not an instance of the type asked for. -/
inductive DecodeError where
  /-- The datum is of another kind: a text for a number, say. -/
  | wrongType
  /-- A number does not fit the range of its field. -/
  | outOfRange
  /-- A field without a default is absent. -/
  | missing (field : String)
  /-- A field is given twice. -/
  | duplicate (field : String)
  /-- A list has more items than there are fields. -/
  | tooMany
  /-- No alternative has this name. -/
  | unknownTag (tag : String)
  deriving DecidableEq, Repr

/-- A value as a notation writes it. -/
inductive Datum where
  /-- The absent value. -/
  | null
  /-- A truth value. -/
  | bool (value : Bool)
  /-- A whole number. -/
  | int (value : Int)
  /-- A number that is not whole; infinities and undefined numbers are not finite. -/
  | real (isFinite : Bool)
  /-- A text. -/
  | text (value : String)
  /-- A list. -/
  | list (items : List Datum)
  /-- A record; a notation may use any datum as a key. -/
  | record (fields : List (Datum × Datum))
  deriving Inhabited, Repr

namespace Payload

mutual
/-- The datum that writes a payload down. -/
def toDatum : Payload → Datum
  | .null => .null
  | .bool b => .bool b
  | .int i => .int i
  | .text s => .text s
  | .list items => .list (toDatumList items)
  | .record fields => .record (toDatumFields fields)

/-- The data of the items of a list. -/
def toDatumList : List Payload → List Datum
  | [] => []
  | p :: rest => toDatum p :: toDatumList rest

/-- The data of the fields of an object. -/
def toDatumFields : List (String × Payload) → List (Datum × Datum)
  | [] => []
  | (n, p) :: rest => (.text n, toDatum p) :: toDatumFields rest
end

mutual
/-- Every object inside the payload names each of its fields once. -/
def Proper : Payload → Prop
  | .list items => ProperList items
  | .record fields => (fields.map Prod.fst).Nodup ∧ ProperFields fields
  | _ => True

/-- Every item of the list is proper. -/
def ProperList : List Payload → Prop
  | [] => True
  | p :: rest => Proper p ∧ ProperList rest

/-- Every value of the fields is proper. -/
def ProperFields : List (String × Payload) → Prop
  | [] => True
  | (_, p) :: rest => Proper p ∧ ProperFields rest
end

end Payload

namespace Datum

mutual
/-- The payload a datum stands for. Numbers that are not finite have no JSON form and become null;
other fractions are no payload, and neither are records with keys that are not texts. -/
def payload : Datum → Except DecodeError Payload
  | .null => .ok .null
  | .bool b => .ok (.bool b)
  | .int i => .ok (.int i)
  | .real true => .error .wrongType
  | .real false => .ok .null
  | .text s => .ok (.text s)
  | .list items => do return .list (← payloadList items)
  | .record fields => do return Payload.object (← payloadFields fields)

/-- The payloads of the items of a list. -/
def payloadList : List Datum → Except DecodeError (List Payload)
  | [] => .ok []
  | d :: rest => do
    let p ← payload d
    let more ← payloadList rest
    return p :: more

/-- The payloads of the fields of a record. -/
def payloadFields : List (Datum × Datum) → Except DecodeError (List (String × Payload))
  | [] => .ok []
  | (.text n, d) :: rest => do
    let p ← payload d
    let more ← payloadFields rest
    return (n, p) :: more
  | _ :: _ => .error .wrongType
end

/-- A text. -/
def string : Datum → Except DecodeError String
  | .text s => .ok s
  | _ => .error .wrongType

/-- A truth value. -/
def flag : Datum → Except DecodeError Bool
  | .bool b => .ok b
  | _ => .error .wrongType

/-- A whole number in the range from `lo` to `hi`. -/
def whole (lo hi : Int) : Datum → Except DecodeError Int
  | .int i => if lo ≤ i ∧ i ≤ hi then .ok i else .error .outOfRange
  | _ => .error .wrongType

/-- A count of at most 64 bits. -/
def count (d : Datum) : Except DecodeError Nat := do
  return (← d.whole 0 (UInt64.size - 1)).toNat

/-- A list. -/
def items : Datum → Except DecodeError (List Datum)
  | .list ds => .ok ds
  | _ => .error .wrongType

/-- A value that may be null. -/
def nullable {α : Type} (read : Datum → Except DecodeError α) :
    Datum → Except DecodeError (Option α)
  | .null => .ok none
  | d => do return some (← read d)

/-- The declared field that a key of a record names. A key that is a number names the field at that
place. -/
def fieldOf (names : List String) : Datum → Except DecodeError (Option String)
  | .text s => .ok (if s ∈ names then some s else none)
  | .int i => if i < 0 then .error .wrongType else .ok names[i.toNat]?
  | _ => .error .wrongType

/-- The declared fields among the entries of a record. -/
def knownFields (names : List String) :
    List (Datum × Datum) → Except DecodeError (List (String × Datum))
  | [] => .ok []
  | (k, v) :: rest => do
    let field ← fieldOf names k
    let more ← knownFields names rest
    match field with
    | none => return more
    | some n => if n ∈ more.map Prod.fst then throw (.duplicate n) else return (n, v) :: more

/-- The fields of a structure that declares the given names. -/
def fields (names : List String) : Datum → Except DecodeError (List (String × Datum))
  | .record entries => knownFields names entries
  | .list ds => if ds.length ≤ names.length then .ok (names.zip ds) else .error .tooMany
  | _ => .error .wrongType

/-- A structure without fields passes over what a record holds; a list must be empty. -/
def noFields : Datum → Except DecodeError Unit
  | .record _ => .ok ()
  | .list [] => .ok ()
  | .list (_ :: _) => .error .tooMany
  | _ => .error .wrongType

/-- Whether a key is the given text. -/
def isKey (name : String) : Datum → Bool
  | .text s => s == name
  | _ => false

/-- The name of an alternative, and the datum that holds the fields of the alternative. -/
def tagged (tag : String) : Datum → Except DecodeError (String × Datum)
  | .record entries =>
    match entries.filter (fun e => isKey tag e.1) with
    | [] => .error (.missing tag)
    | [(_, d)] => do
      let name ← d.string
      return (name, .record (entries.filter (fun e => !isKey tag e.1)))
    | _ => .error (.duplicate tag)
  | .list [] => .error (.missing tag)
  | .list (d :: rest) => do
    let name ← d.string
    return (name, .list rest)
  | _ => .error .wrongType

end Datum

/-- The value of a field that must be there. -/
def requiredField {α : Type} (read : Datum → Except DecodeError α) (name : String)
    (fields : List (String × Datum)) : Except DecodeError α :=
  match fields.lookup name with
  | some d => read d
  | none => .error (.missing name)

/-- The value of a field that has a default. -/
def fieldOr {α : Type} (read : Datum → Except DecodeError α) (name : String) (default : α)
    (fields : List (String × Datum)) : Except DecodeError α :=
  match fields.lookup name with
  | some d => read d
  | none => .ok default

/-- The value of a field that may be absent or null. -/
def optionalField {α : Type} (read : Datum → Except DecodeError α) (name : String)
    (fields : List (String × Datum)) : Except DecodeError (Option α) :=
  fieldOr (Datum.nullable read) name none fields

namespace Datum

mutual
/-- A payload that is written down is read back. -/
theorem payload_toDatum : (p : Payload) → p.Proper → payload p.toDatum = .ok p
  | .null, _ | .bool _, _ | .int _, _ | .text _, _ => rfl
  | .list items, h => by
    simp only [Payload.toDatum, payload, payloadList_toDatumList items h]; rfl
  | .record fields, h => by
    simp only [Payload.toDatum, payload, payloadFields_toDatumFields fields h.2]
    simp only [Payload.object, bind, Except.bind, pure, Except.pure, Payload.keepLast_eq_self h.1]

/-- The items of a list that is written down are read back. -/
theorem payloadList_toDatumList : (l : List Payload) → Payload.ProperList l →
    payloadList (Payload.toDatumList l) = .ok l
  | [], _ => rfl
  | p :: rest, h => by
    simp only [Payload.toDatumList, payloadList, payload_toDatum p h.1,
      payloadList_toDatumList rest h.2]
    rfl

/-- The fields of an object that is written down are read back. -/
theorem payloadFields_toDatumFields : (l : List (String × Payload)) → Payload.ProperFields l →
    payloadFields (Payload.toDatumFields l) = .ok l
  | [], _ => rfl
  | (n, p) :: rest, h => by
    simp only [Payload.toDatumFields, payloadFields, payload_toDatum p h.1,
      payloadFields_toDatumFields rest h.2]
    rfl
end

end Datum

end SatelliteWindows

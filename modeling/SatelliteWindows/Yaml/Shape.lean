import SatelliteWindows.Yaml.Core
import SatelliteWindows.Yaml.Document

/-!
# Reading YAML with a shape in mind

In YAML the same characters may be meant as a text or as a number, so a document is read with an
idea of what is wanted. A shape says what is wanted at each place; reading turns a document into a
datum, which is then decoded like any other. Where a text is wanted every scalar is one, whatever it
looks like. Fields that nobody wants are passed over unread.

Lists and records may be nested up to a limit, and aliases may be followed only so often, so that a
small document cannot stand for a huge one.
-/

namespace SatelliteWindows.Yaml

/-- What is wanted at a place of a document. -/
inductive Shape where
  /-- Anything; the keys of records are texts. -/
  | payload
  /-- Anything; keys mean what they look like. -/
  | content
  /-- A text. -/
  | text
  /-- A whole number without a sign, in plain style. -/
  | whole
  /-- Something that may be absent. -/
  | optional (shape : Shape)
  /-- A list. -/
  | items (shape : Shape)
  /-- A record with the given fields. -/
  | record (fields : List (String × Shape))
  /-- A record or list that names its alternative by a text: in the field of this name, or first. -/
  | tagged (tag : String)

/-- What reads a document; it counts the aliases that may still be followed. -/
abbrev DocumentReader (α : Type) := StateT Nat (Except ReadError) α

namespace DocumentReader

variable (d : Document)

/-- Something else was wanted. -/
def refuse {α : Type} : DocumentReader α := throw (.decode .wrongType)

/-- The node that is meant: an alias means the node it refers to. -/
def follow : Node Nat → DocumentReader (Node Nat)
  | .alias number => do
    match ← get with
    | 0 => throw .tooManyAliases
    | left + 1 =>
      set left
      match d.target? number with
      | some (.alias _) | none => throw (.malformed .undefinedAlias)
      | some n => return n
  | n => return n

/-- The text of a scalar, whatever it looks like. -/
def spelled (n : Node Nat) : DocumentReader String := do
  match ← follow d n with
  | .scalar _ _ text => return text
  | _ => refuse

/-- Whether a node stands for nothing: a plain scalar without text. -/
def isVoid : Node Nat → Bool
  | .scalar _ .plain text => text.isEmpty
  | _ => false

/-- Whether a node stands for the absent value where one is allowed. -/
def isAbsent : Node Nat → DocumentReader Bool
  | .scalar p .plain text =>
    match p.tag with
    | none => return text.isEmpty || isNullWord text
    | some tag =>
      if tag = coreTag "null" then
        if isNullWord text then return true else refuse
      else return false
  | _ => return false

/-- A whole number without a sign: in plain style, or a literal block that is tagged as one. -/
def whole : Node Nat → DocumentReader Datum
  | .scalar p style text =>
    if style = .plain ∨ (style = .literal ∧ p.tag = some (coreTag "int")) then
      match (natural? text.toList).filter (· < UInt64.size) with
      | some n => return .int n
      | none => refuse
    else refuse
  | _ => refuse

/-- Lists and records of the application's own kinds are not known. -/
def checkTag (p : Properties) : DocumentReader Unit := do
  if (p.tag.map namesKind).getD false then throw .unknownTag

/-- What reads nodes of a shape. -/
abbrev Inner := Shape → Node Nat → DocumentReader Datum

/-- What reads the nodes inside a list or a record, unless that is nested too deeply. -/
def descend (inner : Option Inner) : DocumentReader Inner :=
  match inner with
  | some f => return f
  | none => throw .tooDeep

/-- The entries of a record, given what reads keys and values. -/
def entries (key value : Node Nat → DocumentReader Datum) :
    List (Node Nat × Node Nat) → DocumentReader (List (Datum × Datum))
  | [] => return []
  | (k, v) :: rest => do
    let k ← key k
    let v ← value v
    return (k, v) :: (← entries key value rest)

/-- The wanted fields among the entries of a record. -/
def wantedEntries (fields : List (String × Shape)) (inner : Inner) :
    List (Node Nat × Node Nat) → DocumentReader (List (Datum × Datum))
  | [] => return []
  | (k, v) :: rest => do
    let name ← spelled d k
    match fields.lookup name with
    | none => wantedEntries fields inner rest
    | some shape =>
      let value ← inner shape v
      return (.text name, value) :: (← wantedEntries fields inner rest)

/-- The entries of a record that names its alternative by a text in a field. -/
def taggedEntries (tag : String) (inner : Inner) :
    List (Node Nat × Node Nat) → DocumentReader (List (Datum × Datum))
  | [] => return []
  | (k, v) :: rest => do
    let key ← inner .content k
    let value ← inner (if Datum.isKey tag key then .text else .content) v
    return (key, value) :: (← taggedEntries tag inner rest)

/-- The items of a list that names its alternative by a text in the first place. -/
def taggedItems (inner : Inner) : List (Node Nat) → DocumentReader (List Datum)
  | [] => return []
  | item :: rest => do
    let name ← inner .text item
    return name :: (← rest.mapM (inner .content))

/-- A list or a record of a shape. -/
def collection (inner : Inner) : Shape → Node Nat → DocumentReader Datum
  | .payload, .list p items => do
    checkTag p
    return .list (← items.mapM (inner .payload))
  | .payload, .record p es => do
    checkTag p
    return .record (← entries (fun k => return .text (← spelled d k)) (inner .payload) es)
  | .content, .list p items => do
    checkTag p
    return .list (← items.mapM (inner .content))
  | .content, .record p es => do
    checkTag p
    return .record (← entries (inner .content) (inner .content) es)
  | .items shape, .list _ items => return .list (← items.mapM (inner shape))
  | .record fields, .record _ es => return .record (← wantedEntries d fields inner es)
  | .tagged _, .list p items => do
    checkTag p
    return .list (← taggedItems inner items)
  | .tagged tag, .record p es => do
    checkTag p
    return .record (← taggedEntries tag inner es)
  | _, _ => refuse

/-- A scalar of a shape. -/
def leaf (n : Node Nat) (p : Properties) (style : ScalarStyle) (text : String) :
    Shape → DocumentReader Datum
  | .payload | .content => liftM (scalarDatum p style text)
  | .text => return .text text
  | .whole => whole n
  | .items _ => if isVoid n then return .list [] else refuse
  | .record _ => if isVoid n then return .record [] else refuse
  | .tagged _ | .optional _ => refuse

/-- Whether the absent value is wanted, too. -/
def isOptional : Shape → Bool
  | .optional _ => true
  | _ => false

/-- What is wanted if the absent value is not. -/
def present : Shape → Shape
  | .optional shape => present shape
  | shape => shape

/-- A node of a shape, given what reads the nodes inside it. -/
def readWith (inner : Option Inner) (shape : Shape) (n : Node Nat) : DocumentReader Datum := do
  let n ← follow d n
  if isOptional shape && (← isAbsent n) then return .null
  match n with
  | .scalar p style text => leaf n p style text (present shape)
  | n => collection d (← descend inner) (present shape) n

/-- A node of a shape, down to a depth. -/
def read : Nat → Inner
  | 0 => readWith d none
  | depth + 1 => readWith d (some (read depth))

end DocumentReader

/-- How deeply lists and records may be nested. -/
def depthLimit : Nat := 128

/-- The record of a shape that a text stands for. A text that holds nothing stands for the record
without fields. -/
def readRecord (fields : List (String × Shape)) (text : String) : Except ReadError Datum :=
  match Document.ofText text with
  | .error e => .error (.malformed e)
  | .ok none => .ok (.record [])
  | .ok (some d) =>
    (DocumentReader.read d depthLimit (.record fields) d.root).run' (100 * d.root.marks)

/-- The value that a text stands for, given its shape and what decodes it. -/
def decodeRecord {α : Type} (fields : List (String × Shape))
    (decode : Datum → Except DecodeError α) (text : String) : Except ReadError α := do
  let d ← readRecord fields text
  match decode d with
  | .ok a => return a
  | .error e => throw (.decode e)

end SatelliteWindows.Yaml

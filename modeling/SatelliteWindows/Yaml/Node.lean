import SatelliteWindows.Yaml.Layout

/-!
# From tokens to nodes

The tokens of a text make up a tree of nodes: scalars, lists, records, and aliases for nodes that
carry an anchor. A node that is left out is a plain scalar without text.
-/

namespace SatelliteWindows.Yaml

/-- What a node may carry besides its content. -/
structure Properties where
  /-- The name by which aliases refer to the node. -/
  anchor : Option String := none
  /-- The tag of the node. -/
  tag : Option Tag := none
  deriving DecidableEq, Repr, Inhabited

/-- A node whose aliases refer to other nodes by an `ι`. -/
inductive Node (ι : Type) where
  /-- The node that is referred to. -/
  | alias (target : ι)
  /-- A scalar. -/
  | scalar (properties : Properties) (style : ScalarStyle) (text : String)
  /-- A list. -/
  | list (properties : Properties) (items : List (Node ι))
  /-- A record. -/
  | record (properties : Properties) (entries : List (Node ι × Node ι))
  deriving Inhabited, Repr

namespace Node

/-- A node that is left out. -/
def absent {ι : Type} : Node ι := .scalar {} .plain ""

end Node

/-- What reads nodes from the front of a list of tokens. -/
abbrev TokenReader (α : Type) := StateT (List Token) (Except SyntaxError) α

namespace TokenReader

/-- The next token. -/
def peek? : TokenReader (Option Token) := return (← get).head?

/-- Pass over the next token. -/
def skip : TokenReader Unit := modify (List.drop 1)

/-- Whether the next token is one of the given ones; the end of the text counts as one of them. -/
def isAt (ts : List Token) : TokenReader Bool := do
  match ← peek? with
  | some t => return ts.contains t
  | none => return true

/-- Pass over the next token, which has to be the given one. -/
def expect (t : Token) : TokenReader Unit := do
  if (← peek?) == some t then skip else throw .unexpectedToken

/-- The anchor that comes next. -/
def anchor? : TokenReader (Option String) := do
  match ← peek? with
  | some (.anchor name) =>
    skip
    return some name
  | _ => return none

/-- The tag that comes next, given what the declared handles stand for. -/
def tag? (handles : List (String × Tag)) : TokenReader (Option Tag) := do
  match ← peek? with
  | some (.tag handle suffix) =>
    skip
    if handle.isEmpty then return some suffix
    else match handles.lookup handle with
      | some replacement => return some (replacement ++ suffix)
      | none => throw .undefinedHandle
  | _ => return none

/-- Anchor and tag that come next, in any order. -/
def properties (handles : List (String × Tag)) : TokenReader Properties := do
  let first ← anchor?
  let tag ← tag? handles
  let second ← if first.isSome then pure none else anchor?
  return ⟨first <|> second, tag⟩

variable (handles : List (String × Tag))

mutual
/-- A node. Block collections are allowed in block context only, and a list that is not indented
only as the value of a key. -/
def node : Nat → Bool → Bool → TokenReader (Node String)
  | 0, _, _ => throw .unexpectedToken
  | n + 1, inBlock, asValue => do
    match ← peek? with
    | some (.alias name) =>
      skip
      return .alias name
    | _ => do
      let p ← properties handles
      match ← peek? with
      | some .entry =>
        if asValue then return .list p (← unindentedItems n)
        else missing p
      | some (.scalar style text) =>
        skip
        return .scalar p style text
      | some .listStart =>
        skip
        return .list p (← flowItems n true)
      | some .recordStart =>
        skip
        return .record p (← flowEntries n true)
      | some .blockListStart =>
        if inBlock then do
          skip
          return .list p (← blockItems n)
        else missing p
      | some .blockRecordStart =>
        if inBlock then do
          skip
          return .record p (← blockEntries n)
        else missing p
      | _ => missing p

/-- A node of which there is nothing but its properties. -/
def missing (p : Properties) : TokenReader (Node String) :=
  if p.anchor.isSome || p.tag.isSome then return .scalar p .plain "" else throw .unexpectedToken

/-- A node, unless one of the given tokens comes next. -/
def nodeUnless : Nat → List Token → Bool → Bool → TokenReader (Node String)
  | 0, _, _, _ => throw .unexpectedToken
  | n + 1, ts, inBlock, asValue => do
    if ← isAt ts then return Node.absent else node n inBlock asValue

/-- The items of an indented list. -/
def blockItems : Nat → TokenReader (List (Node String))
  | 0 => throw .unexpectedToken
  | n + 1 => do
    match ← peek? with
    | some .entry =>
      skip
      let item ← nodeUnless n [.entry, .blockEnd] true false
      return item :: (← blockItems n)
    | _ => do
      expect .blockEnd
      return []

/-- The items of a list that is not indented. -/
def unindentedItems : Nat → TokenReader (List (Node String))
  | 0 => throw .unexpectedToken
  | n + 1 => do
    match ← peek? with
    | some .entry =>
      skip
      let item ← nodeUnless n [.entry, .key, .value, .blockEnd] true false
      return item :: (← unindentedItems n)
    | _ => return []

/-- The value behind a colon, if there is one. -/
def valueUnless : Nat → List Token → Bool → TokenReader (Node String)
  | 0, _, _ => throw .unexpectedToken
  | n + 1, ts, inBlock => do
    match ← peek? with
    | some .value =>
      skip
      nodeUnless n ts inBlock inBlock
    | _ => return Node.absent

/-- The entries of an indented record. -/
def blockEntries : Nat → TokenReader (List (Node String × Node String))
  | 0 => throw .unexpectedToken
  | n + 1 => do
    match ← peek? with
    | some .key =>
      skip
      let k ← nodeUnless n [.key, .value, .blockEnd] true true
      let v ← valueUnless n [.key, .value, .blockEnd] true
      return (k, v) :: (← blockEntries n)
    | _ => do
      expect .blockEnd
      return []

/-- The items of a list in brackets. -/
def flowItems : Nat → Bool → TokenReader (List (Node String))
  | 0, _ => throw .unexpectedToken
  | n + 1, isFirst => do
    if (← peek?) == some .listEnd then
      skip
      return []
    if !isFirst then expect .comma
    match ← peek? with
    | some .listEnd =>
      skip
      return []
    | some .key =>
      skip
      let entry ← pair n
      return .record {} [entry] :: (← flowItems n false)
    | _ =>
      let item ← node n false false
      return item :: (← flowItems n false)

/-- The single entry of a record without braces inside brackets. When there is nothing before the
colon, the colon itself is passed over with the missing key. -/
def pair : Nat → TokenReader (Node String × Node String)
  | 0 => throw .unexpectedToken
  | n + 1 => do
    let k ← if ← isAt [.value, .comma, .listEnd] then do
        skip
        pure Node.absent
      else node n false false
    return (k, ← valueUnless n [.comma, .listEnd] false)

/-- The entries of a record in braces. -/
def flowEntries : Nat → Bool → TokenReader (List (Node String × Node String))
  | 0, _ => throw .unexpectedToken
  | n + 1, isFirst => do
    if (← peek?) == some .recordEnd then
      skip
      return []
    if !isFirst then expect .comma
    match ← peek? with
    | some .recordEnd =>
      skip
      return []
    | some .key =>
      skip
      let k ← nodeUnless n [.value, .comma, .recordEnd] false false
      let v ← valueUnless n [.comma, .recordEnd] false
      return (k, v) :: (← flowEntries n false)
    | _ =>
      let k ← node n false false
      return (k, Node.absent) :: (← flowEntries n false)
end

/-- The handles that every document knows. -/
def standardHandles : List (String × Tag) :=
  [("!", asciiBytes ['!']), ("!!", asciiBytes "tag:yaml.org,2002:".toList)]

/-- The directives that come next: whether the version was given, and the declared handles. -/
def directives : Nat → Bool → List (String × Tag) → TokenReader (List (String × Tag))
  | 0, _, _ => throw .unexpectedToken
  | n + 1, versionGiven, declared => do
    match ← peek? with
    | some (.version major minor) =>
      skip
      if versionGiven || major != 1 || !(minor == 1 || minor == 2) then throw .badDirective
      directives n true declared
    | some (.tagHandle handle replacement) =>
      skip
      if (declared.lookup handle).isSome then throw .badDirective
      directives n versionGiven (declared ++ [(handle, replacement)])
    | _ => return declared

/-- Pass over markers of the end of a document. -/
def documentEnds : TokenReader Unit := modify (List.dropWhile (· == .documentEnd))

/-- The node of the only document, none if there is no document. -/
def document : TokenReader (Option (Node String)) := do
  let fuel := 4 * (← get).length + 4
  match ← peek? with
  | none => return none
  | some (.version ..) | some (.tagHandle ..) | some .documentStart =>
    let handles ← directives fuel false []
    expect .documentStart
    let root ← match ← peek? with
      | none | some (.version ..) | some (.tagHandle ..) | some .documentStart
      | some .documentEnd => pure Node.absent
      | _ => node (handles ++ standardHandles) fuel true false
    return some root
  | _ => return some (← node standardHandles fuel true false)

end TokenReader

/-- The node that a text holds, none if it holds nothing. -/
def Node.ofText (text : String) : Except SyntaxError (Option (Node String)) := do
  let tokens ← Token.ofText text
  let (root, rest) ← TokenReader.document tokens
  if (rest.dropWhile (· == .documentEnd)).isEmpty then return root else throw .severalDocuments

end SatelliteWindows.Yaml

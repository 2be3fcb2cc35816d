import SatelliteWindows.Yaml.FlowScalar
import SatelliteWindows.Yaml.Property

/-!
# From text to tokens

Where block collections start and end is a matter of indentation, and that something was a key shows
only when the colon behind it is reached. So a layout keeps the open indentations and, for every
level of brackets and braces, the place among the tokens at which a key may have started. When the
colon comes, the token that announces a key is put in at that place. A key written this way has to
be on one line and no longer than 1024 bytes.
-/

namespace SatelliteWindows.Yaml

/-- A place at which a key may have started. -/
structure KeyStart where
  /-- Whether nothing but a key can stand there. -/
  required : Bool
  /-- How many tokens come before. -/
  position : Nat
  /-- The place in the text. -/
  cursor : Cursor

/-- A text part of which has been cut into tokens. -/
structure Layout where
  /-- What is left of the text. -/
  cursor : Cursor
  /-- The tokens so far, last one first. -/
  tokens : List Token := []
  /-- The columns of the open block collections, innermost first. -/
  columns : List Nat := []
  /-- For each open bracket or brace, innermost first, and last for the text outside of them, the
  place at which a key may have started. -/
  keys : List (Option KeyStart) := [none]
  /-- Whether a key may start here. -/
  keyAllowed : Bool := true

namespace Layout

/-- Whether the place is inside brackets or braces. -/
def inFlow (l : Layout) : Bool := 1 < l.keys.length

/-- The column that the innermost block collection is indented to. -/
def column? (l : Layout) : Option Nat := l.columns.head?

/-- Put a token at the end. -/
def push (t : Token) (l : Layout) : Layout := { l with tokens := t :: l.tokens }

/-- Put a token in so that the given number of tokens come before it. -/
def insert (position : Nat) (t : Token) (l : Layout) : Layout :=
  { l with tokens := l.tokens.insertIdx (l.tokens.length - position) t }

/-- Go to another place in the text. -/
def goto (c : Cursor) (l : Layout) : Layout := { l with cursor := c }

/-- Put a token at the end that stands for so many characters. -/
def take (t : Token) (length : Nat) (l : Layout) : Layout :=
  (l.push t).goto (l.cursor.advance length)

/-- Say whether a key may start next. -/
def allowKey (allowed : Bool) (l : Layout) : Layout := { l with keyAllowed := allowed }

/-- Replace the place at which a key may have started on the innermost level. -/
def setKey (k : Option KeyStart) (l : Layout) : Layout := { l with keys := k :: l.keys.drop 1 }

/-- The place at which a key may have started on the innermost level. -/
def key? (l : Layout) : Option KeyStart := l.keys.head?.join

/-- What started on the innermost level is no key. -/
def noKey (l : Layout) : Except SyntaxError Layout :=
  match l.key? with
  | some k => if k.required then .error .missingColon else .ok (l.setKey none)
  | none => .ok l

/-- A key may start here, if one is allowed. -/
def mayBeKey (l : Layout) : Except SyntaxError Layout :=
  if l.keyAllowed then do
    let required := !l.inFlow && l.column? == some l.cursor.column
    return (← l.noKey).setKey (some ⟨required, l.tokens.length, l.cursor⟩)
  else .ok l

/-- Whether what started at a place is too far away, or on another line, to be a key. -/
def isStale (k : KeyStart) (c : Cursor) : Bool :=
  k.cursor.line < c.line || k.cursor.offset + 1024 < c.offset

/-- Give up the places that are too far away. -/
def dropStale (l : Layout) : Except SyntaxError Layout := do
  let keys ← l.keys.mapM fun k =>
    match k with
    | some k =>
      if isStale k l.cursor then
        if k.required then throw .missingColon else pure none
      else pure (some k)
    | none => pure none
  return { l with keys := keys }

/-- Open a block collection at a column, unless one is open there. Its token is put at the given
position, or at the end. -/
def indent (column : Nat) (position : Option Nat) (t : Token) (l : Layout) : Layout :=
  let deeper := match l.column? with
    | some current => decide (current < column)
    | none => true
  if l.inFlow || !deeper then l
  else
    let l := { l with columns := column :: l.columns }
    match position with
    | some p => l.insert p t
    | none => l.push t

/-- Close the block collections of the given columns, innermost first, that are indented further
than a column; all of them if there is none. -/
def closeBlocks (column : Option Nat) : List Nat → Layout → Layout
  | [], l => l
  | current :: outer, l =>
    let deeper := match column with
      | some column => decide (column < current)
      | none => true
    if deeper then closeBlocks column outer ({ l with columns := outer }.push .blockEnd) else l

/-- Close the block collections that are indented further than a column. -/
def unindent (column : Option Nat) (l : Layout) : Layout :=
  if l.inFlow then l else closeBlocks column l.columns l

/-- Pass over blanks, comments and empty lines. Tabs may stand where no key can start. A byte order
mark may start a line and takes a column of it. -/
def toNextToken : Nat → Layout → Layout
  | 0, l => l
  | n + 1, l =>
    let c := l.cursor
    let c := if c.column == 0 && c.isAt byteOrderMark then c.step else c
    let tabs := l.inFlow || !l.keyAllowed
    let c := c.skip fun ch => ch == ' ' || (tabs && ch == '\t')
    let c := if c.isAt '#' then c.skip (fun ch => !isBreak ch) else c
    if c.has isBreak then
      toNextToken n { l with cursor := c.takeBreak.2, keyAllowed := l.keyAllowed || !l.inFlow }
    else { l with cursor := c }

/-- The end of the text. -/
def finish (l : Layout) : Except SyntaxError Layout := (l.unindent none).noKey

/-- A directive. -/
def directive (l : Layout) : Except SyntaxError Layout := do
  let l ← (l.unindent none).noKey
  let (t, c) ← Yaml.directive l.cursor
  return ((l.allowKey false).push t).goto c

/-- A document marker. -/
def marker (t : Token) (l : Layout) : Except SyntaxError Layout := do
  return ((← (l.unindent none).noKey).allowKey false).take t 3

/-- An opening bracket or brace. -/
def openFlow (t : Token) (l : Layout) : Except SyntaxError Layout := do
  let l ← l.mayBeKey
  return ({ l with keys := none :: l.keys }.allowKey true).take t 1

/-- A closing bracket or brace. -/
def closeFlow (t : Token) (l : Layout) : Except SyntaxError Layout := do
  let l ← l.noKey
  let keys := if l.inFlow then l.keys.drop 1 else l.keys
  return ({ l with keys := keys }.allowKey false).take t 1

/-- A comma between items. -/
def comma (l : Layout) : Except SyntaxError Layout := do
  return ((← l.noKey).allowKey true).take .comma 1

/-- A dash before an item. -/
def entry (l : Layout) : Except SyntaxError Layout := do
  if !l.inFlow && !l.keyAllowed then throw .misplacedEntry
  let l := l.indent l.cursor.column none .blockListStart
  return ((← l.noKey).allowKey true).take .entry 1

/-- A question mark before a key. -/
def key (l : Layout) : Except SyntaxError Layout := do
  if !l.inFlow && !l.keyAllowed then throw .misplacedKey
  let l := l.indent l.cursor.column none .blockRecordStart
  return ((← l.noKey).allowKey (!l.inFlow)).take .key 1

/-- A colon before a value. -/
def value (l : Layout) : Except SyntaxError Layout :=
  match l.key? with
  | some k =>
    let l := (l.insert k.position .key).indent k.cursor.column (some k.position) .blockRecordStart
    .ok (((l.setKey none).allowKey false).take .value 1)
  | none =>
    if !l.inFlow && !l.keyAllowed then .error .misplacedValue
    else
      let l := l.indent l.cursor.column none .blockRecordStart
      .ok ((l.allowKey (!l.inFlow)).take .value 1)

/-- An anchor or an alias. -/
def reference (make : String → Token) (l : Layout) : Except SyntaxError Layout := do
  let l ← l.mayBeKey
  let (name, c) ← anchorName l.cursor
  return ((l.allowKey false).push (make name)).goto c

/-- A tag. -/
def tag (l : Layout) : Except SyntaxError Layout := do
  let l ← l.mayBeKey
  let (t, c) ← tagToken l.inFlow l.cursor
  return ((l.allowKey false).push t).goto c

/-- A block scalar. -/
def block (style : ScalarStyle) (l : Layout) : Except SyntaxError Layout := do
  let l ← l.noKey
  let (text, c) ← blockScalar style l.column? l.cursor
  return ((l.allowKey true).push (.scalar style text)).goto c

/-- A scalar in quotes. -/
def quoted (style : ScalarStyle) (l : Layout) : Except SyntaxError Layout := do
  let l ← l.mayBeKey
  let (text, c) ← quotedScalar style l.cursor
  return ((l.allowKey false).push (.scalar style text)).goto c

/-- A plain scalar. Behind it a key may start if a line ended there. -/
def plain (l : Layout) : Except SyntaxError Layout := do
  let l ← l.mayBeKey
  let column := match l.column? with
    | some column => column + 1
    | none => 0
  let p ← plainScalar l.inFlow column (l.cursor.rest.length + 1) false l.cursor
  return ((l.allowKey p.broken).push (.scalar .plain (String.ofList p.text))).goto p.cursor

/-- Whether a plain scalar starts with a character, given the one behind it. -/
def startsPlain (inFlow : Bool) (ch : Char) (second : Option Char) : Bool :=
  !(isWhite ch || "-?:,[]\x7b\x7d#&*!|>'\"%@`".toList.contains ch)
    || (ch == '-' && !(second.map isBlank).getD false)
    || (!inFlow && (ch == '?' || ch == ':') && !endsWord second)

/-- The token that starts with a character. -/
def fetchAt (ch : Char) (l : Layout) : Except SyntaxError Layout :=
  let c := l.cursor
  let followed := endsWord c.second?
  if c.column == 0 && ch == '%' then l.directive
  else if c.isAtMarker then l.marker (if ch == '-' then .documentStart else .documentEnd)
  else if ch == '[' then l.openFlow .listStart
  else if ch == '{' then l.openFlow .recordStart
  else if ch == ']' then l.closeFlow .listEnd
  else if ch == '}' then l.closeFlow .recordEnd
  else if ch == ',' then l.comma
  else if ch == '-' && followed then l.entry
  else if ch == '?' && (l.inFlow || followed) then l.key
  else if ch == ':' && (l.inFlow || followed) then l.value
  else if ch == '*' then l.reference .alias
  else if ch == '&' then l.reference .anchor
  else if ch == '!' then l.tag
  else if ch == '|' && !l.inFlow then l.block .literal
  else if ch == '>' && !l.inFlow then l.block .folded
  else if ch == '\'' then l.quoted .single
  else if ch == '"' then l.quoted .double
  else if startsPlain l.inFlow ch c.second? then l.plain
  else .error .unexpectedCharacter

/-- All tokens of what is left of the text. -/
def fetchAll : Nat → Layout → Except SyntaxError Layout
  | 0, _ => .error .unexpectedEnd
  | n + 1, l => do
    let l := toNextToken (l.cursor.rest.length + 1) l
    let l ← l.dropStale
    let l := l.unindent (some l.cursor.column)
    match l.cursor.peek? with
    | none => l.finish
    | some ch => fetchAll n (← l.fetchAt ch)

end Layout

/-- The tokens of a text. -/
def Token.ofText (text : String) : Except SyntaxError (List Token) := do
  let characters := text.toList
  if !characters.all isAllowed then throw .forbiddenCharacter
  let l ← Layout.fetchAll (characters.length + 1) { cursor := { rest := characters } }
  return l.tokens.reverse

end SatelliteWindows.Yaml

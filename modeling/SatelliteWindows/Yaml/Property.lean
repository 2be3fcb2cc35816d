import SatelliteWindows.Yaml.BlockScalar

/-!
# Anchors, aliases, tags and directives
-/

namespace SatelliteWindows.Yaml

/-- The name behind the indicator of an anchor or an alias. -/
def anchorName (c : Cursor) : Except SyntaxError (String × Cursor) :=
  let (name, c) := c.step.span isNameChar
  let ended := endsWord c.peek? || c.has (fun ch => "?:,]\x7d%@`".toList.contains ch)
  if name.isEmpty || !ended then .error .badAnchor else .ok (String.ofList name, c)

/-- The bytes that escape sequences of the form of a percent sign and two digits stand for. -/
def percentBytes : List Char → List UInt8
  | '%' :: a :: b :: rest =>
    match digitsValue? 16 [a, b] with
    | some n => UInt8.ofNat n :: percentBytes rest
    | none => []
  | _ => []

/-- How many bytes a character has whose first byte is given. -/
def byteWidth? (b : UInt8) : Option Nat :=
  if b < 0x80 then some 1
  else if b &&& 0xE0 == 0xC0 then some 2
  else if b &&& 0xF0 == 0xE0 then some 3
  else if b &&& 0xF8 == 0xF0 then some 4
  else none

/-- Whether a byte may follow the first byte of a character. -/
def isFollowingByte (b : UInt8) : Bool := b &&& 0xC0 == 0x80

/-- The escaped bytes that come next. As many of them are taken as the first one asks for; whether
they encode a character is not looked at. -/
def percentSequence (text : List Char) : Except SyntaxError (List UInt8) :=
  match percentBytes text with
  | [] => .error .badTag
  | b :: more =>
    match byteWidth? b with
    | none => .error .badTag
    | some width =>
      let following := more.take (width - 1)
      if following.length + 1 = width ∧ following.all isFollowingByte then .ok (b :: following)
      else .error .badTag

/-- The bytes of a tag that come next. -/
def tagBytes (verbatim : Bool) : Nat → Cursor → Except SyntaxError (List UInt8 × Cursor)
  | 0, c => .ok ([], c)
  | n + 1, c =>
    match c.peek? with
    | none => .ok ([], c)
    | some '%' => do
      let bytes ← percentSequence c.rest
      let (more, c) ← tagBytes verbatim n (c.advance (3 * bytes.length))
      return (bytes ++ more, c)
    | some ch =>
      if isTagChar ch || (verbatim && (ch == ',' || ch == '[' || ch == ']')) then do
        let (more, c) ← tagBytes verbatim n c.step
        return (asciiBytes [ch] ++ more, c)
      else .ok ([], c)

/-- What counts of the bytes of a tag: those in front of the first zero. -/
def beforeZero (bytes : List UInt8) : Tag := bytes.takeWhile (· != 0)

/-- The handle that comes next: an exclamation mark, perhaps a name, and perhaps another mark. -/
def tagHandle (c : Cursor) : Except SyntaxError (List Char × Cursor) :=
  if c.isAt '!' then
    let (name, c) := c.step.span isNameChar
    if c.isAt '!' then .ok ('!' :: name ++ ['!'], c.step) else .ok ('!' :: name, c)
  else .error .badTag

/-- Whether a handle is closed by a second mark. -/
def isClosedHandle (handle : List Char) : Bool := 2 ≤ handle.length && handle.getLast? == some '!'

/-- The tag that comes next. -/
def tagToken (inFlow : Bool) (c : Cursor) : Except SyntaxError (Token × Cursor) := do
  let (token, c) ← if c.second? == some '<' then
      let (uri, c) ← tagBytes true c.rest.length (c.advance 2)
      if uri.isEmpty || !c.isAt '>' then throw .badTag
      pure (Token.tag "" (beforeZero uri), c.step)
    else
      let (handle, c) ← tagHandle c
      let (suffix, c) ← tagBytes false c.rest.length c
      if isClosedHandle handle then
        if suffix.isEmpty then throw .badTag
        pure (Token.tag (String.ofList handle) (beforeZero suffix), c)
      else
        let suffix := beforeZero (asciiBytes (handle.drop 1) ++ suffix)
        if suffix.isEmpty then pure (Token.tag "" (asciiBytes ['!']), c)
        else pure (Token.tag "!" suffix, c)
  if endsWord c.peek? || (inFlow && c.isAt ',') then return (token, c) else throw .badTag

/-- A number of a version. -/
def versionNumber (c : Cursor) : Except SyntaxError (Nat × Cursor) :=
  let (digits, c) := c.span Char.isDigit
  if digits.length ≤ 9 then
    match digitsValue? 10 digits with
    | some n => .ok (n, c)
    | none => .error .badDirective
  else .error .badDirective

/-- The two numbers of a version. -/
def versionToken (c : Cursor) : Except SyntaxError (Token × Cursor) := do
  let (major, c) ← versionNumber c
  if !c.isAt '.' then throw .badDirective
  let (minor, c) ← versionNumber c.step
  return (.version major minor, c)

/-- A handle and what it stands for. -/
def handleToken (c : Cursor) : Except SyntaxError (Token × Cursor) := do
  let (handle, c) ← tagHandle c
  if !(handle == ['!'] || isClosedHandle handle) || !c.has isBlank then throw .badDirective
  let (replacement, c) ← tagBytes true c.rest.length (c.skip isBlank)
  if replacement.isEmpty || !endsWord c.peek? then throw .badDirective
  return (.tagHandle (String.ofList handle) (beforeZero replacement), c)

/-- The directive that comes next, with the rest of its line. -/
def directive (c : Cursor) : Except SyntaxError (Token × Cursor) := do
  let (name, c) := c.step.span isNameChar
  if name.isEmpty || !endsWord c.peek? then throw .badDirective
  let (token, c) ← match String.ofList name with
    | "YAML" => versionToken (c.skip isBlank)
    | "TAG" => handleToken (c.skip isBlank)
    | _ => throw .badDirective
  return (token, ← endOfLine .badDirective c)

end SatelliteWindows.Yaml

import SatelliteWindows.Yaml.Cursor
import SatelliteWindows.Yaml.Token

/-!
# Plain and quoted scalars

Plain scalars and scalars in quotes may run over several lines; what separates the lines is folded
into blanks. Plain scalars end before what could be mistaken for something else, quoted ones at the
closing quote.
-/

namespace SatelliteWindows.Yaml

/-- The character that an escape sequence of one letter stands for. -/
def simpleEscape? : Char → Option Char
  | '0' => some '\x00'
  | 'a' => some '\x07'
  | 'b' => some '\x08'
  | 't' | '\t' => some '\t'
  | 'n' => some '\n'
  | 'v' => some '\x0b'
  | 'f' => some '\x0c'
  | 'r' => some '\r'
  | 'e' => some '\x1b'
  | ' ' => some ' '
  | '"' => some '"'
  | '/' => some '/'
  | '\\' => some '\\'
  | 'N' => some '\x85'
  | '_' => some '\xa0'
  | 'L' => some '\u2028'
  | 'P' => some '\u2029'
  | _ => none

/-- How many hexadecimal digits follow the letter of an escape sequence. -/
def escapeDigits? : Char → Option Nat
  | 'x' => some 2
  | 'u' => some 4
  | 'U' => some 8
  | _ => none

/-- The character of a number. -/
def charOf? (n : Nat) : Option Char := if n.isValidChar then some (Char.ofNat n) else none

/-- The escape sequence whose backslash comes next. -/
def escape (c : Cursor) : Except SyntaxError (Char × Cursor) :=
  match c.second? with
  | none => .error .badEscape
  | some letter =>
    match simpleEscape? letter, escapeDigits? letter with
    | some ch, _ => .ok (ch, c.advance 2)
    | none, none => .error .badEscape
    | none, some n =>
      let digits := (c.rest.drop 2).take n
      if digits.length < n then .error .badEscape
      else match (digitsValue? 16 digits).bind charOf? with
        | some ch => .ok (ch, c.advance (2 + n))
        | none => .error .badEscape

/-- The rest of a scalar in single quotes. -/
def singleQuoted : Nat → Cursor → Except SyntaxError (List Char × Cursor)
  | 0, _ => .error .unexpectedEnd
  | n + 1, c =>
    if c.isAtMarker then .error .unexpectedMarker
    else match c.rest with
      | [] => .error .unexpectedEnd
      | '\'' :: '\'' :: _ => do
        let (text, c) ← singleQuoted n (c.advance 2)
        return ('\'' :: text, c)
      | '\'' :: _ => .ok ([], c.step)
      | ch :: _ =>
        if isWhite ch then do
          let (white, c) := c.span isWhite
          let (text, c) ← singleQuoted n c
          return (gap white ++ text, c)
        else do
          let (text, c) ← singleQuoted n c.step
          return (ch :: text, c)

/-- The rest of a scalar in double quotes. A backslash at the end of a line takes the line separator
and the indentation of the next line away. -/
def doubleQuoted : Nat → Cursor → Except SyntaxError (List Char × Cursor)
  | 0, _ => .error .unexpectedEnd
  | n + 1, c =>
    if c.isAtMarker then .error .unexpectedMarker
    else match c.rest with
      | [] => .error .unexpectedEnd
      | '"' :: _ => .ok ([], c.step)
      | '\\' :: rest =>
        if (rest.head?.map isBreak).getD false then do
          let (_, c) := c.step.takeBreak
          let (white, c) := c.span isWhite
          let (text, c) ← doubleQuoted n c
          return (breaksOf white ++ text, c)
        else do
          let (ch, c) ← escape c
          let (text, c) ← doubleQuoted n c
          return (ch :: text, c)
      | ch :: _ =>
        if isWhite ch then do
          let (white, c) := c.span isWhite
          let (text, c) ← doubleQuoted n c
          return (gap white ++ text, c)
        else do
          let (text, c) ← doubleQuoted n c.step
          return (ch :: text, c)

/-- The scalar whose opening quote comes next. -/
def quotedScalar (style : ScalarStyle) (c : Cursor) : Except SyntaxError (String × Cursor) := do
  let read := if style = .single then singleQuoted else doubleQuoted
  let (text, c) ← read (c.rest.length + 1) c.step
  return (String.ofList text, c)

/-- How many of the next characters belong to the same word of a plain scalar. -/
def plainWord (inFlow : Bool) : List Char → Except SyntaxError Nat
  | [] => .ok 0
  | c :: rest =>
    if isWhite c then .ok 0
    else if inFlow && c == ':'
        && (rest.head?.map fun d => isFlowIndicator d || d == '?').getD false then
      .error .unexpectedCharacter
    else if (c == ':' && endsWord rest.head?) || (inFlow && isFlowIndicator c) then .ok 0
    else do return (← plainWord inFlow rest) + 1

/-- Whether, in white space, a tab stands before the given column of a new line. -/
def tabBefore (column : Nat) : Nat → Bool → List Char → Bool
  | _, _, [] => false
  | at', broken, c :: rest =>
    if isBreak c then tabBefore column 0 true rest
    else (broken && c == '\t' && at' < column) || tabBefore column (at' + 1) broken rest

/-- What a plain scalar was found to be. -/
structure PlainScalar where
  /-- Its text. -/
  text : List Char
  /-- Whether a line ended behind its last word. -/
  broken : Bool
  /-- The place behind it. -/
  cursor : Cursor

/-- The rest of a plain scalar from the start of a word on. Its lines have to be indented to the
given column, unless it stands inside brackets or braces. -/
def plainScalar (inFlow : Bool) (column : Nat) : Nat → Bool → Cursor →
    Except SyntaxError PlainScalar
  | 0, _, _ => .error .unexpectedEnd
  | n + 1, broken, c =>
    if c.isAtMarker || c.isAt '#' then .ok ⟨[], broken, c⟩
    else do
      let length ← plainWord inFlow c.rest
      let word := c.rest.take length
      let c := c.advance length
      let (white, next) := c.span isWhite
      if white.isEmpty then return ⟨word, broken && word.isEmpty, c⟩
      if tabBefore column c.column false white then throw .tabIndentation
      let newLine := white.any isBreak
      if !inFlow && next.column < column then return ⟨word, newLine, next⟩
      let more ← plainScalar inFlow column n newLine next
      if more.text.isEmpty then return { more with text := word }
      else return { more with text := word ++ gap white ++ more.text }

end SatelliteWindows.Yaml

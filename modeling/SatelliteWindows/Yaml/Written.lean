import SatelliteWindows.Payload
import SatelliteWindows.Yaml.Core

/-!
# Writing YAML

A record is written in block style, each of its fields on a line of its own and records inside it
indented by two blanks. A text is written so that it is read as the same text: without quotes where
nothing else could be meant, as a block where it has several lines, in single quotes where plain
style would say something else, and in double quotes where characters have to be escaped.
-/

namespace SatelliteWindows.Yaml

/-- Whether a character is shown as it is. -/
def isPrintable (c : Char) : Bool :=
  let n := c.toNat
  n == 0xA || (0x20 ≤ n && n ≤ 0x7E) || (0xA0 ≤ n && n ≤ 0xFFFD && n != 0xFEFF)
    || 0x10000 ≤ n

/-- A text that would be read as something else, or as another text, in plain style without regard
to its indicators. -/
def isAmbiguous (s : String) : Bool :=
  isZeroLed s.toList || match plainDatum s with
    | .ok (.text _) => false
    | _ => true

/-- Whether plain style would break at an indicator in the rest of a text, given the character
before. -/
def breaksPlain : Option Char → List Char → Bool
  | _, [] => false
  | before, c :: rest =>
    (c == ':' && endsWord rest.head?) || (c == '#' && endsWord before)
      || breaksPlain (some c) rest

/-- Whether a text starts with what has a meaning of its own in block context. -/
def startsWithIndicator (s : List Char) : Bool :=
  match s with
  | '-' :: '-' :: '-' :: _ | '.' :: '.' :: '.' :: _ => true
  | c :: rest =>
    "#,[]\x7b\x7d&*!|>'\"%@`".toList.contains c
      || ("?:-".toList.contains c && endsWord rest.head?)
  | [] => false

/-- Whether a character with one property is directly followed by one with another. -/
def hasPair (p q : Char → Bool) : List Char → Bool
  | c :: d :: rest => (p c && q d) || hasPair p q (d :: rest)
  | _ => false

/-- A blank. -/
def isSpace (c : Char) : Bool := c == ' '

/-- A text whose form is lost in any style but the one with escapes. -/
def needsEscapes (s : List Char) : Bool := !s.all isPrintable || hasPair isSpace isBreak s

/-- Whether plain style keeps a text as it is. -/
def isPlainSafe (s : List Char) : Bool :=
  let atEdge (c : Option Char) : Bool := (c.map fun c => isSpace c || isBreak c).getD false
  !(needsEscapes s || s.any isBreak || atEdge s.head? || atEdge s.getLast?
    || startsWithIndicator s || breaksPlain none s)

/-- Whether single quotes keep a text as it is. -/
def isSingleSafe (s : List Char) : Bool := !(needsEscapes s || hasPair isBreak isSpace s)

/-- Whether a block keeps a text as it is. -/
def isBlockSafe (s : List Char) : Bool := !(needsEscapes s || s.getLast? == some ' ')

/-- A hexadecimal digit in upper case. -/
def upperHexDigit (n : Nat) : Char := if n < 10 then Char.ofNat (48 + n) else Char.ofNat (55 + n)

/-- The last hexadecimal digits of a number, as many as given. -/
def hexDigits : Nat → Nat → List Char
  | 0, _ => []
  | width + 1, n => hexDigits width (n / 16) ++ [upperHexDigit (n % 16)]

/-- The letter that stands for a character behind a backslash. -/
def escapeLetter? (c : Char) : Option Char :=
  match c with
  | '"' => some '"'
  | '\\' => some '\\'
  | '\n' => some 'n'
  | '\r' => some 'r'
  | '\t' => some 't'
  | '\u2028' => some 'L'
  | '\u2029' => some 'P'
  | c =>
    match c.toNat with
    | 0x0 => some '0'
    | 0x7 => some 'a'
    | 0x8 => some 'b'
    | 0xB => some 'v'
    | 0xC => some 'f'
    | 0x1B => some 'e'
    | 0x85 => some 'N'
    | _ => none

/-- A character inside double quotes. -/
def escapedChar (c : Char) : List Char :=
  match escapeLetter? c with
  | some letter => ['\\', letter]
  | none =>
    if isPrintable c then [c]
    else if c.toNat ≤ 0xFF then '\\' :: 'x' :: hexDigits 2 c.toNat
    else if c.toNat ≤ 0xFFFF then '\\' :: 'u' :: hexDigits 4 c.toNat
    else '\\' :: 'U' :: hexDigits 8 c.toNat

/-- A text in double quotes. -/
def inDoubleQuotes (s : List Char) : List Char := '"' :: s.flatMap escapedChar ++ ['"']

/-- What the header of a block says about the line separators at its end. -/
def chompingSign (s : List Char) : List Char :=
  match s.reverse with
  | [c] => if isBreak c then ['+'] else ['-']
  | c :: d :: _ => if !isBreak c then ['-'] else if isBreak d then ['+'] else []
  | [] => ['-']

/-- What the header of a block says about its indentation: something if its first line does not. -/
def indentationSign (s : List Char) : List Char :=
  if (s.head?.map fun c => isSpace c || isBreak c).getD false then ['2'] else []

/-- Characters with so many blanks in front of each line that is not empty; whether the first of
them starts a line is given. -/
def indentLines (indent : Nat) : Bool → List Char → List Char
  | _, [] => []
  | atStart, c :: rest =>
    if isBreak c then c :: indentLines indent true rest
    else (if atStart then List.replicate indent ' ' else []) ++ c :: indentLines indent false rest

/-- A text as a block. -/
def asBlock (indent : Nat) (s : List Char) : List Char :=
  '|' :: indentationSign s ++ chompingSign s ++ '\n' :: indentLines indent true s

/-- Whether a text ends with a line separator. -/
def endsLine (s : List Char) : Bool := (s.getLast?.map isBreak).getD false

/-- A text in single quotes; a quote inside is written twice, and further lines are indented. -/
def inSingleQuotes (indent : Nat) (s : List Char) : List Char :=
  let doubled := s.flatMap fun c => if c == '\'' then ['\'', '\''] else [c]
  '\'' :: indentLines indent false doubled
    ++ (if endsLine s then List.replicate indent ' ' else []) ++ ['\'']

/-- A text as the value of a field whose record is indented by so many blanks. -/
def writeText (indent : Nat) (text : String) : String :=
  let s := text.toList
  let quotedIn (single : Bool) : List Char :=
    if single then inSingleQuotes (indent + 2) s else inDoubleQuotes s
  String.ofList <|
    if s.contains '\n' then
      if isBlockSafe s then asBlock (indent + 2) s else inDoubleQuotes s
    else if isAmbiguous text then quotedIn (isSingleSafe s)
    else if isPlainSafe s then s
    else quotedIn (isSingleSafe s)

/-- A text with a line feed behind it, unless a block has ended with a line separator. -/
def endLine (s : String) : String := if endsLine s.toList then s else s ++ "\n"

/-- So many blanks. -/
def margin (indent : Nat) : String := String.ofList (List.replicate indent ' ')

mutual
/-- The fields of a record that is indented by so many blanks. -/
def writeFields (indent : Nat) : List (String × Payload) → String
  | [] => ""
  | (name, p) :: rest => writeField indent name p ++ writeFields indent rest

/-- A field of a record. Lists are written in brackets. -/
def writeField (indent : Nat) (name : String) : Payload → String
  | .record fields =>
    margin indent ++ name ++ ":" ++ if fields.isEmpty then " \x7b\x7d\n"
      else "\n" ++ writeFields (indent + 2) fields
  | .text text => margin indent ++ name ++ ": " ++ endLine (writeText indent text)
  | p => margin indent ++ name ++ ": " ++ p.render ++ "\n"
end

end SatelliteWindows.Yaml

import SatelliteWindows.Yaml.Character

/-!
# Places in a text

YAML is sensitive to lines and columns. A cursor is a place in a text: what is left of the text from
there on, and where the place is. The line separators that a run of white space holds are read in a
normal form, in which almost every separator is a line feed.
-/

namespace SatelliteWindows.Yaml

/-- A place in a text. -/
structure Cursor where
  /-- What is left. -/
  rest : List Char
  /-- How many bytes come before. -/
  offset : Nat := 0
  /-- How many lines come before. -/
  line : Nat := 0
  /-- How many characters of the line come before. -/
  column : Nat := 0

namespace Cursor

/-- The place behind the next character. A carriage return before a line feed does not end the
line yet. -/
def step (c : Cursor) : Cursor :=
  match c.rest with
  | [] => c
  | ch :: rest =>
    if isBreak ch && !(ch == '\r' && rest.head? == some '\n') then
      ⟨rest, c.offset + ch.utf8Size, c.line + 1, 0⟩
    else ⟨rest, c.offset + ch.utf8Size, c.line, c.column + 1⟩

/-- The place behind so many characters. -/
def advance : Nat → Cursor → Cursor
  | 0, c => c
  | n + 1, c => c.step.advance n

/-- The next character. -/
def peek? (c : Cursor) : Option Char := c.rest.head?

/-- The character after the next one. -/
def second? (c : Cursor) : Option Char := c.rest[1]?

/-- Whether the next character is the given one. -/
def isAt (ch : Char) (c : Cursor) : Bool := c.peek? == some ch

/-- Whether the next character has a property. -/
def has (p : Char → Bool) (c : Cursor) : Bool :=
  match c.peek? with
  | some ch => p ch
  | none => false

/-- The characters with a property that come next, and the place behind them. -/
def span (p : Char → Bool) (c : Cursor) : List Char × Cursor :=
  let taken := c.rest.takeWhile p
  (taken, c.advance taken.length)

/-- The place behind the characters with a property that come next. -/
def skip (p : Char → Bool) (c : Cursor) : Cursor := (c.span p).2

/-- Whether the line starts here with three dashes or three dots. -/
def isAtMarker (c : Cursor) : Bool :=
  c.column == 0 && match c.rest with
    | '-' :: '-' :: '-' :: rest | '.' :: '.' :: '.' :: rest => endsWord rest.head?
    | _ => false

end Cursor

/-- A line separator in normal form. -/
def normalBreak (c : Char) : Char := if c == '\u2028' || c == '\u2029' then c else '\n'

/-- The line separators among characters, in normal form. -/
def breaksOf : List Char → List Char
  | [] => []
  | '\r' :: '\n' :: rest => '\n' :: breaksOf rest
  | c :: rest => if isBreak c then normalBreak c :: breaksOf rest else breaksOf rest

namespace Cursor

/-- The line separator that comes next, in normal form, and the place behind it. -/
def takeBreak (c : Cursor) : List Char × Cursor :=
  match c.rest with
  | '\r' :: '\n' :: _ => (['\n'], c.advance 2)
  | ch :: _ => if isBreak ch then ([normalBreak ch], c.step) else ([], c)
  | [] => ([], c)

end Cursor

/-- What line separators between two words stand for: a single line feed is a blank, of several line
feeds the first is dropped. -/
def foldBreaks : List Char → List Char
  | ['\n'] => [' ']
  | '\n' :: more => more
  | breaks => breaks

/-- What white space between two words stands for. -/
def gap (white : List Char) : List Char :=
  let breaks := breaksOf white
  if breaks.isEmpty then white else foldBreaks breaks

end SatelliteWindows.Yaml

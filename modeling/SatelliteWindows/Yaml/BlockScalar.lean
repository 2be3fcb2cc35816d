import SatelliteWindows.Yaml.Cursor
import SatelliteWindows.Yaml.Token

/-!
# Block scalars

A block scalar is the indented lines below its header. The header says whether lines are kept or
joined, what becomes of the line separators at the end, and perhaps how far the lines are indented;
otherwise the first line that is not empty says so.
-/

namespace SatelliteWindows.Yaml

/-- What becomes of the line separators at the end of a block scalar. -/
inductive Chomping where
  /-- All are dropped. -/
  | strip
  /-- The first is kept. -/
  | clip
  /-- All are kept. -/
  | keep
  deriving DecidableEq, Repr

/-- The chomping that comes next, if it is said. -/
def chomping? (c : Cursor) : Option Chomping × Cursor :=
  match c.peek? with
  | some '+' => (some .keep, c.step)
  | some '-' => (some .strip, c.step)
  | _ => (none, c)

/-- The indentation that comes next, if it is said; it cannot be zero. -/
def indentation? (c : Cursor) : Except SyntaxError (Option Nat × Cursor) :=
  match c.peek? with
  | some ch =>
    if ch.isDigit then
      if ch == '0' then .error .badHeader else .ok (some (ch.toNat - '0'.toNat), c.step)
    else .ok (none, c)
  | none => .ok (none, c)

/-- The end of a line that holds nothing more, except for a comment. -/
def endOfLine (error : SyntaxError) (c : Cursor) : Except SyntaxError Cursor :=
  let c := c.skip isBlank
  let c := if c.isAt '#' then c.skip (fun ch => !isBreak ch) else c
  match c.peek? with
  | none => .ok c
  | some ch => if isBreak ch then .ok c.takeBreak.2 else .error error

/-- The header that comes next: chomping and indentation in any order. -/
def blockHeader (c : Cursor) : Except SyntaxError (Chomping × Option Nat × Cursor) := do
  let (first, c) := chomping? c
  let (indentation, c) ← indentation? c
  let (second, c) := if first.isSome then (none, c) else chomping? c
  let c ← endOfLine .badHeader c
  return ((first <|> second).getD .clip, indentation, c)

/-- Lines that are empty, up to the first one that is not. Their line separators are returned, and
the indentation, which is found here if it is not known: the one of the longest of these lines, but
at least the given one. -/
def emptyLines (least : Nat) : Nat → Option Nat → Nat → Cursor →
    Except SyntaxError (List Char × Nat × Cursor)
  | 0, _, _, _ => .error .unexpectedEnd
  | n + 1, known, longest, c => do
    let blanks := (c.rest.takeWhile (· == ' ')).length
    let c := c.advance (match known with
      | some column => min blanks (column - c.column)
      | none => blanks)
    let longest := max longest c.column
    let short := match known with
      | some column => c.column < column
      | none => true
    if short && c.isAt '\t' then throw .tabIndentation
    if c.has isBreak then
      let (separator, c) := c.takeBreak
      let (more, column, c) ← emptyLines least n known longest c
      return (separator ++ more, column, c)
    else return ([], known.getD (max longest least), c)

/-- What was read of a block scalar. -/
structure BlockText where
  /-- The lines read so far. -/
  text : List Char := []
  /-- The line separator behind them. -/
  separator : List Char := []
  /-- The line separators of the empty lines behind that. -/
  empties : List Char := []
  /-- Whether the last line starts with a blank. -/
  indented : Bool := false

/-- What stands between the lines read so far and a line that starts with a blank or not. -/
def BlockText.joint (b : BlockText) (style : ScalarStyle) (indented : Bool) : List Char :=
  if style = .folded ∧ b.separator = ['\n'] ∧ !b.indented ∧ !indented then
    if b.empties.isEmpty then [' '] else b.empties
  else b.separator ++ b.empties

/-- The lines of a block scalar that are indented to the given column. -/
def blockLines (style : ScalarStyle) (column : Nat) : Nat → BlockText → Cursor →
    Except SyntaxError (BlockText × Cursor)
  | 0, _, _ => .error .unexpectedEnd
  | n + 1, b, c =>
    if c.column == column && !c.rest.isEmpty then do
      let indented := c.has isBlank
      let (line, c) := c.span (fun ch => !isBreak ch)
      let (separator, c) := c.takeBreak
      let (empties, _, c) ← emptyLines 1 (c.rest.length + 1) (some column) 0 c
      blockLines style column n
        ⟨b.text ++ b.joint style indented ++ line, separator, empties, indented⟩ c
    else .ok (b, c)

/-- The block scalar whose indicator comes next, below a line that is indented to the given column,
if it is indented at all. -/
def blockScalar (style : ScalarStyle) (parent : Option Nat) (c : Cursor) :
    Except SyntaxError (String × Cursor) := do
  let (chomping, indentation, c) ← blockHeader c.step
  let known := indentation.map fun n => parent.getD 0 + n
  let least := match parent with
    | some column => column + 1
    | none => 1
  let (empties, column, c) ← emptyLines least (c.rest.length + 1) known 0 c
  let (b, c) ← blockLines style column (c.rest.length + 1) { empties := empties } c
  let tail := match chomping with
    | .strip => []
    | .clip => b.separator
    | .keep => b.separator ++ b.empties
  return (String.ofList (b.text ++ tail), c)

end SatelliteWindows.Yaml

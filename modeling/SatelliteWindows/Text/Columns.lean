/-!
# Columns and colours

Reports on the terminal are set in columns and coloured. A column is filled up with blanks to its
width, counted in characters; longer text is not cut. Coloured text stands between the escape
sequence of its style and the one that resets it; where the text itself resets the style, the style
is set again.
-/

namespace SatelliteWindows.Text

/-- As many blanks as are missing to a width. -/
def filling (width : Nat) (s : String) : String :=
  String.ofList (List.replicate (width - s.length) ' ')

/-- Text at the left of a column. -/
def alignLeft (width : Nat) (s : String) : String := s ++ filling width s

/-- Text at the right of a column. -/
def alignRight (width : Nat) (s : String) : String := filling width s ++ s

/-- How text stands out. -/
inductive Style where
  /-- In heavy letters. -/
  | bold
  /-- In faint letters. -/
  | dimmed
  /-- In red. -/
  | red
  /-- In green. -/
  | green
  /-- In yellow. -/
  | yellow
  /-- In cyan. -/
  | cyan
  deriving DecidableEq, Repr

/-- The number of a style in its escape sequence. -/
def Style.code : Style → Nat
  | bold => 1
  | dimmed => 2
  | red => 31
  | green => 32
  | yellow => 33
  | cyan => 36

/-- The escape sequence that sets a style. -/
def Style.opening (s : Style) : String := "\x1b[" ++ toString s.code ++ "m"

/-- The escape sequence that resets the style. -/
def reset : String := "\x1b[0m"

/-- Text in a style, at the left of a column, if colours are wanted at all. -/
def paint (colour : Bool) (style : Style) (width : Nat) (s : String) : String :=
  if colour then
    style.opening ++ alignLeft width (s.replace reset (reset ++ style.opening)) ++ reset
  else alignLeft width s

end SatelliteWindows.Text

import SatelliteWindows.Text.Marks
import SatelliteWindows.Text.Unassigned

/-!
# Visible characters

Which characters can be told apart on the screen when they stand alone. Control and format
characters, separators other than the blank and characters for private use show nothing of their
own, nor do fillers and other characters that a display may ignore. Marks change the look of the
character before them. Unassigned numbers are no characters at all.
-/

namespace SatelliteWindows.Text

/-- The ranges of the characters that show nothing, marks apart. -/
def hiddenRanges : List (Nat × Nat) :=
  [(0x0, 0x1F), (0x7F, 0xA0), (0xAD, 0xAD), (0x600, 0x605), (0x61C, 0x61C), (0x6DD, 0x6DD),
    (0x70F, 0x70F), (0x890, 0x891), (0x8E2, 0x8E2), (0x115F, 0x1160), (0x1680, 0x1680),
    (0x180E, 0x180E), (0x2000, 0x200B), (0x200D, 0x200F), (0x2028, 0x202F), (0x205F, 0x2064),
    (0x2066, 0x206F), (0x3000, 0x3000), (0x3164, 0x3164), (0xE000, 0xF8FF), (0xFEFF, 0xFEFF),
    (0xFFA0, 0xFFA0), (0xFFF9, 0xFFFB), (0x110BD, 0x110BD), (0x110CD, 0x110CD),
    (0x13430, 0x1343F), (0x1BCA0, 0x1BCA3), (0x1D173, 0x1D17A), (0xE0001, 0xE0001),
    (0xF0000, 0xFFFFD), (0x100000, 0x10FFFD)]

/-- Whether a number lies in one of some ranges. -/
def inRanges (ranges : List (Nat × Nat)) (n : Nat) : Bool :=
  ranges.any fun r => r.1 ≤ n && n ≤ r.2

/-- Whether a character is seen as itself. -/
def isVisible (c : Char) : Bool :=
  let n := c.toNat
  !inRanges hiddenRanges n && !inRanges markRanges n && !inRanges unassignedRanges n

end SatelliteWindows.Text

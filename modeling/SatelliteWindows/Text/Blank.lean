/-!
# Blank text

Which characters count as white space when a name is judged blank: the characters with the
Unicode property `White_Space`. A name made of such characters only is as good as no name.
-/

namespace SatelliteWindows.Text

/-- A character with the Unicode property `White_Space`. -/
def isBlankChar (c : Char) : Bool :=
  let n := c.toNat
  (0x9 ≤ n && n ≤ 0xD) || n == 0x20 || n == 0x85 || n == 0xA0 || n == 0x1680
    || (0x2000 ≤ n && n ≤ 0x200A) || n == 0x2028 || n == 0x2029 || n == 0x202F
    || n == 0x205F || n == 0x3000

/-- Text without a single visible character; the empty text is blank. -/
def isBlank (s : String) : Bool :=
  s.toList.all isBlankChar

end SatelliteWindows.Text

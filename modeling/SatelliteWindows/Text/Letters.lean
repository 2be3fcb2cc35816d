/-!
# Letters without regard to case

Words of the command line are recognised in any case. Only words of ASCII letters are ever looked
for, so it is enough to know which characters have an ASCII upper or lower case form; every other
character is left as it is and matches nothing.
-/

namespace SatelliteWindows.Text

/-- The upper case form of a character, where that form is made of ASCII letters. Besides the ASCII
letters these are the dotless i, the long s, the sharp s and the Latin ligatures. -/
def upperChar (c : Char) : List Char :=
  if c.isLower then [c.toUpper]
  else match c.toNat with
    | 0x00DF => ['S', 'S']
    | 0x0131 => ['I']
    | 0x017F => ['S']
    | 0xFB00 => ['F', 'F']
    | 0xFB01 => ['F', 'I']
    | 0xFB02 => ['F', 'L']
    | 0xFB03 => ['F', 'F', 'I']
    | 0xFB04 => ['F', 'F', 'L']
    | 0xFB05 => ['S', 'T']
    | 0xFB06 => ['S', 'T']
    | _ => [c]

/-- Text in upper case, as far as ASCII words are concerned. -/
def upper (s : String) : String :=
  String.ofList (s.toList.flatMap upperChar)

/-- The lower case form of a character, where that form is an ASCII letter: the ASCII letters and
the Kelvin sign. -/
def lowerChar (c : Char) : Char :=
  if c.isUpper then c.toLower
  else if c.toNat == 0x212A then 'k'
  else c

/-- Text in lower case, as far as ASCII words are concerned. -/
def lower (s : String) : String :=
  String.ofList (s.toList.map lowerChar)

end SatelliteWindows.Text

import SatelliteWindows.Datum
import SatelliteWindows.Yaml.Character
import SatelliteWindows.Yaml.Node

/-!
# What plain scalars mean

A plain scalar is the absent value, a truth value or a number if it is written like one, and a text
otherwise. Digits with a zero in front are a text. A tag of the core schema settles the meaning of a
scalar in any style; other tags that are spelled out make it a text. Tags of the application are not
known here, unless their bytes encode no text: then they say nothing.
-/

namespace SatelliteWindows.Yaml

/-- What is wrong with a text that is to be read as a value of some type. -/
inductive ReadError where
  /-- The text is no YAML. -/
  | malformed (error : SyntaxError)
  /-- The text stands for something else. -/
  | decode (error : DecodeError)
  /-- A tag is not known. -/
  | unknownTag
  /-- Lists and records are nested too deeply. -/
  | tooDeep
  /-- Aliases are followed too often. -/
  | tooManyAliases
  deriving DecidableEq, Repr

/-- Whether a text is a word for the absent value. -/
def isNullWord (s : String) : Bool := s == "null" || s == "Null" || s == "NULL" || s == "~"

/-- The truth value that a text is a word for. -/
def boolWord? (s : String) : Option Bool :=
  if s == "true" || s == "True" || s == "TRUE" then some true
  else if s == "false" || s == "False" || s == "FALSE" then some false
  else none

/-- The base and the digits of an unsigned number. -/
def basedDigits : List Char → Nat × List Char
  | '0' :: 'x' :: digits => (16, digits)
  | '0' :: 'o' :: digits => (8, digits)
  | '0' :: 'b' :: digits => (2, digits)
  | digits => (10, digits)

/-- Digits with a zero in front, perhaps behind a sign. -/
def isZeroLed (s : List Char) : Bool :=
  let digits := match s with
    | '-' :: rest | '+' :: rest => rest
    | rest => rest
  match digits with
  | '0' :: c :: rest => (c :: rest).all Char.isDigit
  | _ => false

/-- The number that is written without a minus sign. -/
def natural? (s : List Char) : Option Nat :=
  if isZeroLed s then none
  else
    let unsigned := match s with
      | '+' :: rest => rest
      | rest => rest
    let (base, digits) := basedDigits unsigned
    digitsValue? base digits

/-- The number behind a minus sign. -/
def negated? : List Char → Option Nat
  | '-' :: rest =>
    if isZeroLed rest then none
    else
      let (base, digits) := basedDigits rest
      digitsValue? base digits
  | _ => none

/-- The whole number that a text writes. -/
def whole? (s : List Char) : Option Int :=
  match natural? s with
  | some n => some n
  | none => (negated? s).map fun n => -(n : Int)

/-- The parts of a number with a point or an exponent: the digits before and after the point, and
the exponent. -/
structure Decimal where
  /-- The digits without the point. -/
  digits : List Char
  /-- The power of ten they are multiplied by. -/
  exponent : Int

/-- An exponent: nothing, or a letter, a sign and digits. -/
def exponent? : List Char → Option Int
  | [] => some 0
  | e :: rest =>
    if e == 'e' || e == 'E' then
      match rest with
      | '-' :: digits => (digitsValue? 10 digits).map fun n => -(n : Int)
      | '+' :: digits => (digitsValue? 10 digits).map fun n => (n : Int)
      | digits => (digitsValue? 10 digits).map fun n => (n : Int)
    else none

/-- A number without a sign. -/
def decimal? (s : List Char) : Option Decimal := do
  let whole := s.takeWhile Char.isDigit
  let rest := s.dropWhile Char.isDigit
  let (fraction, rest) := match rest with
    | '.' :: more => (more.takeWhile Char.isDigit, more.dropWhile Char.isDigit)
    | _ => ([], rest)
  if whole.isEmpty && fraction.isEmpty then none
  else return ⟨whole ++ fraction, (← exponent? rest) - fraction.length⟩

/-- Whether a number is below the largest numbers of double precision, rounding included. -/
def Decimal.isFinite (d : Decimal) : Bool :=
  let digits := d.digits.dropWhile (· == '0')
  let magnitude := (digits.length : Int) + d.exponent
  if digits.isEmpty || magnitude < 300 then true
  else if 310 < magnitude then false
  else match digitsValue? 10 digits with
    | none => true
    | some n =>
      let limit := Nat.pow 2 1024 - Nat.pow 2 970
      if 0 ≤ d.exponent then n * Nat.pow 10 d.exponent.toNat < limit
      else n < limit * Nat.pow 10 (-d.exponent).toNat

/-- The number that is not whole and that a text writes: whether it is finite. -/
def real? (s : String) : Option Bool :=
  let unsigned := match s.toList with
    | '+' :: rest => if rest.head? == some '+' || rest.head? == some '-' then [] else rest
    | rest => rest
  let body := match unsigned with
    | '-' :: rest => rest
    | rest => rest
  let bodyText := String.ofList body
  if bodyText == ".inf" || bodyText == ".Inf" || bodyText == ".INF" then some false
  else if s == ".nan" || s == ".NaN" || s == ".NAN" then some false
  else match decimal? body with
    | some d => if d.isFinite then some true else none
    | none => none

/-- A whole number; only those of 64 bits are known. -/
def wholeDatum (i : Int) : Except ReadError Datum :=
  if Int64.minValue.toInt ≤ i ∧ i < UInt64.size then .ok (.int i) else .error (.decode .outOfRange)

/-- A number so large that it is taken for one that is not whole. -/
def isHuge (i : Int) : Bool :=
  i < -0x80000000000000000000000000000000 || 0x100000000000000000000000000000000 ≤ i

/-- What a plain scalar without a tag means. -/
def plainDatum (s : String) : Except ReadError Datum :=
  if s.isEmpty || isNullWord s then .ok .null
  else match boolWord? s with
    | some b => .ok (.bool b)
    | none =>
      match (whole? s.toList).filter (fun i => !isHuge i) with
      | some i => wholeDatum i
      | none =>
        match if isZeroLed s.toList then none else real? s with
        | some isFinite => .ok (.real isFinite)
        | none => .ok (.text s)

/-- The tags of the core schema that settle a meaning. -/
def coreTag (name : String) : Tag := asciiBytes ("tag:yaml.org,2002:" ++ name).toList

/-- Whether a tag is one of the application: it starts with an exclamation mark. -/
def isLocal (tag : Tag) : Bool := (asciiBytes ['!']).isPrefixOf tag

/-- Whether a tag is one of the application and encodes a text, so that it names a kind. -/
def namesKind (tag : Tag) : Bool := isLocal tag && (String.fromUTF8? ⟨tag.toArray⟩).isSome

/-- What a word of a kind means, which it has to be. -/
def required (d : Option Datum) : Except ReadError Datum :=
  match d with
  | some d => .ok d
  | none => .error (.decode .wrongType)

/-- What a scalar means. -/
def scalarDatum (p : Properties) (style : ScalarStyle) (s : String) : Except ReadError Datum :=
  match p.tag with
  | none => if style = .plain then plainDatum s else .ok (.text s)
  | some tag =>
    if namesKind tag then .error .unknownTag
    else if tag = coreTag "bool" then required ((boolWord? s).map .bool)
    else if tag = coreTag "int" then
      match (whole? s.toList).filter (fun i => !isHuge i) with
      | some i => wholeDatum i
      | none => .error (.decode .wrongType)
    else if tag = coreTag "float" then required ((real? s).map .real)
    else if tag = coreTag "null" then required (if isNullWord s then some .null else none)
    else if isLocal tag ∧ style = .plain then plainDatum s
    else .ok (.text s)

end SatelliteWindows.Yaml

import Relational.Text.Numeral

/-!
# Binary floating point

A binary number is a signed significand times a power of two, an infinity, or not a number. A format
fixes the precision and the range of the unit; values enter a format by rounding a quotient of
natural numbers to the nearest, ties to the even significand.
-/

namespace Relational.Number

/-- Bits of the significand, and the least and greatest exponent of its unit. -/
structure BinaryFormat where
  precision : Nat
  leastUnit : Int
  greatestUnit : Int
  deriving DecidableEq, Repr

/-- Sixteen bits. -/
def half : BinaryFormat := ⟨11, -24, 5⟩

/-- Thirty-two bits. -/
def single : BinaryFormat := ⟨24, -149, 104⟩

/-- Sixty-four bits. -/
def double : BinaryFormat := ⟨53, -1074, 971⟩

/-- Not a number, an infinity, or `± significand * 2 ^ unit`. -/
inductive Binary where
  | nan
  | infinite (negative : Bool)
  | finite (negative : Bool) (significand : Nat) (unit : Int)
  deriving DecidableEq, Repr

/-- The quotient rounded to the nearest natural number, ties to the even one. -/
def roundQuotient (num den : Nat) : Nat :=
  let q := num / den
  let r := num % den
  if 2 * r < den then q
  else if den < 2 * r then q + 1
  else q + q % 2

/-- Numerator and denominator of a quotient divided by a power of two. -/
def scaleDown (num den : Nat) : Int → Nat × Nat
  | .ofNat k => (num, den * Nat.pow 2 k)
  | .negSucc k => (num * Nat.pow 2 (k + 1), den)

/-- The exponent of the unit in which a positive quotient has full precision, kept in range. -/
def unitOf (format : BinaryFormat) (num den : Nat) : Int :=
  let guess : Int := (num.log2 : Int) - den.log2 - format.precision
  let (n, d) := scaleDown num den guess
  let fitting := if n / d < Nat.pow 2 format.precision then guess else guess + 1
  max fitting format.leastUnit

/-- The value of the format nearest to a signed quotient. -/
def Binary.ofQuotient (format : BinaryFormat) (negative : Bool) (num den : Nat) : Binary :=
  if num = 0 then .finite negative 0 format.leastUnit
  else
    let unit := unitOf format num den
    let (n, d) := scaleDown num den unit
    let m := roundQuotient n d
    let (m, unit) :=
      if m = Nat.pow 2 format.precision then (Nat.pow 2 (format.precision - 1), unit + 1)
      else (m, unit)
    if format.greatestUnit < unit then .infinite negative else .finite negative m unit

/-- The number of decimal digits of a natural number; zero has one. -/
def digitCount (n : Nat) : Nat := (Nat.toDigits 10 n).length

/-- Numbers of `10 ^ 400` and more lie beyond all formats, those below `10 ^ -400` round to zero. -/
def decimalRange : Int := 400

/-- The value of the format nearest to `± coefficient * 10 ^ exponent`. -/
def Binary.ofDecimal (format : BinaryFormat) (negative : Bool) (coefficient : Nat)
    (exponent : Int) : Binary :=
  if coefficient = 0 ∨ exponent + digitCount coefficient < -decimalRange then
    .finite negative 0 format.leastUnit
  else if decimalRange < exponent + digitCount coefficient then .infinite negative
  else
    match exponent with
    | .ofNat k => .ofQuotient format negative (coefficient * Nat.pow 10 k) 1
    | .negSucc k => .ofQuotient format negative coefficient (Nat.pow 10 (k + 1))

/-- The double nearest to an integer. -/
def Binary.ofInt (n : Int) : Binary := .ofQuotient double (n < 0) n.natAbs 1

/-- Round a value to another format. -/
def Binary.convert (format : BinaryFormat) : Binary → Binary
  | .nan => .nan
  | .infinite negative => .infinite negative
  | .finite negative m (.ofNat k) => .ofQuotient format negative (m * Nat.pow 2 k) 1
  | .finite negative m (.negSucc k) => .ofQuotient format negative m (Nat.pow 2 (k + 1))

/-- The bits that hold a value of a format in the given number of bytes: sign, exponent and
significand, the leading bit of which is left out if it is one. -/
def Binary.bits (format : BinaryFormat) (width : Nat) (x : Binary) : Nat :=
  let leading := Nat.pow 2 (format.precision - 1)
  let sign := fun (negative : Bool) => if negative then Nat.pow 2 (8 * width - 1) else 0
  let special := (format.greatestUnit - format.leastUnit + 2).toNat * leading
  match x with
  | .nan => special + leading / 2
  | .infinite negative => sign negative + special
  | .finite negative m unit =>
    sign negative + (if m < leading then m else m + (unit - format.leastUnit).toNat * leading)

/-- Attach a sign to a natural number. -/
def withSign (negative : Bool) (n : Nat) : Int := if negative then -(n : Int) else n

/-- Whether a value is a zero. -/
def Binary.isZero : Binary → Bool
  | .finite _ m _ => m == 0
  | _ => false

/-- Whether a character is a decimal digit of some script. -/
def isDigit (c : Char) : Bool := (Text.digitValue? c).isSome

/-- Coefficient, exponent and rest of an unsigned decimal numeral `digits[.digits]`. -/
def readMantissa (cs : List Char) : Option (Nat × Int × List Char) :=
  let whole := cs.takeWhile isDigit
  let rest := cs.dropWhile isDigit
  let (fraction, rest) :=
    match rest with
    | '.' :: tail => (tail.takeWhile isDigit, tail.dropWhile isDigit)
    | _ => ([], rest)
  if whole.isEmpty && fraction.isEmpty then none
  else (Text.readDigits 0 (whole ++ fraction)).map fun n => (n, -(fraction.length : Int), rest)

/-- Take the sign off a numeral. -/
def splitSign : List Char → Bool × List Char
  | '-' :: cs => (true, cs)
  | '+' :: cs => (false, cs)
  | cs => (false, cs)

/-- Read the digits of an exponent after its sign. -/
def readExponent (cs : List Char) : Option Int :=
  let (negative, digits) := splitSign cs
  (Text.readNatural digits).map (withSign negative)

/-- Read an unsigned decimal numeral with an optional exponent as coefficient and exponent. -/
def readScientific (cs : List Char) : Option (Nat × Int) :=
  (readMantissa cs).bind fun (n, e, rest) =>
    match rest with
    | [] => some (n, e)
    | c :: tail =>
      if c == 'e' || c == 'E' then (readExponent tail).map fun k => (n, e + k) else none

/-- Drop the underscores of a numeral; each must stand between two digits. -/
def dropUnderscores (previous : Char) : List Char → Option (List Char)
  | [] => if previous == '_' then none else some []
  | c :: cs =>
    if c == '_' then if isDigit previous then dropUnderscores '_' cs else none
    else if previous == '_' && !isDigit c then none
    else (dropUnderscores c cs).map (c :: ·)

/-- ASCII capitals to small letters, to compare the words that stand for special values. -/
def smallLetters (cs : List Char) : List Char := cs.map Char.toLower

/-- Read the double nearest to a decimal numeral, or the word for an infinity or for what is not a
number. Blanks around it are ignored. -/
def Binary.read (s : String) : Option Binary := do
  let cs ← dropUnderscores ' ' (Text.trimWhile Text.isNumeralBlank s.toList)
  let (negative, cs) := splitSign cs
  let word := smallLetters cs
  if word == "nan".toList then return .nan
  if word == "inf".toList || word == "infinity".toList then return .infinite negative
  let (n, e) ← readScientific cs
  return .ofDecimal double negative n e

end Relational.Number

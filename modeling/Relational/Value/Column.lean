import Relational.Number.Root
import Relational.Text.Table
import Relational.Value.Scalar

/-!
# Columns of a table of values

The values of a column have a common kind, which decides how they are written: numbers with a place
for the sign, floating-point numbers with a common number of decimals, moments with as many parts as
the finest of them needs. The values of a column without a common kind are written one by one, after
a look for those that are not numbers, which a signalling decimal does not survive.
-/

namespace Relational

/-- The common kind of the values of a column. -/
inductive ColumnKind where
  | integer
  | truth
  | real (type : FloatType)
  | complex
  | moment
  | mixed
  deriving DecidableEq, Repr

/-- Kinds of numbers; truth values count as numbers. -/
def ColumnKind.isNumeric : ColumnKind → Bool
  | .integer | .truth | .real _ | .complex => true
  | .moment | .mixed => false

namespace Value

/-- The integer of a cell. -/
def int? : Value → Option Int
  | .int n => some n
  | _ => none

/-- The floating-point number of a cell, and its type. -/
def real? : Value → Option (FloatType × Number.Binary)
  | .float x => some (.float64, x)
  | .fixedFloat type x => some (type, x)
  | _ => none

/-- The parts of the complex number of a cell. -/
def complex? : Value → Option (Number.Binary × Number.Binary)
  | .complex re im => some (re, im)
  | _ => none

/-- The moment of a cell, which may be no time. -/
def moment? : Value → Option (Option Timestamp)
  | .timestamp t => some (some t)
  | .notATime => some none
  | _ => none

/-- Whether a cell is a truth value. -/
def isBool : Value → Bool
  | .bool _ => true
  | _ => false

end Value

/-- Whether integers fit the signed or the unsigned machine word together. -/
def shareWord (ns : List Int) : Bool :=
  ns.all IntegerType.int64.holds || ns.all IntegerType.uint64.holds

/-- The type that some floating-point numbers share. -/
def sharedType? (xs : List (FloatType × Number.Binary)) : Option FloatType :=
  match xs with
  | [] => none
  | (type, _) :: rest => if rest.all (·.1 == type) then some type else none

/-- The common kind of some values. -/
def kindOf (cells : List Value) : ColumnKind :=
  if ((cells.mapM Value.int?).map shareWord).getD false then .integer
  else if cells.all Value.isBool then .truth
  else if let some type := (cells.mapM Value.real?).bind sharedType? then .real type
  else if (cells.mapM Value.complex?).isSome then .complex
  else if (cells.mapM Value.moment?).isSome then .moment
  else .mixed

/-! ### Numbers -/

/-- An integer after its sign or a blank. -/
def signPlace (n : Int) : String :=
  if n < 0 then Text.signedDecimal n else " " ++ Text.signedDecimal n

/-- Whether a text is a number with a point: blanks, a sign, digits, a point and digits. -/
def isPointed (s : String) : Bool :=
  let cs := (Number.splitSign (s.toList.dropWhile (· == ' '))).2
  let rest := cs.dropWhile Char.isDigit
  (cs.head?.map Char.isDigit).getD false && rest.head? == some '.' && (rest.drop 1).all Char.isDigit

/-- The number of zeros at the end of a text. -/
def endingZeros (s : String) : Nat := (s.toList.reverse.takeWhile (· == '0')).length

/-- A text without some characters at its end; a zero stays after a point. -/
def dropEnding (count : Nat) (s : String) : String :=
  let cs := s.toList.take (s.length - count)
  String.ofList (if cs.getLast? == some '.' then cs ++ ['0'] else cs)

/-- Numbers with a point without the zeros with which all of them end. -/
def trimCommonZeros (texts : List String) : List String :=
  let counts := (texts.filter isPointed).map endingZeros
  let common := counts.foldl min (counts.headD 0)
  texts.map fun s => if isPointed s then dropEnding common s else s

/-- The number of decimals in a column. -/
def columnPlaces : Nat := 6

/-- The absolute value of a number. -/
def absolute : Number.Binary → Number.Binary
  | .nan => .nan
  | .infinite _ => .infinite false
  | .finite _ m unit => .finite false m unit

/-- Whether the size of a number is more than a million. -/
def isLarge (x : Number.Binary) : Bool := (Number.Exact.quotient 1000000 1).less (absolute x).exact

/-- A millionth in a floating-point type. -/
def millionth (type : FloatType) : Number.Binary :=
  (Number.Binary.ofDecimal Number.double false 1 (-6)).convert type.format

/-- Whether a number is not zero but less than a millionth in its type. -/
def isSmall (type : FloatType) (x : Number.Binary) : Bool :=
  !x.isZero && (absolute x).exact.less (millionth type).exact

/-- A number by a given form; what is not a number by its word. -/
def orNaN (form : Number.Binary → String) (x : Number.Binary) : String :=
  if x = .nan then "NaN" else form x

/-- Take exponents if some numbers are small, or if some are large and the positional texts are
long. -/
def choosePlacing (large small : Bool) (positional scientific : List String) : List String :=
  if small || (Text.widest positional > columnPlaces + 6 && large) then scientific else positional

/-- The texts of a column of floating-point numbers of a type. -/
def realTexts (type : FloatType) (xs : List Number.Binary) : List String :=
  choosePlacing (xs.any isLarge) (xs.any (isSmall type))
    (trimCommonZeros (xs.map (orNaN (Number.Binary.fixed columnPlaces " "))))
    (xs.map (orNaN (Number.Binary.scientific columnPlaces " ")))

/-- A complex number as text, without the unit at its end. -/
def complexParts (form : String → Number.Binary → String) (z : Number.Binary × Number.Binary) :
    String :=
  orNaN (form " ") z.1 ++ if z.2 = .nan then "+NaN" else form "+" z.2

/-- Whether a character is a sign. -/
def isSign (c : Char) : Bool := c == '+' || c == '-'

/-- Cut a text before its last sign; the sign of an exponent counts, too. -/
def cutAtLastSign (s : String) : String × String :=
  let cs := s.toList.reverse
  let after := cs.takeWhile (!isSign ·)
  (String.ofList (cs.drop (after.length + 1)).reverse,
    String.ofList (cs.take (after.length + 1)).reverse)

/-- Complex numbers as texts. They are cut before their last signs, and what follows the signs is
filled up to a common width. -/
def complexTexts (form : String → Number.Binary → String)
    (zs : List (Number.Binary × Number.Binary)) : List String :=
  let cuts := zs.map fun z => cutAtLastSign (complexParts form z)
  let parts := trimCommonZeros (cuts.map Prod.fst ++ cuts.map Prod.snd)
  let width := Text.widest parts - 1
  List.zipWith
    (fun before after =>
      before ++ String.ofList (after.toList.take 1) ++
        Text.padStart width (String.ofList (after.toList.drop 1)) ++ "j")
    (parts.take zs.length) (parts.drop zs.length)

/-- The texts of a column of complex numbers, which are large or small by their sizes. -/
def complexColumn (zs : List (Number.Binary × Number.Binary)) : List String :=
  let sizes := zs.map fun z => z.1.size z.2
  choosePlacing (sizes.any isLarge) (sizes.any (isSmall .float64))
    (complexTexts (fun plus => Number.Binary.fixed columnPlaces plus) zs)
    (complexTexts (fun plus => Number.Binary.scientific columnPlaces plus) zs)

/-! ### Moments -/

/-- Whether a moment is at midnight. -/
def isMidnight (t : Timestamp) : Bool := t.moment.clock.microseconds == 0 && t.nanosecond == 0

/-- The number of decimals of a second that a moment needs, in groups of three. -/
def secondPlaces (t : Timestamp) : Nat :=
  if t.nanosecond ≠ 0 then 9
  else if t.moment.clock.microsecond % 1000 ≠ 0 then 6
  else if t.moment.clock.microsecond ≠ 0 then 3
  else 0

/-- The day and the time of day with a number of decimals. -/
def momentText (places : Nat) (t : Timestamp) : String :=
  let nanos := Text.paddedDecimal 9 (t.moment.clock.microsecond * 1000 + t.nanosecond)
  t.moment.date.iso ++ " " ++ { t.moment.clock with microsecond := 0 }.iso ++
    (if places = 0 then "" else "." ++ String.ofList (nanos.toList.take places))

/-- The texts of a column of moments: days if all of them are at midnight, and decimals of a second
for the finest of them. Moments with an offset are written one by one, in full. -/
def momentTexts (ts : List (Option Timestamp)) : List String :=
  let given := ts.filterMap id
  let places := (given.map secondPlaces).foldl max 0
  let form : Timestamp → String :=
    if given.any fun t => t.moment.offset.isSome then Timestamp.iso
    else if given.all isMidnight then fun t => t.moment.date.iso
    else momentText places
  ts.map fun t => (t.map form).getD "NaT"

/-! ### Values without a common kind -/

/-- Whether a value is not a number. -/
def Value.isNaN : Value → Bool
  | .float .nan | .fixedFloat _ .nan | .decimal (.nan ..) => true
  | .complex re im => re == .nan || im == .nan
  | _ => false

/-- The text of a value in a column without a common kind, whose own text is `text`. -/
def mixedText (v : Value) (text : String) : String :=
  if v.isNaN then " NaN"
  else
    match v with
    | .float x | .fixedFloat _ x =>
      let s := x.fixed columnPlaces " "
      if isPointed s then dropEnding (endingZeros s) s else s
    | .notATime | .fixedDate .missing => " NaT"
    | _ => " " ++ text

/-- The texts of values without a common kind, each of which may have a text of its own. -/
def mixedTexts (cells : List (Value × Except Error String)) : Except Error (List String) :=
  if cells.any (·.1.isSignaling) then .error (.fault .invalidOperation)
  else cells.mapM fun c => do return mixedText c.1 (← c.2)

/-- The texts of some values of a column of the given kind. -/
def cellTexts (kind : ColumnKind) (cells : List (Value × Except Error String)) :
    Except Error (List String) :=
  let values := cells.map Prod.fst
  match kind with
  | .integer => .ok ((values.filterMap Value.int?).map signPlace)
  | .truth => .ok (values.map fun v => if v.truthy then " True" else " False")
  | .real type => .ok (realTexts type ((values.filterMap Value.real?).map Prod.snd))
  | .complex => .ok (complexColumn (values.filterMap Value.complex?))
  | .moment => .ok (momentTexts (values.filterMap Value.moment?))
  | .mixed => mixedTexts cells

end Relational

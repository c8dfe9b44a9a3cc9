import Relational.Error
import Relational.Number.Shortest
import Relational.Text.Quoted

/-!
# Written forms of scalars

A scalar has a form for display, in which texts are quoted and calendar values name their parts, and
a plain form. Integers with too many digits are not written.
-/

namespace Relational

/-- The form of a label for display. -/
def Label.shown : Label → String
  | .name s => Text.quoted s
  | .position n => Text.signedDecimal n

/-- The plain form of a label. -/
def Label.text : Label → String
  | .name s => s
  | .position n => Text.signedDecimal n

/-- Elements between brackets. -/
def bracketed (opening closing : String) (items : List String) : String :=
  opening ++ Text.joinWith ", " items ++ closing

/-- A floating-point number with the fewest digits that read back. -/
def floatText (x : Number.Binary) : String := x.text Number.double .plain

/-- Integers with more digits than this are not written. -/
def digitLimit : Nat := 4300

/-- Whether an integer has few enough digits to be written. Three bits for each digit are few
enough and four are too many in any case. -/
def isWrittenOut (n : Int) : Bool :=
  n.natAbs.log2 ≤ 3 * digitLimit ||
    (n.natAbs.log2 ≤ 4 * digitLimit && n.natAbs < Nat.pow 10 digitLimit)

/-- An integer that can be written. -/
def integerText (n : Int) : Except Error String :=
  if isWrittenOut n then .ok (Text.signedDecimal n) else .error (.fault .badValue)

/-- A quotient, or an integer if the denominator is one. -/
def fractionText (num : Int) (den : Nat) : Except Error String := do
  let whole ← integerText num
  if den = 1 then return whole
  return whole ++ "/" ++ (← integerText den)

/-- A fraction by its parts. -/
def fractionParts (num : Int) (den : Nat) : Except Error String := do
  return "Fraction(" ++ (← integerText num) ++ ", " ++ (← integerText den) ++ ")"

/-- A part of a complex number, without a fraction of zero. -/
def complexPart (x : Number.Binary) : String := x.text Number.double .bare

/-- Whether a number is a zero without a sign. -/
def isPlainZero : Number.Binary → Bool
  | .finite false 0 _ => true
  | _ => false

/-- A complex number; the real part is left out if it is a zero without a sign. -/
def complexText (re im : Number.Binary) : String :=
  let part := complexPart im
  if isPlainZero re then part ++ "j"
  else "(" ++ complexPart re ++ (if Text.beginsWith "-" part then "" else "+") ++ part ++ "j)"

namespace Value

/-- A written form that a foreign datum must have. -/
def requireForm : Option String → Except Error String
  | some s => .ok s
  | none => .error (.fault .wrongType)

/-- The form of a scalar for display; containers have none. -/
def scalarShown : Value → Except Error String
  | .null => .ok "None"
  | .bool b | .fixedBool b => .ok (if b then "True" else "False")
  | .int n | .fixedInt _ n => integerText n
  | .float x => .ok (floatText x)
  | .decimal d => .ok ("Decimal('" ++ d.text ++ "')")
  | .fraction num den => fractionParts num den
  | .complex re im => .ok (complexText re im)
  | .text s | .fixedText s => .ok (Text.quoted s)
  | .bytes growable data =>
    .ok (if growable then "bytearray(" ++ Text.quotedBuffer data ++ ")" else Text.quotedBytes data)
  | .date d => .ok d.name
  | .datetime t => .ok t.name
  | .time t => .ok t.name
  | .timestamp t => .ok t.name
  | .notATime => .ok "NaT"
  | .fixedFloat type x => .ok (x.text type.format .plain)
  | .fixedDate t => .ok t.name
  | .foreign _ shown _ _ _ => requireForm shown
  | .array _ | .list _ | .tuple _ | .set _ | .record .. | .frame .. => .ok ""

/-- The plain form of a scalar; containers have none. -/
def scalarPlain : Value → Except Error String
  | .text s | .fixedText s => .ok s
  | .decimal d => .ok d.text
  | .fraction num den => fractionText num den
  | .date d => .ok d.iso
  | .datetime t => .ok (t.iso " ")
  | .timestamp t => .ok t.iso
  | .time t => .ok t.iso
  | .fixedDate t => .ok t.iso
  | .foreign _ _ written _ _ => requireForm written
  | v => v.scalarShown

end Value
end Relational

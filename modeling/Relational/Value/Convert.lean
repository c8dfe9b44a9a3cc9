import Relational.Report
import Relational.Value

/-!
# Values as truth values and as integers

Every value counts as true or false, except arrays of several elements and data frames. Numbers, and
texts that are numerals, stand for integers.
-/

namespace Relational

/-- The characters of data in ASCII. -/
def asciiText? (data : List UInt8) : Option String :=
  if data.all (· < 128) then some (String.ofList (data.map fun b => Char.ofNat b.toNat)) else none

namespace Value

/-- Whether a value counts as true. -/
def isTrue : Value → Report Bool
  | .frame .. => throw (.fault .badValue)
  | .array [] => do
    notify .emptyTruth
    return false
  | .array (_ :: _ :: _) => throw (.fault .badValue)
  | v => return v.truthy

/-- The text in which a numeral may stand. Data that is not in ASCII holds none. -/
def numeral? : Value → Option String
  | .bytes _ data => some ((asciiText? data).getD "")
  | v => v.text?

/-- The integer that a number, a numeral or an array of one element stands for. Counted moments are
integers if no calendar value can hold them. -/
def toInteger (v : Value) : Report Int :=
  match v, v.quantity? with
  | .array [n], _ => do
    notify .scalarOfArray
    return n
  | .fixedDate t, _ =>
    match ofTick t with
    | .int n => return n
    | _ => throw (.fault .wrongType)
  | _, some (.infinite _) => throw (.fault .overflow)
  | _, some x =>
    match x.truncate? with
    | some n => return n
    | none => throw (.fault .badValue)
  | v, none =>
    match v.numeral? with
    | none => throw (.fault .wrongType)
    | some s =>
      match Text.readInteger s with
      | some n => return n
      | none => throw (.fault .badValue)

end Value

/-- An integer as a scalar of fixed width. What fits no word is refused; what fits only a word is
reduced to the type with a notice. -/
def IntegerType.convert (type : IntegerType) (n : Int) : Report Value := do
  if type.holds n then return .fixedInt type n
  if !int64.holds n then throw (.fault .overflow)
  notify (.wrappedInteger n type)
  return .fixedInt type (type.wrap n)

/-- A double as a scalar of fixed width. A number that overflows on the way is noticed. -/
def FloatType.convert (type : FloatType) (x : Number.Binary) : Report Value := do
  match x, x.convert type.format with
  | .finite .., .infinite negative =>
    notify .narrowedOverflow
    return .fixedFloat type (.infinite negative)
  | _, y => return .fixedFloat type y

/-- A text as a counted moment of fixed width. -/
def Tick.ofText (s : String) : Report Value := do
  let reading := Tick.read s
  if reading.zoned then notify .zonedTick
  match reading.tick with
  | some t => return .fixedDate t
  | none => throw (.fault .badValue)

end Relational

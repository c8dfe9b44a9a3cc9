import Relational.Header
import Relational.Record
import Relational.Report
import Relational.Sql
import Relational.Value.Show

/-!
# Literals and tuple conditions

The type of an attribute decides how a value is compared with it: as text for string attributes, as
a number for all others. Records become conjunctions of comparisons, several records a disjunction
of them.
-/

namespace Relational

/-- The standard form of a calendar value; other values have none. -/
def Value.iso? : Value → Option String
  | .date d => some d.iso
  | .datetime t => some (t.iso " ")
  | .timestamp t => some t.iso
  | .time t => some t.iso
  | .notATime => some "NaT"
  | _ => none

/-- The double nearest to a fraction, written with the fewest digits that read back. -/
def doubleText (num : Int) (den : Nat) : Except Error String :=
  match Number.Binary.ofFraction? num den with
  | some b => .ok (floatText b)
  | none => .error (.fault .overflow)

/-- Refuse a value that is not of the expected sort. -/
def Value.refuseLiteral {α : Type} (a : Attribute) (expected : String) (v : Value) :
    Except Error α := do
  throw (.nonScalarLiteral a.outputName (← v.shown) expected)

/-- The literal to compare an attribute with. -/
def Value.literal (a : Attribute) (v : Value) : Except Error Sql.Literal :=
  match a.type with
  | .blob => .error (.blobInRestriction a.outputName)
  | .string =>
    match v.iso?, v.text? with
    | some s, _ => .ok (.text s)
    | none, some s => .ok (.text s)
    | none, none => v.refuseLiteral a "string"
  | _ =>
    match v with
    | .bool b | .fixedBool b => .ok (.number (if b then "1" else "0"))
    | .int n | .fixedInt _ n => .ok (.number (Text.signedDecimal n))
    | .decimal d => .ok (.number d.text)
    | .float x => .ok (.number (floatText x))
    | .fixedFloat _ x => .ok (.number (floatText (x.convert Number.double)))
    | .fraction num den => (doubleText num den).map .number
    | v => v.refuseLiteral a "numeric or boolean scalar"

/-- The comparison of one field. A missing value is compared by `IS NULL`, except with a blob. -/
def encodeEntry (h : Header) (e : Label × Value) : Except Error Sql.Cond := do
  let (field, a) ← h.getLabel e.1
  match e.2, a.isBlob with
  | .null, false => return .isNull field
  | v, _ => return .equal field (← v.literal a)

/-- The comparisons of all fields of a record. -/
def encodeRecord (h : Header) (r : Record) : Except Error Sql.Cond := do
  match ← r.entries.mapM (encodeEntry h) with
  | [] => return .constant true
  | cs => return .conj cs

/-- More records than this are reported. -/
def longRestriction : Nat := 512

/-- The comparisons of one record, or the alternatives of several. -/
def encodeRecords (h : Header) : List Record → Except Error Sql.Cond
  | [] => .error .noRecords
  | [r] => encodeRecord h r
  | rs => do return .disj (← rs.mapM (encodeRecord h))

/-- The condition that accepts the tuples matching one of the records. Many records are reported. -/
def encodeTuples (h : Header) (records : List Record) : Report Sql.Cond := do
  if records.length > longRestriction then notify (.longRestriction records.length)
  encodeRecords h records

end Relational

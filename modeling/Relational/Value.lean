import Relational.Calendar.Tick
import Relational.Digest

/-!
# Values

The data that records hold and conditions are made of: scalars of several kinds, containers, and
tables of data. A label names a field of a record, or gives its position.
-/

namespace Relational

/-- The label of a field: a name or a position. -/
inductive Label where
  | name (s : String)
  | position (n : Int)
  deriving DecidableEq, Repr

/-- Integer types of a fixed width. -/
inductive IntegerType where
  | int8
  | int64
  | uint8
  | uint64
  deriving DecidableEq, Repr

/-- Floating-point types of a fixed width. -/
inductive FloatType where
  | float16
  | float32
  | float64
  deriving DecidableEq, Repr

/-- The binary format of a floating-point type. -/
def FloatType.format : FloatType → Number.BinaryFormat
  | .float16 => Number.half
  | .float32 => Number.single
  | .float64 => Number.double

/-- The least and the greatest integer of a type. -/
def IntegerType.range : IntegerType → Int × Int
  | .int8 => (-128, 127)
  | .int64 => (-9223372036854775808, 9223372036854775807)
  | .uint8 => (0, 255)
  | .uint64 => (0, 18446744073709551615)

/-- Whether an integer belongs to a type. -/
def IntegerType.holds (type : IntegerType) (n : Int) : Bool :=
  type.range.1 ≤ n && n ≤ type.range.2

/-- The integer of a type with the same low bits. -/
def IntegerType.wrap (type : IntegerType) (n : Int) : Int :=
  let (least, greatest) := type.range
  least + (n - least) % (greatest - least + 1)

/-- The name of an integer type. -/
def IntegerType.name : IntegerType → String
  | .int8 => "int8"
  | .int64 => "int64"
  | .uint8 => "uint8"
  | .uint64 => "uint64"

/-- The integer type with the given name. -/
def IntegerType.ofName? (s : String) : Option IntegerType :=
  [int8, int64, uint8, uint64].find? (·.name == s)

/-- The name of a floating-point type. -/
def FloatType.name : FloatType → String
  | .float16 => "float16"
  | .float32 => "float32"
  | .float64 => "float64"

/-- The floating-point type with the given name. -/
def FloatType.ofName? (s : String) : Option FloatType :=
  [float16, float32, float64].find? (·.name == s)

/-- The bytes that an integer type takes. -/
def IntegerType.width : IntegerType → Nat
  | .int8 | .uint8 => 1
  | .int64 | .uint64 => 8

/-- Whether an integer type has negative numbers. -/
def IntegerType.isSigned : IntegerType → Bool
  | .int8 | .int64 => true
  | .uint8 | .uint64 => false

/-- The bytes that a floating-point type takes. -/
def FloatType.width : FloatType → Nat
  | .float16 => 2
  | .float32 => 4
  | .float64 => 8

/-- The wider of two floating-point types. -/
def FloatType.wider (s t : FloatType) : FloatType := if s.width < t.width then t else s

/-- A datum. Scalars of fixed width are told apart from plain ones. A `foreign` datum stands for
something outside the data: it is known by its kind, its two written forms where it has them, the
parts that decide whether two of them are equal, and its digest. -/
inductive Value where
  | null
  | bool (b : Bool)
  | int (n : Int)
  | float (x : Number.Binary)
  | decimal (d : Number.Decimal)
  | fraction (num : Int) (den : Nat)
  | complex (re im : Number.Binary)
  | text (s : String)
  | bytes (growable : Bool) (data : List UInt8)
  | date (d : Date)
  | datetime (t : DateTime)
  | time (t : ZonedTime)
  | timestamp (t : Timestamp)
  | notATime
  | fixedInt (type : IntegerType) (n : Int)
  | fixedBool (b : Bool)
  | fixedFloat (type : FloatType) (x : Number.Binary)
  | fixedText (s : String)
  | fixedDate (t : Tick)
  | array (ns : List Int)
  | list (vs : List Value)
  | tuple (vs : List Value)
  | set (vs : List Value)
  | record (frozen : Bool) (entries : List (Label × Value))
  | frame (columns : List Label) (rows : List (List Value))
  | foreign (kind : String) (shown text : Option String) (parts : List Value) (digest : Digest)

namespace Value

/-- The text of a textual datum. -/
def text? : Value → Option String
  | .text s | .fixedText s => some s
  | _ => none

/-- The integer that an integral datum stands for; truth values count as integers. -/
def integral? : Value → Option Int
  | .int n | .fixedInt _ n => some n
  | .bool b => some (if b then 1 else 0)
  | _ => none

/-- The exact value of a real number of any kind. -/
def quantity? : Value → Option Number.Exact
  | .bool b | .fixedBool b => some (.quotient (if b then 1 else 0) 1)
  | .int n | .fixedInt _ n => some (.quotient n 1)
  | .float x | .fixedFloat _ x => some x.exact
  | .decimal d => some d.exact
  | .fraction n d => some (.quotient n d)
  | _ => none

/-- Whether a datum is a decimal that signals when it is used. -/
def isSignaling : Value → Bool
  | .decimal (.nan _ true _) => true
  | _ => false

/-- What a counted moment is among other things: a day, a moment, or the number of its units if
those are too fine for either or the year has no four digits. -/
def ofTick (t : Tick) : Value :=
  match t, t.timestamp? with
  | .missing, _ => .null
  | .counted _ count, none => .int count
  | .counted unit count, some s =>
    if unit.isFine then .int count
    else if unit.length?.isNone || unit = .day then .date s.moment.date
    else .datetime s.moment

/-- The label of a field as a datum. -/
def ofLabel : Label → Value
  | .name s => .text s
  | .position n => .int n

/-- Whether a datum counts as true: numbers other than zero and containers that are not empty. -/
def truthy : Value → Bool
  | .null => false
  | .text s | .fixedText s => s != ""
  | .bytes _ data => !data.isEmpty
  | .list vs | .tuple vs | .set vs => !vs.isEmpty
  | .record _ entries => !entries.isEmpty
  | .array ns => ns.any (· != 0)
  | .complex re im => !(re.isZero && im.isZero)
  | .fixedDate t => t.word != 0
  | .foreign "TupleSet" _ _ (.tuple [] :: _) _ => false
  | v => (v.quantity?.map fun x => !x.isZero).getD true

end Value
end Relational

import Relational.Record
import Relational.Value.Table

/-!
# Data frames

A data frame is a table of values with labelled columns. Each column takes a common type where its
values allow one: numbers with gaps become floating-point numbers, numbers with complex ones among
them become complex, and moments become timestamps. All other columns keep their values.
-/

namespace Relational

/-- A table of values: each row has a value for every column. -/
structure Frame where
  columns : List Label
  rows : List (List Value)

/-! ### Columns of numbers -/

/-- What has been seen in a column of numbers. -/
structure ColumnScan where
  gap : Bool := false
  nan : Bool := false
  truth : Bool := false
  real : Bool := false
  integer : Bool := false
  complex : Bool := false
  signed : Bool := false
  unsigned : Bool := false

namespace ColumnScan

/-- Go on with an integer, which may have a type. Up to the first gap the integers seen must share a
machine word: negative ones and those of signed types do not go with large ones and those of
unsigned types. -/
def addInteger (s : ColumnScan) (type : Option IntegerType) (n : Int) : Option ColumnScan :=
  let s := { s with integer := true }
  if s.gap then some s
  else
    let s := { s with
      signed := s.signed || n < 0 || type.any IntegerType.isSigned
      unsigned := s.unsigned || !IntegerType.int64.holds n || type.any (!·.isSigned) }
    let fits := IntegerType.int64.holds n || IntegerType.uint64.holds n
    if (s.signed && s.unsigned) || !fits then none else some s

/-- Go on with a value; none if it is no number. -/
def add (s : ColumnScan) : Value → Option ColumnScan
  | .null => some { s with gap := true }
  | .float .nan | .fixedFloat _ .nan => some { s with nan := true }
  | .float _ | .fixedFloat .. => some { s with real := true }
  | .bool _ | .fixedBool _ => some { s with truth := true }
  | .int n => s.addInteger none n
  | .fixedInt type n => s.addInteger (some type) n
  | .complex .. => some { s with complex := true }
  | _ => none

/-- Whether there are numbers or gaps beside truth values. -/
def besideTruth (s : ColumnScan) : Bool :=
  s.gap || s.nan || s.real || s.integer || s.complex

end ColumnScan

namespace Value

/-- The floating-point number of a cell; a gap is not a number. -/
def cellFloat : Value → Number.Binary
  | .float x => x
  | .fixedFloat _ x => x.convert Number.double
  | .int n | .fixedInt _ n => .ofInt n
  | _ => .nan

/-- The complex number with the given parts, as the sum of the first and a multiple of the imaginary
unit: the real part is lost if the other one is not finite, and a zero keeps its sign only beside a
negative part. -/
def ofParts (re im : Number.Binary) : Value :=
  match re, im with
  | .finite negative 0 unit, .finite negative' .. =>
    .complex (.finite (negative && negative') 0 unit) im
  | re, .finite .. => .complex re im
  | _, im => .complex .nan im

/-- The complex number of a cell. -/
def cellComplex : Value → Value
  | .complex re im => ofParts re im
  | v => ofParts v.cellFloat (.ofInt 0)

/-- The bytes of a number of fixed width. -/
def width? : Value → Option Nat
  | .fixedInt type _ => some type.width
  | .fixedFloat type _ => some type.width
  | _ => none

/-- A number on its own: scalars of fixed width become plain ones. -/
def plainNumber : Value → Value
  | .fixedFloat _ x => .float (x.convert Number.double)
  | .fixedInt _ n => .int n
  | .fixedBool b => .bool b
  | v => v

/-- The value of a cell on its own: scalars of fixed width become plain ones and counted moments
timestamps. A year without four digits has no timestamp. -/
def unboxed : Value → Except Error Value
  | .fixedDate .missing => .ok .notATime
  | .fixedDate t =>
    match t.timestamp? with
    | some s => .ok (.timestamp s)
    | none => .error (.fault .badValue)
  | v => .ok v.plainNumber

/-- The moment of a cell; a gap is no time. -/
def cellTimestamp? : Value → Option Value
  | .null | .notATime | .float .nan | .fixedFloat _ .nan | .fixedDate .missing => some .notATime
  | .datetime t => some (.timestamp { moment := t })
  | .timestamp t => some (.timestamp t)
  | .fixedDate t => t.timestamp?.map .timestamp
  | _ => none

/-- Whether a cell is a gap. -/
def isNull : Value → Bool
  | .null => true
  | _ => false

/-- Whether an integer lies beyond all doubles. -/
def exceedsDoubles : Value → Bool
  | .int n => (Number.Binary.ofFraction? n 1).isNone
  | _ => false

end Value

/-- The floating-point type that takes at least the given number of bytes. -/
def FloatType.ofWidth (width : Nat) : FloatType :=
  if width ≤ 2 then .float16 else if width ≤ 4 then .float32 else .float64

/-- The type of a column of floating-point numbers: doubles, unless all of the numbers are of a
fixed width and the widest of them takes less. -/
def columnType (column : List Value) : FloatType :=
  match column.mapM Value.width? with
  | some widths => .ofWidth (widths.foldl max 0)
  | none => .float64

/-- A cell of a column of floating-point numbers. -/
def FloatType.cell (type : FloatType) (x : Number.Binary) : Value :=
  if type = .float64 then .float x else .fixedFloat type (x.convert type.format)

/-- The values of a column of numbers in their common type, if they have one. -/
def convertNumbers? (column : List Value) : Option (List Value) := do
  let s ← column.foldlM ColumnScan.add {}
  if s.truth then
    if s.besideTruth then none else some (column.map Value.plainNumber)
  else if s.complex then some (column.map Value.cellComplex)
  else if s.real || s.nan || (s.gap && s.integer) then
    some (column.map fun v => (columnType column).cell v.cellFloat)
  else if s.integer then some (column.map Value.plainNumber)
  else none

/-- The integers that are looked at before the type of a column is known: all up to the first value
that is no number. -/
def scanned (column : List Value) (s : ColumnScan) : List Value :=
  match column with
  | [] => []
  | v :: rest =>
    match s.add v with
    | some s => v :: scanned rest s
    | none => [v]

/-! ### Columns of moments -/

/-- Whether the moments of a column can be timestamps together: their offsets from universal time
agree, and all of them are in range. -/
def shareTimestamps (ts : List Value) : Bool :=
  let given := ts.filterMap fun v =>
    match v with
    | .timestamp t => some t
    | _ => none
  given.all Timestamp.fits &&
    match given with
    | [] => true
    | t :: rest => rest.all (·.moment.offset == t.moment.offset)

/-- The values of a column of moments as timestamps, if they can be. -/
def convertMoments? (column : List Value) : Option (List Value) := do
  let ts ← column.mapM Value.cellTimestamp?
  if shareTimestamps ts && !column.all Value.isNull then some ts else none

/-- Convert the values of a column to a common type, where there is one. An integer beyond all
doubles stops the conversion when it is looked at. -/
def convertColumn (column : List Value) : Except Error (List Value) :=
  if (scanned column {}).any Value.exceedsDoubles then .error (.fault .overflow)
  else .ok ((convertNumbers? column).getD ((convertMoments? column).getD column))

/-! ### Frames -/

namespace Frame

/-- Fill a row with gaps up to the given length. -/
def fillRow (width : Nat) (row : List Value) : List Value :=
  row ++ List.replicate (width - row.length) .null

/-- The frame with the given rows, its columns converted. Short rows are filled with gaps; the
longest row has a value for every column. -/
def ofRows (columns : List Label) (rows : List (List Value)) : Except Error Frame := do
  let width := (rows.map List.length).foldl max 0
  if !rows.isEmpty && width ≠ columns.length then throw (.fault .badValue)
  let converted ← (columnsOf width (rows.map (fillRow width))).mapM convertColumn
  return ⟨columns, columnsOf rows.length converted⟩

/-- The frame of records over some columns. A value that a record lacks is not a number. -/
def ofRecords (columns : List Label) (records : List Record) : Except Error Frame :=
  ofRows columns (records.map fun r => columns.map fun k => (r.get? k).getD (.float .nan))

/-- The rows as records, without scalars of fixed width. Of columns with the same label the last one
counts; without columns there are no records. -/
def records (f : Frame) : Except Error (List Record) := do
  if f.columns.isEmpty then return []
  f.rows.mapM fun row => do return .ofEntries (f.columns.zip (← row.mapM Value.unboxed))

/-- The rows, with floating-point columns of all widths as plain numbers. -/
def values (f : Frame) : List (List Value) :=
  columnsOf f.rows.length ((columnsOf f.columns.length f.rows).map fun column =>
    match kindOf column with
    | .real _ => column.map Value.plainNumber
    | _ => column)

/-- Whether some label occurs twice. -/
def hasRepeatedColumns (f : Frame) : Bool := !decide f.columns.Nodup

/-- Some columns of a frame, in the order given. -/
def select (f : Frame) (columns : List Label) : Frame :=
  ⟨columns, f.rows.map fun row => columns.filterMap fun k => (f.columns.zip row).lookup k⟩

/-- A frame as a value. -/
def toValue (f : Frame) : Value := .frame f.columns f.rows

end Frame
end Relational

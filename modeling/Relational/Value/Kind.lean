import Relational.Value

/-!
# Kinds of values

Every value has a kind with a name. The full name of a kind begins with the library that defines it,
unless it is built in.
-/

namespace Relational.Value

/-- The name of a value's kind. -/
def kind : Value → String
  | .null => "NoneType"
  | .bool _ => "bool"
  | .int _ => "int"
  | .float _ => "float"
  | .decimal _ => "Decimal"
  | .fraction .. => "Fraction"
  | .complex .. => "complex"
  | .text _ => "str"
  | .bytes growable _ => if growable then "bytearray" else "bytes"
  | .date _ => "date"
  | .datetime _ => "datetime"
  | .time _ => "time"
  | .timestamp _ => "Timestamp"
  | .notATime => "NaTType"
  | .fixedInt type _ => type.name
  | .fixedBool _ => "bool_"
  | .fixedFloat type _ => type.name
  | .fixedText _ => "str_"
  | .fixedDate _ => "datetime64"
  | .array _ => "ndarray"
  | .list _ => "list"
  | .tuple _ => "tuple"
  | .set _ => "set"
  | .record frozen _ => if frozen then "frozendict" else "dict"
  | .frame .. => "DataFrame"
  | .foreign kind .. => kind

/-- What stands before the name of a kind that belongs to expressions and queries. -/
def foreignPath : String → String
  | "TableReference" => "relational.core."
  | "Relvar" => "relational.query."
  | "Table" | "Projection" | "Aggregation" | "NaturalJoin" | "Union" | "Negation" =>
    "relational.tree."
  | _ => "relational.restriction."

/-- What stands before the name of a kind in its full name. -/
def kindPath : Value → String
  | .decimal _ => "decimal."
  | .fraction .. => "fractions."
  | .date _ | .datetime _ | .time _ => "datetime."
  | .fixedInt .. | .fixedBool _ | .fixedFloat .. => "numpy."
  | .fixedText _ | .fixedDate _ | .array _ => "numpy."
  | .frame .. => "pandas.core.frame."
  | .record true _ => "relational.utility."
  | .foreign kind .. => foreignPath kind
  | _ => ""

/-- The full name of a value's kind. -/
def fullKind (v : Value) : String := v.kindPath ++ v.kind

end Relational.Value

import Relational.Identifier
import Relational.Text.Blank

/-!
# References to tables

A table reference names a physical table, qualified by its schema unless it lies in the schema of
the connection. References are ordered by schema first.
-/

namespace Relational

/-- A physical table: its non-empty name, and its schema or the empty text. -/
structure TableRef where
  name : String
  schema : String
  name_ne : name ≠ ""
  deriving DecidableEq

namespace TableRef

/-- The reference with the given name and schema, provided that the name is not empty. -/
def make? (name schema : String) : Option TableRef :=
  if h : name = "" then none else some ⟨name, schema, h⟩

theorem make?_eq_none_iff {name schema : String} : make? name schema = none ↔ name = "" := by
  unfold make?; split <;> simp_all

@[simp] theorem make?_self (t : TableRef) : make? t.name t.schema = some t := by
  simp [make?, t.name_ne]

/-- Cut a text at its first dot. -/
def cutAtDot (cs : List Char) : List Char × Option (List Char) :=
  match cs.span (· ≠ '.') with
  | (before, []) => (before, none)
  | (before, _ :: after) => (before, some after)

/-- One part of a written reference, without blanks and then backticks around it. -/
def bare (cs : List Char) : String :=
  String.ofList (Text.trimWhile (· == backtick) (Text.trim cs))

/-- Read a name that may be qualified by a schema. An explicit schema takes precedence. -/
def parse? (text : String) (schema : Option String) : Option TableRef :=
  match cutAtDot text.toList with
  | (name, none) => make? (bare name) (schema.getD "")
  | (qualifier, some name) => make? (bare name) (schema.getD (bare qualifier))

/-- The name after its schema and a dot, without quotes. -/
def qualifiedName (t : TableRef) : String :=
  if t.schema = "" then t.name else t.schema ++ "." ++ t.name

/-- The qualified name with each part quoted. -/
def sql (t : TableRef) : String :=
  if t.schema = "" then quote t.name else quote t.schema ++ "." ++ quote t.name

/-- The form that names the parts of a reference. -/
def shown (t : TableRef) : String :=
  "TableReference(full_name='" ++ t.name ++ "', schema='" ++ t.schema ++ "')"

/-- References are ordered by schema and then by name. -/
def before (a b : TableRef) : Bool :=
  a.schema < b.schema || (a.schema == b.schema && a.name < b.name)

/-- References in ascending order, equal ones in the order given. -/
def sorted (ts : List TableRef) : List TableRef := ts.mergeSort fun a b => !b.before a

/-- The different references of a list, at their first places. -/
def distinct : List TableRef → List TableRef
  | [] => []
  | t :: ts => t :: (distinct ts).filter (· ≠ t)

end TableRef
end Relational

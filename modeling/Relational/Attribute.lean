import Relational.Identifier
import Relational.Text.Blank
import Relational.Text.Case
import Relational.Value

/-!
# Attributes

An attribute is a column of a relation. A renamed attribute keeps the name it has in its source and
carries its new name as an alias; a computed one carries an expression and the alias under which it
appears. Enclosing a relation in a subquery turns aliases into names.
-/

namespace Relational

/-- The coarse class of a column type, which decides how values are written. -/
inductive ColumnType where
  | string
  | numeric
  | blob
  | computed
  | other
  deriving DecidableEq, Repr

namespace ColumnType

/-- Words that begin a numeric column type. -/
def numericWords : List String :=
  ["", "tiny", "small", "medium", "big"].flatMap (fun size => [size ++ "int", size ++ "integer"]) ++
    ["decimal", "numeric", "double", "float", "real", "bit", "bool", "boolean"]

/-- Words that begin a column type whose values are written as text. -/
def stringWords : List String :=
  ["char", "varchar", "enum", "set", "date", "time", "datetime", "timestamp", "year",
    "text", "tinytext", "mediumtext", "longtext"]

/-- Words that begin a column type of binary data. -/
def blobWords : List String :=
  ["blob", "tinyblob", "mediumblob", "longblob", "binary", "varbinary"]

/-- Classify a column type as reported by the database by its first word, in any case. -/
def ofSql (sqlType : String) : ColumnType :=
  let word := String.ofList ((Text.lower (Text.strip sqlType)).toList.takeWhile Text.isWord)
  if word ∈ numericWords then .numeric
  else if word ∈ stringWords then .string
  else if word ∈ blobWords then .blob
  else .other

/-- Types with a definite meaning; the others agree with every type. -/
def isKnown : ColumnType → Bool
  | .string | .numeric | .blob => true
  | .computed | .other => false

/-- The lower-case name of a type. -/
def name : ColumnType → String
  | .string => "string"
  | .numeric => "numeric"
  | .blob => "blob"
  | .computed => "computed"
  | .other => "other"

/-- The type with the given lower-case name. -/
def ofName? (s : String) : Option ColumnType :=
  [string, numeric, blob, computed, other].find? (·.name == s)

/-- The type of a column: the one given, or else the one that its SQL type has. -/
def choose (given : Option ColumnType) (sqlType : String) : ColumnType :=
  given.getD (ofSql sqlType)

/-- The name of a type in messages. -/
def title : ColumnType → String
  | .string => "AttributeType.String"
  | .numeric => "AttributeType.Numeric"
  | .blob => "AttributeType.Blob"
  | .computed => "AttributeType.Computed"
  | .other => "AttributeType.Other"

end ColumnType

/-- A column of a relation. `name` is its name in the source, `aliasName` its name in the output
unless empty, `expression` what computes it if it is no column of the source. A server may describe
a column by data of any kind: `comment` is kept as it is, and `givenName` holds a name that is no
text. -/
structure Attribute where
  name : String
  type : ColumnType
  sqlType : String := ""
  isKey : Bool := false
  nullable : Bool := false
  default : Option String := none
  comment : Value := .text ""
  aliasName : String := ""
  expression : Option String := none
  autoIncrement : Bool := false
  givenName : Option Value := none

namespace Attribute

/-- An attribute computed by an expression under the given name. -/
def compute (expression aliasName : String) : Attribute where
  name := expression
  type := .computed
  sqlType := "<sql_computed>"
  aliasName := aliasName
  expression := some expression

/-- The name under which an attribute is visible. -/
def outputName (a : Attribute) : String := if a.aliasName = "" then a.name else a.aliasName

/-- Whether an attribute still has to be enclosed to be a plain column. -/
def isAliased (a : Attribute) : Bool := a.aliasName != ""

/-- Whether an expression computes the attribute. -/
def isComputed (a : Attribute) : Bool := a.expression.isSome

/-- Whether the attribute holds binary data. -/
def isBlob (a : Attribute) : Bool := a.type == .blob

/-- Turn an aliased attribute into a plain column with the name of its alias. -/
def resolve (a : Attribute) : Attribute :=
  if a.aliasName = "" then a
  else { a with name := a.aliasName, aliasName := "", expression := none, givenName := none }

@[simp] theorem outputName_resolve (a : Attribute) : a.resolve.outputName = a.outputName := by
  unfold resolve outputName; split <;> simp_all

@[simp] theorem isKey_resolve (a : Attribute) : a.resolve.isKey = a.isKey := by
  unfold resolve; split <;> rfl

@[simp] theorem type_resolve (a : Attribute) : a.resolve.type = a.type := by
  unfold resolve; split <;> rfl

@[simp] theorem aliasName_resolve (a : Attribute) : a.resolve.aliasName = "" := by
  unfold resolve; split <;> simp_all

end Attribute
end Relational

import Relational.TableRef
import Relational.Attribute

/-!
# Statements as syntax trees

What follows the word `FROM` is a fragment: a table, an aliased subquery, a natural join, and either
of these with a `WHERE` or a `GROUP BY` clause. Conditions are trees too; only what the user wrote
as SQL is opaque text.
-/

namespace Relational.Sql

/-- A literal: text between quotes, or the digits of a number. -/
inductive Literal where
  | text (s : String)
  | number (digits : String)
  deriving DecidableEq, Repr

/-- An item of a select list. -/
inductive Column where
  | name (name : String)
  | renamed (name aliasName : String)
  | computed (expression aliasName : String)
  deriving DecidableEq, Repr

/-- The name of a column in the result. -/
def Column.outputName : Column → String
  | .name source => source
  | .renamed _ aliasName => aliasName
  | .computed _ aliasName => aliasName

mutual

/-- What follows the word `FROM`. -/
inductive Fragment where
  | table (table : TableRef)
  | derived (columns : List Column) (source : Fragment) (aliasName : String)
  | join (left right : Fragment)
  | filter (source : Fragment) (condition : Cond)
  | group (source : Fragment) (columns : List String)

/-- A condition. Alternatives are parenthesised one by one; `within` compares a row of columns with
the rows of a subquery over the same columns. -/
inductive Cond where
  | raw (text : String)
  | constant (b : Bool)
  | isNull (field : String)
  | equal (field : String) (literal : Literal)
  | conj (cs : List Cond)
  | disj (cs : List Cond)
  | paren (c : Cond)
  | not (c : Cond)
  | within (columns : List String) (negated : Bool) (source : Fragment)

end

/-- Whether a fragment ends with a `WHERE` clause. -/
def Fragment.isFiltered : Fragment → Bool
  | .filter .. => true
  | _ => false

/-- A complete statement: a select list, a fragment, and clauses appended as they stand. -/
structure Statement where
  columns : List Column
  source : Fragment
  suffix : String := ""

/-- The item that selects an attribute. -/
def Column.ofAttribute (a : Attribute) : Column :=
  match a.expression with
  | some expression => .computed expression a.aliasName
  | none => if a.aliasName = "" then .name a.name else .renamed a.name a.aliasName

end Relational.Sql

import Relational.Sql
import Relational.Text.Blank

/-!
# Rendering of statements

The text of a statement is determined by its tree. Quotes and backslashes inside literals are
written twice, so that no literal can end early.
-/

namespace Relational.Sql

/-- The single quote around text. -/
def apostrophe : Char := '\x27'

/-- The escape character of text. -/
def backslash : Char := '\x5c'

/-- Text as it stands between single quotes: quotes and backslashes are written twice. -/
def escapeChars (cs : List Char) : List Char := doubled backslash (doubled apostrophe cs)

/-- Text as it stands between single quotes. -/
def escape (s : String) : String := String.ofList (escapeChars s.toList)

/-- The text of a literal. -/
def Literal.render : Literal → String
  | .text s => "'" ++ escape s ++ "'"
  | .number digits => digits

/-- The text of an item of a select list. -/
def Column.render : Column → String
  | .name source => quote source
  | .renamed source aliasName => quote source ++ " AS " ++ quote aliasName
  | .computed expression aliasName => expression ++ " AS " ++ quote aliasName

/-- The text of a select list. -/
def selectList (columns : List Column) : String := Text.joinWith "," (columns.map Column.render)

/-- Quoted names with commas between them. -/
def nameList (names : List String) : String := Text.joinWith "," (names.map quote)

mutual

/-- The text of a fragment. -/
def Fragment.render : Fragment → String
  | .table table => table.sql
  | .derived columns source aliasName =>
    "(SELECT " ++ selectList columns ++ " FROM " ++ source.render ++ ") AS " ++ quote aliasName
  | .join left right => left.render ++ " NATURAL JOIN " ++ right.render
  | .filter source condition => source.render ++ " WHERE " ++ condition.render
  | .group source columns => source.render ++ " GROUP BY " ++ nameList columns
termination_by structural f => f

/-- The text of a condition. -/
def Cond.render : Cond → String
  | .raw text => text
  | .constant b => if b then "TRUE" else "FALSE"
  | .isNull field => quote field ++ " IS NULL"
  | .equal field literal => quote field ++ "=" ++ literal.render
  | .conj cs => Text.joinWith " AND " (renderAll cs)
  | .disj cs => Text.joinWith " OR " ((renderAll cs).map fun s => "(" ++ s ++ ")")
  | .paren c => "(" ++ c.render ++ ")"
  | .not c => "NOT (" ++ c.render ++ ")"
  | .within columns negated source =>
    "((" ++ nameList columns ++ ") " ++ (if negated then "NOT " else "") ++ "IN (SELECT " ++
      nameList columns ++ " FROM " ++ source.render ++ "))"
termination_by structural c => c

/-- The texts of several conditions. -/
def renderAll : List Cond → List String
  | [] => []
  | c :: cs => c.render :: renderAll cs
termination_by structural cs => cs

end

/-- A condition or nothing, as text. -/
def renderClause (c : Option Cond) : String := (c.map Cond.render).getD ""

/-- The text of a statement. The suffix follows after a blank unless it is blank itself. -/
def Statement.render (s : Statement) : String :=
  let body := "SELECT " ++ selectList s.columns ++ " FROM " ++ s.source.render
  let suffix := Text.strip s.suffix
  if suffix = "" then body else body ++ " " ++ suffix

end Relational.Sql

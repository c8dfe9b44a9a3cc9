import Relational.Header
import Relational.Value.Show

/-!
# Descriptions of headers

A header is described by one line for each attribute, the key first. It is also shown in a form that
lists every field of every attribute.
-/

namespace Relational

/-- Default values that are written without quotes whatever the type. -/
def constantDefaults : List String :=
  ["CURRENT_TIMESTAMP", "CURRENT_DATE", "CURRENT_TIME", "NOW()", "NULL"]

namespace Attribute

/-- The default value as it is described, after an equality sign. -/
def describedDefault (a : Attribute) : String :=
  if a.nullable then "=null"
  else
    match a.default with
    | none | some "" => ""
    | some value =>
      if a.type == .numeric || constantDefaults.any (Text.upperIs · value) then "=" ++ value
      else "=\"" ++ value ++ "\""

/-- The column type, with a mark if the database fills the column itself. -/
def describedType (a : Attribute) : String :=
  a.sqlType ++ (if a.autoIncrement then " AUTO_INCREMENT" else "")

/-- The line that describes a key attribute. -/
def keyLine (a : Attribute) : Except Error String := do
  return Text.stripEnd (Text.padEnd 40 (Text.padEnd 16 a.outputName ++ ": " ++ a.describedType) ++
    " # " ++ (← a.comment.formatted))

/-- The line that describes an attribute outside the key. -/
def dependentLine (a : Attribute) : Except Error String := do
  return Text.stripEnd (Text.padEnd 60 (Text.padEnd 28 (a.outputName ++ a.describedDefault) ++
    ": " ++ a.describedType) ++ "# " ++ (← a.comment.formatted))

/-- The line that describes an attribute. -/
def descriptionLine (a : Attribute) : Except Error String :=
  if a.isKey then a.keyLine else a.dependentLine

/-- The words for truth values. -/
def truthWord (b : Bool) : String := if b then "True" else "False"

/-- Optional text, shown in quotes. -/
def optionalText : Option String → String
  | none => "None"
  | some s => Text.quoted s

/-- All fields of an attribute. -/
def shown (a : Attribute) : Except Error String := do
  return "Attribute(name=" ++ Text.quoted a.name ++ ", type=<" ++ a.type.title ++ ": " ++
    Text.quoted a.type.name ++ ">, sql_type=" ++ Text.quoted a.sqlType ++ ", is_key=" ++
    truthWord a.isKey ++ ", nullable=" ++ truthWord a.nullable ++ ", default=" ++
    optionalText a.default ++ ", comment=" ++ (← a.comment.shown) ++ ", alias=" ++
    Text.quoted a.aliasName ++ ", expression=" ++ optionalText a.expression ++
    ", auto_increment=" ++ truthWord a.autoIncrement ++ ")"

end Attribute

namespace Header

/-- The lines of the key attributes and of the others, with a rule between them. -/
def describeBy (line : Attribute → Except Error String) (h : Header) : Except Error String := do
  let keys ← (h.attributes.filter Attribute.isKey).mapM line
  let others ← (h.attributes.filter (!·.isKey)).mapM line
  return Text.joinWith "\n" (keys ++ ["---"] ++ others)

/-- The description of a header. -/
def describe (h : Header) : Except Error String := h.describeBy Attribute.descriptionLine

/-- All fields of all attributes. -/
def shown (h : Header) : Except Error String := do
  return "Header([" ++ Text.joinWith ", " (← h.attributes.mapM Attribute.shown) ++ "])"

end Header
end Relational

import Relational.Session
import Relational.Value.Convert
import Relational.Value.Digest
import Relational.Value.Show

/-!
# Headers of tables

The header of a table is read from the metadata of the server, once for each table: headers are kept
until the schema is reset. A table that cannot be read leaves what is kept unchanged.
-/

namespace Relational.Schema

/-- The statement that asks for the columns of a table. -/
def statement : String :=
  "\nSELECT column_name, column_type, column_key = 'PRI', is_nullable = 'YES', column_default,\n" ++
    "    column_comment, extra\nFROM information_schema.columns\n" ++
    "WHERE table_schema = COALESCE(%s, DATABASE()) AND table_name = %s\n" ++
    "ORDER BY ordinal_position\n"

/-- Whether a text occurs in another. -/
def occursIn (part : List Char) : List Char → Bool
  | [] => part.isEmpty
  | c :: cs => part.isPrefixOf (c :: cs) || occursIn part cs

/-- The text of a value that must be textual. Data is refused for its type. -/
def requireText (v : Value) : Except Error String :=
  match v.text?, v with
  | some s, _ => .ok s
  | none, .bytes .. => .error (.fault .wrongType)
  | none, _ => .error (.fault .missingMember)

/-- Text that may be missing. -/
def textOrEmpty (v : Value) : Report String := do
  if ← v.isTrue then requireText v else return ""

/-- The name of a column: a text, or a value that stands for one. A value that counts as false
leaves the name empty. -/
def columnName (v : Value) : String × Option Value :=
  match v.text? with
  | some s => (s, none)
  | none => (if v.truthy then v.plain.toOption.getD "" else "", some v)

/-- The text of a default. -/
def defaultText : Value → Except Error (Option String)
  | .null => .ok none
  | v => do return some (← v.plain)

/-- The attribute that a row of metadata describes. -/
def attribute? : List Value → Report Attribute
  | [name, type, isKey, nullable, default, comment, extra] => do
    let (name, givenName) := columnName name
    let sqlType ← requireText type
    let isKey ← isKey.isTrue
    let nullable ← nullable.isTrue
    let default ← defaultText default
    let hasComment ← comment.isTrue
    let extra ← textOrEmpty extra
    return {
      name
      type := .ofSql sqlType
      sqlType
      isKey
      nullable
      default
      comment := if hasComment then comment else .text ""
      autoIncrement := occursIn "auto_increment".toList (Text.lower extra).toList
      givenName }
  | _ => throw (.fault .badValue)

/-- The header of the given attributes. A name that is no text needs a digest. -/
def headerFrom (attributes : List Attribute) : Report Header := do
  for a in attributes do
    if let some v := a.givenName then discard v.digest
  Header.ofAttributes attributes

/-- The header that the reply to the metadata query describes. -/
def headerOf (t : TableRef) : Reply → Report Header
  | .rows _ none | .rows _ (some []) => throw (.noSuchTable t)
  | .rows _ (some rows) => do headerFrom (← rows.mapM attribute?)
  | .failure fault _ => throw (.fault fault)

/-- The schema as a parameter of the metadata query. -/
def schemaParameter (t : TableRef) : Option String := if t.schema = "" then none else some t.schema

/-- Ask the server for the columns of a table; a table that it does not know has none. -/
def fetchHeader (t : TableRef) : Action Header := do
  Session.emit (.describe statement (schemaParameter t) t.name)
  let reply := ((← get).tables.lookup (schemaParameter t, t.name)).getD (.rows [] (some []))
  Session.ofReport (headerOf t reply)

/-- The header of a table, asked for unless it is kept. -/
def tableHeader (id : DatabaseId) (t : TableRef) : Action Header := do
  match (← Session.database id).headers.lookup t with
  | some h => return h
  | none =>
    let h ← fetchHeader t
    Session.changeDatabase id fun d => { d with headers := (t, h) :: d.headers }
    return h

/-- Forget all headers. -/
def reset (id : DatabaseId) : Action Unit :=
  Session.changeDatabase id fun d => { d with headers := [] }

end Relational.Schema

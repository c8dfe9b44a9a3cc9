import Relational.Session
import Relational.Value.Show

/-!
# Databases

A database executes statements. When a statement fails, a mistake of its author is told apart from a
trouble of the server. The pool keeps databases under names.
-/

namespace Relational.Database

/-- Log a statement if the database logs its statements. -/
def logStatement (id : DatabaseId) (statement : String) : Action Unit := do
  let d ← Session.database id
  let s ← get
  let logger : Logger := { enabled := d.debug, heading := .drawn [s.clock] }
  let (line, _) ← logger.write ⟨[.text ("[" ++ d.name ++ "] " ++ statement)], none, none⟩
  set { s with console := s.console ++ line }

/-- Execute a statement and fetch the columns and all rows. A failure of the driver is reported with
the statement. -/
def run (id : DatabaseId) (statement : String) : Action (List Label × ResultSet) := do
  logStatement id statement
  match ← Session.send statement with
  | .rows columns rows => return (columns, rows)
  | .failure (.driver fault) reason =>
    throw (.statementFailed fault (← get).clock statement reason)
  | .failure fault _ => throw (.fault fault)

/-- Execute a statement; unless asked for as it stands, the result is simplified. -/
def execute (id : DatabaseId) (statement : String) (raw : Bool) : Action Value := do
  let (_, rows) ← run id statement
  if raw then return rawResult rows else simplify rows

/-- Execute a statement and fetch records. -/
def fetchRecords (id : DatabaseId) (statement : String) : Action (List Record) := do
  let (columns, rows) ← run id statement
  recordsOf (some columns) rows

/-- The first value of the first row of a reply. A failure is passed on as it is. -/
def firstValue (statement : String) : Action Value := do
  match ← Session.send statement with
  | .rows _ (some ((v :: _) :: _)) => return v
  | .rows _ (some ([] :: _)) => throw (.fault .badIndex)
  | .rows _ _ => throw (.fault .wrongType)
  | .failure fault _ => throw (.fault fault)

/-- The name of the physical database, as the server gives it. -/
def physicalName : Action Value := firstValue "SELECT DATABASE();"

/-- The mode in which the server reads statements. -/
def serverMode : Action Value := firstValue "SELECT @@session.sql_mode"

/-- The physical name and the name of a database. -/
def label (id : DatabaseId) : Action String := do
  let d ← Session.database id
  let physical ← physicalName
  return (← physical.formatted) ++ " @ " ++ d.name

/-- The label of the schema of a database. -/
def schemaLabel (id : DatabaseId) : Action String := do
  return "Database schema of " ++ (← label id)

/-- Open a new cursor on a fresh session of the connection. -/
def resetConnection : Action Unit := do
  Session.emit .closeCursor
  Session.emit .resetConnection
  Session.emit .openCursor

/-- Close the connection. -/
def close : Action Unit := do
  Session.emit .closeCursor
  Session.emit .closeConnection

/-! ### The pool -/

/-- Put a database under a name; a name that is present keeps its place. -/
def register (key : String) (id : DatabaseId) : Action Unit :=
  modify fun s =>
    { s with
      pool :=
        if (s.pool.lookup key).isSome then s.pool.map fun e => if e.1 = key then (key, id) else e
        else s.pool ++ [(key, id)] }

/-- The only database of the pool. -/
def current : Action DatabaseId := do
  match (← get).pool with
  | [(_, id)] => return id
  | pool => throw (.notSingleEntry pool.length)

/-- The database of the pool under a name. -/
def retrieve (key : String) : Action DatabaseId := do
  match (← get).pool.lookup key with
  | some id => return id
  | none => throw (.fault .missingKey)

/-- Remove all databases from the pool. -/
def clearPool : Action Unit := modify fun s => { s with pool := [] }

/-- The labels of the databases of the pool under their names. -/
def poolLabel : Action String := do
  let entries ← (← get).pool.mapM fun e => do
    return Text.quoted e.1 ++ ": " ++ (← label e.2)
  return "DatabasePool " ++ bracketed "\x7b" "\x7d" entries

/-! ### Connecting -/

/-- Where the parameters of a connection come from: given directly, or the contents of a file, or a
path at which there is no file. -/
inductive Source where
  | arguments (arguments : ConnectionArguments)
  | config (text : String)
  | absent (path : String)

/-- The path that is tried if none is given. -/
def defaultPath : String := ".mysql_connection.config"

/-- Arguments that are given directly take precedence over a file. -/
def Source.choose (arguments : Option ConnectionArguments) (config path : Option String) : Source :=
  match arguments, config with
  | some a, _ => .arguments a
  | none, some text => .config text
  | none, none => .absent (path.getD defaultPath)

/-- The parameters of a connection. -/
def Source.resolve : Source → Except Error ConnectionArguments
  | .arguments a => .ok a
  | .config text => ConnectionArguments.ofConfig text
  | .absent "" => .error .noConnectionArguments
  | .absent path => .error (.noConfigFile path)

/-- Connect to a database and, unless it is private, register it in the pool. The server may refuse
the connection. -/
def connect (name : String) (source : Source) (debug isPrivate : Bool) (refusal : Option Fault) :
    Action DatabaseId := do
  let arguments ← source.resolve
  Session.emit (.connect arguments)
  if let some fault := refusal then throw (.fault fault)
  Session.emit .openCursor
  let id := (← get).databases.length
  modify fun s => { s with databases := s.databases ++ [{ name, debug }] }
  if !isPrivate then register name id
  return id

end Relational.Database

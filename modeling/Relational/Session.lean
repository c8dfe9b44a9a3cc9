import Relational.Connection
import Relational.Header
import Relational.Log
import Relational.Report
import Relational.ResultSet

/-!
# Sessions

A session talks to a server: it opens connections, sends statements and receives replies. What the
server sees is recorded in order. The replies, and the columns of the tables that the server knows,
are part of the session, so that every action on it is a function.
-/

namespace Relational

/-- The reply to a statement: rows under column names, or a failure. -/
inductive Reply where
  | rows (columns : List Label) (rows : ResultSet)
  | failure (fault : Fault) (reason : String)

/-- What the server sees. -/
inductive Event where
  | connect (arguments : ConnectionArguments)
  | openCursor
  | execute (statement : String)
  | describe (statement : String) (schema : Option String) (table : String)
  | closeCursor
  | closeConnection
  | resetConnection

/-- The number of a database within its session. -/
abbrev DatabaseId := Nat

/-- A connected database: its name, whether its statements are logged, and the headers of the tables
read so far. -/
structure Database where
  name : String
  debug : Bool := false
  headers : List (TableRef × Header) := []

/-- The state of a session. -/
structure Session where
  tables : List ((Option String × String) × Reply) := []
  replies : List Reply := []
  databases : List Database := []
  pool : List (String × DatabaseId) := []
  events : List Event := []
  console : String := ""
  notices : List Notice := []
  clock : String := ""

/-- An action on a session. What it did before it failed remains done. -/
abbrev Action := ExceptT Error (StateM Session)

namespace Session

/-- Record what the server sees. -/
def emit (e : Event) : Action Unit := modify fun s => { s with events := s.events ++ [e] }

/-- Report notices. -/
def report (ns : List Notice) : Action Unit := modify fun s => { s with notices := s.notices ++ ns }

/-- Send a statement and take the next reply; without one there are no columns and no rows. -/
def send (statement : String) : Action Reply := do
  emit (.execute statement)
  match (← get).replies with
  | [] => return .rows [] (some [])
  | r :: rest =>
    modify fun s => { s with replies := rest }
    return r

/-- The database with the given number. -/
def database (id : DatabaseId) : Action Database := do
  match (← get).databases[id]? with
  | some d => return d
  | none => throw (.fault .missingKey)

/-- Change the database with the given number. -/
def changeDatabase (id : DatabaseId) (change : Database → Database) : Action Unit :=
  modify fun s => { s with databases := s.databases.modify id change }

/-- Take over the outcome and the notices of a report. -/
def ofReport {α : Type} (r : Report α) : Action α := do
  let (outcome, notices) := r.run.run []
  report notices
  outcome

end Session
end Relational

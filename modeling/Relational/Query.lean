import Relational.Compile
import Relational.Condition
import Relational.Database
import Relational.Header.Given
import Relational.Schema
import Relational.Sql.Render
import Relational.Value.Convert

/-!
# Queries

A query is an expression over a database. Operators build new queries; fetching a query compiles its
expression, executes the statement and hands out the tuples.
-/

namespace Relational

/-- An expression over a database. -/
structure Query where
  database : DatabaseId
  expr : Expr

/-- A change of a query in place, with notices on the way. What it did before it failed remains
done. -/
abbrev Change := ExceptT Error (StateT Query (StateM (List Notice)))

/-- Take over the outcome and the notices of a report. -/
def Change.ofReport {α : Type} (r : Report α) : Change α := ExceptT.mk (liftM r.run)

/-- An argument of a projection or a fetch: a value, or the expression of another query. -/
inductive Argument where
  | value (v : Value)
  | query (e : Expr)

namespace Argument

/-- The text of a textual argument. -/
def text? : Argument → Option String
  | .value v => v.text?
  | .query _ => none

/-- The form of an argument within a text. -/
def formatted : Argument → Except Error String
  | .value v => v.formatted
  | .query e => e.inspection

/-- The clause that an argument at the end stands for: an order or a limit in SQL, or the greatest
number of tuples. -/
def clause? : Argument → Option String
  | .value (.int n) | .value (.fixedInt _ n) => some ("LIMIT " ++ Text.signedDecimal n)
  | a =>
    match a.text? with
    | some s =>
      let s := Text.strip s
      if Text.beginsWith "ORDER BY" s || Text.beginsWith "LIMIT " s then some s else none
    | none => none

/-- Separate a clause at the end from the other arguments. -/
def splitClause (args : List Argument) : String × List Argument :=
  match args.getLast?.bind clause? with
  | some s => (s, args.dropLast)
  | none => ("", args)

/-- The texts of arguments that must all be texts. -/
def texts (use : SpecUse) (args : List Argument) : Except Error (List String) :=
  match args.mapM text? with
  | some specs => .ok specs
  | none => .error (.specsNotText use)

/-- The specifications among the arguments; there must be some, and no wildcard. -/
def outputSpecs (use : SpecUse) (args : List Argument) : Except Error (List String) :=
  let specs := args.filterMap text?
  if specs.isEmpty then .error (.noAttributes use)
  else if specs.any fun s => Text.strip s = "*" then .error (.wildcardRefused use)
  else .ok specs

end Argument

namespace Expr

/-- Aggregate an expression over another query; nothing else can be aggregated over. -/
def aggregateOver (e : Expr) (other : Argument) (args : List Argument) : Except Error Expr := do
  let specs ← Argument.texts .aggr args
  match other with
  | .query g => return .aggregate e g specs []
  | .value _ => throw (.fault .missingMember)

/-- Project an expression; if the first argument is a relation, aggregate over it. -/
def projectBy (e : Expr) : List Argument → Except Error Expr
  | .query g :: rest => e.aggregateOver (.query g) rest
  | args => do return .project e (← Argument.texts .pro args) []

/-- Join an expression with itself, each given attribute once with the suffix 1 and once with 2. -/
def pair (e : Expr) (attributes : List String) : Expr :=
  .join (.project e (attributes.map fun a => a ++ "->" ++ a ++ "1") [])
    (.project e (attributes.map fun a => a ++ "->" ++ a ++ "2") []) []

/-- Join an expression with another query; nothing else can be joined. -/
def joinWith (e : Expr) : Argument → Except Error Expr
  | .query f => .ok (.join e f [])
  | .value _ => .error (.fault .wrongType)

/-- The clause of the outermost restrictions. -/
def outerClause (e : Expr) : Compiler (Option Sql.Cond) := do
  let c ← e.unrestricted.compile .never
  whereClause c.header.stripAliases e.restrictions

end Expr

/-- The statement that asks whether a fragment has tuples. -/
def existsStatement (f : Sql.Fragment) : String :=
  "SELECT EXISTS(SELECT 1 FROM " ++ f.render ++ " LIMIT 1) AS yes"

/-- The statement that counts the tuples of a fragment. -/
def countStatement (f : Sql.Fragment) : String := "SELECT COUNT(*) AS n FROM " ++ f.render

namespace Query

/-- Compile within a session; every compilation starts with fresh aliases. -/
def compiling {α : Type} (m : Compiler α) : Action α := do
  let (outcome, context) := m.run.run {}
  Session.report context.notices
  outcome

/-- The query for all tuples of a table. -/
def ofTable (id : DatabaseId) (t : TableRef) : Action Query := do
  return ⟨id, .table t (← Schema.tableHeader id t) []⟩

/-- Restrict a query in place by conditions that all have to hold. -/
def restrict (conditions : List Condition) : Change Unit := do
  let q ← getThe Query
  let e ← Change.ofReport (q.expr.restrictBy conditions)
  set { q with expr := e }

/-- The outcome of a change and the query after it, within a session. -/
def changing {α : Type} (q : Query) (m : Change α) : Action (Except Error α × Query) := do
  let (result, notices) := (m.run.run q).run []
  Session.report notices
  return result

/-- Change a copy of a query; the query itself stays as it is. -/
def copied (q : Query) (m : Change Unit) : Report Query := ExceptT.mk do
  let (outcome, copy) ← m.run.run q
  return outcome.map fun _ => copy

/-- The query for the tuples that also satisfy a condition. -/
def restricted (q : Query) (c : Condition) : Report Query := q.copied (restrict [c])

/-- The header of a query. -/
def header (r : Query) : Action Header := do return (← compiling (r.expr.compile .never)).header

/-- The statement that computes all tuples. -/
def sql (r : Query) : Action String := do
  let c ← compiling (r.expr.compile .never)
  c.header.checkQuotable
  return (c.statement "").render

/-- The clause of the outermost restrictions as text. -/
def clause (r : Query) : Action String := do
  return Sql.renderClause (← compiling r.expr.outerClause)

/-- The description of the header. -/
def description (r : Query) : Action String := do (← r.header).described

/-- Whether there are tuples. -/
def hasTuples (r : Query) : Action Bool := do
  let c ← compiling (r.expr.compile .aggregate)
  let v ← Database.execute r.database (existsStatement c.source) false
  Session.ofReport v.isTrue

/-- The number of tuples, as the server gives it. -/
def count (r : Query) : Action Int := do
  let c ← compiling (r.expr.compile .aggregate)
  let v ← Database.execute r.database (countStatement c.source) false
  Session.ofReport v.toInteger

/-- The number of tuples as a length: it is not negative and fits a machine word. -/
def length (r : Query) : Action Int := do
  let n ← r.count
  if n < 0 then throw (.fault .badValue)
  if n ≥ 9223372036854775808 then throw (.fault .overflow)
  return n

/-- The records of the projected query, and the projected header. -/
def fetchTuples (r : Query) (args : List Argument) : Action (List Record × Header) := do
  let (suffix, args) := Argument.splitClause args
  let e ← r.expr.projectBy args
  let c ← compiling (e.compile .never)
  c.header.checkQuotable
  let records ← Database.fetchRecords r.database (c.statement suffix).render
  return (records, c.header)

/-- The tuples as a data frame. -/
def fetchFrame (r : Query) (args : List Argument) : Action (Frame × Header) := do
  let (records, h) ← r.fetchTuples args
  return (← Frame.ofRecords (h.names.map .name) records, h)

/-- Records as a value. -/
def recordList (records : List Record) : Value :=
  .list (records.map fun q => .record false q.entries)

/-- The key part of each record. -/
def keyRecords (h : Header) (records : List Record) : List Record :=
  records.map (·.project (h.primaryKey.map .name))

/-- Fetch the tuples as records or as a data frame, on demand together with their keys. -/
def fetch (r : Query) (args : List Argument) (withKeys asFrame : Bool) : Action Value := do
  if asFrame then
    let (f, h) ← r.fetchFrame args
    let keys := f.select (h.primaryKey.map .name)
    return if withKeys then .tuple [f.toValue, keys.toValue] else f.toValue
  else
    let (records, h) ← r.fetchTuples args
    return if withKeys then .tuple [recordList records, recordList (keyRecords h records)]
      else recordList records

/-- Check the number of outputs that the caller expects. -/
def requireArity (expected : Option Int) (provided : Nat) : Except Error Unit :=
  match expected with
  | some n => if n = provided then .ok () else .error (.arityMismatch n provided)
  | none => .ok ()

/-- The value of a record under the output name of a specification. -/
def output (record : Record) (spec : String) : Except Error Value := do
  match record.get? (.name (← Spec.parse spec).outputName) with
  | some v => return v
  | none => throw (.fault .missingKey)

/-- The values of the only tuple: a single value, or a tuple of several. -/
def fetchOne (r : Query) (args : List Argument) (arity : Option Int) : Action Value := do
  let specs ← Argument.outputSpecs .fetchOne (Argument.splitClause args).2
  requireArity arity specs.length
  match ← r.fetchTuples args with
  | ([record], _) =>
    match ← specs.mapM fun s => (output record s : Except Error Value) with
    | [v] => return v
    | vs => return .tuple vs
  | (records, _) => throw (.notScalar records.length)

/-- The values of all tuples, a list for each attribute, on demand followed by the keys. -/
def fetchColumns (r : Query) (args : List Argument) (withKeys : Bool) (arity : Option Int) :
    Action Value := do
  let specs ← Argument.outputSpecs .fetchColumns (Argument.splitClause args).2
  requireArity arity (if withKeys then specs.length + 1 else specs.length)
  let (records, h) ← r.fetchTuples args
  let columns ← specs.mapM fun s => do
    return Value.list (← records.mapM fun q => (output q s : Except Error Value))
  if withKeys then return .tuple (columns ++ [recordList (keyRecords h records)])
  match columns with
  | [c] => return c
  | cs => return .tuple cs

end Query
end Relational

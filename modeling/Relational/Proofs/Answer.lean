import Relational.Proofs.Row
import Relational.Sql

/-!
# What a statement answers

The meaning of statements on the contents of a database. A `FROM` clause is a list of items, joined
from left to right whatever the tree says, since the text does not show brackets; a `WHERE` clause
keeps the rows for which its condition is true; a `SELECT` list is applied to each row, or to each
group of rows if there is a `GROUP BY` clause. The rows of a subquery may depend on the row around
it, as far as its own columns do not hide the names of that row.

A statement is rejected, and has no answer, if a clause stands where none is allowed, if a list of
columns or of conditions is empty, if a part of a conjunction needs brackets, if two columns have
the same name, or if a name is not visible. Table names that occur twice are not rejected.
-/

namespace Relational

/-- What the server makes of those parts of a statement that are opaque text. A text is read as a
condition, as an expression on a row, or as an expression on a group. A column that is neither
grouped by nor part of an expression on groups is read from any row of the group. -/
structure Server (V : Type) where
  literal : Sql.Literal → V
  condition : String → Row V → Truth
  scalar : String → Row V → Option V
  summary : String → List (Row V) → Option V
  pick : List (Row V) → Row V
  pick_mem : ∀ g, g ≠ [] → pick g ∈ g

/-- The contents of a database: for each table its columns and its rows, without other cells. -/
structure Instance (V : Type) where
  columns : TableRef → List String
  rows : TableRef → List (Row V)
  within : ∀ t, ∀ r ∈ rows t, r.Within (columns t)

namespace Sql

/-- How the clauses of a `SELECT` level end. -/
inductive Ending where
  | chain
  | filtered
  | grouped (names : List String)
  deriving DecidableEq

/-- What a `SELECT` reads from: columns, and the rows for each row around the level. -/
structure Source (V : Type) where
  columns : List String
  ending : Ending
  rows : Row V → List (Row V)

variable {V : Type}

/-- The row with one cell for each item of a select list. -/
def tuple (columns : List Column) (cell : Column → Option V) : Row V := fun n =>
  (columns.find? (·.outputName == n)).bind cell

namespace Column

/-- Whether the column that an item names is visible. Expressions are checked by the server. -/
def isVisible (names : List String) : Column → Bool
  | .name n | .renamed n _ => n ∈ names
  | .computed .. => true

/-- The cell of an item for a row. -/
def cell (server : Server V) (r : Row V) : Column → Option V
  | .name n | .renamed n _ => r n
  | .computed text _ => server.scalar text r

/-- The cell of an item for a group of rows. -/
def groupCell (server : Server V) (g : List (Row V)) : Column → Option V
  | .name n | .renamed n _ => server.pick g n
  | .computed text _ => server.summary text g

end Column

theorem tuple_names {names : List String} {m : String} (hm : m ∈ names) {server : Server V}
    (r : Row V) :
    tuple (names.map Column.name) (Column.cell server r) m = r m := by
  have found : names.find? (fun n => n == m) = some m := by
    cases hf : names.find? (fun n => n == m) with
    | none => exact absurd (List.find?_eq_none.mp hf m hm) (by simp)
    | some n =>
      have e : n = m := by simpa using List.find?_some hf
      rw [e]
  unfold tuple
  rw [List.find?_map]
  show ((names.find? (fun n => n == m)).map Column.name).bind _ = r m
  rw [found]
  rfl

namespace Source

variable [DecidableEq V]

/-- The natural join of two sources that have no clauses of their own. -/
def join (l r : Source V) : Option (Source V) :=
  if l.ending = .chain ∧ r.ending = .chain then
    some ⟨Row.union l.columns r.columns, .chain,
      fun outer => Row.join l.columns r.columns (l.rows outer) (r.rows outer)⟩
  else none

/-- A list of items, joined from left to right. -/
def joinAll : List (Source V) → Option (Source V)
  | [] => none
  | s :: rest => rest.foldlM join s

/-- The row of a source, in front of the row around it. -/
def visible (s : Source V) (outer r : Row V) : Row V := r.merge s.columns outer

/-- The rows that a select list makes of a source. -/
def image (server : Server V) (s : Source V) (columns : List Column) (outer : Row V) :
    List (Row V) :=
  match s.ending with
  | .grouped names => (Row.groups names (s.rows outer)).map fun g =>
      tuple columns (Column.groupCell server (g.map (s.visible outer)))
  | _ => (s.rows outer).map fun r => tuple columns (Column.cell server (s.visible outer r))

/-- Whether a select list is accepted: it is not empty, its names differ and are visible. -/
def Accepts (s : Source V) (scope : List String) (columns : List Column) : Prop :=
  columns ≠ [] ∧ (columns.map Column.outputName).Nodup ∧
    ∀ c ∈ columns, c.isVisible (s.columns ++ scope) = true

instance (s : Source V) (scope : List String) (columns : List Column) :
    Decidable (s.Accepts scope columns) :=
  inferInstanceAs (Decidable (_ ∧ _))

/-- The subquery with a select list. -/
def select (server : Server V) (s : Source V) (scope : List String) (columns : List Column) :
    Option (Source V) :=
  if s.Accepts scope columns then
    some ⟨columns.map Column.outputName, .chain, s.image server columns⟩
  else none

/-- The rows for which a condition is true. -/
def filter (s : Source V) (holds : Row V → Truth) : Option (Source V) :=
  if s.ending = .chain then
    some ⟨s.columns, .filtered,
      fun outer => (s.rows outer).filter fun r => holds (s.visible outer r) = some true⟩
  else none

/-- The groups of rows with the same cells under some columns. -/
def group (s : Source V) (names : List String) : Option (Source V) :=
  match s.ending with
  | .grouped _ => none
  | _ => if names ≠ [] ∧ names ⊆ s.columns then some ⟨s.columns, .grouped names, s.rows⟩ else none

end Source

/-- Whether the text of a condition needs brackets within a conjunction. -/
def Cond.isLoose : Cond → Bool
  | .raw _ | .disj _ => true
  | _ => false

variable [DecidableEq V] (server : Server V) (db : Instance V)

mutual

/-- The items that a fragment lists, if it is accepted where the names of `scope` are visible. -/
def Fragment.items (scope : List String) : Fragment → Option (List (Source V))
  | .table t => some [⟨db.columns t, .chain, fun _ => db.rows t⟩]
  | .derived columns source _ => do
    let s ← Source.joinAll (← source.items scope)
    return [← s.select server scope columns]
  | .join l r => do return (← l.items scope) ++ (← r.items scope)
  | .filter source c => do
    let s ← Source.joinAll (← source.items scope)
    return [← s.filter (← c.truth (s.columns ++ scope))]
  | .group source names => do
    let s ← Source.joinAll (← source.items scope)
    return [← s.group names]
termination_by structural f => f

/-- The truth value of a condition for each row, if it is accepted. -/
def Cond.truth (scope : List String) : Cond → Option (Row V → Truth)
  | .raw text => some (server.condition text)
  | .constant b => some fun _ => some b
  | .isNull field => if field ∈ scope then some fun r => some (r field).isNone else none
  | .equal field l =>
    if field ∈ scope then some fun r => Row.equal (r field) (some (server.literal l)) else none
  | .conj cs => do
    let ts ← truths scope cs
    if cs.isEmpty || cs.any Cond.isLoose then none else some fun r => Truth.all (ts.map (· r))
  | .disj cs => do
    let ts ← truths scope cs
    if cs.isEmpty then none else some fun r => Truth.any (ts.map (· r))
  | .paren c => c.truth scope
  | .not c => do
    let t ← c.truth scope
    return fun r => (t r).not
  | .within columns negated source => do
    let s ← Source.joinAll (← source.items scope)
    let q ← s.select server scope (columns.map .name)
    if columns ⊆ scope then
      some fun r => Truth.negateIf negated (Truth.any ((q.rows r).map (Row.matching columns r)))
    else none
termination_by structural c => c

/-- The truth values of several conditions. -/
def truths (scope : List String) : List Cond → Option (List (Row V → Truth))
  | [] => some []
  | c :: cs => do return (← c.truth scope) :: (← truths scope cs)
termination_by structural cs => cs

end

/-- What a `SELECT` reads from a fragment. -/
def Fragment.evaluate (scope : List String) (f : Fragment) : Option (Source V) :=
  (f.items server db scope).bind Source.joinAll

namespace Source

variable {s t u : Source V}

theorem join_eq_some_iff :
    join s t = some u ↔ s.ending = .chain ∧ t.ending = .chain ∧
      u = ⟨Row.union s.columns t.columns, .chain,
        fun outer => Row.join s.columns t.columns (s.rows outer) (t.rows outer)⟩ := by
  unfold join
  split
  · rename_i h
    simp [h, eq_comm]
  · rename_i h
    simp only [reduceCtorEq, false_iff]
    exact fun ⟨hs, ht, _⟩ => h ⟨hs, ht⟩

@[simp] theorem joinAll_singleton (s : Source V) : joinAll [s] = some s := rfl

/-- Sources can be joined in any bracketing. -/
theorem bind_join_assoc (s t u : Source V) :
    ((join s t).bind fun x => join x u) = (join t u).bind (join s) := by
  by_cases hs : s.ending = .chain <;> by_cases ht : t.ending = .chain <;>
    by_cases hu : u.ending = .chain <;>
      simp [join, hs, ht, hu, Row.union_assoc, Row.join_assoc]

/-- Joining the items of a list to a source one by one joins their join to it. -/
theorem foldlM_join {ts : List (Source V)} (hu : ts.foldlM join t = some u) :
    (t :: ts).foldlM join s = join s u := by
  induction ts generalizing t with
  | nil =>
    cases hu
    simp
  | cons t' ts ih =>
    rw [List.foldlM_cons] at hu
    obtain ⟨w, hw, hu⟩ := Option.bind_eq_some_iff.mp hu
    have assoc := bind_join_assoc s t t'
    rw [hw, Option.bind_some] at assoc
    calc (t :: t' :: ts).foldlM join s
        = ((join s t).bind fun x => join x t').bind fun x => ts.foldlM join x := by
          simp [Option.bind_assoc]
      _ = (w :: ts).foldlM join s := by rw [assoc]; rfl
      _ = join s u := ih hu

theorem joinAll_append {ss ts : List (Source V)} (hs : joinAll ss = some s)
    (ht : joinAll ts = some t) : joinAll (ss ++ ts) = join s t := by
  match ss, ts, hs, ht with
  | x :: ss, y :: ts, hs, ht =>
    show (ss ++ y :: ts).foldlM join x = join s t
    rw [List.foldlM_append]
    exact (congrArg (· >>= fun z => (y :: ts).foldlM join z) hs).trans (foldlM_join ht)

end Source

variable {server db} {scope : List String} {f g : Fragment} {s t : Source V}

theorem evaluate_table (tbl : TableRef) :
    (Fragment.table tbl).evaluate server db scope =
      some ⟨db.columns tbl, .chain, fun _ => db.rows tbl⟩ := rfl

theorem evaluate_join (hf : f.evaluate server db scope = some s)
    (hg : g.evaluate server db scope = some t) :
    (Fragment.join f g).evaluate server db scope = s.join t := by
  obtain ⟨ss, hss, hs⟩ := Option.bind_eq_some_iff.mp hf
  obtain ⟨ts, hts, ht⟩ := Option.bind_eq_some_iff.mp hg
  simp [Fragment.evaluate, Fragment.items, hss, hts, Source.joinAll_append hs ht]

theorem evaluate_derived (hf : f.evaluate server db scope = some s) (columns : List Column)
    (aliasName : String) :
    (Fragment.derived columns f aliasName).evaluate server db scope =
      s.select server scope columns := by
  obtain ⟨ss, hss, hs⟩ := Option.bind_eq_some_iff.mp hf
  cases hq : s.select server scope columns <;>
    simp [Fragment.evaluate, Fragment.items, hss, hs, hq]

theorem evaluate_filter (hf : f.evaluate server db scope = some s) {c : Cond}
    {holds : Row V → Truth} (hc : c.truth server db (s.columns ++ scope) = some holds) :
    (Fragment.filter f c).evaluate server db scope = s.filter holds := by
  obtain ⟨ss, hss, hs⟩ := Option.bind_eq_some_iff.mp hf
  cases hq : s.filter holds <;>
    simp [Fragment.evaluate, Fragment.items, hss, hs, hc, hq]

theorem evaluate_group (hf : f.evaluate server db scope = some s) (names : List String) :
    (Fragment.group f names).evaluate server db scope = s.group names := by
  obtain ⟨ss, hss, hs⟩ := Option.bind_eq_some_iff.mp hf
  cases hq : s.group names <;>
    simp [Fragment.evaluate, Fragment.items, hss, hs, hq]

theorem truth_within (hf : f.evaluate server db scope = some s) {columns : List String}
    (negated : Bool) {q : Source V} (hq : s.select server scope (columns.map .name) = some q)
    (hc : columns ⊆ scope) :
    (Cond.within columns negated f).truth server db scope =
      some fun r =>
        Truth.negateIf negated (Truth.any ((q.rows r).map (Row.matching columns r))) := by
  obtain ⟨ss, hss, hs⟩ := Option.bind_eq_some_iff.mp hf
  simp [Cond.truth, hss, hs, hq, hc]

/-- The column names and the rows that a statement without a suffix delivers. -/
def Statement.answer (server : Server V) (db : Instance V) (s : Statement) :
    Option (List String × List (Row V)) := do
  let source ← s.source.evaluate server db []
  let q ← source.select server [] s.columns
  if s.suffix = "" then some (q.columns, q.rows fun _ => none) else none

end Sql
end Relational

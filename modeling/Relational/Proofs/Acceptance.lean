import Relational.Proofs.Keys
import Relational.Proofs.Preservation
import Relational.Proofs.Subterms

/-!
# Which statements are accepted

Whether a statement is accepted depends on the columns of the tables, but neither on their rows nor
on what the server makes of texts. So it is enough to look at a database without rows and a server
to which no text says anything: there all texts speak of the attributes that they should, all keys
are keys, and compilation preserves meaning. Hence every compiled expression is accepted.
-/

namespace Relational

variable {V W : Type} [DecidableEq V] [DecidableEq W]

/-! ### Acceptance depends on columns only -/

/-- Results that exist together and are related. -/
theorem rel_bind {α β γ δ : Type} {R : α → β → Prop} {S : γ → δ → Prop} {x : Option α}
    {y : Option β} {f : α → Option γ} {g : β → Option δ} (h : Option.Rel R x y)
    (hf : ∀ a b, R a b → Option.Rel S (f a) (g b)) : Option.Rel S (x.bind f) (y.bind g) := by
  cases h with
  | none => exact .none
  | some hab => exact hf _ _ hab

namespace Sql

/-- Sources with the same columns that end in the same way. -/
structure Source.Alike (s : Source V) (t : Source W) : Prop where
  columns : s.columns = t.columns
  ending : s.ending = t.ending

namespace Source

variable {s s' : Source V} {t t' : Source W}

theorem Alike.join (h : s.Alike t) (h' : s'.Alike t') :
    Option.Rel Alike (s.join s') (t.join t') := by
  unfold Source.join
  rw [h.columns, h'.columns, h.ending, h'.ending]
  split
  · exact .some ⟨rfl, rfl⟩
  · exact .none

theorem alike_foldlM {ss : List (Source V)} {ts : List (Source W)} (h : s.Alike t)
    (hs : List.Forall₂ Alike ss ts) :
    Option.Rel Alike (ss.foldlM Source.join s) (ts.foldlM Source.join t) := by
  induction hs generalizing s t with
  | nil => exact .some h
  | cons first _ ih =>
    rw [List.foldlM_cons, List.foldlM_cons]
    exact rel_bind (h.join first) fun _ _ => ih

theorem alike_joinAll {ss : List (Source V)} {ts : List (Source W)}
    (h : List.Forall₂ Alike ss ts) : Option.Rel Alike (joinAll ss) (joinAll ts) := by
  cases h with
  | nil => exact .none
  | cons first rest => exact alike_foldlM first rest

theorem Alike.select {server : Server V} {server' : Server W} (h : s.Alike t)
    (scope : List String) (columns : List Column) :
    Option.Rel Alike (s.select server scope columns) (t.select server' scope columns) := by
  have accepts : s.Accepts scope columns ↔ t.Accepts scope columns := by
    unfold Accepts
    rw [h.columns]
  unfold Source.select
  by_cases ha : t.Accepts scope columns
  · rw [if_pos ha, if_pos (accepts.mpr ha)]
    exact .some ⟨rfl, rfl⟩
  · rw [if_neg ha, if_neg fun hs => ha (accepts.mp hs)]
    exact .none

omit [DecidableEq V] [DecidableEq W] in
theorem Alike.filter (h : s.Alike t) (holds : Row V → Truth) (holds' : Row W → Truth) :
    Option.Rel Alike (s.filter holds) (t.filter holds') := by
  unfold Source.filter
  rw [h.ending]
  split
  · exact .some ⟨h.columns, rfl⟩
  · exact .none

omit [DecidableEq V] [DecidableEq W] in
theorem Alike.group (h : s.Alike t) (names : List String) :
    Option.Rel Alike (s.group names) (t.group names) := by
  unfold Source.group
  rw [h.columns, h.ending]
  split
  · exact .none
  · split
    · exact .some ⟨rfl, rfl⟩
    · exact .none

end Source

section Alike

variable {server : Server V} {server' : Server W} {db : Instance V} {db' : Instance W}

mutual

theorem alike_items (columns : db.columns = db'.columns) (scope : List String)
    (f : Fragment) : Option.Rel (List.Forall₂ Source.Alike) (f.items server db scope)
      (f.items server' db' scope) :=
  match f with
  | .table t => .some (.cons ⟨congrFun columns t, rfl⟩ .nil)
  | .derived items source _ => by
    refine rel_bind (alike_items columns scope source) fun ss ts h => ?_
    refine rel_bind (Source.alike_joinAll h) fun s t h => ?_
    exact rel_bind (h.select scope items) fun _ _ h => .some (.cons h .nil)
  | .join l r => by
    refine rel_bind (alike_items columns scope l) fun ss ts h => ?_
    exact rel_bind (alike_items columns scope r) fun ss' ts' h' => .some (List.rel_append h h')
  | .filter source c => by
    refine rel_bind (alike_items columns scope source) fun ss ts h => ?_
    refine rel_bind (Source.alike_joinAll h) fun s t h => ?_
    have clause : Option.Rel (fun _ _ => True) (c.truth server db (s.columns ++ scope))
        (c.truth server' db' (t.columns ++ scope)) := by
      rw [h.columns]
      exact alike_truth columns _ c
    refine rel_bind clause fun u u' _ => ?_
    exact rel_bind (h.filter u u') fun _ _ h => .some (.cons h .nil)
  | .group source names => by
    refine rel_bind (alike_items columns scope source) fun ss ts h => ?_
    refine rel_bind (Source.alike_joinAll h) fun s t h => ?_
    exact rel_bind (h.group names) fun _ _ h => .some (.cons h .nil)
termination_by structural f

theorem alike_truth (columns : db.columns = db'.columns) (scope : List String) (c : Cond) :
    Option.Rel (fun _ _ => True) (c.truth server db scope) (c.truth server' db' scope) :=
  match c with
  | .raw _ | .constant _ => .some trivial
  | .isNull field => by
    rw [Cond.truth, Cond.truth]
    split
    · exact .some trivial
    · exact .none
  | .equal field l => by
    rw [Cond.truth, Cond.truth]
    split
    · exact .some trivial
    · exact .none
  | .conj cs => by
    refine rel_bind (alike_truths columns scope cs) fun _ _ _ => ?_
    split
    · exact .none
    · exact .some trivial
  | .disj cs => by
    refine rel_bind (alike_truths columns scope cs) fun _ _ _ => ?_
    split
    · exact .none
    · exact .some trivial
  | .paren c => alike_truth columns scope c
  | .not c => rel_bind (alike_truth columns scope c) fun _ _ _ => .some trivial
  | .within fields _ source => by
    refine rel_bind (alike_items columns scope source) fun ss ts h => ?_
    refine rel_bind (Source.alike_joinAll h) fun s t h => ?_
    refine rel_bind (h.select scope _) fun _ _ _ => ?_
    split
    · exact .some trivial
    · exact .none
termination_by structural c

theorem alike_truths (columns : db.columns = db'.columns) (scope : List String) (cs : List Cond) :
    Option.Rel (fun _ _ => True) (truths server db scope cs) (truths server' db' scope cs) :=
  match cs with
  | [] => .some trivial
  | c :: cs => by
    refine rel_bind (alike_truth columns scope c) fun _ _ _ => ?_
    exact rel_bind (alike_truths columns scope cs) fun _ _ _ => .some trivial
termination_by structural cs

end

/-- If the tables have the same columns, fragments are accepted together, and what is read from them
has the same columns and the same ending. -/
theorem alike_evaluate (columns : db.columns = db'.columns) (scope : List String) (f : Fragment) :
    Option.Rel Source.Alike (f.evaluate server db scope) (f.evaluate server' db' scope) :=
  rel_bind (alike_items columns scope f) fun _ _ => Source.alike_joinAll

end Alike

end Sql

/-! ### A server to which no text says anything -/

/-- The server with all texts left open. -/
def Server.silent (server : Server V) : Server V :=
  { server with
    condition := fun _ _ => none
    scalar := fun _ _ => none
    summary := fun _ _ => none }

/-- The database with all rows removed. -/
def Instance.emptied (db : Instance V) : Instance V where
  columns := db.columns
  rows _ := []
  within _ _ hr := absurd hr List.not_mem_nil

/-- The headers of all tables list the columns of the database and have a key, and no union is
empty. -/
abbrev Expr.Describes (db : Instance V) (e : Expr) : Prop :=
  e.Everywhere (fun t h => h.Lists (db.columns t) ∧ h.primaryKey ≠ []) (· ≠ .union [])

section Silent

variable (server : Server V) {db : Instance V}

mutual

theorem suits_silent (e : Expr) (he : e.Describes db) : e.Suits server.silent db.emptied :=
  match e with
  | .table t h rs =>
    ⟨he.1.1.plain, he.1.1.names, he.1.2, restrictionsSuit_silent h.names rs he.2⟩
  | .project e specs rs =>
    ⟨suits_silent e he.1, fun _ _ _ _ _ _ _ _ => rfl, fun _ _ => restrictionsSuit_silent _ rs he.2⟩
  | .aggregate e g specs rs => by
    refine ⟨suits_silent e he.1, suits_silent g he.2.1, fun input grouping hi _ => ?_,
      fun _ _ => restrictionsSuit_silent _ rs he.2.2⟩
    -- Tables without rows have their keys, and what is made of them inherits this.
    exact ⟨(isKeyed_relation hi fun base _ => List.nodup_nil).2, fun _ _ _ _ _ _ => rfl⟩
  | .join l r rs =>
    ⟨suits_silent l he.1, suits_silent r he.2.1, fun _ _ => restrictionsSuit_silent _ rs he.2.2⟩
  | .union _ => trivial
  | .negation _ => trivial
termination_by structural e

theorem restriction_suits_silent (names : List String) (r : Restriction)
    (hr : r.Everywhere (fun t h => h.Lists (db.columns t) ∧ h.primaryKey ≠ []) (· ≠ .union [])) :
    r.Suits server.silent db.emptied names :=
  match r with
  | .sql _ => fun _ => rfl
  | .tuples _ => trivial
  | .semijoin e => suits_silent e hr.2
  | .marker _ => trivial
  | .union rs => ⟨fun h => hr.1 (h ▸ rfl), restrictionsSuit_silent names rs hr.2⟩
  | .complement r => restriction_suits_silent names r hr.2
termination_by structural r

theorem restrictionsSuit_silent (names : List String) (rs : List Restriction)
    (hrs : AreEverywhere (fun t h => h.Lists (db.columns t) ∧ h.primaryKey ≠ []) (· ≠ .union [])
      rs) :
    RestrictionsSuit server.silent db.emptied names rs :=
  match rs with
  | [] => trivial
  | r :: rs => ⟨restriction_suits_silent names r hrs.1, restrictionsSuit_silent names rs hrs.2⟩
termination_by structural rs

end

end Silent

/-- Every compiled expression is accepted with its select list, whatever the texts say. -/
theorem accepts_of_compile (server : Server V) {db : Instance V} {mode : Enclosure} {e : Expr}
    {c : Compiled} {ctx ctx' : Context} (he : e.Describes db)
    (hr : (e.compile mode).Returns ctx c ctx') (scope : List String) :
    ∃ s, c.source.evaluate server db scope = some s ∧ s.Accepts scope c.columns := by
  -- The silent server accepts the fragment, because compilation preserves its meaning there.
  have derived := derives_of_returns hr
  obtain ⟨rel, hrel, -⟩ : (Outcome.compiled mode e c).Meaningful server.silent db.emptied :=
    derived.meaningful
  have realizes := (derived.preserved rel hrel (suits_silent server e he)).1
  obtain ⟨t, selects⟩ := realizes.source scope
  have accepts := selects.accepts realizes.named realizes.keyed
  -- The given server sees the same columns.
  have alike : Option.Rel Sql.Source.Alike (c.source.evaluate server db scope)
      (c.source.evaluate server.silent db.emptied scope) :=
    Sql.alike_evaluate (show db.columns = db.emptied.columns from rfl) scope c.source
  rw [selects.evaluates] at alike
  cases found : c.source.evaluate server db scope with
  | none =>
    rw [found] at alike
    cases alike
  | some s =>
    rw [found] at alike
    obtain ⟨alike⟩ := alike
    refine ⟨s, rfl, ?_⟩
    show _ ∧ _ ∧ _
    rw [alike.columns]
    exact accepts

end Relational

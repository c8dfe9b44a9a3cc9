import Relational.Proofs.Acceptance
import Relational.Proofs.Exchange

/-!
# Counting and fetching

A query is counted without its select list, and fetched with the wildcard as its select list. The
two compile the same expression for different consumers, so one may be enclosed where the other is
not. Enclosing keeps the number of rows, and what is counted is never grouped; so the count is the
number of rows that are fetched, and there are rows if and only if that number is positive.
-/

namespace Relational

/-! ### One expression for different consumers -/

/-- Consumers only differ in what they have enclosed in the end. -/
theorem finish_eq (mode : Enclosure) (e : Expr) (c : Compiled)
    (clause : Header → Compiler (Option Sql.Cond)) :
    c.finish mode e.isPlain e.isGrouped (!e.restrictions.isEmpty) clause = (do
      let d ← c.finish .never e.isPlain e.isGrouped (!e.restrictions.isEmpty) clause
      d.encloseIf (mode.demands e d) .enclosed) := by
  unfold Compiled.finish Enclosure.demands
  cases e.restrictions.isEmpty <;> cases mode <;> simp [Compiled.encloseIf]

theorem compile_eq (mode : Enclosure) (e : Expr) :
    e.compile mode = (do
      let c ← e.compile .never
      c.encloseIf (mode.demands e c) .enclosed) := by
  cases e with
  | table t h rs => exact finish_eq mode (.table t h rs) _ _
  | project e specs rs =>
    simp only [Expr.compile, bind_assoc]
    refine bind_congr fun c => bind_congr fun h => ?_
    exact finish_eq mode (.project e specs rs) _ _
  | aggregate e g specs rs =>
    simp only [Expr.compile, bind_assoc]
    refine bind_congr fun c => bind_congr fun d => bind_congr fun a => ?_
    exact finish_eq mode (.aggregate e g specs rs) _ _
  | join l r rs =>
    simp only [Expr.compile, bind_assoc]
    refine bind_congr fun c => bind_congr fun d => bind_congr fun j => ?_
    exact finish_eq mode (.join l r rs) _ _
  | union rs => rfl
  | negation e => rfl

/-- The wildcard keeps a header as it is. -/
theorem Header.project_wildcard (h : Header) : h.project ["*"] = .ok h := by
  have kept : h.attributes.filter (Spec.keeps [.wildcard]) = h.attributes :=
    List.filter_eq_self.mpr fun a _ => by simp [Spec.keeps, Spec.mentions]
  have same : Spec.renamed [.wildcard] = id := by
    funext a
    rfl
  refine project_eq_ok_iff.mpr ⟨[.wildcard], .cons rfl .nil, by simp [Spec.Fits], ?_⟩
  rw [kept, same, List.map_id]
  exact (List.append_nil _).symm

/-- The projection to all attributes compiles as its input does without aliases. -/
theorem compile_wildcard (e : Expr) :
    (Expr.project e ["*"] []).compile .never = e.compile .aliased := by
  rw [Expr.compile]
  simp only [Header.project_wildcard]
  exact bind_pure _

variable {V : Type} [DecidableEq V]

namespace Sql

/-! ### The number of rows -/

/-- The number of rows that any select list makes of a source. -/
def Source.size (s : Source V) : Nat :=
  match s.ending with
  | .grouped names => (Row.groups names (s.rows fun _ => none)).length
  | _ => (s.rows fun _ => none).length

/-- What `COUNT(*)` delivers: a number for each group, or a single one without groups. -/
def Source.counts (s : Source V) : List Nat :=
  match s.ending with
  | .grouped names => (Row.groups names (s.rows fun _ => none)).map List.length
  | _ => [(s.rows fun _ => none).length]

theorem Source.length_image (server : Server V) (s : Source V) (columns : List Column) :
    (s.image server columns fun _ => none).length = s.size := by
  unfold Source.image Source.size
  split <;> simp [*]

theorem Source.counts_of_ungrouped {s : Source V} (h : ∀ names, s.ending ≠ .grouped names) :
    s.counts = [s.size] := by
  unfold Source.counts Source.size
  split
  · rename_i names hg
    exact absurd hg (h names)
  · rfl

section

variable (server : Server V) (db : Instance V)

/-- The numbers that `SELECT COUNT(*)` delivers for a fragment. -/
def Fragment.counts (f : Fragment) : Option (List Nat) :=
  (f.evaluate server db []).map Source.counts

/-- Whether `SELECT 1` delivers a row for a fragment. -/
def Fragment.hasRows (f : Fragment) : Option Bool :=
  (f.evaluate server db []).map fun s =>
    !(s.image server [.computed "1" "1"] fun _ => none).isEmpty

end

variable {server : Server V} {db : Instance V} {scope : List String}

theorem Source.ending_of_foldlM {s t : Source V} {ss : List (Source V)} (hs : s.ending = .chain)
    (h : ss.foldlM Source.join s = some t) : t.ending = .chain := by
  induction ss generalizing s with
  | nil =>
    cases h
    exact hs
  | cons x xs ih =>
    rw [List.foldlM_cons] at h
    obtain ⟨u, hu, h⟩ := Option.bind_eq_some_iff.mp h
    obtain ⟨-, -, rfl⟩ := Source.join_eq_some_iff.mp hu
    exact ih rfl h

/-- The items of a chain have no clauses. -/
theorem IsChain.ending_of_mem {f : Fragment} (h : IsChain f) {ss : List (Source V)}
    (hi : f.items server db scope = some ss) : ∀ s ∈ ss, s.ending = .chain := by
  match h with
  | .item (.table t) =>
    cases hi
    simp
  | .item (.subquery columns aliasName _) =>
    obtain ⟨_, -, hi⟩ := Option.bind_eq_some_iff.mp hi
    obtain ⟨s, -, hi⟩ := Option.bind_eq_some_iff.mp hi
    obtain ⟨q, hq, hi⟩ := Option.bind_eq_some_iff.mp hi
    cases hi
    unfold Source.select at hq
    split at hq
    · cases hq
      simp
    · cases hq
  | .join hl hr =>
    obtain ⟨ls, hls, hi⟩ := Option.bind_eq_some_iff.mp hi
    obtain ⟨rs, hrs, hi⟩ := Option.bind_eq_some_iff.mp hi
    cases hi
    exact List.forall_mem_append.mpr ⟨hl.ending_of_mem hls, hr.ending_of_mem hrs⟩

/-- What is read from a selection is not grouped. -/
theorem IsSelection.ungrouped {f : Fragment} (h : IsSelection f) {s : Source V}
    (hs : f.evaluate server db scope = some s) : ∀ names, s.ending ≠ .grouped names := by
  obtain ⟨ss, hi, hj⟩ := Option.bind_eq_some_iff.mp hs
  cases h with
  | chain chain =>
    have endings := chain.ending_of_mem hi
    cases ss with
    | nil => cases hj
    | cons x xs =>
      have ending := Source.ending_of_foldlM (endings x (by simp)) hj
      simp [ending]
  | filter chain condition =>
    obtain ⟨_, -, hi⟩ := Option.bind_eq_some_iff.mp hi
    obtain ⟨t, -, hi⟩ := Option.bind_eq_some_iff.mp hi
    obtain ⟨holds, -, hi⟩ := Option.bind_eq_some_iff.mp hi
    obtain ⟨q, hq, hi⟩ := Option.bind_eq_some_iff.mp hi
    cases hi
    cases hj
    unfold Source.filter at hq
    split at hq
    · cases hq
      simp
    · cases hq

end Sql

open Sql

section Counts

variable {server : Server V} {db : Instance V} {c d : Compiled} {ctx ctx' : Context}

/-- Enclosing keeps the number of rows. -/
theorem size_of_enclosed {needed : Bool} {kind : AliasKind} (h : Enclosed needed kind ctx c d ctx')
    {s : Source V} (hs : c.source.evaluate server db [] = some s) (ha : s.Accepts [] c.columns) :
    ∃ t, d.source.evaluate server db [] = some t ∧ t.size = s.size := by
  cases h with
  | kept _ => exact ⟨s, hs, rfl⟩
  | wrapped _ =>
    refine ⟨⟨c.columns.map Column.outputName, .chain, s.image server c.columns⟩, ?_, ?_⟩
    · show (Fragment.derived c.columns c.source _).evaluate server db [] = _
      rw [evaluate_derived hs, Source.select, if_pos ha]
    · exact s.length_image server c.columns

theorem exists_encloseIf (c : Compiled) (needed : Bool) (kind : AliasKind) (ctx : Context) :
    ∃ d ctx', (c.encloseIf needed kind).Returns ctx d ctx' := by
  cases needed with
  | false => exact ⟨_, _, rfl⟩
  | true => exact ⟨_, _, rfl⟩

/-- An expression that compiles for one consumer compiles for all. All get the same relation, which
is enclosed for some of them. -/
theorem exists_compile {mode : Enclosure} {e : Expr} (hr : (e.compile mode).Returns ctx d ctx') :
    ∃ c ctx₁, (e.compile .never).Returns ctx c ctx₁ ∧ ∀ mode' : Enclosure, ∃ f ctx₂,
      (e.compile mode').Returns ctx f ctx₂ ∧
        Enclosed (mode'.demands e c) .enclosed ctx₁ c f ctx₂ := by
  rw [compile_eq] at hr
  obtain ⟨c, ctx₁, hc, -⟩ := returns_bind.mp hr
  refine ⟨c, ctx₁, hc, fun mode' => ?_⟩
  obtain ⟨f, ctx₂, hf⟩ := exists_encloseIf c (mode'.demands e c) .enclosed ctx₁
  refine ⟨f, ctx₂, ?_, enclosed_of_returns hf⟩
  rw [compile_eq]
  exact returns_bind.mpr ⟨c, ctx₁, hc, hf⟩

/-- The answer of an accepted statement has as many rows as its source. -/
theorem exists_answer {s : Source V} (hs : c.source.evaluate server db [] = some s)
    (ha : s.Accepts [] c.columns) :
    ∃ names rows, (c.statement "").answer server db = some (names, rows) ∧
      rows.length = s.size := by
  refine ⟨c.columns.map Column.outputName, s.image server c.columns fun _ => none, ?_,
    s.length_image server c.columns⟩
  simp [Statement.answer, Compiled.statement, hs, Source.select, ha]

/-- What is read without groups is counted by one number, and there are rows if it is positive. -/
theorem counts_of_ungrouped {f : Fragment} {s : Source V} (hs : f.evaluate server db [] = some s)
    (hu : ∀ names, s.ending ≠ .grouped names) :
    f.counts server db = some [s.size] ∧ f.hasRows server db = some (decide (0 < s.size)) := by
  refine ⟨?_, ?_⟩
  · rw [Fragment.counts, hs, Option.map_some, Source.counts_of_ungrouped hu]
  · rw [Fragment.hasRows, hs, Option.map_some, ← s.length_image server [.computed "1" "1"]]
    cases s.image server [.computed "1" "1"] fun _ => none <;> simp

end Counts

/-! ### Queries -/

/-- The reply to a count: a row for each number. -/
def countReply (counts : List Nat) : Reply :=
  .rows [.name "n"] (some (counts.map fun n => [.int n]))

/-- The reply to the question whether there are rows. -/
def existsReply (yes : Bool) : Reply := .rows [.name "yes"] (some [[.int (if yes then 1 else 0)]])

theorem run_toInteger (n : Nat) : (Value.int n).toInteger.run.run [] = (.ok (n : Int), []) := by
  have whole : ((n : Int) * (Nat.pow 10 0 : Nat)).tdiv (1 : Nat) = n := by simp
  show ((Except.ok (((n : Int) * (Nat.pow 10 0 : Nat)).tdiv (1 : Nat)), []) :
    Except Error Int × List Notice) = _
  rw [whole]

theorem run_isTrue (yes : Bool) :
    (Value.int (if yes then 1 else 0)).isTrue.run.run [] = (.ok yes, []) := by
  cases yes <;> rfl

section Queries

variable {q : Query} {c : Compiled} {ctx : Context} {σ : Session}

/-- A single number that the server counts is the count. -/
theorem sends_count {n : Nat} (hc : (q.expr.compile .aggregate).Returns {} c ctx)
    (awaits : σ.Awaits q.database (countReply [n])) :
    q.count.Sends σ (countStatement c.source) (.ok n) := by
  refine sends_after (yields_compiling hc) fun notices => ?_
  exact sends_before (sends_execute (awaits.report notices) _) (yields_ofReport (run_toInteger n))

theorem sends_hasTuples {yes : Bool} (hc : (q.expr.compile .aggregate).Returns {} c ctx)
    (awaits : σ.Awaits q.database (existsReply yes)) :
    q.hasTuples.Sends σ (existsStatement c.source) (.ok yes) := by
  refine sends_after (yields_compiling hc) fun notices => ?_
  exact sends_before (sends_execute (awaits.report notices) _) (yields_ofReport (run_isTrue yes))

/-- Fetching with the wildcard sends the statement of the projection to all attributes. -/
theorem sends_fetch_wildcard {columns : List Label} {rows : ResultSet}
    (hc : ((Expr.project q.expr ["*"] []).compile .never).Returns {} c ctx)
    (quotable : c.header.checkQuotable = .ok ())
    (awaits : σ.Awaits q.database (.rows columns rows)) (withKeys asFrame : Bool) :
    ∃ outcome, (q.fetch [.value (.text "*")] withKeys asFrame).Sends σ (c.statement "").render
      outcome := by
  have fetched : (q.fetchTuples [.value (.text "*")]).Sends σ (c.statement "").render
      (.ok (Record.ofReply columns rows, c.header)) :=
    sends_fetchTuples (e := .project q.expr ["*"] []) rfl hc quotable awaits
  unfold Query.fetch
  cases asFrame with
  | false => exact ⟨_, sends_before fetched fun σ => ⟨σ.notices, rfl⟩⟩
  | true =>
    have framed : (q.fetchFrame [.value (.text "*")]).Sends σ (c.statement "").render
        ((Frame.ofRecords (c.header.names.map .name) (Record.ofReply columns rows)).map
          (·, c.header)) :=
      sends_before fetched (yields_map _ _)
    revert framed
    cases Frame.ofRecords (c.header.names.map .name) (Record.ofReply columns rows) with
    | error err => exact fun framed => ⟨_, sends_error framed⟩
    | ok f => exact fun framed => ⟨_, sends_before framed fun σ => ⟨σ.notices, rfl⟩⟩

end Queries

namespace Sample

theorem describes_trialCounts : trialCounts.Describes database := by
  have inactive : (retired []).Describes database :=
    ⟨⟨⟨by decide, fun n => Iff.rfl⟩, by decide⟩, trivial⟩
  refine ⟨⟨⟨⟨by decide, fun n => Iff.rfl⟩, by decide⟩, ?_⟩,
    ⟨⟨⟨by decide, fun n => Iff.rfl⟩, by decide⟩, trivial⟩, trivial⟩
  exact ⟨by simp [Restriction.Everywhere], by simp [Restriction.Everywhere, Restriction.not],
    ⟨by simp, inactive⟩, trivial⟩

-- Session 1 has two trials and session 3 is retired: one row, not one number for each group.
example : ((trialCounts.compile .aggregate).run.run {}).1.toOption.bind
    (fun f => f.source.counts server database) = some [1] := by decide

end Sample

end Relational

import Relational.Proofs.Heading
import Relational.Proofs.Levels

/-!
# Names exposed by joined items

A join splices tables and joins without restrictions into its own level, as they are and without an
alias. `separate` computes whether this brings the same table to one level twice, anywhere in an
expression. The names that the items of a level expose differ if and only if it does not, as long as
no table takes the name of an alias.
-/

namespace Relational

open Sql

/-! ### Headings -/

/-- The header that an expression has once it is compiled, settled. -/
def Expr.heading : Expr → Except Error Header
  | .table _ h _ => return h.settle
  | .project e specs _ | .aggregate e _ specs _ => do
    return (← (← e.heading).project specs).settle
  | .join l r _ => do (← l.heading).join (← r.heading)
  | .union _ => throw (.invalidStandalone .union)
  | .negation _ => throw (.invalidStandalone .negation)

/-- The header of an outcome is the heading of its expression. -/
def Outcome.Headed : Outcome → Prop
  | .opened e c | .restricted e c | .compiled _ e c => e.heading = .ok c.header.settle
  | _ => True

theorem heading_of_project {e : Expr} {c : Compiled} {specs : List String} {h : Header}
    (he : e.heading = .ok c.header.settle) (resolved : c.header.hasAliases = false)
    (hk : c.header.project specs = .ok h) :
    (do return (← (← e.heading).project specs).settle : Except Error Header) = .ok h.settle := by
  obtain ⟨k, hk, settled⟩ := Header.exists_project_settle resolved hk
  exact bind_eq_ok.mpr ⟨_, he, bind_eq_ok.mpr ⟨k, hk, pure_eq_ok.mpr settled⟩⟩

theorem Derives.headed {ctx ctx' : Context} {o : Outcome} (h : Derives ctx o ctx') :
    o.Headed := by
  induction h with
  | table t h rs => exact pure_eq_ok.mpr (Header.settle_stripAliases h).symm
  | project rs input header ih => exact heading_of_project ih input.wellShaped.2 header
  | aggregate rs input _ aggregated ih _ =>
    exact heading_of_project ih input.wellShaped.2 (aggregate_cases aggregated).1
  | join rs _ _ joined ihl ihr =>
    have settled := Header.join_settle (join_cases joined).1
    exact bind_eq_ok.mpr ⟨_, ihl, bind_eq_ok.mpr ⟨_, ihr, settled⟩⟩
  | unrestricted _ _ ih => exact ih
  | restricted _ _ ready _ ih _ =>
    rw [Outcome.Headed, header_filter, settle_header_of_enclosed ready]
    exact ih
  | compiled _ finished ih =>
    rw [Outcome.Headed, settle_header_of_enclosed finished]
    exact ih
  | _ => trivial

/-! ### Separate tables -/

/-- The tables that a join finds at the level of an expression. -/
def Expr.spliced : Expr → List TableRef
  | .table t _ [] => [t]
  | .join l r [] => l.spliced ++ r.spliced
  | _ => []

/-- Whether a test holds of the heading of an expression, if it has one. -/
def Expr.onHeading (e : Expr) (p : Header → Bool) : Bool :=
  match e.heading with
  | .ok h => p h
  | .error _ => true

mutual

/-- Whether no join brings the same table to one level twice. -/
def Expr.separate : Expr → Bool
  | .table t h rs => (Expr.table t h rs).onHeading fun k => separateAll k rs
  | .project e specs rs =>
    e.separate && (Expr.project e specs rs).onHeading fun k => separateAll k rs
  | .aggregate e g specs rs =>
    decide (e.spliced ++ g.spliced).Nodup && e.separate && g.separate &&
      (Expr.aggregate e g specs rs).onHeading fun k => separateAll k rs
  | .join l r rs =>
    decide (l.spliced ++ r.spliced).Nodup && l.separate && r.separate &&
      (Expr.join l r rs).onHeading fun k => separateAll k rs
  | .union _ | .negation _ => true
termination_by structural e => e

/-- Whether this holds inside a restriction. A relation that shares nothing with the header is not
looked at, since it does not appear in the condition. -/
def Restriction.separate (h : Header) : Restriction → Bool
  | .semijoin e =>
    (e.onHeading fun k => (h.nonBlobs.filter (· ∈ k.nonBlobs)).isEmpty) || e.separate
  | .union rs => separateAll h rs
  | .complement r => r.separate h
  | .sql _ | .tuples _ | .marker _ => true
termination_by structural r => r

/-- Whether this holds inside all restrictions. -/
def separateAll (h : Header) : List Restriction → Bool
  | [] => true
  | r :: rs => r.separate h && separateAll h rs
termination_by structural rs => rs

end

theorem onHeading_of_eq {e : Expr} {h : Header} (he : e.heading = .ok h) (p : Header → Bool) :
    e.onHeading p = p h := by
  rw [Expr.onHeading, he]

@[simp] theorem onHeading_nil (e : Expr) : (e.onHeading fun k => separateAll k []) = true := by
  unfold Expr.onHeading
  split <;> rfl

theorem separate_eq (e : Expr) :
    e.separate =
      (e.unrestricted.separate && e.onHeading fun k => separateAll k e.restrictions) := by
  cases e <;> simp [Expr.separate, Expr.unrestricted, Expr.restrictions]

theorem unrestricted_of_none {e : Expr} (h : e.restrictions = []) : e.unrestricted = e := by
  cases e <;> simp_all [Expr.unrestricted, Expr.restrictions]

theorem spliced_eq_nil {e : Expr} (h : e.isPlain = false ∨ e.restrictions ≠ []) :
    e.spliced = [] := by
  unfold Expr.spliced
  split <;> simp_all [Expr.isPlain, Expr.restrictions]

/-- The tables at the level of an outcome are those that a join finds there. -/
def Outcome.Spliced : Outcome → Prop
  | .opened e c => e.isPlain = true → tables c.source.joined = e.unrestricted.spliced
  | .restricted e c =>
    e.isPlain = true → e.restrictions = [] → tables c.source.joined = e.spliced
  | .compiled .derived e c => tables c.source.joined = e.spliced
  | _ => True

theorem tables_joined (l r : Fragment) :
    tables (Fragment.join l r).joined = tables l.joined ++ tables r.joined :=
  List.filterMap_append

theorem Derives.spliced {ctx ctx' : Context} {o : Outcome} (h : Derives ctx o ctx') :
    o.Spliced := by
  induction h with
  | table t h rs => exact fun _ => rfl
  | project rs _ _ _ => exact fun h => nomatch h
  | aggregate rs _ _ _ _ _ => exact fun h => nomatch h
  | join rs _ _ joined ihl ihr =>
    intro _
    rw [(join_cases joined).2, tables_joined, ihl, ihr]
    rfl
  | unrestricted _ none ih =>
    intro plain _
    rw [ih plain, unrestricted_of_none none]
  | restricted _ some _ _ _ _ => exact fun _ none => absurd none some
  | @compiled _ _ _ mode e c d _ finished ih =>
    cases mode with
    | derived =>
      cases finished with
      | kept h =>
        obtain ⟨plain, none⟩ := Bool.or_eq_false_iff.mp h
        exact ih (by simpa using plain) (by simpa using none)
      | wrapped h =>
        have enclosed : e.isPlain = false ∨ e.restrictions ≠ [] := by
          simpa [Enclosure.demands] using h
        exact (spliced_eq_nil enclosed).symm
    | _ => trivial
  | _ => trivial

/-- Whether the expression or the restrictions of an outcome are separate. -/
def Outcome.separate : Outcome → Bool
  | .opened e _ => e.unrestricted.separate
  | .restricted e _ | .compiled _ e _ => e.separate
  | .condition h _ r _ => r.separate h.settle
  | .operands h rs _ | .conditions h _ rs _ => separateAll h.settle rs

/-- No level has the same table twice. -/
def TablesDiffer (levels : List (List Item)) : Prop := ∀ level ∈ levels, (tables level).Nodup

theorem tablesDiffer_nil : TablesDiffer [] := by simp [TablesDiffer]

theorem tablesDiffer_append {ls ms : List (List Item)} :
    TablesDiffer (ls ++ ms) ↔ TablesDiffer ls ∧ TablesDiffer ms := by
  simp only [TablesDiffer, List.mem_append, or_imp, forall_and]

theorem tablesDiffer_cons {level : List Item} {ls : List (List Item)} :
    TablesDiffer (level :: ls) ↔ (tables level).Nodup ∧ TablesDiffer ls :=
  List.forall_mem_cons

theorem tablesDiffer_join {l r : Fragment} :
    TablesDiffer (Fragment.join l r).levels ↔
      (tables l.joined ++ tables r.joined).Nodup ∧ TablesDiffer l.levels ∧
        TablesDiffer r.levels := by
  simp only [Fragment.levels, tablesDiffer_cons, tables_joined, Fragment.inner,
    tablesDiffer_append]
  constructor
  · rintro ⟨nodup, hl, hr⟩
    exact ⟨nodup, ⟨nodup.of_append_left, hl⟩, nodup.of_append_right, hr⟩
  · rintro ⟨nodup, ⟨-, hl⟩, -, hr⟩
    exact ⟨nodup, hl, hr⟩

theorem tablesDiffer_enclosed {needed : Bool} {kind : AliasKind} {c d : Compiled}
    {ctx ctx' : Context} (h : Enclosed needed kind ctx c d ctx') :
    TablesDiffer d.source.levels ↔ TablesDiffer c.source.levels := by
  cases h with
  | kept _ => rfl
  | wrapped _ =>
    rw [levels_enclose, tablesDiffer_cons]
    exact and_iff_right .nil

theorem tablesDiffer_filter {c : Compiled} {cs : List Cond} :
    TablesDiffer (c.filter (conjunction cs)).source.levels ↔
      TablesDiffer c.source.levels ∧ TablesDiffer (cs.flatMap Cond.inner) := by
  simp only [TablesDiffer, mem_levels_filter, or_imp, forall_and]

/-- Two sides bring different tables to a level if each is separate and they share none. -/
theorem tablesDiffer_sides {l r : Expr} {c d : Compiled}
    (left : tables c.source.joined = l.spliced) (right : tables d.source.joined = r.spliced)
    (ihl : TablesDiffer c.source.levels ↔ l.separate = true)
    (ihr : TablesDiffer d.source.levels ↔ r.separate = true) :
    TablesDiffer (Fragment.join c.source d.source).levels ↔
      (decide (l.spliced ++ r.spliced).Nodup && l.separate && r.separate) = true := by
  rw [tablesDiffer_join, left, right, ihl, ihr, Bool.and_eq_true, Bool.and_eq_true,
    decide_eq_true_eq, and_assoc]

/-- The tables at each level differ if and only if the outcome is separate. -/
theorem Derives.tablesDiffer_iff {ctx ctx' : Context} {o : Outcome} (h : Derives ctx o ctx') :
    TablesDiffer o.levels ↔ o.separate = true := by
  induction h with
  | table t h rs =>
    have single : TablesDiffer (Fragment.table t).levels :=
      tablesDiffer_cons.mpr ⟨List.nodup_singleton t, tablesDiffer_nil⟩
    simp [Outcome.levels, single, Outcome.separate, Expr.unrestricted, Expr.separate]
  | project rs _ _ ih => 
    simpa [Outcome.levels, Outcome.separate, Expr.unrestricted, Expr.separate] using ih
  | aggregate rs input grouping aggregated ihc ihd =>
    obtain ⟨-, -, source⟩ := aggregate_cases aggregated
    rw [Outcome.levels, source]
    refine (tablesDiffer_sides input.spliced grouping.spliced ihc ihd).trans ?_
    simp [Outcome.separate, Expr.unrestricted, Expr.separate]
  | join rs left right joined ihl ihr =>
    obtain ⟨-, source⟩ := join_cases joined
    rw [Outcome.levels, source]
    refine (tablesDiffer_sides left.spliced right.spliced ihl ihr).trans ?_
    simp [Outcome.separate, Expr.unrestricted, Expr.separate]
  | unrestricted _ none ih =>
    simpa [Outcome.levels, Outcome.separate, unrestricted_of_none none] using ih
  | @restricted _ _ _ _ e c d cs opened _ ready _ ih ihcs =>
    have heading : e.heading = .ok c.header.settle := opened.headed
    simp only [Outcome.levels, Outcome.separate] at ih ihcs
    rw [Outcome.levels, tablesDiffer_filter, tablesDiffer_enclosed ready, ih, ihcs,
      settle_header_of_enclosed ready, Outcome.separate, separate_eq e, onHeading_of_eq heading,
      Bool.and_eq_true]
  | compiled _ finished ih => exact (tablesDiffer_enclosed finished).trans ih
  | sql h negated text => simp [Outcome.levels, Cond.inner, tablesDiffer_nil, Outcome.separate,
      Restriction.separate]
  | tuples condition =>
    simp [Outcome.levels, levels_tuples condition, tablesDiffer_nil, Outcome.separate,
      Restriction.separate]
  | @semijoin _ _ _ h negated e c d input ready ih =>
    have heading : e.heading = .ok c.header.settle := input.headed
    have names : d.header.nonBlobs = c.header.nonBlobs := by
      rw [← Header.nonBlobs_settle d.header, settle_header_of_enclosed ready,
        Header.nonBlobs_settle]
    simp only [Outcome.levels, Outcome.separate] at ih
    rw [Outcome.levels, levels_condition, names, Outcome.separate, Restriction.separate,
      onHeading_of_eq heading, Header.nonBlobs_settle, Header.nonBlobs_settle]
    -- A relation that shares nothing leaves no level behind, whatever is inside it.
    split
    · rename_i none
      simp [none, tablesDiffer_nil]
    · rename_i some
      rw [tablesDiffer_enclosed ready, ih]
      simp [some]
  | union negated _ ih => simpa [Outcome.levels, Outcome.separate, Restriction.separate] using ih
  | complement negated _ ih =>
    simpa [Outcome.levels, Outcome.separate, Restriction.separate, separateAll] using ih
  | noOperands h => simp [Outcome.levels, tablesDiffer_nil, Outcome.separate, separateAll]
  | loneMarker _ ih =>
    simpa [Outcome.levels, Outcome.separate, separateAll, Restriction.separate, Cond.inner] using ih
  | operand _ _ ihw ihcs =>
    simp only [Outcome.levels, Outcome.separate] at ihw ihcs
    simp [Outcome.levels, inner_getD, tablesDiffer_append, ihw, ihcs, Outcome.separate,
      separateAll]
  | noConditions h negated => simp [Outcome.levels, tablesDiffer_nil, Outcome.separate, separateAll]
  | marker negated _ ih =>
    simpa [Outcome.levels, Outcome.separate, separateAll, Restriction.separate] using ih
  | clause _ _ ihw ihcs =>
    simp only [Outcome.levels, Outcome.separate] at ihw ihcs
    simp [Outcome.levels, tablesDiffer_append, ihw, ihcs, Outcome.separate, separateAll]

/-- **The names exposed at every level differ if and only if no join brings the same table to one
level twice.** The only other clash is a table without a schema that has the name of an alias at its
level, and every alias begins with the stem. -/
theorem nodup_exposedName_statement {e : Expr} {suffix : String} {s : Statement}
    {ctx ctx' : Context} (hr : (e.statement suffix).Returns ctx s ctx') :
    ((∀ level ∈ s.levels, (level.map exposedName).Nodup) ↔
        e.separate = true ∧ ∀ level ∈ s.levels, Apart level) ∧
      ∀ level ∈ s.levels, ∀ a ∈ aliases level, ctx.stem.toList <+: a.toList := by
  obtain ⟨c, ctx₁, hc, hr⟩ := returns_bind.mp hr
  obtain ⟨rfl, rfl⟩ := returns_pure.mp hr
  have derived := derives_of_returns hc
  have fresh : Fresh ctx ctx₁ c.source.levels := derived.fresh
  have differ : TablesDiffer c.source.levels ↔ e.separate = true := derived.tablesDiffer_iff
  refine ⟨?_, fun level hl a ha => ?_⟩
  · rw [← differ]
    simp only [nodup_exposedName_iff]
    constructor
    · intro h
      exact ⟨fun level hl => (h level hl).1, fun level hl => (h level hl).2.2⟩
    · rintro ⟨tables, apart⟩ level hl
      exact ⟨tables level hl, (fresh.drawn level hl).nodup, apart level hl⟩
  · obtain ⟨kind, i, -, -, rfl⟩ := (fresh.drawn level hl).between a ha
    exact ⟨_, by rw [freshAlias, String.append_assoc, String.toList_append]⟩

namespace Sample

/-- Sessions joined with their trials, and with the number of trials. -/
def activeCounts : Expr := .join (.join (sessions []) (trials []) []) trialCounts []

theorem nodup_exposedName_activeCounts :
    ∃ s ctx, (activeCounts.statement "").Returns {} s ctx ∧
      (((∀ level ∈ s.levels, (level.map exposedName).Nodup) ↔
          activeCounts.separate = true ∧ ∀ level ∈ s.levels, Apart level) ∧
        ∀ level ∈ s.levels, ∀ a ∈ aliases level, "$".toList <+: a.toList) ∧
      activeCounts.separate = true ∧ ∀ level ∈ s.levels, Apart level :=
  have hr : (activeCounts.statement "").Returns {} _ _ := rfl
  ⟨_, _, hr, nodup_exposedName_statement hr, by decide, by decide⟩

/-- A table joined with itself is listed twice under the same name. -/
theorem not_nodup_exposedName_self :
    ∃ s ctx, ((Expr.join (sessions []) (sessions []) []).statement "").Returns {} s ctx ∧
      ¬ ∀ level ∈ s.levels, (level.map exposedName).Nodup :=
  ⟨_, _, rfl, by decide⟩

end Sample

end Relational

import Relational.Proofs.Aliases

/-!
# The levels of a statement

Every `SELECT` of a statement joins items: tables, and subqueries under their aliases. `levels`
lists the items of each `SELECT`, those of subqueries included. The aliases at one level are drawn
from different numbers, so they are different.
-/

namespace Relational

namespace Sql

/-- An item that a `SELECT` joins: a table, or a subquery under its alias. -/
abbrev Item := TableRef ⊕ String

/-- The name that an item exposes: the schema and name of a table, or the alias of a subquery. -/
def exposedName : Item → String × String
  | .inl t => (t.schema, t.name)
  | .inr aliasName => ("", aliasName)

/-- The tables among items. -/
def tables (items : List Item) : List TableRef := items.filterMap Sum.getLeft?

/-- The aliases among items. -/
def aliases (items : List Item) : List String := items.filterMap Sum.getRight?

theorem mem_tables {items : List Item} {t : TableRef} : t ∈ tables items ↔ .inl t ∈ items := by
  simp [tables]

theorem mem_aliases {items : List Item} {a : String} : a ∈ aliases items ↔ .inr a ∈ items := by
  simp [aliases]

theorem mem_map_exposedName_inl {items : List Item} {t : TableRef} :
    exposedName (.inl t) ∈ items.map exposedName ↔
      t ∈ tables items ∨ t.schema = "" ∧ t.name ∈ aliases items := by
  rw [List.mem_map, mem_tables, mem_aliases]
  constructor
  · rintro ⟨u | a, hm, e⟩
    · have same : u = t := by
        obtain ⟨schema, name⟩ := Prod.mk.inj e
        cases u
        cases t
        cases schema
        cases name
        rfl
      exact .inl (same ▸ hm)
    · obtain ⟨schema, rfl⟩ := Prod.mk.inj e
      exact .inr ⟨schema.symm, hm⟩
  · rintro (ht | ⟨schema, ha⟩)
    · exact ⟨.inl t, ht, rfl⟩
    · exact ⟨.inr t.name, ha, by rw [exposedName, exposedName, schema]⟩

theorem mem_map_exposedName_inr {items : List Item} {a : String} :
    exposedName (.inr a) ∈ items.map exposedName ↔
      a ∈ aliases items ∨ ∃ t ∈ tables items, t.schema = "" ∧ t.name = a := by
  rw [List.mem_map, mem_aliases]
  constructor
  · rintro ⟨t | b, hm, e⟩
    · exact .inr ⟨t, mem_tables.mpr hm, Prod.mk.inj e⟩
    · cases (Prod.mk.inj e).2
      exact .inl hm
  · rintro (ha | ⟨t, ht, schema, rfl⟩)
    · exact ⟨.inr a, ha, rfl⟩
    · exact ⟨.inl t, mem_tables.mp ht, by rw [exposedName, exposedName, schema]⟩

/-- No table without a schema has the name of an alias. -/
def Apart (items : List Item) : Prop :=
  ∀ t ∈ tables items, t.schema = "" → t.name ∉ aliases items

instance (items : List Item) : Decidable (Apart items) :=
  inferInstanceAs (Decidable (∀ t ∈ tables items, _))

/-- Exposed names differ if and only if tables differ, aliases differ, and the two are apart. -/
theorem nodup_exposedName_iff {items : List Item} :
    (items.map exposedName).Nodup ↔
      (tables items).Nodup ∧ (aliases items).Nodup ∧ Apart items := by
  induction items with
  | nil => simp [tables, aliases, Apart]
  | cons i items ih =>
    rw [List.map_cons, List.nodup_cons, ih]
    cases i with
    | inl t =>
      have ht : tables (.inl t :: items) = t :: tables items := rfl
      have ha : aliases (.inl t :: items) = aliases items := rfl
      simp only [mem_map_exposedName_inl, Apart, ht, ha, List.nodup_cons, List.mem_cons,
        forall_eq_or_imp]
      tauto
    | inr a =>
      have ht : tables (.inr a :: items) = tables items := rfl
      have ha : aliases (.inr a :: items) = a :: aliases items := rfl
      simp only [mem_map_exposedName_inr, Apart, ht, ha, List.nodup_cons, List.mem_cons, not_or,
        not_exists, not_and, forall_and]
      tauto

/-! ### Levels -/

/-- The items that a fragment joins. -/
def Fragment.joined : Fragment → List Item
  | .table t => [.inl t]
  | .derived _ _ aliasName => [.inr aliasName]
  | .join l r => l.joined ++ r.joined
  | .filter source _ => source.joined
  | .group source _ => source.joined

mutual

/-- The items of each `SELECT` inside a fragment. -/
def Fragment.inner : Fragment → List (List Item)
  | .table _ => []
  | .derived _ source _ => source.joined :: source.inner
  | .join l r => l.inner ++ r.inner
  | .filter source c => source.inner ++ c.inner
  | .group source _ => source.inner
termination_by structural f => f

/-- The items of each `SELECT` inside a condition. -/
def Cond.inner : Cond → List (List Item)
  | .raw _ | .constant _ | .isNull _ | .equal .. => []
  | .conj cs | .disj cs => innerAll cs
  | .paren c | .not c => c.inner
  | .within _ _ source => source.joined :: source.inner
termination_by structural c => c

/-- The items of each `SELECT` inside several conditions. -/
def innerAll : List Cond → List (List Item)
  | [] => []
  | c :: cs => c.inner ++ innerAll cs
termination_by structural cs => cs

end

/-- The items of a `SELECT` from a fragment, and of each `SELECT` inside it. -/
def Fragment.levels (f : Fragment) : List (List Item) := f.joined :: f.inner

/-- The items of each `SELECT` of a statement. -/
def Statement.levels (s : Statement) : List (List Item) := s.source.levels

theorem innerAll_eq_flatMap (cs : List Cond) : innerAll cs = cs.flatMap Cond.inner := by
  induction cs with
  | nil => rfl
  | cons c cs ih => rw [innerAll, ih, List.flatMap_cons]

@[simp] theorem inner_conj (cs : List Cond) : (Cond.conj cs).inner = cs.flatMap Cond.inner :=
  innerAll_eq_flatMap cs

@[simp] theorem inner_disj (cs : List Cond) : (Cond.disj cs).inner = cs.flatMap Cond.inner :=
  innerAll_eq_flatMap cs

@[simp] theorem inner_bracket (negated : Bool) (c : Cond) :
    (bracket negated c).inner = c.inner := by
  cases negated <;> rfl

theorem IsSimple.inner_eq_nil {c : Cond} (h : IsSimple c) : c.inner = [] := by
  induction h with
  | constant _ | isNull _ | equal _ _ => rfl
  | conj _ ih | disj _ ih => simpa using ih
  | paren _ ih | not _ ih => exact ih

end Sql

open Sql

/-- The items of each `SELECT` in what a stage of a compilation comes to. -/
def Outcome.levels : Outcome → List (List Item)
  | .opened _ c | .restricted _ c | .compiled _ _ c => c.source.levels
  | .condition _ _ _ w => w.toList.flatMap Cond.inner
  | .operands _ _ cs | .conditions _ _ _ cs => cs.flatMap Cond.inner

theorem levels_enclose (c : Compiled) (aliasName : String) :
    (c.enclose aliasName).source.levels = [.inr aliasName] :: c.source.levels := rfl

theorem mem_levels_filter {c : Compiled} {cs : List Cond} {level : List Item} :
    level ∈ (c.filter (conjunction cs)).source.levels ↔
      level ∈ c.source.levels ∨ level ∈ cs.flatMap Cond.inner := by
  cases cs with
  | nil => simp [conjunction, Compiled.filter]
  | cons d ds =>
    simp only [conjunction, Compiled.filter, Fragment.levels, Fragment.joined, Fragment.inner,
      inner_conj, List.mem_cons, List.mem_append, or_assoc]

/-- The levels of a match are those of the relation, unless nothing is compared. -/
theorem levels_condition (c : Compiled) (h : Header) (negated : Bool) :
    (c.condition h negated).toList.flatMap Cond.inner =
      if h.nonBlobs.filter (· ∈ c.header.nonBlobs) = [] then [] else c.source.levels := by
  unfold Compiled.condition
  split
  · rename_i none
    rw [if_pos none]
    cases negated <;> rfl
  · rename_i some
    rw [if_neg some]
    simp [Cond.inner, Fragment.levels]

theorem levels_tuples {t : TupleSet} {h : Header} {negated : Bool} {w : Option Cond}
    {ctx ctx' : Context} (hr : (t.condition h negated).Returns ctx w ctx') :
    w.toList.flatMap Cond.inner = [] := by
  rw [List.flatMap_eq_nil_iff]
  exact fun c hc => (isSimple_of_tuples hr c (Option.mem_toList.mp hc)).inner_eq_nil

theorem inner_getD (w : Option Cond) :
    (w.getD (.constant true)).inner = w.toList.flatMap Cond.inner := by
  cases w <;> simp [Cond.inner]

/-! ### Aliases at one level -/

mutual

/-- The aliases at one level are among those of the fragment, in the same order. -/
theorem aliases_sublist_introduced (f : Fragment) :
    (aliases f.joined).Sublist f.introduced ∧
      ∀ level ∈ f.inner, (aliases level).Sublist f.introduced :=
  match f with
  | .table t => ⟨.slnil, fun level hl => nomatch hl⟩
  | .derived columns source aliasName => by
    obtain ⟨joined, inner⟩ := aliases_sublist_introduced source
    refine ⟨List.sublist_append_right _ _, fun level hl => ?_⟩
    rcases List.mem_cons.mp hl with rfl | hl
    · exact joined.trans (List.sublist_append_left _ _)
    · exact (inner level hl).trans (List.sublist_append_left _ _)
  | .join l r => by
    obtain ⟨left, insideLeft⟩ := aliases_sublist_introduced l
    obtain ⟨right, insideRight⟩ := aliases_sublist_introduced r
    constructor
    · rw [aliases, Fragment.joined, List.filterMap_append]
      exact left.append right
    · intro level hl
      rcases List.mem_append.mp hl with hl | hl
      · exact (insideLeft level hl).trans (List.sublist_append_left _ _)
      · exact (insideRight level hl).trans (List.sublist_append_right _ _)
  | .filter source c => by
    obtain ⟨joined, inner⟩ := aliases_sublist_introduced source
    refine ⟨joined.trans (List.sublist_append_left _ _), fun level hl => ?_⟩
    rcases List.mem_append.mp hl with hl | hl
    · exact (inner level hl).trans (List.sublist_append_left _ _)
    · exact (aliases_sublist_introduced_cond c level hl).trans (List.sublist_append_right _ _)
  | .group source columns => aliases_sublist_introduced source
termination_by structural f

theorem aliases_sublist_introduced_cond (c : Cond) :
    ∀ level ∈ c.inner, (aliases level).Sublist c.introduced :=
  match c with
  | .raw _ | .constant _ | .isNull _ | .equal _ _ => fun level hl => nomatch hl
  | .conj cs | .disj cs => aliases_sublist_introduced_all cs
  | .paren c | .not c => aliases_sublist_introduced_cond c
  | .within columns negated source => by
    obtain ⟨joined, inner⟩ := aliases_sublist_introduced source
    exact List.forall_mem_cons.mpr ⟨joined, inner⟩
termination_by structural c

theorem aliases_sublist_introduced_all (cs : List Cond) :
    ∀ level ∈ innerAll cs, (aliases level).Sublist (introducedAll cs) :=
  match cs with
  | [] => fun level hl => nomatch hl
  | c :: cs => by
    intro level hl
    rcases List.mem_append.mp hl with hl | hl
    · exact (aliases_sublist_introduced_cond c level hl).trans (List.sublist_append_left _ _)
    · exact (aliases_sublist_introduced_all cs level hl).trans (List.sublist_append_right _ _)
termination_by structural cs

end

/-- The aliases at each level were drawn between two contexts. -/
structure Fresh (ctx ctx' : Context) (levels : List (List Item)) : Prop where
  stem : ctx'.stem = ctx.stem
  next_le : ctx.next ≤ ctx'.next
  drawn : ∀ level ∈ levels, Drawn ctx.stem ctx.next ctx'.next (aliases level)

/-- The aliases at every level of a compiled fragment are drawn while it comes about. -/
theorem Derives.fresh {ctx ctx' : Context} {mode : Enclosure} {e : Expr} {c : Compiled}
    (h : Derives ctx (.compiled mode e c) ctx') : Fresh ctx ctx' c.source.levels := by
  have draws : Draws ctx ctx' c.source.introduced := h.draws
  obtain ⟨joined, inner⟩ := aliases_sublist_introduced c.source
  refine ⟨draws.stem, draws.next_le, List.forall_mem_cons.mpr ⟨?_, fun level hl => ?_⟩⟩
  · exact draws.drawn.sublist joined
  · exact draws.drawn.sublist (inner level hl)

end Relational

import Mathlib.Data.List.Find
import Relational.Proofs.Heading

/-!
# Fragments that realize relations

A compiled expression realizes a relation if its select list, applied to what its fragment reads,
gives the rows of the relation, whatever the rows around it are. The realization is exact if the
fragment itself has these rows. Enclosing makes a realization exact; projections and restrictions
take a realization, and joins and aggregations take exact ones.
-/

namespace Relational

namespace Header

variable {V : Type} {h : Header}

/-- Every computed attribute has an alias. -/
def IsNamed (h : Header) : Prop := ∀ a ∈ h.attributes, a.expression ≠ none → a.aliasName ≠ ""

theorem isNamed_of_settled (hs : h.settle = h) : h.IsNamed := fun a ha he =>
  absurd (settle_eq_self_iff.mp hs a ha).2 he

theorem settle_of_isNamed (hn : h.IsNamed) (hr : h.hasAliases = false) : h.settle = h := by
  refine settle_eq_self_iff.mpr fun a ha => ?_
  have resolved := hasAliases_eq_false_iff.mp hr a ha
  exact ⟨resolved, by_contra fun he => hn a ha he resolved⟩

theorem image_congr {f g : Attribute → Option V} (e : ∀ a ∈ h.attributes, f a = g a) :
    h.image f = h.image g := by
  funext n
  unfold image
  cases hf : h.find? n with
  | none => rfl
  | some a => exact e a (find?_eq_some_iff.mp hf).1

/-- The attributes of a settled header are read from the row. -/
theorem image_of_settled (hs : h.settle = h) (server : Server V) (r : Row V) :
    h.image (Attribute.cell server r) = r.only h.names := by
  funext n
  by_cases hn : n ∈ h.names
  · obtain ⟨a, ha, rfl⟩ := mem_names_iff.mp hn
    obtain ⟨resolved, plain⟩ := settle_eq_self_iff.mp hs a ha
    have found : h.find? a.outputName = some a := find?_eq_some_iff.mpr ⟨ha, rfl⟩
    rw [Row.only_of_mem hn, image, found, Option.bind_some]
    simp [Attribute.cell, plain, Attribute.outputName, resolved]
  · rw [within_image h _ n hn, Row.within_only h.names r n hn]

end Header

namespace Compiled

open Sql

variable {V : Type} {c : Compiled}

theorem outputName_ofAttribute {a : Attribute} (hn : a.expression ≠ none → a.aliasName ≠ "") :
    (Sql.Column.ofAttribute a).outputName = a.outputName := by
  unfold Sql.Column.ofAttribute
  split
  · rename_i text he
    have := hn (by simp [he])
    simp [Sql.Column.outputName, Attribute.outputName, this]
  · split
    · rename_i ha
      simp [Sql.Column.outputName, Attribute.outputName, ha]
    · rename_i ha
      simp [Sql.Column.outputName, Attribute.outputName, ha]

theorem map_outputName_columns (hn : c.header.IsNamed) :
    c.columns.map Sql.Column.outputName = c.header.names := by
  rw [columns, List.map_map]
  exact List.map_congr_left fun a ha => outputName_ofAttribute (hn a ha)

/-- The row that a select list makes has the cells of the attributes. -/
theorem tuple_columns (hn : c.header.IsNamed) (cell : Sql.Column → Option V) :
    tuple c.columns cell = c.header.image (cell ∘ Sql.Column.ofAttribute) := by
  funext n
  have same : c.header.attributes.find? (fun a => (Sql.Column.ofAttribute a).outputName == n) =
      c.header.find? n :=
    List.find?_congr fun a ha => by rw [outputName_ofAttribute (hn a ha)]
  unfold tuple Header.image columns
  rw [List.find?_map, Function.comp_def, same]
  cases c.header.find? n <;> rfl

theorem cell_ofAttribute (server : Server V) (r : Row V) (a : Attribute) :
    (Sql.Column.ofAttribute a).cell server r = a.cell server r := by
  unfold Sql.Column.ofAttribute Attribute.cell
  split
  · simp [Sql.Column.cell, *]
  · split <;> simp [Sql.Column.cell, *]

theorem groupCell_ofAttribute (server : Server V) (g : List (Row V)) (a : Attribute) :
    (Sql.Column.ofAttribute a).groupCell server g =
      match a.expression with
      | some text => server.summary text g
      | none => server.pick g a.name := by
  unfold Sql.Column.ofAttribute
  split
  · simp [Sql.Column.groupCell, *]
  · split <;> simp [Sql.Column.groupCell, *]

theorem isVisible_ofAttribute {a : Attribute} {names : List String} :
    (Sql.Column.ofAttribute a).isVisible names = true ↔ (a.expression = none → a.name ∈ names) := by
  unfold Sql.Column.ofAttribute
  split
  · simp [Sql.Column.isVisible, *]
  · split <;> simp [Sql.Column.isVisible, *]

end Compiled

open Sql

variable {V : Type}

/-- The row around a source is hidden by the columns of the source. -/
theorem only_visible {s : Source V} {names : List String} (visible : ∀ n ∈ names, n ∈ s.columns)
    (outer r : Row V) : (s.visible outer r).only names = r.only names := by
  funext n
  by_cases hn : n ∈ names
  · rw [Row.only_of_mem hn, Row.only_of_mem hn, Source.visible, Row.merge, if_pos (visible n hn)]
  · rw [Row.within_only _ _ n hn, Row.within_only _ _ n hn]

variable [DecidableEq V] (server : Server V) (db : Instance V)

/-- A compiled expression reads from a source that has the columns of its attributes, and its select
list makes the rows of a relation of it. The source ends with a clause only if the fragment shows it
or the header has aliases. -/
structure Selects (c : Compiled) (rel : Relation V) (scope : List String) (s : Source V) :
    Prop where
  evaluates : c.source.evaluate server db scope = some s
  visible : ∀ a ∈ c.header.attributes, a.expression = none → a.name ∈ s.columns
  filtered : s.ending = .filtered → c.source.isFiltered = true
  grouped : ∀ names, s.ending = .grouped names → c.header.hasAliases = true
  rows : ∀ outer, s.image server c.columns outer = rel.rows

/-- A compiled expression realizes a relation. -/
structure Realizes (c : Compiled) (rel : Relation V) : Prop where
  header : rel.header = c.header.settle
  named : c.header.IsNamed
  keyed : c.header.primaryKey ≠ []
  source : ∀ scope, ∃ s, Selects server db c rel scope s

/-- A compiled expression realizes a relation, and its fragment has the rows of the relation. -/
structure RealizesExactly (c : Compiled) (rel : Relation V) : Prop where
  header : rel.header = c.header
  settled : c.header.settle = c.header
  keyed : c.header.primaryKey ≠ []
  source : ∀ scope, ∃ s, c.source.evaluate server db scope = some s ∧ s.ending = .chain ∧
    (∀ n, n ∈ s.columns ↔ n ∈ rel.header.names) ∧ ∀ outer, s.rows outer = rel.rows

variable {server db} {c d : Compiled} {rel : Relation V}

/-- Under a settled header, a select list cuts the rows down to the names of the header. -/
theorem image_of_settled {s : Source V} (hs : c.header.settle = c.header)
    (visible : ∀ n ∈ c.header.names, n ∈ s.columns)
    (ungrouped : ∀ names, s.ending ≠ .grouped names) (outer : Row V) :
    s.image server c.columns outer = (s.rows outer).map (Row.only c.header.names) := by
  have cut (r : Row V) : tuple c.columns (Sql.Column.cell server (s.visible outer r)) =
      r.only c.header.names := by
    rw [Compiled.tuple_columns (Header.isNamed_of_settled hs)]
    have cells : Sql.Column.cell server (s.visible outer r) ∘ Sql.Column.ofAttribute =
        Attribute.cell server (s.visible outer r) := by
      funext a
      exact Compiled.cell_ofAttribute server _ a
    rw [cells, Header.image_of_settled hs, only_visible visible]
  unfold Source.image
  split
  · rename_i names hg
    exact absurd hg (ungrouped names)
  · exact List.map_congr_left fun r _ => cut r

theorem Selects.accepts {scope : List String} {s : Source V} (h : Selects server db c rel scope s)
    (named : c.header.IsNamed) (keyed : c.header.primaryKey ≠ []) : s.Accepts scope c.columns := by
  refine ⟨?_, ?_, ?_⟩
  · obtain ⟨n, hn⟩ := List.exists_mem_of_ne_nil _ keyed
    obtain ⟨a, ha, -⟩ := Header.mem_primaryKey_iff.mp hn
    exact List.ne_nil_of_mem (List.mem_map_of_mem ha)
  · rw [Compiled.map_outputName_columns named]
    exact c.header.nodup
  · intro column hc
    obtain ⟨a, ha, rfl⟩ := List.mem_map.mp hc
    rw [Compiled.isVisible_ofAttribute]
    exact fun he => List.mem_append_left scope (h.visible a ha he)

theorem Selects.visible_names {scope : List String} {s : Source V}
    (h : Selects server db c rel scope s) (settled : c.header.settle = c.header) :
    ∀ n ∈ c.header.names, n ∈ s.columns := by
  intro n hn
  obtain ⟨a, ha, rfl⟩ := Header.mem_names_iff.mp hn
  obtain ⟨resolved, plain⟩ := Header.settle_eq_self_iff.mp settled a ha
  simpa [Attribute.outputName, resolved] using h.visible a ha plain

/-- An exact realization is a realization. -/
theorem RealizesExactly.realizes (h : RealizesExactly server db c rel) :
    Realizes server db c rel := by
  refine ⟨h.header.trans h.settled.symm, Header.isNamed_of_settled h.settled, h.keyed, ?_⟩
  intro scope
  obtain ⟨s, evaluates, ending, columns, rows⟩ := h.source scope
  rw [h.header] at columns
  refine ⟨s, evaluates, ?_, ?_, ?_, ?_⟩
  · intro a ha _
    have resolved := (Header.settle_eq_self_iff.mp h.settled a ha).1
    rw [columns, Header.mem_names_iff]
    exact ⟨a, ha, by simp [Attribute.outputName, resolved]⟩
  · intro filtered
    rw [ending] at filtered
    cases filtered
  · intro names grouped
    rw [ending] at grouped
    cases grouped
  · intro outer
    rw [image_of_settled h.settled (fun n hn => (columns n).mpr hn) (by simp [ending]) outer, rows]
    conv_rhs => rw [← List.map_id rel.rows]
    exact List.map_congr_left fun r hr => Row.only_of_within (h.header ▸ rel.within r hr)

/-- A subquery has the rows of the relation that it encloses. -/
theorem Realizes.enclose (h : Realizes server db c rel) (aliasName : String) :
    RealizesExactly server db (c.enclose aliasName) rel := by
  have stripped : c.header.stripAliases = rel.header := by
    rw [h.header, ← Header.settle_stripAliases]
    refine (Header.settle_of_isNamed (fun a ha he => ?_) (Header.hasAliases_stripAliases _)).symm
    obtain ⟨b, hb, rfl⟩ := List.mem_map.mp ha
    by_cases hal : b.aliasName = ""
    · rw [Attribute.resolve, if_pos hal] at he ⊢
      exact h.named b hb he
    · rw [Attribute.resolve, if_neg hal] at he
      exact absurd rfl he
  have settled : rel.header.settle = rel.header := by
    rw [h.header, Header.settle_settle]
  refine ⟨stripped.symm, ?_, ?_, ?_⟩
  · show c.header.stripAliases.settle = c.header.stripAliases
    rw [stripped, settled]
  · show c.header.stripAliases.primaryKey ≠ []
    rw [stripped, h.header, Header.primaryKey_settle]
    exact h.keyed
  · intro scope
    obtain ⟨s, selects⟩ := h.source scope
    have accepts := selects.accepts h.named h.keyed
    refine ⟨⟨c.columns.map Sql.Column.outputName, .chain, s.image server c.columns⟩, ?_, rfl, ?_,
      selects.rows⟩
    · show (Fragment.derived c.columns c.source aliasName).evaluate server db scope = _
      rw [evaluate_derived selects.evaluates, Source.select, if_pos accepts]
    · intro n
      show n ∈ c.columns.map Sql.Column.outputName ↔ _
      rw [Compiled.map_outputName_columns h.named, h.header, Header.names_settle]

/-- The join of two fragments has the combined rows of their relations. -/
theorem RealizesExactly.combinations {right : Relation V}
    (hc : RealizesExactly server db c rel) (hd : RealizesExactly server db d right)
    (scope : List String) :
    ∃ s, (Fragment.join c.source d.source).evaluate server db scope = some s ∧ s.ending = .chain ∧
      (∀ n, n ∈ s.columns ↔ n ∈ rel.header.names ∨ n ∈ right.header.names) ∧
        ∀ outer, s.rows outer = rel.combinations right := by
  obtain ⟨s, hs, sending, scolumns, srows⟩ := hc.source scope
  obtain ⟨t, ht, tending, tcolumns, trows⟩ := hd.source scope
  refine ⟨⟨Row.union s.columns t.columns, .chain,
    fun outer => Row.join s.columns t.columns (s.rows outer) (t.rows outer)⟩, ?_, rfl, ?_, ?_⟩
  · rw [evaluate_join hs ht, Source.join_eq_some_iff]
    exact ⟨sending, tending, rfl⟩
  · intro n
    rw [Row.mem_union, scolumns, tcolumns]
  · intro outer
    show Row.join s.columns t.columns (s.rows outer) (t.rows outer) = rel.combinations right
    rw [srows, trows]
    exact Row.join_congr scolumns tcolumns rel.rows right.rows

/-- Joins of exact realizations are exact. -/
theorem RealizesExactly.join {j : Compiled} {right joined : Relation V}
    (hc : RealizesExactly server db c rel) (hd : RealizesExactly server db d right)
    (hj : c.join d = .ok j) (hr : rel.join right = .ok joined) :
    RealizesExactly server db j joined := by
  obtain ⟨header, source⟩ := join_cases hj
  obtain ⟨heading, rows⟩ := Relation.join_eq_ok_iff.mp hr
  have same : joined.header = j.header := by
    rw [hc.header, hd.header] at heading
    exact Except.ok.inj (heading.symm.trans header)
  refine ⟨same, ?_, ?_, ?_⟩
  · have settled := Header.join_settle header
    rw [hc.settled, hd.settled] at settled
    exact (Except.ok.inj (header.symm.trans settled)).symm
  · obtain ⟨n, hn⟩ := List.exists_mem_of_ne_nil _ hc.keyed
    exact List.ne_nil_of_mem ((Header.mem_primaryKey_join_iff header).mpr (.inl hn))
  · intro scope
    obtain ⟨s, evaluates, ending, columns, combined⟩ := hc.combinations hd scope
    refine ⟨s, by rw [source, evaluates], ending, fun n => ?_, fun outer => ?_⟩
    · rw [columns, Header.mem_names_join_iff heading]
    · rw [combined, rows]

namespace Server

/-- A text, read as a condition, speaks of the given names only. -/
def ConditionWithin (server : Server V) (names : List String) (text : String) : Prop :=
  ∀ r, server.condition text r = server.condition text (r.only names)

/-- The expressions of a projection speak of the given names only. -/
def ScalarsWithin (server : Server V) (names specs : List String) : Prop :=
  ∀ spec ∈ specs, ∀ text target, Spec.parse spec = .ok (.compute text target) →
    ∀ r, server.scalar text r = server.scalar text (r.only names)

/-- The expressions of an aggregation speak of the given names only. -/
def SummariesWithin (server : Server V) (names specs : List String) : Prop :=
  ∀ spec ∈ specs, ∀ text target, Spec.parse spec = .ok (.compute text target) →
    ∀ g, server.summary text g = server.summary text (g.map (Row.only names))

end Server

/-- An attribute that is projected from a settled header is one of its columns, or it is computed
and has an alias. -/
theorem Header.project_cases_of_settled {h k : Header} {specs : List String} (hs : h.settle = h)
    (hk : h.project specs = .ok k) {a : Attribute} (ha : a ∈ k.attributes) :
    (a.expression = none ∧ a.name ∈ h.names) ∨
      ∃ spec ∈ specs, ∃ text target, Spec.parse spec = .ok (.compute text target) ∧
        a.aliasName ≠ "" ∧ a.expression = some text := by
  rcases Header.project_cases hk ha with ⟨b, hb, hab⟩ | ⟨spec, hspec, text, target, hp, ht, rfl⟩
  · obtain ⟨resolved, plain⟩ := Header.settle_eq_self_iff.mp hs b hb
    have found : b.name ∈ h.names :=
      Header.mem_names_iff.mpr ⟨b, hb, by simp [Attribute.outputName, resolved]⟩
    rcases hab with rfl | ⟨target, -, rfl⟩
    · exact .inl ⟨plain, found⟩
    · exact .inl ⟨plain, found⟩
  · exact .inr ⟨spec, hspec, text, target, hp, ht, rfl⟩

theorem Header.isNamed_project {h k : Header} {specs : List String} (hs : h.settle = h)
    (hk : h.project specs = .ok k) : k.IsNamed := by
  intro a ha he
  rcases Header.project_cases_of_settled hs hk ha with ⟨plain, -⟩ | ⟨-, -, -, -, -, named, -⟩
  · exact absurd plain he
  · exact named

/-- A projection of a realization without aliases reads from the same fragment. -/
theorem Realizes.project {h : Header} {specs : List String} {projected : Relation V}
    (hc : Realizes server db c rel) (resolved : c.header.hasAliases = false)
    (hh : c.header.project specs = .ok h) (hr : rel.project server specs = .ok projected)
    (within : server.ScalarsWithin rel.header.names specs) :
    Realizes server db ⟨h, c.source⟩ projected := by
  have settled := Header.settle_of_isNamed hc.named resolved
  have same : rel.header = c.header := hc.header.trans settled
  obtain ⟨h', hh', header, rows⟩ := Relation.project_eq_ok_iff.mp hr
  rw [same] at hh'
  cases hh.symm.trans hh'
  have named := Header.isNamed_project settled hh
  refine ⟨header, named, Header.primaryKey_project_ne_nil hh hc.keyed, fun scope => ?_⟩
  obtain ⟨s, selects⟩ := hc.source scope
  have ungrouped : ∀ names, s.ending ≠ .grouped names := by
    intro names hg
    rw [selects.grouped names hg] at resolved
    cases resolved
  have visible := selects.visible_names settled
  refine ⟨s, selects.evaluates, ?_, selects.filtered,
    fun names hg => absurd hg (ungrouped names), ?_⟩
  · intro a ha he
    rcases Header.project_cases_of_settled settled hh ha with ⟨-, hn⟩ | ⟨_, -, _, _, -, -, computed⟩
    · exact visible _ hn
    · rw [he] at computed
      cases computed
  · intro outer
    -- Both sides go over the rows of the source; the relation sees only its own cells of them.
    have input : rel.rows = (s.rows outer).map (Row.only c.header.names) := by
      rw [← selects.rows outer, image_of_settled settled visible ungrouped]
    have image : s.image server (Compiled.mk h c.source).columns outer =
        (s.rows outer).map fun r => tuple (Compiled.mk h c.source).columns
          (Sql.Column.cell server (s.visible outer r)) := by
      unfold Source.image
      split
      · rename_i names hg
        exact absurd hg (ungrouped names)
      · rfl
    rw [image, rows, input, List.map_map]
    refine List.map_congr_left fun r _ => ?_
    rw [Compiled.tuple_columns named]
    refine Header.image_congr fun a ha => ?_
    rw [Function.comp_apply, Compiled.cell_ofAttribute]
    rcases Header.project_cases_of_settled settled hh ha with
      ⟨plain, hn⟩ | ⟨spec, hspec, text, target, hp, -, computed⟩
    · simp only [Attribute.cell, plain]
      rw [Row.only_of_mem hn, Source.visible, Row.merge, if_pos (visible _ hn)]
    · simp only [Attribute.cell, computed]
      rw [within spec hspec text target hp, same, only_visible visible]

/-- The rows of a group agree on the attributes of the left relation, which its key determines. -/
theorem eq_of_mem_group {left right : Relation V} (keyed : left.IsKeyed) {g : List (Row V)}
    (hg : g ∈ Row.groups left.header.primaryKey (left.combinations right)) {x y : Row V}
    (hx : x ∈ g) (hy : y ∈ g) {n : String} (hn : n ∈ left.header.names) : x n = y n := by
  obtain ⟨-, k, rfl⟩ := Row.exists_key_of_mem_groups hg
  obtain ⟨hx, kx⟩ := List.mem_filter.mp hx
  obtain ⟨hy, ky⟩ := List.mem_filter.mp hy
  obtain ⟨l, hl, _, -, -, rfl⟩ := Row.mem_join_iff.mp hx
  obtain ⟨m, hm, _, -, -, rfl⟩ := Row.mem_join_iff.mp hy
  have key : ∀ n ∈ left.header.primaryKey, l n = m n := by
    have e := Row.key_eq_key_iff.mp ((of_decide_eq_true kx).trans (of_decide_eq_true ky).symm)
    intro n hk
    simpa [Row.merge, left.header.primaryKey_subset_names hk] using e n hk
  cases keyed.eq_of_key_eq hl hm (Row.key_eq_key_iff.mpr key)
  simp [Row.merge, hn]

/-- An aggregation of exact realizations reads from the groups of the joined fragments. -/
theorem RealizesExactly.aggregate {a : Compiled} {specs : List String}
    {right aggregated : Relation V} (hc : RealizesExactly server db c rel)
    (hd : RealizesExactly server db d right) (ha : c.aggregate d specs = .ok a)
    (hr : rel.aggregate server right specs = .ok aggregated) (keyed : rel.IsKeyed)
    (within : server.SummariesWithin (rel.header.names ++ right.header.names) specs) :
    Realizes server db a aggregated := by
  obtain ⟨header, aliased, source⟩ := aggregate_cases ha
  obtain ⟨h', hh', heading, rows⟩ := Relation.aggregate_eq_ok_iff.mp hr
  rw [hc.header] at hh'
  cases header.symm.trans hh'
  have named := Header.isNamed_project hc.settled header
  refine ⟨heading, named, Header.primaryKey_project_ne_nil header hc.keyed, fun scope => ?_⟩
  obtain ⟨s, evaluates, ending, columns, combined⟩ := hc.combinations hd scope
  have fits : c.header.primaryKey ≠ [] ∧ c.header.primaryKey ⊆ s.columns := by
    refine ⟨hc.keyed, fun n hn => ?_⟩
    rw [columns, hc.header]
    exact .inl (c.header.primaryKey_subset_names hn)
  have left : ∀ b ∈ a.header.attributes, b.expression = none → b.name ∈ rel.header.names := by
    intro b hb plain
    rcases Header.project_cases_of_settled hc.settled header hb with
      ⟨-, hn⟩ | ⟨_, -, _, _, -, -, computed⟩
    · exact hc.header ▸ hn
    · rw [plain] at computed
      cases computed
  refine ⟨⟨s.columns, .grouped c.header.primaryKey, s.rows⟩, ?_, ?_, ?_, fun _ _ => aliased, ?_⟩
  · rw [source, evaluate_group evaluates, Source.group, ending]
    exact if_pos fits
  · exact fun b hb plain => (columns _).mpr (.inl (left b hb plain))
  · exact fun filtered => (nomatch filtered)
  · intro outer
    show (Row.groups c.header.primaryKey (s.rows outer)).map _ = aggregated.rows
    rw [combined, rows, ← hc.header]
    refine List.map_congr_left fun g hg => ?_
    rw [Compiled.tuple_columns named]
    refine Header.image_congr fun b hb => ?_
    rw [Function.comp_apply, Compiled.groupCell_ofAttribute]
    rcases Header.project_cases_of_settled hc.settled header hb with
      ⟨plain, -⟩ | ⟨spec, hspec, text, target, hp, -, computed⟩
    · -- The column is read from some row of the group, where it is the same as in the first one.
      have nonempty := (Row.exists_key_of_mem_groups hg).1
      obtain ⟨first, rest, e⟩ := List.exists_cons_of_ne_nil nonempty
      obtain ⟨y, hy, picked⟩ := List.mem_map.mp (server.pick_mem
        (g.map (Source.visible ⟨s.columns, .grouped rel.header.primaryKey, s.rows⟩ outer))
        (by simpa using nonempty))
      have hn := left b hb plain
      have agree : y b.name = first b.name := eq_of_mem_group keyed hg hy (by simp [e]) hn
      simp only [plain, Attribute.groupCell, ← picked, Source.visible, Row.merge,
        if_pos ((columns _).mpr (.inl hn))]
      simp [e, agree]
    · simp only [computed, Attribute.groupCell]
      rw [within spec hspec text target hp, within spec hspec text target hp g, List.map_map]
      congr 1
      refine List.map_congr_left fun r _ => only_visible (fun n hn => ?_) outer r
      exact (columns n).mpr (List.mem_append.mp hn)

/-- Without a clause and without aliases, a fragment reads from a chain. -/
theorem Selects.ending_eq {scope : List String} {s : Source V} (h : Selects server db c rel scope s)
    (resolved : c.header.hasAliases = false) (unfiltered : c.source.isFiltered = false) :
    s.ending = .chain := by
  cases he : s.ending with
  | chain => rfl
  | filtered =>
    rw [h.filtered he] at unfiltered
    cases unfiltered
  | grouped names =>
    rw [h.grouped names he] at resolved
    cases resolved

/-- Conditions that are equivalent to restrictions restrict a realization. -/
theorem Realizes.filter {cs : List Cond} {ts : List (Row V → Truth)}
    (hc : Realizes server db c rel) (resolved : c.header.hasAliases = false)
    (unfiltered : c.source.isFiltered = false) (tight : ∀ d ∈ cs, d.isLoose = false)
    (equivalent : ∀ scope, c.header.names ⊆ scope → ∃ us, truths server db scope cs = some us ∧
      ∀ r, Truth.all (us.map (· r)) = Truth.all (ts.map (· (r.only c.header.names)))) :
    Realizes server db (c.filter (conjunction cs)) (rel.restrict ts) := by
  have settled := Header.settle_of_isNamed hc.named resolved
  have same : rel.header = c.header := hc.header.trans settled
  cases cs with
  | nil =>
    -- Nothing is filtered, and all restrictions are true for all rows of the relation.
    obtain ⟨us, hus, eqv⟩ := equivalent c.header.names (List.Subset.refl _)
    cases hus
    have all : rel.restrict ts = rel := by
      refine Relation.ext rfl (List.filter_eq_self.mpr fun r hr => ?_)
      have cut : r.only c.header.names = r := Row.only_of_within (same ▸ rel.within r hr)
      have := eqv r
      rw [cut] at this
      simp [← this]
    rw [all]
    exact hc
  | cons d ds =>
    refine ⟨hc.header, hc.named, hc.keyed, fun scope => ?_⟩
    obtain ⟨s, selects⟩ := hc.source scope
    have ending := selects.ending_eq resolved unfiltered
    have visible := selects.visible_names settled
    obtain ⟨us, hus, eqv⟩ := equivalent (s.columns ++ scope)
      fun n hn => List.mem_append_left scope (visible n hn)
    have holds : (Cond.conj (d :: ds)).truth server db (s.columns ++ scope) =
        some fun r => Truth.all (us.map (· r)) := by
      have none : (d :: ds).any Cond.isLoose = false := by simpa using tight
      simp [Cond.truth, hus, none]
    let kept : Source V := ⟨s.columns, .filtered, fun outer =>
      (s.rows outer).filter fun r => Truth.all (us.map (· (s.visible outer r))) = some true⟩
    have ungrouped : ∀ names, kept.ending ≠ .grouped names := by simp [kept]
    refine ⟨kept, ?_, selects.visible, fun _ => rfl,
      fun names grouped => absurd grouped (ungrouped names), fun outer => ?_⟩
    · show (Fragment.filter c.source (.conj (d :: ds))).evaluate server db scope = _
      rw [evaluate_filter selects.evaluates holds, Source.filter, if_pos ending]
    · have input : rel.rows = (s.rows outer).map (Row.only c.header.names) := by
        rw [← selects.rows outer, image_of_settled settled visible (by simp [ending])]
      show kept.image server c.columns outer = rel.rows.filter _
      rw [image_of_settled (s := kept) settled visible ungrouped, input, List.filter_map]
      congr 1
      refine List.filter_congr fun r _ => ?_
      simp only [eqv, only_visible visible, Function.comp_apply]

end Relational

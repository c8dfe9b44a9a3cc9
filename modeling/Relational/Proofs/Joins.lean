import Relational.Proofs.Consumers
import Relational.Proofs.Guards
import Relational.Proofs.Operations

/-!
# Order and bracketing of joins

A join looks a name up in its first header, and only if it is not there in the second; a key of
either header is a key. So both orders of a join have the same names and keys, and both bracketings
of a double join have the same attributes.

An aggregation is executed as a join, but it checks for blobs by itself: only names that are blobs
on both sides are refused.
-/

namespace Relational

namespace Header

variable {h k m hk kh km left right : Header} {a b : Attribute} {name : String}

/-! ### Looking names up -/

/-- A join looks a name up in its first header, and then in the second. -/
theorem find?_join (hj : h.join k = .ok m) (name : String) :
    m.find? name = ((h.find? name).map (promoted k)).or (k.find? name) := by
  cases hf : h.find? name with
  | some a =>
    obtain ⟨ha, rfl⟩ := find?_eq_some_iff.mp hf
    refine find?_eq_some_iff.mpr ⟨(mem_attributes_join_iff hj).mpr (.inl ⟨a, ha, rfl⟩), ?_⟩
    exact outputName_promoted
  | none =>
    have new := find?_eq_none_iff.mp hf
    cases kf : k.find? name with
    | some b =>
      obtain ⟨hb, rfl⟩ := find?_eq_some_iff.mp kf
      exact find?_eq_some_iff.mpr ⟨(mem_attributes_join_iff hj).mpr (.inr ⟨hb, new⟩), rfl⟩
    | none =>
      refine find?_eq_none_iff.mpr fun hm => ?_
      exact ((mem_names_join_iff hj).mp hm).elim new (find?_eq_none_iff.mp kf)

/-- Headers in which every name is found alike have the same attributes, up to their order. -/
theorem perm_of_find?_eq (same : ∀ name, h.find? name = k.find? name) :
    h.attributes.Perm k.attributes := by
  refine (List.perm_ext_iff_of_nodup (.of_map _ h.nodup) (.of_map _ k.nodup)).mpr fun a => ?_
  have found (h : Header) : a ∈ h.attributes ↔ h.find? a.outputName = some a := by
    rw [find?_eq_some_iff, and_iff_left rfl]
  rw [found, found, same]

theorem promoted_of_mem (key : a.outputName ∈ k.primaryKey) :
    promoted k a = { a with isKey := true } :=
  if_pos (List.contains_iff_mem.mpr key)

theorem promoted_of_not_mem (other : a.outputName ∉ k.primaryKey) : promoted k a = a :=
  if_neg fun key => other (List.contains_iff_mem.mp key)

/-- An attribute is promoted by a join if it is by one of its sides. -/
theorem promoted_join (hj : h.join k = .ok m) (a : Attribute) :
    promoted m a = promoted k (promoted h a) := by
  have keys : a.outputName ∈ m.primaryKey ↔ _ := mem_primaryKey_join_iff hj
  by_cases first : a.outputName ∈ h.primaryKey
  · rw [promoted_of_mem (keys.mpr (.inl first)), promoted_of_mem first]
    unfold promoted
    split <;> rfl
  · rw [promoted_of_not_mem first]
    by_cases second : a.outputName ∈ k.primaryKey
    · rw [promoted_of_mem (keys.mpr (.inr second)), promoted_of_mem second]
    · have neither : a.outputName ∉ m.primaryKey := fun key => (keys.mp key).elim first second
      rw [promoted_of_not_mem second, promoted_of_not_mem neither]

/-! ### Order -/

theorem sharesBlob_comm : h.SharesBlob k ↔ k.SharesBlob h := by
  have swap {h k : Header} : h.SharesBlob k → k.SharesBlob h := by
    rintro ⟨a, ha, b, hb, e, blob⟩
    exact ⟨b, hb, a, ha, e.symm, blob.symm⟩
  exact ⟨swap, swap⟩

theorem clashes_comm : h.Clashes k ↔ k.Clashes h := by
  have swap {h k : Header} : h.Clashes k → k.Clashes h := by
    rintro ⟨a, ha, b, hb, e, known, known', differ⟩
    exact ⟨b, hb, a, ha, e.symm, known', known, differ.symm⟩
  exact ⟨swap, swap⟩

theorem exists_join_iff : (∃ m, h.join k = .ok m) ↔ ¬ h.SharesBlob k ∧ ¬ h.Clashes k := by
  by_cases blob : h.SharesBlob k
  · simp [join_of_sharesBlob blob, blob]
  · by_cases clash : h.Clashes k
    · obtain ⟨name, left, right, hj⟩ := join_of_clashes blob clash
      simp [hj, clash]
    · simp [join_of_compatible blob clash, blob, clash]

theorem exists_join_comm : (∃ m, h.join k = .ok m) ↔ ∃ m, k.join h = .ok m := by
  rw [exists_join_iff, exists_join_iff, sharesBlob_comm, clashes_comm]

/-- Both orders of a join have the same names, with the same keys among them. -/
theorem isKey_eq_of_join_comm (hj : h.join k = .ok hk) (hj' : k.join h = .ok kh)
    (ha : a ∈ hk.attributes) (hb : b ∈ kh.attributes) (e : a.outputName = b.outputName) :
    a.isKey = b.isKey := by
  rw [Bool.eq_iff_iff, isKey_of_mem_join hj ha, isKey_of_mem_join hj' hb, e]
  exact or_comm

/-! ### Bracketing -/

/-- Both bracketings of a double join have the same attributes. -/
theorem perm_of_join_assoc (hj : h.join k = .ok hk) (hl : hk.join m = .ok left)
    (kj : k.join m = .ok km) (hr : h.join km = .ok right) :
    left.attributes.Perm right.attributes := by
  refine perm_of_find?_eq fun name => ?_
  have twice : promoted m ∘ promoted k = promoted km := by
    funext a
    exact (promoted_join kj a).symm
  rw [find?_join hl, find?_join hj, find?_join hr, find?_join kj, Option.map_or, Option.map_map,
    twice, Option.or_assoc]

end Header

/-! ### Joins of expressions -/

section Compile

variable {l r x y z : Expr} {c d j : Compiled} {mode mode' : Enclosure}
  {ctx ctx' ctx₁ ctx₂ : Context}

/-- A join without restrictions is handed on as it is, whoever consumes it. -/
theorem returns_join (hr : ((Expr.join l r []).compile mode).Returns ctx j ctx') :
    ∃ c d ctx₁, (l.compile .derived).Returns ctx c ctx₁ ∧
      (r.compile .derived).Returns ctx₁ d ctx' ∧ c.join d = .ok j := by
  rw [compile_eq] at hr
  obtain ⟨j₀, ctx₃, hj, finished⟩ := returns_bind.mp hr
  obtain ⟨c, ctx₁, hc, hj⟩ := returns_bind.mp hj
  obtain ⟨d, ctx₂, hd, hj⟩ := returns_bind.mp hj
  obtain ⟨j₁, ctx₂, hjoin, hj⟩ := returns_bind.mp hj
  obtain ⟨joined, rfl⟩ := returns_lift.mp hjoin
  obtain ⟨rfl, rfl⟩ := returns_pure.mp hj
  -- Only aliases could make an enclosure necessary, and neither side has any.
  have resolved : j₁.header.hasAliases = false :=
    Header.hasAliases_join (join_cases joined).1 (derives_of_returns hc).wellShaped.2
      (derives_of_returns hd).wellShaped.2
  have kept : mode.demands (.join l r []) j₁ = false := by
    cases mode with
    | aliased => exact resolved
    | never | derived | aggregate => rfl
  rw [kept] at finished
  obtain ⟨rfl, rfl⟩ := returns_pure.mp finished
  exact ⟨c, d, ctx₁, hc, hd, joined⟩

/-- Both bracketings of a double join are written in the same way. -/
theorem render_eq_of_join_assoc
    (hl : ((Expr.join (.join x y []) z []).compile mode).Returns ctx c ctx₁)
    (hr : ((Expr.join x (.join y z []) []).compile mode').Returns ctx d ctx₂) :
    c.source.render = d.source.render ∧ ctx₁ = ctx₂ ∧
      c.header.attributes.Perm d.header.attributes := by
  obtain ⟨cxy, cz, _, hxy, hz, left⟩ := returns_join hl
  obtain ⟨cx, cy, _, hx, hy, inner⟩ := returns_join hxy
  obtain ⟨dx, dyz, _, hx', hyz, right⟩ := returns_join hr
  obtain ⟨dy, dz, _, hy', hz', inner'⟩ := returns_join hyz
  -- The three expressions are compiled in the same order, so each meets the same context.
  cases hx.symm.trans hx'
  cases hy.symm.trans hy'
  cases hz.symm.trans hz'
  obtain ⟨lheader, lsource⟩ := join_cases left
  obtain ⟨header, source⟩ := join_cases inner
  obtain ⟨rheader, rsource⟩ := join_cases right
  obtain ⟨header', source'⟩ := join_cases inner'
  refine ⟨?_, rfl, Header.perm_of_join_assoc header lheader header' rheader⟩
  rw [lsource, source, rsource, source']
  simp only [Sql.Fragment.render, String.append_assoc]

end Compile

/-- **Joins commute and associate up to the order of attributes.** Both orders succeed together,
with the same names and the same keys among them. Where both bracketings of a double join succeed,
they have the same attributes; of expressions, they also have the same fragment and draw the same
aliases, whoever consumes them. -/
theorem join_comm_assoc (h k m : Header) (x y z : Expr) :
    ((∃ hk, h.join k = .ok hk) ↔ ∃ kh, k.join h = .ok kh) ∧
      (∀ hk kh, h.join k = .ok hk → k.join h = .ok kh →
        (∀ name, name ∈ hk.names ↔ name ∈ kh.names) ∧
          ∀ a ∈ hk.attributes, ∀ b ∈ kh.attributes, a.outputName = b.outputName →
            a.isKey = b.isKey) ∧
      (∀ hk left km right, h.join k = .ok hk → hk.join m = .ok left → k.join m = .ok km →
        h.join km = .ok right → left.attributes.Perm right.attributes) ∧
      ∀ mode mode' ctx c ctx₁ d ctx₂,
        ((Expr.join (.join x y []) z []).compile mode).Returns ctx c ctx₁ →
        ((Expr.join x (.join y z []) []).compile mode').Returns ctx d ctx₂ →
        c.source.render = d.source.render ∧ ctx₁ = ctx₂ ∧
          c.header.attributes.Perm d.header.attributes := by
  refine ⟨Header.exists_join_comm, fun hk kh hj hj' => ⟨fun name => ?_, ?_⟩, ?_, ?_⟩
  · rw [Header.mem_names_join_iff hj, Header.mem_names_join_iff hj', or_comm]
  · intro a ha b hb e
    exact Header.isKey_eq_of_join_comm hj hj' ha hb e
  · intro hk left km right hj hl kj hr
    exact Header.perm_of_join_assoc hj hl kj hr
  · intro mode mode' ctx c ctx₁ d ctx₂ hl hr
    exact render_eq_of_join_assoc hl hr

/-! ### Blobs in joins and aggregations -/

/-- The headers share a name that is a blob on both sides. -/
def Header.MatchesBlobs (h k : Header) : Prop :=
  ∃ a ∈ h.attributes, ∃ b ∈ k.attributes,
    a.outputName = b.outputName ∧ a.isBlob = true ∧ b.isBlob = true

theorem Header.MatchesBlobs.sharesBlob {h k : Header} (matched : h.MatchesBlobs k) :
    h.SharesBlob k := by
  obtain ⟨a, ha, b, hb, e, blob, -⟩ := matched
  exact ⟨a, ha, b, hb, e, .inl blob⟩

theorem Header.mem_blobs_iff {h : Header} {name : String} :
    name ∈ h.blobs ↔ ∃ a ∈ h.attributes, a.isBlob = true ∧ a.outputName = name := by
  simp [blobs, and_assoc]

theorem Header.filter_blobs_eq_nil_iff {h k : Header} :
    h.blobs.filter (· ∈ k.blobs) = [] ↔ ¬ h.MatchesBlobs k := by
  simp only [List.filter_eq_nil_iff, decide_eq_true_iff, mem_blobs_iff]
  constructor
  · rintro none ⟨a, ha, b, hb, e, blob, blob'⟩
    exact none a.outputName ⟨a, ha, blob, rfl⟩ ⟨b, hb, blob', e.symm⟩
  · rintro none _ ⟨a, ha, blob, rfl⟩ ⟨b, hb, blob', e⟩
    exact none ⟨a, ha, b, hb, e.symm, blob, blob'⟩

/-- The outcome is a refusal to match blobs. -/
def RefusesBlobs {α : Type} (x : Except Error α) : Prop := ∃ names, x = .error (.blobJoinKey names)

theorem refusesBlobs_join (c d : Compiled) :
    RefusesBlobs (c.join d) ↔ c.header.SharesBlob d.header := by
  unfold Compiled.join
  by_cases blob : c.header.SharesBlob d.header
  · rw [Header.join_of_sharesBlob blob]
    exact iff_of_true ⟨_, rfl⟩ blob
  · refine iff_of_false ?_ blob
    rintro ⟨names, refused⟩
    by_cases clash : c.header.Clashes d.header
    · obtain ⟨name, left, right, hj⟩ := Header.join_of_clashes blob clash
      rw [hj] at refused
      cases refused
    · rw [Header.join_of_compatible blob clash] at refused
      cases refused

/-- Neither the specifications nor the lack of a computation are about blobs. -/
theorem failsOnly_aggregate_of_not_matchesBlobs {c d : Compiled}
    (none : ¬ c.header.MatchesBlobs d.header) (specs : List String) :
    FailsOnly (fun err => ∀ names, err ≠ .blobJoinKey names) (c.aggregate d specs) := by
  rw [Compiled.aggregate, Header.filter_blobs_eq_nil_iff.mpr none]
  refine failsOnly_bind ((c.header.failsOnly_project specs).mono ?_) fun h _ => ?_
  · rintro _ spec names rfl
    cases spec
  · split
    · exact failsOnly_ok _
    · refine failsOnly_error fun names e => ?_
      cases e

/-- An aggregation looks for blobs by itself, and only for those of both sides. -/
theorem refusesBlobs_aggregate (c d : Compiled) (specs : List String) :
    RefusesBlobs (c.aggregate d specs) ↔ c.header.MatchesBlobs d.header := by
  by_cases blob : c.header.MatchesBlobs d.header
  · refine iff_of_true ?_ blob
    unfold Compiled.aggregate
    split
    · exact absurd blob (Header.filter_blobs_eq_nil_iff.mp ‹_›)
    · exact ⟨_, rfl⟩
  · refine iff_of_false ?_ blob
    rintro ⟨names, refused⟩
    exact failsOnly_aggregate_of_not_matchesBlobs blob specs _ refused names rfl

section Compile

variable {l r : Expr} {h k : Header} {mode mode' : Enclosure} {ctx ctx' : Context}

theorem outcome_bind_of_returns {α β : Type} {m : Compiler α} {f : α → Compiler β} {a : α}
    (hm : m.Returns ctx a ctx') : ((m >>= f).run.run ctx).1 = ((f a).run.run ctx').1 := by
  rw [run_bind, hm]

/-- A computation that never fails leaves the refusals to those before it. -/
theorem refusesBlobs_lift_bind {x : Except Error Compiled} {f : Compiled → Compiler Compiled}
    (hf : ∀ c, (f c).RaisesOnly fun _ => False) :
    RefusesBlobs (((liftM x : Compiler Compiled) >>= f).run.run ctx).1 ↔ RefusesBlobs x := by
  cases x with
  | error err => rfl
  | ok c =>
    refine iff_of_false ?_ ?_
    · rintro ⟨names, refused⟩
      exact hf c ctx _ _ (Prod.ext refused rfl)
    · rintro ⟨names, refused⟩
      cases refused

/-- What two expressions are combined to is refused if the combination of their headers is. -/
theorem refusesBlobs_combine {x : Compiled → Compiled → Except Error Compiled}
    {f : Compiled → Compiler Compiled} {p : Header → Header → Prop}
    (hl : l.resolvedHeader mode ctx = .ok h) (hr : r.resolvedHeader mode' ctx' = .ok k)
    (hx : ∀ c d, RefusesBlobs (x c d) ↔ p c.header d.header)
    (hf : ∀ c, (f c).RaisesOnly fun _ => False) (start : Context) :
    RefusesBlobs ((do
      let c ← l.compile .derived
      let d ← r.compile .derived
      let j ← (liftM (x c d) : Compiler Compiled)
      f j).run.run start).1 ↔ p h k := by
  rw [resolvedHeader_eq l mode .derived ctx start] at hl
  obtain ⟨c, ctx₁, hc, rfl⟩ := resolvedHeader_eq_ok_iff.mp hl
  rw [resolvedHeader_eq r mode' .derived ctx' ctx₁] at hr
  obtain ⟨d, ctx₂, hd, rfl⟩ := resolvedHeader_eq_ok_iff.mp hr
  rw [outcome_bind_of_returns hc, outcome_bind_of_returns hd, refusesBlobs_lift_bind hf, hx,
    Header.stripAliases_of_resolved (derives_of_returns hc).wellShaped.2,
    Header.stripAliases_of_resolved (derives_of_returns hd).wellShaped.2]

theorem raisesOnly_finish_nil (c : Compiled) (mode : Enclosure) (plain grouped : Bool) :
    (c.finish mode plain grouped (!([] : List Restriction).isEmpty)
      fun h => clauseOf h (conditions h false [])).RaisesOnly fun _ => False :=
  raisesOnly_finish c mode plain grouped _ fun _ resolved =>
    raisesOnly_clauseOf resolved (raisesOnly_pure _)

/-- **Blobs are refused by joins and aggregations, but not alike.** A join is refused if its sides
share a name that is a blob on either side, an aggregation only if one is a blob on both. So an
aggregation is refused no more often, and they differ exactly for blobs whose names are shared with
other attributes only. -/
theorem refusesBlobs_iff (hl : l.resolvedHeader mode ctx = .ok h)
    (hr : r.resolvedHeader mode' ctx' = .ok k) (specs : List String) (consumer : Enclosure)
    (start : Context) :
    (RefusesBlobs (((Expr.join l r []).compile consumer).run.run start).1 ↔ h.SharesBlob k) ∧
      (RefusesBlobs (((Expr.aggregate l r specs []).compile consumer).run.run start).1 ↔
        h.MatchesBlobs k) ∧
      ((RefusesBlobs (((Expr.aggregate l r specs []).compile consumer).run.run start).1 ↔
          RefusesBlobs (((Expr.join l r []).compile consumer).run.run start).1) ↔
        (h.SharesBlob k → h.MatchesBlobs k)) := by
  have joined := refusesBlobs_combine hl hr refusesBlobs_join
    (fun c => raisesOnly_finish_nil c consumer true false) start
  have grouped := refusesBlobs_combine hl hr (fun c d => refusesBlobs_aggregate c d specs)
    (fun c => raisesOnly_finish_nil c consumer false true) start
  refine ⟨joined, grouped, ?_⟩
  rw [Expr.compile, Expr.compile, joined, grouped]
  exact ⟨fun same => same.mpr, fun both => ⟨Header.MatchesBlobs.sharesBlob, both⟩⟩

end Compile

namespace Sample

/-- A header with a column `image` of a given type. -/
def imaged (type : ColumnType) : Header :=
  ⟨[column "id" true, { name := "image", type }], (by decide : ["id", "image"].Nodup)⟩

def pictures : Expr := .table ⟨"picture", "lab", by decide⟩ (imaged .blob) []

def sketches : Expr := .table ⟨"sketch", "lab", by decide⟩ (imaged .blob) []

/-- Ratings, with the number of an image instead of the image itself. -/
def ratings : Expr := .table ⟨"rating", "lab", by decide⟩ (imaged .numeric) []

theorem matchesBlobs_imaged : (imaged .blob).MatchesBlobs (imaged .blob) :=
  ⟨_, List.mem_of_getLast? rfl, _, List.mem_of_getLast? rfl, rfl, rfl, rfl⟩

/-- Pictures and sketches share a blob, so they are neither joined nor grouped. -/
theorem refusesBlobs_sketches :
    pictures.resolvedHeader .never {} = .ok (imaged .blob) ∧
      sketches.resolvedHeader .never {} = .ok (imaged .blob) ∧
      RefusesBlobs (((Expr.join pictures sketches []).compile .never).run.run {}).1 ∧
      RefusesBlobs
        (((Expr.aggregate pictures sketches ["count(*)->n"] []).compile .never).run.run {}).1 := by
  have left : pictures.resolvedHeader .never {} = .ok (imaged .blob) := rfl
  have right : sketches.resolvedHeader .never {} = .ok (imaged .blob) := rfl
  obtain ⟨joined, grouped, -⟩ := refusesBlobs_iff left right ["count(*)->n"] .never {}
  exact ⟨left, right, joined.mpr matchesBlobs_imaged.sharesBlob, grouped.mpr matchesBlobs_imaged⟩

/-- Pictures and ratings are not joined for the blob of the pictures, but they are grouped. -/
theorem not_refusesBlobs_ratings :
    RefusesBlobs (((Expr.join pictures ratings []).compile .never).run.run {}).1 ∧
      ∃ c ctx, ((Expr.aggregate pictures ratings ["count(*)->n"] []).compile .never).Returns {} c
          ctx ∧
        c.source.render = "`lab`.`picture` NATURAL JOIN `lab`.`rating` GROUP BY `id`" :=
  ⟨⟨["image"], rfl⟩, _, _, rfl, by decide⟩

end Sample

end Relational

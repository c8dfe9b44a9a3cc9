import Relational.Proofs.Clause
import Relational.Query

/-!
# Laws of restrictions

Antijoins, unions, negations and lists of records can be written in several ways, which are
compiled along different paths. What they have in common is their meaning: lists of restrictions
that mean the same can be exchanged after any other restrictions (`Interchangeable`), and then the
clauses have the same truth value under every assignment.

A marker at the end of a list waits for the next restriction, and a second marker after it changes
nothing. So an antijoin is a restriction by the negation only if the list before does not end with a
marker.
-/

namespace Relational

open Sql

variable {σ : Assignment} {h : Header}

/-! ### Lists that mean the same -/

/-- Whether the restriction after a list is negated. After the empty list, it is if `marked` says
so. -/
def endsMarked (marked : Bool) (rs : List Restriction) : Bool :=
  (rs.getLast?.map Restriction.isMarker).getD marked

@[simp] theorem endsMarked_nil (marked : Bool) : endsMarked marked [] = marked := rfl

theorem endsMarked_cons (marked : Bool) (r : Restriction) (rs : List Restriction) :
    endsMarked marked (r :: rs) = endsMarked r.isMarker rs := by
  unfold endsMarked
  rw [List.getLast?_cons]
  cases rs.getLast? <;> rfl

theorem signed_append (marked : Bool) (xs ys : List Restriction) :
    signed marked (xs ++ ys) = signed marked xs ++ signed (endsMarked marked xs) ys := by
  induction xs generalizing marked with
  | nil => rfl
  | cons x xs ih =>
    rw [endsMarked_cons, List.cons_append]
    by_cases hx : x = .marker true
    · subst hx
      rw [signed_marker, signed_marker, ih]
      rfl
    · rw [signed_cons hx, signed_cons hx, ih, isMarker_eq_false_iff.mpr hx, List.cons_append]

/-- The truth value of restrictions together. -/
def clauseMeaning (σ : Assignment) (h : Header) (marked : Bool) (rs : List Restriction) :
    Compiler Truth := do
  return Truth.all (← clauseMeanings σ h marked rs)

theorem clauseMeaning_append (marked : Bool) (xs ys : List Restriction) :
    clauseMeaning σ h marked (xs ++ ys) = (do
      let t ← clauseMeaning σ h marked xs
      let u ← clauseMeaning σ h (endsMarked marked xs) ys
      return Truth.all [t, u]) := by
  have all_append (ts us : List Truth) :
      Truth.all (ts ++ us) = Truth.all [Truth.all ts, Truth.all us] := by
    rw [← Truth.all_cons_all, Truth.all_cons]
  simp [clauseMeaning, clauseMeanings, signed_append, List.mapM_append, all_append]

/-- Two lists of restrictions mean the same. -/
def Interchangeable (marked : Bool) (xs ys : List Restriction) : Prop :=
  ∀ σ h, clauseMeaning σ h marked xs = clauseMeaning σ h marked ys

theorem Interchangeable.append {marked : Bool} {rs xs ys : List Restriction}
    (hxy : Interchangeable (endsMarked marked rs) xs ys) :
    Interchangeable marked (rs ++ xs) (rs ++ ys) := by
  intro σ h
  rw [clauseMeaning_append, clauseMeaning_append, hxy]

theorem Interchangeable.marked {marked : Bool} {xs ys : List Restriction}
    (hxy : Interchangeable true xs ys) : Interchangeable marked (.not :: xs) (.not :: ys) :=
  fun σ h => hxy σ h

/-- Clauses of lists that mean the same have the same truth value. -/
theorem clauseValue_eq_of_interchangeable {xs ys : List Restriction} {w w' : Option Cond}
    {ctx ctx₁ ctx₂ : Context} (hxy : Interchangeable false xs ys)
    (hx : (whereClause h xs).Returns ctx w ctx₁) (hy : (whereClause h ys).Returns ctx w' ctx₂)
    (σ : Assignment) : clauseValue σ w = clauseValue σ w' := by
  have returns {rs : List Restriction} {w : Option Cond} {ctx' : Context}
      (hr : (whereClause h rs).Returns ctx w ctx') :
      ∃ ctx'', (clauseMeaning σ h false rs).Returns ctx (clauseValue σ w) ctx'' := by
    obtain ⟨ts, meanings, value⟩ := clauseValue_of_returns σ hr
    rw [value]
    exact (reaches_bind meanings (reaches_pure _ (Truth.all ts))).exists_returns
  obtain ⟨_, left⟩ := returns hx
  obtain ⟨_, right⟩ := returns hy
  rw [Compiler.Returns, hxy σ h, right] at left
  exact (Except.ok.inj (Prod.mk.inj left).1).symm

/-! ### Meanings of restrictions -/

/-- The meaning of a single restriction that is no marker. -/
theorem clauseMeaning_singleton {r : Restriction} (hr : r ≠ .marker true) (marked : Bool) :
    clauseMeaning σ h marked [r] = (do return (← r.meaning σ h).negateIf marked) := by
  simp [clauseMeaning, clauseMeanings_cons hr]

theorem ofExpr_ne_marker (e : Expr) : Restriction.ofExpr e ≠ .marker true := by
  cases e <;> simp [Restriction.ofExpr]

/-- A negation has the opposite meaning. -/
theorem meaning_negate (e : Expr) :
    (Restriction.ofExpr e.negate).meaning σ h =
      (do return (← (Restriction.ofExpr e).meaning σ h).not) := by
  cases e with
  | negation e => simp [Expr.negate, Restriction.ofExpr, Restriction.meaning]
  | table | project | aggregate | join | union => rfl

/-- The restrictions that a union with a restriction has as operands. -/
def Restriction.operands : Restriction → List Restriction
  | .union rs => rs
  | r => [r]

theorem operandMeanings_append (xs ys : List Restriction) :
    operandMeanings σ h (xs ++ ys) = (do
      let ts ← operandMeanings σ h xs
      return ts ++ (← operandMeanings σ h ys)) := by
  induction xs with
  | nil => simp [operandMeanings]
  | cons x xs ih => simp [operandMeanings, ih]

/-- A restriction holds if one of its operands does. -/
theorem meaning_eq_any_operands (r : Restriction) :
    r.meaning σ h = (do return Truth.any (← operandMeanings σ h r.operands)) := by
  cases r with
  | union rs => rfl
  | sql | tuples | semijoin | marker | complement =>
    simp [Restriction.operands, operandMeanings]

/-! ### Records -/

theorem mem_distinctLabels {k : Label} {ks : List Label} : k ∈ distinctLabels ks ↔ k ∈ ks := by
  induction ks with
  | nil => rfl
  | cons l ks ih =>
    by_cases hk : k = l
    · simp [distinctLabels, hk]
    · simp [distinctLabels, hk, ih]

theorem Record.mem_labels_of_get? {record : Record} {k : Label} {v : Value}
    (hv : record.get? k = some v) : k ∈ labels record.entries := by
  obtain ⟨before, after, entries, -⟩ := List.lookup_eq_some_iff.mp hv
  simp [labels, entries]

/-- Names that are no fields of a tuple set have no values in its records. -/
theorem Record.under_commonFields {record : Record} {t : TupleSet} (h : Header)
    (fields : ∀ k ∈ labels record.entries, k ∈ t.fields) :
    record.under (t.commonFields h) = record.under h.names := by
  unfold Record.under TupleSet.commonFields
  rw [List.filterMap_filter]
  congr 1
  funext n
  split
  · rfl
  · rename_i outside
    cases hv : record.get? (.name n) with
    | none => rfl
    | some v => exact absurd (fields _ (Record.mem_labels_of_get? hv)) (by simpa using outside)

theorem mapM_congr_left {ε α β : Type} {f g : α → Except ε β} {as : List α}
    (h : ∀ a ∈ as, f a = g a) : as.mapM f = as.mapM g := by
  induction as with
  | nil => rfl
  | cons a as ih =>
    rw [List.mapM_cons, List.mapM_cons, h a List.mem_cons_self,
      ih fun b hb => h b (List.mem_cons_of_mem a hb)]

/-- Records hold if one of them does, each under all names of the header that it has. -/
theorem meaning_ofRecords (σ : Assignment) (h : Header) {records : List Record}
    (some : records ≠ []) :
    (TupleSet.ofRecords records).meaning σ h =
      (do return Truth.any (← records.mapM fun r => r.meaning σ h h.names)) := by
  have under : ∀ record ∈ records,
      record.under ((TupleSet.ofRecords records).commonFields h) = record.under h.names := by
    intro record hr
    refine Record.under_commonFields h fun k hk => mem_distinctLabels.mpr ?_
    exact List.mem_flatMap.mpr ⟨record, hr, hk⟩
  have same : records.mapM (fun r => r.meaning σ h ((TupleSet.ofRecords records).commonFields h)) =
      records.mapM fun r => r.meaning σ h h.names := by
    refine mapM_congr_left fun record hr => ?_
    rw [Record.meaning, Record.meaning, under record hr]
  rw [← same]
  unfold TupleSet.meaning
  cases (TupleSet.ofRecords records).commonFields h with
  | cons n ns => rfl
  | nil =>
    -- Without common fields each record holds, and there is one.
    have all : records.mapM (fun r => r.meaning σ h []) =
        .ok (records.map fun _ => Option.some true) := List.mapM_pure
    have holds : Truth.any (records.map fun _ => Option.some true) = Option.some true := by
      simp [Truth.any, some]
    dsimp only
    rw [all]
    exact congrArg Except.ok holds.symm

/-- The restriction to a single record. -/
def Restriction.ofRecord (record : Record) : Restriction := .tuples (.ofRecords [record])

theorem operandMeanings_ofRecord (records : List Record) :
    operandMeanings σ h (records.map .ofRecord) =
      liftM (records.mapM fun r => r.meaning σ h h.names) := by
  induction records with
  | nil => rfl
  | cons record records ih =>
    have first : (TupleSet.ofRecords [record]).meaning σ h = record.meaning σ h h.names := by
      rw [meaning_ofRecords σ h (by simp)]
      simp
    simp [operandMeanings, ih, Restriction.ofRecord, Restriction.meaning, first]

/-! ### Laws -/

/-- A marker before an expression is its negation, unless there is a marker before. -/
theorem interchangeable_negate (e : Expr) :
    Interchangeable false [.not, .ofExpr e] [.ofExpr e.negate] := by
  intro σ h
  show clauseMeaning σ h true [.ofExpr e] = _
  rw [clauseMeaning_singleton (ofExpr_ne_marker e),
    clauseMeaning_singleton (ofExpr_ne_marker e.negate), meaning_negate]
  simp

/-- Two negations cancel. -/
theorem interchangeable_negate_negate (marked : Bool) (e : Expr) :
    Interchangeable marked [.ofExpr e.negate.negate] [.ofExpr e] := by
  intro σ h
  rw [clauseMeaning_singleton (ofExpr_ne_marker _), clauseMeaning_singleton (ofExpr_ne_marker e),
    meaning_negate, meaning_negate]
  simp

/-- A union fails if both sides fail. -/
theorem interchangeable_union (marked : Bool) {r s : Restriction} (hr : r ≠ .marker true)
    (hs : s ≠ .marker true) :
    Interchangeable marked [.not, .union (r.operands ++ s.operands)] [.not, r, .not, s] := by
  intro σ h
  have either (ts us : List Truth) : (Truth.any (ts ++ us)).not =
      Truth.all [(Truth.any ts).not, (Truth.any us).not] := by
    rw [Truth.not_any, Truth.not_any, Truth.not_any, List.map_append, ← Truth.all_cons_all,
      Truth.all_cons]
  show clauseMeaning σ h true [.union (r.operands ++ s.operands)] =
    clauseMeaning σ h true ([r] ++ [.not, s])
  have after : clauseMeaning σ h false [.not, s] = clauseMeaning σ h true [s] := rfl
  rw [clauseMeaning_append, endsMarked_cons, isMarker_eq_false_iff.mpr hr, endsMarked_nil, after,
    clauseMeaning_singleton (by simp), clauseMeaning_singleton hr, clauseMeaning_singleton hs,
    meaning_eq_any_operands r, meaning_eq_any_operands s]
  simp [Restriction.meaning, operandMeanings_append, either]

/-- A list of records is the union of its records. -/
theorem interchangeable_records (marked : Bool) {records : List Record} (some : records ≠ []) :
    Interchangeable marked [.tuples (.ofRecords records)] [.union (records.map .ofRecord)] := by
  intro σ h
  rw [clauseMeaning_singleton (by simp), clauseMeaning_singleton (by simp)]
  simp [Restriction.meaning, operandMeanings_ofRecord, meaning_ofRecords σ h some]

/-! ### Operators -/

section Operators

variable {α : Type} {before after : List Notice}

theorem not_report_refuse {reason : String} {c : Condition} {b : α} :
    ¬ (c.refuse reason : Report α).Returns before b after := by
  intro hr
  obtain ⟨_, _, -, hr⟩ := report_bind.mp hr
  exact not_report_throw hr

/-- An expression has the restrictions of another one, followed by more. -/
structure Expr.Extends (a : Expr) (rs : List Restriction) (e : Expr) : Prop where
  unrestricted : e.unrestricted = a.unrestricted
  restrictions : e.restrictions = a.restrictions ++ rs

theorem extends_of_restrict {a e : Expr} {rs : List Restriction} (hr : a.restrict rs = .ok e) :
    a.Extends rs e := by
  unfold Expr.restrict at hr
  split at hr
  · rename_i empty
    cases hr
    exact ⟨rfl, by simp [List.isEmpty_iff.mp empty]⟩
  · cases a <;> cases hr <;> exact ⟨rfl, rfl⟩

theorem Expr.Extends.trans {a e f : Expr} {xs ys : List Restriction} (he : a.Extends xs e)
    (hf : e.Extends ys f) : a.Extends (xs ++ ys) f :=
  ⟨hf.unrestricted.trans he.unrestricted, by
    rw [hf.restrictions, he.restrictions, List.append_assoc]⟩

theorem extends_of_restrictBy {a e : Expr} {cs : List Condition}
    (hr : (a.restrictBy cs).Returns before e after) :
    ∃ rs, (Condition.allRestrictions cs).Returns before rs after ∧ a.Extends rs e := by
  obtain ⟨rs, mid, hrs, hr⟩ := report_bind.mp hr
  obtain ⟨he, rfl⟩ := report_lift.mp hr
  exact ⟨rs, hrs, extends_of_restrict he⟩

theorem restrictions_of_sole {c : Condition} {r : Restriction}
    (hr : c.sole.Returns before r after) :
    c.restrictions.Returns before [r] after ∧ r ≠ .marker true := by
  obtain ⟨rs, mid, hrs, hr⟩ := report_bind.mp hr
  split at hr
  · exact absurd hr not_report_refuse
  · rename_i other
    obtain ⟨rfl, rfl⟩ := report_pure.mp hr
    exact ⟨hrs, fun marker => other (by rw [marker])⟩
  · exact absurd hr not_report_refuse

theorem extends_of_subtract {a e : Expr} {c : Condition}
    (hr : (a.subtract c).Returns before e after) :
    ∃ r, c.sole.Returns before r after ∧ a.Extends [.not, r] e := by
  unfold Expr.subtract at hr
  split at hr
  · obtain ⟨_, _, hr, -⟩ := report_bind.mp hr
    exact absurd hr not_report_refuse
  · obtain ⟨r, mid, hc, hr⟩ := report_bind.mp hr
    obtain ⟨he, rfl⟩ := report_lift.mp hr
    exact ⟨r, hc, extends_of_restrict he⟩

theorem operands_of_returns {c : Condition} {rs : List Restriction}
    (hr : c.operands.Returns before rs after) :
    ∃ r, c.sole.Returns before r after ∧ rs = r.operands := by
  obtain ⟨r, mid, hc, hr⟩ := report_bind.mp hr
  refine ⟨r, ?_⟩
  cases r with
  | union | sql | tuples | semijoin | marker | complement =>
    obtain ⟨rfl, rfl⟩ := report_pure.mp hr
    exact ⟨hc, rfl⟩

/-- A union has the operands of both sides. -/
theorem eq_union_of_unite {b c : Condition} {u : Expr}
    (hr : (Expr.unite b c).Returns before u after) :
    ∃ r s mid, b.sole.Returns before r mid ∧ c.sole.Returns mid s after ∧
      u = .union (r.operands ++ s.operands) := by
  obtain ⟨_, mid, left, hr⟩ := report_bind.mp hr
  obtain ⟨_, mid', right, hr⟩ := report_bind.mp hr
  obtain ⟨r, hb, rfl⟩ := operands_of_returns left
  obtain ⟨s, hc, rfl⟩ := operands_of_returns right
  obtain ⟨hu, rfl⟩ := report_lift.mp hr
  refine ⟨r, s, mid, hb, hc, ?_⟩
  unfold Expr.unionOf at hu
  split at hu
  · cases hu
  · cases hu
    rfl

/-- Restricting by a condition whose restrictions are known adds them. -/
theorem extends_of_restrictBy_pure {a e : Expr} {c : Condition} {rs : List Restriction}
    (hc : c.restrictions = pure rs) (hr : (a.restrictBy [c]).Returns before e after) :
    a.Extends rs e := by
  obtain ⟨rs', hrs, he⟩ := extends_of_restrictBy hr
  have same : Condition.allRestrictions [c] = pure rs := by simp [Condition.allRestrictions, hc]
  rw [same] at hrs
  obtain ⟨rfl, -⟩ := report_pure.mp hrs
  exact he

theorem eq_of_sole_pure {c : Condition} {r s : Restriction} (hc : c.restrictions = pure [r])
    (hr : c.sole.Returns before s after) : s = r := by
  obtain ⟨hs, -⟩ := restrictions_of_sole hr
  rw [hc] at hs
  obtain ⟨same, -⟩ := report_pure.mp hs
  cases same
  rfl

/-- The antijoin with a condition whose only restriction is known adds it after a marker. -/
theorem extends_of_subtract_pure {a e : Expr} {c : Condition} {r : Restriction}
    (hc : c.restrictions = pure [r]) (hr : (a.subtract c).Returns before e after) :
    a.Extends [.not, r] e := by
  obtain ⟨s, hs, he⟩ := extends_of_subtract hr
  rw [eq_of_sole_pure hc hs] at he
  exact he

theorem restrictions_records {records : List Record} (some : records ≠ []) :
    (Condition.list (records.map .record)).restrictions = pure [.tuples (.ofRecords records)] := by
  have each : records.mapM Option.some = Option.some records := by
    simpa using List.mapM_pure (m := Option) (l := records) (f := id)
  have found : Condition.records? (records.map .record) = Option.some records := by
    simp [Condition.records?, some, List.mapM_map, Function.comp_def, Condition.record?, each]
  simp [Condition.restrictions, found]

/-- The union of several conditions, taken together from the left. -/
def Expr.uniteAll (first second : Condition) (rest : List Condition) : Report Expr := do
  rest.foldlM (fun u c => unite (.expr u) c) (← unite first second)

/-- The union of records has one operand for each of them. -/
theorem eq_union_of_uniteAll {r s : Record} {rest : List Record} {u : Expr}
    (hr : (Expr.uniteAll (.record r) (.record s) (rest.map .record)).Returns before u after) :
    u = .union ((r :: s :: rest).map .ofRecord) := by
  obtain ⟨v, mid, hv, hr⟩ := report_bind.mp hr
  obtain ⟨x, y, _, hx, hy, rfl⟩ := eq_union_of_unite hv
  rw [eq_of_sole_pure (r := .ofRecord r) rfl hx, eq_of_sole_pure (r := .ofRecord s) rfl hy] at hr
  -- Each further record is added at the end of the operands so far.
  suffices grown : ∀ (records : List Record) {before after : List Notice}
      (rs : List Restriction) {u : Expr},
      ((records.map Condition.record).foldlM (fun u c => Expr.unite (.expr u) c)
        (.union rs)).Returns before u after → u = .union (rs ++ records.map .ofRecord) from
    grown rest _ hr
  intro records
  induction records with
  | nil =>
    intro _ _ rs u hr
    obtain ⟨rfl, -⟩ := report_pure.mp hr
    simp
  | cons record records ih =>
    intro _ _ rs u hr
    obtain ⟨v, _, hv, hr⟩ := report_bind.mp hr
    obtain ⟨x, y, _, hx, hy, rfl⟩ := eq_union_of_unite hv
    rw [ih _ hr, eq_of_sole_pure (r := .union rs) rfl hx,
      eq_of_sole_pure (r := .ofRecord record) rfl hy]
    simp [Restriction.operands, Restriction.ofRecord]

end Operators

/-! ### Expressions with the same clause -/

/-- If both can be built and have clauses, these have the same truth value under every
assignment. -/
def SameClause (x y : Report Expr) : Prop :=
  ∀ ⦃before after after' : List Notice⦄ ⦃e f : Expr⦄ ⦃ctx ctx₁ ctx₂ : Context⦄
    ⦃w w' : Option Cond⦄,
    x.Returns before e after → y.Returns before f after' →
    e.outerClause.Returns ctx w ctx₁ → f.outerClause.Returns ctx w' ctx₂ →
    ∀ σ, clauseValue σ w = clauseValue σ w'

section SameClause

variable {a e f : Expr} {xs ys : List Restriction} {w w' : Option Cond} {ctx ctx₁ ctx₂ : Context}
  {before after after' : List Notice}

/-- Expressions that are restricted further by lists that mean the same have the same clause. -/
theorem clauseValue_eq_of_extends (he : a.Extends xs e) (hf : a.Extends ys f)
    (hxy : Interchangeable (endsMarked false a.restrictions) xs ys)
    (hw : e.outerClause.Returns ctx w ctx₁) (hw' : f.outerClause.Returns ctx w' ctx₂)
    (σ : Assignment) : clauseValue σ w = clauseValue σ w' := by
  obtain ⟨c, mid, hc, hw⟩ := returns_bind.mp hw
  obtain ⟨d, mid', hd, hw'⟩ := returns_bind.mp hw'
  rw [he.unrestricted] at hc
  rw [hf.unrestricted] at hd
  cases hc.symm.trans hd
  rw [he.restrictions] at hw
  rw [hf.restrictions] at hw'
  exact clauseValue_eq_of_interchangeable hxy.append hw hw' σ

/-- The antijoin with a union is the antijoin with both sides. -/
theorem sameClause_subtract_unite (a : Expr) (b c : Condition) :
    SameClause (do a.subtract (.query (← Expr.unite b c))) (do (← a.subtract b).subtract c) := by
  intro _ _ _ e f _ _ _ _ _ left right hw hw'
  obtain ⟨u, _, hu, left⟩ := report_bind.mp left
  obtain ⟨r, s, _, hr, hs, rfl⟩ := eq_union_of_unite hu
  obtain ⟨g, _, hg, right⟩ := report_bind.mp right
  -- The notices are the same on both sides, and so are the restrictions of both conditions.
  obtain ⟨r', hr', first⟩ := extends_of_subtract hg
  cases hr.symm.trans hr'
  obtain ⟨s', hs', second⟩ := extends_of_subtract right
  cases hs.symm.trans hs'
  exact clauseValue_eq_of_extends (extends_of_subtract_pure rfl left) (first.trans second)
    (interchangeable_union _ (restrictions_of_sole hr).2 (restrictions_of_sole hs).2) hw hw'

/-- A list of records is their union, for restrictions and for antijoins. -/
theorem sameClause_records (a : Expr) (r s : Record) (rest : List Record) :
    SameClause (a.restrictBy [.list ((r :: s :: rest).map .record)])
        (do a.restrictBy [.expr (← Expr.uniteAll (.record r) (.record s) (rest.map .record))]) ∧
      SameClause (a.subtract (.list ((r :: s :: rest).map .record)))
        (do a.subtract (.expr (← Expr.uniteAll (.record r) (.record s) (rest.map .record)))) := by
  have some : r :: s :: rest ≠ [] := by simp
  constructor
  · intro _ _ _ e f _ _ _ _ _ left right hw hw'
    obtain ⟨u, _, hu, right⟩ := report_bind.mp right
    rw [eq_union_of_uniteAll hu] at right
    exact clauseValue_eq_of_extends (extends_of_restrictBy_pure (restrictions_records some) left)
      (extends_of_restrictBy_pure rfl right) (interchangeable_records _ some) hw hw'
  · intro _ _ _ e f _ _ _ _ _ left right hw hw'
    obtain ⟨u, _, hu, right⟩ := report_bind.mp right
    rw [eq_union_of_uniteAll hu] at right
    exact clauseValue_eq_of_extends (extends_of_subtract_pure (restrictions_records some) left)
      (extends_of_subtract_pure rfl right) (interchangeable_records true some).marked hw hw'

end SameClause

/-- Both can be built and have clauses, with the same truth value under every assignment. -/
def Coincide (x y : Report Expr) : Prop :=
  ∃ e f after after' w w' ctx ctx', x.Returns [] e after ∧ y.Returns [] f after' ∧
    e.outerClause.Returns {} w ctx ∧ f.outerClause.Returns {} w' ctx' ∧
    ∀ σ, clauseValue σ w = clauseValue σ w'

theorem SameClause.coincide {x y : Report Expr} (same : SameClause x y) {e f : Expr}
    {after after' : List Notice} {w w' : Option Cond} {ctx ctx' : Context}
    (hx : x.Returns [] e after) (hy : y.Returns [] f after') (hw : e.outerClause.Returns {} w ctx)
    (hw' : f.outerClause.Returns {} w' ctx') : Coincide x y :=
  ⟨e, f, after, after', w, w', ctx, ctx', hx, hy, hw, hw', same hx hy hw hw'⟩

namespace Sample

/-- Sessions with a positive score. -/
def scored : Expr := sessions [.sql "score > 0"]

/-- The record with a single number. -/
def numbered (name : String) (n : Int) : Record := .ofEntries [(.name name, .int n)]

end Sample

end Relational

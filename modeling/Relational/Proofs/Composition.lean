import Relational.Proofs.Derivation
import Relational.Proofs.Subterms
import Relational.Query

/-!
# Composition of conditions

The restrictions of several conditions are those of each, one after another, so it does not matter
how conditions are grouped: in one call, in several ones, or in a list that is not a list of
records. Equality here is that of reports, with their notices and errors.
-/

namespace Relational

/-! ### Reports -/

/-- A report does not depend on the notices before it; it only adds to them. -/
def Report.Adds {α : Type} (m : Report α) : Prop :=
  ∀ before, m.run.run before = ((m.run.run []).1, before ++ (m.run.run []).2)

/-- What a report comes to. -/
def Report.outcome {α : Type} (m : Report α) : Except Error α := (m.run.run []).1

section Adds

variable {α β : Type}

theorem adds_lift (x : Except Error α) : (liftM x : Report α).Adds := by
  intro before
  show ((x, before) : Except Error α × List Notice) = (x, before ++ [])
  rw [List.append_nil]

theorem adds_pure (a : α) : (pure a : Report α).Adds := adds_lift (.ok a)

theorem outcome_bind {m : Report α} {f : α → Report β} (hf : ∀ a, (f a).Adds) :
    (m >>= f).outcome = m.outcome >>= fun a => (f a).outcome := by
  unfold Report.outcome
  rw [run_bind]
  rcases m.run.run [] with ⟨err | a, notices⟩
  · rfl
  · show ((f a).run.run notices).1 = ((f a).run.run []).1
    rw [hf a notices]

theorem adds_notify (n : Notice) : (notify n).Adds := fun _ => rfl

theorem adds_bind {m : Report α} {f : α → Report β} (hm : m.Adds) (hf : ∀ a, (f a).Adds) :
    (m >>= f).Adds := by
  intro before
  rw [run_bind, run_bind, hm before]
  rcases m.run.run [] with ⟨err | a, notices⟩
  · rfl
  · dsimp only
    rw [hf a (before ++ notices), hf a notices, List.append_assoc]

end Adds

namespace Condition

theorem adds_ofFrame (f : Frame) : (ofFrame f).Adds := by
  unfold ofFrame
  split
  · exact adds_bind (adds_notify _) fun _ => adds_bind (adds_lift _) fun _ => adds_pure _
  · exact adds_bind (adds_lift _) fun _ => adds_pure _

mutual

theorem adds_restrictions (c : Condition) : c.restrictions.Adds :=
  match c with
  | .text s => adds_pure _
  | .record r => adds_pure _
  | .frame f => adds_bind (adds_ofFrame f) fun _ => adds_pure _
  | .list items | .tuple items => by
    rw [restrictions]
    split
    · exact adds_pure _
    · exact adds_allRestrictions items
  | .restriction r => adds_pure _
  | .expr e | .query e => adds_pure _
  | .other v => adds_bind (adds_lift _) fun _ => adds_lift _
termination_by structural c

theorem adds_allRestrictions (cs : List Condition) : (allRestrictions cs).Adds :=
  match cs with
  | [] => adds_pure _
  | c :: cs => adds_bind (adds_restrictions c) fun _ =>
      adds_bind (adds_allRestrictions cs) fun _ => adds_pure _
termination_by structural cs

end

/-! ### Lists of conditions -/

theorem allRestrictions_append (xs ys : List Condition) :
    allRestrictions (xs ++ ys) = (do
      let rs ← allRestrictions xs
      return rs ++ (← allRestrictions ys)) := by
  induction xs with
  | nil => simp [allRestrictions]
  | cons c xs ih =>
    simp only [List.cons_append, allRestrictions, ih, bind_assoc, pure_bind, List.append_assoc]

theorem allRestrictions_singleton (c : Condition) : allRestrictions [c] = c.restrictions := by
  simp [allRestrictions]

theorem outcome_allRestrictions_cons (c : Condition) (cs : List Condition) :
    (allRestrictions (c :: cs)).outcome = (do
      let rs ← c.restrictions.outcome
      return rs ++ (← (allRestrictions cs).outcome)) := by
  rw [allRestrictions,
    outcome_bind fun _ => adds_bind (adds_allRestrictions cs) fun _ => adds_pure _]
  simp only [outcome_bind fun _ => adds_pure _]
  rfl

/-- One rejected condition is enough for an error, which is that of some condition. -/
theorem exists_outcome_eq_error {c : Condition} {cs : List Condition} {err : Error} (hc : c ∈ cs)
    (rejected : c.restrictions.outcome = .error err) :
    ∃ d ∈ cs, ∃ err', d.restrictions.outcome = .error err' ∧
      (allRestrictions cs).outcome = .error err' := by
  induction cs with
  | nil => cases hc
  | cons d ds ih =>
    cases hd : d.restrictions.outcome with
    | error err' =>
      refine ⟨d, List.mem_cons_self, err', hd, ?_⟩
      rw [outcome_allRestrictions_cons, hd]
      rfl
    | ok rs =>
      have hc' : c ∈ ds := by
        rcases List.mem_cons.mp hc with rfl | hc'
        · cases hd.symm.trans rejected
        · exact hc'
      obtain ⟨d', hd', err', rejected', failed⟩ := ih hc'
      refine ⟨d', List.mem_cons_of_mem d hd', err', rejected', ?_⟩
      rw [outcome_allRestrictions_cons, hd, failed]
      rfl

/-- Restrictions stand for themselves. -/
theorem allRestrictions_restriction (rs : List Restriction) :
    allRestrictions (rs.map .restriction) = pure rs := by
  induction rs with
  | nil => rfl
  | cons r rs ih => simp [allRestrictions, restrictions, ih]

/-- A list is no list of records if it is empty or has an item of another shape. -/
def IsMixed (items : List Condition) : Prop := items = [] ∨ ∃ c ∈ items, c.record? = none

theorem mapM_record?_eq_none_iff {items : List Condition} :
    items.mapM record? = none ↔ ∃ c ∈ items, c.record? = none := by
  induction items with
  | nil => simp
  | cons c cs ih =>
    simp only [List.mapM_cons, List.mem_cons, exists_eq_or_imp, ← ih]
    cases c.record? <;> cases cs.mapM record? <;> simp

theorem records?_eq_none_iff {items : List Condition} : records? items = none ↔ IsMixed items := by
  cases items with
  | nil => simp [records?, IsMixed]
  | cons c cs =>
    simp only [records?, IsMixed, List.isEmpty_cons, Bool.false_eq_true, if_false, reduceCtorEq,
      false_or, mapM_record?_eq_none_iff]

theorem restrictions_of_isMixed {items : List Condition} (h : IsMixed items) :
    (list items).restrictions = allRestrictions items ∧
      (tuple items).restrictions = allRestrictions items := by
  simp [restrictions, records?_eq_none_iff.mpr h]

mutual

/-- The conditions that a condition consists of: those of the items of a list that is no list of
records, at every depth, and otherwise the condition itself. -/
def flattened : Condition → List Condition
  | .list items =>
    match records? items with
    | some _ => [.list items]
    | none => flattenedAll items
  | .tuple items =>
    match records? items with
    | some _ => [.tuple items]
    | none => flattenedAll items
  | c => [c]
termination_by structural c => c

/-- The conditions that several conditions consist of. -/
def flattenedAll : List Condition → List Condition
  | [] => []
  | c :: cs => c.flattened ++ flattenedAll cs
termination_by structural cs => cs

end

mutual

theorem allRestrictions_flattened (c : Condition) :
    allRestrictions c.flattened = c.restrictions :=
  match c with
  | .list items | .tuple items => by
    rw [flattened]
    split
    · exact allRestrictions_singleton _
    · rename_i mixed
      rw [allRestrictions_flattenedAll items, restrictions, mixed]
  | .text _ | .record _ | .frame _ | .restriction _ | .expr _ | .query _ | .other _ =>
    allRestrictions_singleton _
termination_by structural c

/-- Lists within lists contribute as their items do. -/
theorem allRestrictions_flattenedAll (cs : List Condition) :
    allRestrictions (flattenedAll cs) = allRestrictions cs :=
  match cs with
  | [] => rfl
  | c :: cs => by
    rw [flattenedAll, allRestrictions_append, allRestrictions_flattened,
      allRestrictions_flattenedAll cs, allRestrictions]
termination_by structural cs

end

/-- A condition that is no list, or a list of records. -/
def IsFlat (c : Condition) : Prop := ∀ items, c = .list items ∨ c = .tuple items → ¬ IsMixed items

mutual

theorem isFlat_of_mem_flattened (c : Condition) : ∀ d ∈ c.flattened, d.IsFlat :=
  match c with
  | .list items | .tuple items => by
    rw [flattened]
    split
    · rename_i records found
      simp [IsFlat, ← records?_eq_none_iff, found]
    · exact isFlat_of_mem_flattenedAll items
  | .text _ | .record _ | .frame _ | .restriction _ | .expr _ | .query _ | .other _ => by
    simp [flattened, IsFlat]
termination_by structural c

theorem isFlat_of_mem_flattenedAll (cs : List Condition) : ∀ d ∈ flattenedAll cs, d.IsFlat :=
  match cs with
  | [] => List.forall_mem_nil _
  | c :: cs => List.forall_mem_append.mpr
    ⟨isFlat_of_mem_flattened c, isFlat_of_mem_flattenedAll cs⟩
termination_by structural cs

end

end Condition

/-! ### Restricting expressions -/

namespace Expr

/-- Add restrictions to an operator that takes them. -/
def extended (rs : List Restriction) : Expr → Expr
  | .table t h qs => .table t h (qs ++ rs)
  | .project e specs qs => .project e specs (qs ++ rs)
  | .aggregate e g specs qs => .aggregate e g specs (qs ++ rs)
  | .join l r qs => .join l r (qs ++ rs)
  | e => e

variable {e : Expr}

theorem restrictor?_extended (rs : List Restriction) (e : Expr) :
    (e.extended rs).restrictor? = e.restrictor? := by
  cases e <;> rfl

theorem extended_extended (rs ss : List Restriction) (e : Expr) :
    (e.extended rs).extended ss = e.extended (rs ++ ss) := by
  cases e <;> simp [extended]

theorem extended_nil (e : Expr) : e.extended [] = e := by
  cases e <;> simp [extended]

theorem unrestricted_extended (rs : List Restriction) (e : Expr) :
    (e.extended rs).unrestricted = e.unrestricted := by
  cases e <;> rfl

theorem restrictions_extended (h : e.restrictor? = none) (rs : List Restriction) :
    (e.extended rs).restrictions = e.restrictions ++ rs := by
  cases e <;> first | rfl | cases h

theorem restrict_eq_ok (h : e.restrictor? = none) (rs : List Restriction) :
    e.restrict rs = .ok (e.extended rs) := by
  cases rs with
  | nil => cases e <;> simp [restrict, extended]
  | cons r rs => cases e <;> first | rfl | cases h

theorem restrictBy_eq (h : e.restrictor? = none) (cs : List Condition) :
    e.restrictBy cs = (do return e.extended (← Condition.allRestrictions cs)) := by
  simp only [restrictBy, restrict_eq_ok h]
  rfl

end Expr

/-! ### Restricting queries -/

namespace Query

/-- Add restrictions to a query. -/
def extended (q : Query) (rs : List Restriction) : Query := { q with expr := q.expr.extended rs }

theorem run_restrict (q : Query) (cs : List Condition) (before : List Notice) :
    ((restrict cs).run.run q).run before =
      match (q.expr.restrictBy cs).run.run before with
      | (.ok e, after) => ((.ok (), { q with expr := e }), after)
      | (.error err, after) => ((.error err, q), after) := by
  -- The report comes first; its outcome alone decides whether the query is set.
  show (fun p : Except Error Expr × List Notice =>
    ((ExceptT.bindCont (fun e => (set { q with expr := e } : Change Unit)) p.1).run q).run p.2)
      ((q.expr.restrictBy cs).run.run before) = _
  rcases (q.expr.restrictBy cs).run.run before with ⟨err | e, after⟩ <;> rfl

theorem copied_restrict (q : Query) (cs : List Condition) :
    q.copied (restrict cs) = (do return { q with expr := ← q.expr.restrictBy cs }) := by
  refine ExceptT.ext (funext fun before => ?_)
  show (fun p : (Except Error Unit × Query) × List Notice => (p.1.1.map fun _ => p.1.2, p.2))
    (((restrict cs).run.run q).run before) =
      (q.expr.restrictBy cs >>= fun e => pure { q with expr := e }).run.run before
  rw [run_bind, run_restrict]
  rcases (q.expr.restrictBy cs).run.run before with ⟨err | e, after⟩ <;> rfl

variable {q : Query}

theorem copied_restrict_eq (h : q.expr.restrictor? = none) (cs : List Condition) :
    q.copied (restrict cs) = (do return q.extended (← Condition.allRestrictions cs)) := by
  rw [copied_restrict, Expr.restrictBy_eq h]
  simp only [bind_assoc, pure_bind, extended]

/-- Conditions may be given one by one or all at once. -/
theorem foldlM_restricted (h : q.expr.restrictor? = none) (cs : List Condition) :
    cs.foldlM restricted q = q.copied (restrict cs) := by
  induction cs generalizing q with
  | nil =>
    rw [copied_restrict_eq h]
    simp [Condition.allRestrictions, extended, Expr.extended_nil]
  | cons c cs ih =>
    -- The rest is applied to a query that has the restrictions of `c` already.
    have ih' (rs : List Restriction) : cs.foldlM restricted (q.extended rs) =
        (do return q.extended (rs ++ (← Condition.allRestrictions cs))) := by
      have h' : (q.extended rs).expr.restrictor? = none :=
        (Expr.restrictor?_extended rs q.expr).trans h
      rw [ih h', copied_restrict_eq h']
      simp only [extended, Expr.extended_extended]
    rw [List.foldlM_cons, restricted, copied_restrict_eq h, copied_restrict_eq h,
      Condition.allRestrictions_singleton]
    simp only [bind_assoc, pure_bind, ih', Condition.allRestrictions]

/-- After a rejected condition the query is what it was. -/
theorem run_restrict_of_rejected {c : Condition} {cs : List Condition} {err : Error} (hc : c ∈ cs)
    (rejected : c.restrictions.outcome = .error err) (before : List Notice) :
    ∃ d ∈ cs, ∃ err' after, d.restrictions.outcome = .error err' ∧
      ((restrict cs).run.run q).run before = ((.error err', q), after) := by
  obtain ⟨d, hd, err', rejected', failed⟩ := Condition.exists_outcome_eq_error hc rejected
  obtain ⟨after, h⟩ : ∃ after,
      (Condition.allRestrictions cs).run.run before = (.error err', after) :=
    ⟨_, (Condition.adds_allRestrictions cs before).trans (congrArg (·, _) failed)⟩
  refine ⟨d, hd, err', after, rejected', ?_⟩
  rw [run_restrict, Expr.restrictBy, run_bind, h]

/-- **It does not matter how conditions are grouped.** The restrictions of several conditions are
those of each, a list that is no list of records counts as its items at every depth, and
restrictions stand for themselves. So a query can be restricted by all conditions at once, by one
after another, or by a list of them, and a rejected condition leaves it as it was. -/
theorem conditions_compose (q : Query) (cs : List Condition) :
    (∀ xs ys, Condition.allRestrictions (xs ++ ys) = (do
      let rs ← Condition.allRestrictions xs
      return rs ++ (← Condition.allRestrictions ys))) ∧
    (∀ xs items ys, Condition.IsMixed items →
      Condition.allRestrictions (xs ++ .list items :: ys) =
          Condition.allRestrictions (xs ++ items ++ ys) ∧
        Condition.allRestrictions (xs ++ .tuple items :: ys) =
          Condition.allRestrictions (xs ++ items ++ ys)) ∧
    (Condition.allRestrictions (Condition.flattenedAll cs) = Condition.allRestrictions cs ∧
      ∀ c ∈ Condition.flattenedAll cs, c.IsFlat) ∧
    (∀ rs, Condition.allRestrictions (rs.map .restriction) = pure rs) ∧
    (q.expr.restrictor? = none →
      cs.foldlM restricted q = q.copied (restrict cs) ∧
      (Condition.IsMixed cs → q.restricted (.list cs) = q.copied (restrict cs) ∧
        q.restricted (.tuple cs) = q.copied (restrict cs)) ∧
      ∀ before rs after, (Condition.allRestrictions cs).run.run before = (.ok rs, after) →
        ∃ q', ((restrict cs).run.run q).run before = ((.ok (), q'), after) ∧
          (q.copied (restrict cs)).run.run before = (.ok q', after) ∧
          q'.database = q.database ∧ q'.expr.unrestricted = q.expr.unrestricted ∧
          q'.expr.restrictions = q.expr.restrictions ++ rs) ∧
    (∀ c ∈ cs, ∀ err, c.restrictions.outcome = .error err → ∀ before,
      ∃ d ∈ cs, ∃ err' after, d.restrictions.outcome = .error err' ∧
        ((restrict cs).run.run q).run before = ((.error err', q), after)) := by
  refine ⟨Condition.allRestrictions_append, ?_, ⟨Condition.allRestrictions_flattenedAll cs,
    Condition.isFlat_of_mem_flattenedAll cs⟩, Condition.allRestrictions_restriction, ?_,
    fun c hc err rejected before => run_restrict_of_rejected hc rejected before⟩
  · intro xs items ys mixed
    simp only [Condition.allRestrictions_append, Condition.allRestrictions, bind_assoc, pure_bind,
      Condition.restrictions_of_isMixed mixed, List.append_assoc, and_self]
  · intro h
    have grouped (c : Condition) (hc : c.restrictions = Condition.allRestrictions cs) :
        q.restricted c = q.copied (restrict cs) := by
      rw [restricted, copied_restrict_eq h, copied_restrict_eq h,
        Condition.allRestrictions_singleton, hc]
    refine ⟨foldlM_restricted h cs, fun mixed => ?_, fun before rs after returned => ?_⟩
    · obtain ⟨asList, asTuple⟩ := Condition.restrictions_of_isMixed mixed
      exact ⟨grouped _ asList, grouped _ asTuple⟩
    · refine ⟨q.extended rs, ?_, ?_, rfl, ?_, ?_⟩
      · rw [run_restrict, Expr.restrictBy_eq h, run_bind, returned]
        rfl
      · rw [copied_restrict_eq h, run_bind, returned]
        rfl
      · exact Expr.unrestricted_extended rs q.expr
      · exact Expr.restrictions_extended h rs

end Query

namespace Sample

/-- The sessions with a positive score. -/
def positive : Query := ⟨0, sessions [.sql "score > 0"]⟩

/-- A negation whose condition stands first in a list of its own. -/
def nested : List Condition :=
  [.text "not", .list [.tuple [.text "id > 1", .list []], .record (.ofEntries [])], .text "id < 9"]

/-- The negation reaches into the list, and a number among the conditions is rejected. -/
theorem restrict_nested :
    positive.expr.restrictor? = none ∧ Condition.IsMixed nested ∧
    (∃ q', ((Query.restrict nested).run.run positive).run [] = ((.ok (), q'), []) ∧
      (nested.foldlM Query.restricted positive).run.run [] = (.ok q', []) ∧
      (positive.restricted (.list nested)).run.run [] = (.ok q', []) ∧
      q'.expr.restrictions = [.sql "score > 0", .not, .sql "id > 1",
        .tuples (.ofRecords [.ofEntries []]), .sql "id < 9"]) ∧
    ∃ err after, ((Query.restrict (nested ++ [.other (.int 3)])).run.run positive).run [] =
      ((.error err, positive), after) := by
  have free : positive.expr.restrictor? = none := rfl
  have mixed : Condition.IsMixed nested := .inr ⟨.text "not", List.mem_cons_self, rfl⟩
  obtain ⟨-, -, -, -, restricts, -⟩ := Query.conditions_compose positive nested
  obtain ⟨chained, asList, returns⟩ := restricts free
  obtain ⟨q', changed, copy, -, -, restrictions⟩ := returns [] _ [] rfl
  obtain ⟨-, -, -, -, -, rejects⟩ := Query.conditions_compose positive (nested ++ [.other (.int 3)])
  obtain ⟨-, -, err, after, -, kept⟩ := rejects (.other (.int 3)) (by simp) _ rfl []
  refine ⟨free, mixed, ⟨q', changed, ?_, ?_, restrictions⟩, err, after, kept⟩
  · rw [chained, copy]
  · rw [(asList mixed).1, copy]

end Sample

end Relational

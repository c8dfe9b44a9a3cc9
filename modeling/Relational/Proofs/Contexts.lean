import Relational.Proofs.Derivation

/-!
# Contexts along all runs

A run may fail after it has drawn aliases, and the context that it leaves behind is used further.
`Compiler.Steady` says what holds of every run, whether it succeeds or not; all stages of a
compilation are steady. Since notices have no influence on anything else, a computation that returns
does so whatever was noticed before, which is `Compiler.Reaches`.
-/

namespace Relational

variable {α β : Type}

/-- What every run does to the context: the stem stays, numbers are only used up, and neither the
outcome nor the numbers depend on the notices so far. -/
structure Compiler.Steady (m : Compiler α) : Prop where
  stem : ∀ ctx, (m.run.run ctx).2.stem = ctx.stem
  next_le : ∀ ctx, ctx.next ≤ (m.run.run ctx).2.next
  silent : ∀ ctx notices, ∃ notices', m.run.run { ctx with notices := notices } =
    ((m.run.run ctx).1, { (m.run.run ctx).2 with notices := notices' })

/-! ### Steady computations -/

theorem steady_pure (a : α) : (pure a : Compiler α).Steady :=
  ⟨fun _ => rfl, fun _ => Nat.le_refl _, fun _ notices => ⟨notices, rfl⟩⟩

theorem steady_throw (err : Error) : (throw err : Compiler α).Steady :=
  ⟨fun _ => rfl, fun _ => Nat.le_refl _, fun _ notices => ⟨notices, rfl⟩⟩

theorem steady_lift (x : Except Error α) : (liftM x : Compiler α).Steady :=
  ⟨fun _ => rfl, fun _ => Nat.le_refl _, fun _ notices => ⟨notices, rfl⟩⟩

theorem steady_bind {m : Compiler α} {f : α → Compiler β} (hm : m.Steady)
    (hf : ∀ a, (f a).Steady) : (m >>= f).Steady := by
  constructor
  · intro ctx
    have stem := hm.stem ctx
    rw [run_bind]
    revert stem
    rcases m.run.run ctx with ⟨_ | a, ctx₁⟩ <;> intro stem
    · exact stem
    · exact ((hf a).stem ctx₁).trans stem
  · intro ctx
    have next := hm.next_le ctx
    rw [run_bind]
    revert next
    rcases m.run.run ctx with ⟨_ | a, ctx₁⟩ <;> intro next
    · exact next
    · exact Nat.le_trans next ((hf a).next_le ctx₁)
  · intro ctx notices
    obtain ⟨notices₁, run⟩ := hm.silent ctx notices
    rw [run_bind, run_bind, run]
    rcases m.run.run ctx with ⟨_ | a, ctx₁⟩
    · exact ⟨notices₁, rfl⟩
    · exact (hf a).silent ctx₁ notices₁

theorem steady_ite {p : Prop} [Decidable p] {m n : Compiler α} (hm : m.Steady) (hn : n.Steady) :
    (if p then m else n).Steady := by
  split
  · exact hm
  · exact hn

theorem steady_drawAlias (kind : String) : (drawAlias kind).Steady :=
  ⟨fun _ => rfl, fun ctx => Nat.le_succ ctx.next, fun _ notices => ⟨notices, rfl⟩⟩

theorem steady_liftReport (r : Report α) : (liftReport r).Steady := by
  refine steady_bind ⟨fun _ => rfl, fun _ => Nat.le_refl _, fun _ notices => ⟨_, rfl⟩⟩ fun _ => ?_
  exact steady_lift _

theorem steady_encloseIf (c : Compiled) (needed : Bool) (kind : AliasKind) :
    (c.encloseIf needed kind).Steady :=
  steady_ite (steady_bind (steady_drawAlias _) fun _ => steady_pure _) (steady_pure _)

theorem steady_clauseOf (h : Header) {m : Compiler (List Sql.Cond)} (hm : m.Steady) :
    (clauseOf h m).Steady := by
  refine steady_bind (steady_ite (steady_throw _) (steady_pure _)) fun _ => ?_
  exact steady_bind hm fun _ => steady_pure _

theorem steady_finish (c : Compiled) (mode : Enclosure) (plain grouped restricted : Bool)
    {clause : Header → Compiler (Option Sql.Cond)} (hc : ∀ h, (clause h).Steady) :
    (c.finish mode plain grouped restricted clause).Steady := by
  have restrict : (c.restrict clause).Steady :=
    steady_bind (steady_encloseIf _ _ _) fun _ => steady_bind (hc _) fun _ => steady_pure _
  unfold Compiled.finish
  refine steady_ite ?_ ?_
  · exact steady_bind restrict fun _ => steady_encloseIf _ _ _
  · exact steady_bind (steady_pure _) fun _ => steady_encloseIf _ _ _

theorem steady_tuples (t : TupleSet) (h : Header) (negated : Bool) :
    (t.condition h negated).Steady := by
  refine steady_ite (steady_pure _) (steady_ite (steady_pure _) ?_)
  exact steady_bind (steady_liftReport _) fun _ => steady_ite (steady_pure _) (steady_pure _)

theorem steady_alone (r : Restriction) {m : Compiler (Option Sql.Cond)} (hm : m.Steady) :
    (r.alone m).Steady :=
  steady_ite (steady_pure _) (steady_bind hm fun _ => steady_pure _)

mutual

theorem steady_compile (mode : Enclosure) (e : Expr) : (e.compile mode).Steady :=
  match e with
  | .table t h rs =>
    steady_finish _ _ _ _ _ fun h => steady_clauseOf h (steady_conditions h false rs)
  | .project e specs rs => by
    refine steady_bind (steady_compile .aliased e) fun _ => steady_bind (steady_lift _) fun _ => ?_
    exact steady_finish _ _ _ _ _ fun h => steady_clauseOf h (steady_conditions h false rs)
  | .aggregate e g specs rs => by
    refine steady_bind (steady_compile .derived e) fun _ => ?_
    refine steady_bind (steady_compile .derived g) fun _ => steady_bind (steady_lift _) fun _ => ?_
    exact steady_finish _ _ _ _ _ fun h => steady_clauseOf h (steady_conditions h false rs)
  | .join l r rs => by
    refine steady_bind (steady_compile .derived l) fun _ => ?_
    refine steady_bind (steady_compile .derived r) fun _ => steady_bind (steady_lift _) fun _ => ?_
    exact steady_finish _ _ _ _ _ fun h => steady_clauseOf h (steady_conditions h false rs)
  | .union _ => steady_throw _
  | .negation _ => steady_throw _
termination_by structural e

theorem steady_condition (h : Header) (negated : Bool) (r : Restriction) :
    (r.condition h negated).Steady :=
  match r with
  | .sql _ => steady_pure _
  | .tuples t => steady_tuples t h negated
  | .semijoin e => by
    refine steady_bind (steady_compile .derived e) fun _ => ?_
    exact steady_bind (steady_encloseIf _ _ _) fun _ => steady_pure _
  | .marker _ => steady_throw _
  | .union rs => steady_bind (steady_operands h rs) fun _ => steady_pure _
  | .complement r =>
    steady_bind (steady_alone r (steady_condition h false r)) fun _ => steady_pure _
termination_by structural r

theorem steady_operands (h : Header) (rs : List Restriction) : (operandConditions h rs).Steady :=
  match rs with
  | [] => steady_pure _
  | r :: rs => by
    refine steady_bind (steady_alone r (steady_condition h false r)) fun _ => ?_
    exact steady_bind (steady_operands h rs) fun _ => steady_pure _
termination_by structural rs

theorem steady_conditions (h : Header) (negated : Bool) (rs : List Restriction) :
    (conditions h negated rs).Steady :=
  match rs with
  | [] => steady_pure _
  | r :: rs => by
    by_cases hm : r = .marker true
    · subst hm
      exact steady_conditions h true rs
    · rw [conditions_cons hm]
      refine steady_bind (steady_condition h negated r) fun _ => ?_
      exact steady_bind (steady_conditions h false rs) fun _ => steady_pure _
termination_by structural rs

end

theorem steady_statement (e : Expr) (suffix : String) : (e.statement suffix).Steady :=
  steady_bind (steady_compile .never e) fun _ => steady_pure _

/-! ### Returning whatever was noticed before -/

/-- A computation returns a value, whatever notices there are before. -/
def Compiler.Reaches (m : Compiler α) (ctx : Context) (a : α) (ctx' : Context) : Prop :=
  ∀ notices, ∃ notices',
    m.Returns { ctx with notices := notices } a { ctx' with notices := notices' }

section Reaches

variable {ctx ctx₁ ctx' : Context}

theorem Compiler.Reaches.exists_returns {m : Compiler α} {a : α} (h : m.Reaches ctx a ctx') :
    ∃ ctx'', m.Returns ctx a ctx'' := by
  obtain ⟨notices', hr⟩ := h ctx.notices
  exact ⟨_, hr⟩

theorem Compiler.Steady.reaches {m : Compiler α} {a : α} (hm : m.Steady)
    (hr : m.Returns ctx a ctx') : m.Reaches ctx a ctx' := by
  intro notices
  obtain ⟨notices', run⟩ := hm.silent ctx notices
  rw [hr] at run
  exact ⟨notices', run⟩

theorem reaches_pure (ctx : Context) (a : α) : (pure a : Compiler α).Reaches ctx a ctx :=
  fun notices => ⟨notices, rfl⟩

theorem reaches_lift (ctx : Context) {x : Except Error α} {a : α} (h : x = .ok a) :
    (liftM x : Compiler α).Reaches ctx a ctx :=
  fun notices => ⟨notices, returns_lift.mpr ⟨h, rfl⟩⟩

theorem reaches_bind {m : Compiler α} {f : α → Compiler β} {a : α} {b : β}
    (hm : m.Reaches ctx a ctx₁) (hf : (f a).Reaches ctx₁ b ctx') :
    (m >>= f).Reaches ctx b ctx' := by
  intro notices
  obtain ⟨notices₁, hm⟩ := hm notices
  obtain ⟨notices', hf⟩ := hf notices₁
  exact ⟨notices', returns_bind.mpr ⟨a, _, hm, hf⟩⟩

end Reaches

end Relational

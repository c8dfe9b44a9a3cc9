import Relational.Proofs.Guards

/-!
# Unions and negations stand for no relation

A union or a negation only restricts. It must not be the whole expression, an input of an operator,
or what a restriction is matched in, at any depth: restrictions are compiled even if they turn out
to have no effect, so nothing that stands alone escapes. Nowhere else is one refused.
-/

namespace Relational

/-- The expressions that stand alone in what a stage of a compilation starts from. -/
def Outcome.standalone : Outcome → List Expr
  | .opened e _ => e :: e.inInputs
  | .restricted e _ | .compiled _ e _ => e.standalone
  | .condition _ _ r _ => r.standalone
  | .operands _ rs _ | .conditions _ _ rs _ => standaloneAll rs

/-- The operator of an expression comes to a relation. -/
def Expr.Opens (e : Expr) : Prop := ∃ ctx c ctx', Derives ctx (.opened e c) ctx'

theorem Expr.Opens.restrictor?_eq_none {e : Expr} (h : e.Opens) : e.restrictor? = none := by
  obtain ⟨ctx, c, ctx', opened⟩ := h
  cases opened <;> rfl

/-- Everything that stands alone in what is compiled comes to a relation on the way. -/
theorem Derives.opens {ctx ctx' : Context} {o : Outcome} (h : Derives ctx o ctx') :
    ∀ e ∈ o.standalone, e.Opens := by
  induction h with
  | @table ctx t h rs => exact List.forall_mem_singleton.mpr ⟨ctx, _, ctx, .table t h rs⟩
  | project rs input header ih =>
    exact List.forall_mem_cons.mpr ⟨⟨_, _, _, .project rs input header⟩, ih⟩
  | aggregate rs input grouping aggregated ihc ihd =>
    have itself := Derives.aggregate rs input grouping aggregated
    exact List.forall_mem_cons.mpr ⟨⟨_, _, _, itself⟩, List.forall_mem_append.mpr ⟨ihc, ihd⟩⟩
  | join rs left right joined ihl ihr =>
    have itself := Derives.join rs left right joined
    exact List.forall_mem_cons.mpr ⟨⟨_, _, _, itself⟩, List.forall_mem_append.mpr ⟨ihl, ihr⟩⟩
  | @unrestricted _ _ e c _ none ih =>
    rw [Outcome.standalone, standalone_eq, none, standaloneAll, List.append_nil]
    exact ih
  | @restricted _ _ _ _ e c d cs _ _ _ _ ih ihcs =>
    obtain ⟨itself, inputs⟩ := List.forall_mem_cons.mp ih
    rw [Outcome.standalone, standalone_eq]
    exact List.forall_mem_cons.mpr ⟨itself, List.forall_mem_append.mpr ⟨inputs, ihcs⟩⟩
  | compiled _ _ ih => exact ih
  | sql h negated text => exact List.forall_mem_nil _
  | tuples condition => exact List.forall_mem_nil _
  | semijoin h negated _ _ ih => exact ih
  | union negated _ ih => exact ih
  | complement negated _ ih => exact (List.forall_mem_append.mp ih).1
  | noOperands h => exact List.forall_mem_nil _
  | loneMarker _ ih => exact ih
  | operand _ _ ihw ihcs => exact List.forall_mem_append.mpr ⟨ihw, ihcs⟩
  | noConditions h negated => exact List.forall_mem_nil _
  | marker negated _ ih => exact ih
  | clause _ _ ihw ihcs => exact List.forall_mem_append.mpr ⟨ihw, ihcs⟩

/-- **Unions and negations are refused exactly where they stand alone.** A compilation that ends
with their refusal has met one there, with the operator that the error names. If there is one, then
the compilation fails, with that refusal or with an error that it met before. -/
theorem refused_iff_standalone (mode : Enclosure) (e : Expr) :
    (∀ ctx operator ctx',
        (e.compile mode).run.run ctx = (.error (.invalidStandalone operator), ctx') →
          ∃ f ∈ e.standalone, f.restrictor? = some operator) ∧
      ((∃ f ∈ e.standalone, f.restrictor? ≠ none) →
        ∀ ctx, ∃ err ctx', (e.compile mode).run.run ctx = (.error err, ctx')) := by
  constructor
  · intro ctx operator ctx' run
    -- Errors of other kinds are covered, whatever the expression is.
    let P (err : Error) : Prop := ∀ operator, err = .invalidStandalone operator →
      ∃ f ∈ e.standalone, f.restrictor? = some operator
    have ordinary : CoversOrdinary P := by
      constructor
      · rintro err heading operator rfl
        cases heading
      · rintro err literal operator rfl
        cases literal
    have stray : P .strayMarker := by
      intro operator same
      cases same
    have alone : CoversRefusals P e.standalone := by
      rintro f hf operator refused _ ⟨⟩
      exact ⟨f, hf, refused⟩
    exact raisesOnly_of_causes ordinary mode e (.inl stray) alone ctx _ ctx' run operator rfl
  · rintro ⟨f, hf, restrictor⟩ ctx
    rcases hr : (e.compile mode).run.run ctx with ⟨err | c, ctx'⟩
    · exact ⟨err, ctx', rfl⟩
    · -- A compilation that succeeds has opened all that stands alone.
      exact absurd ((derives_of_returns hr).opens f hf).restrictor?_eq_none restrictor

-- A negation may be an operand of a union, but nothing can be matched in one.
example : (Sample.sessions [.union [.complement (.semijoin (Sample.retired [])), .sql "score > 0"],
    .complement (.semijoin (.negation (Sample.retired [])))]).standalone.filterMap
      Expr.restrictor? = [.negation] := rfl

end Relational

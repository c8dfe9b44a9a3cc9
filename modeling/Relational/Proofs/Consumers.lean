import Relational.Proofs.Counting
import Relational.Proofs.Independence
import Relational.Proofs.Laws

/-!
# One header for all consumers

Queries, joins, projections and matches compile the same expression, each for its own kind of
enclosure and in the context that it has reached. They all learn the same about its attributes: the
compilation fails with the same error, or it has the same header once its aliases are resolved. Nor
does it matter whether the expression is restricted, as long as the restrictions compile.
-/

namespace Relational

open Sql

theorem Header.stripAliases_stripAliases (h : Header) :
    h.stripAliases.stripAliases = h.stripAliases :=
  stripAliases_of_resolved (hasAliases_stripAliases h)

/-- The header that a consumer gets, with its aliases resolved, or the error instead. -/
def Expr.resolvedHeader (e : Expr) (mode : Enclosure) (ctx : Context) : Except Error Header :=
  ((e.compile mode).run.run ctx).1.map fun c => c.header.stripAliases

/-! ### Modes and contexts -/

/-- Whether it is enclosed or not, a relation has the same header once aliases are resolved. -/
theorem agrees_header_encloseIf {c d : Compiled} (h : c.header = d.header) (needed needed' : Bool)
    (kind kind' : AliasKind) :
    (c.encloseIf needed kind).Agrees (·.header.stripAliases) (d.encloseIf needed' kind') := by
  intro ctx ctx'
  have resolved (c : Compiled) (needed : Bool) (kind : AliasKind) (ctx : Context) :
      ((c.encloseIf needed kind).run.run ctx).1.map (·.header.stripAliases) =
        .ok c.header.stripAliases := by
    cases needed with
    | false => rfl
    | true => exact congrArg Except.ok c.header.stripAliases_stripAliases
  rw [resolved, resolved, h]

/-- All consumers get the same header in all contexts, once aliases are resolved. -/
theorem agrees_header_compile (e : Expr) (mode mode' : Enclosure) :
    (e.compile mode).Agrees (·.header.stripAliases) (e.compile mode') := by
  rw [compile_eq mode, compile_eq mode']
  refine agrees_bind (agrees_compile .never e) fun c d same => ?_
  exact agrees_header_encloseIf (Compiled.header_of_unnamed same) _ _ _ _

theorem resolvedHeader_eq (e : Expr) (mode mode' : Enclosure) (ctx ctx' : Context) :
    e.resolvedHeader mode ctx = e.resolvedHeader mode' ctx' :=
  agrees_header_compile e mode mode' ctx ctx'

/-- Values that no run returns need not be looked at. -/
theorem map_outcome_congr {α β : Type} {m : Compiler α} {f g : α → β} {ctx : Context}
    (h : ∀ a ctx', m.Returns ctx a ctx' → f a = g a) :
    (m.run.run ctx).1.map f = (m.run.run ctx).1.map g := by
  rcases hm : m.run.run ctx with ⟨err | a, ctx'⟩
  · rfl
  · exact congrArg Except.ok (h a ctx' hm)

/-! ### The wildcard -/

/-- The projection to all attributes has no aliases, whoever consumes it. -/
theorem hasAliases_wildcard {e : Expr} {mode : Enclosure} {c : Compiled} {ctx ctx' : Context}
    (hr : ((Expr.project e ["*"] []).compile mode).Returns ctx c ctx') :
    c.header.hasAliases = false := by
  rw [compile_eq, compile_wildcard] at hr
  obtain ⟨d, ctx₁, hd, hr⟩ := returns_bind.mp hr
  have resolved : d.header.hasAliases = false := (derives_of_returns hd).wellShaped.2
  cases enclosed_of_returns hr with
  | kept _ => exact resolved
  | wrapped _ => exact Header.hasAliases_stripAliases _

/-- The projection to all attributes has the header of its input, with the aliases resolved. -/
theorem header_wildcard (e : Expr) (mode mode' : Enclosure) (ctx ctx' : Context) :
    (((Expr.project e ["*"] []).compile mode).run.run ctx).1.map Compiled.header =
      e.resolvedHeader mode' ctx' := by
  calc (((Expr.project e ["*"] []).compile mode).run.run ctx).1.map Compiled.header
    _ = (Expr.project e ["*"] []).resolvedHeader mode ctx :=
      map_outcome_congr fun _ _ hr =>
        (Header.stripAliases_of_resolved (hasAliases_wildcard hr)).symm
    _ = (Expr.project e ["*"] []).resolvedHeader .never ctx := resolvedHeader_eq _ _ _ _ _
    _ = e.resolvedHeader .aliased ctx := by
      rw [Expr.resolvedHeader, compile_wildcard, Expr.resolvedHeader]
    _ = e.resolvedHeader mode' ctx' := resolvedHeader_eq _ _ _ _ _

/-! ### Restrictions -/

/-- A relation is finished without restrictions first. -/
theorem finish_never_eq (c : Compiled) (plain grouped : Bool) (rs : List Restriction) :
    c.finish .never plain grouped (!rs.isEmpty) (fun h => clauseOf h (conditions h false rs)) = (do
      let d ← c.finish .never plain grouped (!([] : List Restriction).isEmpty)
        (fun h => clauseOf h (conditions h false []))
      if rs.isEmpty then return d else d.restrict fun h => whereClause h rs) := by
  unfold Compiled.finish
  cases rs <;> simp [Compiled.encloseIf, whereClause]

/-- An expression is compiled without its restrictions first. -/
theorem compile_never_eq (e : Expr) :
    e.compile .never = (do
      let c ← e.unrestricted.compile .never
      if e.restrictions.isEmpty then return c
      else c.restrict fun h => whereClause h e.restrictions) := by
  cases e with
  | table t h rs => exact finish_never_eq _ true false rs
  | project e specs rs =>
    simp only [Expr.compile, Expr.unrestricted, bind_assoc]
    exact bind_congr fun c => bind_congr fun h => finish_never_eq _ false false rs
  | aggregate e g specs rs =>
    simp only [Expr.compile, Expr.unrestricted, bind_assoc]
    refine bind_congr fun c => bind_congr fun d => bind_congr fun a => ?_
    exact finish_never_eq a false true rs
  | join l r rs =>
    simp only [Expr.compile, Expr.unrestricted, bind_assoc]
    refine bind_congr fun c => bind_congr fun d => bind_congr fun j => ?_
    exact finish_never_eq j true false rs
  | union rs => rfl
  | negation e => rfl

theorem Expr.unrestricted_of_nil {e : Expr} (none : e.restrictions = []) : e.unrestricted = e := by
  cases e with
  | union _ | negation _ => rfl
  | _ =>
    cases none
    rfl

/-- What is about to be restricted has the resolved header. -/
theorem header_of_ready {c d : Compiled} {ctx ctx' : Context}
    (h : Enclosed (c.header.hasAliases || c.source.isFiltered) .restricted ctx c d ctx') :
    d.header = c.header.stripAliases := by
  cases h with
  | kept none => exact (Header.stripAliases_of_resolved (Bool.or_eq_false_iff.mp none).1).symm
  | wrapped _ => rfl

/-- A restricted expression compiles if it does without its restrictions and if these compile on the
resolved header, after the fragment is enclosed where that is needed. -/
theorem returns_restricted_iff {e : Expr} (some : e.restrictions ≠ []) {d : Compiled}
    {ctx ctx' : Context} :
    (e.compile .never).Returns ctx d ctx' ↔ ∃ c ctx₁ ready ctx₂ w,
      (e.unrestricted.compile .never).Returns ctx c ctx₁ ∧
      (c.encloseIf (c.header.hasAliases || c.source.isFiltered) .restricted).Returns ctx₁ ready
        ctx₂ ∧
      (whereClause c.header.stripAliases e.restrictions).Returns ctx₂ w ctx' ∧
      ready.filter w = d := by
  have restricted : e.restrictions.isEmpty = false := by simpa using some
  simp only [compile_never_eq e, restricted, Bool.false_eq_true, if_false]
  constructor
  · intro hr
    obtain ⟨c, ctx₁, hc, hr⟩ := returns_bind.mp hr
    obtain ⟨ready, ctx₂, hready, hr⟩ := returns_bind.mp hr
    obtain ⟨w, ctx₃, hw, hr⟩ := returns_bind.mp hr
    obtain ⟨rfl, rfl⟩ := returns_pure.mp hr
    rw [header_of_ready (enclosed_of_returns hready)] at hw
    exact ⟨c, ctx₁, ready, ctx₂, w, hc, hready, hw, rfl⟩
  · rintro ⟨c, ctx₁, ready, ctx₂, w, hc, hready, hw, rfl⟩
    rw [← header_of_ready (enclosed_of_returns hready)] at hw
    refine returns_bind.mpr ⟨c, ctx₁, hc, returns_bind.mpr ⟨ready, ctx₂, hready, ?_⟩⟩
    exact returns_bind.mpr ⟨w, ctx', hw, returns_pure.mpr ⟨rfl, rfl⟩⟩

/-! ### More restrictions -/

/-- A computation returns in some context. -/
def Compiler.Succeeds {α : Type} (m : Compiler α) : Prop := ∃ ctx a ctx', m.Returns ctx a ctx'

/-- Computations that agree succeed together. -/
theorem Compiler.Agrees.succeeds {α γ : Type} {v : α → γ} {m n : Compiler α} (h : m.Agrees v n)
    (hm : m.Succeeds) (ctx : Context) : ∃ a ctx', n.Returns ctx a ctx' := by
  obtain ⟨ctx₁, a, ctx₂, hr⟩ := hm
  obtain ⟨b, ctx', hn, -⟩ := h.exists_returns hr ctx
  exact ⟨b, ctx', hn⟩

theorem conditions_append (h : Header) (marked : Bool) (xs ys : List Restriction) :
    conditions h marked (xs ++ ys) = (do
      let cs ← conditions h marked xs
      return cs ++ (← conditions h (endsMarked marked xs) ys)) := by
  induction xs generalizing marked with
  | nil =>
    rw [List.nil_append, endsMarked_nil, conditions, pure_bind]
    exact (bind_pure _).symm
  | cons x xs ih =>
    rw [endsMarked_cons, List.cons_append]
    by_cases hx : x = .marker true
    · subst hx
      exact ih true
    · rw [conditions_cons hx, conditions_cons hx, ih, isMarker_eq_false_iff.mpr hx]
      simp only [bind_assoc, pure_bind, List.append_assoc]

/-- Negating a restriction does not make it fail or succeed. -/
theorem agrees_negated_condition (h : Header) (negated negated' : Bool) (r : Restriction) :
    (r.condition h negated).Agrees (fun _ => ()) (r.condition h negated') := by
  cases r with
  | sql _ => exact agrees_pure rfl
  | tuples t =>
    refine agrees_ite (agrees_pure rfl) (agrees_ite (agrees_pure rfl) ?_)
    refine agrees_bind (v := id) (agrees_liftReport _) fun _ _ _ => ?_
    split <;> split <;> exact agrees_pure rfl
  | semijoin e =>
    refine agrees_bind (agrees_compile .derived e) fun c d same => ?_
    rw [Compiled.header_of_unnamed same]
    exact agrees_bind (agrees_encloseIf same _ _) fun _ _ _ => agrees_pure rfl
  | marker _ => exact agrees_throw _
  | union rs => exact agrees_bind (agrees_operands h rs) fun _ _ _ => agrees_pure rfl
  | complement r =>
    have operand := agrees_alone r (agrees_condition h false r)
    exact agrees_bind operand fun _ _ _ => agrees_pure rfl

theorem agrees_negated (h : Header) (negated negated' : Bool) (rs : List Restriction) :
    (conditions h negated rs).Agrees (fun _ => ()) (conditions h negated' rs) := by
  cases rs with
  | nil => exact agrees_pure rfl
  | cons r rs =>
    by_cases hm : r = .marker true
    · subst hm
      exact (agrees_conditions h true rs).mono fun _ _ _ => rfl
    · rw [conditions_cons hm, conditions_cons hm]
      refine agrees_bind (agrees_negated_condition h negated negated' r) fun _ _ _ => ?_
      exact agrees_bind (agrees_conditions h false rs) fun _ _ _ => agrees_pure rfl

theorem succeeds_conditions_append {h : Header} {marked : Bool} {xs ys : List Restriction} :
    (conditions h marked (xs ++ ys)).Succeeds ↔
      (conditions h marked xs).Succeeds ∧ (conditions h false ys).Succeeds := by
  rw [conditions_append]
  constructor
  · rintro ⟨ctx, _, ctx', hr⟩
    obtain ⟨cs, ctx₁, hxs, hr⟩ := returns_bind.mp hr
    obtain ⟨ds, ctx₂, hys, -⟩ := returns_bind.mp hr
    have unmarked := (agrees_negated h _ false ys).succeeds ⟨ctx₁, ds, ctx₂, hys⟩ ctx₁
    exact ⟨⟨ctx, cs, ctx₁, hxs⟩, ctx₁, unmarked⟩
  · rintro ⟨⟨ctx, cs, ctx₁, hxs⟩, unmarked⟩
    have agrees := agrees_negated h false (endsMarked marked xs) ys
    obtain ⟨ds, ctx₂, hys⟩ := agrees.succeeds unmarked ctx₁
    exact ⟨ctx, cs ++ ds, ctx₂, returns_bind.mpr ⟨cs, ctx₁, hxs,
      returns_bind.mpr ⟨ds, ctx₂, hys, returns_pure.mpr ⟨rfl, rfl⟩⟩⟩⟩

theorem succeeds_whereClause_iff {h : Header} (resolved : h.hasAliases = false)
    {rs : List Restriction} : (whereClause h rs).Succeeds ↔ (conditions h false rs).Succeeds := by
  constructor
  · rintro ⟨ctx, w, ctx', hr⟩
    obtain ⟨cs, hcs, -⟩ := conditions_of_returns_clauseOf hr
    exact ⟨ctx, cs, ctx', hcs⟩
  · rintro ⟨ctx, cs, ctx', hr⟩
    have ready : (requireResolved h).Returns ctx () ctx := by
      rw [requireResolved, resolved]
      exact returns_pure.mpr ⟨rfl, rfl⟩
    exact ⟨ctx, conjunction cs, ctx', returns_bind.mpr ⟨(), ctx, ready,
      returns_bind.mpr ⟨cs, ctx', hr, returns_pure.mpr ⟨rfl, rfl⟩⟩⟩⟩

/-! ### Restricted expressions -/

theorem resolvedHeader_eq_ok_iff {e : Expr} {mode : Enclosure} {ctx : Context} {h : Header} :
    e.resolvedHeader mode ctx = .ok h ↔
      ∃ c ctx', (e.compile mode).Returns ctx c ctx' ∧ c.header.stripAliases = h := by
  unfold Expr.resolvedHeader Compiler.Returns
  rcases (e.compile mode).run.run ctx with ⟨err | c, ctx'⟩
  · constructor
    · intro failed
      cases failed
    · rintro ⟨_, _, failed, -⟩
      cases failed
  · constructor
    · intro header
      exact ⟨c, ctx', rfl, Except.ok.inj header⟩
    · rintro ⟨_, _, same, rfl⟩
      cases same
      rfl

theorem hasAliases_of_resolvedHeader {e : Expr} {mode : Enclosure} {ctx : Context} {h : Header}
    (header : e.resolvedHeader mode ctx = .ok h) : h.hasAliases = false := by
  obtain ⟨c, -, -, rfl⟩ := resolvedHeader_eq_ok_iff.mp header
  exact c.header.hasAliases_stripAliases

/-- An expression has the header that it has without its restrictions, if these compile. -/
theorem resolvedHeader_unrestricted {e : Expr} {mode : Enclosure} {ctx : Context} {h : Header} :
    e.resolvedHeader mode ctx = .ok h ↔
      e.unrestricted.resolvedHeader mode ctx = .ok h ∧
        (whereClause h e.restrictions).Succeeds := by
  by_cases none : e.restrictions = []
  · rw [none, Expr.unrestricted_of_nil none]
    refine ⟨fun header => ⟨header, ?_⟩, And.left⟩
    exact (succeeds_whereClause_iff (hasAliases_of_resolvedHeader header)).mpr ⟨{}, [], {}, rfl⟩
  · rw [resolvedHeader_eq e mode .never ctx ctx,
      resolvedHeader_eq e.unrestricted mode .never ctx ctx, resolvedHeader_eq_ok_iff,
      resolvedHeader_eq_ok_iff]
    have kept {c ready : Compiled} {w : Option Cond} {ctx₁ ctx₂ : Context}
        (hready : (c.encloseIf (c.header.hasAliases || c.source.isFiltered) .restricted).Returns
          ctx₁ ready ctx₂) :
        (ready.filter w).header.stripAliases = c.header.stripAliases := by
      rw [header_filter, header_of_ready (enclosed_of_returns hready),
        Header.stripAliases_stripAliases]
    constructor
    · rintro ⟨_, ctx', hr, rfl⟩
      obtain ⟨c, ctx₁, ready, ctx₂, w, hc, hready, hw, rfl⟩ := (returns_restricted_iff none).mp hr
      rw [kept hready]
      exact ⟨⟨c, ctx₁, hc, rfl⟩, ctx₂, w, ctx', hw⟩
    · rintro ⟨⟨c, ctx₁, hc, rfl⟩, clause⟩
      obtain ⟨ready, ctx₂, hready⟩ := exists_encloseIf c _ .restricted ctx₁
      obtain ⟨w, ctx', hw⟩ := (agrees_whereClause _ _).succeeds clause ctx₂
      have hr := (returns_restricted_iff none).mpr
        ⟨c, ctx₁, ready, ctx₂, w, hc, hready, hw, rfl⟩
      exact ⟨ready.filter w, ctx', hr, kept hready⟩

/-- Further restrictions leave the header as it is, if they compile on it. -/
theorem resolvedHeader_restrict {e f : Expr} {rs : List Restriction} (hf : e.restrict rs = .ok f)
    {mode mode' : Enclosure} {ctx ctx' : Context} {h : Header} :
    f.resolvedHeader mode ctx = .ok h ↔
      e.resolvedHeader mode' ctx' = .ok h ∧ (whereClause h rs).Succeeds := by
  have further := extends_of_restrict hf
  rw [resolvedHeader_eq e mode' mode ctx' ctx, resolvedHeader_unrestricted (e := e),
    resolvedHeader_unrestricted (e := f), further.unrestricted, further.restrictions, and_assoc]
  refine and_congr_right fun header => ?_
  have resolved := hasAliases_of_resolvedHeader header
  rw [succeeds_whereClause_iff resolved, succeeds_whereClause_iff resolved,
    succeeds_whereClause_iff resolved, succeeds_conditions_append]

/-- **The header does not depend on how an expression is compiled.** For any two kinds of enclosure
and in any two contexts, a compilation fails with the same error, or it has the same header once its
aliases are resolved. The projection to all attributes has this header. An expression that is
restricted further compiles if and only if it does as it is and the restrictions compile on its
header, and then it keeps this header. Resolving aliases keeps names, keys and types. -/
theorem resolvedHeader_independent (e : Expr) :
    (∀ mode mode' ctx ctx', e.resolvedHeader mode ctx = e.resolvedHeader mode' ctx') ∧
      (∀ mode mode' ctx ctx',
        (((Expr.project e ["*"] []).compile mode).run.run ctx).1.map Compiled.header =
          e.resolvedHeader mode' ctx') ∧
      (∀ rs f, e.restrict rs = .ok f → ∀ mode mode' ctx ctx' h,
        f.resolvedHeader mode ctx = .ok h ↔
          e.resolvedHeader mode' ctx' = .ok h ∧ (whereClause h rs).Succeeds) ∧
      ∀ h : Header, h.stripAliases.names = h.names ∧
        h.stripAliases.attributes.map Attribute.isKey = h.attributes.map Attribute.isKey ∧
        h.stripAliases.attributes.map Attribute.type = h.attributes.map Attribute.type := by
  refine ⟨resolvedHeader_eq e, header_wildcard e, ?_, fun h => ⟨h.names_stripAliases, ?_, ?_⟩⟩
  · intro rs f hf mode mode' ctx ctx' h
    exact resolvedHeader_restrict hf
  · simp [Header.stripAliases]
  · simp [Header.stripAliases]

end Relational

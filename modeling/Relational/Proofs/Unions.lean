import Relational.Proofs.Composition
import Relational.Proofs.Laws

/-!
# Unions in any bracketing

A union takes over the operands of the unions that it is made of. It removes one level only, but
every union is made in this way, so no union is ever nested: whatever the brackets, the operands are
those given, from left to right. The inner unions may arrive as expressions, as queries or as
restrictions, and in lists.
-/

namespace Relational

namespace Condition

/-! ### Reports of conditions -/

theorem adds_refuse {α : Type} (reason : String) (c : Condition) :
    (c.refuse reason : Report α).Adds :=
  adds_bind (adds_lift _) fun _ => adds_lift (.error _)

theorem adds_sole (c : Condition) : c.sole.Adds := by
  refine adds_bind (adds_restrictions c) fun rs => ?_
  split
  · exact adds_refuse _ c
  · exact adds_pure _
  · exact adds_refuse _ c

theorem operands_eq (c : Condition) : c.operands = (do return (← c.sole).operands) :=
  bind_congr fun r => by cases r <;> rfl

theorem adds_operands (c : Condition) : c.operands.Adds := by
  rw [operands_eq]
  exact adds_bind (adds_sole c) fun _ => adds_pure _

theorem outcome_operands {c : Condition} {r : Restriction} (h : c.sole.outcome = .ok r) :
    c.operands.outcome = .ok r.operands := by
  rw [operands_eq, outcome_bind fun _ => adds_pure _, h]
  rfl

/-! ### Handing unions on -/

/-- A condition hands an expression on: as it is, as a query or as the restriction that it stands
for, by itself or as the only condition of a list, which may lie in lists itself. -/
def Presents (c : Condition) (e : Expr) : Prop :=
  ∃ k, c.flattened = [k] ∧ (k = .expr e ∨ k = .query e ∨ k = .restriction (.ofExpr e))

variable {c : Condition} {e : Expr} {operands : List Restriction}

theorem Presents.restrictions_eq (h : c.Presents e) : c.restrictions = pure [.ofExpr e] := by
  obtain ⟨k, flat, hk⟩ := h
  rw [← allRestrictions_flattened, flat, allRestrictions_singleton]
  rcases hk with rfl | rfl | rfl <;> rfl

theorem Presents.sole_eq (h : c.Presents (.union operands)) : c.sole = pure (.union operands) := by
  rw [sole, h.restrictions_eq, pure_bind]
  rfl

theorem Presents.record?_eq_none (h : c.Presents e) : c.record? = none := by
  obtain ⟨k, flat, hk⟩ := h
  cases c with
  | record r =>
    cases List.head_eq_of_cons_eq flat
    rcases hk with hk | hk | hk <;> cases hk
  | text _ | frame _ | list _ | tuple _ | restriction _ | expr _ | query _ | other _ => rfl

theorem Presents.inList (h : c.Presents e) : (list [c]).Presents e := by
  have mixed : records? [c] = none :=
    records?_eq_none_iff.mpr (.inr ⟨c, List.mem_singleton_self c, h.record?_eq_none⟩)
  obtain ⟨k, flat, hk⟩ := h
  refine ⟨k, ?_, hk⟩
  simp [flattened, mixed, flattenedAll, flat]

end Condition

/-- A way to hand expressions on as conditions. -/
structure Handing where
  hand : Expr → Condition
  presents : ∀ e, (hand e).Presents e

namespace Handing

def asExpr : Handing := ⟨.expr, fun e => ⟨.expr e, rfl, .inl rfl⟩⟩

def asQuery : Handing := ⟨.query, fun e => ⟨.query e, rfl, .inr (.inl rfl)⟩⟩

def asRestriction : Handing :=
  ⟨fun e => .restriction (.ofExpr e), fun e => ⟨.restriction (.ofExpr e), rfl, .inr (.inr rfl)⟩⟩

/-- Hand an expression on in a list of its own. -/
def inList (handed : Handing) : Handing :=
  ⟨fun e => .list [handed.hand e], fun e => (handed.presents e).inList⟩

end Handing

/-! ### Bracketings -/

/-- Conditions with brackets around two of them at a time, and around the unions of such. A union in
brackets is handed on as a condition. -/
inductive Bracketing where
  | operand (c : Condition)
  | union (left right : Bracketing) (handed : Handing)

namespace Bracketing

/-- The conditions of a bracketing from left to right. -/
def operands : Bracketing → List Condition
  | .operand c => [c]
  | .union l r _ => l.operands ++ r.operands

/-- The condition that a bracketing comes to, with its unions made from the inside out. -/
def condition : Bracketing → Report Condition
  | .operand c => return c
  | .union l r handed => do return handed.hand (← Expr.unite (← l.condition) (← r.condition))

/-- The union of two bracketings. -/
def unite (l r : Bracketing) : Report Expr := do Expr.unite (← l.condition) (← r.condition)

theorem condition_union (l r : Bracketing) (handed : Handing) :
    (union l r handed).condition = (do return handed.hand (← l.unite r)) := by
  simp only [condition, unite, bind_assoc]

theorem operands_ne_nil (b : Bracketing) : b.operands ≠ [] := by
  induction b with
  | operand c => simp [operands]
  | union l r handed left _ => simp [operands, left]

end Bracketing

theorem adds_unite (c d : Condition) : (Expr.unite c d).Adds :=
  adds_bind (Condition.adds_operands c) fun _ =>
    adds_bind (Condition.adds_operands d) fun _ => adds_lift _

/-- The union of two conditions with at least two operands together has the operands of both. -/
theorem outcome_unite {c d : Condition} {ls rs : List Restriction}
    (hl : c.operands.outcome = .ok ls) (hr : d.operands.outcome = .ok rs)
    (two : 2 ≤ (ls ++ rs).length) : (Expr.unite c d).outcome = .ok (.union (ls ++ rs)) := by
  have second (rs : List Restriction) : (liftM (Expr.unionOf (ls ++ rs)) : Report Expr).Adds :=
    adds_lift _
  rw [Expr.unite, outcome_bind fun _ => adds_bind (Condition.adds_operands d) fun _ => adds_lift _,
    hl]
  show (d.operands >>= fun rs => liftM (Expr.unionOf (ls ++ rs))).outcome = _
  rw [outcome_bind second, hr]
  show Expr.unionOf (ls ++ rs) = _
  rw [Expr.unionOf, if_neg (Nat.not_lt.mpr two)]

namespace Bracketing

variable {b l r : Bracketing} {c d : Condition} {rs : List Restriction}

theorem adds_condition (b : Bracketing) : b.condition.Adds := by
  induction b with
  | operand c => exact adds_pure c
  | union l r handed left right =>
    rw [condition_union]
    refine adds_bind ?_ fun _ => adds_pure _
    exact adds_bind left fun c => adds_bind right fun d => adds_unite c d

theorem outcome_unite_eq (hl : l.condition.outcome = .ok c) (hr : r.condition.outcome = .ok d) :
    (l.unite r).outcome = (Expr.unite c d).outcome := by
  rw [unite, outcome_bind fun c => adds_bind r.adds_condition fun d => adds_unite c d, hl]
  show (r.condition >>= fun d => Expr.unite c d).outcome = _
  rw [outcome_bind fun d => adds_unite c d, hr]
  rfl

end Bracketing

/-- A condition stands for one restriction only, which is no union. -/
structure Restriction.IsSoleOf (r : Restriction) (c : Condition) : Prop where
  sole : c.sole.outcome = .ok r
  single : ∀ nested, r ≠ .union nested

theorem Restriction.IsSoleOf.operands_eq {r : Restriction} {c : Condition} (h : r.IsSoleOf c) :
    r.operands = [r] := by
  cases r with
  | union operands => exact absurd rfl (h.single operands)
  | sql _ | tuples _ | semijoin _ | marker _ | complement _ => rfl

namespace Bracketing

variable {l r : Bracketing} {rs : List Restriction}

/-- What a bracketing comes to has the restrictions of its conditions as operands. -/
def Flattens (b : Bracketing) : Prop :=
  ∀ rs, List.Forall₂ Restriction.IsSoleOf rs b.operands →
    ∃ c, b.condition.outcome = .ok c ∧ c.operands.outcome = .ok rs

theorem outcome_unite_of_flattens (hl : l.Flattens) (hr : r.Flattens)
    (h : List.Forall₂ Restriction.IsSoleOf rs (l.operands ++ r.operands)) :
    (l.unite r).outcome = .ok (.union rs) := by
  obtain ⟨c, hc, left⟩ := hl _ (List.forall₂_take_append _ _ _ h)
  obtain ⟨d, hd, right⟩ := hr _ (List.forall₂_drop_append _ _ _ h)
  have two : 2 ≤ rs.length := by
    have first := List.length_pos_iff.mpr l.operands_ne_nil
    have second := List.length_pos_iff.mpr r.operands_ne_nil
    rw [h.length_eq, List.length_append]
    omega
  rw [← List.take_append_drop l.operands.length rs] at two ⊢
  rw [outcome_unite_eq hc hd, outcome_unite left right two]

theorem flattens (b : Bracketing) : b.Flattens := by
  induction b with
  | operand c =>
    intro rs h
    obtain ⟨r, rest, hr, none, rfl⟩ := List.forall₂_cons_right_iff.mp h
    rw [List.forall₂_nil_right_iff.mp none]
    exact ⟨c, rfl, by rw [Condition.outcome_operands hr.sole, hr.operands_eq]⟩
  | union l r handed left right =>
    -- The inner union is one condition, but it adds all of its operands to the outer one.
    intro rs h
    refine ⟨handed.hand (.union rs), ?_, ?_⟩
    · rw [condition_union, outcome_bind fun _ => adds_pure _,
        outcome_unite_of_flattens left right h]
      rfl
    · rw [Condition.outcome_operands (r := .union rs)]
      · rfl
      · rw [(handed.presents (.union rs)).sole_eq]
        rfl

/-- **Unions do not depend on brackets.** If each of two or more conditions stands for one
restriction that is no union, every bracketing of them can be united. The operands of the union are
these restrictions from left to right, and none of them is a union. So every other bracketing gives
the same union, which compiles to the alternatives of its operands. -/
theorem unite_flattens (h : List.Forall₂ Restriction.IsSoleOf rs (l.operands ++ r.operands)) :
    ∃ operands, (l.unite r).outcome = .ok (.union operands) ∧ operands = rs ∧
      (∀ q ∈ operands, ∀ nested, q ≠ .union nested) ∧
      ∀ l' r' : Bracketing, l'.operands ++ r'.operands = l.operands ++ r.operands →
        ∃ u, (l'.unite r').outcome = .ok u ∧ u = .union operands ∧
          ∀ (h : Header) (negated : Bool), (Restriction.ofExpr u).condition h negated = (do
            return some (bracket negated (.disj (← operandConditions h operands)))) := by
  refine ⟨rs, outcome_unite_of_flattens l.flattens r.flattens h, rfl, ?_, ?_⟩
  · intro q hq
    obtain ⟨c, -, hc⟩ := exists_of_mem_right h.flip hq
    exact hc.single
  · intro l' r' same
    rw [← same] at h
    refine ⟨_, outcome_unite_of_flattens l'.flattens r'.flattens h, rfl, fun k negated => ?_⟩
    rw [Restriction.ofExpr, Restriction.condition]

end Bracketing

namespace Sample

def lowScore : Condition := .text "score < 3"
def firstSession : Condition := .record (.ofEntries [(.name "id", .int 1)])
def tried : Condition := .query (trials [])
def notRetired : Condition := .expr (.negation (retired []))

/-- The restrictions that these conditions stand for. -/
def choices : List Restriction :=
  [.sql "score < 3", .tuples (.ofRecords [.ofEntries [(.name "id", .int 1)]]),
    .semijoin (trials []), .complement (.semijoin (retired []))]

/-- A union of two unions, one of which stands in a list. -/
def balanced : Bracketing × Bracketing :=
  (.union (.operand lowScore) (.operand firstSession) .asRestriction,
    .union (.operand tried) (.operand notRetired) Handing.asQuery.inList)

/-- A union within a union within a union. -/
def nestedRight : Bracketing × Bracketing :=
  (.operand lowScore, .union (.operand firstSession)
    (.union (.operand tried) (.operand notRetired) .asExpr) .asQuery)

theorem unite_balanced :
    List.Forall₂ Restriction.IsSoleOf choices
        (balanced.1.operands ++ balanced.2.operands) ∧
      (balanced.1.unite balanced.2).outcome = .ok (.union choices) ∧
      (nestedRight.1.unite nestedRight.2).outcome = .ok (.union choices) := by
  have soles : List.Forall₂ Restriction.IsSoleOf choices
      (balanced.1.operands ++ balanced.2.operands) :=
    .cons ⟨rfl, by simp⟩ (.cons ⟨rfl, by simp⟩ (.cons ⟨rfl, by simp⟩ (.cons ⟨rfl, by simp⟩ .nil)))
  obtain ⟨_, united, rfl, -, others⟩ := Bracketing.unite_flattens soles
  obtain ⟨_, other, rfl, -⟩ := others nestedRight.1 nestedRight.2 rfl
  exact ⟨soles, united, other⟩

end Sample

end Relational

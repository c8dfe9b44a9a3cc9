import Relational.Proofs.Projection
import Relational.Proofs.Recovery
import Relational.Proofs.Scanner
import Relational.Proofs.Shape

/-!
# Bracketing of clauses

Conditions and expressions in SQL go into a statement as they are. If each of them is well bracketed
on its own, so is every clause, whatever the names of attributes and the values in records are; and
no alternatives stand outside of brackets. So a clause keeps its meaning after `WHERE` and between
other clauses.
-/

namespace Relational

namespace Sql

/-! ### Safe syntax -/

/-- Numbers are written with the characters of numerals. -/
def Literal.IsSafe : Literal → Prop
  | .text _ => True
  | .number digits => Numeric digits

/-- Expressions are well bracketed. -/
def Column.IsSafe : Column → Prop
  | .name _ | .renamed _ _ => True
  | .computed expression _ => WellBracketed false expression

mutual

/-- All texts that a fragment contains as they are, at every depth, are well bracketed. -/
def Fragment.IsSafe : Fragment → Prop
  | .table _ => True
  | .derived columns source _ => (∀ c ∈ columns, c.IsSafe) ∧ source.IsSafe
  | .join left right => left.IsSafe ∧ right.IsSafe
  | .filter source condition => source.IsSafe ∧ condition.IsSafe
  | .group source _ => source.IsSafe
termination_by structural f => f

/-- All texts that a condition contains as they are, at every depth, are well bracketed. -/
def Cond.IsSafe : Cond → Prop
  | .raw text => WellBracketed false text
  | .constant _ | .isNull _ => True
  | .equal _ literal => literal.IsSafe
  | .conj cs | .disj cs => AreSafe cs
  | .paren c | .not c => c.IsSafe
  | .within _ _ source => source.IsSafe
termination_by structural c => c

/-- Several conditions are safe. -/
def AreSafe : List Cond → Prop
  | [] => True
  | c :: cs => c.IsSafe ∧ AreSafe cs
termination_by structural cs => cs

end

theorem areSafe_iff {cs : List Cond} : AreSafe cs ↔ ∀ c ∈ cs, c.IsSafe := by
  induction cs with
  | nil => simp [AreSafe]
  | cons c cs ih => simp [AreSafe, ih]

/-- Conditions without texts and alternatives outside of brackets. -/
inductive IsTight : Cond → Prop
  | constant (b : Bool) : IsTight (.constant b)
  | isNull (field : String) : IsTight (.isNull field)
  | equal (field : String) (literal : Literal) : IsTight (.equal field literal)
  | conj {cs : List Cond} (all : ∀ c ∈ cs, IsTight c) : IsTight (.conj cs)
  | paren (c : Cond) : IsTight (.paren c)
  | not (c : Cond) : IsTight (.not c)
  | within (columns : List String) (negated : Bool) (source : Fragment) :
    IsTight (.within columns negated source)

/-! ### Safe texts -/

section Render

variable {strict : Bool}

theorem wellBracketed_quote (s : String) : WellBracketed strict (quote s) :=
  wellBracketed_of_scan_nil (scan_quote s)

theorem wellBracketed_nameList (names : List String) : WellBracketed strict (nameList names) := by
  refine wellBracketed_joinWith (Separates.weaken (by decide)) fun s hs => ?_
  obtain ⟨name, -, rfl⟩ := List.mem_map.mp hs
  exact wellBracketed_quote name

theorem wellBracketed_literal {l : Literal} (safe : l.IsSafe) : WellBracketed strict l.render := by
  cases l with
  | text s => exact wellBracketed_of_scan_nil (scan_text s)
  | number digits => exact wellBracketed_numeral safe

theorem wellBracketed_constant (b : Bool) : WellBracketed strict (Cond.constant b).render := by
  refine WellBracketed.weaken ?_
  cases b <;> decide

theorem wellBracketed_isNull (field : String) : WellBracketed strict (Cond.isNull field).render :=
  (wellBracketed_quote field).append (WellBracketed.weaken (by decide)) (.inl (by decide))

theorem wellBracketed_equal (field : String) {l : Literal} (safe : l.IsSafe) :
    WellBracketed strict (Cond.equal field l).render :=
  (wellBracketed_quote field).between (Separates.weaken (by decide)) (wellBracketed_literal safe)

theorem wellBracketed_not {s : String} (h : WellBracketed false s) :
    WellBracketed strict ("NOT (" ++ s ++ ")") := by
  have split : "NOT (" ++ s ++ ")" = "NOT " ++ ("(" ++ s ++ ")") := by
    rw [show "NOT (" = "NOT " ++ "(" from rfl]
    simp only [String.append_assoc]
  rw [split]
  exact WellBracketed.append (WellBracketed.weaken (by decide)) (wellBracketed_paren h)
    (.inr (by decide))

/-- A query in brackets. -/
theorem wellBracketed_select {columns source : String} (hc : WellBracketed false columns)
    (hs : WellBracketed false source) :
    WellBracketed strict ("(" ++ ("SELECT " ++ columns ++ " FROM " ++ source) ++ ")") := by
  refine wellBracketed_paren (WellBracketed.between ?_ (Separates.weaken (by decide)) hs)
  exact WellBracketed.append (by decide) hc (.inr (by decide))

theorem wellBracketed_within (columns : List String) (negated : Bool) {source : Fragment}
    (h : WellBracketed false source.render) :
    WellBracketed strict (Cond.within columns negated source).render := by
  have split : (Cond.within columns negated source).render =
      "(" ++ ("(" ++ nameList columns ++ ")" ++ (if negated then " NOT IN " else " IN ") ++
        ("(" ++ ("SELECT " ++ nameList columns ++ " FROM " ++ source.render) ++ ")")) ++ ")" := by
    apply String.toList_injective
    cases negated <;> simp [Cond.render]
  have separates : Separates false (if negated then " NOT IN " else " IN ") := by
    cases negated <;> decide
  rw [split]
  exact wellBracketed_paren (WellBracketed.between (wellBracketed_paren (wellBracketed_nameList _))
    separates (wellBracketed_select (wellBracketed_nameList _) h))

theorem wellBracketed_column {c : Column} (safe : c.IsSafe) : WellBracketed false c.render := by
  cases c with
  | name source => exact wellBracketed_quote source
  | renamed source aliasName =>
    exact (wellBracketed_quote source).between (Separates.weaken (by decide))
      (wellBracketed_quote aliasName)
  | computed expression aliasName =>
    exact WellBracketed.between safe (Separates.weaken (by decide)) (wellBracketed_quote aliasName)

theorem wellBracketed_selectList {columns : List Column} (safe : ∀ c ∈ columns, c.IsSafe) :
    WellBracketed false (selectList columns) := by
  refine wellBracketed_joinWith (Separates.weaken (by decide)) fun s hs => ?_
  obtain ⟨c, hc, rfl⟩ := List.mem_map.mp hs
  exact wellBracketed_column (safe c hc)

theorem wellBracketed_derived {columns : List Column} (safe : ∀ c ∈ columns, c.IsSafe)
    {source : Fragment} (h : WellBracketed false source.render) (aliasName : String) :
    WellBracketed false (Fragment.derived columns source aliasName).render := by
  have split : (Fragment.derived columns source aliasName).render =
      "(" ++ ("SELECT " ++ selectList columns ++ " FROM " ++ source.render) ++ ")" ++ " AS " ++
        quote aliasName := by
    apply String.toList_injective
    simp [Fragment.render]
  rw [split]
  exact (wellBracketed_select (wellBracketed_selectList safe) h).between (by decide)
    (wellBracketed_quote aliasName)

theorem wellBracketed_table (t : TableRef) : WellBracketed strict t.sql := by
  unfold TableRef.sql
  split
  · exact wellBracketed_quote t.name
  · exact (wellBracketed_quote t.schema).between (Separates.weaken (by decide))
      (wellBracketed_quote t.name)

mutual

theorem Fragment.wellBracketed_render (f : Fragment) (safe : f.IsSafe) :
    WellBracketed false f.render :=
  match f with
  | .table t => wellBracketed_table t
  | .derived columns source aliasName =>
    wellBracketed_derived safe.1 (source.wellBracketed_render safe.2) aliasName
  | .join left right =>
    (left.wellBracketed_render safe.1).between (Separates.weaken (by decide))
      (right.wellBracketed_render safe.2)
  | .filter source condition =>
    (source.wellBracketed_render safe.1).between (Separates.weaken (by decide))
      (condition.wellBracketed_render safe.2)
  | .group source columns =>
    (source.wellBracketed_render safe).between (Separates.weaken (by decide))
      (wellBracketed_nameList columns)
termination_by structural f

theorem Cond.wellBracketed_render (c : Cond) (safe : c.IsSafe) : WellBracketed false c.render :=
  match c with
  | .raw _ => safe
  | .constant b => wellBracketed_constant b
  | .isNull field => wellBracketed_isNull field
  | .equal field literal => wellBracketed_equal field safe
  | .conj cs =>
    wellBracketed_joinWith (Separates.weaken (by decide)) (wellBracketed_renderAll cs safe)
  | .disj cs => by
    refine wellBracketed_joinWith (by decide) fun s hs => ?_
    obtain ⟨t, ht, rfl⟩ := List.mem_map.mp hs
    exact wellBracketed_paren (wellBracketed_renderAll cs safe t ht)
  | .paren c => wellBracketed_paren (c.wellBracketed_render safe)
  | .not c => wellBracketed_not (c.wellBracketed_render safe)
  | .within columns negated source =>
    wellBracketed_within columns negated (source.wellBracketed_render safe)
termination_by structural c

theorem wellBracketed_renderAll (cs : List Cond) (safe : AreSafe cs) :
    ∀ s ∈ renderAll cs, WellBracketed false s :=
  match cs with
  | [] => List.forall_mem_nil _
  | c :: cs => List.forall_mem_cons.mpr
    ⟨c.wellBracketed_render safe.1, wellBracketed_renderAll cs safe.2⟩
termination_by structural cs

end

/-- No alternatives stand outside of brackets. -/
theorem IsTight.wellBracketed_render {c : Cond} (h : IsTight c) (safe : c.IsSafe) :
    WellBracketed true c.render := by
  induction h with
  | constant b => exact wellBracketed_constant b
  | isNull field => exact wellBracketed_isNull field
  | equal field literal => exact wellBracketed_equal field safe
  | @conj cs _ ih =>
    rw [Cond.render, renderAll_eq_map]
    refine wellBracketed_joinWith (by decide) fun s hs => ?_
    obtain ⟨c, hc, rfl⟩ := List.mem_map.mp hs
    exact ih c hc (areSafe_iff.mp safe c hc)
  | paren c => exact wellBracketed_paren (c.wellBracketed_render safe)
  | not c => exact wellBracketed_not (c.wellBracketed_render safe)
  | within columns negated source =>
    exact wellBracketed_within columns negated (source.wellBracketed_render safe)

end Render

end Sql

open Sql

/-! ### Texts in expressions -/

/-- The expression of a specification that computes. -/
def Spec.expression? (text : String) : Option String :=
  match Spec.parse text with
  | .ok (.compute expression _) => some expression
  | _ => none

mutual

/-- The texts that go into the statement of an expression as they are: conditions in SQL, and
expressions to compute, which are in specifications and in the headers of tables. -/
def Expr.rawTexts : Expr → List String
  | .table _ h rs => h.stripAliases.attributes.filterMap Attribute.expression ++ rawTextsAll rs
  | .project e specs rs => e.rawTexts ++ specs.filterMap Spec.expression? ++ rawTextsAll rs
  | .aggregate e g specs rs =>
    e.rawTexts ++ g.rawTexts ++ specs.filterMap Spec.expression? ++ rawTextsAll rs
  | .join l r rs => l.rawTexts ++ r.rawTexts ++ rawTextsAll rs
  | .union rs => rawTextsAll rs
  | .negation e => e.rawTexts
termination_by structural e => e

/-- The texts that go into the condition of a restriction as they are. -/
def Restriction.rawTexts : Restriction → List String
  | .sql text => [text]
  | .tuples _ | .marker _ => []
  | .semijoin e => e.rawTexts
  | .union rs => rawTextsAll rs
  | .complement r => r.rawTexts
termination_by structural r => r

/-- The texts that go into the conditions of several restrictions as they are. -/
def rawTextsAll : List Restriction → List String
  | [] => []
  | r :: rs => r.rawTexts ++ rawTextsAll rs
termination_by structural rs => rs

end

/-- Several texts are well bracketed, each on its own. -/
def AreBalanced (texts : List String) : Prop := ∀ s ∈ texts, WellBracketed false s

/-- The texts of an operator without its restrictions. -/
def Expr.ownTexts : Expr → List String
  | .table _ h _ => h.stripAliases.attributes.filterMap Attribute.expression
  | .project e specs _ => e.rawTexts ++ specs.filterMap Spec.expression?
  | .aggregate e g specs _ => e.rawTexts ++ g.rawTexts ++ specs.filterMap Spec.expression?
  | .join l r _ => l.rawTexts ++ r.rawTexts
  | .union rs => rawTextsAll rs
  | .negation e => e.rawTexts

theorem rawTexts_eq (e : Expr) : e.rawTexts = e.ownTexts ++ rawTextsAll e.restrictions := by
  cases e <;> simp [Expr.rawTexts, Expr.ownTexts, Expr.restrictions, rawTextsAll]

theorem areBalanced_append {ss ts : List String} :
    AreBalanced (ss ++ ts) ↔ AreBalanced ss ∧ AreBalanced ts :=
  List.forall_mem_append

/-! ### Headers -/

namespace Header

/-- The expressions of a header are well bracketed. -/
def IsSafe (h : Header) : Prop :=
  ∀ a ∈ h.attributes, ∀ x, a.expression = some x → WellBracketed false x

variable {h k m : Header}

theorem IsSafe.stripAliases (safe : h.IsSafe) : h.stripAliases.IsSafe := by
  intro a ha x hx
  obtain ⟨b, hb, rfl⟩ := List.mem_map.mp ha
  unfold Attribute.resolve at hx
  split at hx
  · exact safe b hb x hx
  · cases hx

theorem IsSafe.project (safe : h.IsSafe) {specs : List String}
    (balanced : AreBalanced (specs.filterMap Spec.expression?)) (hk : h.project specs = .ok k) :
    k.IsSafe := by
  intro a ha x hx
  obtain ⟨b, hb, same⟩ | ⟨text, ht, expression, target, parsed, -, rfl⟩ := project_cases hk ha
  · obtain rfl | ⟨target, -, rfl⟩ := same
    · exact safe a hb x hx
    · exact safe b hb x hx
  · cases hx
    exact balanced x (List.mem_filterMap.mpr ⟨text, ht, by simp [Spec.expression?, parsed]⟩)

theorem IsSafe.join (left : h.IsSafe) (right : k.IsSafe) (hm : h.join k = .ok m) : m.IsSafe := by
  intro a ha x hx
  obtain ⟨b, hb, rfl⟩ | ⟨ha, -⟩ := (mem_attributes_join_iff hm).mp ha
  · exact left b hb x (by simpa using hx)
  · exact right a ha x hx

end Header

/-! ### Compilation -/

/-- The texts in a compiled relation are well bracketed. -/
structure Compiled.IsSafe (c : Compiled) : Prop where
  header : c.header.IsSafe
  source : c.source.IsSafe

/-- A condition with well bracketed texts, all of them in brackets. -/
structure Sql.Cond.IsSealed (c : Cond) : Prop where
  safe : c.IsSafe
  tight : IsTight c

namespace Compiled

variable {c d : Compiled}

theorem IsSafe.columns (safe : c.IsSafe) : ∀ i ∈ c.columns, i.IsSafe := by
  intro i hi
  obtain ⟨a, ha, rfl⟩ := List.mem_map.mp hi
  unfold Column.ofAttribute
  split
  · exact safe.header a ha _ ‹_›
  · split <;> trivial

theorem IsSafe.enclosed (safe : c.IsSafe) {needed : Bool} {kind : AliasKind} {ctx ctx' : Context}
    (enclosed : Enclosed needed kind ctx c d ctx') : d.IsSafe := by
  cases enclosed with
  | kept _ => exact safe
  | wrapped _ => exact ⟨safe.header.stripAliases, safe.columns, safe.source⟩

theorem IsSafe.filter (safe : c.IsSafe) {cs : List Cond} (sealed : ∀ w ∈ cs, w.IsSealed) :
    (c.filter (conjunction cs)).IsSafe := by
  cases cs with
  | nil => exact safe
  | cons w cs => exact ⟨safe.header, safe.source, areSafe_iff.mpr fun v hv => (sealed v hv).safe⟩

end Compiled

section Conditions

variable {h : Header} {negated : Bool}

theorem isSealed_bracket {c : Cond} (safe : c.IsSafe) : (bracket negated c).IsSealed := by
  cases negated with
  | false => exact ⟨safe, .paren c⟩
  | true => exact ⟨safe, .not c⟩

theorem isSealed_constant (b : Bool) : (Cond.constant b).IsSealed := ⟨trivial, .constant b⟩

theorem isSealed_emptyRestrictor {common : Bool} {c : Cond}
    (hc : c ∈ emptyRestrictor negated common) : c.IsSealed := by
  unfold emptyRestrictor at hc
  split at hc
  · cases hc
  · cases hc
    exact isSealed_constant false

theorem isSafe_of_literal {a : Attribute} {v : Value} {l : Literal} (present : v ≠ .null)
    (hl : v.literal a = .ok l) : l.IsSafe := by
  obtain ⟨s, rfl, -⟩ | ⟨digits, rfl, numeral, -⟩ := content?_of_literal present hl
  · trivial
  · exact numeral.numeric

theorem isSealed_of_encodeRecord {r : Record} {c : Cond} (he : encodeRecord h r = .ok c) :
    c.IsSealed := by
  obtain ⟨-, rfl⟩ | ⟨cs, -, pairs, rfl⟩ := encodeRecord_cases he
  · exact isSealed_constant true
  · have sealed : ∀ d ∈ cs, d.IsSealed := by
      intro d hd
      obtain ⟨⟨k, v⟩, -, hkv⟩ := exists_of_mem_right pairs hd
      obtain ⟨field, a, -, -, ⟨-, -, rfl⟩ | ⟨present, l, hl, rfl⟩⟩ := encodeEntry_cases hkv
      · exact ⟨trivial, .isNull field⟩
      · exact ⟨isSafe_of_literal present hl, .equal field l⟩
    exact ⟨areSafe_iff.mpr fun d hd => (sealed d hd).safe, .conj fun d hd => (sealed d hd).tight⟩

/-- One record needs no brackets, since it has no alternatives; several get them. -/
theorem isSealed_of_tuples {t : TupleSet} {w : Option Cond} {ctx ctx' : Context}
    (hr : (t.condition h negated).Returns ctx w ctx') : ∀ c ∈ w, c.IsSealed := by
  obtain ⟨-, ⟨-, rfl⟩ | ⟨-, -, rfl⟩ | ⟨-, -, c, hc, rfl⟩⟩ := TupleSet.condition_cases hr
  · exact fun c hc => isSealed_emptyRestrictor hc
  · exact fun c hc => isSealed_emptyRestrictor hc
  · obtain ⟨cs, pairs, shape⟩ := encodeRecords_cases hc
    have sealed : ∀ d ∈ cs, d.IsSealed := by
      intro d hd
      obtain ⟨r, -, hr⟩ := exists_of_mem_right pairs hd
      exact isSealed_of_encodeRecord hr
    rintro d ⟨⟩
    obtain ⟨one, rfl⟩ | ⟨several, rfl⟩ := shape
    · -- A single record may stand without brackets: it is a conjunction of comparisons.
      split
      · exact isSealed_bracket (sealed c (by simp)).safe
      · exact sealed c (by simp)
    · rw [if_pos (by simp [several])]
      exact isSealed_bracket (areSafe_iff.mpr fun d hd => (sealed d hd).safe)

theorem isSealed_of_match {c : Compiled} (safe : c.IsSafe) {w : Cond}
    (hw : w ∈ c.condition h negated) : w.IsSealed := by
  unfold Compiled.condition at hw
  split at hw
  · exact isSealed_emptyRestrictor hw
  · cases hw
    exact ⟨safe.source, .within _ _ _⟩

end Conditions

/-- The texts that an outcome takes over. -/
def Outcome.rawTexts : Outcome → List String
  | .opened e _ => e.ownTexts
  | .restricted e _ | .compiled _ e _ => e.rawTexts
  | .condition _ _ r _ => r.rawTexts
  | .operands _ rs _ | .conditions _ _ rs _ => rawTextsAll rs

/-- The texts in an outcome are well bracketed, and in conditions they are in brackets. -/
def Outcome.IsSafe : Outcome → Prop
  | .opened _ c | .restricted _ c | .compiled _ _ c => c.IsSafe
  | .condition _ _ _ w => ∀ c ∈ w, c.IsSealed
  | .operands _ _ cs | .conditions _ _ _ cs => ∀ c ∈ cs, c.IsSealed

/-- Compilation adds no texts and keeps them in brackets. -/
theorem Derives.isSafe {ctx ctx' : Context} {o : Outcome} (derived : Derives ctx o ctx')
    (balanced : AreBalanced o.rawTexts) : o.IsSafe := by
  induction derived with
  | table t h rs =>
    exact ⟨fun a ha x hx => balanced x (List.mem_filterMap.mpr ⟨a, ha, hx⟩), trivial⟩
  | project rs _ header ih =>
    obtain ⟨input, specs⟩ := areBalanced_append.mp balanced
    exact ⟨(ih input).header.project specs header, (ih input).source⟩
  | aggregate rs _ _ aggregated ihc ihd =>
    obtain ⟨inputs, specs⟩ := areBalanced_append.mp balanced
    obtain ⟨input, grouping⟩ := areBalanced_append.mp inputs
    obtain ⟨header, -, source⟩ := aggregate_cases aggregated
    refine ⟨(ihc input).header.project specs header, ?_⟩
    rw [source]
    exact ⟨(ihc input).source, (ihd grouping).source⟩
  | join rs _ _ joined ihc ihd =>
    obtain ⟨left, right⟩ := areBalanced_append.mp balanced
    obtain ⟨header, source⟩ := join_cases joined
    refine ⟨(ihc left).header.join (ihd right).header header, ?_⟩
    rw [source]
    exact ⟨(ihc left).source, (ihd right).source⟩
  | @unrestricted _ _ e _ _ _ ih =>
    rw [Outcome.rawTexts, rawTexts_eq] at balanced
    exact ih (areBalanced_append.mp balanced).1
  | @restricted _ _ _ _ e _ _ _ _ _ ready _ ih ihcs =>
    rw [Outcome.rawTexts, rawTexts_eq] at balanced
    -- The texts of an expression are those of its operator and those of its restrictions.
    obtain ⟨own, clauses⟩ := areBalanced_append.mp balanced
    exact ((ih own).enclosed ready).filter (ihcs clauses)
  | compiled _ finished ih => exact (ih balanced).enclosed finished
  | sql h negated text =>
    rintro c ⟨⟩
    exact isSealed_bracket (balanced text (by simp [Outcome.rawTexts, Restriction.rawTexts]))
  | tuples condition => exact isSealed_of_tuples condition
  | semijoin h negated _ ready ih =>
    exact fun w hw => isSealed_of_match ((ih balanced).enclosed ready) hw
  | union negated _ ih =>
    rintro c ⟨⟩
    exact isSealed_bracket (areSafe_iff.mpr fun d hd => (ih balanced d hd).safe)
  | @complement _ _ _ negated r c _ ih =>
    have operand : AreBalanced (rawTextsAll [r]) := by
      rw [rawTextsAll, rawTextsAll, List.append_nil]
      exact balanced
    rintro d ⟨⟩
    exact isSealed_bracket (ih operand c (by simp)).safe
  | noOperands h => exact List.forall_mem_nil _
  | loneMarker _ ih =>
    exact List.forall_mem_cons.mpr ⟨isSealed_constant true, ih balanced⟩
  | @operand _ _ _ _ _ _ w _ _ _ ihw ihcs =>
    obtain ⟨first, rest⟩ := areBalanced_append.mp balanced
    refine List.forall_mem_cons.mpr ⟨?_, ihcs rest⟩
    cases w with
    | none => exact isSealed_constant true
    | some d => exact ihw first d rfl
  | noConditions h negated => exact List.forall_mem_nil _
  | marker negated _ ih => exact ih balanced
  | clause _ _ ihw ihcs =>
    obtain ⟨first, rest⟩ := areBalanced_append.mp balanced
    refine List.forall_mem_append.mpr ⟨fun c hc => ?_, ihcs rest⟩
    exact ihw first c (Option.mem_toList.mp hc)

theorem wellBracketed_conjunction {cs : List Cond} (sealed : ∀ c ∈ cs, c.IsSealed) :
    WellBracketed true (renderClause (conjunction cs)) := by
  cases cs with
  | nil => decide
  | cons c cs =>
    have tight : IsTight (.conj (c :: cs)) := .conj fun d hd => (sealed d hd).tight
    exact tight.wellBracketed_render (areSafe_iff.mpr fun d hd => (sealed d hd).safe)

/-- **The brackets of a clause match, and its alternatives are in brackets.** This needs nothing but
that each text in SQL is well bracketed on its own. So the clause can stand after `WHERE` and before
or after another clause: what is found in a text around it stays as it is, and so does the depth of
brackets. -/
theorem whereClause_bracketed {h : Header} {rs : List Restriction} {w : Option Cond}
    {ctx ctx' : Context} (accepted : (whereClause h rs).Returns ctx w ctx')
    (balanced : AreBalanced (rawTextsAll rs)) :
    ∃ signs, scan (renderClause w) = some signs ∧ (∀ d, depthAfter d signs = some d) ∧
      (∀ word ∈ outerWords 0 signs, isOr word = false) ∧
      (∀ before ss, scan before = some ss → scan (before ++ " WHERE " ++ renderClause w) =
        some (ss ++ .word "WHERE".toList :: signs)) ∧
      (∀ other ts, scan other = some ts → scan (renderClause w ++ " AND " ++ other) =
        some (signs ++ .word "AND".toList :: ts)) ∧
      ∀ other, WellBracketed true other →
        WellBracketed true (renderClause w ++ " AND " ++ other) ∧
          WellBracketed true (other ++ " AND " ++ renderClause w) := by
  obtain ⟨cs, hcs, rfl⟩ := conditions_of_returns_clauseOf accepted
  have bracketed := wellBracketed_conjunction ((derives_conditions_of_returns hcs).isSafe balanced)
  have separates : Separates true " WHERE " ∧ Separates true " AND " := by decide
  have joins (other : String) (found : WellBracketed true other) :=
    And.intro (bracketed.between separates.2 found) (found.between separates.2 bracketed)
  obtain ⟨signs, scanned, depth, quiet⟩ := bracketed
  refine ⟨signs, scanned, fun d => ?_, quiet rfl, fun before ss found => ?_,
    fun other ts found => ?_, joins⟩
  · have deeper := depthAfter_add depth d
    rwa [Nat.zero_add] at deeper
  · rw [separates.1.scan_between found rfl scanned]
    exact congrArg some (List.append_assoc ..)
  · rw [separates.2.scan_between scanned rfl found]
    exact congrArg some (List.append_assoc ..)

namespace Sample

/-- Restrictions with alternatives and brackets in names, in values, and in texts. -/
def alternatives : List Restriction :=
  [.tuples (.ofRecords hostileRecords), .not, .sql "1 or '(' = '\\'' or (2)",
    .union [.sql "x OR y",
      .semijoin (.project (.table ⟨"t) or (", "lab", by decide⟩ hostile [.sql "p or q"])
        ["(1 or 2)->z", "*"] [])]]

theorem whereClause_bracketed_alternatives :
    AreBalanced (rawTextsAll alternatives) ∧
    ∃ w ctx signs, (whereClause hostile alternatives).Returns {} w ctx ∧
      scan (renderClause w) = some signs ∧ depthAfter 0 signs = some 0 ∧
      (∀ word ∈ outerWords 0 signs, isOr word = false) ∧ isOr "or".toList = true := by
  have balanced : AreBalanced (rawTextsAll alternatives) := by
    show ∀ s ∈ rawTextsAll alternatives, WellBracketed false s
    decide +kernel
  have accepted : (whereClause hostile alternatives).Returns {} _ _ := rfl
  obtain ⟨signs, scanned, depth, quiet, -⟩ := whereClause_bracketed accepted balanced
  exact ⟨balanced, _, _, signs, accepted, scanned, depth 0, quiet, by decide⟩

end Sample

end Relational

import Relational.Proofs.Conditions
import Relational.Proofs.Contexts
import Relational.Proofs.Reading

/-!
# The meaning of clauses

Restrictions have a meaning that says nothing about brackets, about words that are left out, or
about where a negation is written: SQL text is a comparison of its own, a tuple set is a disjunction
of conjunctions, a match in another relation is the comparison with its subquery, unions are
disjunctions and complements negations. All of these have truth values under an assignment.
Relations are compiled where they stand, since the aliases in a subquery depend on what was compiled
before.

`readClause_whereClause` says that reading the text of a clause gives the conjunction of these
meanings.
-/

namespace Relational

open Sql

/-! ### Meanings -/

/-- The comparison of a field with a value; a missing value is looked for by `IS NULL`. -/
def Value.comparison (a : Attribute) (n : String) : Value → Except Error Atom
  | .null => .ok (.isNull n)
  | v => (v.literal a).map (.equal n)

/-- The comparison of the field of a name with a value. -/
def Header.comparison (h : Header) (n : String) (v : Value) : Except Error Atom := do
  v.comparison (← h.get n) n

/-- The values of a record under those of the given names that it has. -/
def Record.under (record : Record) (names : List String) : List (String × Value) :=
  names.filterMap fun n => (record.get? (.name n)).map (n, ·)

section Meaning

variable (σ : Assignment) (h : Header)

/-- Whether all fields under the given names have the values of a record. -/
def Record.meaning (names : List String) (record : Record) : Except Error Truth := do
  let atoms ← (record.under names).mapM fun e => h.comparison e.1 e.2
  return Truth.all (atoms.map σ)

/-- Whether one of the records of a tuple set matches. Without common fields everything matches. -/
def TupleSet.meaning (t : TupleSet) : Except Error Truth :=
  match t.commonFields h with
  | [] => return some true
  | names => do return Truth.any (← t.records.mapM fun r => r.meaning σ h names)

/-- Whether the common columns that are no blobs are among those of a relation. Without such columns
everything matches. -/
def Compiled.meaning (c : Compiled) : Truth :=
  match h.nonBlobs.filter (· ∈ c.header.nonBlobs) with
  | [] => some true
  | columns => σ (.within columns c.source)

mutual

/-- The truth value of a restriction on a relation with the given header. A marker that stands alone
always holds. -/
def Restriction.meaning : Restriction → Compiler Truth
  | .sql text => return σ (.raw text)
  | .tuples t => t.meaning σ h
  | .semijoin e => do return (← e.compile .derived).meaning σ h
  | .marker true => return some true
  | .marker false => throw .strayMarker
  | .union operands => do return Truth.any (← operandMeanings operands)
  | .complement r => do return (← r.meaning).not
termination_by structural r => r

/-- The truth values of the operands of a union. -/
def operandMeanings : List Restriction → Compiler (List Truth)
  | [] => return []
  | r :: rs => do return (← r.meaning) :: (← operandMeanings rs)
termination_by structural rs => rs

end

end Meaning

mutual

/-- Every union has operands; `Expr.unionOf` even asks for two of them. Relations that are matched
are compiled on their own, and nothing is asked of them. -/
def Restriction.IsFormed : Restriction → Prop
  | .union rs => rs ≠ [] ∧ AreFormed rs
  | .complement r => r.IsFormed
  | .sql _ | .tuples _ | .semijoin _ | .marker _ => True
termination_by structural r => r

/-- All restrictions of a list are well formed. -/
def AreFormed : List Restriction → Prop
  | [] => True
  | r :: rs => r.IsFormed ∧ AreFormed rs
termination_by structural rs => rs

end

/-- The restrictions of a list that are no markers, each with whether a marker stands right before
it. Before the first one there is a marker if `marked` says so. -/
def signed (marked : Bool) (rs : List Restriction) : List (Bool × Restriction) :=
  ((marked :: rs.map Restriction.isMarker).zip rs).filter (!·.2.isMarker)

/-- The truth values of restrictions that hold together: those right after a marker are negated. -/
def clauseMeanings (σ : Assignment) (h : Header) (marked : Bool) (rs : List Restriction) :
    Compiler (List Truth) :=
  (signed marked rs).mapM fun p => do return (← p.2.meaning σ h).negateIf p.1

@[simp] theorem signed_marker (marked : Bool) (rs : List Restriction) :
    signed marked (.marker true :: rs) = signed true rs := rfl

theorem isMarker_eq_false_iff {r : Restriction} : r.isMarker = false ↔ r ≠ .marker true := by
  unfold Restriction.isMarker
  split <;> simp_all

theorem signed_cons {r : Restriction} (hr : r ≠ .marker true) (marked : Bool)
    (rs : List Restriction) : signed marked (r :: rs) = (marked, r) :: signed false rs := by
  have plain := isMarker_eq_false_iff.mpr hr
  simp [signed, plain]

/-! ### Conditions that say what is meant -/

/-- A condition has the given truth value, and it can be read if what it comes from is well
formed. -/
structure Sql.Cond.Means (σ : Assignment) (formed : Prop) (c : Cond) (t : Truth) : Prop where
  value : c.value σ = t
  readable : formed → IsReadable c

variable {σ : Assignment} {h : Header} {p q : Prop} {c : Cond} {t : Truth} {cs : List Cond}
  {ts : List Truth}

theorem Sql.Cond.Means.mono (hc : c.Means σ p t) (hpq : q → p) : c.Means σ q t :=
  ⟨hc.value, fun hq => hc.readable (hpq hq)⟩

@[simp] theorem value_bracket (σ : Assignment) (negated : Bool) (c : Cond) :
    (bracket negated c).value σ = (c.value σ).negateIf negated := by
  cases negated <;> rfl

theorem means_bracket (negated : Bool) (hc : c.Means σ p t) :
    (bracket negated c).Means σ p (t.negateIf negated) := by
  constructor
  · rw [value_bracket, hc.value]
  · intro hp
    cases negated with
    | false => exact .paren (hc.readable hp)
    | true => exact .not (hc.readable hp)

theorem means_constant (b : Bool) : (Cond.constant b).Means σ p (some b) :=
  ⟨rfl, fun _ => .constant b⟩

theorem means_emptyRestrictor (negated common : Bool) :
    ((emptyRestrictor negated common).getD (.constant true)).Means σ p
      (Truth.negateIf negated (some !common)) := by
  cases negated <;> cases common <;> exact means_constant _

theorem map_value_of_means (hcs : List.Forall₂ (Cond.Means σ p) cs ts) :
    cs.map (Cond.value σ) = ts := by
  induction hcs with
  | nil => rfl
  | cons hc _ ih => rw [List.map_cons, hc.value, ih]

theorem readable_of_means (hcs : List.Forall₂ (Cond.Means σ p) cs ts) (hp : p) :
    ∀ c ∈ cs, IsReadable c := by
  induction hcs with
  | nil => simp
  | cons hc _ ih => exact List.forall_mem_cons.mpr ⟨hc.readable hp, ih⟩

theorem means_disj (some : p → cs ≠ []) (hcs : List.Forall₂ (Cond.Means σ p) cs ts) :
    (Cond.disj cs).Means σ p (Truth.any ts) := by
  refine ⟨?_, fun hp => .disj (some hp) (readable_of_means hcs hp)⟩
  rw [Cond.value, values_eq_map, map_value_of_means hcs]

theorem means_conj (some : cs ≠ []) (tight : ∀ c ∈ cs, c.isLoose = false)
    (hcs : List.Forall₂ (Cond.Means σ p) cs ts) : (Cond.conj cs).Means σ p (Truth.all ts) := by
  refine ⟨?_, fun hp => .conj some tight (readable_of_means hcs hp)⟩
  rw [Cond.value, values_eq_map, map_value_of_means hcs]

/-! ### Tuple sets -/

/-- The comparison of an entry says what is meant. -/
theorem means_of_encodeEntry (σ : Assignment) {n : String} {v : Value}
    (he : encodeEntry h (.name n, v) = .ok c) :
    ∃ a, h.comparison n v = .ok a ∧ c.isLoose = false ∧ c.Means σ p (σ a) := by
  obtain ⟨field, a, hk, hf, hc⟩ := encodeEntry_cases he
  cases hk
  have found : h.get n = .ok a := by rw [Header.get, hf]
  obtain ⟨rfl, -, rfl⟩ | ⟨present, l, hl, rfl⟩ := hc
  · exact ⟨.isNull n, by rw [Header.comparison, found]; rfl, rfl, rfl, fun _ => .isNull n⟩
  · refine ⟨.equal n l, ?_, rfl, rfl, fun _ => .equal n l⟩
    rw [Header.comparison, found]
    show v.comparison a n = _
    unfold Value.comparison
    split
    · exact absurd rfl present
    · rw [hl]
      rfl

/-- The comparisons of a record say what is meant. -/
theorem means_of_encodeRecord (σ : Assignment) {record : Record} {names : List String}
    (hn : names.Nodup) (he : encodeRecord h (record.project (names.map Label.name)) = .ok c) :
    ∃ t, record.meaning σ h names = .ok t ∧ c.isLoose = false ∧ c.Means σ p t := by
  have entries : (record.project (names.map Label.name)).entries =
      (record.under names).map fun e => (Label.name e.1, e.2) := by
    rw [entries_project record hn, Record.under, List.map_filterMap]
    congr 1
    funext n
    cases record.get? (.name n) <;> rfl
  obtain ⟨empty, rfl⟩ | ⟨cs, some, hcs, rfl⟩ := encodeRecord_cases he
  · rw [entries, List.map_eq_nil_iff] at empty
    exact ⟨_, by rw [Record.meaning, empty]; rfl, rfl, means_constant true⟩
  · rw [entries, List.forall₂_map_left_iff] at hcs
    obtain ⟨atoms, found, meant⟩ := mapM_eq_pure_of_forall₂ hcs
      (P := fun d a => d.isLoose = false ∧ d.Means σ p (σ a))
      fun e d hd => means_of_encodeEntry σ hd
    have tight : ∀ d ∈ cs, d.isLoose = false := fun d hd => by
      obtain ⟨a, -, ha⟩ := exists_of_mem_right meant.flip hd
      exact ha.1
    have each : List.Forall₂ (Cond.Means σ p) cs (atoms.map σ) :=
      List.forall₂_map_right_iff.mpr (meant.imp fun _ _ h => h.2)
    exact ⟨_, by rw [Record.meaning, found]; rfl, rfl, means_conj some tight each⟩

/-- The alternatives of several records say what is meant. -/
theorem means_of_encodeRecords (σ : Assignment) {records : List Record} {names : List String}
    (hn : names.Nodup)
    (he : encodeRecords h (records.map (·.project (names.map Label.name))) = .ok c) :
    ∃ ts, records.mapM (fun r => r.meaning σ h names) = .ok ts ∧
      (records.length = 1 → c.isLoose = false) ∧ c.Means σ p (Truth.any ts) := by
  obtain ⟨cs, pairs, hc⟩ := encodeRecords_cases he
  rw [List.forall₂_map_left_iff] at pairs
  obtain ⟨ts, found, meant⟩ := mapM_eq_pure_of_forall₂ pairs
    (P := fun d t => d.isLoose = false ∧ d.Means σ p t) fun r d hd => means_of_encodeRecord σ hn hd
  refine ⟨ts, found, ?_⟩
  obtain ⟨-, rfl⟩ | ⟨several, rfl⟩ := hc
  · obtain ⟨t, us, hd, hds, rfl⟩ := List.forall₂_cons_left_iff.mp meant
    cases hds
    exact ⟨fun _ => hd.1, by simpa using hd.2⟩
  · rw [List.length_map] at several
    refine ⟨fun single => by omega, means_disj ?_ (meant.imp fun _ _ h => h.2)⟩
    rintro - rfl
    rw [List.forall₂_nil_right_iff.mp pairs] at several
    simp at several

/-- The condition of a tuple set says what is meant. -/
theorem means_of_tuples (σ : Assignment) {t : TupleSet} {negated : Bool} {w : Option Cond}
    {ctx ctx' : Context} (hr : (t.condition h negated).Returns ctx w ctx') :
    ∃ u, t.meaning σ h = .ok u ∧ (w.getD (.constant true)).isLoose = false ∧
      (w.getD (.constant true)).Means σ p (u.negateIf negated) := by
  obtain ⟨-, cases⟩ := TupleSet.condition_cases hr
  rw [t.fields_project, t.records_project] at cases
  unfold TupleSet.meaning
  -- The three cases of a tuple set: no common fields, no records, or records to be compared.
  obtain ⟨none, rfl⟩ | ⟨some, none, rfl⟩ | ⟨some, nonempty, c, hc, rfl⟩ := cases
  · rw [List.map_eq_nil_iff] at none
    rw [none]
    exact ⟨_, rfl, by cases negated <;> rfl, means_emptyRestrictor negated false⟩
  · rw [List.map_eq_nil_iff] at none
    rw [ne_eq, List.map_eq_nil_iff] at some
    obtain ⟨n, ns, e⟩ := List.exists_cons_of_ne_nil some
    rw [e, none]
    exact ⟨_, rfl, by cases negated <;> rfl, means_emptyRestrictor negated true⟩
  · obtain ⟨ts, found, tight, meant⟩ := means_of_encodeRecords σ (t.nodup_commonFields h) hc
    rw [ne_eq, List.map_eq_nil_iff] at some nonempty
    obtain ⟨n, ns, e⟩ := List.exists_cons_of_ne_nil some
    rw [e] at found ⊢
    refine ⟨_, by dsimp only; rw [found]; rfl, ?_⟩
    rw [Option.getD_some, List.length_map]
    split
    · exact ⟨isLoose_bracket negated c, means_bracket negated meant⟩
    · rename_i plain
      simp only [Bool.or_eq_true, decide_eq_true_eq, not_or, Bool.not_eq_true] at plain
      obtain ⟨short, rfl⟩ := plain
      have positive : 0 < t.records.length := List.length_pos_of_ne_nil nonempty
      exact ⟨tight (by omega), meant⟩

/-! ### Restrictions -/

/-- The condition of a match in a relation says what is meant. -/
theorem means_of_match (c : Compiled) (h : Header) (negated : Bool) :
    ((c.condition h negated).getD (.constant true)).isLoose = false ∧
      ((c.condition h negated).getD (.constant true)).Means σ p
        ((c.meaning σ h).negateIf negated) := by
  unfold Compiled.condition Compiled.meaning
  cases h.nonBlobs.filter (· ∈ c.header.nonBlobs) with
  | nil => exact ⟨by cases negated <;> rfl, means_emptyRestrictor negated false⟩
  | cons n ns =>
    refine ⟨rfl, ?_, fun _ => .within _ negated _⟩
    cases negated <;> rfl

/-- If conditions of a restriction say what is meant, so does the one that stands alone. -/
theorem means_of_alone {r : Restriction} {ctx ctx' : Context}
    (condition : ∀ {ctx ctx' : Context} {w : Option Cond},
      (r.condition h false).Returns ctx w ctx' → ∃ t, (r.meaning σ h).Reaches ctx t ctx' ∧
        (w.getD (.constant true)).isLoose = false ∧
        (w.getD (.constant true)).Means σ r.IsFormed (t.negateIf false))
    (hr : (r.alone (r.condition h false)).Returns ctx c ctx') :
    ∃ t, (r.meaning σ h).Reaches ctx t ctx' ∧ c.Means σ r.IsFormed t := by
  obtain ⟨hm, hr⟩ | ⟨-, hr⟩ := returns_ite.mp hr
  · obtain ⟨rfl, rfl⟩ := returns_pure.mp hr
    obtain rfl : r = .marker true := by
      by_contra other
      rw [isMarker_eq_false_iff.mpr other] at hm
      cases hm
    exact ⟨some true, reaches_pure ctx _, means_constant true⟩
  · obtain ⟨w, ctx₁, hw, hr⟩ := returns_bind.mp hr
    obtain ⟨rfl, rfl⟩ := returns_pure.mp hr
    obtain ⟨t, meaning, -, means⟩ := condition hw
    exact ⟨t, meaning, means⟩

mutual

/-- The condition of a restriction says what is meant; one that is left out always holds. -/
theorem means_of_condition {r : Restriction} {negated : Bool} {w : Option Cond}
    {ctx ctx' : Context} (hr : (r.condition h negated).Returns ctx w ctx') :
    ∃ t, (r.meaning σ h).Reaches ctx t ctx' ∧ (w.getD (.constant true)).isLoose = false ∧
      (w.getD (.constant true)).Means σ r.IsFormed (t.negateIf negated) :=
  match r with
  | .sql text => by
    obtain ⟨rfl, rfl⟩ := returns_pure.mp hr
    exact ⟨_, reaches_pure ctx _, isLoose_bracket negated _,
      means_bracket negated ⟨rfl, fun _ => .raw text⟩⟩
  | .tuples t => by
    obtain ⟨u, meaning, tight, means⟩ := means_of_tuples σ hr
    obtain ⟨⟨notices, rfl⟩, -⟩ := TupleSet.condition_cases hr
    exact ⟨u, reaches_lift ctx meaning, tight, means⟩
  | .semijoin e => by
    obtain ⟨c, ctx₁, hc, hr⟩ := returns_bind.mp hr
    obtain ⟨d, ctx₂, hd, hr⟩ := returns_bind.mp hr
    obtain ⟨rfl, rfl⟩ := returns_pure.mp hr
    -- A relation that is compiled to be matched has no aliases left, so it is not enclosed again.
    have resolved : c.header.hasAliases = false := (derives_of_returns hc).wellShaped.2
    rw [resolved, Bool.and_false] at hd
    obtain ⟨rfl, rfl⟩ := returns_pure.mp hd
    obtain ⟨tight, means⟩ := means_of_match c h negated
    have compiled := (steady_compile .derived e).reaches hc
    exact ⟨_, reaches_bind compiled (reaches_pure _ _), tight, means⟩
  | .marker _ => absurd hr not_returns_throw
  | .union rs => by
    obtain ⟨cs, ctx₁, hcs, hr⟩ := returns_bind.mp hr
    obtain ⟨rfl, rfl⟩ := returns_pure.mp hr
    obtain ⟨ts, meanings, same, means⟩ := means_of_operands hcs
    refine ⟨_, reaches_bind meanings (reaches_pure _ _), isLoose_bracket negated _,
      means_bracket negated (means_disj ?_ (means.imp fun _ _ hc => hc.mono And.right))⟩
    rintro ⟨some, -⟩ rfl
    exact some (List.length_eq_zero_iff.mp same.symm)
  | .complement r => by
    obtain ⟨c, ctx₁, hc, hr⟩ := returns_bind.mp hr
    obtain ⟨rfl, rfl⟩ := returns_pure.mp hr
    obtain ⟨t, meaning, means⟩ := means_of_alone (means_of_condition (r := r)) hc
    refine ⟨_, reaches_bind meaning (reaches_pure _ _), isLoose_bracket _ c, ?_⟩
    -- No `NOT` is written for a complement that is negated itself.
    rw [← Truth.negateIf_not]
    exact means_bracket (!negated) means
termination_by structural r

/-- The conditions of the operands of a union say what is meant. -/
theorem means_of_operands {rs : List Restriction} {cs : List Cond} {ctx ctx' : Context}
    (hr : (operandConditions h rs).Returns ctx cs ctx') :
    ∃ ts, (operandMeanings σ h rs).Reaches ctx ts ctx' ∧ cs.length = rs.length ∧
      List.Forall₂ (Cond.Means σ (AreFormed rs)) cs ts :=
  match rs with
  | [] => by
    obtain ⟨rfl, rfl⟩ := returns_pure.mp hr
    exact ⟨[], reaches_pure ctx _, rfl, .nil⟩
  | r :: rs => by
    obtain ⟨c, ctx₁, hc, hr⟩ := returns_bind.mp hr
    obtain ⟨ds, ctx₂, hds, hr⟩ := returns_bind.mp hr
    obtain ⟨rfl, rfl⟩ := returns_pure.mp hr
    obtain ⟨t, meaning, first⟩ := means_of_alone (means_of_condition (r := r)) hc
    obtain ⟨ts, meanings, same, rest⟩ := means_of_operands hds
    refine ⟨t :: ts, reaches_bind meaning (reaches_bind meanings (reaches_pure _ _)), ?_, ?_⟩
    · rw [List.length_cons, List.length_cons, same]
    · exact .cons (first.mono And.left) (rest.imp fun _ _ hc => hc.mono And.right)
termination_by structural rs

end

/-! ### Clauses -/

@[simp] theorem clauseMeanings_nil (marked : Bool) : clauseMeanings σ h marked [] = pure [] := rfl

theorem clauseMeanings_cons {r : Restriction} (hr : r ≠ .marker true) (marked : Bool)
    (rs : List Restriction) :
    clauseMeanings σ h marked (r :: rs) = (do
      let t ← r.meaning σ h
      return t.negateIf marked :: (← clauseMeanings σ h false rs)) := by
  simp [clauseMeanings, signed_cons hr]

/-- The conditions of a list of restrictions say what is meant, and hold together if that does.
Those that are left out always hold. -/
theorem means_of_conditions {rs : List Restriction} {negated : Bool} {ctx ctx' : Context}
    (hr : (conditions h negated rs).Returns ctx cs ctx') :
    ∃ ts, (clauseMeanings σ h negated rs).Reaches ctx ts ctx' ∧
      Truth.all (cs.map (Cond.value σ)) = Truth.all ts ∧ (∀ c ∈ cs, c.isLoose = false) ∧
      (AreFormed rs → ∀ c ∈ cs, IsReadable c) := by
  induction rs generalizing negated cs ctx with
  | nil =>
    obtain ⟨rfl, rfl⟩ := returns_pure.mp hr
    exact ⟨[], reaches_pure ctx _, rfl, by simp, by simp⟩
  | cons r rs ih =>
    obtain ⟨rfl, hr⟩ | ⟨plain, w, ds, ctx₁, hw, hds, rfl⟩ := conditions_cons_of_returns hr
    · obtain ⟨ts, meanings, same, tight, readable⟩ := ih hr
      exact ⟨ts, meanings, same, tight, fun formed => readable formed.2⟩
    · obtain ⟨t, meaning, loose, means⟩ := means_of_condition (σ := σ) hw
      obtain ⟨ts, meanings, same, tight, readable⟩ := ih hds
      refine ⟨t.negateIf negated :: ts, ?_, ?_, ?_, ?_⟩
      · rw [clauseMeanings_cons plain]
        exact reaches_bind meaning (reaches_bind meanings (reaches_pure _ _))
      · -- A condition that is left out is true, and true parts of a conjunction do not count.
        refine Eq.trans ?_ (Truth.all_cons_congr _ same)
        rw [← means.value]
        cases w with
        | none => exact (Truth.all_cons_true _).symm
        | some c => rfl
      · cases w with
        | none => exact tight
        | some c => exact List.forall_mem_cons.mpr ⟨loose, tight⟩
      · rintro ⟨first, rest⟩
        cases w with
        | none => exact readable rest
        | some c => exact List.forall_mem_cons.mpr ⟨means.readable first, readable rest⟩

/-- The truth value of a clause; without a clause everything is accepted. -/
def clauseValue (σ : Assignment) (w : Option Cond) : Truth :=
  (w.map (Cond.value σ)).getD (some true)

/-- The pieces of the text of a clause. -/
def clausePieces (w : Option Cond) : List Piece := (w.map Cond.pieces).getD []

/-- Read a clause. The empty text accepts everything. -/
def readClause (σ : Assignment) (ps : List Piece) : Option Truth :=
  if ps.isEmpty then some (some true) else read σ ps

theorem clauseValue_conjunction (σ : Assignment) (cs : List Cond) :
    clauseValue σ (conjunction cs) = Truth.all (cs.map (Cond.value σ)) := by
  cases cs with
  | nil => rfl
  | cons c cs => exact congrArg Truth.all (values_eq_map σ (c :: cs))

theorem textAll_clausePieces (w : Option Cond) :
    Piece.textAll (clausePieces w) = renderClause w := by
  cases w with
  | none => rfl
  | some c => exact textAll_pieces c

/-- Reading a clause gives its truth value. -/
theorem readClause_clausePieces (σ : Assignment) {w : Option Cond} (h : ∀ c ∈ w, IsReadable c) :
    readClause σ (clausePieces w) = some (clauseValue σ w) := by
  cases w with
  | none => rfl
  | some c =>
    have value : read σ c.pieces = some (c.value σ) := read_pieces (h c rfl) σ
    have nonempty : c.pieces ≠ [] := by
      intro empty
      rw [empty] at value
      cases value
    show (if c.pieces.isEmpty then _ else read σ c.pieces) = _
    rw [if_neg (by simpa using nonempty), value]
    rfl

/-- The truth value of a clause is that of the restrictions together. -/
theorem clauseValue_of_returns (σ : Assignment) {rs : List Restriction} {w : Option Cond}
    {ctx ctx' : Context} (hr : (whereClause h rs).Returns ctx w ctx') :
    ∃ ts, (clauseMeanings σ h false rs).Reaches ctx ts ctx' ∧ clauseValue σ w = Truth.all ts := by
  obtain ⟨cs, hcs, rfl⟩ := conditions_of_returns_clauseOf hr
  obtain ⟨ts, meanings, same, -⟩ := means_of_conditions hcs
  exact ⟨ts, meanings, by rw [clauseValue_conjunction, same]⟩

theorem readable_of_returns {rs : List Restriction} {w : Option Cond} {ctx ctx' : Context}
    (formed : AreFormed rs) (hr : (whereClause h rs).Returns ctx w ctx') :
    ∀ c ∈ w, IsReadable c := by
  obtain ⟨cs, hcs, rfl⟩ := conditions_of_returns_clauseOf hr
  obtain ⟨-, -, -, tight, readable⟩ := means_of_conditions (σ := fun _ => none) hcs
  cases cs with
  | nil => exact fun c hc => nomatch hc
  | cons c cs =>
    rintro _ ⟨⟩
    exact .conj (by simp) tight (readable formed)

/-- **A clause means what its restrictions mean together.** Reading the text of a clause under any
assignment of truth values to its comparisons gives the conjunction of the meanings of all
restrictions but the markers, each negated if a marker stands right before it. -/
theorem readClause_whereClause {h : Header} {rs : List Restriction} {w : Option Cond}
    {ctx ctx' : Context} (formed : AreFormed rs) (hr : (whereClause h rs).Returns ctx w ctx') :
    Piece.textAll (clausePieces w) = renderClause w ∧
      ∀ σ, ∃ ts ctx'', (clauseMeanings σ h false rs).Returns ctx ts ctx'' ∧
        readClause σ (clausePieces w) = some (Truth.all ts) := by
  refine ⟨textAll_clausePieces w, fun σ => ?_⟩
  obtain ⟨ts, meanings, value⟩ := clauseValue_of_returns σ hr
  obtain ⟨ctx'', returns⟩ := meanings.exists_returns
  refine ⟨ts, ctx'', returns, ?_⟩
  rw [readClause_clausePieces σ (readable_of_returns formed hr), value]

namespace Sample

/-- What graded sessions have to meet: they are neither retired nor without a score, and they have
trials. The union in between always holds, because of the marker that negates nothing in it. -/
def graded : List Restriction :=
  [.not,
    .union [.semijoin (retired []), .tuples (.ofRecords [.ofEntries [(.name "score", .null)]])],
    .union [.sql "score <= 0", .sql "graded", .not],
    .complement (.complement (.semijoin (trials [])))]

end Sample

theorem readClause_graded :
    ∃ w ctx', AreFormed Sample.graded ∧
      (whereClause ⟨[Sample.column "id" true, Sample.column "score" false], by decide⟩
        Sample.graded).Returns {} w ctx' ∧
      Piece.textAll (clausePieces w) = renderClause w ∧
      ∀ σ, ∃ ts ctx'', (clauseMeanings σ
          ⟨[Sample.column "id" true, Sample.column "score" false], by decide⟩ false
          Sample.graded).Returns {} ts ctx'' ∧
        readClause σ (clausePieces w) = some (Truth.all ts) :=
  have formed : AreFormed Sample.graded := by
    simp [Sample.graded, Restriction.not, AreFormed, Restriction.IsFormed]
  have hr : (whereClause ⟨[Sample.column "id" true, Sample.column "score" false], by decide⟩
    Sample.graded).Returns {} _ _ := rfl
  ⟨_, _, formed, hr, readClause_whereClause formed hr⟩

end Relational

import Relational.Expr.Digest
import Relational.Expr.Equality
import Relational.Proofs.Derivation

/-!
# Equal expressions have equal digests

Expressions and restrictions are compared part by part, and so are their digests made. A digest
leaves out what a comparison may disregard: the header of a table, and the values of a tuple set,
which may be equal across kinds of numbers or have no digest at all.

What is proved does not depend on how texts, numbers and tuples are hashed. `Hashing` gives these
parts, `Expr.hashBy` puts them together, and the digest is one such hash.
-/

namespace Relational

/-- A way to hash: texts, integers and kinds have hashes, the hashes of its items make that of a
tuple, and a hash may be hashed again as an integer. -/
structure Hashing (κ : Type) where
  ofText : String → κ
  ofInt : Int → κ
  ofKind : String → κ
  tuple : List κ → κ
  again : κ → κ

namespace Hashing

variable {κ : Type} (H : Hashing κ)

/-- The hash of a label. -/
def ofLabel : Label → κ
  | .name s => H.ofText s
  | .position n => H.ofInt n

/-- The hash of a list of texts. -/
def ofTexts (texts : List String) : κ := H.tuple (texts.map H.ofText)

/-- The hash of a table reference. -/
def ofTable (t : TableRef) : κ := H.ofTexts [t.name, t.schema]

/-- The hash of a tuple set: of its fields and the number of its records. -/
def ofTuples (t : TupleSet) : κ :=
  H.tuple [H.tuple (t.fields.map H.ofLabel), H.ofInt t.records.length]

/-- The hash of an operator with its own parts and its restrictions. -/
def operator (kind : String) (part : κ) (restrictions : List κ) : κ :=
  H.tuple [H.ofText kind, H.again part, H.tuple restrictions]

/-- Digests as hashes. -/
def digests : Hashing Digest where
  ofText := .ofText
  ofInt := .ofInt
  ofKind := .word
  tuple := .tuple
  again := .reduce

end Hashing

section HashBy

variable {κ : Type} (H : Hashing κ)

mutual

/-- The hash of an expression. -/
def Expr.hashBy : Expr → κ
  | .table t _ rs => H.operator "Table" (H.ofTable t) (hashesBy rs)
  | .project e specs rs =>
    H.operator "Projection" (H.tuple [e.hashBy, H.ofTexts specs]) (hashesBy rs)
  | .aggregate e g specs rs =>
    H.operator "Aggregation" (H.tuple [e.hashBy, g.hashBy, H.ofTexts specs]) (hashesBy rs)
  | .join l r rs => H.operator "NaturalJoin" (H.tuple [l.hashBy, r.hashBy]) (hashesBy rs)
  | .union operands => H.operator "Union" (H.tuple (hashesBy operands)) []
  | .negation e => H.operator "Negation" e.hashBy []
termination_by structural e => e

/-- The hash of a restriction: that of its expression, if it has one. -/
def Restriction.hashBy : Restriction → κ
  | .sql text => H.ofText text
  | .tuples t => H.ofTuples t
  | .semijoin e => e.hashBy
  | .marker _ => H.ofKind "NegationMarker"
  | .union operands => H.operator "Union" (H.tuple (hashesBy operands)) []
  | .complement r => H.operator "Negation" r.hashBy []
termination_by structural r => r

/-- The hashes of several restrictions. -/
def hashesBy : List Restriction → List κ
  | [] => []
  | r :: rs => r.hashBy :: hashesBy rs
termination_by structural rs => rs

end

end HashBy

/-! ### Digests are hashes -/

theorem Hashing.ofTuples_digests (t : TupleSet) : digests.ofTuples t = t.digest := by
  have labels : digests.ofLabel = Label.digest := by
    funext k
    cases k <;> rfl
  rw [ofTuples, labels]
  rfl

mutual

theorem Expr.hashBy_digests (e : Expr) : e.hashBy .digests = e.digest :=
  match e with
  | .table t h rs => by
    rw [Expr.hashBy, Expr.digest, hashesBy_digests rs]
    rfl
  | .project e specs rs => by
    rw [Expr.hashBy, Expr.digest, Expr.hashBy_digests e, hashesBy_digests rs]
    rfl
  | .aggregate e g specs rs => by
    rw [Expr.hashBy, Expr.digest, Expr.hashBy_digests e, Expr.hashBy_digests g,
      hashesBy_digests rs]
    rfl
  | .join l r rs => by
    rw [Expr.hashBy, Expr.digest, Expr.hashBy_digests l, Expr.hashBy_digests r,
      hashesBy_digests rs]
    rfl
  | .union operands => by
    rw [Expr.hashBy, Expr.digest, hashesBy_digests operands]
    rfl
  | .negation e => by
    rw [Expr.hashBy, Expr.digest, Expr.hashBy_digests e]
    rfl
termination_by structural e

theorem Restriction.hashBy_digests (r : Restriction) : r.hashBy .digests = r.digest :=
  match r with
  | .sql _ | .marker _ => rfl
  | .tuples t => Hashing.ofTuples_digests t
  | .semijoin e => Expr.hashBy_digests e
  | .union operands => by
    rw [Restriction.hashBy, Restriction.digest, hashesBy_digests operands]
    rfl
  | .complement r => by
    rw [Restriction.hashBy, Restriction.digest, Restriction.hashBy_digests r]
    rfl
termination_by structural r

theorem hashesBy_digests (rs : List Restriction) : hashesBy .digests rs = restrictionDigests rs :=
  match rs with
  | [] => rfl
  | r :: rs => by rw [hashesBy, restrictionDigests, r.hashBy_digests, hashesBy_digests rs]
termination_by structural rs

end

/-! ### Known digests

A digest differs from itself only if something unique is in it. -/

namespace Digest

/-- A digest that is equal to itself. -/
def IsKnown (d : Digest) : Prop := d.same d = true

theorem isKnown_number (n : Int) : (number n).IsKnown := beq_self_eq_true n

theorem isKnown_sequence {ds : List Digest} (h : ∀ d ∈ ds, d.IsKnown) :
    (sequence ds).IsKnown := by
  show sameAll ds ds = true
  induction ds with
  | nil => rfl
  | cons d ds ih =>
    obtain ⟨first, rest⟩ := List.forall_mem_cons.mp h
    exact Bool.and_eq_true_iff.mpr ⟨first, ih rest⟩

theorem isKnown_tuple {ds : List Digest} (h : ∀ d ∈ ds, d.IsKnown) : (tuple ds).IsKnown := by
  unfold tuple
  split
  · exact isKnown_number _
  · exact isKnown_sequence h

theorem isKnown_ofInt (n : Int) : (ofInt n).IsKnown := isKnown_number _

theorem isKnown_reduce {d : Digest} (h : d.IsKnown) : d.reduce.IsKnown := by
  cases d with
  | number n => exact isKnown_ofInt n
  | unique => cases h
  | data _ | word _ | reduced _ | sequence _ => exact h

theorem isKnown_ofText (s : String) : (ofText s).IsKnown := by
  unfold ofText ofBytes
  dsimp only
  split
  · exact isKnown_number 0
  · exact beq_self_eq_true _

theorem isKnown_word (name : String) : (word name).IsKnown := beq_self_eq_true name

theorem isKnown_ofTexts (texts : List String) : (ofTexts texts).IsKnown :=
  isKnown_tuple (List.forall_mem_map.mpr fun s _ => isKnown_ofText s)

theorem isKnown_operator (kind : String) {part : Digest} {restrictions : List Digest}
    (hp : part.IsKnown) (hr : ∀ d ∈ restrictions, d.IsKnown) :
    (operator kind part restrictions).IsKnown := by
  refine isKnown_tuple ?_
  simp only [List.forall_mem_cons]
  exact ⟨isKnown_ofText kind, isKnown_reduce hp, isKnown_tuple hr, List.forall_mem_nil _⟩

end Digest

theorem isKnown_label (k : Label) : k.digest.IsKnown := by
  cases k with
  | name s => exact Digest.isKnown_ofText s
  | position n => exact Digest.isKnown_ofInt n

theorem isKnown_tupleSet (t : TupleSet) : t.digest.IsKnown := by
  refine Digest.isKnown_tuple ?_
  simp only [List.forall_mem_cons]
  refine ⟨Digest.isKnown_tuple ?_, Digest.isKnown_ofInt _, List.forall_mem_nil _⟩
  exact List.forall_mem_map.mpr fun k _ => isKnown_label k

mutual

theorem isKnown_expr (e : Expr) : e.digest.IsKnown :=
  match e with
  | .table t _ rs => Digest.isKnown_operator _ (Digest.isKnown_ofTexts _) (isKnown_restrictions rs)
  | .project e specs rs => by
    refine Digest.isKnown_operator _ (Digest.isKnown_tuple ?_) (isKnown_restrictions rs)
    simp only [List.forall_mem_cons]
    exact ⟨isKnown_expr e, Digest.isKnown_ofTexts specs, List.forall_mem_nil _⟩
  | .aggregate e g specs rs => by
    refine Digest.isKnown_operator _ (Digest.isKnown_tuple ?_) (isKnown_restrictions rs)
    simp only [List.forall_mem_cons]
    exact ⟨isKnown_expr e, isKnown_expr g, Digest.isKnown_ofTexts specs, List.forall_mem_nil _⟩
  | .join l r rs => by
    refine Digest.isKnown_operator _ (Digest.isKnown_tuple ?_) (isKnown_restrictions rs)
    simp only [List.forall_mem_cons]
    exact ⟨isKnown_expr l, isKnown_expr r, List.forall_mem_nil _⟩
  | .union operands =>
    Digest.isKnown_operator _ (Digest.isKnown_tuple (isKnown_restrictions operands))
      (List.forall_mem_nil _)
  | .negation e => Digest.isKnown_operator _ (isKnown_expr e) (List.forall_mem_nil _)
termination_by structural e

theorem isKnown_restriction (r : Restriction) : r.digest.IsKnown :=
  match r with
  | .sql text => Digest.isKnown_ofText text
  | .tuples t => isKnown_tupleSet t
  | .semijoin e => isKnown_expr e
  | .marker _ => Digest.isKnown_word _
  | .union operands =>
    Digest.isKnown_operator _ (Digest.isKnown_tuple (isKnown_restrictions operands))
      (List.forall_mem_nil _)
  | .complement r => Digest.isKnown_operator _ (isKnown_restriction r) (List.forall_mem_nil _)
termination_by structural r

theorem isKnown_restrictions (rs : List Restriction) : ∀ d ∈ restrictionDigests rs, d.IsKnown :=
  match rs with
  | [] => List.forall_mem_nil _
  | r :: rs => List.forall_mem_cons.mpr ⟨isKnown_restriction r, isKnown_restrictions rs⟩
termination_by structural rs

end

/-! ### Comparisons that hold -/

section Same

variable {before after : List Notice}

theorem not_report_false : ¬ (pure false : Report Bool).Returns before true after :=
  fun h => Bool.false_ne_true (report_pure.mp h).1

/-- Two comparisons in a row hold if both do. -/
theorem report_andThen {first second : Report Bool} :
    (andThen first second).Returns before true after ↔
      ∃ mid, first.Returns before true mid ∧ second.Returns mid true after := by
  constructor
  · intro h
    obtain ⟨b, mid, hf, hs⟩ := report_bind.mp h
    cases b with
    | true => exact ⟨mid, hf, hs⟩
    | false => exact absurd hs not_report_false
  · rintro ⟨mid, hf, hs⟩
    exact report_bind.mpr ⟨true, mid, hf, hs⟩

theorem report_beq {α : Type} [BEq α] [LawfulBEq α] {a b : α} :
    (pure (a == b) : Report Bool).Returns before true after ↔ a = b ∧ before = after := by
  rw [report_pure, beq_iff_eq]

theorem Record.length_eq_of_sameAll {rs qs : List Record}
    (h : (sameAll rs qs).Returns before true after) : rs.length = qs.length := by
  induction rs generalizing qs before with
  | nil =>
    cases qs with
    | nil => rfl
    | cons q qs => exact absurd h not_report_false
  | cons r rs ih =>
    cases qs with
    | nil => exact absurd h not_report_false
    | cons q qs =>
      obtain ⟨mid, -, rest⟩ := report_andThen.mp h
      rw [List.length_cons, List.length_cons, ih rest]

/-- Of equal tuple sets, the fields are the same and as many records are there. -/
theorem TupleSet.fields_eq_of_same {t u : TupleSet} (h : (t.same u).Returns before true after) :
    t.fields = u.fields ∧ t.records.length = u.records.length := by
  obtain ⟨mid, records, fields⟩ := report_andThen.mp h
  exact ⟨(report_beq.mp fields).1, Record.length_eq_of_sameAll records⟩

end Same

section Hashes

variable {κ : Type} (H : Hashing κ)

theorem Hashing.ofTuples_eq_of_same {t u : TupleSet} {before after : List Notice}
    (h : (t.same u).Returns before true after) : H.ofTuples t = H.ofTuples u := by
  obtain ⟨fields, lengths⟩ := TupleSet.fields_eq_of_same h
  rw [ofTuples, ofTuples, fields, lengths]

mutual

-- The induction is on the first expression; a second one of another kind is never equal to it.
theorem Expr.hashBy_eq_of_same {e f : Expr} {before after : List Notice}
    (h : (e.same f).Returns before true after) : e.hashBy H = f.hashBy H :=
  match e with
  | .table t k rs => by
    cases f with
    | table u l qs =>
      obtain ⟨_, ht, hr⟩ := report_andThen.mp h
      rw [Expr.hashBy, Expr.hashBy, (report_beq.mp ht).1, hashesBy_eq_of_same hr]
    | _ => exact absurd h not_report_false
  | .project e specs rs => by
    cases f with
    | project f specs' qs =>
      obtain ⟨_, he, h⟩ := report_andThen.mp h
      obtain ⟨_, hs, hr⟩ := report_andThen.mp h
      rw [Expr.hashBy, Expr.hashBy, Expr.hashBy_eq_of_same he, (report_beq.mp hs).1,
        hashesBy_eq_of_same hr]
    | _ => exact absurd h not_report_false
  | .aggregate e g specs rs => by
    cases f with
    | aggregate f k specs' qs =>
      obtain ⟨_, he, h⟩ := report_andThen.mp h
      obtain ⟨_, hg, h⟩ := report_andThen.mp h
      obtain ⟨_, hs, hr⟩ := report_andThen.mp h
      rw [Expr.hashBy, Expr.hashBy, Expr.hashBy_eq_of_same he, Expr.hashBy_eq_of_same hg,
        (report_beq.mp hs).1, hashesBy_eq_of_same hr]
    | _ => exact absurd h not_report_false
  | .join l r rs => by
    cases f with
    | join l' r' qs =>
      obtain ⟨_, hl, h⟩ := report_andThen.mp h
      obtain ⟨_, hr, hrs⟩ := report_andThen.mp h
      rw [Expr.hashBy, Expr.hashBy, Expr.hashBy_eq_of_same hl, Expr.hashBy_eq_of_same hr,
        hashesBy_eq_of_same hrs]
    | _ => exact absurd h not_report_false
  | .union operands => by
    cases f with
    | union operands' =>
      have same : (sameRestrictions operands operands').Returns before true after := h
      rw [Expr.hashBy, Expr.hashBy, hashesBy_eq_of_same same]
    | _ => exact absurd h not_report_false
  | .negation e => by
    cases f with
    | negation f => rw [Expr.hashBy, Expr.hashBy, Expr.hashBy_eq_of_same (e := e) h]
    | _ => exact absurd h not_report_false
termination_by structural e

theorem Restriction.hashBy_eq_of_same {r q : Restriction} {before after : List Notice}
    (h : (r.same q).Returns before true after) : r.hashBy H = q.hashBy H :=
  match r with
  | .sql s => by
    cases q with
    | sql t => rw [Restriction.hashBy, Restriction.hashBy, (report_beq.mp h).1]
    | _ => exact absurd h not_report_false
  | .tuples t => by
    cases q with
    | tuples u => exact H.ofTuples_eq_of_same h
    | _ => exact absurd h not_report_false
  | .semijoin e => by
    cases q with
    | semijoin f => exact Expr.hashBy_eq_of_same (e := e) h
    | _ => exact absurd h not_report_false
  | .marker _ => by
    cases q with
    | marker _ => rfl
    | _ => exact absurd h not_report_false
  | .union operands => by
    cases q with
    | union operands' =>
      have same : (sameRestrictions operands operands').Returns before true after := h
      rw [Restriction.hashBy, Restriction.hashBy, hashesBy_eq_of_same same]
    | _ => exact absurd h not_report_false
  | .complement r => by
    cases q with
    | complement q =>
      rw [Restriction.hashBy, Restriction.hashBy, Restriction.hashBy_eq_of_same (r := r) h]
    | _ => exact absurd h not_report_false
termination_by structural r

theorem hashesBy_eq_of_same {rs qs : List Restriction} {before after : List Notice}
    (h : (sameRestrictions rs qs).Returns before true after) : hashesBy H rs = hashesBy H qs :=
  match rs with
  | [] => by
    cases qs with
    | nil => rfl
    | cons q qs => exact absurd h not_report_false
  | r :: rs => by
    cases qs with
    | nil => exact absurd h not_report_false
    | cons q qs =>
      obtain ⟨_, first, rest⟩ := report_andThen.mp h
      rw [hashesBy, hashesBy, Restriction.hashBy_eq_of_same first, hashesBy_eq_of_same rest]
termination_by structural rs

end

end Hashes

namespace Sample

/-- The scores of the visit with a number and no tags, unless it is negative or retired. -/
def untagged (h : Header) (number : Value) : Expr :=
  .project (.table ⟨"visit", "lab", by decide⟩ h
    [.tuples (.ofRecords [.ofEntries [(.name "visit", number), (.name "tags", .list [])]]), .not,
      .union [.sql "score < 0", .semijoin (retired [])]]) ["score"] []

/-- The visit 1, with a header of one column. -/
def first : Expr := untagged ⟨[column "visit" true], by decide⟩ (.int 1)

/-- The visit 1.0, with a header of no columns. -/
def firstDecimal : Expr := untagged ⟨[], List.nodup_nil⟩ (.decimal (.finite false 10 (-1)))

end Sample

end Relational

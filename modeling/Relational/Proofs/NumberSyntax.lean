import Relational.Proofs.Recovery

/-!
# The syntax of numbers

A number in SQL has digits, a fraction and an exponent if needed, and a minus sign if it is
negative. Finite numbers are written like this. The others are written as words, and a word that is
not quoted is the name of a column.
-/

namespace Relational

/-! ### Numbers and names -/

/-- After a minus sign or without one. -/
def Signed (P : String → Prop) (s : String) : Prop :=
  ∃ sign t, (sign = "" ∨ sign = "-") ∧ P t ∧ s = sign ++ t

/-- The numbers of SQL. -/
def IsSqlNumber : String → Prop := Signed IsUnsigned

/-- Names that need no quotes, and their negations. -/
def IsSignedName : String → Prop := Signed (isIdentifier · = true)

theorem signed_plain {P : String → Prop} {t : String} (ht : P t) : Signed P t :=
  ⟨"", t, .inl rfl, ht, String.empty_append.symm⟩

theorem signed_ite {P : String → Prop} {t : String} (negative : Bool) (ht : P t) :
    Signed P ((if negative then "-" else "") ++ t) := by
  cases negative
  · exact ⟨"", t, .inl rfl, ht, rfl⟩
  · exact ⟨"-", t, .inr rfl, ht, rfl⟩

section Names

variable {s : String}

/-- Numbers start with a digit. -/
def StartsWithDigit (s : String) : Prop := ∃ c cs, s.toList = c :: cs ∧ c.isDigit = true

theorem StartsWithDigit.append (h : StartsWithDigit s) (t : String) : StartsWithDigit (s ++ t) := by
  obtain ⟨c, cs, hs, hc⟩ := h
  exact ⟨c, cs ++ t.toList, by simp [hs], hc⟩

theorem IsDigits.startsWithDigit (h : IsDigits s) : StartsWithDigit s := by
  cases hs : s.toList with
  | nil => exact absurd (String.toList_eq_nil_iff.mp hs) h.nonempty
  | cons c cs => exact ⟨c, cs, hs, h.isDigit c (by simp [hs])⟩

theorem IsFixed.startsWithDigit (h : IsFixed s) : StartsWithDigit s := by
  cases h with
  | whole hs => exact hs.startsWithDigit
  | fraction hs ht => exact (hs.startsWithDigit.append _).append _

theorem IsUnsigned.startsWithDigit (h : IsUnsigned s) : StartsWithDigit s := by
  cases h with
  | fixed hs => exact hs.startsWithDigit
  | scaled hs => exact ((hs.startsWithDigit.append _).append _).append _

theorem isDigit_eq_false_of_lt {c : Char} (h : 57 < c.val.toNat) : c.isDigit = false := by
  rw [Bool.eq_false_iff]
  intro digit
  simp only [Char.isDigit, Bool.and_eq_true, decide_eq_true_eq, UInt32.le_iff_toNat_le] at digit
  exact absurd (Nat.lt_of_lt_of_le h digit.2) (by decide)

/-- A name starts neither with a digit nor with a sign. -/
theorem head_of_isIdentifier (h : isIdentifier s = true) :
    ∃ c cs, s.toList = c :: cs ∧ c.isDigit = false ∧ c ≠ '-' := by
  unfold isIdentifier at h
  cases hs : s.toList with
  | nil => simp [hs, isPlainName] at h
  | cons c cs =>
    rw [hs, isPlainName, Bool.and_eq_true] at h
    refine ⟨c, cs, rfl, ?_, ?_⟩
    · have start := h.1
      simp only [Text.isNameStart, Text.isAsciiLetter, Bool.or_eq_true, Bool.and_eq_true,
        decide_eq_true_eq, beq_iff_eq, Char.le_def, UInt32.le_iff_toNat_le] at start
      rcases start with ((⟨low, -⟩ | ⟨low, -⟩) | rfl) | rfl
      · exact isDigit_eq_false_of_lt (Nat.lt_of_lt_of_le (by decide) low)
      · exact isDigit_eq_false_of_lt (Nat.lt_of_lt_of_le (by decide) low)
      · rfl
      · rfl
    · rintro rfl
      exact absurd h.1 (by decide)

/-- Nothing is both a number and a name. -/
theorem IsSignedName.not_isSqlNumber (h : IsSignedName s) : ¬ IsSqlNumber s := by
  rintro ⟨sign, t, hsign, ht, rfl⟩
  obtain ⟨c, cs, hc, digit⟩ := ht.startsWithDigit
  obtain ⟨sign', t', hsign', name, same⟩ := h
  obtain ⟨d, ds, hd, noDigit, noSign⟩ := head_of_isIdentifier name
  have chars : sign.toList ++ c :: cs = sign'.toList ++ d :: ds := by
    rw [← hc, ← hd, ← String.toList_append, ← String.toList_append, same]
  -- The first characters differ: a digit, the start of a name, or a sign on one side only.
  rcases hsign with rfl | rfl <;> rcases hsign' with rfl | rfl
  · cases chars
    simp [digit] at noDigit
  · cases chars
    exact absurd digit (by decide)
  · cases chars
    exact noSign rfl
  · cases chars
    simp [digit] at noDigit

end Names

/-! ### Written numbers -/

/-- Neither infinite nor undefined. -/
def Number.Binary.isFinite : Number.Binary → Bool
  | .finite .. => true
  | _ => false

/-- Neither infinite nor undefined. -/
def Number.Decimal.isFinite : Number.Decimal → Bool
  | .finite .. => true
  | _ => false

/-- A number in SQL, if it is finite, and else a name. -/
structure WrittenAs (finite : Bool) (s : String) : Prop where
  isSqlNumber_iff : IsSqlNumber s ↔ finite = true
  isSignedName_iff : IsSignedName s ↔ finite = false

theorem writtenAs_number {s : String} (h : IsSqlNumber s) : WrittenAs true s :=
  ⟨by simp [h], by simpa using fun name => name.not_isSqlNumber h⟩

theorem writtenAs_name {s : String} (h : IsSignedName s) : WrittenAs false s :=
  ⟨by simpa using h.not_isSqlNumber, by simp [h]⟩

theorem writtenAs_binary (format : Number.BinaryFormat) (layout : Number.DecimalLayout)
    (x : Number.Binary) : WrittenAs x.isFinite (x.text format layout) := by
  cases x with
  | nan => exact writtenAs_name ⟨"", "nan", .inl rfl, by decide, rfl⟩
  | infinite negative =>
    have sign : (if negative then "-inf" else "inf") = (if negative then "-" else "") ++ "inf" := by
      cases negative <;> rfl
    refine writtenAs_name ?_
    rw [Number.Binary.text, sign]
    exact signed_ite negative (by decide)
  | finite negative m unit =>
    refine writtenAs_number ?_
    unfold Number.Binary.text
    dsimp only
    split
    · exact signed_ite negative (isUnsigned_write layout (by simp) (by simp) 0)
    · exact signed_ite negative
        (isUnsigned_write layout Nat.toDigits_ne_nil isDigit_of_mem_toDigits _)

theorem isWord_of_isDigit {c : Char} (h : c.isDigit = true) : Text.isWord c = true := by
  simp only [Char.isDigit, Bool.and_eq_true, decide_eq_true_eq, ge_iff_le] at h
  have small : c.toNat < 128 := Nat.lt_of_le_of_lt (UInt32.le_iff_toNat_le.mp h.2) (by decide)
  have digit : '0' ≤ c ∧ c ≤ '9' := h
  simp [Text.isWord, small, digit]

theorem isIdentifier_append {s t : String} (hs : isIdentifier s = true)
    (ht : ∀ c ∈ t.toList, c.isDigit = true) : isIdentifier (s ++ t) = true := by
  unfold isIdentifier at hs ⊢
  rw [String.toList_append]
  cases h : s.toList with
  | nil => simp [h, isPlainName] at hs
  | cons c cs =>
    rw [h, isPlainName, Bool.and_eq_true] at hs
    rw [List.cons_append, isPlainName, List.all_append, hs.1, hs.2, Bool.true_and, Bool.true_and,
      List.all_eq_true]
    intro d hd
    simp [isNamePart, isWord_of_isDigit (ht d hd)]

theorem writtenAs_decimal (d : Number.Decimal) : WrittenAs d.isFinite d.text := by
  cases d with
  | finite negative n e =>
    exact writtenAs_number (signed_ite negative (isUnsigned_writeScaled n e))
  | infinite negative =>
    refine writtenAs_name (signed_ite negative ?_)
    show isIdentifier "Infinity" = true
    decide
  | nan negative signaling payload =>
    refine writtenAs_name ?_
    rw [Number.Decimal.text, String.append_assoc]
    refine signed_ite negative (isIdentifier_append ?_ ?_)
    · cases signaling <;> decide
    · cases payload with
      | none => simp
      | some n => exact (isDigits_decimal n).isDigit

/-! ### Numbers as values -/

/-- Whether a value is a number that is neither infinite nor undefined, once it is converted to a
double if it is not an integer or a decimal. -/
def Value.isFinite : Value → Bool
  | .decimal d => d.isFinite
  | .float x => x.isFinite
  | .fixedFloat _ x => (x.convert Number.double).isFinite
  | _ => true

theorem ofQuotient_ne_nan (format : Number.BinaryFormat) (negative : Bool) (num den : Nat) :
    Number.Binary.ofQuotient format negative num den ≠ .nan := by
  unfold Number.Binary.ofQuotient
  split
  · simp
  · dsimp only
    split <;> split <;> simp

theorem isFinite_of_ofFraction? {num : Int} {den : Nat} {x : Number.Binary}
    (h : Number.Binary.ofFraction? num den = some x) : x.isFinite = true := by
  unfold Number.Binary.ofFraction? at h
  split at h
  · cases h
  · rename_i notInfinite
    cases h
    cases hx : Number.Binary.ofQuotient Number.double (num < 0) num.natAbs den with
    | nan => exact absurd hx (ofQuotient_ne_nan _ _ _ _)
    | infinite negative => exact absurd hx (notInfinite negative)
    | finite => rfl

theorem writtenAs_signedDecimal (n : Int) : WrittenAs true (Text.signedDecimal n) := by
  refine writtenAs_number ?_
  unfold Text.signedDecimal
  split
  · exact signed_ite true (.fixed (.whole (isDigits_decimal _)))
  · exact signed_plain (.fixed (.whole (isDigits_decimal _)))

theorem writtenAs_of_numberText? {v : Value} {s : String} (h : v.numberText? = some s) :
    WrittenAs v.isFinite s := by
  unfold Value.numberText? at h
  split at h
  case h_1 b | h_2 b =>
    cases h
    exact writtenAs_number (signed_plain (.fixed (.whole (by cases b <;> decide))))
  case h_3 n | h_4 n =>
    cases h
    exact writtenAs_signedDecimal n
  case h_5 d =>
    cases h
    exact writtenAs_decimal d
  case h_6 x | h_7 x =>
    cases h
    exact writtenAs_binary _ _ _
  case h_8 num den =>
    obtain ⟨x, hx, rfl⟩ := Option.map_eq_some_iff.mp h
    have written := writtenAs_binary Number.double .plain x
    rwa [isFinite_of_ofFraction? hx] at written
  case h_9 => cases h

/-- **Exactly the finite numbers are written as numbers.** What an attribute that is neither a blob
nor a string is compared with is a number if the value is finite, and otherwise a name. -/
theorem literal_isSqlNumber_iff {a : Attribute} {v : Value} {l : Sql.Literal}
    (blob : a.type ≠ .blob) (string : a.type ≠ .string) (hl : v.literal a = .ok l) :
    (IsSqlNumber l.render ↔ v.isFinite = true) ∧ (IsSignedName l.render ↔ v.isFinite = false) := by
  obtain ⟨digits, rfl, hd⟩ := numberText?_of_literal blob string hl
  have written := writtenAs_of_numberText? hd
  exact ⟨written.isSqlNumber_iff, written.isSignedName_iff⟩

namespace Sample

/-- A small decimal is a number, a negative infinity is a name. -/
theorem literal_small_and_infinite :
    (column "depth" false).type ≠ .blob ∧ (column "depth" false).type ≠ .string ∧
    (Value.decimal (.finite true 15 (-8))).literal (column "depth" false) =
      .ok (.number "-1.5E-7") ∧ IsSqlNumber "-1.5E-7" ∧
    (Value.float (.infinite true)).literal (column "depth" false) = .ok (.number "-inf") ∧
      IsSignedName "-inf" := by
  have blob : (column "depth" false).type ≠ .blob := by decide
  have string : (column "depth" false).type ≠ .string := by decide
  have small : (Value.decimal (.finite true 15 (-8))).literal (column "depth" false) =
      .ok (.number "-1.5E-7") := by decide +kernel
  have infinite : (Value.float (.infinite true)).literal (column "depth" false) =
      .ok (.number "-inf") := by decide +kernel
  exact ⟨blob, string, small, (literal_isSqlNumber_iff blob string small).1.mpr rfl, infinite,
    (literal_isSqlNumber_iff blob string infinite).2.mpr rfl⟩

/-- The record of an undefined depth is compared with a column of the name `nan`. -/
theorem literal_nan :
    (Value.float .nan).literal (column "depth" false) = .ok (.number "nan") ∧
    ¬ IsSqlNumber "nan" ∧ isIdentifier "nan" = true ∧
    (encodeTuples ⟨[column "depth" false], by decide⟩
      [.ofEntries [(.name "depth", .float .nan)]]).Returns []
        (.conj [.equal "depth" (.number "nan")]) [] ∧
    (Sql.Cond.conj [.equal "depth" (.number "nan")]).render = quote "depth" ++ "=nan" := by
  have name : isIdentifier "nan" = true := by decide
  exact ⟨rfl, IsSignedName.not_isSqlNumber (signed_plain name), name, rfl, rfl⟩

end Sample

end Relational

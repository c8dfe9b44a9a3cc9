import Relational.Literal

/-!
# Numerals

The numbers that fields are compared with are written with digits, signs, a point, the mark of an
exponent, and the letters of the words for numbers that are infinite or undefined. So a numeral
never contains a blank, a bracket or a quote, and it is none of the keywords between comparisons.
Without their sign, finite numbers are digits, a fraction and an exponent.
-/

namespace Relational

/-- The characters of numerals. -/
def isNumeralPart (c : Char) : Bool :=
  c.isDigit || ['+', '-', '.', 'e', 'E', 'a', 'f', 'i', 'n', 's', 't', 'y', 'I', 'N'].contains c

/-- Text made of the characters of numerals. -/
def Numeric (s : String) : Prop := ∀ c ∈ s.toList, isNumeralPart c = true

instance (s : String) : Decidable (Numeric s) :=
  decidable_of_iff (s.toList.all isNumeralPart = true) List.all_eq_true

/-- A numeral, which is not empty. -/
structure IsNumeral (s : String) : Prop where
  nonempty : s ≠ ""
  numeric : Numeric s

instance (s : String) : Decidable (IsNumeral s) :=
  decidable_of_iff (s ≠ "" ∧ Numeric s) ⟨fun h => ⟨h.1, h.2⟩, fun h => ⟨h.nonempty, h.numeric⟩⟩

section Numeric

variable {s t : String}

theorem numeric_append (hs : Numeric s) (ht : Numeric t) : Numeric (s ++ t) := by
  intro c hc
  rw [String.toList_append, List.mem_append] at hc
  rcases hc with hc | hc
  · exact hs c hc
  · exact ht c hc

theorem IsNumeral.after (ht : IsNumeral t) (hs : Numeric s) : IsNumeral (s ++ t) :=
  ⟨fun h => ht.nonempty (String.append_eq_empty_iff.mp h).2, numeric_append hs ht.numeric⟩

theorem IsNumeral.before (hs : IsNumeral s) (ht : Numeric t) : IsNumeral (s ++ t) :=
  ⟨fun h => hs.nonempty (String.append_eq_empty_iff.mp h).1, numeric_append hs.numeric ht⟩

theorem numeric_sign (negative : Bool) : Numeric (if negative then "-" else "") := by
  cases negative <;> decide

theorem isDigit_of_mem_toDigits {n : Nat} : ∀ c ∈ Nat.toDigits 10 n, c.isDigit = true :=
  fun _ hc => Nat.isDigit_of_mem_toDigits (by decide) (by decide) hc

end Numeric

/-! ### Digits, fractions and exponents -/

/-- One digit or more. -/
structure IsDigits (s : String) : Prop where
  nonempty : s ≠ ""
  isDigit : ∀ c ∈ s.toList, c.isDigit = true

instance (s : String) : Decidable (IsDigits s) :=
  decidable_of_iff (s ≠ "" ∧ s.toList.all Char.isDigit = true)
    ⟨fun h => ⟨h.1, List.all_eq_true.mp h.2⟩, fun h => ⟨h.nonempty, List.all_eq_true.mpr h.isDigit⟩⟩

/-- Digits, with a fraction if there is a point. -/
inductive IsFixed : String → Prop
  | whole {s : String} (hs : IsDigits s) : IsFixed s
  | fraction {s t : String} (hs : IsDigits s) (ht : IsDigits t) : IsFixed (s ++ "." ++ t)

/-- A number without its sign, with an exponent if there is a mark for it. -/
inductive IsUnsigned : String → Prop
  | fixed {s : String} (hs : IsFixed s) : IsUnsigned s
  | scaled {s mark sign t : String} (hs : IsFixed s) (hm : mark ∈ ["e", "E"])
    (hsign : sign ∈ ["", "+", "-"]) (ht : IsDigits t) : IsUnsigned (s ++ mark ++ sign ++ t)

theorem IsDigits.isNumeral {s : String} (h : IsDigits s) : IsNumeral s :=
  ⟨h.nonempty, fun c hc => by simp [isNumeralPart, h.isDigit c hc]⟩

theorem IsFixed.isNumeral {s : String} (h : IsFixed s) : IsNumeral s := by
  cases h with
  | whole hs => exact hs.isNumeral
  | fraction hs ht => exact (hs.isNumeral.before (by decide)).before ht.isNumeral.numeric

theorem IsUnsigned.isNumeral {s : String} (h : IsUnsigned s) : IsNumeral s := by
  cases h with
  | fixed hs => exact hs.isNumeral
  | @scaled s mark sign t hs hm hsign ht =>
    have mark : Numeric mark := by
      simp only [List.mem_cons, List.not_mem_nil, or_false] at hm
      rcases hm with rfl | rfl <;> decide
    have sign : Numeric sign := by
      simp only [List.mem_cons, List.not_mem_nil, or_false] at hsign
      rcases hsign with rfl | rfl | rfl <;> decide
    exact ((hs.isNumeral.before mark).before sign).before ht.isNumeral.numeric

section Digits

variable {s t : String} {cs : List Char}

theorem isDigits_ofList (some : cs ≠ []) (h : ∀ c ∈ cs, c.isDigit = true) :
    IsDigits (String.ofList cs) :=
  ⟨fun e => some (by simpa using e), by simpa using h⟩

theorem IsDigits.append (hs : IsDigits s) (ht : ∀ c ∈ t.toList, c.isDigit = true) :
    IsDigits (s ++ t) := by
  refine ⟨fun e => hs.nonempty (String.append_eq_empty_iff.mp e).1, fun c hc => ?_⟩
  rw [String.toList_append, List.mem_append] at hc
  exact hc.elim (hs.isDigit c) (ht c)

theorem isDigits_zero : IsDigits "0" := by decide

theorem isDigits_decimal (n : Nat) : IsDigits (Text.decimal n) :=
  isDigits_ofList Nat.toDigits_ne_nil isDigit_of_mem_toDigits

theorem isDigit_of_mem_zeros {count : Nat} :
    ∀ c ∈ (Number.zeros count).toList, c.isDigit = true := by
  intro c hc
  rw [Number.zeros, String.toList_ofList] at hc
  rw [(List.mem_replicate.mp hc).2]
  rfl

theorem isDigits_paddedDecimal (width n : Nat) : IsDigits (Text.paddedDecimal width n) := by
  refine isDigits_ofList (by simp [Nat.toDigits_ne_nil]) fun c hc => ?_
  rcases List.mem_append.mp hc with hc | hc
  · rw [(List.mem_replicate.mp hc).2]
    rfl
  · exact isDigit_of_mem_toDigits c hc

/-- A point within digits. -/
theorem isFixed_split {n : Nat} (h : ∀ c ∈ cs, c.isDigit = true) (left : 0 < n)
    (right : n < cs.length) :
    IsFixed (String.ofList (cs.take n) ++ "." ++ String.ofList (cs.drop n)) := by
  refine .fraction (isDigits_ofList ?_ fun c hc => h c (List.mem_of_mem_take hc))
    (isDigits_ofList ?_ fun c hc => h c (List.mem_of_mem_drop hc))
  · intro e
    have := congrArg List.length e
    simp only [List.length_take, List.length_nil] at this
    omega
  · intro e
    have := congrArg List.length e
    simp only [List.length_drop, List.length_nil] at this
    omega

/-- Zeros between the point and the digits. -/
theorem isFixed_small (some : cs ≠ []) (h : ∀ c ∈ cs, c.isDigit = true) (count : Nat) :
    IsFixed ("0." ++ Number.zeros count ++ String.ofList cs) := by
  have fraction : IsDigits (Number.zeros count ++ String.ofList cs) := by
    rw [Number.zeros, ← String.ofList_append]
    refine isDigits_ofList (by simp [some]) fun c hc => ?_
    rcases List.mem_append.mp hc with hc | hc
    · rw [(List.mem_replicate.mp hc).2]
      rfl
    · exact h c hc
  rw [String.append_assoc]
  exact .fraction isDigits_zero fraction

end Digits

/-! ### Written numbers -/

theorem isUnsigned_write (layout : Number.DecimalLayout) {digits : List Char} (some : digits ≠ [])
    (hd : ∀ c ∈ digits, c.isDigit = true) (exponent : Int) :
    IsUnsigned (layout.write digits exponent) := by
  have positive : 0 < digits.length := List.length_pos_iff.mpr some
  unfold Number.DecimalLayout.write
  split
  · split
    · exact .fixed (isFixed_small some hd _)
    · dsimp only
      split
      · have whole := (isDigits_ofList some hd).append
          (@isDigit_of_mem_zeros (exponent.toNat + 1 - digits.length))
        split
        · rw [show ".0" = "." ++ "0" from rfl, ← String.append_assoc]
          exact .fixed (.fraction whole isDigits_zero)
        · rw [String.append_empty]
          exact .fixed (.whole whole)
      · exact .fixed (isFixed_split hd (by omega) (by omega))
  · have mark : (if exponent < 0 then "e-" else "e+") =
        "e" ++ (if exponent < 0 then "-" else "+") := by split <;> rfl
    dsimp only
    rw [mark, ← String.append_assoc]
    refine .scaled ?_ (by simp) (by split <;> simp) (isDigits_paddedDecimal _ _)
    split
    · rename_i single
      rw [List.isEmpty_iff, List.drop_eq_nil_iff] at single
      rw [String.append_empty, List.take_of_length_le single]
      exact .whole (isDigits_ofList some hd)
    · rename_i several
      rw [List.isEmpty_iff, List.drop_eq_nil_iff] at several
      rw [← String.append_assoc]
      exact isFixed_split hd (by omega) (by omega)

theorem isUnsigned_writeScaled (n : Nat) (e : Int) : IsUnsigned (Number.writeScaled n e) := by
  have hd := @isDigit_of_mem_toDigits n
  have some : Nat.toDigits 10 n ≠ [] := Nat.toDigits_ne_nil
  have positive := List.length_pos_iff.mpr some
  unfold Number.writeScaled
  extract_lets digits left place body
  have hbody : IsFixed body := by
    unfold body
    split
    · exact isFixed_small some hd _
    · split
      · exact .whole ((isDigits_ofList some hd).append isDigit_of_mem_zeros)
      · exact isFixed_split hd (by omega) (by omega)
  split
  · exact .fixed hbody
  · exact .scaled hbody (by simp) (by split <;> simp) (isDigits_decimal _)

theorem isNumeral_signedDecimal (n : Int) : IsNumeral (Text.signedDecimal n) := by
  unfold Text.signedDecimal
  split
  · exact (isDigits_decimal _).isNumeral.after (by decide)
  · exact (isDigits_decimal _).isNumeral

theorem isNumeral_binary (format : Number.BinaryFormat) (layout : Number.DecimalLayout)
    (x : Number.Binary) : IsNumeral (x.text format layout) := by
  cases x with
  | nan =>
    show IsNumeral "nan"
    decide
  | infinite negative =>
    show IsNumeral (if negative then "-inf" else "inf")
    cases negative <;> decide
  | finite negative m unit =>
    unfold Number.Binary.text
    dsimp only
    split
    · exact (isUnsigned_write layout (by simp) (by simp) 0).isNumeral.after
        (numeric_sign negative)
    · exact (isUnsigned_write layout Nat.toDigits_ne_nil
        isDigit_of_mem_toDigits _).isNumeral.after (numeric_sign negative)

theorem isNumeral_decimal_text (d : Number.Decimal) : IsNumeral d.text := by
  cases d with
  | finite negative n e =>
    exact (isUnsigned_writeScaled n e).isNumeral.after (numeric_sign negative)
  | infinite negative => exact IsNumeral.after (by decide) (numeric_sign negative)
  | nan negative signaling payload =>
    refine IsNumeral.before (IsNumeral.after ?_ (numeric_sign negative)) ?_
    · cases signaling <;> decide
    · cases payload with
      | none => decide
      | some n => exact (isDigits_decimal n).isNumeral.numeric

/-! ### Numbers as values -/

/-- The numeral of a number; other values have none. -/
def Value.numberText? : Value → Option String
  | .bool b | .fixedBool b => some (if b then "1" else "0")
  | .int n | .fixedInt _ n => some (Text.signedDecimal n)
  | .decimal d => some d.text
  | .float x => some (floatText x)
  | .fixedFloat _ x => some (floatText (x.convert Number.double))
  | .fraction num den => (Number.Binary.ofFraction? num den).map floatText
  | _ => none

theorem isNumeral_of_numberText? {v : Value} {s : String} (h : v.numberText? = some s) :
    IsNumeral s := by
  unfold Value.numberText? at h
  split at h
  case h_1 b | h_2 b =>
    cases h
    cases b <;> decide
  case h_3 n | h_4 n =>
    cases h
    exact isNumeral_signedDecimal n
  case h_5 d =>
    cases h
    exact isNumeral_decimal_text d
  case h_6 x =>
    cases h
    exact isNumeral_binary _ _ x
  case h_7 x =>
    cases h
    exact isNumeral_binary _ _ _
  case h_8 num den =>
    obtain ⟨x, -, rfl⟩ := Option.map_eq_some_iff.mp h
    exact isNumeral_binary _ _ x
  case h_9 => cases h

end Relational

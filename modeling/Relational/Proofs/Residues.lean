import Mathlib.FieldTheory.Finite.Basic
import Mathlib.NumberTheory.LucasLehmer
import Relational.Number.Exact

/-!
# Equal numbers have equal residues

The residue of a number is its numerator over its denominator in the field of residues modulo a
Mersenne prime, times a power of ten, with the sign of the numerator. Numbers that are equal have
equal fractions there, so their residues agree, however they are written: as a quotient of integers,
with a power of two or with a power of ten. Only a denominator that the prime divides has no inverse;
its residue is fixed, and no other denominator gives an equal number in lowest terms.
-/

namespace Relational.Number.Exact

theorem prime_modulus : modulus.Prime := by
  have prime : (mersenne 61).Prime := lucas_lehmer_sufficiency 61 (by norm_num) (by norm_num)
  exact prime

instance : Fact modulus.Prime := ⟨prime_modulus⟩

/-! ### Powers and inverses -/

theorem cast_powMod {fuel exponent : Nat} (base : Nat) (h : exponent < 2 ^ fuel) :
    (powMod fuel base exponent : ZMod modulus) = (base : ZMod modulus) ^ exponent := by
  induction fuel generalizing base exponent with
  | zero =>
    obtain rfl : exponent = 0 := by omega
    simp [powMod]
  | succ fuel ih =>
    have half : exponent / 2 < 2 ^ fuel := by omega
    have squares : (powMod fuel (base * base % modulus) (exponent / 2) : ZMod modulus) =
        (base : ZMod modulus) ^ (2 * (exponent / 2)) := by
      rw [ih _ half, ZMod.natCast_mod, Nat.cast_mul, ← sq, ← pow_mul]
    have split : 2 * (exponent / 2) + exponent % 2 = exponent := Nat.div_add_mod exponent 2
    simp only [powMod]
    split
    · rw [ZMod.natCast_mod, Nat.cast_mul, squares, ← pow_succ']
      congr 1
      omega
    · rw [squares]
      congr 1
      omega

theorem pow_sub_two (x : ZMod modulus) : x ^ (modulus - 2) = x⁻¹ := by
  by_cases hx : x = 0
  · subst hx
    rw [inv_zero, zero_pow (by decide)]
  · refine eq_inv_of_mul_eq_one_left ?_
    rw [← pow_succ]
    exact ZMod.pow_card_sub_one_eq_one hx

theorem cast_inverseMod (n : Nat) : (inverseMod n : ZMod modulus) = (n : ZMod modulus)⁻¹ := by
  rw [inverseMod, cast_powMod _ (by decide), ZMod.natCast_mod, pow_sub_two]

theorem ten_ne_zero : (10 : ZMod modulus) ≠ 0 := by
  have not_dvd : ¬ modulus ∣ 10 := by decide
  exact_mod_cast mt (ZMod.natCast_eq_zero_iff 10 modulus).mp not_dvd

theorem cast_tenMod (p : Int) : (tenMod p : ZMod modulus) = (10 : ZMod modulus) ^ p := by
  -- Exponents count modulo the order of the group, which has `modulus - 1` elements.
  have reduced (x : ZMod modulus) (hx : x ≠ 0) (k : Nat) : x ^ (k % (modulus - 1)) = x ^ k :=
    (pow_eq_pow_mod k (ZMod.pow_card_sub_one_eq_one hx)).symm
  have bound (k : Nat) : k % (modulus - 1) < 2 ^ 61 := by
    have : k % (modulus - 1) < modulus - 1 := Nat.mod_lt _ (by decide)
    have : modulus - 1 < 2 ^ 61 := by decide
    omega
  cases p with
  | ofNat k =>
    rw [tenMod, cast_powMod _ (bound k), Nat.cast_ofNat, reduced _ ten_ne_zero, Int.ofNat_eq_natCast,
      zpow_natCast]
  | negSucc k =>
    rw [tenMod, cast_powMod _ (bound _), cast_inverseMod, Nat.cast_ofNat,
      reduced _ (inv_ne_zero ten_ne_zero), inv_pow, zpow_negSucc]

/-! ### Equality of exact values -/

theorem equalScaled_iff {a b : Int} {k : Nat} : equalScaled a k b = true ↔ a * 10 ^ k = b := by
  have ten : ((Nat.pow 10 k : Nat) : Int) = 10 ^ k := Nat.cast_pow 10 k
  unfold equalScaled
  split
  · rename_i zero
    rw [Bool.or_eq_true, beq_iff_eq, beq_iff_eq] at zero
    have positive : (10 : Int) ^ k ≠ 0 := by positivity
    rw [beq_iff_eq]
    rcases zero with rfl | rfl
    · rw [zero_mul]
    · rw [mul_eq_zero, or_iff_left positive]
  · rename_i nonzero
    rw [Bool.or_eq_true, beq_iff_eq, beq_iff_eq, not_or] at nonzero
    split
    · rename_i large
      -- The power alone exceeds `b`, and `a` is at least one in size.
      refine iff_of_false Bool.false_ne_true fun e => ?_
      have power : b.natAbs < 10 ^ k :=
        calc b.natAbs < 2 ^ k := (Nat.log2_lt (Int.natAbs_ne_zero.mpr nonzero.2)).mp large
          _ ≤ 10 ^ k := Nat.pow_le_pow_left (by decide) k
      have product : b.natAbs = a.natAbs * 10 ^ k := by
        rw [← e, Int.natAbs_mul, Int.natAbs_pow]
        rfl
      have least : 1 ≤ a.natAbs := Int.natAbs_pos.mpr nonzero.1
      have := Nat.le_mul_of_pos_left (10 ^ k) least
      omega
    · rw [beq_iff_eq, ten]

/-- Equal quotients with powers of ten, multiplied out. -/
theorem cross_eq_of_same {a c p q : Int} {b d : Nat}
    (h : (finite a b p).same (finite c d q) = true) :
    a * d * 10 ^ (p - q).toNat = c * b * 10 ^ (q - p).toNat := by
  unfold same at h
  dsimp only at h
  split at h
  · have none : (q - p).toNat = 0 := by omega
    rw [equalScaled_iff.mp h, none, pow_zero, mul_one]
  · have none : (p - q).toNat = 0 := by omega
    rw [equalScaled_iff.mp h, none, pow_zero, mul_one]

/-- The denominator is positive, and the modulus does not divide both parts of the quotient. -/
def IsReduced : Exact → Prop
  | .finite n d _ => 0 < d ∧ (modulus ∣ d → ¬ modulus ∣ n.natAbs)
  | _ => True

theorem sign_eq_of_same {a c p q : Int} {b d : Nat} (hb : 0 < b) (hd : 0 < d)
    (h : (finite a b p).same (finite c d q) = true) : a < 0 ↔ c < 0 := by
  have left : 0 < (d : Int) * 10 ^ (p - q).toNat := by positivity
  have right : 0 < (b : Int) * 10 ^ (q - p).toNat := by positivity
  have cross := cross_eq_of_same h
  rw [mul_assoc, mul_assoc] at cross
  constructor
  · intro negative
    exact neg_of_mul_neg_left (cross ▸ mul_neg_of_neg_of_pos negative left) right.le
  · intro negative
    exact neg_of_mul_neg_left (cross.symm ▸ mul_neg_of_neg_of_pos negative right) left.le

/-- If the modulus divides one denominator of two equal numbers, it divides the other one. -/
theorem dvd_of_cross_eq {a c : Int} {b d i j : Nat} (reduced : modulus ∣ b → ¬ modulus ∣ a.natAbs)
    (cross : a * d * 10 ^ i = c * b * 10 ^ j) (divides : modulus ∣ b) : modulus ∣ d := by
  have sizes := congrArg Int.natAbs cross
  simp only [Int.natAbs_mul, Int.natAbs_pow, Int.natAbs_natCast] at sizes
  have product : modulus ∣ a.natAbs * d * (10 : Int).natAbs ^ i := by
    rw [sizes]
    exact Dvd.dvd.mul_right (Dvd.dvd.mul_left divides _) _
  rcases prime_modulus.dvd_mul.mp product with first | power
  · exact (prime_modulus.dvd_mul.mp first).resolve_left (reduced divides)
  · exact absurd (prime_modulus.dvd_of_dvd_pow power) (by decide)

/-- In the field of residues, equal numbers have equal sizes. -/
theorem magnitude_eq_of_same {a c p q : Int} {b d : Nat}
    (h : (finite a b p).same (finite c d q) = true) (hb : ¬ modulus ∣ b) (hd : ¬ modulus ∣ d) :
    (a.natAbs : ZMod modulus) * (b : ZMod modulus)⁻¹ * 10 ^ p =
      c.natAbs * (d : ZMod modulus)⁻¹ * 10 ^ q := by
  have cross := congrArg (fun n : Int => (n.natAbs : ZMod modulus)) (cross_eq_of_same h)
  simp only [Int.natAbs_mul, Int.natAbs_pow, Int.natAbs_natCast] at cross
  push_cast at cross
  have hb' : (b : ZMod modulus) ≠ 0 := mt (ZMod.natCast_eq_zero_iff b modulus).mp hb
  have hd' : (d : ZMod modulus) ≠ 0 := mt (ZMod.natCast_eq_zero_iff d modulus).mp hd
  have powers : (10 : ZMod modulus) ^ p * 10 ^ (q - p).toNat =
      10 ^ q * 10 ^ (p - q).toNat := by
    rw [← zpow_natCast, ← zpow_natCast, ← zpow_add₀ ten_ne_zero, ← zpow_add₀ ten_ne_zero]
    congr 1
    omega
  have product : (a.natAbs : ZMod modulus) * d * 10 ^ p = c.natAbs * b * 10 ^ q := by
    refine mul_right_cancel₀ (pow_ne_zero (p - q).toNat ten_ne_zero) ?_
    linear_combination (10 : ZMod modulus) ^ p * cross + (c.natAbs : ZMod modulus) * b * powers
  field_simp
  linear_combination product

/-! ### Residues -/

/-- The size of a residue. -/
def magnitude (n : Int) (d : Nat) (p : Int) : Nat :=
  if d % modulus = 0 then 314159
  else n.natAbs % modulus * inverseMod d % modulus * tenMod p % modulus

theorem residue?_finite (n : Int) (d : Nat) (p : Int) :
    (finite n d p).residue? = some (reserve (withSign (n < 0) (magnitude n d p))) := rfl

theorem cast_magnitude {n : Int} {d : Nat} (p : Int) (hd : ¬ modulus ∣ d) :
    (magnitude n d p : ZMod modulus) = n.natAbs * (d : ZMod modulus)⁻¹ * 10 ^ p := by
  rw [magnitude, if_neg (mt Nat.dvd_of_mod_eq_zero hd)]
  simp only [ZMod.natCast_mod, Nat.cast_mul, cast_inverseMod, cast_tenMod]

theorem magnitude_lt (n : Int) (d : Nat) (p : Int) : magnitude n d p < modulus := by
  unfold magnitude
  split
  · decide
  · exact Nat.mod_lt _ prime_modulus.pos

/-- Equal numbers have equal residues. -/
theorem residue?_eq_of_same {x y : Exact} (hx : x.IsReduced) (hy : y.IsReduced)
    (h : x.same y = true) : x.residue? = y.residue? := by
  cases x with
  | nan => cases h
  | infinite negative =>
    cases y with
    | infinite negative' => rw [eq_of_beq (a := negative) h]
    | nan | finite => cases h
  | finite a b p =>
    cases y with
    | nan | infinite => cases h
    | finite c d q =>
      have cross := cross_eq_of_same h
      have sign : decide (a < 0) = decide (c < 0) := decide_eq_decide.mpr (sign_eq_of_same hx.1 hy.1 h)
      have sizes : magnitude a b p = magnitude c d q := by
        by_cases hb : modulus ∣ b
        · have hd := dvd_of_cross_eq hx.2 cross hb
          rw [magnitude, magnitude, if_pos (Nat.mod_eq_zero_of_dvd hb),
            if_pos (Nat.mod_eq_zero_of_dvd hd)]
        · have hd := mt (dvd_of_cross_eq hy.2 cross.symm) hb
          have cast : (magnitude a b p : ZMod modulus) = magnitude c d q := by
            rw [cast_magnitude p hb, cast_magnitude q hd, magnitude_eq_of_same h hb hd]
          have residues := (ZMod.natCast_eq_natCast_iff' _ _ _).mp cast
          rwa [Nat.mod_eq_of_lt (magnitude_lt a b p), Nat.mod_eq_of_lt (magnitude_lt c d q)]
            at residues
      rw [residue?_finite, residue?_finite, sizes, sign]

/-- Residues are small, and the reserved one does not occur. -/
theorem residue?_bounds {x : Exact} {r : Int} (h : x.residue? = some r) :
    -modulus ≤ r ∧ r < modulus ∧ r ≠ -1 := by
  have bounds (negative : Bool) {n : Nat} (hn : n < modulus) :
      -modulus < withSign negative n ∧ withSign negative n < modulus := by
    unfold withSign
    split <;> omega
  cases x with
  | nan => cases h
  | infinite negative =>
    cases h
    cases negative <;> decide
  | finite n d p =>
    rw [residue?_finite] at h
    cases h
    obtain ⟨low, high⟩ := bounds (n < 0) (magnitude_lt n d p)
    have large : 2 < (modulus : Int) := by decide
    unfold reserve
    split <;> omega

end Relational.Number.Exact

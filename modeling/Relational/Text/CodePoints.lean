/-!
# Sets of characters

A set of characters is kept as the ascending list of the code points at which membership changes,
starting outside the set.
-/

namespace Relational.Text

/-- Membership of a point in the set that starts with `inside` and changes at each listed point. -/
def toggled (inside : Bool) : List Nat → Nat → Bool
  | [], _ => inside
  | b :: bs, n => if n < b then inside else toggled (!inside) bs n

/-- Membership of a character in the set given by its points of change. -/
def inSet (changes : List Nat) (c : Char) : Bool := toggled false changes c.toNat

theorem toggled_of_lt {inside : Bool} {b : Nat} {bs : List Nat} {n : Nat} (h : n < b) :
    toggled inside (b :: bs) n = inside := by
  simp [toggled, h]

theorem toggled_of_le {inside : Bool} {b : Nat} {bs : List Nat} {n : Nat} (h : b ≤ n) :
    toggled inside (b :: bs) n = toggled (!inside) bs n := by
  simp [toggled, Nat.not_lt.mpr h]

end Relational.Text

import Relational.Number.Rounded

/-!
# Square roots

The square root of a quotient is rounded to the nearest double. The size of a complex number is the
root of the sum of the squares of its parts.
-/

namespace Relational.Number

/-- Extend the leading bits of the integer part of a root by the given number of bits. -/
def rootBits (n : Nat) : Nat → Nat → Nat
  | 0, root => root
  | bits + 1, root =>
    let candidate := root + Nat.pow 2 bits
    rootBits n bits (if candidate * candidate ≤ n then candidate else root)

/-- The greatest natural number whose square is at most the given one. -/
def rootFloor (n : Nat) : Nat := rootBits n (n.log2 / 2 + 1) 0

/-- The double nearest to the root of a quotient. At least sixty-five bits of the root are found; a
last bit stands for all that follow. -/
def Binary.root (num den : Nat) : Binary :=
  let shift := den.log2 + 130 - num.log2
  let scaled := num * Nat.pow 4 shift
  let root := rootFloor (scaled / den)
  let rest := if root * root * den = scaled then 0 else 1
  .ofQuotient double false (2 * root + rest) (2 * Nat.pow 2 shift)

/-- The size of a complex number. It is infinite if one of the parts is. -/
def Binary.size : Binary → Binary → Binary
  | .infinite _, _ | _, .infinite _ => .infinite false
  | .finite _ a u, .finite _ b v =>
    let (n, d) := Binary.ratio a u
    let (m, e) := Binary.ratio b v
    .root (n * n * (e * e) + m * m * (d * d)) (d * d * (e * e))
  | _, _ => .nan

end Relational.Number

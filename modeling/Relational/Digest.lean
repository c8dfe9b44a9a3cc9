import Relational.Number.Exact

/-!
# Digests

A digest is what a hash may depend on: equal values have equal digests, numbers of all kinds
included. The hash of a number is known, and so is that of a sequence of numbers; the hash of data
is known only to be the same for the same data. Text counts as the data of its characters in the
narrowest encoding with a fixed width.
-/

namespace Relational

/-- The part of a value on which its hash depends. -/
inductive Digest where
  | number (n : Int)
  | data (bytes : List UInt8)
  | word (name : String)
  | unique
  | reduced (d : Digest)
  | sequence (ds : List Digest)

namespace Digest

mutual

/-- Equality of digests; a unique digest equals none. -/
def same : Digest → Digest → Bool
  | .number a, .number b => a == b
  | .data a, .data b => a == b
  | .word s, .word t => s == t
  | .reduced d, .reduced e => d.same e
  | .sequence ds, .sequence es => sameAll ds es
  | _, _ => false
termination_by structural d => d

/-- Equality of digests place by place. -/
def sameAll : List Digest → List Digest → Bool
  | [], [] => true
  | d :: ds, e :: es => d.same e && sameAll ds es
  | _, _ => false
termination_by structural ds => ds

end

/-- The digest of an exact number. -/
def ofExact (x : Number.Exact) : Digest :=
  match x.residue? with
  | some r => .number r
  | none => .unique

/-- The digest of an integer. -/
def ofInt (n : Int) : Digest := ofExact (.quotient n 1)

/-- The digest of data; that of no data is zero. -/
def ofBytes (bytes : List UInt8) : Digest := if bytes.isEmpty then .number 0 else .data bytes

/-- The low bytes of a number, the lowest first. -/
def lowBytes : Nat → Nat → List UInt8
  | 0, _ => []
  | count + 1, n => UInt8.ofNat (n % 256) :: lowBytes count (n / 256)

/-- The bytes of a character in the narrowest fixed width that holds all characters up to a
greatest one. -/
def characterWidth (greatest : Nat) : Nat :=
  if greatest < 0x100 then 1 else if greatest < 0x10000 then 2 else 4

/-- The digest of a text: that of the data of its characters. -/
def ofText (s : String) : Digest :=
  let codes := s.toList.map Char.toNat
  ofBytes (codes.flatMap (lowBytes (characterWidth (codes.foldl max 0))))

/-- The words of which sequences are mixed have 64 bits. -/
def wordSize : Nat := 18446744073709551616

/-- Rotate a word to the left by 31 places. -/
def rotateWord (n : Nat) : Nat := (n * 2147483648 + n / 8589934592) % wordSize

/-- Mix the next number into the sequence mixed so far. -/
def mixNumber (mixed : Nat) (n : Int) : Nat :=
  let lane := (n % (wordSize : Int)).toNat
  rotateWord ((mixed + lane * 14029467366897019727) % wordSize) * 11400714785074694791 % wordSize

/-- The number for a sequence of numbers. -/
def mixNumbers (ns : List Int) : Int :=
  let start := 2870177450012600261
  let mixed := ns.foldl mixNumber start
  let total := (mixed + Nat.xor ns.length (Nat.xor start 3527539)) % wordSize
  if total = wordSize - 1 then 1546275796
  else if total < 9223372036854775808 then total else (total : Int) - wordSize

/-- The number of a digest, if it is known. -/
def number? : Digest → Option Int
  | .number n => some n
  | _ => none

/-- The digest of a sequence. -/
def tuple (ds : List Digest) : Digest :=
  match ds.mapM number? with
  | some ns => .number (mixNumbers ns)
  | none => .sequence ds

/-- The digest of a digest taken as an integer. -/
def reduce : Digest → Digest
  | .number n => ofInt n
  | .unique => .unique
  | d => .reduced d

end Digest
end Relational

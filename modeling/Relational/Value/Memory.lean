import Relational.Value.Array

/-!
# Values in memory

Data, scalars of fixed width and arrays occupy bytes, the low ones first. Growable data is compared
with all of them byte by byte.
-/

namespace Relational

/-- The bytes of an integer of the given width. -/
def wordBytes (width : Nat) (n : Int) : List UInt8 :=
  Digest.lowBytes width (n % (Nat.pow 256 width : Nat)).toNat

/-- The bytes of a floating-point number. -/
def FloatType.bytes (type : FloatType) (x : Number.Binary) : List UInt8 :=
  Digest.lowBytes type.width (x.bits type.format type.width)

namespace Value

/-- The bytes of a value that occupies some. Integers of any size lie elsewhere, so the bytes of an
array of them are not known. -/
def memory? : Value → Option (List UInt8)
  | .bytes _ data => some data
  | .fixedInt type n => some (wordBytes type.width n)
  | .fixedBool b => some [if b then 1 else 0]
  | .fixedFloat type x => some (type.bytes x)
  | .fixedText s => some (s.toList.flatMap fun c => Digest.lowBytes 4 c.toNat)
  | .fixedDate t => some (wordBytes 8 t.word)
  | .array ns =>
    match elementType ns with
    | .signed | .unsigned => some (ns.flatMap (wordBytes 8))
    | .float => some (ns.flatMap fun n => FloatType.float64.bytes (.ofInt n))
    | .large => none
  | _ => none

end Value
end Relational

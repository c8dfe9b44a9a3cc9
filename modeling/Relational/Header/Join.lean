import Relational.Header

/-!
# Joins of headers

The natural join matches the attributes that both headers have. Matched attributes must not be blobs
and their types must agree; a key attribute of either side is a key attribute of the join.
-/

namespace Relational

namespace Header

/-- The names that occur in both headers, in the order of the first. -/
def common (h k : Header) : List String := h.names.filter k.contains

/-- Whether the attribute of the given name is a blob. -/
def isBlobNamed (h : Header) (name : String) : Bool := (h.find? name).any Attribute.isBlob

/-- The common names that are blobs on either side. -/
def commonBlobs (h k : Header) : List String :=
  (h.common k).filter fun name => h.isBlobNamed name || k.isBlobNamed name

/-- The first common name whose types are known and different, with the types. -/
def mismatch? (h k : Header) : Option (String × ColumnType × ColumnType) :=
  (h.common k).findSome? fun name =>
    match h.find? name, k.find? name with
    | some a, some b =>
      if a.type.isKnown && b.type.isKnown && a.type != b.type then some (name, a.type, b.type)
      else none
    | _, _ => none

/-- The attributes of the join: the keys of the first header, those of the second that are new, and
the dependents in the same way. An attribute that is a key on the other side counts as a key. -/
def joinedAttributes (h k : Header) : List Attribute :=
  let isRightKey := fun (a : Attribute) => k.primaryKey.contains a.outputName
  (h.attributes.filter fun a => a.isKey || isRightKey a).map
      (fun a => if isRightKey a then { a with isKey := true } else a) ++
    (k.attributes.filter fun a => a.isKey && !h.contains a.outputName) ++
    (h.attributes.filter fun a => !a.isKey && !isRightKey a) ++
    (k.attributes.filter fun a => !a.isKey && !h.contains a.outputName)

/-- The header of the natural join. -/
def join (h k : Header) : Except Error Header :=
  match h.commonBlobs k, h.mismatch? k with
  | [], none => Header.ofAttributes (h.joinedAttributes k)
  | [], some (name, left, right) => .error (.typeMismatch name left right)
  | names, _ => .error (.blobJoinKey names)

end Header
end Relational

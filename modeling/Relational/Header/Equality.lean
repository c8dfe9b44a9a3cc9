import Relational.Header
import Relational.Value.Equality

/-!
# Equality of headers

Headers are equal if their attributes are, place by place. Attributes are equal if all their fields
are; comments are compared as values.
-/

namespace Relational

/-- An optional text as a value. -/
def Value.ofOption : Option String → Value
  | some s => .text s
  | none => .null

namespace Attribute

/-- The fields of an attribute in order. -/
def fields (a : Attribute) : List Value :=
  [a.givenName.getD (.text a.name), .text a.type.name, .text a.sqlType, .bool a.isKey,
    .bool a.nullable, .ofOption a.default, a.comment, .text a.aliasName, .ofOption a.expression,
    .bool a.autoIncrement]

end Attribute

namespace Header

/-- Equality of headers. -/
def same (h k : Header) : Report Bool :=
  Value.sameAll false (h.attributes.map fun a => .tuple a.fields)
    (k.attributes.map fun a => .tuple a.fields)

end Header
end Relational

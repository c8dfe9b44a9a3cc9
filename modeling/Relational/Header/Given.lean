import Relational.Header.Describe

/-!
# Columns whose names are no texts

A server may name a column by a value of another kind. Such a column has no quoted name, so no
statement can select it, and only some such names can be laid out in a description.
-/

namespace Relational

namespace Attribute

/-- The name under which an attribute is visible, as a value. -/
def outputValue (a : Attribute) : Value :=
  if a.aliasName = "" then a.givenName.getD (.text a.name) else .text a.aliasName

/-- Why the name of an attribute cannot be quoted: it has no text. A name that counts as false is
left out. -/
def quoteFault? (a : Attribute) : Option Fault :=
  match a.givenName with
  | some (.bytes false data) => if data.isEmpty then none else some .wrongType
  | some v => if v.truthy then some .missingMember else none
  | none => none

/-- Whether a name can be laid out at the head of a line: texts and real numbers can. -/
def isAligned (a : Attribute) : Bool :=
  match a.outputValue with
  | .text _ | .fixedText _ => true
  | v => a.isKey && v.quantity?.isSome

end Attribute

namespace Header

/-- The output names of the attributes that satisfy a condition, as values. -/
def outputValues (h : Header) (p : Attribute → Bool) : List Value :=
  (h.attributes.filter p).map Attribute.outputValue

/-- Check that all names can be quoted. -/
def checkQuotable (h : Header) : Except Error Unit :=
  match h.attributes.findSome? Attribute.quoteFault? with
  | some fault => .error (.fault fault)
  | none => .ok ()

/-- Check that all names are texts. -/
def checkTextual (h : Header) : Except Error Unit := do
  h.checkQuotable
  if h.attributes.any (·.outputValue.text?.isNone) then throw (.fault .wrongType)

/-- The description of a header whose names can be laid out. -/
def described (h : Header) : Except Error String :=
  h.describeBy fun a => if a.isAligned then a.descriptionLine else .error (.fault .wrongType)

end Header
end Relational

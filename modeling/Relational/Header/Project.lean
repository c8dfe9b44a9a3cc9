import Relational.Header
import Relational.Attribute.Spec

/-!
# Projection of headers

A projection keeps the key, the attributes that are mentioned, and adds computed ones.
Specifications are read and applied from left to right; the first one at fault decides the error.
-/

namespace Relational

namespace Header

/-- An attribute of the projected header: its name there, how it will appear, and whether it is
kept. -/
structure Slot where
  source : String
  column : Attribute
  kept : Bool

/-- The state of a projection: the given attributes and those computed so far. -/
structure Selection where
  slots : List Slot
  computed : List Attribute

namespace Selection

/-- Before any specification the key attributes are kept. -/
def start (h : Header) : Selection :=
  ⟨h.attributes.map fun a => ⟨a.outputName, a, a.isKey⟩, []⟩

/-- Keep every attribute. -/
def keepAll (s : Selection) : Selection :=
  { s with slots := s.slots.map fun slot => { slot with kept := true } }

/-- Keep the attribute with the given name, after changing it. -/
def keep (s : Selection) (source : String) (change : Attribute → Attribute) : Selection :=
  { s with
    slots := s.slots.map fun slot =>
      if slot.source = source then { slot with column := change slot.column, kept := true }
      else slot }

/-- Add a computed attribute. -/
def add (s : Selection) (expression target : String) : Selection :=
  { s with computed := s.computed ++ [.compute expression target] }

/-- The attributes kept, followed by the computed ones. -/
def attributes (s : Selection) : List Attribute :=
  (s.slots.filter Slot.kept).map Slot.column ++ s.computed

/-- Apply a specification to a selection from the header `h`. -/
def apply (h : Header) (s : Selection) : Spec → Except Error Selection
  | .wildcard => .ok s.keepAll
  | .plain source =>
    if h.contains source then .ok (s.keep source id)
    else .error (.unknownAttribute source h.names)
  | .rename source target =>
    if target ≠ source ∧ h.contains target then .error (.duplicateAttribute target)
    else if h.contains source then .ok (s.keep source fun a => { a with aliasName := target })
    else .error (.unknownAttribute source h.names)
  | .compute expression target =>
    if h.contains target then .error (.duplicateAttribute target)
    else .ok (s.add expression target)

/-- Read and apply specifications from left to right. -/
def applyAll (h : Header) (s : Selection) : List String → Except Error Selection
  | [] => .ok s
  | text :: rest => do
    let spec ← Spec.parse text
    let s ← s.apply h spec
    s.applyAll h rest

end Selection

/-- Project a header by a list of specifications. -/
def project (h : Header) (specs : List String) : Except Error Header := do
  let s ← (Selection.start h).applyAll h specs
  Header.ofAttributes s.attributes

end Header
end Relational

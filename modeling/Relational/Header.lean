import Relational.Error

/-!
# Headers

A header is the ordered list of the attributes of a relation. No two attributes have the same
output name; the invariant is part of the type.
-/

namespace Relational

/-- The first text of a list that occurred before, counting those of `seen`. -/
def firstRepeat? (seen : List String) : List String → Option String
  | [] => none
  | s :: rest => if s ∈ seen then some s else firstRepeat? (s :: seen) rest

theorem firstRepeat?_eq_none_iff {seen names : List String} :
    firstRepeat? seen names = none ↔ names.Nodup ∧ ∀ s ∈ names, s ∉ seen := by
  induction names generalizing seen with
  | nil => simp [firstRepeat?]
  | cons s rest ih =>
    by_cases h : s ∈ seen
    · simp [firstRepeat?, h]
    · simp only [firstRepeat?, h, if_false, ih, List.nodup_cons, List.mem_cons, not_or]
      constructor
      · rintro ⟨hn, hs⟩
        refine ⟨⟨fun hm => (hs s hm).1 rfl, hn⟩, ?_⟩
        rintro t (rfl | ht)
        · exact h
        · exact (hs t ht).2
      · rintro ⟨⟨hs, hn⟩, hall⟩
        exact ⟨hn, fun t ht => ⟨fun e => hs (e ▸ ht), hall t (.inr ht)⟩⟩

/-- The ordered attributes of a relation, with pairwise different output names. -/
structure Header where
  attributes : List Attribute
  nodup : (attributes.map Attribute.outputName).Nodup

namespace Header

/-- The header with the given attributes, unless an output name is repeated. -/
def ofAttributes (attributes : List Attribute) : Except Error Header :=
  match h : firstRepeat? [] (attributes.map Attribute.outputName) with
  | none => .ok ⟨attributes, (firstRepeat?_eq_none_iff.mp h).1⟩
  | some name => .error (.duplicateAttribute name)

/-- The output names of all attributes. -/
def names (h : Header) : List String := h.attributes.map Attribute.outputName

/-- The names of the key attributes. -/
def primaryKey (h : Header) : List String :=
  (h.attributes.filter Attribute.isKey).map Attribute.outputName

/-- The names of the attributes outside the key. -/
def dependents (h : Header) : List String :=
  (h.attributes.filter (!·.isKey)).map Attribute.outputName

/-- The names of the attributes with binary data. -/
def blobs (h : Header) : List String :=
  (h.attributes.filter Attribute.isBlob).map Attribute.outputName

/-- The names of the attributes without binary data. -/
def nonBlobs (h : Header) : List String :=
  (h.attributes.filter (!·.isBlob)).map Attribute.outputName

/-- Whether some attribute still has to be enclosed. -/
def hasAliases (h : Header) : Bool := h.attributes.any Attribute.isAliased

/-- The attribute with the given output name. -/
def find? (h : Header) (name : String) : Option Attribute :=
  h.attributes.find? (·.outputName == name)

/-- The attribute with the given output name; the others are listed if there is none. -/
def get (h : Header) (name : String) : Except Error Attribute :=
  match h.find? name with
  | some a => .ok a
  | none => .error (.unknownAttribute name h.names)

/-- The name that a label is, and the attribute with that output name. A position names none. -/
def getLabel (h : Header) : Label → Except Error (String × Attribute)
  | .name s => do return (s, ← h.get s)
  | .position n => .error (.unknownAttribute (Text.signedDecimal n) h.names)

/-- Whether some attribute has the given output name. -/
def contains (h : Header) (name : String) : Bool := (h.find? name).isSome

/-- Resolve all aliases, as an enclosing subquery does. -/
def stripAliases (h : Header) : Header where
  attributes := h.attributes.map Attribute.resolve
  nodup := by
    have e : Attribute.outputName ∘ Attribute.resolve = Attribute.outputName := by
      funext a; simp
    simpa [e] using h.nodup

@[simp] theorem names_stripAliases (h : Header) : h.stripAliases.names = h.names := by
  simp [names, stripAliases]

@[simp] theorem hasAliases_stripAliases (h : Header) : h.stripAliases.hasAliases = false := by
  simp [hasAliases, stripAliases, Attribute.isAliased]

/-- The key, and after a bar the other attributes if there are any. -/
def label (h : Header) : String :=
  let key := Text.joinWith ", " h.primaryKey
  let dependents := Text.joinWith ", " h.dependents
  if dependents = "" then "(" ++ key ++ ")" else "(" ++ key ++ " | " ++ dependents ++ ")"

end Header
end Relational

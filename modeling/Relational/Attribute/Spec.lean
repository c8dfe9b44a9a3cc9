import Relational.Error

/-!
# Attribute specifications

A specification names an attribute, asks for all of them with an asterisk, or has the form
`source->target`. The source of an arrow is renamed if it is an identifier and computed otherwise.
The last arrow counts, so a source may contain arrows itself.
-/

namespace Relational

/-- What a specification asks for. -/
inductive Spec where
  | plain (name : String)
  | wildcard
  | rename (source target : String)
  | compute (source target : String)
  deriving DecidableEq, Repr

namespace Spec

/-- The name that the specified attribute has in the output. -/
def outputName : Spec → String
  | .plain name => name
  | .wildcard => "*"
  | .rename _ target => target
  | .compute _ target => target

/-- The name of a kind of specification. -/
def kind : Spec → String
  | .plain _ => "plain"
  | .wildcard => "wildcard"
  | .rename .. => "rename"
  | .compute .. => "compute"

/-- The attribute or expression that a specification starts from. -/
def source : Spec → String
  | .plain name => name
  | .wildcard => "*"
  | .rename source _ => source
  | .compute source _ => source

/-- The new name that a specification gives, or nothing. -/
def target : Spec → String
  | .plain _ | .wildcard => ""
  | .rename _ target => target
  | .compute _ target => target

/-- Whether a text begins like a name: with an ASCII letter or an underscore. -/
def beginsName : List Char → Bool
  | [] => false
  | c :: _ => Text.isNameStart c

/-- Split reversed text at its last word: the word itself and what precedes it, reversed. -/
def lastWord (reversed : List Char) : List Char × List Char :=
  ((reversed.takeWhile Text.isWord).reverse, reversed.dropWhile Text.isWord)

/-- Remove an arrow and the blanks around it from the start of reversed text. -/
def dropArrow? (reversed : List Char) : Option (List Char) :=
  match reversed.dropWhile Text.isBlank with
  | '>' :: '-' :: rest => some (rest.dropWhile Text.isBlank)
  | _ => none

/-- Split trimmed text into a source and a target at its last arrow. The target is a name and the
source is not empty. -/
def splitArrow? (cs : List Char) : Option (List Char × List Char) :=
  let (target, rest) := lastWord cs.reverse
  if beginsName target then
    match dropArrow? rest with
    | some (c :: source) => some ((c :: source).reverse, target)
    | _ => none
  else none

/-- Read a specification; blanks around it are ignored. -/
def parse (text : String) : Except Error Spec :=
  match Text.trim text.toList with
  | [] => .error .emptySpec
  | ['*'] => .ok .wildcard
  | cs =>
    match splitArrow? cs with
    | none => .ok (.plain (String.ofList cs))
    | some (source, target) =>
      if isPlainName source then .ok (.rename (String.ofList source) (String.ofList target))
      else .ok (.compute (String.ofList source) (String.ofList target))

end Spec
end Relational

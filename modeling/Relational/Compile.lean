import Relational.Expr
import Relational.Header.Join
import Relational.Header.Project
import Relational.Literal

/-!
# Compilation of expressions

An expression compiles to its header and the fragment that computes it. A consumer says when the
fragment must be enclosed in a subquery; enclosing also turns aliases into columns. Restrictions
become a `WHERE` clause, which needs a fragment without aliases and without such a clause of its
own, so other fragments are enclosed first.
-/

namespace Relational

/-- When a compiled fragment has to be enclosed in a subquery. -/
inductive Enclosure where
  /-- Never. -/
  | never
  /-- If attributes are still aliased. -/
  | aliased
  /-- Unless the expression is a table or a join without restrictions. -/
  | derived
  /-- If the expression is an aggregation. -/
  | aggregate
  deriving DecidableEq, Repr

/-- The enclosure with the given name. -/
def Enclosure.ofName? : String → Option Enclosure
  | "never" => some .never
  | "aliased" => some .aliased
  | "derived" => some .derived
  | "aggregate" => some .aggregate
  | _ => none

/-- The reason for which a subquery gets an alias, which its alias shows. -/
inductive AliasKind where
  | restricted
  | enclosed
  | matched
  deriving DecidableEq, Repr

/-- The letter of a kind of alias. -/
def AliasKind.letter : AliasKind → String
  | .restricted => "s"
  | .enclosed => "a"
  | .matched => "u"

/-- What is shared while a statement is compiled: the stem of all aliases, the number of the next
one, and the notices so far. -/
structure Context where
  stem : String := "$"
  next : Nat := 1
  notices : List Notice := []

/-- Compilation draws aliases, reports notices and may fail; both survive a failure. -/
abbrev Compiler := ExceptT Error (StateM Context)

/-- The alias with the given stem, kind and number. -/
def freshAlias (stem kind : String) (n : Nat) : String := stem ++ kind ++ Text.hexadecimal n

/-- Draw the next alias. -/
def drawAlias (kind : String) : Compiler String := do
  let c ← getThe Context
  set { c with next := c.next + 1 }
  return freshAlias c.stem kind c.next

/-- Take over the outcome and the notices of a report. -/
def liftReport {α : Type} (r : Report α) : Compiler α := do
  let (outcome, notices) := r.run.run []
  modifyThe Context fun c => { c with notices := c.notices ++ notices }
  outcome

/-- The header of a relation and the fragment that computes it. -/
structure Compiled where
  header : Header
  source : Sql.Fragment

namespace Compiled

/-- The select list of a relation. -/
def columns (c : Compiled) : List Sql.Column := c.header.attributes.map Sql.Column.ofAttribute

/-- The statement that delivers a relation. -/
def statement (c : Compiled) (suffix : String) : Sql.Statement := ⟨c.columns, c.source, suffix⟩

/-- Enclose a fragment in a subquery under the given alias. -/
def enclose (c : Compiled) (aliasName : String) : Compiled :=
  ⟨c.header.stripAliases, .derived c.columns c.source aliasName⟩

/-- Enclose a fragment under a new alias if a condition holds. -/
def encloseIf (c : Compiled) (needed : Bool) (kind : AliasKind) : Compiler Compiled := do
  if needed then return c.enclose (← drawAlias kind.letter) else return c

/-- Append a `WHERE` clause, if there is one. -/
def filter (c : Compiled) : Option Sql.Cond → Compiled
  | none => c
  | some condition => ⟨c.header, .filter c.source condition⟩

end Compiled

/-- A condition in parentheses, negated if asked for. -/
def bracket (negated : Bool) (c : Sql.Cond) : Sql.Cond := if negated then .not c else .paren c

/-- The condition of a restrictor without effective tuples. Without common attributes it matches
every tuple; with common attributes but no tuples of its own it matches none. -/
def emptyRestrictor (negated commonAttributes : Bool) : Option Sql.Cond :=
  if negated == commonAttributes then none else some (.constant false)

/-- All conditions together; none if there are none. -/
def conjunction : List Sql.Cond → Option Sql.Cond
  | [] => none
  | cs => some (.conj cs)

/-- The condition of a tuple set on a relation with the given header. -/
def TupleSet.condition (t : TupleSet) (h : Header) (negated : Bool) :
    Compiler (Option Sql.Cond) := do
  let t := t.project h.names
  if t.fields.isEmpty then return emptyRestrictor negated false
  if t.records.isEmpty then return emptyRestrictor negated true
  let c ← liftReport (encodeTuples h t.records)
  if t.records.length > 1 || negated then return some (bracket negated c) else return some c

/-- The condition of a match in a compiled relation, on the common attributes that are no blobs. -/
def Compiled.condition (c : Compiled) (h : Header) (negated : Bool) : Option Sql.Cond :=
  match h.nonBlobs.filter (· ∈ c.header.nonBlobs) with
  | [] => emptyRestrictor negated false
  | columns => some (.within columns negated c.source)

/-- Restrict a compiled relation by a clause on its header. A fragment with aliases or with a clause
of its own is enclosed first. -/
def Compiled.restrict (c : Compiled) (clause : Header → Compiler (Option Sql.Cond)) :
    Compiler Compiled := do
  let c ← c.encloseIf (c.header.hasAliases || c.source.isFiltered) .restricted
  return c.filter (← clause c.header)

/-- Restrict a compiled relation if there are restrictions, and enclose it if its consumer needs it.
`plain` says that the expression is a table or a join, `grouped` that it is an aggregation. -/
def Compiled.finish (c : Compiled) (mode : Enclosure) (plain grouped restricted : Bool)
    (clause : Header → Compiler (Option Sql.Cond)) : Compiler Compiled := do
  let c ← if restricted then c.restrict clause else pure c
  let needed := match mode with
    | .never => false
    | .aliased => c.header.hasAliases
    | .derived => !plain || restricted
    | .aggregate => grouped
  c.encloseIf needed .enclosed

/-- The join of two compiled relations. -/
def Compiled.join (l r : Compiled) : Except Error Compiled := do
  return ⟨← l.header.join r.header, .join l.source r.source⟩

/-- The aggregation of one compiled relation over another, grouped by the key of the first. -/
def Compiled.aggregate (c g : Compiled) (specs : List String) : Except Error Compiled := do
  match c.header.blobs.filter (· ∈ g.header.blobs) with
  | [] =>
    let h ← c.header.project specs
    if h.hasAliases then return ⟨h, .group (.join c.source g.source) c.header.primaryKey⟩
    else throw .aggregateRequiresComputation
  | names => throw (.blobJoinKey names)

/-- Whether an expression without restrictions projects or aggregates. -/
def Expr.isBareProjection : Expr → Bool
  | .project _ _ rs | .aggregate _ _ _ rs => rs.isEmpty
  | _ => false

/-- Refuse headers with unresolved aliases. -/
def requireResolved (h : Header) : Compiler Unit :=
  if h.hasAliases then throw .unresolvedAliases else pure ()

/-- The clause made of conditions on a relation with the given header. -/
def clauseOf (h : Header) (cs : Compiler (List Sql.Cond)) : Compiler (Option Sql.Cond) := do
  requireResolved h
  return conjunction (← cs)

/-- Whether a restriction is a marker that negates the next one. -/
def Restriction.isMarker : Restriction → Bool
  | .marker effective => effective
  | _ => false

/-- The condition of a restriction that stands alone; a marker that negates nothing always holds. -/
def Restriction.alone (r : Restriction) (c : Compiler (Option Sql.Cond)) : Compiler Sql.Cond := do
  if r.isMarker then return .constant true else return (← c).getD (.constant true)

mutual

/-- Compile an expression for a consumer. -/
def Expr.compile (mode : Enclosure) : Expr → Compiler Compiled
  | .table t h rs =>
    (Compiled.mk h.stripAliases (.table t)).finish mode true false (!rs.isEmpty)
      (fun h => clauseOf h (conditions h false rs))
  | .project e specs rs => do
    let c ← e.compile .aliased
    let h ← c.header.project specs
    (Compiled.mk h c.source).finish mode false false (!rs.isEmpty)
      (fun h => clauseOf h (conditions h false rs))
  | .aggregate e g specs rs => do
    let c ← e.compile .derived
    let d ← g.compile .derived
    (← c.aggregate d specs).finish mode false true (!rs.isEmpty)
      (fun h => clauseOf h (conditions h false rs))
  | .join l r rs => do
    let c ← l.compile .derived
    let d ← r.compile .derived
    (← c.join d).finish mode true false (!rs.isEmpty)
      (fun h => clauseOf h (conditions h false rs))
  | .union _ => throw (.invalidStandalone .union)
  | .negation _ => throw (.invalidStandalone .negation)
termination_by structural e => e

/-- The condition of a restriction on a relation with the given header; none if it holds for every
tuple. -/
def Restriction.condition (h : Header) (negated : Bool) : Restriction → Compiler (Option Sql.Cond)
  | .sql text => return some (bracket negated (.raw text))
  | .tuples t => t.condition h negated
  | .semijoin e => do
    let c ← e.compile .derived
    let c ← c.encloseIf (e.isBareProjection && c.header.hasAliases) .matched
    return c.condition h negated
  | .marker _ => throw .strayMarker
  | .union operands => do
    return some (bracket negated (.disj (← operandConditions h operands)))
  | .complement r => do
    return some (bracket (!negated) (← r.alone (r.condition h false)))
termination_by structural r => r

/-- The conditions of the operands of a union. -/
def operandConditions (h : Header) : List Restriction → Compiler (List Sql.Cond)
  | [] => return []
  | r :: rs => do
    let c ← r.alone (r.condition h false)
    return c :: (← operandConditions h rs)
termination_by structural rs => rs

/-- The conditions of restrictions that hold together. A marker negates the next restriction. -/
def conditions (h : Header) (negated : Bool) : List Restriction → Compiler (List Sql.Cond)
  | [] => return []
  | .marker true :: rs => conditions h true rs
  | r :: rs => do
    let c ← r.condition h negated
    return c.toList ++ (← conditions h false rs)
termination_by structural rs => rs

end

/-- The clause of a list of restrictions on a relation with the given header. -/
def whereClause (h : Header) (rs : List Restriction) : Compiler (Option Sql.Cond) :=
  clauseOf h (conditions h false rs)

/-- Compile an expression to a statement with the given suffix. -/
def Expr.statement (e : Expr) (suffix : String) : Compiler Sql.Statement := do
  return (← e.compile .never).statement suffix

end Relational

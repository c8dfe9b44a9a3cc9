import Relational.Proofs.Header
import Relational.Proofs.Answer

/-!
# The relation of an expression

The direct meaning of expressions, without statements. A relation is a header and rows within it.
Each operator is a function on relations: a table gives its rows, a projection maps each row through
the projected header, a join combines the rows that match, an aggregation makes one row of each
group, and restrictions keep the rows for which all of them are true.
-/

namespace Relational

/-- An attribute of a finished relation: a column with the name under which it was visible. -/
def Attribute.settle (a : Attribute) : Attribute := { a.resolve with expression := none }

namespace Attribute

@[simp] theorem outputName_settle (a : Attribute) : a.settle.outputName = a.outputName :=
  outputName_resolve a

@[simp] theorem isKey_settle (a : Attribute) : a.settle.isKey = a.isKey := isKey_resolve a

@[simp] theorem isBlob_settle (a : Attribute) : a.settle.isBlob = a.isBlob := by
  show (a.resolve.type == .blob) = (a.type == .blob)
  rw [type_resolve]

@[simp] theorem aliasName_settle (a : Attribute) : a.settle.aliasName = "" := aliasName_resolve a

@[simp] theorem expression_settle (a : Attribute) : a.settle.expression = none := rfl

end Attribute

namespace Header

/-- The header of a finished relation: all attributes are plain columns. -/
def settle (h : Header) : Header where
  attributes := h.attributes.map Attribute.settle
  nodup := by
    have e : Attribute.outputName ∘ Attribute.settle = Attribute.outputName := by
      funext a
      simp
    simpa [e] using h.nodup

@[simp] theorem attributes_settle (h : Header) :
    h.settle.attributes = h.attributes.map Attribute.settle := rfl

@[simp] theorem names_settle (h : Header) : h.settle.names = h.names := by
  simp [names]

@[simp] theorem primaryKey_settle (h : Header) : h.settle.primaryKey = h.primaryKey := by
  simp [primaryKey, List.filter_map, Function.comp_def]

@[simp] theorem nonBlobs_settle (h : Header) : h.settle.nonBlobs = h.nonBlobs := by
  simp [nonBlobs, List.filter_map, Function.comp_def]

/-- The row with a cell for each attribute of a header. -/
def image {V : Type} (h : Header) (cell : Attribute → Option V) : Row V := fun n =>
  (h.find? n).bind cell

theorem within_image {V : Type} (h : Header) (cell : Attribute → Option V) :
    (h.image cell).Within h.names := by
  intro n hn
  rw [image, find?_eq_none_iff.mpr hn]
  rfl

end Header

variable {V : Type}

/-- The cell of an attribute, read from a row or computed from it. -/
def Attribute.cell (server : Server V) (r : Row V) (a : Attribute) : Option V :=
  match a.expression with
  | some text => server.scalar text r
  | none => r a.name

/-- The cell of an attribute, read from the first row of a group or computed from the group. -/
def Attribute.groupCell (server : Server V) (g : List (Row V)) (a : Attribute) : Option V :=
  match a.expression with
  | some text => server.summary text g
  | none => g.head?.bind fun r => r a.name

/-- A header and rows without cells outside it. -/
@[ext] structure Relation (V : Type) where
  header : Header
  rows : List (Row V)
  within : ∀ r ∈ rows, r.Within header.names

namespace Relation

/-- The rows of a table, under the names of its header. -/
def ofTable (db : Instance V) (t : TableRef) (h : Header) : Relation V where
  header := h.settle
  rows := (db.rows t).map (Row.only h.names)
  within := by
    intro r hr
    obtain ⟨r, -, rfl⟩ := List.mem_map.mp hr
    rw [Header.names_settle]
    exact Row.within_only h.names r

/-- Each row, mapped through the projected header. -/
def project (server : Server V) (rel : Relation V) (specs : List String) :
    Except Error (Relation V) := do
  let h ← rel.header.project specs
  return {
    header := h.settle
    rows := rel.rows.map fun r => h.image (Attribute.cell server r)
    within := by
      intro r hr
      obtain ⟨r, -, rfl⟩ := List.mem_map.mp hr
      rw [Header.names_settle]
      exact Header.within_image h _ }

theorem project_eq_ok_iff {server : Server V} {rel p : Relation V} {specs : List String} :
    rel.project server specs = .ok p ↔
      ∃ h, rel.header.project specs = .ok h ∧ p.header = h.settle ∧
        p.rows = rel.rows.map fun r => h.image (Attribute.cell server r) := by
  rw [project, bind_eq_ok]
  refine exists_congr fun h => and_congr_right fun _ => ?_
  rw [pure_eq_ok, eq_comm, Relation.ext_iff]

/-- No two rows have the same key. -/
def IsKeyed (rel : Relation V) : Prop := (rel.rows.map (Row.key rel.header.primaryKey)).Nodup

instance [DecidableEq V] (rel : Relation V) : Decidable rel.IsKeyed :=
  inferInstanceAs (Decidable (List.Nodup _))

theorem IsKeyed.eq_of_key_eq {rel : Relation V} (h : rel.IsKeyed) {r s : Row V} (hr : r ∈ rel.rows)
    (hs : s ∈ rel.rows) (e : r.key rel.header.primaryKey = s.key rel.header.primaryKey) : r = s :=
  List.inj_on_of_nodup_map h hr hs e

/-- The rows for which all restrictions are true. -/
def restrict (rel : Relation V) (restrictions : List (Row V → Truth)) : Relation V where
  header := rel.header
  rows := rel.rows.filter fun r => Truth.all (restrictions.map (· r)) = some true
  within := fun r hr => rel.within r (List.mem_of_mem_filter hr)

@[simp] theorem restrict_nil (rel : Relation V) : rel.restrict [] = rel := by
  apply Relation.ext
  · rfl
  · simp [restrict]

variable [DecidableEq V]

/-- The pairs of rows that agree on all common attributes. -/
def combinations (l r : Relation V) : List (Row V) :=
  Row.join l.header.names r.header.names l.rows r.rows

theorem within_of_mem_combinations {l r : Relation V} {x : Row V} (hx : x ∈ l.combinations r) :
    ∀ n, n ∉ l.header.names → n ∉ r.header.names → x n = none := by
  intro n hl hr
  obtain ⟨y, -, z, hz, -, rfl⟩ := Row.mem_join_iff.mp hx
  rw [Row.merge, if_neg hl]
  exact r.within z hz n hr

/-- The natural join. -/
def join (l r : Relation V) : Except Error (Relation V) :=
  match hj : l.header.join r.header with
  | .error err => .error err
  | .ok h => .ok {
      header := h
      rows := l.combinations r
      within := by
        intro x hx n hn
        rw [Header.mem_names_join_iff hj, not_or] at hn
        exact within_of_mem_combinations hx n hn.1 hn.2 }

/-- One row for each group of combined rows with the same key on the left. -/
def aggregate (server : Server V) (l r : Relation V) (specs : List String) :
    Except Error (Relation V) := do
  let h ← l.header.project specs
  return {
    header := h.settle
    rows := (Row.groups l.header.primaryKey (l.combinations r)).map fun g =>
      h.image (Attribute.groupCell server g)
    within := by
      intro r hr
      obtain ⟨r, -, rfl⟩ := List.mem_map.mp hr
      rw [Header.names_settle]
      exact Header.within_image h _ }

theorem aggregate_eq_ok_iff {server : Server V} {l r a : Relation V} {specs : List String} :
    l.aggregate server r specs = .ok a ↔
      ∃ h, l.header.project specs = .ok h ∧ a.header = h.settle ∧
        a.rows = (Row.groups l.header.primaryKey (l.combinations r)).map fun g =>
          h.image (Attribute.groupCell server g) := by
  rw [aggregate, bind_eq_ok]
  refine exists_congr fun h => and_congr_right fun _ => ?_
  rw [pure_eq_ok, eq_comm, Relation.ext_iff]

theorem join_eq_ok_iff {l r j : Relation V} :
    l.join r = .ok j ↔ l.header.join r.header = .ok j.header ∧ j.rows = l.combinations r := by
  unfold join
  split
  · rename_i err hj
    simp [hj]
  · rename_i h hj
    constructor
    · rintro ⟨⟩
      exact ⟨hj, rfl⟩
    · rintro ⟨header, rows⟩
      rw [hj] at header
      exact congrArg Except.ok (Relation.ext (Except.ok.inj header) rows.symm)

/-- Whether a row with the given header has a match: a row with the same values under all common
names that are no blobs. Without such names everything matches. -/
def matched (rel : Relation V) (h : Header) (r : Row V) : Truth :=
  match h.nonBlobs.filter (· ∈ rel.header.nonBlobs) with
  | [] => some true
  | names => Truth.any (rel.rows.map (Row.matching names r))

end Relation

/-! ### Tuple sets -/

section TupleSet

variable [DecidableEq V] (server : Server V)

/-- Whether a cell has the given value. A missing value is looked for as such; any other value is
compared as the type of the attribute says. -/
def Attribute.hasValue (a : Attribute) (v : Value) (cell : Option V) : Truth :=
  match v, a.isBlob with
  | .null, false => some cell.isNone
  | v, _ =>
    match v.literal a with
    | .ok l => Row.equal cell (some (server.literal l))
    | .error _ => none

/-- The names of a header that are fields of a tuple set. -/
def TupleSet.commonFields (t : TupleSet) (h : Header) : List String :=
  h.names.filter (Label.name · ∈ t.fields)

/-- Whether a row has the values of a record under the given names. Names without a value are left
out. -/
def Record.matched (record : Record) (h : Header) (names : List String) (r : Row V) : Truth :=
  Truth.all (names.filterMap fun n => do
    let a ← h.find? n
    let v ← record.get? (.name n)
    return a.hasValue server v (r n))

/-- Whether a row matches one of the records of a tuple set. Without common fields everything
matches. -/
def TupleSet.matched (t : TupleSet) (h : Header) (r : Row V) : Truth :=
  match t.commonFields h with
  | [] => some true
  | names => Truth.any (t.records.map fun record => record.matched server h names r)

end TupleSet

/-! ### Expressions and restrictions -/

section Meaning

variable [DecidableEq V] (server : Server V) (db : Instance V)

/-- Restrict a relation by truth values that depend on its header. -/
def Relation.restrictBy (rel : Relation V)
    (restrictions : Header → Except Error (List (Row V → Truth))) : Except Error (Relation V) := do
  return rel.restrict (← restrictions rel.header)

mutual

/-- The relation that an expression stands for. -/
def Expr.relation : Expr → Except Error (Relation V)
  | .table t h rs =>
    (Relation.ofTable db t h).restrictBy fun h => restrictionTruths h false rs
  | .project e specs rs => do
    let rel ← (← e.relation).project server specs
    rel.restrictBy fun h => restrictionTruths h false rs
  | .aggregate e g specs rs => do
    let rel ← (← e.relation).aggregate server (← g.relation) specs
    rel.restrictBy fun h => restrictionTruths h false rs
  | .join l r rs => do
    let rel ← (← l.relation).join (← r.relation)
    rel.restrictBy fun h => restrictionTruths h false rs
  | .union _ => throw (.invalidStandalone .union)
  | .negation _ => throw (.invalidStandalone .negation)
termination_by structural e => e

/-- The truth value of a restriction for the rows of a relation with the given header. A marker that
negates nothing always holds. -/
def Restriction.truth (h : Header) : Restriction → Except Error (Row V → Truth)
  | .sql text => return server.condition text
  | .tuples t => return t.matched server h
  | .semijoin e => do return (← e.relation).matched h
  | .marker true => return fun _ => some true
  | .marker false => throw .strayMarker
  | .union operands => do
    let ts ← operandTruths h operands
    return fun r => Truth.any (ts.map (· r))
  | .complement r => do
    let t ← r.truth h
    return fun r => (t r).not
termination_by structural r => r

/-- The truth values of the operands of a union. -/
def operandTruths (h : Header) : List Restriction → Except Error (List (Row V → Truth))
  | [] => return []
  | r :: rs => do return (← r.truth h) :: (← operandTruths h rs)
termination_by structural rs => rs

/-- The truth values of restrictions that hold together. A marker negates the next restriction. -/
def restrictionTruths (h : Header) (negated : Bool) :
    List Restriction → Except Error (List (Row V → Truth))
  | [] => return []
  | .marker true :: rs => restrictionTruths h true rs
  | r :: rs => do
    let t ← r.truth h
    return (fun x => (t x).negateIf negated) :: (← restrictionTruths h false rs)
termination_by structural rs => rs

end

variable {server db} {rel : Relation V}

@[simp] theorem restrictBy_nil :
    (rel.restrictBy fun h => restrictionTruths server db h false []) = .ok rel :=
  congrArg Except.ok (Relation.restrict_nil rel)

/-- A restriction that is no marker adds its truth value. -/
theorem restrictionTruths_cons {h : Header} {negated : Bool} {r : Restriction}
    {rs : List Restriction} (hr : r ≠ .marker true) :
    restrictionTruths server db h negated (r :: rs) = (do
      let t ← r.truth server db h
      return (fun x => (t x).negateIf negated) :: (← restrictionTruths server db h false rs)) := by
  match r, hr with
  | .marker false, _ => rfl
  | .sql _, _ => rfl
  | .tuples _, _ => rfl
  | .semijoin _, _ => rfl
  | .union _, _ => rfl
  | .complement _, _ => rfl

/-- Restrictions are applied last. -/
theorem relation_eq_restrictBy (e : Expr) :
    e.relation server db = (e.unrestricted.relation server db >>= fun rel =>
      rel.restrictBy fun h => restrictionTruths server db h false e.restrictions) := by
  cases e with
  | table t h rs => simp [Expr.relation, Expr.unrestricted, Expr.restrictions]; rfl
  | project e specs rs => simp [Expr.relation, Expr.unrestricted, Expr.restrictions]; rfl
  | aggregate e g specs rs => simp [Expr.relation, Expr.unrestricted, Expr.restrictions]; rfl
  | join l r rs => simp [Expr.relation, Expr.unrestricted, Expr.restrictions]; rfl
  | union operands => rfl
  | negation e => rfl

theorem relation_eq_ok_iff {e : Expr} :
    e.relation server db = .ok rel ↔
      ∃ base ts, e.unrestricted.relation server db = .ok base ∧
        restrictionTruths server db base.header false e.restrictions = .ok ts ∧
          base.restrict ts = rel := by
  rw [relation_eq_restrictBy, bind_eq_ok]
  constructor
  · rintro ⟨base, hb, hr⟩
    obtain ⟨ts, hts, hr⟩ := bind_eq_ok.mp hr
    exact ⟨base, ts, hb, hts, pure_eq_ok.mp hr⟩
  · rintro ⟨base, ts, hb, hts, hr⟩
    exact ⟨base, hb, bind_eq_ok.mpr ⟨ts, hts, pure_eq_ok.mpr hr⟩⟩

theorem relation_project_eq_ok_iff {e : Expr} {specs : List String} :
    (Expr.project e specs []).relation server db = .ok rel ↔
      ∃ input, e.relation server db = .ok input ∧ input.project server specs = .ok rel := by
  simp only [Expr.relation, restrictBy_nil, bind_eq_ok]
  constructor
  · rintro ⟨input, hi, base, hb, ⟨⟩⟩
    exact ⟨input, hi, hb⟩
  · rintro ⟨input, hi, hb⟩
    exact ⟨input, hi, rel, hb, rfl⟩

theorem relation_aggregate_eq_ok_iff {e g : Expr} {specs : List String} :
    (Expr.aggregate e g specs []).relation server db = .ok rel ↔
      ∃ input grouping, e.relation server db = .ok input ∧ g.relation server db = .ok grouping ∧
        input.aggregate server grouping specs = .ok rel := by
  simp only [Expr.relation, restrictBy_nil, bind_eq_ok]
  constructor
  · rintro ⟨input, hi, grouping, hg, base, hb, ⟨⟩⟩
    exact ⟨input, grouping, hi, hg, hb⟩
  · rintro ⟨input, grouping, hi, hg, hb⟩
    exact ⟨input, hi, grouping, hg, rel, hb, rfl⟩

theorem relation_join_eq_ok_iff {l r : Expr} :
    (Expr.join l r []).relation server db = .ok rel ↔
      ∃ left right, l.relation server db = .ok left ∧ r.relation server db = .ok right ∧
        left.join right = .ok rel := by
  simp only [Expr.relation, restrictBy_nil, bind_eq_ok]
  constructor
  · rintro ⟨left, hl, right, hr, base, hb, ⟨⟩⟩
    exact ⟨left, right, hl, hr, hb⟩
  · rintro ⟨left, right, hl, hr, hb⟩
    exact ⟨left, hl, right, hr, rel, hb, rfl⟩

end Meaning

/-! ### Contents of the small schema -/

namespace Sample

/-- A server that knows one condition and counts the rows of groups. -/
def server : Server Nat where
  literal
    | .text s | .number s => s.length
  condition text r := if text = "score > 0" then (r "score").map (0 < ·) else none
  scalar _ _ := none
  summary _ g := some g.length
  pick g := g.headD fun _ => none
  pick_mem g hg := by
    cases g with
    | nil => exact absurd rfl hg
    | cons r g => exact List.mem_cons_self

/-- The columns of a table and the cells of its rows. -/
def contents (t : TableRef) : List String × List (List Nat) :=
  if t.name = "session" then (["id", "score"], [[1, 5], [2, 0], [3, 7]])
  else if t.name = "trial" then (["id", "trial"], [[1, 1], [1, 2], [3, 1]])
  else (["id"], [[3]])

def database : Instance Nat where
  columns t := (contents t).1
  rows t := (contents t).2.map fun cells =>
    Row.only (contents t).1 fun n => ((contents t).1.zip cells).lookup n
  within := by
    intro t r hr
    obtain ⟨cells, -, rfl⟩ := List.mem_map.mp hr
    exact Row.within_only _ _

end Sample

end Relational

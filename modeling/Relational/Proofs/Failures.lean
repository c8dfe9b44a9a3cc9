import Relational.Proofs.Header

/-!
# How results fail

`FailsOnly` says with which errors a result can fail. A value that cannot be written is at fault
itself, a tuple on the attributes of a header fails only for want of a literal, and a join of
headers only because of blobs or types that do not match. Three errors guard the compiler against
itself: a clause on aliases, a marker where a restriction should be, and a list of no records.
Neither literals nor headers raise them.
-/

namespace Relational

/-- Errors that only a defect of the compiler could raise. -/
def Error.isInternal : Error → Bool
  | .unresolvedAliases | .strayMarker | .noRecords => true
  | _ => false

/-- Errors about a value that has no literal for its attribute. -/
def Error.isLiteral : Error → Bool
  | .blobInRestriction _ | .nonScalarLiteral .. | .fault _ => true
  | _ => false

/-- Errors about specifications: blank ones, unknown attributes, repeated names. -/
def Error.isSpec : Error → Bool
  | .emptySpec | .unknownAttribute .. | .duplicateAttribute _ => true
  | _ => false

/-- Errors about the attributes that an operator asks for or brings together. -/
def Error.isHeading : Error → Bool
  | .emptySpec | .unknownAttribute .. | .duplicateAttribute _ | .blobJoinKey _ | .typeMismatch ..
  | .aggregateRequiresComputation => true
  | _ => false

/-- Faults that come without a message. -/
def Error.isFault : Error → Bool
  | .fault _ => true
  | _ => false

theorem Error.isInternal_of_isLiteral {err : Error} (h : err.isLiteral = true) :
    err.isInternal = false := by
  cases err <;> first | rfl | cases h

theorem Error.isInternal_of_isHeading {err : Error} (h : err.isHeading = true) :
    err.isInternal = false := by
  cases err <;> first | rfl | cases h

theorem Error.isHeading_of_isSpec {err : Error} (h : err.isSpec = true) :
    err.isHeading = true := by
  cases err <;> first | rfl | cases h

variable {α β : Type}

/-! ### Results that fail in one way only -/

/-- A result fails only with errors of one kind. -/
def FailsOnly (P : Error → Prop) (x : Except Error α) : Prop := ∀ err, x = .error err → P err

section FailsOnly

variable {P Q : Error → Prop} {x : Except Error α}

theorem failsOnly_ok (a : α) : FailsOnly P (.ok a) := by
  intro err h
  cases h

theorem failsOnly_error {err : Error} (h : P err) : FailsOnly P (.error err : Except Error α) := by
  intro err' e
  cases e
  exact h

theorem FailsOnly.mono (h : FailsOnly P x) (hPQ : ∀ err, P err → Q err) : FailsOnly Q x :=
  fun err e => hPQ err (h err e)

theorem failsOnly_bind {f : α → Except Error β} (hx : FailsOnly P x)
    (hf : ∀ a, x = .ok a → FailsOnly P (f a)) : FailsOnly P (x >>= f) := by
  intro err h
  cases x with
  | error err' =>
    cases h
    exact hx err rfl
  | ok a => exact hf a rfl err h

theorem failsOnly_map {f : α → β} (hx : FailsOnly P x) : FailsOnly P (x.map f) := by
  intro err h
  cases x with
  | error err' =>
    cases h
    exact hx err rfl
  | ok a => cases h

theorem failsOnly_mapM {f : α → Except Error β} {l : List α}
    (hf : ∀ a ∈ l, FailsOnly P (f a)) : FailsOnly P (l.mapM f) := by
  induction l with
  | nil =>
    rw [List.mapM_nil]
    exact failsOnly_ok []
  | cons a l ih =>
    obtain ⟨first, rest⟩ := List.forall_mem_cons.mp hf
    rw [List.mapM_cons]
    exact failsOnly_bind first fun _ _ => failsOnly_bind (ih rest) fun _ _ => failsOnly_ok _

end FailsOnly

/-! ### Written forms of values -/

section Forms

variable {P : Error → Prop}

theorem failsOnly_bracket {style : Style} {opening closing : String} {isTuple : Bool}
    {items : List (Except Error String)} (h : ∀ x ∈ items, FailsOnly P x) :
    FailsOnly P (style.bracket opening closing isTuple items) := by
  unfold Style.bracket
  split
  · refine failsOnly_bind (failsOnly_mapM fun x hx => ?_) fun _ _ => failsOnly_ok _
    exact h x (List.mem_of_mem_take hx)
  · exact failsOnly_bind (failsOnly_mapM h) fun _ _ => failsOnly_ok _

theorem failsOnly_listing (style : Style) (items : List String) :
    FailsOnly P (style.listing items) := by
  refine failsOnly_bracket fun x hx => ?_
  obtain ⟨s, -, rfl⟩ := List.mem_map.mp hx
  exact failsOnly_ok s

theorem failsOnly_integerText (n : Int) : FailsOnly (·.isFault = true) (integerText n) := by
  unfold integerText
  split
  · exact failsOnly_ok _
  · exact failsOnly_error rfl

theorem failsOnly_requireForm (form : Option String) :
    FailsOnly (·.isFault = true) (Value.requireForm form) := by
  cases form with
  | none => exact failsOnly_error rfl
  | some s => exact failsOnly_ok s

theorem failsOnly_scalarShown (v : Value) : FailsOnly (·.isFault = true) v.scalarShown := by
  cases v with
  | int n => exact failsOnly_integerText n
  | fixedInt type n => exact failsOnly_integerText n
  | fraction num den =>
    refine failsOnly_bind (failsOnly_integerText num) fun _ _ => ?_
    exact failsOnly_bind (failsOnly_integerText _) fun _ _ => failsOnly_ok _
  | foreign => exact failsOnly_requireForm _
  | _ => exact failsOnly_ok _

theorem failsOnly_scalarPlain (v : Value) : FailsOnly (·.isFault = true) v.scalarPlain := by
  cases v with
  | int n => exact failsOnly_integerText n
  | fixedInt type n => exact failsOnly_integerText n
  | fraction num den =>
    refine failsOnly_bind (failsOnly_integerText num) fun _ _ => ?_
    split
    · exact failsOnly_ok _
    · exact failsOnly_bind (failsOnly_integerText _) fun _ _ => failsOnly_ok _
  | foreign => exact failsOnly_requireForm _
  | _ => exact failsOnly_ok _

theorem failsOnly_scalar (style : Style) (v : Value) :
    FailsOnly (·.isFault = true) (style.scalar v) := by
  unfold Style.scalar
  split
  · exact failsOnly_ok _
  · exact failsOnly_ok _
  · split
    · exact failsOnly_ok _
    · exact failsOnly_ok _
    · split
      · exact failsOnly_listing _ _
      · exact failsOnly_ok _
  · split
    · exact failsOnly_listing _ _
    · exact failsOnly_scalarShown _
  · split
    · exact failsOnly_scalarShown _
    · exact failsOnly_map (failsOnly_scalarPlain _)

theorem mem_of_mem_ends {x : α} {n : Nat} {l : List α} (h : x ∈ Text.ends n l) : x ∈ l := by
  rcases List.mem_append.mp h with h | h
  · exact List.mem_of_mem_take h
  · exact List.mem_of_mem_drop h

/-- The cells of a column stand in the rows. -/
theorem exists_row_of_mem_columnsOf {n : Nat} {rows : List (List α)} {column : List α} {x : α}
    (hc : column ∈ columnsOf n rows) (hx : x ∈ column) : ∃ row ∈ rows, x ∈ row := by
  induction n generalizing rows with
  | zero => cases hc
  | succ n ih =>
    rcases List.mem_cons.mp hc with rfl | hc
    · obtain ⟨row, hr, head⟩ := List.mem_filterMap.mp hx
      exact ⟨row, hr, List.mem_of_mem_head? head⟩
    · obtain ⟨rest, hrest, hx⟩ := ih hc
      obtain ⟨row, hr, rfl⟩ := List.mem_map.mp hrest
      exact ⟨row, hr, List.mem_of_mem_tail hx⟩

theorem failsOnly_columnText {heading : String} {c : Column}
    (h : ∀ cell ∈ c.cells, FailsOnly (·.isFault = true) cell.2) :
    FailsOnly (·.isFault = true) (columnText heading c) := by
  refine failsOnly_bind ?_ fun _ _ => failsOnly_ok _
  unfold cellTexts
  split
  case h_6 =>
    unfold mixedTexts
    split
    · exact failsOnly_error rfl
    · exact failsOnly_mapM fun cell hc => failsOnly_bind (h cell hc) fun _ _ => failsOnly_ok _
  all_goals exact failsOnly_ok _

theorem failsOnly_textColumns {kinds : List ColumnKind} {shown : Option Nat} {rows : Nat}
    {columns : List Column}
    (h : ∀ c ∈ columns, ∀ cell ∈ c.cells, FailsOnly (·.isFault = true) cell.2) :
    FailsOnly (·.isFault = true) (textColumns kinds shown rows columns) := by
  refine failsOnly_bind (failsOnly_mapM fun headed hm => ?_) fun _ _ => failsOnly_ok _
  obtain ⟨heading, c⟩ := headed
  obtain ⟨c, hc, rfl⟩ := List.mem_map.mp (List.of_mem_zip hm).2
  have given : c ∈ columns := by
    split at hc
    · exact mem_of_mem_ends hc
    · exact hc
  refine failsOnly_columnText fun cell hcell => h c given cell ?_
  split at hcell
  · exact mem_of_mem_ends hcell
  · exact hcell

theorem failsOnly_tableText {labels : List Label} {rows : List (List Value)}
    {texts : List (List (Except Error String))}
    (h : ∀ row ∈ texts, ∀ x ∈ row, FailsOnly (·.isFault = true) x) :
    FailsOnly (·.isFault = true) (tableText labels rows texts) := by
  have cells : ∀ c ∈ tableColumns labels rows texts, ∀ cell ∈ c.cells,
      FailsOnly (·.isFault = true) cell.2 := by
    intro c hc cell hcell
    obtain ⟨⟨label, values, column⟩, hm, rfl⟩ := List.mem_map.mp hc
    have hcolumn := (List.of_mem_zip (List.of_mem_zip hm).2).2
    obtain ⟨row, hr, hx⟩ := exists_row_of_mem_columnsOf hcolumn (List.of_mem_zip hcell).2
    exact h row hr cell.2 hx
  unfold tableText
  split
  · exact failsOnly_ok _
  · -- The table is laid out twice, the second time cut down to what fits.
    refine failsOnly_bind (failsOnly_textColumns cells) fun _ _ => ?_
    exact failsOnly_bind (failsOnly_textColumns cells) fun _ _ => failsOnly_ok _

theorem failsOnly_frame {style : Style} {columns : List Label} {rows : Nat}
    {table : Except Error String} (h : FailsOnly P table) :
    FailsOnly P (style.frame columns rows table) := by
  unfold Style.frame
  split
  · split
    · exact failsOnly_listing _ _
    · exact failsOnly_map h
  · exact h

mutual

/-- A value that has no written form is at fault itself. -/
theorem failsOnly_write (style : Style) (v : Value) :
    FailsOnly (·.isFault = true) (v.write style) := by
  cases v with
  | list vs => exact failsOnly_bracket (failsOnly_writeAll _ vs)
  | tuple vs => exact failsOnly_bracket (failsOnly_writeAll _ vs)
  | set vs =>
    rw [Value.write]
    split
    · exact failsOnly_ok _
    · exact failsOnly_bracket (failsOnly_writeAll _ vs)
  | record frozen es =>
    rw [Value.write]
    split
    · exact failsOnly_listing _ _
    · exact failsOnly_bracket (failsOnly_writeEntries _ es)
  | frame columns rows => exact failsOnly_frame (failsOnly_tableText (failsOnly_writeRows rows))
  | _ =>
    unfold Value.write
    exact failsOnly_scalar style _
termination_by structural v

theorem failsOnly_writeAll (style : Style) (vs : List Value) :
    ∀ x ∈ writeAll style vs, FailsOnly (·.isFault = true) x :=
  match vs with
  | [] => fun x hx => by cases hx
  | v :: vs => List.forall_mem_cons.mpr ⟨failsOnly_write style v, failsOnly_writeAll style vs⟩
termination_by structural vs

theorem failsOnly_writeEntries (style : Style) (es : List (Label × Value)) :
    ∀ x ∈ writeEntries style es, FailsOnly (·.isFault = true) x :=
  match es with
  | [] => fun x hx => by cases hx
  | (k, v) :: es =>
    List.forall_mem_cons.mpr ⟨failsOnly_map (failsOnly_write style v),
      failsOnly_writeEntries style es⟩
termination_by structural es

theorem failsOnly_writeRows (rows : List (List Value)) :
    ∀ row ∈ writeRows rows, ∀ x ∈ row, FailsOnly (·.isFault = true) x :=
  match rows with
  | [] => fun row hr => by cases hr
  | row :: rows => List.forall_mem_cons.mpr ⟨failsOnly_writeAll _ row, failsOnly_writeRows rows⟩
termination_by structural rows

end

end Forms

/-! ### Literals -/

theorem failsOnly_refuseLiteral (a : Attribute) (expected : String) (v : Value) :
    FailsOnly (·.isLiteral = true) (v.refuseLiteral a expected : Except Error α) := by
  refine failsOnly_bind ((failsOnly_write .shown v).mono ?_) fun _ _ => failsOnly_error rfl
  intro err h
  cases err <;> first | rfl | cases h

theorem failsOnly_literal (a : Attribute) (v : Value) :
    FailsOnly (·.isLiteral = true) (v.literal a) := by
  unfold Value.literal
  split
  · exact failsOnly_error rfl
  · split
    · exact failsOnly_ok _
    · exact failsOnly_ok _
    · exact failsOnly_refuseLiteral a _ v
  · split
    case h_8 =>
      refine failsOnly_map ?_
      unfold doubleText
      split
      · exact failsOnly_ok _
      · exact failsOnly_error rfl
    case h_9 => exact failsOnly_refuseLiteral a _ _
    all_goals exact failsOnly_ok _

/-- An entry under the name of an attribute fails only if its value has no literal. -/
theorem failsOnly_encodeEntry {h : Header} {field : String} (hf : field ∈ h.names) (v : Value) :
    FailsOnly (·.isLiteral = true) (encodeEntry h (.name field, v)) := by
  obtain ⟨a, ha⟩ := Header.mem_names_iff.mp hf
  have found : h.getLabel (.name field) = .ok (field, a) := by
    simp only [Header.getLabel, Header.get, Header.find?_eq_some_iff.mpr ha]
    rfl
  refine failsOnly_bind (found ▸ failsOnly_ok _) fun p hp => ?_
  cases found.symm.trans hp
  dsimp only
  split
  · exact failsOnly_ok _
  · exact failsOnly_bind (failsOnly_literal a _) fun _ _ => failsOnly_ok _

theorem failsOnly_encodeRecord {h : Header} {r : Record}
    (hr : ∀ e ∈ r.entries, ∃ field ∈ h.names, e.1 = .name field) :
    FailsOnly (·.isLiteral = true) (encodeRecord h r) := by
  refine failsOnly_bind (failsOnly_mapM fun e he => ?_) fun cs _ => ?_
  · obtain ⟨field, hf, name⟩ := hr e he
    obtain ⟨k, v⟩ := e
    cases name
    exact failsOnly_encodeEntry hf v
  · cases cs <;> exact failsOnly_ok _

theorem failsOnly_encodeRecords {h : Header} {rs : List Record} (hne : rs ≠ [])
    (hr : ∀ r ∈ rs, ∀ e ∈ r.entries, ∃ field ∈ h.names, e.1 = .name field) :
    FailsOnly (·.isLiteral = true) (encodeRecords h rs) := by
  match rs, hne with
  | [r], _ => exact failsOnly_encodeRecord (hr r (by simp))
  | r :: r' :: rs, _ =>
    refine failsOnly_bind (failsOnly_mapM fun r hm => ?_) fun _ _ => failsOnly_ok _
    exact failsOnly_encodeRecord (hr r hm)

/-! ### Headers -/

namespace Header

variable {h k : Header}

theorem failsOnly_ofAttributes (as : List Attribute) :
    FailsOnly (·.isSpec = true) (ofAttributes as) := by
  unfold ofAttributes
  split
  · exact failsOnly_ok _
  · exact failsOnly_error rfl

theorem failsOnly_parse (text : String) : FailsOnly (·.isSpec = true) (Spec.parse text) := by
  unfold Spec.parse
  split
  · exact failsOnly_error rfl
  · exact failsOnly_ok _
  · split
    · exact failsOnly_ok _
    · split <;> exact failsOnly_ok _

theorem failsOnly_apply (s : Selection) (spec : Spec) :
    FailsOnly (·.isSpec = true) (s.apply h spec) := by
  cases spec with
  | wildcard => exact failsOnly_ok _
  | plain source =>
    rw [Selection.apply]
    split
    · exact failsOnly_ok _
    · exact failsOnly_error rfl
  | rename source target =>
    rw [Selection.apply]
    split
    · exact failsOnly_error rfl
    · split
      · exact failsOnly_ok _
      · exact failsOnly_error rfl
  | compute expression target =>
    rw [Selection.apply]
    split
    · exact failsOnly_error rfl
    · exact failsOnly_ok _

theorem failsOnly_applyAll (s : Selection) (texts : List String) :
    FailsOnly (·.isSpec = true) (s.applyAll h texts) := by
  induction texts generalizing s with
  | nil => exact failsOnly_ok s
  | cons text rest ih =>
    refine failsOnly_bind (failsOnly_parse text) fun spec _ => ?_
    exact failsOnly_bind (failsOnly_apply s spec) fun s' _ => ih s'

theorem failsOnly_project (h : Header) (texts : List String) :
    FailsOnly (·.isSpec = true) (h.project texts) :=
  failsOnly_bind (failsOnly_applyAll _ texts) fun _ _ => failsOnly_ofAttributes _

open scoped List in
/-- The attributes of a join have different names: those of the left header are split in two, and
so are the new ones of the right header. -/
theorem nodup_joinedAttributes (h k : Header) :
    ((h.joinedAttributes k).map Attribute.outputName).Nodup := by
  let right := fun a : Attribute => k.primaryKey.contains a.outputName
  let new := fun a : Attribute => !h.contains a.outputName
  let keys := h.attributes.filter fun a => a.isKey || right a
  let newKeys := k.attributes.filter fun a => a.isKey && new a
  let others := h.attributes.filter fun a => !a.isKey && !right a
  let newOthers := k.attributes.filter fun a => !a.isKey && new a
  have left : (keys ++ others).Perm h.attributes := by
    have split := List.filter_append_perm (fun a : Attribute => a.isKey || right a) h.attributes
    simpa only [Bool.not_or] using split
  have added : (newKeys ++ newOthers).Perm (k.attributes.filter new) := by
    have split := List.filter_append_perm Attribute.isKey (k.attributes.filter new)
    simpa only [List.filter_filter] using split
  -- Keys come first, so the two halves of either header are moved apart.
  have sorted : (keys ++ newKeys ++ others ++ newOthers).Perm
      (h.attributes ++ k.attributes.filter new) := by
    calc keys ++ newKeys ++ others ++ newOthers
        = keys ++ (newKeys ++ others) ++ newOthers := by rw [List.append_assoc keys]
      _ ~ keys ++ (others ++ newKeys) ++ newOthers :=
        (List.perm_append_comm.append_left keys).append_right newOthers
      _ = (keys ++ others) ++ (newKeys ++ newOthers) := by simp only [List.append_assoc]
      _ ~ h.attributes ++ k.attributes.filter new := left.append added
  have names : (h.joinedAttributes k).map Attribute.outputName =
      (keys ++ newKeys ++ others ++ newOthers).map Attribute.outputName := by
    have same : Attribute.outputName ∘ promoted k = Attribute.outputName := by
      funext a
      exact outputName_promoted
    have first : (keys.map (promoted k)).map Attribute.outputName =
        keys.map Attribute.outputName := by
      rw [List.map_map, same]
    show (keys.map (promoted k) ++ newKeys ++ others ++ newOthers).map Attribute.outputName = _
    simp only [List.map_append, first]
  rw [names, (sorted.map Attribute.outputName).nodup_iff, List.map_append, List.nodup_append]
  refine ⟨h.nodup, k.nodup.sublist (List.filter_sublist.map _), ?_⟩
  rintro n hn m hm rfl
  obtain ⟨a, ha, rfl⟩ := List.mem_map.mp hm
  have fresh : h.contains a.outputName = false := by simpa [new] using List.of_mem_filter ha
  exact Bool.false_ne_true (fresh.symm.trans (contains_eq_true_iff.mpr hn))

/-- A join never repeats a name; what it refuses are blobs and types. -/
theorem join_ne_duplicate (h k : Header) (name : String) :
    h.join k ≠ .error (.duplicateAttribute name) := by
  have joined : ofAttributes (h.joinedAttributes k) =
      .ok ⟨h.joinedAttributes k, nodup_joinedAttributes h k⟩ :=
    ofAttributes_self ⟨_, nodup_joinedAttributes h k⟩
  unfold join
  split
  · rw [joined]
    rintro ⟨⟩
  · rintro ⟨⟩
  · rintro ⟨⟩

theorem failsOnly_join (h k : Header) : FailsOnly (·.isHeading = true) (h.join k) := by
  unfold join
  split
  · exact (failsOnly_ofAttributes _).mono fun _ => Error.isHeading_of_isSpec
  · exact failsOnly_error rfl
  · exact failsOnly_error rfl

end Header

theorem failsOnly_joined (c d : Compiled) : FailsOnly (·.isHeading = true) (c.join d) :=
  failsOnly_bind (Header.failsOnly_join _ _) fun _ _ => failsOnly_ok _

theorem failsOnly_aggregate (c g : Compiled) (specs : List String) :
    FailsOnly (·.isHeading = true) (c.aggregate g specs) := by
  unfold Compiled.aggregate
  split
  · have projected := (c.header.failsOnly_project specs).mono fun _ => Error.isHeading_of_isSpec
    refine failsOnly_bind projected fun k _ => ?_
    split
    · exact failsOnly_ok _
    · exact failsOnly_error rfl
  · exact failsOnly_error rfl

end Relational

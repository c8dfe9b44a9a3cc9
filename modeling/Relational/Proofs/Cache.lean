import Mathlib.Data.List.Induction
import Relational.Proofs.Composition
import Relational.Proofs.Exchange

/-!
# Headers that are kept

The header of a table is asked for once and then kept until the schema is reset. A history records
the calls for headers and the resets of one database, while the server may change its replies at any
time. `Reflects` is the invariant of a history: a header is kept if and only if a call for its table
has succeeded since the last reset, and it is the one that the latest reply described.
-/

namespace Relational

/-- The headers that a database keeps. -/
def Session.kept (σ : Session) (id : DatabaseId) : Option (List (TableRef × Header)) :=
  σ.databases[id]?.map Database.headers

namespace Schema

/-! ### Histories -/

/-- What a header is asked for: a table by a name that may be qualified, or by its reference. -/
inductive Subject where
  | name (text : String)
  | reference (t : TableRef)

def Subject.resolve : Subject → Except Error TableRef
  | .name text => TableRef.parse text none
  | .reference t => .ok t

inductive Request where
  | header (subject : Subject)
  | reset

/-- A request, and what the server knows about its tables by then. -/
structure Turn where
  tables : List ((Option String × String) × Reply)
  request : Request

/-- A call for a header: the session when it begins, what it comes to, and the session after it. -/
structure Call where
  subject : Subject
  before : Session
  outcome : Except Error Header
  after : Session

inductive Entry where
  | header (call : Call)
  | reset

/-- Ask for a header by name or by reference. -/
def headerFor (id : DatabaseId) (subject : Subject) : Action Header := do
  tableHeader id (← subject.resolve)

/-- Take a turn: what is recorded, and the session after it. -/
def Turn.take (id : DatabaseId) (σ : Session) (turn : Turn) : Entry × Session :=
  let before := { σ with tables := turn.tables }
  match turn.request with
  | .header subject =>
    let (outcome, after) := (headerFor id subject).run.run before
    (.header ⟨subject, before, outcome, after⟩, after)
  | .reset => (.reset, ((reset id).run.run before).2)

/-- The history of turns that are taken one after another. -/
def history (id : DatabaseId) (σ : Session) : List Turn → List Entry
  | [] => []
  | turn :: rest => (turn.take id σ).1 :: history id (turn.take id σ).2 rest

/-- The metadata query for a table. -/
def query (t : TableRef) : Event := .describe statement (schemaParameter t) t.name

/-- The reply of the server to the metadata query. -/
def replyTo (t : TableRef) (σ : Session) : Reply :=
  (σ.tables.lookup (schemaParameter t, t.name)).getD (.rows [] (some []))

/-- A call for the table succeeds. -/
def Entry.Serves (t : TableRef) : Entry → Prop
  | .header c => c.subject.resolve = .ok t ∧ ∃ h, c.outcome = .ok h
  | .reset => False

/-- A call for the table sends the metadata query. -/
def Entry.Asks (t : TableRef) : Entry → Prop
  | .header c => c.subject.resolve = .ok t ∧ c.after.events = c.before.events ++ [query t]
  | .reset => False

/-- A call for the table sends the metadata query and gets a reply. -/
def Entry.Gets (t : TableRef) (reply : Reply) (e : Entry) : Prop :=
  e.Asks t ∧ ∃ c, e = .header c ∧ replyTo t c.before = reply

/-- An entry of one kind is there, and none of another kind since. -/
def Since (p stop : Entry → Prop) (past : List Entry) : Prop :=
  ∃ earlier e later, past = earlier ++ e :: later ∧ p e ∧ ∀ d ∈ later, ¬ stop d

/-- A call for the table has succeeded since the last reset. -/
def ServedSinceReset (past : List Entry) (t : TableRef) : Prop :=
  Since (Entry.Serves t) (· = .reset) past

/-- The reply to the latest metadata query for the table. -/
def LatestReply (past : List Entry) (t : TableRef) (reply : Reply) : Prop :=
  Since (Entry.Gets t reply) (Entry.Asks t) past

variable {id : DatabaseId} {σ : Session} {headers : List (TableRef × Header)} {t : TableRef}
  {past : List Entry} {e : Entry} {p stop : Entry → Prop}

theorem not_since_nil : ¬ Since p stop [] := by
  rintro ⟨earlier, e, later, split, -⟩
  simp at split

theorem since_concat_iff : Since p stop (past ++ [e]) ↔ p e ∨ (¬ stop e ∧ Since p stop past) := by
  constructor
  · rintro ⟨earlier, d, later, split, hp, none⟩
    cases later using List.reverseRecOn with
    | nil =>
      obtain ⟨-, e⟩ := List.append_inj' split rfl
      cases e
      exact .inl hp
    | append_singleton later last =>
      rw [← List.cons_append, ← List.append_assoc] at split
      obtain ⟨rfl, e⟩ := List.append_inj' split rfl
      cases e
      exact .inr ⟨none _ (by simp), earlier, d, later, rfl, hp, fun x hx => none x (by simp [hx])⟩
  · rintro (hp | ⟨free, earlier, d, later, rfl, hp, none⟩)
    · exact ⟨past, e, [], rfl, hp, by simp⟩
    · refine ⟨earlier, d, later ++ [e], by simp, hp, fun x hx => ?_⟩
      rcases List.mem_append.mp hx with hx | hx
      · exact none x hx
      · rw [List.mem_singleton.mp hx]
        exact free

/-! ### One call -/

/-- What a call for a table comes to, and the session after it, if the database keeps `headers`. -/
inductive Answers (id : DatabaseId) (headers : List (TableRef × Header)) (t : TableRef)
    (σ : Session) : Except Error Header → Session → Prop
  /-- The header is kept. -/
  | kept {h} (found : headers.lookup t = some h) : Answers id headers t σ (.ok h) σ
  /-- The reply describes a header, which is kept from now on. -/
  | read {h} (missing : headers.lookup t = none)
      (described : (headerOf t (replyTo t σ)).outcome = .ok h) (notices : List Notice) :
      Answers id headers t σ (.ok h)
        { σ with
          events := σ.events ++ [query t]
          notices := notices
          databases := σ.databases.modify id fun d => { d with headers := (t, h) :: d.headers } }
  /-- The reply describes none. -/
  | failed {err} (missing : headers.lookup t = none)
      (refused : (headerOf t (replyTo t σ)).outcome = .error err) (notices : List Notice) :
      Answers id headers t σ (.error err)
        { σ with events := σ.events ++ [query t], notices := notices }

/-- Fetching a header sends the metadata query and reads the reply. -/
theorem run_fetchHeader (t : TableRef) (σ : Session) :
    ∃ notices, (fetchHeader t).run.run σ =
      ((headerOf t (replyTo t σ)).outcome,
        { σ with events := σ.events ++ [query t], notices := notices }) := by
  obtain ⟨notices, read⟩ := yields_ofReport (r := headerOf t (replyTo t σ)) rfl
    { σ with events := σ.events ++ [query t] }
  exact ⟨notices, read⟩

theorem answers_tableHeader (kept : σ.kept id = some headers) (t : TableRef) :
    Answers id headers t σ ((tableHeader id t).run.run σ).1 ((tableHeader id t).run.run σ).2 := by
  obtain ⟨d, hd, rfl⟩ := Option.map_eq_some_iff.mp kept
  unfold tableHeader
  rw [run_bind, run_database hd]
  dsimp only
  cases found : d.headers.lookup t with
  | some h => exact .kept found
  | none =>
    obtain ⟨notices, fetched⟩ := run_fetchHeader t σ
    rw [run_bind, fetched]
    cases described : (headerOf t (replyTo t σ)).outcome with
    | error err => exact .failed found described notices
    | ok h => exact .read found described notices

/-- What a database keeps after it was changed. -/
theorem kept_of_modify {σ' : Session} {change : Database → Database}
    {g : List (TableRef × Header) → List (TableRef × Header)} (kept : σ.kept id = some headers)
    (modified : σ'.databases = σ.databases.modify id change)
    (changes : ∀ d, (change d).headers = g d.headers) : σ'.kept id = some (g headers) := by
  obtain ⟨d, hd, rfl⟩ := Option.map_eq_some_iff.mp kept
  rw [Session.kept, modified, List.getElem?_modify_eq, hd]
  exact congrArg some (changes d)

/-! ### The invariant of a history -/

/-- The headers kept after a history: those of the tables for which a call has succeeded since the
last reset, each as the latest reply describes it. -/
structure Reflects (past : List Entry) (headers : List (TableRef × Header)) : Prop where
  served : ∀ t, (headers.lookup t).isSome = true ↔ ServedSinceReset past t
  latest : ∀ t h, headers.lookup t = some h →
    ∃ reply, LatestReply past t reply ∧ (headerOf t reply).outcome = .ok h

theorem reflects_nil : Reflects [] [] where
  served t := iff_of_false (by simp) not_since_nil
  latest t h found := by cases found

/-- What a call does to the invariant: it may serve its table, and the header that it leaves there
is the one described to it or the one kept before. -/
theorem Reflects.concat_header {c : Call} {headers' : List (TableRef × Header)}
    (r : Reflects past headers)
    (served : ∀ t, (headers'.lookup t).isSome = true ↔
      (Entry.header c).Serves t ∨ (headers.lookup t).isSome = true)
    (latest : ∀ t h, headers'.lookup t = some h →
      ((Entry.header c).Asks t ∧ (headerOf t (replyTo t c.before)).outcome = .ok h) ∨
        (¬ (Entry.header c).Asks t ∧ headers.lookup t = some h)) :
    Reflects (past ++ [.header c]) headers' where
  served t := by
    rw [served t, r.served t, ServedSinceReset, ServedSinceReset, since_concat_iff]
    exact or_congr_right (and_iff_right (by simp)).symm
  latest t h found := by
    rcases latest t h found with ⟨asks, described⟩ | ⟨silent, found⟩
    · exact ⟨_, since_concat_iff.mpr (.inl ⟨asks, c, rfl, rfl⟩), described⟩
    · obtain ⟨reply, last, described⟩ := r.latest t h found
      exact ⟨reply, since_concat_iff.mpr (.inr ⟨silent, last⟩), described⟩

theorem reflects_concat_reset (past : List Entry) : Reflects (past ++ [.reset]) [] where
  served t := by
    refine iff_of_false (by simp) ?_
    rw [ServedSinceReset, since_concat_iff]
    simp [Entry.Serves]
  latest t h found := by cases found

theorem not_asks_of_silent {c : Call} (silent : c.after.events = c.before.events) :
    ¬ (Entry.header c).Asks t := by
  rintro ⟨-, asked⟩
  simp [silent] at asked

theorem lookup_cons_of_ne {t' : TableRef} (other : t' ≠ t) (h : Header) :
    ((t, h) :: headers).lookup t' = headers.lookup t' := by
  rw [List.lookup_cons, beq_eq_false_iff_ne.mpr other]

section Call

variable {subject : Subject} {before after : Session} {outcome : Except Error Header}

/-- Whatever a call comes to, it keeps the invariant. -/
theorem Reflects.of_answers (r : Reflects past headers) (kept : before.kept id = some headers)
    (resolved : subject.resolve = .ok t) (answers : Answers id headers t before outcome after) :
    ∃ headers', after.kept id = some headers' ∧
      Reflects (past ++ [.header ⟨subject, before, outcome, after⟩]) headers' := by
  have same {t' : TableRef} (resolved' : subject.resolve = .ok t') : t' = t :=
    Except.ok.inj (resolved'.symm.trans resolved)
  cases answers with
  | kept found =>
    refine ⟨headers, kept, r.concat_header (fun t' => ⟨.inr, ?_⟩) fun t' h' found' => ?_⟩
    · rintro (⟨resolved', -⟩ | found')
      · rw [same resolved', found]
        rfl
      · exact found'
    · exact .inr ⟨not_asks_of_silent rfl, found'⟩
  | @read h missing described notices =>
    refine ⟨(t, h) :: headers, kept_of_modify kept rfl fun d => rfl,
      r.concat_header (fun t' => ?_) fun t' h' found' => ?_⟩
    · by_cases e : t' = t
      · subst e
        exact iff_of_true (by simp) (.inl ⟨resolved, h, rfl⟩)
      · rw [lookup_cons_of_ne e]
        exact (or_iff_right fun served => e (same served.1)).symm
    · by_cases e : t' = t
      · subst e
        rw [List.lookup_cons_self] at found'
        cases found'
        exact .inl ⟨⟨resolved, rfl⟩, described⟩
      · rw [lookup_cons_of_ne e] at found'
        exact .inr ⟨fun asked => e (same asked.1), found'⟩
  | failed missing refused notices =>
    refine ⟨headers, kept, r.concat_header (fun t' => ⟨.inr, ?_⟩) fun t' h' found' => ?_⟩
    · rintro (⟨-, h, served⟩ | found')
      · cases served
      · exact found'
    · refine .inr ⟨?_, found'⟩
      rintro ⟨resolved', -⟩
      rw [same resolved', missing] at found'
      cases found'

/-- A call by an invalid name does nothing. -/
theorem Reflects.of_invalid {err : Error} (r : Reflects past headers)
    (invalid : subject.resolve = .error err) :
    Reflects (past ++ [.header ⟨subject, before, .error err, after⟩]) headers := by
  have unresolved {t : TableRef} : subject.resolve ≠ .ok t := by simp [invalid]
  refine r.concat_header (fun t => ⟨.inr, ?_⟩) fun t h found => ?_
  · rintro (⟨resolved, -⟩ | found)
    · exact absurd resolved unresolved
    · exact found
  · exact .inr ⟨fun asked => unresolved asked.1, found⟩

end Call

/-! ### Calls in a history -/

/-- What is required of a call after a history. A table that was served since the last reset is
served without a query, any other by a query. The outcome is the one that the latest reply has, and
a call that fails leaves all databases as they were. -/
structure Call.Conforms (past : List Entry) (c : Call) : Prop where
  invalid : ∀ err, c.subject.resolve = .error err → c.outcome = .error err ∧ c.after = c.before
  served : ∀ t, c.subject.resolve = .ok t → ServedSinceReset past t →
    c.after.events = c.before.events ∧ ∃ h, c.outcome = .ok h
  asked : ∀ t, c.subject.resolve = .ok t → ¬ ServedSinceReset past t →
    c.after.events = c.before.events ++ [query t]
  latest : ∀ t, c.subject.resolve = .ok t → ∃ reply,
    LatestReply (past ++ [.header c]) t reply ∧ c.outcome = (headerOf t reply).outcome
  unchanged : ∀ err, c.outcome = .error err → c.after.databases = c.before.databases

section Conforms

variable {subject : Subject} {before after : Session} {outcome : Except Error Header}

/-- A call conforms if its table was served and it finds the header. -/
theorem conforms_of_kept {h : Header} (r : Reflects past headers)
    (resolved : subject.resolve = .ok t) (found : headers.lookup t = some h) :
    Call.Conforms past ⟨subject, before, .ok h, before⟩ where
  invalid err invalid := by cases resolved.symm.trans invalid
  served t' resolved' _ := ⟨rfl, h, rfl⟩
  asked t' resolved' unserved := by
    cases resolved.symm.trans resolved'
    exact absurd ((r.served t).mp (by rw [found]; rfl)) unserved
  latest t' resolved' := by
    cases resolved.symm.trans resolved'
    obtain ⟨reply, last, described⟩ := r.latest t h found
    exact ⟨reply, since_concat_iff.mpr (.inr ⟨not_asks_of_silent rfl, last⟩), described.symm⟩
  unchanged err failed := by cases failed

/-- A call conforms if its table was not served and it comes to what the reply describes. -/
theorem conforms_of_asked (resolved : subject.resolve = .ok t)
    (unserved : ¬ ServedSinceReset past t) (asked : after.events = before.events ++ [query t])
    (described : outcome = (headerOf t (replyTo t before)).outcome)
    (unchanged : ∀ err, outcome = .error err → after.databases = before.databases) :
    Call.Conforms past ⟨subject, before, outcome, after⟩ where
  invalid err invalid := by cases resolved.symm.trans invalid
  served t' resolved' served := by
    cases resolved.symm.trans resolved'
    exact absurd served unserved
  asked t' resolved' _ := by
    cases resolved.symm.trans resolved'
    exact asked
  latest t' resolved' := by
    cases resolved.symm.trans resolved'
    exact ⟨_, since_concat_iff.mpr (.inl ⟨⟨resolved, asked⟩, _, rfl, rfl⟩), described⟩
  unchanged := unchanged

theorem conforms_of_answers (r : Reflects past headers) (resolved : subject.resolve = .ok t)
    (answers : Answers id headers t before outcome after) :
    Call.Conforms past ⟨subject, before, outcome, after⟩ := by
  have unserved (missing : headers.lookup t = none) : ¬ ServedSinceReset past t := by
    rw [← r.served t, missing]
    exact Bool.false_ne_true
  cases answers with
  | kept found => exact conforms_of_kept r resolved found
  | read missing described notices =>
    refine conforms_of_asked resolved (unserved missing) rfl described.symm fun err failed => ?_
    cases failed
  | failed missing refused notices =>
    exact conforms_of_asked resolved (unserved missing) rfl refused.symm fun _ _ => rfl

theorem conforms_of_invalid {err : Error} (invalid : subject.resolve = .error err) :
    Call.Conforms past ⟨subject, before, .error err, before⟩ where
  invalid err' invalid' := by
    cases invalid.symm.trans invalid'
    exact ⟨rfl, rfl⟩
  served t resolved := by cases invalid.symm.trans resolved
  asked t resolved := by cases invalid.symm.trans resolved
  latest t resolved := by cases invalid.symm.trans resolved
  unchanged _ _ := rfl

end Conforms

/-- **Step.** A turn keeps the invariant, and if it is a call, it conforms. -/
theorem Reflects.take (r : Reflects past headers) (kept : σ.kept id = some headers) (turn : Turn) :
    (∃ headers', (turn.take id σ).2.kept id = some headers' ∧
        Reflects (past ++ [(turn.take id σ).1]) headers') ∧
      ∀ c, (turn.take id σ).1 = .header c → c.Conforms past := by
  obtain ⟨tables, request⟩ := turn
  have kept' : Session.kept { σ with tables := tables } id = some headers := kept
  cases request with
  | reset =>
    refine ⟨⟨[], ?_, reflects_concat_reset past⟩, ?_⟩
    · exact kept_of_modify (g := fun _ => []) kept' rfl fun d => rfl
    · intro c e
      cases e
  | header subject =>
    cases resolved : subject.resolve with
    | error err =>
      have run : (headerFor id subject).run.run { σ with tables := tables } =
          (.error err, { σ with tables := tables }) := by
        rw [headerFor, resolved]
        rfl
      simp only [Turn.take, run]
      refine ⟨⟨headers, kept', r.of_invalid resolved⟩, ?_⟩
      intro c e
      cases e
      exact conforms_of_invalid resolved
    | ok t =>
      have run : headerFor id subject = tableHeader id t := by
        rw [headerFor, resolved]
        rfl
      simp only [Turn.take, run]
      have answers := answers_tableHeader kept' t
      refine ⟨r.of_answers kept' resolved answers, ?_⟩
      intro c e
      cases e
      exact conforms_of_answers r resolved answers

/-- **Run.** Every call of a history conforms. -/
theorem Reflects.conforms (r : Reflects past headers) (kept : σ.kept id = some headers)
    {turns : List Turn} {more rest : List Entry} {c : Call}
    (split : history id σ turns = more ++ .header c :: rest) : c.Conforms (past ++ more) := by
  induction turns generalizing σ past headers more with
  | nil => simp [history] at split
  | cons turn turns ih =>
    obtain ⟨⟨headers', kept', r'⟩, conforms⟩ := r.take kept turn
    cases more with
    | nil =>
      obtain ⟨e, -⟩ := List.cons.inj split
      rw [List.append_nil]
      exact conforms c e
    | cons e more =>
      obtain ⟨rfl, others⟩ := List.cons.inj split
      rw [← List.singleton_append, ← List.append_assoc]
      exact ih r' kept' others

/-- Entries that are not of a kind do not bring one about. -/
theorem Since.of_append {mid : List Entry} (since : Since p stop (past ++ mid))
    (none : ∀ e ∈ mid, ¬ p e) : Since p stop past := by
  induction mid using List.reverseRecOn with
  | nil => rwa [List.append_nil] at since
  | append_singleton mid e ih =>
    rw [← List.append_assoc] at since
    rcases since_concat_iff.mp since with hp | ⟨-, since⟩
    · exact absurd hp (none e (by simp))
    · exact ih since fun d hd => none d (by simp [hd])

end Schema

namespace Sample

/-- A session with one database, which has not been asked for anything. -/
def opened : Session := { databases := [{ name := "lab" }] }

def mouse : TableRef := ⟨"mouse", "", by decide⟩

/-- A server that knows the table, with one column of the given type. -/
def described (sqlType : String) : List ((Option String × String) × Reply) :=
  [((none, "mouse"), .rows [] (some
    [[.text "id", .text sqlType, .int 1, .int 0, .null, .text "", .text ""]]))]

/-- The table is asked for before it exists, twice after that, and again after a reset. -/
def turns : List Schema.Turn :=
  [⟨[], .header (.name "mouse")⟩, ⟨described "int", .header (.name " `mouse` ")⟩,
    ⟨described "blob", .header (.reference mouse)⟩, ⟨described "blob", .reset⟩,
    ⟨described "blob", .header (.name "mouse")⟩]

end Sample
end Relational

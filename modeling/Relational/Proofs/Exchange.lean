import Relational.Proofs.Contexts
import Relational.Query

/-!
# Statements and their replies

A query compiles its expression, sends one statement and reads the reply. `Action.Sends` says which
statement an action sends and what it comes to. Compiling, checking and reading send nothing.
-/

namespace Relational

variable {α β : Type}

/-- An action comes to an outcome after it has sent one statement and nothing else. -/
def Action.Sends (m : Action α) (σ : Session) (statement : String) (outcome : Except Error α) :
    Prop :=
  ∃ σ', m.run.run σ = (outcome, σ') ∧ σ'.events = σ.events ++ [.execute statement]

/-- An action comes to an outcome in all sessions and sends nothing; at most it reports notices. -/
def Action.Yields (m : Action α) (outcome : Except Error α) : Prop :=
  ∀ σ : Session, ∃ notices, m.run.run σ = (outcome, { σ with notices := notices })

theorem yields_lift {x outcome : Except Error α} (h : x = outcome) :
    (liftM x : Action α).Yields outcome :=
  fun σ => ⟨σ.notices, h ▸ rfl⟩

theorem yields_map (x : Except Error α) (f : α → β) :
    (do return f (← liftM x) : Action β).Yields (x.map f) := by
  cases x with
  | error err => exact fun σ => ⟨σ.notices, rfl⟩
  | ok a => exact fun σ => ⟨σ.notices, rfl⟩

theorem yields_compiling {m : Compiler α} {outcome : Except Error α} {ctx : Context}
    (h : m.run.run {} = (outcome, ctx)) : (Query.compiling m).Yields outcome := by
  intro σ
  refine ⟨σ.notices ++ ctx.notices, ?_⟩
  unfold Query.compiling
  rw [h]
  rfl

theorem yields_ofReport {r : Report α} {outcome : Except Error α} {notices : List Notice}
    (h : r.run.run [] = (outcome, notices)) : (Session.ofReport r).Yields outcome := by
  intro σ
  refine ⟨σ.notices ++ notices, ?_⟩
  unfold Session.ofReport
  rw [h]
  rfl

theorem yields_pure (a : α) : (pure a : Action α).Yields (.ok a) := fun σ => ⟨σ.notices, rfl⟩

theorem yields_bind {m : Action α} {f : α → Action β} {a : α} {outcome : Except Error β}
    (hm : m.Yields (.ok a)) (hf : (f a).Yields outcome) : (m >>= f).Yields outcome := by
  intro σ
  obtain ⟨n₁, hm⟩ := hm σ
  obtain ⟨n₂, hf⟩ := hf { σ with notices := n₁ }
  refine ⟨n₂, ?_⟩
  rw [run_bind, hm]
  exact hf

theorem yields_bind_error {m : Action α} {f : α → Action β} {err : Error}
    (hm : m.Yields (.error err)) : (m >>= f).Yields (.error err) := by
  intro σ
  obtain ⟨notices, hm⟩ := hm σ
  refine ⟨notices, ?_⟩
  rw [run_bind, hm]

/-- A silent action comes to a value if a condition holds, and else to the given error. -/
structure Action.Settles (m : Action α) (good : Prop) (err : Error) : Prop where
  returns : good → ∃ a, m.Yields (.ok a)
  fails : ¬ good → m.Yields (.error err)

theorem Action.Settles.exists_outcome {m : Action α} {good failed returned : Prop} {err : Error}
    (h : m.Settles good err) (hf : failed ↔ ¬ good) (hr : returned ↔ good) :
    ∃ outcome, m.Yields outcome ∧ (outcome = .error err ↔ failed) ∧
      ((∃ a, outcome = .ok a) ↔ returned) := by
  rw [hf, hr]
  by_cases hg : good
  · obtain ⟨a, ha⟩ := h.returns hg
    exact ⟨.ok a, ha, by simp [hg], by simp [hg]⟩
  · exact ⟨.error err, h.fails hg, by simp [hg], by simp [hg]⟩

theorem Action.Settles.bind {m : Action α} {f : α → Action β} {good : Prop} {err : Error}
    (h : m.Settles good err) (hf : ∀ a, ∃ b, (f a).Yields (.ok b)) :
    (m >>= f).Settles good err where
  returns hg := by
    obtain ⟨a, ha⟩ := h.returns hg
    obtain ⟨b, hb⟩ := hf a
    exact ⟨b, yields_bind ha hb⟩
  fails hg := yields_bind_error (h.fails hg)

/-- A traversal comes to a value if the condition holds at all its items. -/
theorem settles_mapM {f : α → Action β} {good : α → Prop} {err : Error} {l : List α}
    (each : ∀ a ∈ l, (f a).Settles (good a) err) :
    (l.mapM f).Settles (∀ a ∈ l, good a) err := by
  induction l with
  | nil => exact ⟨fun _ => ⟨[], yields_pure []⟩, fun hg => absurd (by simp) hg⟩
  | cons a l ih =>
    have first := each a (by simp)
    have rest := ih fun b hb => each b (by simp [hb])
    rw [List.mapM_cons]
    constructor
    · intro hg
      obtain ⟨b, hb⟩ := first.returns (hg a (by simp))
      obtain ⟨bs, hbs⟩ := rest.returns fun c hc => hg c (by simp [hc])
      exact ⟨b :: bs, yields_bind hb (yields_bind hbs (yields_pure _))⟩
    · -- The first item that is not good decides, and all of them fail with the same error.
      intro hg
      by_cases ha : good a
      · obtain ⟨b, hb⟩ := first.returns ha
        have bad : ¬ ∀ c ∈ l, good c := fun h => hg (List.forall_mem_cons.mpr ⟨ha, h⟩)
        exact yields_bind hb (yields_bind_error (rest.fails bad))
      · exact yields_bind_error (first.fails ha)

/-- What is sent after a silent action. -/
theorem sends_after {m : Action α} {f : α → Action β} {a : α} {σ : Session} {statement : String}
    {outcome : Except Error β} (hm : m.Yields (.ok a))
    (hf : ∀ notices, (f a).Sends { σ with notices := notices } statement outcome) :
    (m >>= f).Sends σ statement outcome := by
  obtain ⟨notices, hm⟩ := hm σ
  obtain ⟨σ', run, events⟩ := hf notices
  refine ⟨σ', ?_, events⟩
  rw [run_bind, hm]
  exact run

/-- What comes of a reply without anything else being sent. -/
theorem sends_before {m : Action α} {f : α → Action β} {a : α} {σ : Session} {statement : String}
    {outcome : Except Error β} (hm : m.Sends σ statement (.ok a)) (hf : (f a).Yields outcome) :
    (m >>= f).Sends σ statement outcome := by
  obtain ⟨σ₁, run, events⟩ := hm
  obtain ⟨notices, hf⟩ := hf σ₁
  refine ⟨{ σ₁ with notices := notices }, ?_, events⟩
  rw [run_bind, run]
  exact hf

theorem sends_error {m : Action α} {f : α → Action β} {σ : Session} {statement : String}
    {err : Error} (hm : m.Sends σ statement (.error err)) :
    (m >>= f).Sends σ statement (.error err) := by
  obtain ⟨σ', run, events⟩ := hm
  refine ⟨σ', ?_, events⟩
  rw [run_bind, run]

/-! ### Databases -/

/-- A session in which a database is open and the next reply is known. -/
structure Session.Awaits (σ : Session) (id : DatabaseId) (reply : Reply) : Prop where
  isOpen : ∃ d, σ.databases[id]? = some d
  next : σ.replies.head? = some reply

theorem Session.Awaits.report {σ : Session} {id : DatabaseId} {reply : Reply}
    (h : σ.Awaits id reply) (notices : List Notice) :
    Session.Awaits { σ with notices := notices } id reply :=
  ⟨h.isOpen, h.next⟩

theorem run_database {σ : Session} {id : DatabaseId} {d : Database}
    (hd : σ.databases[id]? = some d) : (Session.database id).run.run σ = (.ok d, σ) := by
  unfold Session.database
  rw [run_bind, show (get : Action Session).run.run σ = (.ok σ, σ) from rfl]
  dsimp only
  rw [hd]
  rfl

/-- Logging changes the console at most. -/
theorem run_logStatement {σ : Session} {id : DatabaseId} {d : Database}
    (hd : σ.databases[id]? = some d) (statement : String) :
    ∃ console, (Database.logStatement id statement).run.run σ =
      (.ok (), { σ with console := console }) := by
  let entry : LogEntry := ⟨[.text ("[" ++ d.name ++ "] " ++ statement)], none, none⟩
  obtain ⟨line, logger, wrote⟩ : ∃ line logger,
      Logger.write { enabled := d.debug, heading := .drawn [σ.clock] } entry =
        .ok (line, logger) := by
    cases d.debug <;> exact ⟨_, _, rfl⟩
  refine ⟨σ.console ++ line, ?_⟩
  unfold Database.logStatement
  rw [run_bind, run_database hd]
  show ((liftM (Logger.write { enabled := d.debug, heading := .drawn [σ.clock] } entry) >>=
    fun p => set { σ with console := σ.console ++ p.1 } : Action Unit)).run.run σ = _
  rw [wrote]
  rfl

theorem run_send {σ : Session} {reply : Reply} (hr : σ.replies.head? = some reply)
    (statement : String) :
    (Session.send statement).run.run σ =
      (.ok reply, { σ with
        events := σ.events ++ [.execute statement], replies := σ.replies.tail }) := by
  obtain ⟨rest, hrest⟩ := List.head?_eq_some_iff.mp hr
  let σ₁ : Session := { σ with events := σ.events ++ [.execute statement] }
  have pending : σ₁.replies = reply :: rest := hrest
  unfold Session.send
  rw [run_bind, show (Session.emit (.execute statement)).run.run σ = (.ok (), σ₁) from rfl]
  dsimp only
  rw [run_bind, show (get : Action Session).run.run σ₁ = (.ok σ₁, σ₁) from rfl]
  dsimp only
  rw [pending]
  rfl

/-- The rows of the next reply are those of the statement. -/
theorem sends_run {σ : Session} {id : DatabaseId} {columns : List Label} {rows : ResultSet}
    (h : σ.Awaits id (.rows columns rows)) (statement : String) :
    (Database.run id statement).Sends σ statement (.ok (columns, rows)) := by
  obtain ⟨d, hd⟩ := h.isOpen
  obtain ⟨console, logged⟩ := run_logStatement hd statement
  let σ₁ : Session := { σ with console := console }
  have next : σ₁.replies.head? = some (.rows columns rows) := h.next
  refine ⟨{ σ₁ with
    events := σ.events ++ [.execute statement], replies := σ.replies.tail }, ?_, rfl⟩
  unfold Database.run
  rw [run_bind, logged]
  dsimp only
  rw [run_bind, run_send next]
  rfl

theorem sends_execute {σ : Session} {id : DatabaseId} {columns : List Label} {rows : ResultSet}
    (h : σ.Awaits id (.rows columns rows)) (statement : String) :
    (Database.execute id statement false).Sends σ statement (simplify rows) :=
  sends_before (sends_run h statement) (yields_lift rfl)

theorem sends_fetchRecords {σ : Session} {id : DatabaseId} {columns : List Label}
    {rows : ResultSet} (h : σ.Awaits id (.rows columns rows)) (statement : String) :
    (Database.fetchRecords id statement).Sends σ statement (recordsOf (some columns) rows) :=
  sends_before (sends_run h statement) (yields_lift rfl)

/-! ### Queries -/

/-- The records of a reply under the given column names. -/
def Record.ofReply (columns : List Label) (rows : ResultSet) : List Record :=
  (rows.getD []).map fun row => .ofEntries (columns.zip row)

theorem recordsOf_some (columns : List Label) (rows : ResultSet) :
    recordsOf (some columns) rows = .ok (Record.ofReply columns rows) := by
  match rows with
  | none => rfl
  | some [] => rfl
  | some (_ :: _) => rfl

/-- A query sends the statement of its projection and reads the records under their columns. -/
theorem sends_fetchTuples {q : Query} {args : List Argument} {e : Expr} {c : Compiled}
    {ctx : Context} {σ : Session} {columns : List Label} {rows : ResultSet}
    (projected : q.expr.projectBy (Argument.splitClause args).2 = .ok e)
    (compiled : (e.compile .never).Returns {} c ctx)
    (quotable : c.header.checkQuotable = .ok ())
    (awaits : σ.Awaits q.database (.rows columns rows)) :
    (q.fetchTuples args).Sends σ (c.statement (Argument.splitClause args).1).render
      (.ok (Record.ofReply columns rows, c.header)) := by
  unfold Query.fetchTuples
  revert projected
  rcases Argument.splitClause args with ⟨suffix, args⟩
  intro projected
  refine sends_after (yields_lift projected) fun n₁ => ?_
  refine sends_after (yields_compiling compiled) fun n₂ => ?_
  refine sends_after (yields_lift quotable) fun n₃ => ?_
  have ready := ((awaits.report n₁).report n₂).report n₃
  have fetched := sends_fetchRecords ready (c.statement suffix).render
  rw [recordsOf_some] at fetched
  exact sends_before fetched fun σ => ⟨σ.notices, rfl⟩

end Relational

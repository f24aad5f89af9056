/-
# What HTTP readers see

The HTTP threads read through the handle the pipe thread writes through. A SELECT
therefore sees what the open transaction has done so far, also when that transaction
is rolled back later. `QueryLatestSnapshot` is three statements, with others' commands
between them.
-/

import CapacityAgent.Store.Sharing
import CapacityAgent.Store.ReadQueries
import CapacityAgent.Store.Redelivery

namespace CapacityAgent.Isolation

open KeyedTable Connection SharedConnection Transitions

/-! ## Readers beside the pipe -/

/-- What a thread has of a snapshot after the first statement, then the second. -/
structure PartialSnapshot where
  machineId : CStr
  system : SystemMetrics
  gpus : Option (List GpuSnapshotRow)
  deriving DecidableEq

/-- The store and the HTTP threads. `current`, `applied` and `answers` record the
message under way, the messages committed and what the queries returned; they are for
the statements only. -/
structure Readers where
  store : SharedStore
  current : Option BridgeMessage
  applied : List BridgeMessage
  reading : ℕ → Option PartialSnapshot
  answers : List (Query × Response)

def fresh (db : Database) : Readers := ⟨Shared.fresh db, none, [], fun _ => none, []⟩

/-- The next command of the pipe thread, a query of one statement, or the next statement
of a thread's snapshot. -/
inductive Event
  | submit (message : BridgeMessage)
  | command (ok : Bool)
  | query (query : Query)
  | snapshotSystem (thread : ℕ) (machineId : CStr)
  | snapshotGpus (thread : ℕ)
  | snapshotOllama (thread : ℕ)

/-- A COMMIT has succeeded between the two states. -/
def committed (before after : SharedStore) : Bool :=
  match before.pipe, after.pipe with
  | .running [], .idle => true
  | _, _ => false

/-- The database as a statement on the connection sees it. -/
def Readers.visible (s : Readers) : Database := s.store.conn.db

/-- The database as the last COMMIT left it. -/
def Readers.settled (s : Readers) : Database := s.store.conn.base

def Readers.step (s : Readers) : Event → Option Readers
  | .submit message =>
    (SharedStore.step s.store (.submit message)).map fun store =>
      { s with store := store, current := some message }
  | .command ok =>
    (SharedStore.step s.store (.command ok)).map fun store =>
      { s with
        store := store
        applied := if committed s.store store then s.applied ++ s.current.toList else s.applied }
  | .query (.snapshot _) => none
  | .query query => some { s with answers := s.answers ++ [(query, query.run s.visible)] }
  | .snapshotSystem thread machineId =>
    match s.reading thread with
    | some _ => none
    | none =>
      some
        { s with
          reading := Function.update s.reading thread
            (some ⟨machineId, querySystem machineId s.visible, none⟩) }
  | .snapshotGpus thread =>
    match s.reading thread with
    | some ⟨machineId, system, none⟩ =>
      some
        { s with
          reading := Function.update s.reading thread
            (some ⟨machineId, system, some (queryGpus machineId s.visible)⟩) }
    | _ => none
  | .snapshotOllama thread =>
    match s.reading thread with
    | some ⟨machineId, system, some gpus⟩ =>
      some
        { s with
          reading := Function.update s.reading thread none
          answers := s.answers ++
            [(.snapshot machineId, .snapshot ⟨system, gpus, queryOllama machineId s.visible⟩)] }
    | _ => none

/-- Every answer is one of a database in which the first so many messages have been
applied and nothing else. -/
def WholeMessages (start : Database) (s : Readers) : Prop :=
  ∀ query response, (query, response) ∈ s.answers →
    ∃ count ≤ s.applied.length, query.Returns (replay (s.applied.take count) start) response

/-- No SELECT runs while the open transaction has changed, added or removed a row it
matches. Of a snapshot this is about the first statement; the pipe does not write the
tables of the other two. -/
def ReadsSettled (s : Readers) : Event → Prop
  | .query query => query.Untouched s.visible s.settled
  | .snapshotSystem _ machineId => (Query.snapshot machineId).Untouched s.visible s.settled
  | _ => True

instance (s : Readers) (e : Event) : Decidable (ReadsSettled s e) := by
  unfold ReadsSettled
  split <;> infer_instance

/-! ## Answers on untouched rows -/

/-- On two states with the same matching rows a query of one statement has the same
answers. -/
theorem returns_run_of_untouched {query : Query} {db db' : Database}
    (single : ∀ machineId, query ≠ .snapshot machineId) (same : query.Untouched db db') :
    query.Returns db' (query.run db) := by
  cases query with
  | history sensorUid fromMs toMs limit => exact (Select.answers_select _).of_perm same
  | catalog machineId filter => exact (Select.answers_select _).of_perm same
  | machine machineId => exact same
  | health machineId => exact same
  | snapshot machineId => exact absurd rfl (single machineId)

/-- The messages leave the tables of the other two statements alone. -/
theorem replay_sampleTables (messages : List BridgeMessage) (db : Database) :
    (replay messages db).gpuSamples = db.gpuSamples ∧
      (replay messages db).ollamaRuntimeSamples = db.ollamaRuntimeSamples := by
  induction messages generalizing db with
  | nil => exact ⟨rfl, rfl⟩
  | cons message rest ih =>
    obtain ⟨gpus, ollama⟩ := effect_sampleTables message db
    obtain ⟨gpusLater, ollamaLater⟩ := ih (message.effect db)
    exact ⟨gpusLater.trans gpus, ollamaLater.trans ollama⟩

theorem queryGpus_congr {db db' : Database} (same : db.gpuSamples = db'.gpuSamples)
    (machineId : CStr) : queryGpus machineId db = queryGpus machineId db' := by
  simp only [queryGpus, latestGpus, machineGpus, same]

theorem queryOllama_congr {db db' : Database}
    (same : db.ollamaRuntimeSamples = db'.ollamaRuntimeSamples) (machineId : CStr) :
    queryOllama machineId db = queryOllama machineId db' := by
  simp only [queryOllama, same]

/-! ## The invariant -/

/-- Where the transaction stands in its message: what it still has to execute, and that
what is visible is what it has executed. -/
def Standing (s : Readers) : Prop :=
  match s.store.pipe with
  | .starting stmts => ∃ message, s.current = some message ∧ message.statements = stmts
  | .running stmts => s.store.conn.saved ≠ none ∧
    ∃ message executed, s.current = some message ∧ message.statements = executed ++ stmts ∧
      s.visible = executed.foldl (fun db stmt => stmt.effect db) s.settled
  | .idle | .undoing => True

/-- The state of the transaction, and what the readers have. -/
structure Sound (start : Database) (s : Readers) : Prop where
  settled : s.settled = replay s.applied start
  standing : Standing s
  gpuSamples : s.visible.gpuSamples = start.gpuSamples
  ollamaSamples : s.visible.ollamaRuntimeSamples = start.ollamaRuntimeSamples
  begun : ∀ thread begun, s.reading thread = some begun →
    (∃ count ≤ s.applied.length, ∃ rows : List SystemRow,
      rows.Perm (systemRows begun.machineId (replay (s.applied.take count) start)) ∧
        begun.system = rows.foldl SystemMetrics.absorb {}) ∧
      ∀ gpus, begun.gpus = some gpus → gpus = queryGpus begun.machineId start
  whole : WholeMessages start s

theorem Sound.fresh (start : Database) : Sound start (fresh start) where
  settled := rfl
  standing := trivial
  gpuSamples := rfl
  ollamaSamples := rfl
  begun := fun thread begun has => absurd has (by simp [Isolation.fresh])
  whole := fun query response member => absurd member List.not_mem_nil

theorem committed_iff {before after : SharedStore} :
    committed before after = true ↔ before.pipe = .running [] ∧ after.pipe = .idle := by
  unfold committed
  split
  next running commits => simp [running, commits]
  next other =>
    refine iff_of_false (by simp) ?_
    rintro ⟨running, commits⟩
    exact other running commits

/-- What is recorded of the readers stays true when another message is committed. -/
theorem exists_prefix_concat {P : Database → Prop} {start : Database}
    {applied : List BridgeMessage} (message : BridgeMessage)
    (here : ∃ count ≤ applied.length, P (replay (applied.take count) start)) :
    ∃ count ≤ (applied ++ [message]).length,
      P (replay ((applied ++ [message]).take count) start) := by
  obtain ⟨count, short, holds⟩ := here
  have shorter : count ≤ (applied ++ [message]).length :=
    short.trans (List.length_append ▸ Nat.le_add_right _ _)
  refine ⟨count, shorter, ?_⟩
  rw [List.take_append_of_le_length short]
  exact holds

theorem Sound.submit {start : Database} {s t : Readers} (sound : Sound start s)
    {message : BridgeMessage} (taken : s.step (.submit message) = some t) : Sound start t := by
  obtain ⟨store, stepped, rfl⟩ := Option.map_eq_some_iff.mp taken
  obtain ⟨-, rfl⟩ := Shared.submit_eq_some stepped
  exact { sound with standing := ⟨message, rfl, rfl⟩ }

/-- The transaction is opened: nothing of the message has been executed. -/
theorem Sound.afterBegin {start : Database} {s : Readers} (sound : Sound start s)
    {stmts : List PipeStmt} (starting : s.store.pipe = .starting stmts)
    (free : s.store.conn.saved = none) :
    Sound start { s with
      store := { s.store with
        conn := ⟨s.store.conn.db, some s.store.conn.db⟩
        pipe := .running stmts } } := by
  have visible : s.visible = s.settled := by
    rw [Readers.settled, Conn.base, free]
    rfl
  have standing := sound.standing
  rw [Standing, starting] at standing
  obtain ⟨message, current, whole⟩ := standing
  refine { sound with settled := ?_, standing := ?_ }
  · rw [← sound.settled, ← visible]
    rfl
  · exact ⟨by simp, message, [], current, whole, rfl⟩

/-- One more statement of the message is executed. -/
theorem Sound.afterStatement {start : Database} {s : Readers} (sound : Sound start s)
    {stmt : PipeStmt} {rest : List PipeStmt} (inside : s.store.pipe = .running (stmt :: rest)) :
    Sound start { s with
      store := { s.store with
        conn := ⟨stmt.effect s.visible, s.store.conn.saved⟩
        pipe := .running rest
        tail := s.store.tail ++ [.inl stmt] } } := by
  have standing := sound.standing
  rw [Standing, inside] at standing
  obtain ⟨opened, message, executed, current, whole, visible⟩ := standing
  obtain ⟨saved, has⟩ := Option.ne_none_iff_exists'.mp opened
  have settled : Conn.base ⟨stmt.effect s.visible, s.store.conn.saved⟩ = s.settled := by
    simp [Readers.settled, Conn.base, has]
  refine { sound with settled := ?_, standing := ?_, gpuSamples := ?_, ollamaSamples := ?_ }
  · exact settled.trans sound.settled
  · refine ⟨opened, message, executed ++ [stmt], current, ?_, ?_⟩
    · rw [whole, List.append_assoc]
      rfl
    · rw [Readers.settled, settled, List.foldl_append, ← visible]
      rfl
  · exact (stmt.effect_gpuSamples s.visible).trans sound.gpuSamples
  · exact (stmt.effect_ollamaRuntimeSamples s.visible).trans sound.ollamaSamples

/-- The COMMIT: every statement of the message has been executed, none of another. -/
theorem Sound.afterCommit {start : Database} {s : Readers} (sound : Sound start s)
    (inside : s.store.pipe = .running []) :
    Sound start { s with
      store := ⟨⟨s.store.conn.db, none⟩, .idle, s.store.log ++ s.store.tail, []⟩
      applied := s.applied ++ s.current.toList } := by
  have standing := sound.standing
  rw [Standing, inside] at standing
  obtain ⟨-, message, executed, current, whole, visible⟩ := standing
  rw [current]
  refine { sound with settled := ?_, standing := trivial, begun := ?_, whole := ?_ }
  · rw [List.append_nil] at whole
    rw [Option.toList_some, replay_concat, effect_eq_foldl, whole, ← sound.settled, ← visible]
    rfl
  · intro thread begun has
    obtain ⟨system, gpus⟩ := sound.begun thread begun has
    exact ⟨exists_prefix_concat (P := fun db => ∃ rows : List SystemRow,
      rows.Perm (systemRows begun.machineId db) ∧
        begun.system = rows.foldl SystemMetrics.absorb {}) message system, gpus⟩
  · intro query response answered
    exact exists_prefix_concat (P := fun db => query.Returns db response) message
      (sound.whole query response answered)

/-- The ROLLBACK: what is visible is again what the messages have made. -/
theorem Sound.afterRollback {start : Database} {s : Readers} (sound : Sound start s)
    {saved : Database} (opened : s.store.conn.saved = some saved) :
    Sound start { s with
      store := ⟨⟨saved, none⟩, .idle, s.store.log ++ s.store.tail.filter Sum.isRight, []⟩ } := by
  have settled : saved = s.settled := by
    simp [Readers.settled, Conn.base, opened]
  obtain ⟨gpus, ollama⟩ := replay_sampleTables s.applied start
  refine { sound with settled := ?_, standing := trivial, gpuSamples := ?_, ollamaSamples := ?_ }
  · exact settled.trans sound.settled
  · rw [← gpus, ← sound.settled, ← settled]
    rfl
  · rw [← ollama, ← sound.settled, ← settled]
    rfl

theorem Sound.command {start : Database} {s t : Readers} (sound : Sound start s) {ok : Bool}
    (taken : s.step (.command ok) = some t) : Sound start t := by
  obtain ⟨store, moved, rfl⟩ : ∃ store, Shared.Commanded PipeStmt.apply s.store ok store ∧
      { s with
        store := store
        applied := if committed s.store store then s.applied ++ s.current.toList else s.applied } =
      t := ⟨_, s.store.command_cases PipeStmt.apply ok, Option.some.inj taken⟩
  -- all but a COMMIT that succeeds leave the recorded messages as they are
  have kept : ¬ (s.store.pipe = .running [] ∧ store.pipe = .idle) →
      (if committed s.store store then s.applied ++ s.current.toList else s.applied) = s.applied :=
    fun other => if_neg fun commits => other (committed_iff.mp commits)
  cases moved with
  | rested outside =>
    rw [kept fun commits => outside [] commits.1]
    exact { sound with standing := trivial }
  | failed stmts inside =>
    rw [kept fun commits => absurd commits.2 (by simp)]
    exact { sound with standing := trivial }
  | began stmts starting free =>
    rw [kept fun commits => absurd commits.2 (by simp)]
    exact sound.afterBegin starting free
  | ran stmt rest db inside succeeds took =>
    rw [kept fun commits => absurd (inside.symm.trans commits.1) (by simp)]
    obtain rfl : stmt.effect s.visible = db := Option.some.inj ((stmt.apply_eq _).symm.trans took)
    exact sound.afterStatement inside
  | committed saved inside opened =>
    have commits : committed s.store
        ⟨⟨s.store.conn.db, none⟩, .idle, s.store.log ++ s.store.tail, []⟩ = true :=
      committed_iff.mpr ⟨inside, rfl⟩
    rw [if_pos commits]
    exact sound.afterCommit inside
  | undone saved undoing succeeds opened =>
    rw [kept fun commits => absurd (undoing.symm.trans commits.1) (by simp)]
    exact sound.afterRollback opened

/-! ## Reads -/

/-- What holds of the settled database holds after the whole of the messages so far. -/
theorem Sound.exists_prefix {P : Database → Prop} {start : Database} {s : Readers}
    (sound : Sound start s) (here : P s.settled) :
    ∃ count ≤ s.applied.length, P (replay (s.applied.take count) start) := by
  refine ⟨s.applied.length, le_rfl, ?_⟩
  rw [List.take_length, ← sound.settled]
  exact here

/-- One more answer. -/
theorem WholeMessages.answer {start : Database} {s t : Readers} (whole : WholeMessages start s)
    {query : Query} {response : Response}
    (answered : ∃ count ≤ s.applied.length,
      query.Returns (replay (s.applied.take count) start) response)
    (applied : t.applied = s.applied) (answers : t.answers = s.answers ++ [(query, response)]) :
    WholeMessages start t := by
  intro query' response' member
  rw [applied]
  rw [answers] at member
  rcases List.mem_append.mp member with earlier | now
  · exact whole query' response' earlier
  · obtain ⟨rfl, rfl⟩ := Prod.mk.inj (List.mem_singleton.mp now)
    exact answered

theorem Sound.query {start : Database} {s t : Readers} (sound : Sound start s) {query : Query}
    (untouched : query.Untouched s.visible s.settled) (taken : s.step (.query query) = some t) :
    Sound start t := by
  have single : ∀ machineId, query ≠ .snapshot machineId := by
    rintro machineId rfl
    exact absurd taken (by simp [Readers.step])
  obtain rfl : { s with answers := s.answers ++ [(query, query.run s.visible)] } = t := by
    cases query with
    | snapshot machineId => exact absurd rfl (single machineId)
    | _ => exact Option.some.inj taken
  have here : query.Returns s.settled (query.run s.visible) :=
    returns_run_of_untouched single untouched
  have answered := sound.exists_prefix (P := fun db => query.Returns db (query.run s.visible)) here
  exact { sound with whole := sound.whole.answer answered rfl rfl }

/-- What the threads have when one of them has something new. -/
theorem forall_reading_update {reading : ℕ → Option PartialSnapshot} {thread : ℕ}
    {latest : Option PartialSnapshot} {P : PartialSnapshot → Prop}
    (before : ∀ thread begun, reading thread = some begun → P begun)
    (now : ∀ begun, latest = some begun → P begun) :
    ∀ thread' begun, Function.update reading thread latest thread' = some begun → P begun := by
  intro thread' begun has
  by_cases own : thread' = thread
  · subst own
    rw [Function.update_self] at has
    exact now begun has
  · rw [Function.update_of_ne own] at has
    exact before thread' begun has

theorem Sound.snapshotSystem {start : Database} {s t : Readers} (sound : Sound start s)
    {thread : ℕ} {machineId : CStr}
    (untouched : (Query.snapshot machineId).Untouched s.visible s.settled)
    (taken : s.step (.snapshotSystem thread machineId) = some t) : Sound start t := by
  simp only [Readers.step] at taken
  split at taken
  · exact absurd taken (by simp)
  · obtain rfl := Option.some.inj taken
    refine { sound with begun := forall_reading_update sound.begun ?_ }
    rintro begun ⟨⟩
    refine ⟨?_, fun gpus given => absurd given (by simp)⟩
    exact sound.exists_prefix (P := fun db => ∃ rows : List SystemRow,
      rows.Perm (systemRows machineId db) ∧ querySystem machineId s.visible =
        rows.foldl SystemMetrics.absorb {}) ⟨_, untouched, rfl⟩

theorem Sound.snapshotGpus {start : Database} {s t : Readers} (sound : Sound start s)
    {thread : ℕ} (taken : s.step (.snapshotGpus thread) = some t) : Sound start t := by
  simp only [Readers.step] at taken
  split at taken
  next machineId system reading =>
    obtain rfl := Option.some.inj taken
    refine { sound with begun := forall_reading_update sound.begun ?_ }
    rintro begun ⟨⟩
    refine ⟨(sound.begun thread _ reading).1, ?_⟩
    rintro gpus ⟨⟩
    exact queryGpus_congr sound.gpuSamples machineId
  next => exact absurd taken (by simp)

/-- The third statement completes the snapshot; the pipe has not written the tables of
the last two in the meantime. -/
theorem Sound.snapshotOllama {start : Database} {s t : Readers} (sound : Sound start s)
    {thread : ℕ} (taken : s.step (.snapshotOllama thread) = some t) : Sound start t := by
  simp only [Readers.step] at taken
  split at taken
  next machineId system gpus reading =>
    obtain rfl := Option.some.inj taken
    obtain ⟨⟨count, short, rows, permuted, read⟩, second⟩ := sound.begun thread _ reading
    obtain ⟨sameGpus, sameOllama⟩ := replay_sampleTables (s.applied.take count) start
    refine { sound with
      begun := forall_reading_update sound.begun fun begun now => absurd now (by simp)
      whole := sound.whole.answer ⟨count, short, ?_⟩ rfl rfl }
    refine ⟨⟨rows, permuted, read⟩, ?_, ?_⟩
    · exact (second gpus rfl).trans (queryGpus_congr sameGpus.symm machineId)
    · exact queryOllama_congr (sound.ollamaSamples.trans sameOllama.symm) machineId
  next => exact absurd taken (by simp)

/-! ## Runs -/

/-- **Readers see whole messages** in every run in which no SELECT runs while the open
transaction has touched a row it matches. -/
theorem reads_whole {start : Database} {s : Readers}
    (run : Reaches Readers.step ReadsSettled (fresh start) s) : WholeMessages start s := by
  have preserved : ∀ s e t, Sound start s → ReadsSettled s e → Readers.step s e = some t →
      Sound start t := by
    intro s e t sound settled taken
    cases e with
    | submit message => exact sound.submit taken
    | command ok => exact sound.command taken
    | query query => exact sound.query settled taken
    | snapshotSystem thread machineId => exact sound.snapshotSystem settled taken
    | snapshotGpus thread => exact sound.snapshotGpus taken
    | snapshotOllama thread => exact sound.snapshotOllama taken
  exact (run.invariant preserved (Sound.fresh start)).whole

/-! ## A read inside a transaction -/

/-- Two reads of the machine around a heartbeat, and a snapshot with the heartbeat
between its statements. -/
def settledRun : List Event :=
  [.submit quietHeartbeat, .command true, .query (.machine (text "host")),
    .snapshotSystem 0 (text "host"), .command true, .snapshotGpus 0, .command true, .command true,
    .snapshotOllama 0, .query (.machine (text "host"))]

theorem reads_whole_settledRun :
    ∃ s, exec Readers.step (fresh Database.empty) settledRun = some s ∧
      s.answers.length = 3 ∧ WholeMessages Database.empty s :=
  have ran : exec Readers.step (fresh Database.empty) settledRun = some _ := rfl
  ⟨_, ran, rfl, reads_whole (Reaches.of_exec ran (by decide))⟩

/-- The machine is read after its upsert; the next statement fails. -/
def dirtyRun : List Event :=
  [.submit quietHeartbeat, .command true, .command true, .query (.machine (text "host")),
    .command false, .command true]

/-- The answer has the row of a message that was never applied. -/
theorem reads_not_always_whole :
    ¬ ∀ start s, Reaches Readers.step unguarded (fresh start) s → WholeMessages start s := by
  intro whole
  have ran : exec Readers.step (fresh Database.empty) dirtyRun = some
      { store := ⟨Conn.closed Database.empty, .idle, [], []⟩
        current := some quietHeartbeat
        applied := []
        reading := fun _ => none
        answers := [(.machine (text "host"),
          .machine (some ⟨text "host", text "", text "", 1000, 1000⟩))] } := rfl
  obtain ⟨count, short, returned⟩ :=
    whole _ _ (Reaches.of_exec ran (meets_unguarded _ _)) _ _ List.mem_cons_self
  -- no message was applied, so the only database to read is the empty one
  obtain rfl : count = 0 := Nat.le_zero.mp short
  exact Option.some_ne_none _ returned

end CapacityAgent.Isolation

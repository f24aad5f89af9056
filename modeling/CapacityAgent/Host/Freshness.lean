/-
# When a readiness verdict is based on fresh rows

The handler measures the age of the GPU data by the collector's last report, and
takes the data from `gpu_samples`. The two agree as long as every report is
*backed*: a row at least as new is stored when the report is written. The poll
loop reports whatever its inserts returned, `Initialize` reports a failure with
the present time, and a pipe message may name the collector as its source; an
unbacked report makes old rows pass for fresh ones. So does a request that reads
the rows before a report, the report after it, and takes its time over it.
-/

import CapacityAgent.Host.Agent
import CapacityAgent.Api.Readiness

namespace CapacityAgent

open KeyedTable Connection SharedConnection Transitions RunningMax

variable {machineId : CStr}

/-- Whenever the request in progress would be given a verdict on its rows' values, the
rows are at most 30 s old. -/
def VerdictFresh (s : Host) : Prop :=
  ∀ gpus health, s.request = .gotHealth gpus health → ∀ required nowBridge,
    Verdict.Decided
        (readiness required (gpus.map StoredGpu.snapshotRow) health s.clock nowBridge).verdict →
      ∀ gpu ∈ gpus, s.clock - kStaleThresholdMs ≤ gpu.ts

/-! ## Reports -/

def gpuCollectorId (machineId : CStr) : CStr := collectorId machineId (text "direct_gpu")

/-- The last report of the GPU collector. -/
def gpuReport (machineId : CStr) (db : Database) : Option ℤ :=
  (db.collectorHealth.lookup (gpuCollectorId machineId)).bind (·.lastSampleUtcMs)

/-- The report an upsert of a health row makes. -/
def CollectorUpdate.gpuReport (machineId id : CStr) (new : CollectorUpdate) : Option ℤ :=
  if id = gpuCollectorId machineId then new.lastSampleUtcMs else none

/-- The report a statement of the pipe makes. -/
def PipeStmt.gpuReport (machineId : CStr) : PipeStmt → Option ℤ
  | .collector id new => new.gpuReport machineId id
  | .machine .. | .catalogSensor .. | .sensorSample .. => none

/-- The report a collector call makes. -/
def CollectorCall.gpuReport (machineId : CStr) : CollectorCall → Option ℤ
  | .healthDirect health => health.update.gpuReport machineId health.collectorId
  | .gpuSample .. | .ollamaSample .. => none

/-- The report the event writes. -/
def Host.reports (machineId : CStr) (s : Host) : HostEvent → Option ℤ
  | .command true =>
    match s.store.pipe with
    | .running (stmt :: _) => stmt.gpuReport machineId
    | _ => none
  | .gpuCall true => s.gpu.calls.head?.bind (·.gpuReport machineId)
  | .ollamaCall true => s.ollama.calls.head?.bind (·.gpuReport machineId)
  | _ => none

/-- A row at least as new is stored; or the machine has none, and none about to be
stored is older. -/
def Host.Backed (machineId : CStr) (s : Host) (db : Database) (t : ℤ) : Prop :=
  (∃ key ∈ db.gpuSamples, key.machineId = machineId ∧ t ≤ key.tsUtcMs) ∨
    (∀ key ∈ db.gpuSamples, key.machineId ≠ machineId) ∧ t ≤ s.clock ∧
      ∀ key row, .gpuSample key row ∈ s.gpu.calls → t ≤ key.tsUtcMs

/-- The rows the request holds are no older than the report, or not 30 s old. -/
def Request.Timely (request : Request) (now t : ℤ) : Prop :=
  match request with
  | .none => True
  | .gotGpus gpus | .gotHealth gpus _ =>
    ∀ gpu ∈ gpus, t ≤ gpu.ts ∨ now ≤ gpu.ts + kStaleThresholdMs

/-- The report the request has read or would read now. -/
def Host.seen (machineId : CStr) (s : Host) : Option ℤ :=
  match s.request with
  | .none => none
  | .gotGpus _ => gpuReport machineId s.store.conn.db
  | .gotHealth _ health => lastSampleOf (text "direct_gpu") health

/-- Reports are backed when they are written, and a request overtaken by a report is answered
before its rows are 30 s old. -/
def ReportsBacked (machineId : CStr) (s : Host) (e : HostEvent) : Prop :=
  (∀ t, s.reports machineId e = some t →
    s.Backed machineId s.store.conn.db t ∧
      ∀ gpus, s.request = .gotGpus gpus → s.request.Timely s.clock t) ∧
  ∀ now, e = .tick now → ∀ t, s.seen machineId = some t → s.request.Timely now t

/-! ## Writes -/

/-- Every health row is stored under the key of its machine and source. -/
def WellKeyed (db : Database) : Prop :=
  ∀ id row, db.collectorHealth.lookup id = some row → id = collectorId row.machineId row.source

def PipeStmt.WellKeyed : PipeStmt → Prop
  | .collector id new => id = collectorId new.machineId new.source
  | .machine .. | .catalogSensor .. | .sensorSample .. => True

theorem wellKeyed_statements (message : BridgeMessage) :
    ∀ stmt ∈ message.statements, stmt.WellKeyed := by
  cases message with
  | hello message => simp [BridgeMessage.statements, helloStatements, PipeStmt.WellKeyed]
  | catalogSnapshot message =>
    simp [BridgeMessage.statements, catalogStatements, PipeStmt.WellKeyed]
  | sampleBatch message => simp [BridgeMessage.statements, batchStatements, PipeStmt.WellKeyed]
  | heartbeat message => simp [BridgeMessage.statements, heartbeatStatements, PipeStmt.WellKeyed]

/-- What a write does to the two tables the verdict reads: it inserts GPU rows out of
`inserted`, and merges a report. -/
structure Written (machineId : CStr) (inserted : List GpuKey) (report : Option ℤ)
    (db db' : Database) : Prop where
  keyed : WellKeyed db → WellKeyed db'
  report : gpuReport machineId db' = join (gpuReport machineId db) report
  rows : ∀ key, key ∈ db'.gpuSamples ↔ key ∈ inserted ∨ key ∈ db.gpuSamples

theorem Written.refl (db : Database) : Written machineId [] none db db where
  keyed := id
  report := (join_none_right _).symm
  rows := by simp

/-- A write to other tables. -/
theorem Written.other {db db' : Database} (health : db'.collectorHealth = db.collectorHealth)
    (gpus : db'.gpuSamples = db.gpuSamples) : Written machineId [] none db db' where
  keyed := by
    intro keyed id row found
    rw [health] at found
    exact keyed id row found
  report := by rw [gpuReport, health, join_none_right, gpuReport]
  rows := by simp [gpus]

theorem written_upsertCollector {id : CStr} {new : CollectorUpdate}
    (own : id = collectorId new.machineId new.source) (db : Database) :
    Written machineId [] (new.gpuReport machineId id) db (upsertCollector id new db) where
  keyed := by
    intro keyed id' row found
    rw [upsertCollector, Table.lookup_upsert] at found
    -- the row written carries the machine and the source its key is made of
    split_ifs at found with same
    · obtain rfl := Option.some.inj found
      rw [same]
      cases db.collectorHealth.lookup id <;> exact own
    · exact keyed id' row found
  report := by
    -- another collector's report leaves that of the GPU collector alone
    by_cases same : gpuCollectorId machineId = id
    · have merged : gpuReport machineId (upsertCollector id new db) =
          join (gpuReport machineId db) new.lastSampleUtcMs := by
        rw [gpuReport, gpuReport, same, upsertCollector, Table.lookup_upsert_self]
        cases db.collectorHealth.lookup id with
        | none => simp [CollectorUpdate.fresh]
        | some old => exact laterNullable_eq_join _ _
      rw [merged, CollectorUpdate.gpuReport, if_pos same.symm]
    · rw [CollectorUpdate.gpuReport, if_neg (Ne.symm same), join_none_right, gpuReport,
        upsertCollector, Table.lookup_upsert_of_ne _ _ _ same, gpuReport]
  rows := by simp [upsertCollector]

theorem PipeStmt.written {stmt : PipeStmt} (keyed : stmt.WellKeyed) (db : Database) :
    Written machineId [] (stmt.gpuReport machineId) db (stmt.effect db) := by
  cases stmt with
  | machine machineId new => exact Written.other rfl rfl
  | collector id new => exact written_upsertCollector keyed db
  | catalogSensor envelope sensor => exact Written.other rfl rfl
  | sensorSample message sample =>
    refine Written.other ?_ (PipeStmt.effect_gpuSamples (.sensorSample message sample) db)
    simp only [PipeStmt.effect, storeSample]
    split_ifs <;> rfl

/-- The row a call inserts. -/
def CollectorCall.inserted : CollectorCall → List GpuKey
  | .gpuSample key _ => [key]
  | .ollamaSample .. | .healthDirect .. => []

theorem CollectorCall.written (call : CollectorCall) (db : Database) :
    Written machineId call.inserted (call.gpuReport machineId) db (call.effect db) := by
  cases call with
  | gpuSample key row =>
    refine ⟨fun keyed => keyed, (join_none_right _).symm, fun other => ?_⟩
    rw [CollectorCall.inserted, List.mem_singleton]
    exact Table.mem_put db.gpuSamples key other row
  | ollamaSample key row => exact Written.other rfl rfl
  | healthDirect health =>
    have own : health.collectorId =
        collectorId health.update.machineId health.update.source := rfl
    exact written_upsertCollector own db

/-! ## The invariant -/

theorem Host.Backed.mono {s : Host} {db : Database} {t t' : ℤ} (backed : s.Backed machineId db t')
    (earlier : t ≤ t') : s.Backed machineId db t := by
  rcases backed with ⟨key, stored, own, newer⟩ | ⟨empty, past, pending⟩
  · exact .inl ⟨key, stored, own, earlier.trans newer⟩
  · exact .inr ⟨empty, earlier.trans past,
      fun key row member => earlier.trans (pending key row member)⟩

/-- A report stays backed while the clock runs and the collector goes on: a row it
inserts was pending before. -/
theorem Host.Backed.step {s s' : Host} {db db' : Database} {t : ℤ}
    (backed : s.Backed machineId db t) (clock : s.clock ≤ s'.clock)
    (calls : ∀ key row, .gpuSample key row ∈ s'.gpu.calls →
      .gpuSample key row ∈ s.gpu.calls ∨ s.clock ≤ key.tsUtcMs)
    (rows : ∀ key, key ∈ db'.gpuSamples →
      key ∈ db.gpuSamples ∨ ∃ row, .gpuSample key row ∈ s.gpu.calls)
    (kept : ∀ key, key ∈ db.gpuSamples → key ∈ db'.gpuSamples) :
    s'.Backed machineId db' t := by
  rcases backed with ⟨key, stored, own, newer⟩ | ⟨empty, past, pending⟩
  · exact .inl ⟨key, kept key stored, own, newer⟩
  · by_cases first : ∃ key ∈ db'.gpuSamples, key.machineId = machineId
    · -- the machine's first row: it was pending, so it is no older than the report
      obtain ⟨key, stored, own⟩ := first
      rcases rows key stored with old | ⟨row, member⟩
      · exact absurd own (empty key old)
      · exact .inl ⟨key, stored, own, pending key row member⟩
    · refine .inr ⟨fun key stored own => first ⟨key, stored, own⟩, past.trans clock, ?_⟩
      intro key row member
      rcases calls key row member with old | new
      · exact pending key row old
      · exact past.trans new

/-- A database whose health rows are well keyed and whose last report is backed. -/
structure Host.Sound (machineId : CStr) (s : Host) (db : Database) : Prop where
  keyed : WellKeyed db
  backed : ∀ t, gpuReport machineId db = some t → s.Backed machineId db t

/-- A database that is left alone stays sound while the clock runs and the collector
goes on. -/
theorem Host.Sound.step {s s' : Host} {db : Database} (sound : s.Sound machineId db)
    (clock : s.clock ≤ s'.clock)
    (calls : ∀ key row, .gpuSample key row ∈ s'.gpu.calls →
      .gpuSample key row ∈ s.gpu.calls ∨ s.clock ≤ key.tsUtcMs) :
    s'.Sound machineId db :=
  ⟨sound.keyed, fun t reported => (sound.backed t reported).step clock calls
    (fun _ stored => .inl stored) fun _ stored => stored⟩

/-- A write keeps a database sound whose rows were pending and whose report is backed. -/
theorem Host.Sound.written {s s' : Host} {db db' : Database} (sound : s.Sound machineId db)
    {inserted : List GpuKey} {report : Option ℤ}
    (written : Written machineId inserted report db db') (clock : s.clock ≤ s'.clock)
    (pending : ∀ key ∈ inserted, ∃ row, .gpuSample key row ∈ s.gpu.calls)
    (calls : ∀ key row, .gpuSample key row ∈ s'.gpu.calls →
      .gpuSample key row ∈ s.gpu.calls ∨ s.clock ≤ key.tsUtcMs)
    (meets : ∀ t, report = some t → s.Backed machineId db t) :
    s'.Sound machineId db' := by
  refine ⟨written.keyed sound.keyed, fun t reported => ?_⟩
  have backed : s.Backed machineId db t := by
    rw [written.report] at reported
    rcases eq_or_eq_of_join reported with old | new
    · exact sound.backed t old
    · exact meets t new
  refine backed.step clock calls (fun key stored => ?_) fun key stored => ?_
  · rcases (written.rows key).mp stored with new | old
    · exact .inr (pending key new)
    · exact .inl old
  · exact (written.rows key).mpr (.inr stored)

/-- Both what the threads see and what a rollback would leave are sound, and a request
has seen no report that its rows are too old for. -/
structure Host.Invariant (machineId : CStr) (s : Host) : Prop where
  pipe : ∀ stmt ∈ s.store.pipe.stmts, stmt.WellKeyed
  ollama : ∀ key row, .gpuSample key row ∉ s.ollama.calls
  db : s.Sound machineId s.store.conn.db
  base : s.Sound machineId s.store.conn.base
  grown : ∀ t, gpuReport machineId s.store.conn.base = some t →
    ∃ t', gpuReport machineId s.store.conn.db = some t' ∧ t ≤ t'
  timely : ∀ t, s.seen machineId = some t → s.request.Timely s.clock t

/-- A write of a backed report that no request in progress is too slow for. -/
theorem Host.Invariant.write {s s' : Host} (invariant : s.Invariant machineId)
    {inserted : List GpuKey} {report : Option ℤ} {db' : Database}
    (written : Written machineId inserted report s.store.conn.db db')
    (conn : s'.store.conn = ⟨db', s.store.conn.saved⟩)
    (pipe : ∀ stmt ∈ s'.store.pipe.stmts, stmt.WellKeyed)
    (ollama : ∀ key row, .gpuSample key row ∉ s'.ollama.calls)
    (clock : s'.clock = s.clock) (request : s'.request = s.request)
    (pending : ∀ key ∈ inserted, ∃ row, .gpuSample key row ∈ s.gpu.calls)
    (calls : ∀ key row, .gpuSample key row ∈ s'.gpu.calls →
      .gpuSample key row ∈ s.gpu.calls ∨ s.clock ≤ key.tsUtcMs)
    (meets : ∀ t, report = some t → s.Backed machineId s.store.conn.db t ∧
      ∀ gpus, s.request = .gotGpus gpus → s.request.Timely s.clock t) :
    s'.Invariant machineId := by
  have after : s'.Sound machineId db' :=
    invariant.db.written written clock.ge pending calls fun t new => (meets t new).1
  -- the write does not reach what a rollback would restore
  have before : s'.Sound machineId s.store.conn.base := invariant.base.step clock.ge calls
  refine ⟨pipe, ollama, by rw [conn]; exact after, ?_, ?_, ?_⟩
  · rw [conn]
    cases saved : s.store.conn.saved with
    | none => exact after
    | some db => simpa [Conn.base, saved] using before
  · intro t reported
    rw [conn] at reported ⊢
    cases saved : s.store.conn.saved with
    | none =>
      rw [saved] at reported
      exact ⟨t, reported, le_rfl⟩
    | some db =>
      have old : gpuReport machineId s.store.conn.base = some t := by
        simpa [Conn.base, saved] using reported
      obtain ⟨t', found, earlier⟩ := invariant.grown t old
      obtain ⟨t'', joined, later⟩ := exists_join_some t' report
      exact ⟨t'', by rw [written.report, found, joined], earlier.trans later⟩
  · intro t seen
    have held := invariant.timely t
    rw [clock, request]
    rw [Host.seen, request] at seen
    rw [Host.seen] at held
    cases asked : s.request with
    | none => trivial
    | gotHealth gpus health =>
      rw [asked] at seen held
      exact held seen
    | gotGpus gpus =>
      rw [asked] at seen held
      -- only a request between its queries can still see the new report
      simp only [conn, written.report] at seen
      rcases eq_or_eq_of_join seen with old | new
      · exact held old
      · exact asked ▸ (meets t new).2 gpus asked

/-- The connection is left without a transaction, in a state it was or would have been
rolled back to. -/
theorem Host.Invariant.settle {s s' : Host} (invariant : s.Invariant machineId)
    (conn : s'.store.conn = Conn.closed s.store.conn.db ∨
      s'.store.conn = Conn.closed s.store.conn.base)
    (pipe : s'.store.pipe.stmts = []) (ollama : ∀ key row, .gpuSample key row ∉ s'.ollama.calls)
    (clock : s'.clock = s.clock) (request : s'.request = s.request ∨ s'.request = .none)
    (calls : ∀ call ∈ s'.gpu.calls, call ∈ s.gpu.calls) :
    s'.Invariant machineId := by
  have kept : ∀ db, s.Sound machineId db → s'.Sound machineId db := fun db sound =>
    sound.step clock.ge fun _ _ member => .inl (calls _ member)
  have settled : s'.store.conn = Conn.closed s'.store.conn.db := by
    rcases conn with same | undone
    · rw [same]
      rfl
    · rw [undone]
      rfl
  have sound : s'.Sound machineId s'.store.conn.db := by
    rcases conn with same | undone
    · rw [same]
      exact kept _ invariant.db
    · rw [undone]
      exact kept _ invariant.base
  refine ⟨by simp [pipe], ollama, sound, ?_, ?_, ?_⟩
  · rw [settled]
    exact sound
  · intro t reported
    rw [settled] at reported
    exact ⟨t, reported, le_rfl⟩
  · intro t seen
    rcases request with same | dropped
    · have held := invariant.timely
      rw [clock, same]
      rw [Host.seen, same] at seen
      unfold Host.seen at held
      cases asked : s.request with
      | none => trivial
      | gotHealth gpus health =>
        rw [asked] at seen held
        exact held t seen
      | gotGpus gpus =>
        rw [asked] at seen held
        rcases conn with same | undone
        · rw [same] at seen
          exact held t seen
        · -- a rollback only takes the report back
          rw [undone] at seen
          obtain ⟨t', found, earlier⟩ := invariant.grown t seen
          intro gpu member
          rcases held t' found gpu member with newer | recent
          · exact .inl (earlier.trans newer)
          · exact .inr recent
    · rw [dropped]
      trivial

/-- Steps that write neither table. -/
theorem Host.Invariant.rest {s s' : Host} (invariant : s.Invariant machineId)
    (conn : s'.store.conn = s.store.conn)
    (pipe : ∀ stmt ∈ s'.store.pipe.stmts, stmt.WellKeyed)
    (ollama : ∀ key row, .gpuSample key row ∉ s'.ollama.calls)
    (clock : s'.clock = s.clock) (request : s'.request = s.request)
    (calls : ∀ key row, .gpuSample key row ∈ s'.gpu.calls →
      .gpuSample key row ∈ s.gpu.calls ∨ s.clock ≤ key.tsUtcMs) : s'.Invariant machineId :=
  invariant.write (Written.refl _) conn pipe ollama clock request (by simp) calls (by simp)

/-- The pipe thread's next command. -/
theorem Host.Invariant.command {s : Host} (invariant : s.Invariant machineId) {ok : Bool}
    (meets : ReportsBacked machineId s (.command ok)) :
    Host.Invariant machineId { s with store := s.store.command PipeStmt.apply ok } := by
  have pipe := invariant.pipe
  have moved := s.store.command_cases PipeStmt.apply ok
  generalize s.store.command PipeStmt.apply ok = store at moved ⊢
  cases moved with
  | rested outside =>
    exact invariant.rest rfl (by simp [Txn.stmts]) invariant.ollama rfl rfl
      fun _ _ member => .inl member
  | failed stmts inside =>
    exact invariant.rest rfl (by simp [Txn.stmts]) invariant.ollama rfl rfl
      fun _ _ member => .inl member
  | began stmts starting free =>
    rw [starting] at pipe
    -- BEGIN saves the database as it is, so both halves start equal
    have sound := invariant.db
    exact ⟨pipe, invariant.ollama, ⟨sound.keyed, sound.backed⟩, ⟨sound.keyed, sound.backed⟩,
      fun t reported => ⟨t, reported, le_rfl⟩, invariant.timely⟩
  | ran stmt rest db inside succeeds took =>
    obtain rfl : stmt.effect s.store.conn.db = db :=
      Option.some.inj ((stmt.apply_eq _).symm.trans took)
    rw [inside] at pipe
    have written : Written machineId [] (stmt.gpuReport machineId) s.store.conn.db _ :=
      PipeStmt.written (pipe stmt List.mem_cons_self) s.store.conn.db
    refine invariant.write written rfl (fun later member => ?_) invariant.ollama rfl rfl (by simp)
      (fun _ _ member => .inl member) fun t reported => meets.1 t ?_
    · exact pipe later (List.mem_cons_of_mem _ member)
    -- the report of the statement is the one the condition is about
    · rw [succeeds, Host.reports, inside]
      exact reported
  | committed saved inside opened =>
    exact invariant.settle (.inl rfl) rfl invariant.ollama rfl (.inl rfl) fun _ member => member
  | undone saved undoing succeeds opened =>
    refine invariant.settle (.inr ?_) rfl invariant.ollama rfl (.inl rfl) fun _ member => member
    simp [Conn.base, Conn.closed, opened]

/-- A collector's next call, which it has announced. -/
theorem Host.Invariant.call {s : Host} (invariant : s.Invariant machineId) {call : CollectorCall}
    {ok : Bool} {gpu ollama : Collector}
    (calls : ∀ key row, .gpuSample key row ∈ gpu.calls → .gpuSample key row ∈ s.gpu.calls)
    (pending : ∀ key row, call = .gpuSample key row → call ∈ s.gpu.calls)
    (others : ∀ key row, .gpuSample key row ∉ ollama.calls)
    (meets : ok = true → ∀ t, call.gpuReport machineId = some t →
      s.Backed machineId s.store.conn.db t ∧
        ∀ gpus, s.request = .gotGpus gpus → s.request.Timely s.clock t) :
    Host.Invariant machineId
      { s with
        store := s.store.write CollectorCall.effect call ok
        gpu := gpu
        ollama := ollama } := by
  have pipe : ∀ stmt ∈ (s.store.write CollectorCall.effect call ok).pipe.stmts,
      stmt.WellKeyed := by
    rw [Shared.write_pipe]
    exact invariant.pipe
  have conn := s.store.write_conn CollectorCall.effect call ok
  cases ok with
  | false =>
    exact invariant.rest conn pipe others rfl rfl fun key row member => .inl (calls key row member)
  | true =>
    refine invariant.write (call.written s.store.conn.db) conn pipe others rfl rfl
      (fun key inserted => ?_) (fun key row member => .inl (calls key row member)) (meets rfl)
    cases call with
    | gpuSample key' row =>
      obtain rfl : key = key' := by simpa [CollectorCall.inserted] using inserted
      exact ⟨row, pending _ _ rfl⟩
    | ollamaSample key' row => exact absurd inserted List.not_mem_nil
    | healthDirect health => exact absurd inserted List.not_mem_nil

/-! ## Steps -/

/-- The inserts of a poll carry the time of the poll. -/
theorem gpuSample_mem_gpuPollCalls {names : List CStr} {nowMs : ℤ} {snapshots : List GpuSnapshot}
    {key : GpuKey} {row : GpuRow}
    (member : .gpuSample key row ∈ gpuPollCalls machineId names nowMs snapshots) :
    key.tsUtcMs = nowMs := by
  rcases List.mem_append.mp member with insert | report
  · obtain ⟨⟨key', row'⟩, inserted, same⟩ := List.mem_map.mp insert
    obtain ⟨snap, -, made⟩ := List.mem_map.mp inserted
    obtain ⟨rfl, rfl⟩ : key' = key ∧ row' = row := by simpa using same
    rw [← congrArg (fun gpu : GpuKey × GpuRow => gpu.1.tsUtcMs) made]
    rfl
  · simp [gpuHealth] at report

theorem gpuSample_notMem_ollamaPollCalls {nowMs : ℤ} (reply : OllamaReply) {key : GpuKey}
    {row : GpuRow} : .gpuSample key row ∉ ollamaPollCalls machineId nowMs reply := by
  cases reply <;> simp [ollamaPollCalls, ollamaHealth]

/-- The rows a request finds are no older than the last report. -/
theorem Host.Backed.latestGpus {s : Host} {t : ℤ}
    (backed : s.Backed machineId s.store.conn.db t) :
    ∀ gpu ∈ latestGpus machineId s.store.conn.db, t ≤ gpu.ts := by
  intro gpu selected
  obtain ⟨⟨found, own⟩, largest⟩ := mem_latestGpus.mp selected
  rcases backed with ⟨key, stored, same, newer⟩ | ⟨empty, -, -⟩
  · exact newer.trans (largest key stored same)
  · exact absurd own (empty gpu.1 (Table.mem_iff_exists_lookup.mpr ⟨gpu.2, found⟩))

/-- The report a request reads is the one in the database. -/
theorem gpuReport_of_lastSampleOf {db : Database} (keyed : WellKeyed db) {t : ℤ}
    (found : lastSampleOf (text "direct_gpu") (queryCollectorHealth machineId db) = some t) :
    gpuReport machineId db = some t := by
  obtain ⟨⟨id, row⟩, member, source, sampled⟩ := exists_of_lastSampleOf found
  obtain ⟨stored, machine⟩ := mem_queryCollectorHealth.mp member
  have key : id = gpuCollectorId machineId := by
    have own := keyed id row stored
    rwa [machine, source] at own
  rw [gpuReport, ← key, stored]
  exact sampled

/-- The clock does not go back, so what is backed stays backed. -/
theorem Host.Invariant.tick {s s' : Host} {now : ℤ} (invariant : s.Invariant machineId)
    (meets : ReportsBacked machineId s (.tick now))
    (taken : s.step machineId (.tick now) = some s') : s'.Invariant machineId := by
  simp only [Host.step] at taken
  split_ifs at taken with forward
  obtain rfl := Option.some.inj taken
  have kept : ∀ db, s.Sound machineId db → Host.Sound machineId { s with clock := now } db :=
    fun db sound => sound.step forward fun _ _ member => .inl member
  exact ⟨invariant.pipe, invariant.ollama, kept _ invariant.db, kept _ invariant.base,
    invariant.grown, meets.2 now rfl⟩

theorem Host.Invariant.gpuCall {s s' : Host} {ok : Bool} (invariant : s.Invariant machineId)
    (meets : ReportsBacked machineId s (.gpuCall ok))
    (taken : s.step machineId (.gpuCall ok) = some s') : s'.Invariant machineId := by
  obtain ⟨next, issued, rfl⟩ := Option.map_eq_some_iff.mp taken
  obtain ⟨call, rest, calls, rfl⟩ := Collector.issue_eq_some issued
  refine invariant.call (fun key row member => ?_) (fun _ _ _ => ?_) invariant.ollama
    fun succeeds t reported => ?_
  · rw [calls]
    exact List.mem_cons_of_mem _ member
  · rw [calls]
    exact List.mem_cons_self
  · refine meets.1 t ?_
    rw [succeeds, Host.reports, calls]
    exact reported

theorem Host.Invariant.ollamaCall {s s' : Host} {ok : Bool} (invariant : s.Invariant machineId)
    (meets : ReportsBacked machineId s (.ollamaCall ok))
    (taken : s.step machineId (.ollamaCall ok) = some s') : s'.Invariant machineId := by
  obtain ⟨next, issued, rfl⟩ := Option.map_eq_some_iff.mp taken
  obtain ⟨call, rest, calls, rfl⟩ := Collector.issue_eq_some issued
  have others := invariant.ollama
  rw [calls] at others
  refine invariant.call (fun _ _ member => member) (fun key row same => ?_)
    (fun key row member => others key row (List.mem_cons_of_mem _ member))
    fun succeeds t reported => ?_
  · rw [same] at others
    exact absurd List.mem_cons_self (others key row)
  · refine meets.1 t ?_
    rw [succeeds, Host.reports, calls]
    exact reported

/-- The report that is read is the one the rows of the request have been timely for. -/
theorem Host.Invariant.readHealth {s s' : Host} (invariant : s.Invariant machineId)
    (taken : s.step machineId .readHealth = some s') : s'.Invariant machineId := by
  simp only [Host.step] at taken
  split at taken
  next gpus asked =>
    obtain rfl := Option.some.inj taken
    refine ⟨invariant.pipe, invariant.ollama, ⟨invariant.db.keyed, invariant.db.backed⟩,
      ⟨invariant.base.keyed, invariant.base.backed⟩, invariant.grown, fun t seen => ?_⟩
    have held := invariant.timely t
    rw [Host.seen, asked] at held
    exact held (gpuReport_of_lastSampleOf invariant.db.keyed seen)
  next => exact absurd taken (by simp)

/-- A request that has its answer sees nothing any more. -/
theorem Host.Invariant.answered {s s' : Host} (invariant : s.Invariant machineId)
    (taken : s.step machineId .answered = some s') : s'.Invariant machineId := by
  simp only [Host.step] at taken
  split at taken
  next =>
    obtain rfl := Option.some.inj taken
    exact ⟨invariant.pipe, invariant.ollama, ⟨invariant.db.keyed, invariant.db.backed⟩,
      ⟨invariant.base.keyed, invariant.base.backed⟩, invariant.grown, fun _ _ => trivial⟩
  next => exact absurd taken (by simp)

/-- The step lemma. -/
theorem Host.Invariant.step {s s' : Host} {e : HostEvent} (invariant : s.Invariant machineId)
    (meets : ReportsBacked machineId s e) (taken : s.step machineId e = some s') :
    s'.Invariant machineId := by
  have pipe := invariant.pipe
  have same : ∀ key row, CollectorCall.gpuSample key row ∈ s.gpu.calls →
      .gpuSample key row ∈ s.gpu.calls ∨ s.clock ≤ key.tsUtcMs := fun _ _ member => .inl member
  cases e with
  | tick now => exact invariant.tick meets taken
  | message message =>
    obtain ⟨store, submitted, rfl⟩ := Option.map_eq_some_iff.mp taken
    obtain ⟨-, rfl⟩ := Shared.submit_eq_some submitted
    exact invariant.rest rfl (wellKeyed_statements message) invariant.ollama rfl rfl same
  | command ok =>
    obtain rfl := Option.some.inj taken
    exact invariant.command meets
  | gpuInit failure =>
    cases failure with
    | none =>
      obtain ⟨gpu, began, rfl⟩ := Option.map_eq_some_iff.mp taken
      obtain rfl := Collector.begin_eq_some began
      exact invariant.rest rfl pipe invariant.ollama rfl rfl (by simp)
    | some warning =>
      obtain ⟨gpu, began, rfl⟩ := Option.map_eq_some_iff.mp taken
      obtain rfl := Collector.begin_eq_some began
      exact invariant.rest rfl pipe invariant.ollama rfl rfl (by simp [gpuInitCalls, gpuHealth])
  | gpuPoll names snapshots =>
    obtain ⟨gpu, polled, rfl⟩ := Option.map_eq_some_iff.mp taken
    refine invariant.rest rfl pipe invariant.ollama rfl rfl fun key row member => .inr ?_
    rw [Collector.poll_eq_some polled] at member
    -- the new pending rows carry the present time
    exact (gpuSample_mem_gpuPollCalls member).ge
  | gpuCall ok => exact invariant.gpuCall meets taken
  | ollamaInit ok =>
    obtain ⟨ollama, began, rfl⟩ := Option.map_eq_some_iff.mp taken
    obtain rfl := Collector.begin_eq_some began
    exact invariant.rest rfl pipe (by simp) rfl rfl same
  | ollamaPoll reply =>
    obtain ⟨ollama, polled, rfl⟩ := Option.map_eq_some_iff.mp taken
    refine invariant.rest rfl pipe (fun key row member => ?_) rfl rfl same
    rw [Collector.poll_eq_some polled] at member
    -- an Ollama poll inserts no GPU row
    exact gpuSample_notMem_ollamaPollCalls reply member
  | ollamaCall ok => exact invariant.ollamaCall meets taken
  | restart =>
    obtain rfl := Option.some.inj taken
    -- the open transaction is undone and the request is gone
    exact invariant.settle (.inr rfl) rfl (by simp [Collector.initial]) rfl (.inr rfl)
      (by simp [Collector.initial])
  | readGpus =>
    obtain rfl := Option.some.inj taken
    refine ⟨pipe, invariant.ollama, ⟨invariant.db.keyed, invariant.db.backed⟩,
      ⟨invariant.base.keyed, invariant.base.backed⟩, invariant.grown, ?_⟩
    intro t seen gpu member
    -- the rows just read are no older than any report so far
    exact .inl ((invariant.db.backed t seen).latestGpus gpu member)
  | readHealth => exact invariant.readHealth taken
  | answered => exact invariant.answered taken

theorem Host.Invariant.start (now : ℤ) : (Host.start now).Invariant machineId := by
  have silent : gpuReport machineId Database.empty = none := rfl
  have sound : (Host.start now).Sound machineId Database.empty := by
    refine ⟨fun id row found => ?_, fun t reported => ?_⟩
    · simp [Database.empty] at found
    · rw [silent] at reported
      exact absurd reported (by simp)
  refine ⟨?_, ?_, sound, sound, fun t reported => ?_, fun t seen => trivial⟩
  · simp [Host.start, Shared.fresh, Txn.stmts]
  · simp [Host.start, Collector.initial]
  · rw [show (Host.start now).store.conn.base = Database.empty from rfl, silent] at reported
    exact absurd reported (by simp)

/-- **Verdicts are based on fresh rows** in every run whose reports are backed. -/
theorem verdict_fresh {now : ℤ} {s : Host}
    (run : Reaches (Host.step machineId) (ReportsBacked machineId) (Host.start now) s) :
    VerdictFresh s := by
  have invariant : s.Invariant machineId :=
    run.invariant (fun _ _ _ invariant meets taken => invariant.step meets taken)
      (Host.Invariant.start now)
  intro gpus health asked required nowBridge decided gpu member
  obtain ⟨t, sampled, recent⟩ := recent_of_decided decided
  -- the verdict saw a report less than 30 s old, and the rows are timely for it
  have held := invariant.timely
  unfold Host.seen at held
  rw [asked] at held
  rcases held t sampled gpu member with newer | young
  · omega
  · omega

/-! ## A run with fresh rows, and one without -/

theorem ReportsBacked.of_silent {s : Host} {e : HostEvent} (silent : s.reports machineId e = none)
    (timeless : ∀ now, e ≠ .tick now) : ReportsBacked machineId s e := by
  refine ⟨fun t reported => ?_, fun now tick => absurd tick (timeless now)⟩
  rw [silent] at reported
  exact absurd reported (by simp)

/-- One GPU with 7 GiB of 8 free. -/
def idleGpu : GpuSnapshot := { gpuIndex := 0, vramUsedMb := 1024, vramTotalMb := 8192 }

/-- The collector starts and stores one poll. -/
def firstPoll : List HostEvent :=
  [.gpuInit none, .gpuPoll [] [idleGpu], .gpuCall true, .gpuCall true]

theorem verdict_fresh_after_poll :
    ∃ s gpus health,
      exec (Host.step (text "host")) (Host.start 0) (firstPoll ++ [.readGpus, .readHealth]) =
          some s ∧
        s.request = .gotHealth gpus health ∧
        (readiness 0 (gpus.map StoredGpu.snapshotRow) health 0 0).verdict = .fitsIdle ∧
        VerdictFresh s := by
  have ran : exec (Host.step (text "host")) (Host.start 0)
      (firstPoll ++ [.readGpus, .readHealth]) = some _ := rfl
  refine ⟨_, _, _, ran, rfl, by decide +kernel, verdict_fresh (Reaches.of_exec ran ?_)⟩
  refine ⟨.of_silent rfl (by simp), .of_silent rfl (by simp), .of_silent rfl (by simp), ?_,
    .of_silent rfl (by simp), .of_silent rfl (by simp), trivial⟩
  -- the report follows the row of its poll
  refine ⟨fun t reported => ⟨.inl ?_, fun gpus asked => Request.noConfusion asked⟩, by simp⟩
  obtain rfl : 0 = t := Option.some.inj reported
  exact ⟨⟨text "host", gpuUid 0, 0⟩, by decide, rfl, le_rfl⟩

/-- The agent is restarted 100 s later and finds no driver; its report of that makes the
old row pass for a fresh one. -/
def driverLost : List HostEvent :=
  firstPoll ++ [.tick 100000, .restart, .gpuInit (some (text "")), .gpuCall true, .readGpus,
    .readHealth]

/-- A verdict can be based on rows of any age. -/
theorem verdict_not_always_fresh :
    ¬ ∀ s, Reaches (Host.step (text "host")) unguarded (Host.start 0) s → VerdictFresh s := by
  intro fresh
  obtain ⟨s, gpus, health, ran, asked, now, idle, old⟩ : ∃ s gpus health,
      exec (Host.step (text "host")) (Host.start 0) driverLost = some s ∧
        s.request = .gotHealth gpus health ∧ s.clock = 100000 ∧
        (readiness 0 (gpus.map StoredGpu.snapshotRow) health 100000 100000).verdict = .fitsIdle ∧
        ∃ gpu ∈ gpus, gpu.ts = 0 :=
    ⟨_, _, _, rfl, rfl, rfl, by decide +kernel, by decide⟩
  obtain ⟨gpu, member, ts⟩ := old
  have decided : Verdict.Decided
      (readiness 0 (gpus.map StoredGpu.snapshotRow) health s.clock 100000).verdict := by
    rw [now, idle]
    trivial
  have recent := fresh s (Reaches.of_exec ran (meets_unguarded _ _)) gpus health asked 0 100000
    decided gpu member
  rw [now, ts] at recent
  exact absurd recent (by decide)

end CapacityAgent

/-
# The shared connection

The pipe thread, the GPU thread and the Ollama thread use one `sqlite3*` handle.
A collector call is a single statement, so it is committed at once, unless the
pipe thread has a transaction open: then it belongs to that transaction, and a
rollback takes it away although the call returned true.
-/

import CapacityAgent.Store.Ingest
import CapacityAgent.Library.SharedConnection

namespace CapacityAgent

open KeyedTable SharedConnection Transitions

/-- The store as its threads see it. -/
abbrev SharedStore := Shared Database PipeStmt CollectorCall

/-- What the threads can do next: a message arrives, the pipe thread issues its next
command, a collector calls the store. -/
abbrev StoreEvent := Event BridgeMessage CollectorCall

def SharedStore.step : SharedStore → StoreEvent → Option SharedStore :=
  Shared.step BridgeMessage.statements PipeStmt.apply CollectorCall.effect

/-- What identifies the row a write is about. -/
inductive WriteKey
  | machine (machineId : CStr)
  | collector (id : CStr)
  | sensor (uid : CStr)
  | sensorSample (key : SampleKey)
  | gpuSample (key : GpuKey)
  | ollamaSample (key : OllamaKey)
  deriving DecidableEq

def PipeStmt.key : PipeStmt → WriteKey
  | .machine machineId _ => .machine machineId
  | .collector id _ => .collector id
  | .catalogSensor _ sensor => .sensor sensor.sensorUid
  | .sensorSample message sample => .sensorSample ⟨sample.sensorUid, message.sampleTimeUtcMs⟩

def CollectorCall.key : CollectorCall → WriteKey
  | .gpuSample key _ => .gpuSample key
  | .ollamaSample key _ => .ollamaSample key
  | .healthDirect health => .collector health.collectorId

def writeKey : PipeStmt ⊕ CollectorCall → WriteKey
  | .inl stmt => stmt.key
  | .inr call => call.key

/-- The columns a health report sets, in a row. -/
structure HealthDirect.Reported (health : HealthDirect) (row : CollectorRow) : Prop where
  machineId : row.machineId = health.machineId
  source : row.source = health.source
  collectorType : row.collectorType = health.collectorType
  status : row.status = health.status
  lastError : row.lastError = health.lastError
  updated : row.updatedUtcMs = health.nowUtcMs
  lastSample : ∃ t, row.lastSampleUtcMs = some t ∧ health.nowUtcMs ≤ t

/-- The effect of a call is in the database. -/
def CollectorCall.Present : CollectorCall → Database → Prop
  | .gpuSample key row, db => db.gpuSamples.lookup key = some row
  | .ollamaSample key row, db => db.ollamaRuntimeSamples.lookup key = some row
  | .healthDirect health, db =>
    ∃ row, db.collectorHealth.lookup health.collectorId = some row ∧ health.Reported row

theorem HealthDirect.reported_fresh (health : HealthDirect) :
    health.Reported health.update.fresh where
  machineId := rfl
  source := rfl
  collectorType := rfl
  status := rfl
  lastError := rfl
  updated := rfl
  lastSample := ⟨health.nowUtcMs, rfl, le_rfl⟩

theorem HealthDirect.reported_merge (health : HealthDirect) (old : CollectorRow) :
    health.Reported (health.update.merge old) where
  machineId := rfl
  source := rfl
  collectorType := rfl
  status := rfl
  lastError := rfl
  updated := rfl
  lastSample := by
    have merged : (health.update.merge old).lastSampleUtcMs =
        RunningMax.join old.lastSampleUtcMs (some health.nowUtcMs) := laterNullable_eq_join _ _
    rw [merged]
    cases old.lastSampleUtcMs with
    | none => exact ⟨health.nowUtcMs, rfl, le_rfl⟩
    | some t => exact ⟨max t health.nowUtcMs, rfl, le_max_right t health.nowUtcMs⟩

/-- A call has its effect. -/
theorem CollectorCall.present_effect (call : CollectorCall) (db : Database) :
    call.Present (call.effect db) := by
  cases call with
  | gpuSample key row => exact Table.lookup_put_self _ key row
  | ollamaSample key row => exact Table.lookup_put_self _ key row
  | healthDirect health =>
    refine ⟨_, Table.lookup_upsert_self .., ?_⟩
    cases db.collectorHealth.lookup health.collectorId with
    | none => exact health.reported_fresh
    | some old => exact health.reported_merge old

theorem redo_inl (stmt : PipeStmt) (db : Database) :
    redo PipeStmt.apply CollectorCall.effect (.inl stmt) db = stmt.effect db := by
  rw [redo, stmt.apply_eq, Option.getD_some]

/-- Writes to other keys leave it alone. -/
theorem CollectorCall.present_redo {call : CollectorCall} {write : PipeStmt ⊕ CollectorCall}
    (other : writeKey write ≠ call.key) {db : Database} (here : call.Present db) :
    call.Present (redo PipeStmt.apply CollectorCall.effect write db) := by
  cases write with
  | inl stmt =>
    rw [redo_inl]
    cases call with
    | gpuSample key row =>
      rw [CollectorCall.Present, stmt.effect_gpuSamples]
      exact here
    | ollamaSample key row =>
      rw [CollectorCall.Present, stmt.effect_ollamaRuntimeSamples]
      exact here
    | healthDirect health =>
      obtain ⟨row, found, reported⟩ := here
      refine ⟨row, ?_, reported⟩
      rw [PipeStmt.lookup_collectorHealth ?_ db]
      · exact found
      -- the only statement that writes health rows writes another row
      · rintro new rfl
        exact other rfl
  -- another call's write reaches the same table at most under another key
  | inr write =>
    cases call with
    | gpuSample key row =>
      cases write with
      | gpuSample key' row' =>
        have distinct : key ≠ key' := fun same => other (congrArg WriteKey.gpuSample same.symm)
        exact (Table.lookup_put_of_ne _ row' distinct).trans here
      | ollamaSample key' row' => exact here
      | healthDirect health => exact here
    | ollamaSample key row =>
      cases write with
      | gpuSample key' row' => exact here
      | ollamaSample key' row' =>
        have distinct : key ≠ key' := fun same => other (congrArg WriteKey.ollamaSample same.symm)
        exact (Table.lookup_put_of_ne _ row' distinct).trans here
      | healthDirect health => exact here
    | healthDirect health =>
      obtain ⟨row, found, reported⟩ := here
      cases write with
      | gpuSample key' row' => exact ⟨row, found, reported⟩
      | ollamaSample key' row' => exact ⟨row, found, reported⟩
      | healthDirect health' =>
        have distinct : health.collectorId ≠ health'.collectorId :=
          fun same => other (congrArg WriteKey.collector same.symm)
        exact ⟨row, (Table.lookup_upsert_of_ne _ _ _ distinct).trans found, reported⟩

theorem CollectorCall.present_redoAll {call : CollectorCall}
    {writes : List (PipeStmt ⊕ CollectorCall)} (other : ∀ write ∈ writes, writeKey write ≠ call.key)
    {db : Database} (here : call.Present db) :
    call.Present (redoAll PipeStmt.apply CollectorCall.effect writes db) := by
  induction writes generalizing db with
  | nil => exact here
  | cons write rest ih =>
    exact ih (fun later member => other later (List.mem_cons_of_mem _ member))
      (present_redo (other write List.mem_cons_self) here)

/-- Once no transaction is open, every acknowledged call that no later write to its
key replaced is in the database. -/
def AcknowledgedKept (s : SharedStore) : Prop :=
  s.conn.saved = none → ∀ before call after, s.log = before ++ .inr call :: after →
    (∀ write ∈ after, writeKey write ≠ call.key) → call.Present s.conn.db

/-- **Acknowledged writes are kept** in every run that rolls back no transaction a
collector call was acknowledged in. -/
theorem acknowledged_kept {db : Database} {s : SharedStore}
    (run : Reaches SharedStore.step KeepsWrites (Shared.fresh db) s) : AcknowledgedKept s := by
  intro ended before call after logged others
  -- after its own effect, only writes to other keys follow
  rw [redoAll_log_of_reaches run ended, logged, redoAll_append]
  exact CollectorCall.present_redoAll others (call.present_effect _)

/-! ## A lost sample, and a kept one -/

def quietHeartbeat : BridgeMessage :=
  .heartbeat
    { envelope := ⟨1, text "librehw_bridge", text "host", 1000⟩
      status := text "ok"
      uptimeSeconds := 5
      catalogCount := 0 }

def firstGpuSample : CollectorCall :=
  .gpuSample ⟨text "host", text "nvapi:0", 1000⟩
    { gpuIndex := 0
      gpuName := none
      backend := text "nvapi"
      coreC := none
      hotspotC := none
      memJunctionC := none
      utilGpuPct := some 5
      utilMemPct := none
      powerW := none
      vramUsedBytes := none
      vramTotalBytes := none
      clockGraphicsMhz := none
      clockMemoryMhz := none
      fan0Rpm := none
      fan0Pct := none }

/-- The machine upsert fails after the GPU thread's insert was acknowledged. -/
def lossRun : List StoreEvent :=
  [.submit quietHeartbeat, .command true, .write firstGpuSample true, .command false,
    .command true]

/-- Acknowledged writes can be lost: the rollback of a failed message takes the
sample with it. -/
theorem acknowledged_not_kept :
    ¬ ∀ s, Reaches SharedStore.step unguarded (Shared.fresh Database.empty) s →
      AcknowledgedKept s := by
  intro kept
  have ran : exec SharedStore.step (Shared.fresh Database.empty) lossRun =
      some ⟨Connection.Conn.closed Database.empty, .idle, [.inr firstGpuSample], []⟩ := rfl
  have present := kept _ (Reaches.of_exec ran (meets_unguarded _ _)) rfl [] firstGpuSample [] rfl
    fun write member => absurd member List.not_mem_nil
  exact absurd present
    (by simp [firstGpuSample, CollectorCall.Present, Connection.Conn.closed, Database.empty])

/-- The same insert, in a transaction that commits. -/
def keptRun : List StoreEvent :=
  [.submit quietHeartbeat, .command true, .write firstGpuSample true, .command true,
    .command true, .command true]

theorem acknowledged_kept_commit :
    ∃ s, exec SharedStore.step (Shared.fresh Database.empty) keptRun = some s ∧
      s.conn.saved = none ∧ s.acknowledged = [firstGpuSample] ∧ AcknowledgedKept s :=
  have ran : exec SharedStore.step (Shared.fresh Database.empty) keptRun = some _ := rfl
  ⟨_, ran, rfl, rfl, acknowledged_kept (Reaches.of_exec ran (by decide))⟩

end CapacityAgent

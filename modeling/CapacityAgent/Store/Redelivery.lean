/-
# Redelivered messages

A bridge that is not told whether a message was applied may send it again. Every
statement of a message makes an earlier run of itself irrelevant, also through
the other statements of the message: columns are replaced, kept, joined or
coalesced. So a message applied twice leaves what it leaves applied once.
-/

import CapacityAgent.Store.Ingest
import CapacityAgent.Library.Redelivery

namespace CapacityAgent

open KeyedTable Connection Redelivery RunningMax

/-! ## Merge rules -/

theorem later_again (new old : ℤ) : later new (later new old) = later new old := by
  rw [later_eq_max, later_eq_max, max_assoc, max_self]

theorem laterNullable_again (new old : Option ℤ) :
    laterNullable new (laterNullable new old) = laterNullable new old := by
  rw [laterNullable_eq_join, laterNullable_eq_join]
  cases new with
  | none => simp
  | some new => cases old <;> simp

theorem coalesce_again {α : Type*} (new old : Option α) :
    coalesce new (coalesce new old) = coalesce new old := by
  cases new <;> rfl

/-- A value coalesced under another only shows where the last has none. -/
theorem coalesce_later {α : Type*} (last between old : Option α) :
    coalesce last (coalesce between (coalesce last old)) =
      coalesce last (coalesce between old) := by
  cases last <;> rfl

theorem coalesce_between {α : Type*} (last between : Option α) :
    coalesce last (coalesce between last) = coalesce last between := by
  cases last with
  | none => simp [coalesce]
  | some last => rfl

theorem MachineUpdate.merge_fresh (new : MachineUpdate) : new.merge new.fresh = new.fresh := by
  simp [MachineUpdate.merge, MachineUpdate.fresh, coalesce, later]

theorem MachineUpdate.merge_again (new : MachineUpdate) (old : MachineRow) :
    new.merge (new.merge old) = new.merge old := by
  simp [MachineUpdate.merge, coalesce_again, later_again]

theorem CollectorUpdate.merge_fresh (new : CollectorUpdate) : new.merge new.fresh = new.fresh := by
  obtain ⟨_, _, _, _, hello, sample, _, _, _⟩ := new
  simp only [CollectorUpdate.merge, CollectorUpdate.fresh, laterNullable_eq_join, coalesce,
    Option.or_self]
  cases hello <;> cases sample <;> simp

theorem CollectorUpdate.merge_again (new : CollectorUpdate) (old : CollectorRow) :
    new.merge (new.merge old) = new.merge old := by
  simp [CollectorUpdate.merge, coalesce_again, laterNullable_again]

/-! ## One statement -/

theorem upsertMachine_again (machineId : CStr) (new : MachineUpdate) (db : Database) :
    upsertMachine machineId new (upsertMachine machineId new db) =
      upsertMachine machineId new db := by
  simp only [upsertMachine, Table.upsert_again db.machineCatalog machineId new.merge_fresh
    new.merge_again]

theorem upsertCollector_again (id : CStr) (new : CollectorUpdate) (db : Database) :
    upsertCollector id new (upsertCollector id new db) = upsertCollector id new db := by
  simp only [upsertCollector, Table.upsert_again db.collectorHealth id new.merge_fresh
    new.merge_again]

/-- The sensors of one catalog are seen at one time, so the row that comes first does
not show in the first time. -/
theorem upsertCatalogSensor_later (envelope : MessageEnvelope) (sensor other : CatalogSensor)
    (db : Database) :
    upsertCatalogSensor envelope sensor
        (upsertCatalogSensor envelope other (upsertCatalogSensor envelope sensor db)) =
      upsertCatalogSensor envelope sensor (upsertCatalogSensor envelope other db) := by
  unfold upsertCatalogSensor
  ext1
  case sensorCatalog =>
    refine Table.upsert_later _ _ _ ?_ ?_ ?_
    · simp [coalesce]
    · intro row
      simp [coalesce_again]
    · intro _ row
      cases row with
      | none => simp [coalesce_between]
      | some row => simp [coalesce_later]
  all_goals rfl

theorem upsertCatalogSensor_again (envelope : MessageEnvelope) (sensor : CatalogSensor)
    (db : Database) :
    upsertCatalogSensor envelope sensor (upsertCatalogSensor envelope sensor db) =
      upsertCatalogSensor envelope sensor db := by
  unfold upsertCatalogSensor
  ext1
  case sensorCatalog =>
    refine Table.upsert_again _ _ ?_ ?_
    · simp [coalesce]
    · intro row
      simp [coalesce_again]
  all_goals rfl

theorem storeSample_later (batch : SampleBatchMessage) (sample other : SensorSample)
    (db : Database) :
    storeSample batch sample (storeSample batch other (storeSample batch sample db)) =
      storeSample batch sample (storeSample batch other db) := by
  unfold storeSample
  -- no sample changes the catalog, so each is stored on both sides or on neither
  by_cases known : sample.sensorUid ∈ db.sensorCatalog
  · by_cases otherKnown : other.sensorUid ∈ db.sensorCatalog
    · simp [known, otherKnown, Table.put_later]
    · simp [known, otherKnown]
  · by_cases otherKnown : other.sensorUid ∈ db.sensorCatalog <;> simp [known, otherKnown]

theorem storeSample_again (batch : SampleBatchMessage) (sample : SensorSample) (db : Database) :
    storeSample batch sample (storeSample batch sample db) = storeSample batch sample db := by
  unfold storeSample
  by_cases known : sample.sensorUid ∈ db.sensorCatalog <;> simp [known]

theorem PipeStmt.effect_again (stmt : PipeStmt) (db : Database) :
    stmt.effect (stmt.effect db) = stmt.effect db := by
  cases stmt with
  | machine machineId new => exact upsertMachine_again machineId new db
  | collector id new => exact upsertCollector_again id new db
  | catalogSensor envelope sensor => exact upsertCatalogSensor_again envelope sensor db
  | sensorSample batch sample => exact storeSample_again batch sample db

/-! ## The statements of one message -/

/-- The statement is one the message is applied by. -/
def PipeStmt.Of (message : BridgeMessage) : PipeStmt → Prop
  | .machine machineId new => machineId = message.envelope.machineId ∧ new = message.machineUpdate
  | .collector id new => id = message.collectorId ∧ new = message.collectorUpdate
  | .catalogSensor envelope sensor =>
    ∃ snapshot, message = .catalogSnapshot snapshot ∧ envelope = snapshot.envelope ∧
      sensor ∈ snapshot.sensors
  | .sensorSample batch sample => message = .sampleBatch batch ∧ sample ∈ batch.samples

theorem of_statements (message : BridgeMessage) : ∀ stmt ∈ message.statements, stmt.Of message := by
  cases message with
  | hello message =>
    simp only [BridgeMessage.statements, helloStatements, List.forall_mem_cons]
    exact ⟨⟨rfl, rfl⟩, ⟨rfl, rfl⟩, by simp⟩
  | heartbeat message =>
    simp only [BridgeMessage.statements, heartbeatStatements, List.forall_mem_cons]
    exact ⟨⟨rfl, rfl⟩, ⟨rfl, rfl⟩, by simp⟩
  | catalogSnapshot snapshot =>
    simp only [BridgeMessage.statements, catalogStatements, List.cons_append, List.nil_append,
      List.forall_mem_cons, List.forall_mem_map]
    exact ⟨⟨rfl, rfl⟩, ⟨rfl, rfl⟩, fun sensor here => ⟨snapshot, rfl, rfl, here⟩⟩
  | sampleBatch batch =>
    simp only [BridgeMessage.statements, batchStatements, List.cons_append, List.nil_append,
      List.forall_mem_cons, List.forall_mem_map]
    exact ⟨⟨rfl, rfl⟩, ⟨rfl, rfl⟩, fun sample here => ⟨rfl, here⟩⟩

/-- The machine upsert and the other statements do not meet. -/
theorem effect_machine_comm (machineId : CStr) (new : MachineUpdate) {stmt : PipeStmt}
    (other : ∀ machineId new, stmt ≠ .machine machineId new) (db : Database) :
    stmt.effect (upsertMachine machineId new db) =
      upsertMachine machineId new (stmt.effect db) := by
  cases stmt with
  | machine machineId' new' => exact absurd rfl (other machineId' new')
  | collector id new' => rfl
  | catalogSensor envelope sensor => rfl
  | sensorSample batch sample =>
    by_cases known : sample.sensorUid ∈ db.sensorCatalog <;>
      simp [PipeStmt.effect, storeSample, upsertMachine, known]

/-- The collector upsert and the statements of the elements do not meet. -/
theorem effect_collector_comm (id : CStr) (new : CollectorUpdate) {stmt : PipeStmt}
    (other : ∀ id new, stmt ≠ .collector id new) (db : Database) :
    stmt.effect (upsertCollector id new db) = upsertCollector id new (stmt.effect db) := by
  cases stmt with
  | machine machineId new' => rfl
  | collector id' new' => exact absurd rfl (other id' new')
  | catalogSensor envelope sensor => rfl
  | sensorSample batch sample =>
    by_cases known : sample.sensorUid ∈ db.sensorCatalog <;>
      simp [PipeStmt.effect, storeSample, upsertCollector, known]

/-- Statements that do not meet may change places, after which the second run of the
first changes nothing. -/
theorem effect_later_of_comm {stmt other : PipeStmt} {db : Database}
    (comm : other.effect (stmt.effect db) = stmt.effect (other.effect db)) :
    stmt.effect (other.effect (stmt.effect db)) = stmt.effect (other.effect db) := by
  rw [comm, stmt.effect_again]

/-- A statement of a message makes its own earlier run irrelevant, also behind another
statement of the message. -/
theorem PipeStmt.Of.effect_later {message : BridgeMessage} {stmt other : PipeStmt}
    (own : stmt.Of message) (otherOwn : other.Of message) (db : Database) :
    stmt.effect (other.effect (stmt.effect db)) = stmt.effect (other.effect db) := by
  cases stmt with
  | machine machineId new =>
    cases other with
    | machine machineId' new' =>
      -- a message has one machine upsert
      obtain ⟨rfl, rfl⟩ := own
      obtain ⟨rfl, rfl⟩ := otherOwn
      rw [PipeStmt.effect_again, PipeStmt.effect_again]
    | _ => exact effect_later_of_comm (effect_machine_comm machineId new (by simp) db)
  | collector id new =>
    cases other with
    | machine machineId new' =>
      exact effect_later_of_comm (effect_machine_comm machineId new' (by simp) db).symm
    | collector id' new' =>
      -- and one collector upsert
      obtain ⟨rfl, rfl⟩ := own
      obtain ⟨rfl, rfl⟩ := otherOwn
      rw [PipeStmt.effect_again, PipeStmt.effect_again]
    | _ => exact effect_later_of_comm (effect_collector_comm id new (by simp) db)
  | catalogSensor envelope sensor =>
    cases other with
    | machine machineId new =>
      exact effect_later_of_comm (effect_machine_comm machineId new (by simp) db).symm
    | collector id new =>
      exact effect_later_of_comm (effect_collector_comm id new (by simp) db).symm
    | catalogSensor envelope' sensor' =>
      obtain ⟨snapshot, rfl, rfl, -⟩ := own
      obtain ⟨snapshot', same, rfl, -⟩ := otherOwn
      obtain rfl := BridgeMessage.catalogSnapshot.inj same
      exact upsertCatalogSensor_later snapshot.envelope sensor sensor' db
    | sensorSample batch sample =>
      -- no message has elements of both kinds
      obtain ⟨snapshot, rfl, -⟩ := own
      exact absurd otherOwn.1 (by simp)
  | sensorSample batch sample =>
    cases other with
    | machine machineId new =>
      exact effect_later_of_comm (effect_machine_comm machineId new (by simp) db).symm
    | collector id new =>
      exact effect_later_of_comm (effect_collector_comm id new (by simp) db).symm
    | catalogSensor envelope sensor =>
      obtain ⟨snapshot, rfl, -⟩ := otherOwn
      exact absurd own.1 (by simp)
    | sensorSample batch' sample' =>
      obtain rfl := BridgeMessage.sampleBatch.inj (own.1.symm.trans otherOwn.1)
      exact storeSample_later batch sample sample' db

/-! ## The message -/

/-- The statements of a message overwrite. -/
theorem overwriting_statements (message : BridgeMessage) :
    Overwriting (fun db (stmt : PipeStmt) => stmt.effect db) message.statements where
  again := fun stmt _ db => stmt.effect_again db
  later := fun stmt here other otherHere db =>
    (of_statements message stmt here).effect_later (of_statements message other otherHere) db

/-- The effect of a message is that of its statements in order. -/
theorem effect_eq_foldl (message : BridgeMessage) (db : Database) :
    message.effect db = message.statements.foldl (fun db stmt => stmt.effect db) db := by
  have whole := applyAll_statements message db
  rw [applyAll_eq_foldl PipeStmt.apply PipeStmt.effect message.statements
    fun stmt _ db => stmt.apply_eq db] at whole
  exact (Option.some.inj whole).symm

/-- The pipe writes neither sample table of the collectors. -/
theorem foldl_effect_sampleTables (stmts : List PipeStmt) (db : Database) :
    (stmts.foldl (fun db stmt => stmt.effect db) db).gpuSamples = db.gpuSamples ∧
      (stmts.foldl (fun db stmt => stmt.effect db) db).ollamaRuntimeSamples =
        db.ollamaRuntimeSamples := by
  induction stmts generalizing db with
  | nil => exact ⟨rfl, rfl⟩
  | cons stmt rest ih =>
    rw [List.foldl_cons, (ih _).1, (ih _).2]
    exact ⟨stmt.effect_gpuSamples db, stmt.effect_ollamaRuntimeSamples db⟩

theorem effect_sampleTables (message : BridgeMessage) (db : Database) :
    (message.effect db).gpuSamples = db.gpuSamples ∧
      (message.effect db).ollamaRuntimeSamples = db.ollamaRuntimeSamples := by
  rw [effect_eq_foldl]
  exact foldl_effect_sampleTables message.statements db

/-- **Redelivery is harmless.** From every database, a message applied twice leaves
all tables as applied once; and once a message has been reported as applied, sending
it again changes nothing, whichever commands fail then. -/
theorem redelivery_harmless (message : BridgeMessage) (db : Database) :
    message.effect (message.effect db) = message.effect db ∧
      ∀ fails, persist fails message (Conn.closed db) = (false, Conn.closed db) ∨
        (persist fails message (Conn.closed db)).1 = true ∧
          ∀ again, (persist again message (persist fails message (Conn.closed db)).2).2 =
            (persist fails message (Conn.closed db)).2 := by
  have twice : message.effect (message.effect db) = message.effect db := by
    simp only [effect_eq_foldl]
    exact (overwriting_statements message).foldl_twice db
  refine ⟨twice, fun fails => ?_⟩
  rcases persist_closed message fails db with failed | succeeded
  · exact .inl failed
  · right
    refine ⟨by rw [succeeded], fun again => ?_⟩
    rw [succeeded]
    -- the second attempt fails without a trace or has the same effect again
    rcases persist_closed message again (message.effect db) with failed | repeated
    · rw [failed]
    · rw [repeated, twice]

end CapacityAgent

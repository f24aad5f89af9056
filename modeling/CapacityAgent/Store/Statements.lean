/-
# The SQL statements of the store

Every write the agent makes is one of these statements, each atomic. The
insert-or-update statements carry their `ON CONFLICT` clause as the merge of the
stored row with the excluded one. A statement can be refused by a constraint
(`none`); the only one that can fail here is the foreign key of `sensor_samples`,
which the `WHERE EXISTS` filter in front of it keeps from being reached.
-/

import CapacityAgent.Store.Schema
import CapacityAgent.Store.ExtraJson
import CapacityAgent.Library.RunningMax

namespace CapacityAgent

open KeyedTable RunningMax

/-! ## Merge rules -/

/-- `CASE WHEN new > old THEN new ELSE old END`. -/
def later (new old : ℤ) : ℤ := if new > old then new else old

/-- The same for nullable columns, NULL counting as older than everything. -/
def laterNullable : Option ℤ → Option ℤ → Option ℤ
  | none, old => old
  | some new, none => some new
  | some new, some old => if new > old then some new else some old

theorem later_eq_max (new old : ℤ) : later new old = max old new := by
  unfold later
  split_ifs with newer
  · rw [max_eq_right (le_of_lt newer)]
  · rw [max_eq_left (not_lt.mp newer)]

theorem laterNullable_eq_join (new old : Option ℤ) : laterNullable new old = join old new := by
  cases new with
  | none => simp [laterNullable]
  | some new =>
    cases old with
    | none => simp [laterNullable]
    | some old =>
      rw [join_some_some, ← later_eq_max, later, laterNullable]
      split_ifs <;> rfl

/-- `COALESCE(new, old)`. -/
def coalesce {α : Type*} (new old : Option α) : Option α := new.or old

/-! ## Pipe ingestion -/

/-- The columns `UpsertMachine` binds besides `machine_id`. -/
structure MachineUpdate where
  hostname : Option CStr
  displayName : Option CStr
  seenUtcMs : ℤ
  extraJson : Option CStr
  deriving DecidableEq

/-- The row inserted under a new key. -/
def MachineUpdate.fresh (new : MachineUpdate) : MachineRow where
  hostname := new.hostname
  displayName := new.displayName
  firstSeenUtcMs := new.seenUtcMs
  lastSeenUtcMs := new.seenUtcMs
  extraJson := new.extraJson

/-- The `DO UPDATE SET` clause. -/
def MachineUpdate.merge (new : MachineUpdate) (old : MachineRow) : MachineRow where
  hostname := coalesce new.hostname old.hostname
  displayName := coalesce new.displayName old.displayName
  firstSeenUtcMs := old.firstSeenUtcMs
  lastSeenUtcMs := later new.seenUtcMs old.lastSeenUtcMs
  extraJson := coalesce new.extraJson old.extraJson

/-- `UpsertMachine`. -/
def upsertMachine (machineId : CStr) (new : MachineUpdate) (db : Database) : Database :=
  { db with machineCatalog := db.machineCatalog.upsert machineId new.fresh new.merge }

/-- The columns `UpsertCollector` binds besides `collector_id`. -/
structure CollectorUpdate where
  machineId : CStr
  source : CStr
  collectorType : CStr
  status : CStr
  lastHelloUtcMs : Option ℤ
  lastSampleUtcMs : Option ℤ
  lastError : Option CStr
  updatedUtcMs : ℤ
  extraJson : Option CStr
  deriving DecidableEq

/-- The row inserted under a new key. -/
def CollectorUpdate.fresh (new : CollectorUpdate) : CollectorRow where
  machineId := new.machineId
  source := new.source
  collectorType := new.collectorType
  status := new.status
  lastHelloUtcMs := new.lastHelloUtcMs
  lastSampleUtcMs := new.lastSampleUtcMs
  lastError := new.lastError
  updatedUtcMs := new.updatedUtcMs
  extraJson := new.extraJson

/-- The `DO UPDATE SET` clause. -/
def CollectorUpdate.merge (new : CollectorUpdate) (old : CollectorRow) : CollectorRow where
  machineId := new.machineId
  source := new.source
  collectorType := new.collectorType
  status := new.status
  lastHelloUtcMs := laterNullable new.lastHelloUtcMs old.lastHelloUtcMs
  lastSampleUtcMs := laterNullable new.lastSampleUtcMs old.lastSampleUtcMs
  lastError := new.lastError
  updatedUtcMs := new.updatedUtcMs
  extraJson := coalesce new.extraJson old.extraJson

/-- `UpsertCollector`. -/
def upsertCollector (id : CStr) (new : CollectorUpdate) (db : Database) : Database :=
  { db with collectorHealth := db.collectorHealth.upsert id new.fresh new.merge }

/-- `UpsertCatalogSensor`; an empty `properties_json` is bound as NULL. -/
def upsertCatalogSensor (envelope : MessageEnvelope) (sensor : CatalogSensor) (db : Database) :
    Database :=
  let propertiesJson :=
    if sensor.propertiesJson.bytes.isEmpty then none else some sensor.propertiesJson
  let fresh : SensorRow :=
    { machineId := envelope.machineId
      source := envelope.source
      hardwareUid := sensor.hardwareUid
      hardwarePath := sensor.hardwarePath
      hardwareName := sensor.hardwareName
      hardwareType := sensor.hardwareType
      sensorPath := sensor.sensorPath
      sensorName := sensor.sensorName
      sensorType := sensor.sensorType
      sensorIndex := sensor.sensorIndex
      unit := sensor.unit
      isDefaultHidden := sensor.isDefaultHidden
      firstSeenUtcMs := envelope.sentAtUtcMs
      lastSeenUtcMs := envelope.sentAtUtcMs
      propertiesJson := propertiesJson }
  { db with
    sensorCatalog := db.sensorCatalog.upsert sensor.sensorUid fresh fun old =>
      -- every column is replaced but the first time; properties only by given ones
      { fresh with
        firstSeenUtcMs := old.firstSeenUtcMs
        propertiesJson := coalesce propertiesJson old.propertiesJson } }

/-- `INSERT OR REPLACE INTO sensor_samples`, refused when the foreign key to
`sensor_catalog` has no target. -/
def insertOrReplaceSample (key : SampleKey) (row : SampleRow) (db : Database) : Option Database :=
  if key.sensorUid ∈ db.sensorCatalog then
    some { db with sensorSamples := db.sensorSamples.put key row }
  else none

/-- The row a sample of a batch becomes. -/
def SampleBatchMessage.row (message : SampleBatchMessage) (sample : SensorSample) : SampleRow where
  value := sample.value
  minValue := sample.minValue
  maxValue := sample.maxValue
  quality := sample.quality
  source := message.envelope.source

/-- `InsertSensorSample`: the `SELECT ... WHERE EXISTS` yields no row for an
uncatalogued sensor, and inserting no row succeeds. -/
def insertSensorSample (message : SampleBatchMessage) (sample : SensorSample) (db : Database) :
    Option Database :=
  if sample.sensorUid ∈ db.sensorCatalog then
    insertOrReplaceSample ⟨sample.sensorUid, message.sampleTimeUtcMs⟩ (message.row sample) db
  else some db

/-- The statements of the four ingestion methods. -/
inductive PipeStmt
  | machine (machineId : CStr) (new : MachineUpdate)
  | collector (id : CStr) (new : CollectorUpdate)
  | catalogSensor (envelope : MessageEnvelope) (sensor : CatalogSensor)
  | sensorSample (message : SampleBatchMessage) (sample : SensorSample)
  deriving DecidableEq

/-- Execute a statement. -/
def PipeStmt.apply : PipeStmt → Database → Option Database
  | .machine machineId new, db => some (upsertMachine machineId new db)
  | .collector id new, db => some (upsertCollector id new db)
  | .catalogSensor envelope sensor, db => some (upsertCatalogSensor envelope sensor db)
  | .sensorSample message sample, db => insertSensorSample message sample db

/-- What storing a sample does once the foreign key is known to hold. -/
def storeSample (message : SampleBatchMessage) (sample : SensorSample) (db : Database) : Database :=
  if sample.sensorUid ∈ db.sensorCatalog then
    { db with
      sensorSamples := db.sensorSamples.put ⟨sample.sensorUid, message.sampleTimeUtcMs⟩
        (message.row sample) }
  else db

@[simp] theorem storeSample_sensorCatalog (message : SampleBatchMessage) (sample : SensorSample)
    (db : Database) : (storeSample message sample db).sensorCatalog = db.sensorCatalog := by
  unfold storeSample
  split_ifs <;> rfl

theorem storeSample_sensorSamples (message : SampleBatchMessage) (sample : SensorSample)
    (db : Database) :
    (storeSample message sample db).sensorSamples =
      if sample.sensorUid ∈ db.sensorCatalog then
        db.sensorSamples.put ⟨sample.sensorUid, message.sampleTimeUtcMs⟩ (message.row sample)
      else db.sensorSamples := by
  unfold storeSample
  split_ifs <;> rfl

/-- The filter keeps the foreign key from being violated. -/
theorem insertSensorSample_eq (message : SampleBatchMessage) (sample : SensorSample)
    (db : Database) :
    insertSensorSample message sample db = some (storeSample message sample db) := by
  unfold insertSensorSample storeSample insertOrReplaceSample
  -- in the branch that inserts, the filter has just found the key's target
  split_ifs <;> rfl

/-- What a statement does to the database. -/
def PipeStmt.effect : PipeStmt → Database → Database
  | .machine machineId new, db => upsertMachine machineId new db
  | .collector id new, db => upsertCollector id new db
  | .catalogSensor envelope sensor, db => upsertCatalogSensor envelope sensor db
  | .sensorSample message sample, db => storeSample message sample db

/-- No constraint ever refuses a statement of the pipe. -/
theorem PipeStmt.apply_eq (stmt : PipeStmt) (db : Database) :
    stmt.apply db = some (stmt.effect db) := by
  cases stmt with
  | sensorSample message sample => exact insertSensorSample_eq message sample db
  | _ => rfl

/-- The pipe writes neither sample table of the collectors. -/
theorem PipeStmt.effect_gpuSamples (stmt : PipeStmt) (db : Database) :
    (stmt.effect db).gpuSamples = db.gpuSamples := by
  cases stmt with
  | sensorSample message sample =>
    simp only [PipeStmt.effect, storeSample]
    split_ifs <;> rfl
  | _ => rfl

theorem PipeStmt.effect_ollamaRuntimeSamples (stmt : PipeStmt) (db : Database) :
    (stmt.effect db).ollamaRuntimeSamples = db.ollamaRuntimeSamples := by
  cases stmt with
  | sensorSample message sample =>
    simp only [PipeStmt.effect, storeSample]
    split_ifs <;> rfl
  | _ => rfl

/-- Of the pipe's statements only the collector upsert writes a health row, its own. -/
theorem PipeStmt.lookup_collectorHealth {stmt : PipeStmt} {id : CStr}
    (other : ∀ new, stmt ≠ .collector id new) (db : Database) :
    (stmt.effect db).collectorHealth.lookup id = db.collectorHealth.lookup id := by
  cases stmt with
  | machine machineId new => rfl
  | collector id' new =>
    refine Table.lookup_upsert_of_ne _ _ _ fun same => other new ?_
    rw [same]
  | catalogSensor envelope sensor => rfl
  | sensorSample message sample =>
    simp only [PipeStmt.effect, storeSample]
    split_ifs <;> rfl

/-! ## Collector writes -/

/-- The arguments of `UpsertCollectorHealthDirect`. -/
structure HealthDirect where
  machineId : CStr
  source : CStr
  collectorType : CStr
  status : CStr
  nowUtcMs : ℤ
  lastError : Option CStr
  deriving DecidableEq

/-- The key of the row it updates. -/
def HealthDirect.collectorId (health : HealthDirect) : CStr :=
  CapacityAgent.collectorId health.machineId health.source

/-- The columns it sets; the report counts as a sample, whatever its status. -/
def HealthDirect.update (health : HealthDirect) : CollectorUpdate where
  machineId := health.machineId
  source := health.source
  collectorType := health.collectorType
  status := health.status
  lastHelloUtcMs := none
  lastSampleUtcMs := some health.nowUtcMs
  lastError := health.lastError
  updatedUtcMs := health.nowUtcMs
  extraJson := none

/-- `SqliteStore::UpsertCollectorHealthDirect`. -/
def upsertCollectorHealthDirect (health : HealthDirect) (db : Database) : Database :=
  upsertCollector health.collectorId health.update db

/-- `SqliteStore::InsertGpuSample`. -/
def insertGpuSample (key : GpuKey) (row : GpuRow) (db : Database) : Database :=
  { db with gpuSamples := db.gpuSamples.put key row }

/-- `SqliteStore::InsertOllamaRuntimeSample`. -/
def insertOllamaRuntimeSample (key : OllamaKey) (row : OllamaRow) (db : Database) : Database :=
  { db with ollamaRuntimeSamples := db.ollamaRuntimeSamples.put key row }

/-- The store calls of the GPU and Ollama threads: one statement each, outside any
transaction of their own. -/
inductive CollectorCall
  | gpuSample (key : GpuKey) (row : GpuRow)
  | ollamaSample (key : OllamaKey) (row : OllamaRow)
  | healthDirect (health : HealthDirect)
  deriving DecidableEq

def CollectorCall.effect : CollectorCall → Database → Database
  | .gpuSample key row, db => insertGpuSample key row db
  | .ollamaSample key row, db => insertOllamaRuntimeSample key row db
  | .healthDirect health, db => upsertCollectorHealthDirect health db

end CapacityAgent

/-
# The other queries of the HTTP API

`QuerySensorHistory`, `QuerySensorCatalog`, `QueryMachineCatalog` and the queries of
`Queries` seen as SELECTs: the rows they match, and every answer the SQL allows from
these.
-/

import CapacityAgent.Store.Queries
import CapacityAgent.Library.Select
import Mathlib.Data.List.Lex
import Mathlib.Data.Prod.Lex

namespace CapacityAgent

open KeyedTable Select

/-! ## Sensor history -/

/-- `SensorSampleRow`. -/
structure HistoryRow where
  tsUtcMs : ℤ
  value : Double
  minValue : Option Double
  maxValue : Option Double
  quality : CStr
  deriving DecidableEq

def StoredSample.historyRow (sample : StoredSample) : HistoryRow where
  tsUtcMs := sample.1.tsUtcMs
  value := sample.2.value
  minValue := sample.2.minValue
  maxValue := sample.2.maxValue
  quality := sample.2.quality

/-- The samples of a sensor between two times. -/
def historyMatches (sensorUid : CStr) (fromMs toMs : ℤ) (db : Database) : List HistoryRow :=
  (db.sensorSamples.rows.filter fun sample =>
    sample.1.sensorUid = sensorUid ∧ fromMs ≤ sample.1.tsUtcMs ∧ sample.1.tsUtcMs ≤ toMs).map
    StoredSample.historyRow

/-- `ORDER BY ts_utc_ms DESC`. -/
def historyKey (row : HistoryRow) : ℤ := -row.tsUtcMs

/-- `LIMIT ?`; a negative limit is none. -/
def limitOf (limit : ℤ) : Option ℕ := if limit < 0 then none else some limit.toNat

/-- `QuerySensorHistory`. -/
def querySensorHistory (sensorUid : CStr) (fromMs toMs limit : ℤ) (db : Database) :
    List HistoryRow :=
  select historyKey (limitOf limit) (historyMatches sensorUid fromMs toMs db)

/-! ## Sensor catalog -/

structure CatalogFilter where
  hardwareType : Option CStr
  sensorType : Option CStr
  deriving DecidableEq

/-- `SensorCatalogRow`. -/
structure CatalogRow where
  sensorUid : CStr
  hardwareName : CStr
  hardwareType : CStr
  sensorName : CStr
  sensorType : CStr
  unit : CStr
  sensorIndex : ℤ
  isDefaultHidden : Bool
  deriving DecidableEq

def catalogRow (sensor : CStr × SensorRow) : CatalogRow where
  sensorUid := sensor.1
  hardwareName := sensor.2.hardwareName
  hardwareType := sensor.2.hardwareType
  sensorName := sensor.2.sensorName
  sensorType := sensor.2.sensorType
  unit := sensor.2.unit
  sensorIndex := sensor.2.sensorIndex
  isDefaultHidden := sensor.2.isDefaultHidden

/-- The sensors of a machine that pass the filter. -/
def catalogMatches (machineId : CStr) (filter : CatalogFilter) (db : Database) :
    List CatalogRow :=
  (db.sensorCatalog.rows.filter fun sensor =>
    sensor.2.machineId = machineId ∧
      (∀ type ∈ filter.hardwareType, sensor.2.hardwareType = type) ∧
        ∀ type ∈ filter.sensorType, sensor.2.sensorType = type).map catalogRow

/-- The order of texts, byte by byte. -/
def collation (s : CStr) : List ℕ := s.bytes.map UInt8.toNat

/-- `ORDER BY hardware_type, sensor_type, sensor_name`. -/
def catalogKey (row : CatalogRow) : List ℕ ×ₗ List ℕ ×ₗ List ℕ :=
  toLex (collation row.hardwareType, toLex (collation row.sensorType, collation row.sensorName))

/-- `QuerySensorCatalog`. -/
def querySensorCatalog (machineId : CStr) (filter : CatalogFilter) (db : Database) :
    List CatalogRow :=
  select catalogKey none (catalogMatches machineId filter db)

/-! ## Machine catalog -/

/-- The row of `QueryMachineCatalog`; a NULL name reads as empty. -/
structure MachineAnswer where
  machineId : CStr
  hostname : CStr
  displayName : CStr
  firstSeenUtcMs : ℤ
  lastSeenUtcMs : ℤ
  deriving DecidableEq

def machineAnswer (machineId : CStr) (row : MachineRow) : MachineAnswer where
  machineId := machineId
  hostname := row.hostname.getD (text "")
  displayName := row.displayName.getD (text "")
  firstSeenUtcMs := row.firstSeenUtcMs
  lastSeenUtcMs := row.lastSeenUtcMs

/-- `QueryMachineCatalog`. -/
def queryMachineCatalog (machineId : CStr) (db : Database) : Option MachineAnswer :=
  (db.machineCatalog.lookup machineId).map (machineAnswer machineId)

/-! ## Answers -/

/-- `LatestSnapshot`. -/
structure LatestSnapshot where
  system : SystemMetrics
  gpus : List GpuSnapshotRow
  ollama : OllamaStatus
  deriving DecidableEq

/-- The read methods of the store with their arguments. -/
inductive Query
  | history (sensorUid : CStr) (fromMs toMs limit : ℤ)
  | catalog (machineId : CStr) (filter : CatalogFilter)
  | machine (machineId : CStr)
  | health (machineId : CStr)
  | snapshot (machineId : CStr)
  deriving DecidableEq

/-- What they return. -/
inductive Response
  | history (rows : List HistoryRow)
  | catalog (rows : List CatalogRow)
  | machine (row : Option MachineAnswer)
  | health (rows : List (CStr × CollectorRow))
  | snapshot (latest : LatestSnapshot)
  deriving DecidableEq

/-- What a read method computes on a database nobody changes, with the rows it reads in
the order of storage. -/
def Query.run : Query → Database → Response
  | .history sensorUid fromMs toMs limit, db =>
    .history (querySensorHistory sensorUid fromMs toMs limit db)
  | .catalog machineId filter, db => .catalog (querySensorCatalog machineId filter db)
  | .machine machineId, db => .machine (queryMachineCatalog machineId db)
  | .health machineId, db => .health (queryCollectorHealth machineId db)
  | .snapshot machineId, db =>
    .snapshot ⟨querySystem machineId db, queryGpus machineId db, queryOllama machineId db⟩

/-- What it may return there: the system metrics are made of the matching rows in any
order, the rows of the others come in any order their keys allow. -/
def Query.Returns : Query → Database → Response → Prop
  | .history sensorUid fromMs toMs limit, db, .history rows =>
    Answers historyKey (limitOf limit) (historyMatches sensorUid fromMs toMs db) rows
  | .catalog machineId filter, db, .catalog rows =>
    Answers catalogKey none (catalogMatches machineId filter db) rows
  | .machine machineId, db, .machine row => row = queryMachineCatalog machineId db
  | .health machineId, db, .health rows => rows.Perm (queryCollectorHealth machineId db)
  | .snapshot machineId, db, .snapshot latest =>
    (∃ rows : List SystemRow, rows.Perm (systemRows machineId db) ∧
        latest.system = rows.foldl SystemMetrics.absorb {}) ∧
      latest.gpus = queryGpus machineId db ∧ latest.ollama = queryOllama machineId db
  | _, _, _ => False

theorem Query.returns_run (query : Query) (db : Database) : query.Returns db (query.run db) := by
  cases query with
  | history sensorUid fromMs toMs limit => exact answers_select _
  | catalog machineId filter => exact answers_select _
  | machine machineId => rfl
  | health machineId => exact List.Perm.refl _
  | snapshot machineId => exact ⟨⟨_, List.Perm.refl _, rfl⟩, rfl, rfl⟩

/-- Two states of the database in which the rows that the WHERE clause of a query
matches are the same, in the columns it reads; of the snapshot, those of its first
statement. -/
def Query.Untouched : Query → Database → Database → Prop
  | .history sensorUid fromMs toMs _, db, db' =>
    (historyMatches sensorUid fromMs toMs db).Perm (historyMatches sensorUid fromMs toMs db')
  | .catalog machineId filter, db, db' =>
    (catalogMatches machineId filter db).Perm (catalogMatches machineId filter db')
  | .machine machineId, db, db' =>
    (db.machineCatalog.lookup machineId).map (machineAnswer machineId) =
      (db'.machineCatalog.lookup machineId).map (machineAnswer machineId)
  | .health machineId, db, db' =>
    (db.collectorHealth.rows.filter fun collector => collector.2.machineId = machineId).Perm
      (db'.collectorHealth.rows.filter fun collector => collector.2.machineId = machineId)
  | .snapshot machineId, db, db' => (systemRows machineId db).Perm (systemRows machineId db')

instance : (query : Query) → (db db' : Database) → Decidable (query.Untouched db db')
  | .history .., _, _ => inferInstanceAs (Decidable (List.Perm _ _))
  | .catalog .., _, _ => inferInstanceAs (Decidable (List.Perm _ _))
  | .machine .., _, _ => inferInstanceAs (Decidable (_ = _))
  | .health .., _, _ => inferInstanceAs (Decidable (List.Perm _ _))
  | .snapshot .., _, _ => inferInstanceAs (Decidable (List.Perm _ _))

theorem Query.Untouched.refl (query : Query) (db : Database) : query.Untouched db db := by
  cases query with
  | machine machineId => rfl
  | _ => exact List.Perm.refl _

end CapacityAgent

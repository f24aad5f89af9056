/-
# The queries behind the HTTP API

`QueryLatestSnapshot` and `QueryCollectorHealth`. Rows come in storage order where
the SQL has no `ORDER BY`. The three parts of the snapshot are three statements of
their own, and each sees the database at the time it runs.
-/

import CapacityAgent.Store.Samples
import Mathlib.Data.List.Infix
import Mathlib.Data.List.Sort

namespace CapacityAgent

open KeyedTable Newest

/-! ## The system section -/

/-- `std::string::find` finds the text. -/
def contains (s : CStr) (part : String) : Bool := decide (lit part <:+: s.bytes)

/-- The system metrics of `LatestSnapshot` that are ever set. -/
structure SystemMetrics where
  cpuPackageC : Option Double := none
  cpuTotalLoadPct : Option Double := none
  memoryUsedBytes : Option ℤ := none
  deriving DecidableEq

/-- A row of the join of `latest_sensor_samples` with `sensor_catalog`. -/
structure SystemRow where
  sensorName : CStr
  sensorType : CStr
  hardwareType : CStr
  value : Double
  deriving DecidableEq

/-- The rows of the system statement. -/
def systemRows (machineId : CStr) (db : Database) : List SystemRow :=
  (latestSensorSamples db).filterMap fun sample =>
    match db.sensorCatalog.lookup sample.uid with
    -- an inner join: a sample without a catalog row is not listed
    | none => none
    | some sensor =>
      if sensor.machineId = machineId ∧
          sensor.hardwareType ∈ [text "Cpu", text "Memory"] ∧
          sensor.sensorType ∈ [text "Temperature", text "Load", text "Data"] then
        some ⟨sensor.sensorName, sensor.sensorType, sensor.hardwareType, sample.2.value⟩
      else none

/-- A `double` number of GiB as bytes, truncated. -/
def gibToBytes (value : Double) : ℤ := (value * 1073741824).num.tdiv (value * 1073741824).den

/-- What a row does to the metrics: the first CPU temperature is kept, later loads
and sizes replace earlier ones. -/
def SystemMetrics.absorb (metrics : SystemMetrics) (row : SystemRow) : SystemMetrics :=
  if row.hardwareType = text "Cpu" ∧ row.sensorType = text "Temperature" then
    { metrics with cpuPackageC := metrics.cpuPackageC.or (some row.value) }
  else if row.hardwareType = text "Cpu" ∧ row.sensorType = text "Load" ∧
      contains row.sensorName "Total" then
    { metrics with cpuTotalLoadPct := some row.value }
  -- the memory load is selected and not used
  else if row.hardwareType = text "Memory" ∧ row.sensorType = text "Load" then metrics
  else if row.hardwareType = text "Memory" ∧ row.sensorType = text "Data" ∧
      contains row.sensorName "Used" then
    { metrics with memoryUsedBytes := some (gibToBytes row.value) }
  else metrics

/-- The system part of `QueryLatestSnapshot`. -/
def querySystem (machineId : CStr) (db : Database) : SystemMetrics :=
  (systemRows machineId db).foldl SystemMetrics.absorb {}

/-! ## The GPU section -/

/-- A row of `gpu_samples` with its key. -/
abbrev StoredGpu := GpuKey × GpuRow

def StoredGpu.uid (gpu : StoredGpu) : CStr := gpu.1.gpuUid

def StoredGpu.ts (gpu : StoredGpu) : ℤ := gpu.1.tsUtcMs

/-- The GPU rows of a machine. -/
def machineGpus (machineId : CStr) (db : Database) : List StoredGpu :=
  db.gpuSamples.rows.filter fun gpu => gpu.1.machineId = machineId

/-- The rows the GPU statement selects: those with the machine's greatest
`ts_utc_ms`, by `gpu_index`. -/
def latestGpus (machineId : CStr) (db : Database) : List StoredGpu :=
  (newest StoredGpu.ts (machineGpus machineId db)).insertionSort
    fun first second => first.2.gpuIndex ≤ second.2.gpuIndex

/-- The columns of `GpuSnapshotRow`; a NULL name reads as empty. -/
structure GpuSnapshotRow where
  gpuIndex : ℤ
  gpuName : CStr
  coreC : Option Double
  hotspotC : Option Double
  utilGpuPct : Option Double
  vramUsedBytes : Option ℤ
  vramTotalBytes : Option ℤ
  powerW : Option Double
  deriving DecidableEq

def StoredGpu.snapshotRow (gpu : StoredGpu) : GpuSnapshotRow where
  gpuIndex := gpu.2.gpuIndex
  gpuName := gpu.2.gpuName.getD (text "")
  coreC := gpu.2.coreC
  hotspotC := gpu.2.hotspotC
  utilGpuPct := gpu.2.utilGpuPct
  vramUsedBytes := gpu.2.vramUsedBytes
  vramTotalBytes := gpu.2.vramTotalBytes
  powerW := gpu.2.powerW

/-- The GPU part of `QueryLatestSnapshot`. -/
def queryGpus (machineId : CStr) (db : Database) : List GpuSnapshotRow :=
  (latestGpus machineId db).map StoredGpu.snapshotRow

/-- A stored row is selected when no row of the machine is newer. -/
theorem mem_latestGpus {machineId : CStr} {db : Database} {gpu : StoredGpu} :
    gpu ∈ latestGpus machineId db ↔
      (db.gpuSamples.lookup gpu.1 = some gpu.2 ∧ gpu.1.machineId = machineId) ∧
        ∀ key ∈ db.gpuSamples, key.machineId = machineId → key.tsUtcMs ≤ gpu.1.tsUtcMs := by
  have listed : ∀ other : StoredGpu, other ∈ machineGpus machineId db ↔
      db.gpuSamples.lookup other.1 = some other.2 ∧ other.1.machineId = machineId := by
    intro other
    rw [machineGpus, List.mem_filter, decide_eq_true_iff]
    exact and_congr_left' Table.mem_rows
  rw [latestGpus, List.mem_insertionSort, mem_newest, listed]
  -- no newer row is the same as no newer key
  refine and_congr_right' ⟨fun largest key stored own => ?_, fun largest other here => ?_⟩
  · obtain ⟨row, found⟩ := Table.mem_iff_exists_lookup.mp stored
    exact largest (key, row) ((listed _).mpr ⟨found, own⟩)
  · obtain ⟨found, own⟩ := (listed other).mp here
    exact largest other.1 (Table.mem_iff_exists_lookup.mpr ⟨other.2, found⟩) own

theorem nodup_latestGpus (machineId : CStr) (db : Database) : (latestGpus machineId db).Nodup :=
  (List.perm_insertionSort _ _).nodup_iff.mpr ((db.gpuSamples.nodup_rows.filter _).filter _)

/-! ## The Ollama section -/

/-- The Ollama fields of `LatestSnapshot`. -/
structure OllamaStatus where
  reachable : Bool := false
  loadedModelCount : ℤ := 0
  residentVramBytes : Option ℤ := none
  deriving DecidableEq

/-- The Ollama part of `QueryLatestSnapshot`: the newest row of the machine. -/
def queryOllama (machineId : CStr) (db : Database) : OllamaStatus :=
  match newest (fun sample : OllamaKey × OllamaRow => sample.1.tsUtcMs)
      (db.ollamaRuntimeSamples.rows.filter fun sample => sample.1.machineId = machineId) with
  | [] => {}
  | (_, row) :: _ =>
    { reachable := true
      loadedModelCount := row.loadedModelCount.getD 0
      residentVramBytes := row.residentVramBytes }

/-! ## Collector health -/

/-- `QueryCollectorHealth`; the first component is `collector_id`. -/
def queryCollectorHealth (machineId : CStr) (db : Database) : List (CStr × CollectorRow) :=
  db.collectorHealth.rows.filter fun collector => collector.2.machineId = machineId

theorem mem_queryCollectorHealth {machineId : CStr} {db : Database}
    {collector : CStr × CollectorRow} :
    collector ∈ queryCollectorHealth machineId db ↔
      db.collectorHealth.lookup collector.1 = some collector.2 ∧
        collector.2.machineId = machineId := by
  rw [queryCollectorHealth, List.mem_filter, decide_eq_true_iff]
  exact and_congr_left' Table.mem_rows

end CapacityAgent

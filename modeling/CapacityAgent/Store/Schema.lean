/-
# The database

The tables of `schema.sql` that the agent writes: each is a keyed table whose
value type holds the columns outside the primary key. Columns no statement ever
writes (`extra_json` of the sample tables, the PCIe columns of `gpu_samples`) and
tables nothing writes are left out.
-/

import CapacityAgent.Messages
import CapacityAgent.Library.KeyedTable

namespace CapacityAgent

open KeyedTable

/-- `machine_catalog`, keyed by `machine_id`. -/
structure MachineRow where
  hostname : Option CStr
  displayName : Option CStr
  firstSeenUtcMs : ℤ
  lastSeenUtcMs : ℤ
  extraJson : Option CStr
  deriving DecidableEq

/-- `collector_health`, keyed by `collector_id`. -/
structure CollectorRow where
  machineId : CStr
  source : CStr
  collectorType : CStr
  status : CStr
  lastHelloUtcMs : Option ℤ
  lastSampleUtcMs : Option ℤ
  lastError : Option CStr
  updatedUtcMs : ℤ
  extraJson : Option CStr
  deriving DecidableEq

/-- `sensor_catalog`, keyed by `sensor_uid`. -/
structure SensorRow where
  machineId : CStr
  source : CStr
  hardwareUid : CStr
  hardwarePath : CStr
  hardwareName : CStr
  hardwareType : CStr
  sensorPath : CStr
  sensorName : CStr
  sensorType : CStr
  sensorIndex : ℤ
  unit : CStr
  isDefaultHidden : Bool
  firstSeenUtcMs : ℤ
  lastSeenUtcMs : ℤ
  propertiesJson : Option CStr
  deriving DecidableEq

/-- The primary key of `sensor_samples`. -/
@[ext] structure SampleKey where
  sensorUid : CStr
  tsUtcMs : ℤ
  deriving DecidableEq

structure SampleRow where
  value : Double
  minValue : Option Double
  maxValue : Option Double
  quality : CStr
  source : CStr
  deriving DecidableEq

/-- The primary key of `gpu_samples`. -/
structure GpuKey where
  machineId : CStr
  gpuUid : CStr
  tsUtcMs : ℤ
  deriving DecidableEq

structure GpuRow where
  gpuIndex : ℤ
  gpuName : Option CStr
  backend : CStr
  coreC : Option Double
  hotspotC : Option Double
  memJunctionC : Option Double
  utilGpuPct : Option Double
  utilMemPct : Option Double
  powerW : Option Double
  vramUsedBytes : Option ℤ
  vramTotalBytes : Option ℤ
  clockGraphicsMhz : Option ℤ
  clockMemoryMhz : Option ℤ
  fan0Rpm : Option ℤ
  fan0Pct : Option Double
  deriving DecidableEq

/-- The primary key of `ollama_runtime_samples`. -/
structure OllamaKey where
  machineId : CStr
  tsUtcMs : ℤ
  deriving DecidableEq

structure OllamaRow where
  baseUrl : CStr
  activeRequestCount : Option ℤ
  queuedRequestCount : Option ℤ
  loadedModelCount : Option ℤ
  residentVramBytes : Option ℤ
  residentRamBytes : Option ℤ
  deriving DecidableEq

@[ext] structure Database where
  machineCatalog : Table CStr MachineRow
  collectorHealth : Table CStr CollectorRow
  sensorCatalog : Table CStr SensorRow
  sensorSamples : Table SampleKey SampleRow
  gpuSamples : Table GpuKey GpuRow
  ollamaRuntimeSamples : Table OllamaKey OllamaRow

/-- The database `schema.sql` creates. -/
def Database.empty : Database where
  machineCatalog := ∅
  collectorHealth := ∅
  sensorCatalog := ∅
  sensorSamples := ∅
  gpuSamples := ∅
  ollamaRuntimeSamples := ∅

end CapacityAgent

/-
# The other responses

The objects that `/v1/status`, `/v1/catalog`, `/v1/history` and `/v1/snapshot` send for
what the store returns.
-/

import CapacityAgent.Api.Parameters

namespace CapacityAgent

open CJson (Item)

/-! ## Status and catalog -/

def statusEntry (collector : CStr × CollectorRow) : CStr × Item :=
  (collector.2.source, .object
    [(text "status", .string collector.2.status),
      (text "last_hello_utc_ms", optionalInt64Item collector.2.lastHelloUtcMs),
      (text "last_sample_utc_ms", optionalInt64Item collector.2.lastSampleUtcMs),
      (text "last_error", optionalStringItem collector.2.lastError),
      (text "updated_utc_ms", int64Item collector.2.updatedUtcMs)])

/-- `/v1/status`; what it has of the machine is there when the machine is known. -/
def statusResponse (machineId : CStr) (nowUtcMs : ℤ) (collectors : List (CStr × CollectorRow))
    (machine : Option MachineAnswer) : Item :=
  .object
    ([(text "machine_id", .string machineId),
      (text "generated_utc_ms", int64Item nowUtcMs),
      (text "api_version", .string (text "1.0")),
      (text "collectors", .object (collectors.map statusEntry))] ++
    machine.elim [] fun machine =>
      [(text "hostname", .string machine.hostname),
        (text "display_name", .string machine.displayName),
        (text "first_seen_utc_ms", int64Item machine.firstSeenUtcMs),
        (text "last_seen_utc_ms", int64Item machine.lastSeenUtcMs)])

def catalogEntry (sensor : CatalogRow) : Item :=
  .object
    [(text "sensor_uid", .string sensor.sensorUid),
      (text "hardware_name", .string sensor.hardwareName),
      (text "hardware_type", .string sensor.hardwareType),
      (text "sensor_name", .string sensor.sensorName),
      (text "sensor_type", .string sensor.sensorType),
      (text "unit", .string sensor.unit),
      (text "sensor_index", .number sensor.sensorIndex),
      (text "is_default_hidden", .bool sensor.isDefaultHidden)]

/-- `/v1/catalog`. -/
def catalogResponse (machineId : CStr) (sensors : List CatalogRow) : Item :=
  .object
    [(text "machine_id", .string machineId),
      (text "sensor_count", .number sensors.length),
      (text "sensors", .array (sensors.map catalogEntry))]

/-! ## History -/

def historyEntry (sample : HistoryRow) : Item :=
  .object
    [(text "ts_utc_ms", int64Item sample.tsUtcMs),
      (text "value", .number sample.value),
      (text "min", optionalDoubleItem sample.minValue),
      (text "max", optionalDoubleItem sample.maxValue),
      (text "quality", .string sample.quality)]

/-- `/v1/history`. -/
def historyResponse (query : HistoryQuery) (samples : List HistoryRow) : Item :=
  .object
    [(text "sensor_uid", .string query.sensorUid),
      (text "from_utc_ms", int64Item query.fromMs),
      (text "to_utc_ms", int64Item query.toMs),
      (text "count", .number samples.length),
      (text "samples", .array (samples.map historyEntry))]

/-! ## Snapshot -/

def gpuEntry (gpu : GpuSnapshotRow) : Item :=
  .object
    [(text "gpu_index", .number gpu.gpuIndex),
      (text "gpu_name", .string gpu.gpuName),
      (text "core_c", optionalDoubleItem gpu.coreC),
      (text "hotspot_c", optionalDoubleItem gpu.hotspotC),
      (text "util_gpu_pct", optionalDoubleItem gpu.utilGpuPct),
      (text "vram_used_bytes", optionalInt64Item gpu.vramUsedBytes),
      (text "vram_total_bytes", optionalInt64Item gpu.vramTotalBytes),
      (text "power_w", optionalDoubleItem gpu.powerW)]

/-- The clock is read again for each age. -/
def ageEntry (nowUtcMs : ℕ → ℤ) (i : ℕ) (collector : CStr × CollectorRow) : CStr × Item :=
  (collector.2.source, .object
    [(text "status", .string collector.2.status),
      (text "age_ms", int64Item (collector.2.lastSampleUtcMs.elim (-1) (nowUtcMs i - ·)))])

/-- `/v1/snapshot`; nothing sets `memory_total_bytes`. -/
def snapshotResponse (machineId : CStr) (generatedUtcMs : ℤ) (nowUtcMs : ℕ → ℤ)
    (snapshot : LatestSnapshot) (collectors : List (CStr × CollectorRow)) : Item :=
  .object
    [(text "machine_id", .string machineId),
      (text "generated_utc_ms", int64Item generatedUtcMs),
      (text "system", .object
        [(text "cpu_package_c", optionalDoubleItem snapshot.system.cpuPackageC),
          (text "cpu_total_load_pct", optionalDoubleItem snapshot.system.cpuTotalLoadPct),
          (text "memory_used_bytes", optionalInt64Item snapshot.system.memoryUsedBytes),
          (text "memory_total_bytes", .null)]),
      (text "gpus", .array (snapshot.gpus.map gpuEntry)),
      (text "ollama", ollamaSection snapshot.ollama),
      (text "collectors", .object (collectors.mapIdx (ageEntry nowUtcMs)))]

end CapacityAgent

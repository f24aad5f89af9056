/-
# The bridge's message records

The records of `Models.cs`, with the value `JsonSerializer` writes for each: one member
for every property, in order, under its `JsonPropertyName`. Strings are well-formed and
free of U+0000.
-/

import CapacityAgent.CJson.Print

namespace CapacityAgent.LibreHwBridge

open Json (Value)

/-! ## Field types -/

/-- A .NET string. -/
structure NetString where
  chars : List Char
  nulFree : ∀ c ∈ chars, c.toNat ≠ 0
  deriving DecidableEq

namespace NetString

/-- A string literal. -/
def literal (s : String) : NetString where
  chars := s.toList.filter fun c => c.toNat ≠ 0
  nulFree := fun c member => by simpa using (List.mem_filter.mp member).2

def append (s t : NetString) : NetString where
  chars := s.chars ++ t.chars
  nulFree := fun c member => (List.mem_append.mp member).elim (s.nulFree c) (t.nulFree c)

instance : Append NetString := ⟨append⟩

theorem append_left_cancel {s t u : NetString} (same : s ++ t = s ++ u) : t = u := by
  have chars : s.chars ++ t.chars = s.chars ++ u.chars := congrArg NetString.chars same
  cases t
  cases u
  exact NetString.mk.injEq .. ▸ List.append_cancel_left chars

/-- The string in UTF-8. -/
def utf8 (s : NetString) : CStr := ⟨Utf8.encode s.chars, Utf8.zero_notMem_encode s.nulFree⟩

def json (s : NetString) : Value := .string s.chars

end NetString

/-- A `float`; a finite one by the decimal that is written for it. -/
inductive Single
  | finite (decimal : Json.Number) (short : decimal.text.length ≤ 63)
  | nan
  | infinity (negative : Bool)

/-- Only finite values can be written. -/
def Single.json : Single → Option Value
  | .finite decimal _ => some (.number decimal)
  | .nan | .infinity _ => none

/-- A `float?`. -/
def singleJson : Option Single → Option Value
  | none => some .null
  | some reading => reading.json

def intJson (n : ℤ) : Value := .number (Json.Number.ofInt n)

/-- A member of an object. -/
def property (name : String) (value : Value) : List Char × Value := (name.toList, value)

/-! ## Records -/

structure BridgeCapabilities where
  hardwareTypes : List NetString
  sensorTypes : List NetString

def BridgeCapabilities.json (capabilities : BridgeCapabilities) : Value :=
  .object [
    property "hardware_types" (.array (capabilities.hardwareTypes.map NetString.json)),
    property "sensor_types" (.array (capabilities.sensorTypes.map NetString.json))]

structure HelloMessage where
  type : NetString
  schemaVersion : Int32
  source : NetString
  machineId : NetString
  sentAtUtc : NetString
  bridgeVersion : NetString
  hostname : NetString
  pid : Int32
  sampleIntervalMs : Int32
  capabilities : BridgeCapabilities

def HelloMessage.json (message : HelloMessage) : Value :=
  .object [
    property "type" message.type.json,
    property "schema_version" (intJson message.schemaVersion.toInt),
    property "source" message.source.json,
    property "machine_id" message.machineId.json,
    property "sent_at_utc" message.sentAtUtc.json,
    property "bridge_version" message.bridgeVersion.json,
    property "hostname" message.hostname.json,
    property "pid" (intJson message.pid.toInt),
    property "sample_interval_ms" (intJson message.sampleIntervalMs.toInt),
    property "capabilities" message.capabilities.json]

/-- The properties are the entries of a dictionary, in the order it enumerates them. -/
structure CatalogSensor where
  sensorUid : NetString
  hardwareUid : NetString
  hardwarePath : NetString
  hardwareName : NetString
  hardwareType : NetString
  sensorPath : NetString
  sensorName : NetString
  sensorType : NetString
  sensorIndex : Int32
  unit : NetString
  isDefaultHidden : Bool
  properties : List (NetString × NetString)

def propertiesJson (properties : List (NetString × NetString)) : Value :=
  .object (properties.map fun entry => (entry.1.chars, entry.2.json))

def CatalogSensor.json (sensor : CatalogSensor) : Value :=
  .object [
    property "sensor_uid" sensor.sensorUid.json,
    property "hardware_uid" sensor.hardwareUid.json,
    property "hardware_path" sensor.hardwarePath.json,
    property "hardware_name" sensor.hardwareName.json,
    property "hardware_type" sensor.hardwareType.json,
    property "sensor_path" sensor.sensorPath.json,
    property "sensor_name" sensor.sensorName.json,
    property "sensor_type" sensor.sensorType.json,
    property "sensor_index" (intJson sensor.sensorIndex.toInt),
    property "unit" sensor.unit.json,
    property "is_default_hidden" (.bool sensor.isDefaultHidden),
    property "properties" (propertiesJson sensor.properties)]

structure CatalogSnapshotMessage where
  type : NetString
  schemaVersion : Int32
  source : NetString
  machineId : NetString
  sentAtUtc : NetString
  sensors : List CatalogSensor

def CatalogSnapshotMessage.json (message : CatalogSnapshotMessage) : Value :=
  .object [
    property "type" message.type.json,
    property "schema_version" (intJson message.schemaVersion.toInt),
    property "source" message.source.json,
    property "machine_id" message.machineId.json,
    property "sent_at_utc" message.sentAtUtc.json,
    property "sensors" (.array (message.sensors.map CatalogSensor.json))]

structure SensorSample where
  sensorUid : NetString
  value : Single
  min : Option Single
  max : Option Single
  quality : NetString

def SensorSample.json (sample : SensorSample) : Option Value := do
  let value ← sample.value.json
  let min ← singleJson sample.min
  let max ← singleJson sample.max
  return .object [
    property "sensor_uid" sample.sensorUid.json,
    property "value" value,
    property "min" min,
    property "max" max,
    property "quality" sample.quality.json]

structure SampleBatchMessage where
  type : NetString
  schemaVersion : Int32
  source : NetString
  machineId : NetString
  sentAtUtc : NetString
  sampleTimeUtc : NetString
  samples : List SensorSample

def SampleBatchMessage.json (message : SampleBatchMessage) : Option Value := do
  let samples ← message.samples.mapM SensorSample.json
  return .object [
    property "type" message.type.json,
    property "schema_version" (intJson message.schemaVersion.toInt),
    property "source" message.source.json,
    property "machine_id" message.machineId.json,
    property "sent_at_utc" message.sentAtUtc.json,
    property "sample_time_utc" message.sampleTimeUtc.json,
    property "samples" (.array samples)]

structure HeartbeatMessage where
  type : NetString
  schemaVersion : Int32
  source : NetString
  machineId : NetString
  sentAtUtc : NetString
  status : NetString
  uptimeSeconds : Int64
  catalogCount : Int32

def HeartbeatMessage.json (message : HeartbeatMessage) : Value :=
  .object [
    property "type" message.type.json,
    property "schema_version" (intJson message.schemaVersion.toInt),
    property "source" message.source.json,
    property "machine_id" message.machineId.json,
    property "sent_at_utc" message.sentAtUtc.json,
    property "status" message.status.json,
    property "uptime_s" (intJson message.uptimeSeconds.toInt),
    property "catalog_count" (intJson message.catalogCount.toInt)]

/-- A record `Send` is called with. -/
inductive Message
  | hello (message : HelloMessage)
  | catalogSnapshot (message : CatalogSnapshotMessage)
  | sampleBatch (message : SampleBatchMessage)
  | heartbeat (message : HeartbeatMessage)

/-- What `JsonSerializer.Serialize` writes; it throws on a reading that is not finite. -/
def Message.json : Message → Option Value
  | .hello message => some message.json
  | .catalogSnapshot message => some message.json
  | .sampleBatch message => message.json
  | .heartbeat message => some message.json

end CapacityAgent.LibreHwBridge

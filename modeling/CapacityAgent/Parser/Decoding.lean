/-
# What a decoded message is

The fields a JSON value must have for each kind of message, and what each becomes: a
relation between the value and the message. The checks of the parser are passed by the
values related to some message, and every check that fails gives a text.
-/

import CapacityAgent.Library.Checks
import CapacityAgent.Parser.BridgeMessage

namespace CapacityAgent

open CJson (Item getObjectItemCaseSensitive)
open Checks

/-! ## Fields -/

def HasString (object : Item) (key value : CStr) : Prop :=
  getObjectItemCaseSensitive object key = some (.string value)

def HasNumber (object : Item) (key : CStr) (value : Double) : Prop :=
  getObjectItemCaseSensitive object key = some (.number value)

def HasArray (object : Item) (key : CStr) (items : List Item) : Prop :=
  getObjectItemCaseSensitive object key = some (.array items)

/-- A number that is read as an `int`. -/
def HasInt (object : Item) (key : CStr) (n : ℤ) : Prop :=
  ∃ value, HasNumber object key value ∧ CJson.valueint value = n

/-- A number that is read as an `std::int64_t`. -/
def HasInt64 (object : Item) (key : CStr) (n : ℤ) : Prop :=
  ∃ value, HasNumber object key value ∧ CJson.truncate value = n

def HasTimestamp (object : Item) (key : CStr) (ms : ℤ) : Prop :=
  ∃ timestamp, HasString object key timestamp ∧ parseIso8601UtcMs timestamp.bytes = some ms

theorem getRequiredString_eq_ok_iff {object : Item} {key value : CStr} :
    getRequiredString object key = .ok value ↔ HasString object key value := by
  unfold getRequiredString HasString
  split
  next found => simp [found]
  next other =>
    refine iff_of_false (fun failed => nomatch failed) fun found => other value found

theorem getRequiredNumber_eq_ok_iff {object : Item} {key : CStr} {value : Double} :
    getRequiredNumber object key = .ok value ↔ HasNumber object key value := by
  unfold getRequiredNumber HasNumber
  split
  next found => simp [found]
  next other =>
    refine iff_of_false (fun failed => nomatch failed) fun found => other value found

theorem getRequiredArray_eq_ok_iff {object : Item} {key : CStr} {items : List Item} :
    getRequiredArray object key = .ok items ↔ HasArray object key items := by
  unfold getRequiredArray HasArray
  split
  next found => simp [found]
  next other =>
    refine iff_of_false (fun failed => nomatch failed) fun found => other items found

theorem getRequiredInt_eq_ok_iff {object : Item} {key : CStr} {n : ℤ} :
    getRequiredInt object key = .ok n ↔ HasInt object key n := by
  rw [getRequiredInt, map_eq_ok_iff]
  exact exists_congr fun value => and_congr_left' getRequiredNumber_eq_ok_iff

theorem getRequiredInt64_eq_ok_iff {object : Item} {key : CStr} {n : ℤ} :
    getRequiredInt64 object key = .ok n ↔ HasInt64 object key n := by
  rw [getRequiredInt64, map_eq_ok_iff]
  exact exists_congr fun value => and_congr_left' getRequiredNumber_eq_ok_iff

theorem getRequiredTimestamp_eq_ok_iff {object : Item} {key : CStr} {ms : ℤ} :
    getRequiredTimestamp object key = .ok ms ↔ HasTimestamp object key ms := by
  -- the string is read first, then what it denotes
  rw [getRequiredTimestamp, bind_eq_ok_iff]
  refine exists_congr fun timestamp => and_congr getRequiredString_eq_ok_iff ?_
  cases parseIso8601UtcMs timestamp.bytes <;> simp

theorem requireObject_eq_ok_iff {error : CStr} {item : Item} {done : Unit} :
    requireObject error item = .ok done ↔ ∃ children, item = .object children := by
  cases item with
  | object children => exact ⟨fun _ => ⟨children, rfl⟩, fun _ => rfl⟩
  | _ => exact iff_of_false (fun failed => nomatch failed) fun ⟨_, same⟩ => nomatch same

/-! ## Messages -/

structure DecodesEnvelope (root : Item) (envelope : MessageEnvelope) : Prop where
  schemaVersion : HasInt root (text "schema_version") envelope.schemaVersion
  source : HasString root (text "source") envelope.source
  machineId : HasString root (text "machine_id") envelope.machineId
  sentAtUtcMs : HasTimestamp root (text "sent_at_utc") envelope.sentAtUtcMs

structure DecodesHeartbeat (root : Item) (message : HeartbeatMessage) : Prop where
  envelope : DecodesEnvelope root message.envelope
  status : HasString root (text "status") message.status
  uptimeSeconds : HasInt64 root (text "uptime_s") message.uptimeSeconds
  catalogCount : HasInt root (text "catalog_count") message.catalogCount

/-- The extremes are there when they are numbers, and only of this element. -/
structure DecodesSample (item : Item) (sample : SensorSample) : Prop where
  object : ∃ children, item = .object children
  sensorUid : HasString item (text "sensor_uid") sample.sensorUid
  quality : HasString item (text "quality") sample.quality
  value : HasNumber item (text "value") sample.value
  minValue : sample.minValue = getOptionalNumber item (text "min")
  maxValue : sample.maxValue = getOptionalNumber item (text "max")

structure DecodesBatch (root : Item) (message : SampleBatchMessage) : Prop where
  envelope : DecodesEnvelope root message.envelope
  sampleTimeUtcMs : HasTimestamp root (text "sample_time_utc") message.sampleTimeUtcMs
  samples : ∃ items, HasArray root (text "samples") items ∧
    List.Forall₂ DecodesSample items message.samples

variable (formatDouble : Double → Bytes)

structure DecodesHello (root : Item) (message : HelloMessage) : Prop where
  envelope : DecodesEnvelope root message.envelope
  bridgeVersion : HasString root (text "bridge_version") message.bridgeVersion
  hostname : HasString root (text "hostname") message.hostname
  pid : HasInt root (text "pid") message.pid
  sampleIntervalMs : HasInt root (text "sample_interval_ms") message.sampleIntervalMs
  capabilitiesJson : message.capabilitiesJson =
    getCompactString formatDouble root (text "capabilities")

structure DecodesSensor (item : Item) (sensor : CatalogSensor) : Prop where
  object : ∃ children, item = .object children
  sensorUid : HasString item (text "sensor_uid") sensor.sensorUid
  hardwareUid : HasString item (text "hardware_uid") sensor.hardwareUid
  hardwarePath : HasString item (text "hardware_path") sensor.hardwarePath
  hardwareName : HasString item (text "hardware_name") sensor.hardwareName
  hardwareType : HasString item (text "hardware_type") sensor.hardwareType
  sensorPath : HasString item (text "sensor_path") sensor.sensorPath
  sensorName : HasString item (text "sensor_name") sensor.sensorName
  sensorType : HasString item (text "sensor_type") sensor.sensorType
  sensorIndex : HasInt item (text "sensor_index") sensor.sensorIndex
  unit : HasString item (text "unit") sensor.unit
  isDefaultHidden : sensor.isDefaultHidden = getFlag item (text "is_default_hidden")
  propertiesJson : sensor.propertiesJson = getCompactString formatDouble item (text "properties")

structure DecodesCatalog (root : Item) (message : CatalogSnapshotMessage) : Prop where
  envelope : DecodesEnvelope root message.envelope
  sensors : ∃ items, HasArray root (text "sensors") items ∧
    List.Forall₂ (DecodesSensor formatDouble) items message.sensors

/-- The type selects the kind of message, and the other fields are those of the kind. -/
inductive Decodes (root : Item) : BridgeMessage → Prop
  | hello {message : HelloMessage} (type : HasString root (text "type") (text "hello"))
      (body : DecodesHello formatDouble root message) : Decodes root (.hello message)
  | catalogSnapshot {message : CatalogSnapshotMessage}
      (type : HasString root (text "type") (text "catalog_snapshot"))
      (body : DecodesCatalog formatDouble root message) : Decodes root (.catalogSnapshot message)
  | sampleBatch {message : SampleBatchMessage}
      (type : HasString root (text "type") (text "sample_batch"))
      (body : DecodesBatch root message) : Decodes root (.sampleBatch message)
  | heartbeat {message : HeartbeatMessage} (type : HasString root (text "type") (text "heartbeat"))
      (body : DecodesHeartbeat root message) : Decodes root (.heartbeat message)

/-! ## The checks yield what is decoded -/

theorem parseEnvelope_eq_ok_iff {root : Item} {envelope : MessageEnvelope} :
    parseEnvelope root = .ok envelope ↔ DecodesEnvelope root envelope := by
  simp only [parseEnvelope, bind_eq_ok_iff, getRequiredInt_eq_ok_iff, getRequiredString_eq_ok_iff,
    getRequiredTimestamp_eq_ok_iff]
  constructor
  · rintro ⟨_, schemaVersion, _, source, _, machineId, _, sentAt, ⟨⟩⟩
    exact ⟨schemaVersion, source, machineId, sentAt⟩
  · intro decodes
    exact ⟨_, decodes.schemaVersion, _, decodes.source, _, decodes.machineId, _,
      decodes.sentAtUtcMs, rfl⟩

theorem parseHello_eq_ok_iff {root : Item} {message : HelloMessage} :
    parseHello formatDouble root = .ok message ↔ DecodesHello formatDouble root message := by
  simp only [parseHello, bind_eq_ok_iff, parseEnvelope_eq_ok_iff, getRequiredInt_eq_ok_iff,
    getRequiredString_eq_ok_iff]
  constructor
  · rintro ⟨_, envelope, _, bridgeVersion, _, hostname, _, pid, _, sampleInterval, ⟨⟩⟩
    exact ⟨envelope, bridgeVersion, hostname, pid, sampleInterval, rfl⟩
  · intro decodes
    refine ⟨_, decodes.envelope, _, decodes.bridgeVersion, _, decodes.hostname, _, decodes.pid, _,
      decodes.sampleIntervalMs, ?_⟩
    rw [← decodes.capabilitiesJson]
    rfl

theorem parseCatalogSensor_eq_ok_iff {item : Item} {sensor : CatalogSensor} :
    parseCatalogSensor formatDouble item = .ok sensor ↔ DecodesSensor formatDouble item sensor := by
  simp only [parseCatalogSensor, bind_eq_ok_iff, requireObject_eq_ok_iff, getRequiredInt_eq_ok_iff,
    getRequiredString_eq_ok_iff]
  constructor
  · rintro ⟨_, object, _, sensorUid, _, hardwareUid, _, hardwarePath, _, hardwareName, _,
      hardwareType, _, sensorPath, _, sensorName, _, sensorType, _, sensorIndex, _, unit, ⟨⟩⟩
    exact ⟨object, sensorUid, hardwareUid, hardwarePath, hardwareName, hardwareType, sensorPath,
      sensorName, sensorType, sensorIndex, unit, rfl, rfl⟩
  · intro decodes
    refine ⟨(), decodes.object, _, decodes.sensorUid, _, decodes.hardwareUid, _,
      decodes.hardwarePath, _, decodes.hardwareName, _, decodes.hardwareType, _,
      decodes.sensorPath, _, decodes.sensorName, _, decodes.sensorType, _, decodes.sensorIndex, _,
      decodes.unit, ?_⟩
    rw [← decodes.isDefaultHidden, ← decodes.propertiesJson]
    rfl

theorem parseSensorSample_eq_ok_iff {item : Item} {sample : SensorSample} :
    parseSensorSample item = .ok sample ↔ DecodesSample item sample := by
  simp only [parseSensorSample, bind_eq_ok_iff, requireObject_eq_ok_iff,
    getRequiredString_eq_ok_iff, getRequiredNumber_eq_ok_iff]
  constructor
  · rintro ⟨_, object, _, sensorUid, _, quality, _, value, ⟨⟩⟩
    exact ⟨object, sensorUid, quality, value, rfl, rfl⟩
  · intro decodes
    refine ⟨(), decodes.object, _, decodes.sensorUid, _, decodes.quality, _, decodes.value, ?_⟩
    rw [← decodes.minValue, ← decodes.maxValue]
    rfl

theorem parseHeartbeat_eq_ok_iff {root : Item} {message : HeartbeatMessage} :
    parseHeartbeat root = .ok message ↔ DecodesHeartbeat root message := by
  simp only [parseHeartbeat, bind_eq_ok_iff, parseEnvelope_eq_ok_iff, getRequiredInt_eq_ok_iff,
    getRequiredInt64_eq_ok_iff, getRequiredString_eq_ok_iff]
  constructor
  · rintro ⟨_, envelope, _, status, _, uptime, _, catalogCount, ⟨⟩⟩
    exact ⟨envelope, status, uptime, catalogCount⟩
  · intro decodes
    exact ⟨_, decodes.envelope, _, decodes.status, _, decodes.uptimeSeconds, _,
      decodes.catalogCount, rfl⟩

/-! ## Failing checks give a text -/

def Explained {α : Type} (check : Except CStr α) : Prop :=
  FailsWith (fun error => error.bytes ≠ []) check

theorem bytes_append_ne_nil {first : CStr} (nonempty : first.bytes ≠ []) (second : CStr) :
    (first ++ second).bytes ≠ [] :=
  List.append_ne_nil_of_left_ne_nil nonempty _

theorem explained_getRequiredString (object : Item) (key : CStr) :
    Explained (getRequiredString object key) := by
  unfold getRequiredString
  split
  · exact failsWith_ok _
  · exact failsWith_error (bytes_append_ne_nil (by decide) key)

theorem explained_getRequiredNumber (object : Item) (key : CStr) :
    Explained (getRequiredNumber object key) := by
  unfold getRequiredNumber
  split
  · exact failsWith_ok _
  · exact failsWith_error (bytes_append_ne_nil (by decide) key)

theorem explained_getRequiredArray (object : Item) (key : CStr) :
    Explained (getRequiredArray object key) := by
  unfold getRequiredArray
  split
  · exact failsWith_ok _
  · exact failsWith_error (bytes_append_ne_nil (by decide) key)

theorem explained_getRequiredInt (object : Item) (key : CStr) :
    Explained (getRequiredInt object key) :=
  (explained_getRequiredNumber object key).map _

theorem explained_getRequiredInt64 (object : Item) (key : CStr) :
    Explained (getRequiredInt64 object key) :=
  (explained_getRequiredNumber object key).map _

theorem explained_requireObject {error : CStr} (nonempty : error.bytes ≠ []) (item : Item) :
    Explained (requireObject error item) := by
  cases item with
  | object children => exact failsWith_ok _
  | _ => exact failsWith_error nonempty

theorem explained_getRequiredTimestamp (object : Item) (key : CStr) :
    Explained (getRequiredTimestamp object key) := by
  refine (explained_getRequiredString object key).bind fun timestamp => ?_
  split
  · exact failsWith_ok _
  · exact failsWith_error (bytes_append_ne_nil (bytes_append_ne_nil (by decide) key) _)

theorem explained_parseEnvelope (root : Item) : Explained (parseEnvelope root) := by
  refine (explained_getRequiredInt root _).bind fun schemaVersion => ?_
  refine (explained_getRequiredString root _).bind fun source => ?_
  refine (explained_getRequiredString root _).bind fun machineId => ?_
  refine (explained_getRequiredTimestamp root _).bind fun sentAtUtcMs => ?_
  exact failsWith_ok _

theorem explained_parseHello (root : Item) : Explained (parseHello formatDouble root) := by
  refine (explained_parseEnvelope root).bind fun envelope => ?_
  refine (explained_getRequiredString root _).bind fun bridgeVersion => ?_
  refine (explained_getRequiredString root _).bind fun hostname => ?_
  refine (explained_getRequiredInt root _).bind fun pid => ?_
  refine (explained_getRequiredInt root _).bind fun sampleIntervalMs => ?_
  exact failsWith_ok _

theorem explained_parseCatalogSensor (item : Item) :
    Explained (parseCatalogSensor formatDouble item) := by
  refine (explained_requireObject (by decide) item).bind fun _ => ?_
  refine (explained_getRequiredString item _).bind fun sensorUid => ?_
  refine (explained_getRequiredString item _).bind fun hardwareUid => ?_
  refine (explained_getRequiredString item _).bind fun hardwarePath => ?_
  refine (explained_getRequiredString item _).bind fun hardwareName => ?_
  refine (explained_getRequiredString item _).bind fun hardwareType => ?_
  refine (explained_getRequiredString item _).bind fun sensorPath => ?_
  refine (explained_getRequiredString item _).bind fun sensorName => ?_
  refine (explained_getRequiredString item _).bind fun sensorType => ?_
  refine (explained_getRequiredInt item _).bind fun sensorIndex => ?_
  refine (explained_getRequiredString item _).bind fun unit => ?_
  exact failsWith_ok _

theorem explained_parseSensorSample (item : Item) : Explained (parseSensorSample item) := by
  refine (explained_requireObject (by decide) item).bind fun _ => ?_
  refine (explained_getRequiredString item _).bind fun sensorUid => ?_
  refine (explained_getRequiredString item _).bind fun quality => ?_
  refine (explained_getRequiredNumber item _).bind fun value => ?_
  exact failsWith_ok _

theorem explained_parseHeartbeat (root : Item) : Explained (parseHeartbeat root) := by
  refine (explained_parseEnvelope root).bind fun envelope => ?_
  refine (explained_getRequiredString root _).bind fun status => ?_
  refine (explained_getRequiredInt64 root _).bind fun uptimeSeconds => ?_
  refine (explained_getRequiredInt root _).bind fun catalogCount => ?_
  exact failsWith_ok _

end CapacityAgent

/-
# The host reads what the bridge sends

Every record is parsed back to the message with the same fields: the parser asks for
each member by the name it was written under and gets the item of what was written. The
line framing adds nothing and takes nothing away.
-/

import CapacityAgent.Bridge.Program
import CapacityAgent.Parser.BridgeMessage
import Mathlib.Data.Char
import Mathlib.Data.List.Lex

namespace CapacityAgent.LibreHwBridge

open CJson (Fits ItemsFit Item document getObjectItemCaseSensitive itemOf itemsOf)
open Json (Encoder Value)
open NetString (literal)

/-! ## The messages expected -/

/-- What a `double` holds of the decimal written for a finite reading. -/
def Single.value : Single → Double
  | .finite decimal _ => Binary64.held decimal.value
  | .nan | .infinity _ => 0

def Single.IsFinite : Single → Prop
  | .finite _ _ => True
  | .nan | .infinity _ => False

/-- The host's text for a JSON value the bridge writes. -/
def hostJson (value : Value) : CStr := document CJson.encoder value

def receivedEnvelope (schemaVersion : Int32) (source machineId : NetString)
    (sentAt : DateTimeOffset) : MessageEnvelope where
  schemaVersion := schemaVersion.toInt
  source := source.utf8
  machineId := machineId.utf8
  sentAtUtcMs := sentAt.unixMs

/-- A hello sent at a time, as the host should see it. -/
def HelloMessage.received (message : HelloMessage) (sentAt : DateTimeOffset) :
    CapacityAgent.HelloMessage where
  envelope := receivedEnvelope message.schemaVersion message.source message.machineId sentAt
  bridgeVersion := message.bridgeVersion.utf8
  hostname := message.hostname.utf8
  pid := message.pid.toInt
  sampleIntervalMs := message.sampleIntervalMs.toInt
  capabilitiesJson := hostJson message.capabilities.json

def CatalogSensor.received (sensor : CatalogSensor) : CapacityAgent.CatalogSensor where
  sensorUid := sensor.sensorUid.utf8
  hardwareUid := sensor.hardwareUid.utf8
  hardwarePath := sensor.hardwarePath.utf8
  hardwareName := sensor.hardwareName.utf8
  hardwareType := sensor.hardwareType.utf8
  sensorPath := sensor.sensorPath.utf8
  sensorName := sensor.sensorName.utf8
  sensorType := sensor.sensorType.utf8
  sensorIndex := sensor.sensorIndex.toInt
  unit := sensor.unit.utf8
  isDefaultHidden := sensor.isDefaultHidden
  propertiesJson := hostJson (LibreHwBridge.propertiesJson sensor.properties)

def CatalogSnapshotMessage.received (message : CatalogSnapshotMessage)
    (sentAt : DateTimeOffset) : CapacityAgent.CatalogSnapshotMessage where
  envelope := receivedEnvelope message.schemaVersion message.source message.machineId sentAt
  sensors := message.sensors.map CatalogSensor.received

def SensorSample.received (sample : SensorSample) : CapacityAgent.SensorSample where
  sensorUid := sample.sensorUid.utf8
  value := sample.value.value
  minValue := sample.min.map Single.value
  maxValue := sample.max.map Single.value
  quality := sample.quality.utf8

def SampleBatchMessage.received (message : SampleBatchMessage)
    (sampleTime sentAt : DateTimeOffset) : CapacityAgent.SampleBatchMessage where
  envelope := receivedEnvelope message.schemaVersion message.source message.machineId sentAt
  sampleTimeUtcMs := sampleTime.unixMs
  samples := message.samples.map SensorSample.received

def HeartbeatMessage.received (message : HeartbeatMessage) (sentAt : DateTimeOffset) :
    CapacityAgent.HeartbeatMessage where
  envelope := receivedEnvelope message.schemaVersion message.source message.machineId sentAt
  status := message.status.utf8
  uptimeSeconds := message.uptimeSeconds.toInt
  catalogCount := message.catalogCount.toInt

/-- The message of the host for a call of `Send`: of the same kind, with the fields of the
record and the times it was built from. -/
def Call.received (environment : Environment) (options : BridgeOptions) : Call → BridgeMessage
  | .hello catalog utcNow =>
    .hello ((buildHello environment options catalog utcNow).received utcNow)
  | .catalogSnapshot catalog utcNow =>
    .catalogSnapshot ((buildCatalogSnapshot options catalog utcNow).received utcNow)
  | .sampleBatch computer sampleTime utcNow =>
    .sampleBatch
      ((buildSampleBatch options computer sampleTime utcNow).received sampleTime utcNow)
  | .heartbeat startedAt catalogCount utcNow later =>
    .heartbeat ((buildHeartbeat options startedAt catalogCount utcNow later).received utcNow)

/-- The JSON values a message carries for others to read. -/
def Message.jsonValues : Message → List Value
  | .hello message => [message.capabilities.json]
  | .catalogSnapshot message =>
    message.sensors.map fun sensor => propertiesJson sensor.properties
  | .sampleBatch _ | .heartbeat _ => []

/-- The JSON texts the host keeps of a message. -/
def jsonTexts : BridgeMessage → List CStr
  | .hello message => [message.capabilitiesJson]
  | .catalogSnapshot message => message.sensors.map (·.propertiesJson)
  | .sampleBatch _ | .heartbeat _ => []

/-! ## Fields -/

section Fields

variable {object : Item} {key : CStr}

theorem itemOf_json (s : NetString) : itemOf s.json = .string s.utf8 := by
  rw [NetString.json, itemOf]
  exact congrArg Item.string (CStr.ofBytes_bytes s.utf8)

theorem getRequiredString_of {s : NetString}
    (found : getObjectItemCaseSensitive object key = some (itemOf s.json)) :
    getRequiredString object key = .ok s.utf8 := by
  rw [getRequiredString, found, itemOf_json]

theorem getRequiredNumber_of {n : Json.Number}
    (found : getObjectItemCaseSensitive object key = some (itemOf (.number n))) :
    getRequiredNumber object key = .ok (Binary64.held n.value) := by
  rw [getRequiredNumber, found, itemOf]

theorem truncate_intCast (n : ℤ) : CJson.truncate n = n := by
  simp [CJson.truncate]

theorem valueint_toInt (n : Int32) : CJson.valueint n.toInt = n.toInt := by
  have above := n.toInt_lt
  have below := n.le_toInt
  rw [CJson.valueint, truncate_intCast]
  -- saturation agrees with the value at both ends of the range
  split_ifs with large small
  · have bound : (2147483647 : ℤ) ≤ n.toInt := by exact_mod_cast large
    omega
  · have bound : n.toInt ≤ (-2147483648 : ℤ) := by exact_mod_cast small
    omega
  · rfl

/-- A `double` holds integers of 53 bits. -/
theorem getRequiredNumber_of_int {n : ℤ} (small : |n| ≤ 2 ^ 53)
    (found : getObjectItemCaseSensitive object key = some (itemOf (intJson n))) :
    getRequiredNumber object key = .ok (n : Double) := by
  rw [getRequiredNumber_of found, Json.Number.value_ofInt, Binary64.held_intCast small]

theorem getRequiredInt_of {n : Int32}
    (found : getObjectItemCaseSensitive object key = some (itemOf (intJson n.toInt))) :
    getRequiredInt object key = .ok n.toInt := by
  have small : |n.toInt| ≤ 2 ^ 53 := by
    have above := n.toInt_lt
    have below := n.le_toInt
    rw [abs_le]
    omega
  rw [getRequiredInt, getRequiredNumber_of_int small found, Except.map, valueint_toInt]

theorem getRequiredInt64_of {n : ℤ} (small : |n| ≤ 2 ^ 53)
    (found : getObjectItemCaseSensitive object key = some (itemOf (intJson n))) :
    getRequiredInt64 object key = .ok n := by
  rw [getRequiredInt64, getRequiredNumber_of_int small found, Except.map, truncate_intCast]

theorem getRequiredTimestamp_of {t : DateTimeOffset}
    (found : getObjectItemCaseSensitive object key = some (itemOf t.toRoundTrip.json)) :
    getRequiredTimestamp object key = .ok t.unixMs := by
  rw [getRequiredTimestamp, getRequiredString_of found]
  simp only [bind, Except.bind, t.parseIso8601UtcMs_toRoundTrip]

theorem getRequiredArray_of {items : List Value}
    (found : getObjectItemCaseSensitive object key = some (itemOf (.array items))) :
    getRequiredArray object key = .ok (itemsOf items) := by
  rw [getRequiredArray, found, itemOf]

theorem getFlag_of {b : Bool}
    (found : getObjectItemCaseSensitive object key = some (itemOf (.bool b))) :
    getFlag object key = b := by
  rw [getFlag, found, itemOf]
  cases b <;> rfl

/-- A reading that may be absent is written as `null` or as a number. -/
theorem getOptionalNumber_of {reading : Option Single} {value : Value}
    (written : singleJson reading = some value)
    (found : getObjectItemCaseSensitive object key = some (itemOf value)) :
    getOptionalNumber object key = reading.map Single.value := by
  rw [getOptionalNumber, found]
  match reading with
  | none =>
    obtain rfl := Option.some.inj written
    rfl
  | some (.finite decimal short) =>
    obtain rfl := Option.some.inj written
    rfl

theorem getCompactString_of (formatDouble : Double → Bytes) {value : Value}
    (textual : CJson.Textual value)
    (found : getObjectItemCaseSensitive object key = some (itemOf value)) :
    getCompactString formatDouble object key = hostJson value := by
  rw [getCompactString, found, hostJson]
  exact CJson.printUnformatted_itemOf formatDouble textual

theorem parseEnvelope_of {version : Int32} {source machineId : NetString} {sentAt : DateTimeOffset}
    (versionFound : getObjectItemCaseSensitive object (text "schema_version") =
      some (itemOf (intJson version.toInt)))
    (sourceFound : getObjectItemCaseSensitive object (text "source") = some (itemOf source.json))
    (machineFound : getObjectItemCaseSensitive object (text "machine_id") =
      some (itemOf machineId.json))
    (sentFound : getObjectItemCaseSensitive object (text "sent_at_utc") =
      some (itemOf sentAt.toRoundTrip.json)) :
    parseEnvelope object = .ok (receivedEnvelope version source machineId sentAt) := by
  rw [parseEnvelope, getRequiredInt_of versionFound, getRequiredString_of sourceFound,
    getRequiredString_of machineFound, getRequiredTimestamp_of sentFound]
  rfl

end Fields

/-! ## Records -/

section Records

variable (formatDouble : Double → Bytes)

theorem textual_names (names : List NetString) :
    CJson.ItemsTextual (names.map NetString.json) := by
  induction names with
  | nil => trivial
  | cons name rest ih => exact ⟨name.nulFree, ih⟩

theorem textual_capabilities (capabilities : BridgeCapabilities) :
    CJson.Textual capabilities.json := by
  have nulFree : ∀ s : String, (s.toList.all fun c => c.toNat != 0) = true →
      ∀ c ∈ s.toList, c.toNat ≠ 0 := fun s all => by simpa using all
  exact ⟨nulFree _ (by decide), textual_names _, nulFree _ (by decide), textual_names _, trivial⟩

theorem textual_properties (properties : List (NetString × NetString)) :
    CJson.Textual (propertiesJson properties) := by
  change CJson.MembersTextual _
  induction properties with
  | nil => trivial
  | cons entry rest ih => exact ⟨entry.1.nulFree, entry.2.nulFree, ih⟩

/-- `ParseHello` on a hello. -/
theorem parseHello_json (message : HelloMessage) {sentAt : DateTimeOffset}
    (sent : message.sentAtUtc = sentAt.toRoundTrip) :
    parseHello formatDouble (itemOf message.json) = .ok (message.received sentAt) := by
  have envelope : parseEnvelope (itemOf message.json) =
      .ok (receivedEnvelope message.schemaVersion message.source message.machineId sentAt) :=
    parseEnvelope_of rfl rfl rfl (sent ▸ rfl)
  have bridgeVersion : getRequiredString (itemOf message.json) (text "bridge_version") =
      .ok message.bridgeVersion.utf8 := getRequiredString_of rfl
  have hostname : getRequiredString (itemOf message.json) (text "hostname") =
      .ok message.hostname.utf8 := getRequiredString_of rfl
  have pid : getRequiredInt (itemOf message.json) (text "pid") = .ok message.pid.toInt :=
    getRequiredInt_of rfl
  have interval : getRequiredInt (itemOf message.json) (text "sample_interval_ms") =
      .ok message.sampleIntervalMs.toInt := getRequiredInt_of rfl
  have capabilities : getCompactString formatDouble (itemOf message.json) (text "capabilities") =
      hostJson message.capabilities.json :=
    getCompactString_of formatDouble (textual_capabilities _) rfl
  rw [parseHello, envelope, bridgeVersion, hostname, pid, interval, capabilities]
  rfl

/-- An element of `sensors`. -/
theorem parseCatalogSensor_json (sensor : CatalogSensor) :
    parseCatalogSensor formatDouble (itemOf sensor.json) = .ok sensor.received := by
  have object : requireObject (text "Invalid sensor entry in catalog_snapshot")
      (itemOf sensor.json) = .ok () := rfl
  have sensorUid : getRequiredString (itemOf sensor.json) (text "sensor_uid") =
      .ok sensor.sensorUid.utf8 := getRequiredString_of rfl
  have hardwareUid : getRequiredString (itemOf sensor.json) (text "hardware_uid") =
      .ok sensor.hardwareUid.utf8 := getRequiredString_of rfl
  have hardwarePath : getRequiredString (itemOf sensor.json) (text "hardware_path") =
      .ok sensor.hardwarePath.utf8 := getRequiredString_of rfl
  have hardwareName : getRequiredString (itemOf sensor.json) (text "hardware_name") =
      .ok sensor.hardwareName.utf8 := getRequiredString_of rfl
  have hardwareType : getRequiredString (itemOf sensor.json) (text "hardware_type") =
      .ok sensor.hardwareType.utf8 := getRequiredString_of rfl
  have sensorPath : getRequiredString (itemOf sensor.json) (text "sensor_path") =
      .ok sensor.sensorPath.utf8 := getRequiredString_of rfl
  have sensorName : getRequiredString (itemOf sensor.json) (text "sensor_name") =
      .ok sensor.sensorName.utf8 := getRequiredString_of rfl
  have sensorType : getRequiredString (itemOf sensor.json) (text "sensor_type") =
      .ok sensor.sensorType.utf8 := getRequiredString_of rfl
  have sensorIndex : getRequiredInt (itemOf sensor.json) (text "sensor_index") =
      .ok sensor.sensorIndex.toInt := getRequiredInt_of rfl
  have unit : getRequiredString (itemOf sensor.json) (text "unit") = .ok sensor.unit.utf8 :=
    getRequiredString_of rfl
  have hidden : getFlag (itemOf sensor.json) (text "is_default_hidden") =
      sensor.isDefaultHidden := getFlag_of rfl
  have properties : getCompactString formatDouble (itemOf sensor.json) (text "properties") =
      hostJson (propertiesJson sensor.properties) :=
    getCompactString_of formatDouble (textual_properties _) rfl
  rw [parseCatalogSensor, object, sensorUid, hardwareUid, hardwarePath, hardwareName,
    hardwareType, sensorPath, sensorName, sensorType, sensorIndex, unit, hidden, properties]
  rfl

/-- The entries of a list are read one by one. -/
theorem mapM_itemsOf {α β : Type*} {json : α → Value} {parse : Item → Except CStr β} {read : α → β}
    (each : ∀ a, parse (itemOf (json a)) = .ok (read a)) (entries : List α) :
    (itemsOf (entries.map json)).mapM parse = .ok (entries.map read) := by
  induction entries with
  | nil => rfl
  | cons a rest ih =>
    rw [List.map_cons, itemsOf, List.mapM_cons, each, ih]
    rfl

/-- `ParseCatalogSnapshot` on a catalog snapshot. -/
theorem parseCatalogSnapshot_json (message : CatalogSnapshotMessage) {sentAt : DateTimeOffset}
    (sent : message.sentAtUtc = sentAt.toRoundTrip) :
    parseCatalogSnapshot formatDouble (itemOf message.json) = .ok (message.received sentAt) := by
  have envelope : parseEnvelope (itemOf message.json) =
      .ok (receivedEnvelope message.schemaVersion message.source message.machineId sentAt) :=
    parseEnvelope_of rfl rfl rfl (sent ▸ rfl)
  have items : getRequiredArray (itemOf message.json) (text "sensors") =
      .ok (itemsOf (message.sensors.map CatalogSensor.json)) := getRequiredArray_of rfl
  rw [parseCatalogSnapshot, envelope, items]
  simp only [bind, Except.bind, mapM_itemsOf (parseCatalogSensor_json formatDouble)]
  rfl

/-- `ParseHeartbeat` on a heartbeat. -/
theorem parseHeartbeat_json (message : HeartbeatMessage) {sentAt : DateTimeOffset}
    (sent : message.sentAtUtc = sentAt.toRoundTrip)
    (small : |message.uptimeSeconds.toInt| ≤ 2 ^ 53) :
    parseHeartbeat (itemOf message.json) = .ok (message.received sentAt) := by
  have envelope : parseEnvelope (itemOf message.json) =
      .ok (receivedEnvelope message.schemaVersion message.source message.machineId sentAt) :=
    parseEnvelope_of rfl rfl rfl (sent ▸ rfl)
  have status : getRequiredString (itemOf message.json) (text "status") =
      .ok message.status.utf8 := getRequiredString_of rfl
  have uptime : getRequiredInt64 (itemOf message.json) (text "uptime_s") =
      .ok message.uptimeSeconds.toInt := getRequiredInt64_of small rfl
  have count : getRequiredInt (itemOf message.json) (text "catalog_count") =
      .ok message.catalogCount.toInt := getRequiredInt_of rfl
  rw [parseHeartbeat, envelope, status, uptime, count]
  rfl

end Records

/-! ## Samples -/

/-- Every reading of the sample can be written. -/
structure SensorSample.IsFinite (sample : SensorSample) : Prop where
  value : sample.value.IsFinite
  min : ∀ reading ∈ sample.min, reading.IsFinite
  max : ∀ reading ∈ sample.max, reading.IsFinite

theorem Single.exists_json {reading : Single} (finite : reading.IsFinite) :
    ∃ n : Json.Number, reading.json = some (.number n) ∧ n.text.length ≤ 63 ∧
      reading.value = Binary64.held n.value := by
  cases reading with
  | finite decimal short => exact ⟨decimal, rfl, short, rfl⟩
  | nan => exact finite.elim
  | infinity negative => exact finite.elim

theorem exists_singleJson {reading : Option Single}
    (finite : ∀ single ∈ reading, single.IsFinite) :
    ∃ value, singleJson reading = some value ∧ Fits value ∧ value.depth = 0 := by
  cases reading with
  | none => exact ⟨.null, rfl, trivial, rfl⟩
  | some single =>
    obtain ⟨n, written, short, -⟩ := single.exists_json (finite single rfl)
    exact ⟨.number n, written, short, rfl⟩

/-- A finite sample is written, and read back. -/
theorem SensorSample.exists_json {sample : SensorSample} (finite : sample.IsFinite) :
    ∃ value, sample.json = some value ∧ Fits value ∧ value.depth = 1 ∧
      parseSensorSample (itemOf value) = .ok sample.received := by
  obtain ⟨n, valueWritten, short, same⟩ := sample.value.exists_json finite.value
  obtain ⟨min, minWritten, minFits, minDepth⟩ := exists_singleJson finite.min
  obtain ⟨max, maxWritten, maxFits, maxDepth⟩ := exists_singleJson finite.max
  let value : Value := .object [
    property "sensor_uid" sample.sensorUid.json,
    property "value" (.number n),
    property "min" min,
    property "max" max,
    property "quality" sample.quality.json]
  -- written, within the limits of the host's parser, and read back
  refine ⟨value, ?_, ?_, ?_, ?_⟩
  · simp only [SensorSample.json, valueWritten, minWritten, maxWritten]
    rfl
  · exact ⟨trivial, short, minFits, maxFits, trivial, trivial⟩
  · have depths : value.depth = Max.max 0 (Max.max 0 (Max.max min.depth
        (Max.max max.depth (Max.max 0 0)))) + 1 := rfl
    rw [depths, minDepth, maxDepth]
    rfl
  · have object : requireObject (text "Invalid sample entry in sample_batch") (itemOf value) =
        .ok () := rfl
    have sensorUid : getRequiredString (itemOf value) (text "sensor_uid") =
        .ok sample.sensorUid.utf8 := getRequiredString_of rfl
    have quality : getRequiredString (itemOf value) (text "quality") = .ok sample.quality.utf8 :=
      getRequiredString_of rfl
    have reading : getRequiredNumber (itemOf value) (text "value") = .ok sample.value.value :=
      same ▸ getRequiredNumber_of rfl
    have minValue : getOptionalNumber (itemOf value) (text "min") = sample.min.map Single.value :=
      getOptionalNumber_of minWritten rfl
    have maxValue : getOptionalNumber (itemOf value) (text "max") = sample.max.map Single.value :=
      getOptionalNumber_of maxWritten rfl
    rw [parseSensorSample, object, sensorUid, quality, reading, minValue, maxValue]
    rfl

/-- The samples of a batch, in order. -/
theorem exists_samples_json {samples : List SensorSample}
    (finite : ∀ sample ∈ samples, sample.IsFinite) :
    ∃ values, samples.mapM SensorSample.json = some values ∧
      (∀ value ∈ values, Fits value ∧ value.depth = 1) ∧
      (itemsOf values).mapM parseSensorSample = .ok (samples.map SensorSample.received) := by
  induction samples with
  | nil => exact ⟨[], rfl, by simp, rfl⟩
  | cons sample rest ih =>
    obtain ⟨value, written, fits, depth, read⟩ :=
      SensorSample.exists_json (finite sample List.mem_cons_self)
    obtain ⟨values, restWritten, restFit, restRead⟩ :=
      ih fun later member => finite later (List.mem_cons_of_mem sample member)
    refine ⟨value :: values, ?_, ?_, ?_⟩
    · rw [List.mapM_cons, written, restWritten]
      rfl
    · exact List.forall_mem_cons.mpr ⟨⟨fits, depth⟩, restFit⟩
    · rw [itemsOf, List.mapM_cons, read, restRead]
      rfl

/-! ## Messages -/

theorem fits_intJson {n : ℤ} (small : n.natAbs < 10 ^ 19) : Fits (intJson n) := by
  have short := Json.Number.length_text_ofInt_le (by omega) small
  change (Json.Number.ofInt n).text.length ≤ 63
  omega

theorem fits_int32 (n : Int32) : Fits (intJson n.toInt) := by
  have above := n.toInt_lt
  have below := n.le_toInt
  exact fits_intJson (by omega)

theorem fits_int64 (n : Int64) : Fits (intJson n.toInt) := by
  have above := n.toInt_lt
  have below := n.le_toInt
  exact fits_intJson (by omega)

theorem fits_names (names : List NetString) : Fits (.array (names.map NetString.json)) := by
  refine CJson.itemsFit_of_forall fun item member => ?_
  obtain ⟨name, -, rfl⟩ := List.mem_map.mp member
  trivial

theorem depth_names_le (names : List NetString) :
    (Value.array (names.map NetString.json)).depth ≤ 1 := by
  refine Nat.succ_le_succ (Value.itemsDepth_le fun item member => ?_)
  obtain ⟨name, -, rfl⟩ := List.mem_map.mp member
  exact Nat.le_refl 0

theorem fits_capabilities (capabilities : BridgeCapabilities) : Fits capabilities.json :=
  ⟨fits_names _, fits_names _, trivial⟩

theorem depth_capabilities_le (capabilities : BridgeCapabilities) :
    capabilities.json.depth ≤ 2 := by
  have hardware := depth_names_le capabilities.hardwareTypes
  have sensors := depth_names_le capabilities.sensorTypes
  exact Nat.succ_le_succ (max_le hardware (max_le sensors (Nat.zero_le 1)))

theorem fits_properties (properties : List (NetString × NetString)) :
    Fits (propertiesJson properties) := by
  refine CJson.membersFit_of_forall fun member inside => ?_
  obtain ⟨entry, -, rfl⟩ := List.mem_map.mp inside
  trivial

theorem depth_properties_le (properties : List (NetString × NetString)) :
    (propertiesJson properties).depth ≤ 1 := by
  refine Nat.succ_le_succ (Value.membersDepth_le fun member inside => ?_)
  obtain ⟨entry, -, rfl⟩ := List.mem_map.mp inside
  exact Nat.le_refl 0

theorem fits_catalogSensor (sensor : CatalogSensor) : Fits sensor.json :=
  ⟨trivial, trivial, trivial, trivial, trivial, trivial, trivial, trivial,
    fits_int32 sensor.sensorIndex, trivial, trivial, fits_properties sensor.properties, trivial⟩

theorem depth_array_le {items : List Value} {bound : ℕ}
    (each : ∀ item ∈ items, item.depth ≤ bound) :
    (Value.array items).depth ≤ bound + 1 := Nat.succ_le_succ (Value.itemsDepth_le each)

theorem depth_catalogSensor_le (sensor : CatalogSensor) : sensor.json.depth ≤ 2 := by
  have properties := depth_properties_le sensor.properties
  simp only [CatalogSensor.json, property, NetString.json, intJson, Value.depth,
    Value.membersDepth]
  omega

/-- A value that the host reads as a message. -/
structure ReadAs (value : Value) (message : BridgeMessage) : Prop where
  fits : Fits value
  shallow : value.depth ≤ CJson.nestingLimit
  read : ∀ formatDouble, parseRoot formatDouble (itemOf value) = .ok message

theorem HelloMessage.readAs (message : HelloMessage) {sentAt : DateTimeOffset}
    (kind : message.type = literal "hello") (sent : message.sentAtUtc = sentAt.toRoundTrip) :
    ReadAs message.json (.hello (message.received sentAt)) where
  fits := ⟨trivial, fits_int32 _, trivial, trivial, trivial, trivial, trivial, fits_int32 _,
    fits_int32 _, fits_capabilities _, trivial⟩
  shallow := by
    have capabilities := depth_capabilities_le message.capabilities
    simp only [HelloMessage.json, property, NetString.json, intJson, Value.depth,
      Value.membersDepth, CJson.nestingLimit]
    omega
  read formatDouble := by
    have type : getRequiredString (itemOf message.json) (text "type") =
        .ok (literal "hello").utf8 := kind ▸ getRequiredString_of rfl
    rw [parseRoot, type]
    simp only [bind, Except.bind]
    rw [if_pos (by decide), parseHello_json formatDouble message sent]
    rfl

theorem CatalogSnapshotMessage.readAs (message : CatalogSnapshotMessage)
    {sentAt : DateTimeOffset} (kind : message.type = literal "catalog_snapshot")
    (sent : message.sentAtUtc = sentAt.toRoundTrip) :
    ReadAs message.json (.catalogSnapshot (message.received sentAt)) where
  fits := by
    refine ⟨trivial, fits_int32 _, trivial, trivial, trivial, ?_, trivial⟩
    refine CJson.itemsFit_of_forall fun item member => ?_
    obtain ⟨sensor, -, rfl⟩ := List.mem_map.mp member
    exact fits_catalogSensor sensor
  shallow := by
    have sensors : (Value.array (message.sensors.map CatalogSensor.json)).depth ≤ 3 := by
      refine depth_array_le fun item member => ?_
      obtain ⟨sensor, -, rfl⟩ := List.mem_map.mp member
      exact depth_catalogSensor_le sensor
    rw [Value.depth] at sensors
    simp only [CatalogSnapshotMessage.json, property, NetString.json, intJson, Value.depth,
      Value.membersDepth, CJson.nestingLimit]
    omega
  read formatDouble := by
    have type : getRequiredString (itemOf message.json) (text "type") =
        .ok (literal "catalog_snapshot").utf8 := kind ▸ getRequiredString_of rfl
    rw [parseRoot, type]
    simp only [bind, Except.bind]
    rw [if_neg (by decide), if_pos (by decide), parseCatalogSnapshot_json formatDouble message sent]
    rfl

theorem HeartbeatMessage.readAs (message : HeartbeatMessage) {sentAt : DateTimeOffset}
    (kind : message.type = literal "heartbeat") (sent : message.sentAtUtc = sentAt.toRoundTrip)
    (small : |message.uptimeSeconds.toInt| ≤ 2 ^ 53) :
    ReadAs message.json (.heartbeat (message.received sentAt)) where
  fits := ⟨trivial, fits_int32 _, trivial, trivial, trivial, trivial, fits_int64 _, fits_int32 _,
    trivial⟩
  shallow := by
    simp only [HeartbeatMessage.json, property, NetString.json, intJson, Value.depth,
      Value.membersDepth, CJson.nestingLimit]
    omega
  read formatDouble := by
    have type : getRequiredString (itemOf message.json) (text "type") =
        .ok (literal "heartbeat").utf8 := kind ▸ getRequiredString_of rfl
    rw [parseRoot, type]
    simp only [bind, Except.bind]
    rw [if_neg (by decide), if_neg (by decide), if_neg (by decide), if_pos (by decide),
      parseHeartbeat_json message sent small]
    rfl

theorem SampleBatchMessage.readAs (message : SampleBatchMessage)
    {sampleTime sentAt : DateTimeOffset} (kind : message.type = literal "sample_batch")
    (sent : message.sentAtUtc = sentAt.toRoundTrip)
    (sampled : message.sampleTimeUtc = sampleTime.toRoundTrip)
    (finite : ∀ sample ∈ message.samples, sample.IsFinite) :
    ∃ value, message.json = some value ∧
      ReadAs value (.sampleBatch (message.received sampleTime sentAt)) := by
  obtain ⟨values, written, each, samplesRead⟩ := exists_samples_json finite
  let value : Value := .object [
    property "type" message.type.json,
    property "schema_version" (intJson message.schemaVersion.toInt),
    property "source" message.source.json,
    property "machine_id" message.machineId.json,
    property "sent_at_utc" message.sentAtUtc.json,
    property "sample_time_utc" message.sampleTimeUtc.json,
    property "samples" (.array values)]
  have whole : message.json = some value := by
    rw [SampleBatchMessage.json, written]
    rfl
  refine ⟨value, whole, ?_, ?_, fun formatDouble => ?_⟩
  · exact ⟨trivial, fits_int32 _, trivial, trivial, trivial, trivial,
      CJson.itemsFit_of_forall fun item member => (each item member).1, trivial⟩
  · have samples : (Value.array values).depth ≤ 2 :=
      depth_array_le fun item member => (each item member).2.le
    rw [Value.depth] at samples
    simp only [value, property, NetString.json, intJson, Value.depth, Value.membersDepth,
      CJson.nestingLimit]
    omega
  · have type : getRequiredString (itemOf value) (text "type") =
        .ok (literal "sample_batch").utf8 := kind ▸ getRequiredString_of rfl
    have envelope : parseEnvelope (itemOf value) =
        .ok (receivedEnvelope message.schemaVersion message.source message.machineId sentAt) :=
      parseEnvelope_of rfl rfl rfl (sent ▸ rfl)
    have sampleTimeUtc : getRequiredTimestamp (itemOf value) (text "sample_time_utc") =
        .ok sampleTime.unixMs := getRequiredTimestamp_of (sampled ▸ rfl)
    have items : getRequiredArray (itemOf value) (text "samples") = .ok (itemsOf values) :=
      getRequiredArray_of rfl
    have parsed : parseSampleBatch (itemOf value) = .ok (message.received sampleTime sentAt) := by
      rw [parseSampleBatch, envelope, sampleTimeUtc, items]
      simp only [bind, Except.bind, samplesRead]
      rfl
    rw [parseRoot, type]
    simp only [bind, Except.bind]
    rw [if_neg (by decide), if_neg (by decide), if_pos (by decide), parsed]
    rfl

/-- Every reading of the message can be written. -/
def Message.IsFinite : Message → Prop
  | .sampleBatch message => ∀ sample ∈ message.samples, sample.IsFinite
  | .hello _ | .catalogSnapshot _ | .heartbeat _ => True

/-- What `Send` is called with is written, and read as the message expected. -/
theorem Call.readAs (environment : Environment) (options : BridgeOptions) (call : Call)
    (finite : (call.message environment options).IsFinite) :
    ∃ value, (call.message environment options).json = some value ∧
      ReadAs value (call.received environment options) := by
  cases call with
  | hello catalog utcNow => exact ⟨_, rfl, HelloMessage.readAs _ rfl rfl⟩
  | catalogSnapshot catalog utcNow => exact ⟨_, rfl, CatalogSnapshotMessage.readAs _ rfl rfl⟩
  | sampleBatch computer sampleTime utcNow =>
    exact SampleBatchMessage.readAs _ rfl rfl rfl finite
  | heartbeat startedAt catalogCount utcNow later =>
    have uptime := uptimeSeconds_eq options startedAt catalogCount utcNow later
    refine ⟨_, rfl, HeartbeatMessage.readAs _ rfl rfl ?_⟩
    rw [uptime.1, Int.abs_eq_natAbs]
    exact_mod_cast uptime.2.le

theorem parse_hostJson {value : Value} (fits : Fits value) (shallow : value.depth ≤ 2) :
    CJson.parse (hostJson value) = some (itemOf value) :=
  CJson.parse_document CJson.encoder fits (shallow.trans (by decide))

/-- The JSON texts the host keeps hold the values the bridge wrote. -/
theorem Call.parse_jsonTexts (environment : Environment) (options : BridgeOptions) (call : Call) :
    (jsonTexts (call.received environment options)).map CJson.parse =
      (call.message environment options).jsonValues.map (some <| itemOf ·) := by
  cases call with
  | hello catalog utcNow =>
    exact congrArg (fun parsed => [parsed])
      (parse_hostJson (fits_capabilities _) (depth_capabilities_le _))
  | catalogSnapshot catalog utcNow =>
    simp only [jsonTexts, Message.jsonValues, Call.received, Call.message,
      CatalogSnapshotMessage.received, List.map_map]
    refine List.map_congr_left fun sensor _ => ?_
    exact parse_hostJson (fits_properties _) ((depth_properties_le _).trans (by decide))
  | sampleBatch computer sampleTime utcNow => rfl
  | heartbeat startedAt catalogCount utcNow later => rfl

/-- The line of a value the host reads as a message: how it is delivered and parsed. -/
theorem ReadAs.line {value : Value} {message : BridgeMessage} (reads : ReadAs value message)
    (encoder : Encoder) (formatDouble : Double → Bytes) :
    (NamedPipeServer.newline ∉ value.text encoder ∧
      NamedPipeServer.carriageReturn ∉ value.text encoder) ∧
      (∀ rest, NamedPipeServer.messages (value.text encoder ++ lineBreak ++ rest) =
        value.text encoder :: NamedPipeServer.messages rest) ∧
      parseBridgeMessage formatDouble (value.text encoder) = .ok message := by
  have printable := value.printable_text encoder
  -- line breaks inside strings are escaped, so no control character is left in the text
  have noBreak : ∀ b : UInt8, b.toNat < 32 → b ∉ value.text encoder :=
    fun b control member => absurd (printable b member) (Nat.not_le.mpr control)
  have newlineFree := noBreak NamedPipeServer.newline (by decide)
  obtain ⟨first, more, begins, -⟩ := CJson.starts_text encoder value
  have whole : CStr.ofBytes (value.text encoder) = document encoder value :=
    CStr.ofBytes_bytes (document encoder value)
  refine ⟨⟨newlineFree, noBreak _ (by decide)⟩, fun rest => ?_, ?_⟩
  · rw [List.append_assoc]
    exact NamedPipeServer.messages_line (begins ▸ List.cons_ne_nil first more) newlineFree rest
  · rw [parseBridgeMessage, whole, CJson.parse_document encoder reads.fits reads.shallow]
    exact reads.read formatDouble

/-- **The bridge's encoder and the host's decoder agree.** However the serializer escapes
characters, the line of a message with finite readings has no line break before its end,
the pipe server delivers it without the break, and the host reads the message of the same
kind with the same fields. -/
theorem send_received (encoder : Encoder) (formatDouble : Double → Bytes)
    (environment : Environment) (options : BridgeOptions) (call : Call)
    (finite : (call.message environment options).IsFinite) :
    ∃ body, send encoder (call.message environment options) = some (body ++ lineBreak) ∧
      (NamedPipeServer.newline ∉ body ∧ NamedPipeServer.carriageReturn ∉ body) ∧
      (∀ rest, NamedPipeServer.messages (body ++ lineBreak ++ rest) =
        body :: NamedPipeServer.messages rest) ∧
      parseBridgeMessage formatDouble body = .ok (call.received environment options) ∧
      (jsonTexts (call.received environment options)).map CJson.parse =
        (call.message environment options).jsonValues.map (some <| itemOf ·) := by
  obtain ⟨value, written, reads⟩ := call.readAs environment options finite
  obtain ⟨breakFree, delivered, parsed⟩ := reads.line encoder formatDouble
  refine ⟨value.text encoder, ?_, breakFree, delivered, parsed,
    call.parse_jsonTexts environment options⟩
  rw [send, written]
  rfl

/-- A processor temperature of 62.5 with a maximum and no minimum. -/
def packageTemperature : ISensor where
  identifier := literal "/amdcpu/0/temperature/0"
  name := literal "CPU Package"
  sensorType := .temperature
  index := 0
  isDefaultHidden := false
  value := some (.finite ⟨false, [6, 2], [5], none, by decide, by decide⟩ (by decide))
  min := none
  max := some (.finite ⟨false, [7, 1], [], none, by decide, by decide⟩ (by decide))

def processor : IHardware :=
  .mk ⟨literal "/amdcpu/0", literal "AMD Ryzen 7 7800X3D", literal "Cpu", []⟩
    [packageTemperature] []

def hostOptions : BridgeOptions where
  machineId := literal "snd-host"
  sampleIntervalMs := 1000
  source := literal "librehw_bridge"
  bridgeVersion := literal "0.1.0"

def hostEnvironment : Environment where
  machineName := literal "SND-HOST"
  processId := 14220
  stringOrder := fun s t => s.chars ≤ t.chars

def firstReading : DateTimeOffset where
  date := ⟨2026, 3, 28, by decide, by decide, by decide, by decide⟩
  hour := 11
  minute := 2
  second := 1
  fraction := 1234567
  year_pos := by decide
  year_lt := by decide
  hour_lt := by decide
  minute_lt := by decide
  second_lt := by decide
  fraction_lt := by decide

/-- The batch of one reading, whose time is read as 11:02:01.123. -/
theorem send_received_reading :
    ∃ body,
      send defaultEncoder ((Call.sampleBatch [processor] firstReading firstReading).message
        hostEnvironment hostOptions) = some (body ++ lineBreak) ∧
      parseBridgeMessage (fun _ => []) body = .ok (.sampleBatch
        { envelope := ⟨1, text "librehw_bridge", text "snd-host", 1774695721123⟩
          sampleTimeUtcMs := 1774695721123
          samples := [⟨text "librehw:/amdcpu/0/temperature/0", 125 / 2, none, some 71,
            text "ok"⟩] }) := by
  have finite : ((Call.sampleBatch [processor] firstReading firstReading).message
      hostEnvironment hostOptions).IsFinite := by
    intro sample member
    obtain rfl := List.mem_singleton.mp member
    refine ⟨trivial, fun _ absent => absurd absent (Option.not_mem_none _), ?_⟩
    rintro _ ⟨⟩
    trivial
  obtain ⟨body, written, -, -, read, -⟩ :=
    send_received defaultEncoder (fun _ => []) hostEnvironment hostOptions _ finite
  exact ⟨body, written, read.trans (congrArg Except.ok (by decide +kernel))⟩

end CapacityAgent.LibreHwBridge

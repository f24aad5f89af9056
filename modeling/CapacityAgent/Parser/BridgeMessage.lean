/-
# The parser of bridge messages

`ParseBridgeMessage` over the items cJSON parses. A failed check ends a message with its
error text; the checks are made in the order of the source. Its output pointers are not
null.
-/

import CapacityAgent.CJson.Print
import CapacityAgent.Parser.Iso8601

namespace CapacityAgent

open CJson (Item getObjectItemCaseSensitive printUnformatted)

/-! ## Fields -/

/-- `GetRequiredString`. -/
def getRequiredString (object : Item) (key : CStr) : Except CStr CStr :=
  match getObjectItemCaseSensitive object key with
  | some (.string valuestring) => .ok valuestring
  | _ => .error (text "Missing or invalid string field: " ++ key)

/-- `RequireNumber` on the item of a key; the value is a `valuedouble`. -/
def getRequiredNumber (object : Item) (key : CStr) : Except CStr Double :=
  match getObjectItemCaseSensitive object key with
  | some (.number valuedouble) => .ok valuedouble
  | _ => .error (text "Missing or invalid number field: " ++ key)

/-- `GetRequiredInt`. -/
def getRequiredInt (object : Item) (key : CStr) : Except CStr ℤ :=
  (getRequiredNumber object key).map CJson.valueint

/-- `GetRequiredInt64`. -/
def getRequiredInt64 (object : Item) (key : CStr) : Except CStr ℤ :=
  (getRequiredNumber object key).map CJson.truncate

/-- A number that may be missing; any other item counts as missing. -/
def getOptionalNumber (object : Item) (key : CStr) : Option Double :=
  match getObjectItemCaseSensitive object key with
  | some (.number valuedouble) => some valuedouble
  | _ => none

/-- The children of a required array. -/
def getRequiredArray (object : Item) (key : CStr) : Except CStr (List Item) :=
  match getObjectItemCaseSensitive object key with
  | some (.array children) => .ok children
  | _ => .error (text "Missing or invalid array field: " ++ key)

/-- `RequireObject`, with the error text of its caller. -/
def requireObject (error : CStr) : Item → Except CStr Unit
  | .object _ => .ok ()
  | _ => .error error

/-- A required string that is a timestamp. -/
def getRequiredTimestamp (object : Item) (key : CStr) : Except CStr ℤ := do
  let timestamp ← getRequiredString object key
  match parseIso8601UtcMs timestamp.bytes with
  | some ms => .ok ms
  | none => .error (text "Invalid " ++ key ++ text " timestamp")

/-- Whether the item of a key is `true`. -/
def getFlag (object : Item) (key : CStr) : Bool :=
  match getObjectItemCaseSensitive object key with
  | some (.bool true) => true
  | _ => false

/-- `ParseEnvelope`. -/
def parseEnvelope (root : Item) : Except CStr MessageEnvelope := do
  let schemaVersion ← getRequiredInt root (text "schema_version")
  let source ← getRequiredString root (text "source")
  let machineId ← getRequiredString root (text "machine_id")
  let sentAtUtcMs ← getRequiredTimestamp root (text "sent_at_utc")
  return { schemaVersion, source, machineId, sentAtUtcMs }

/-! ## Messages -/

section Messages

variable (formatDouble : Double → Bytes)

/-- `JsonCompactString` of the item of a key. -/
def getCompactString (object : Item) (key : CStr) : CStr :=
  match getObjectItemCaseSensitive object key with
  | some item => printUnformatted formatDouble item
  | none => text ""

/-- `ParseHello`. -/
def parseHello (root : Item) : Except CStr HelloMessage := do
  let envelope ← parseEnvelope root
  let bridgeVersion ← getRequiredString root (text "bridge_version")
  let hostname ← getRequiredString root (text "hostname")
  let pid ← getRequiredInt root (text "pid")
  let sampleIntervalMs ← getRequiredInt root (text "sample_interval_ms")
  let capabilitiesJson := getCompactString formatDouble root (text "capabilities")
  return { envelope, bridgeVersion, hostname, pid, sampleIntervalMs, capabilitiesJson }

/-- An element of `sensors`. -/
def parseCatalogSensor (item : Item) : Except CStr CatalogSensor := do
  requireObject (text "Invalid sensor entry in catalog_snapshot") item
  let sensorUid ← getRequiredString item (text "sensor_uid")
  let hardwareUid ← getRequiredString item (text "hardware_uid")
  let hardwarePath ← getRequiredString item (text "hardware_path")
  let hardwareName ← getRequiredString item (text "hardware_name")
  let hardwareType ← getRequiredString item (text "hardware_type")
  let sensorPath ← getRequiredString item (text "sensor_path")
  let sensorName ← getRequiredString item (text "sensor_name")
  let sensorType ← getRequiredString item (text "sensor_type")
  let sensorIndex ← getRequiredInt item (text "sensor_index")
  let unit ← getRequiredString item (text "unit")
  let isDefaultHidden := getFlag item (text "is_default_hidden")
  let propertiesJson := getCompactString formatDouble item (text "properties")
  return { sensorUid, hardwareUid, hardwarePath, hardwareName, hardwareType, sensorPath,
           sensorName, sensorType, sensorIndex, unit, isDefaultHidden, propertiesJson }

/-- `ParseCatalogSnapshot`. -/
def parseCatalogSnapshot (root : Item) : Except CStr CatalogSnapshotMessage := do
  let envelope ← parseEnvelope root
  let items ← getRequiredArray root (text "sensors")
  let sensors ← items.mapM (parseCatalogSensor formatDouble)
  return { envelope, sensors }

/-- An element of `samples`. -/
def parseSensorSample (item : Item) : Except CStr SensorSample := do
  requireObject (text "Invalid sample entry in sample_batch") item
  let sensorUid ← getRequiredString item (text "sensor_uid")
  let quality ← getRequiredString item (text "quality")
  let value ← getRequiredNumber item (text "value")
  let minValue := getOptionalNumber item (text "min")
  let maxValue := getOptionalNumber item (text "max")
  return { sensorUid, value, minValue, maxValue, quality }

/-- `ParseSampleBatch`. -/
def parseSampleBatch (root : Item) : Except CStr SampleBatchMessage := do
  let envelope ← parseEnvelope root
  let sampleTimeUtcMs ← getRequiredTimestamp root (text "sample_time_utc")
  let items ← getRequiredArray root (text "samples")
  let samples ← items.mapM parseSensorSample
  return { envelope, sampleTimeUtcMs, samples }

/-- `ParseHeartbeat`. -/
def parseHeartbeat (root : Item) : Except CStr HeartbeatMessage := do
  let envelope ← parseEnvelope root
  let status ← getRequiredString root (text "status")
  let uptimeSeconds ← getRequiredInt64 root (text "uptime_s")
  let catalogCount ← getRequiredInt root (text "catalog_count")
  return { envelope, status, uptimeSeconds, catalogCount }

/-- The message of an item, by its type. -/
def parseRoot (root : Item) : Except CStr BridgeMessage := do
  let type ← getRequiredString root (text "type")
  if type = text "hello" then .hello <$> parseHello formatDouble root
  else if type = text "catalog_snapshot" then
    .catalogSnapshot <$> parseCatalogSnapshot formatDouble root
  else if type = text "sample_batch" then .sampleBatch <$> parseSampleBatch root
  else if type = text "heartbeat" then .heartbeat <$> parseHeartbeat root
  else .error (text "Unsupported message type: " ++ type)

/-- `ParseBridgeMessage`; cJSON sees the line up to its first NUL. -/
def parseBridgeMessage (jsonLine : Bytes) : Except CStr BridgeMessage :=
  match CJson.parse (CStr.ofBytes jsonLine) with
  | some root => parseRoot formatDouble root
  | none => .error (text "Invalid JSON payload")

end Messages

end CapacityAgent

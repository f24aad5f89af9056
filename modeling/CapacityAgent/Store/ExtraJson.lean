/-
# Hand-written JSON

The texts `sqlite_store.cpp` assembles for the `extra_json` columns.
-/

import CapacityAgent.Messages

namespace CapacityAgent

/-- A lower-case hexadecimal digit. -/
def hexDigit (n : ℕ) : UInt8 := (if n < 10 then 48 + n else 87 + n).toUInt8

/-- One byte of `JsonEscape`. -/
def jsonEscapeByte (ch : UInt8) : Bytes :=
  if ch = byte '"' then lit "\\\""
  else if ch = byte '\\' then lit "\\\\"
  else if ch = 8 then lit "\\b"
  else if ch = 12 then lit "\\f"
  else if ch = 10 then lit "\\n"
  else if ch = 13 then lit "\\r"
  else if ch = 9 then lit "\\t"
  else if ch < 0x20 then lit "\\u00" ++ [hexDigit (ch.toNat / 16), hexDigit (ch.toNat % 16)]
  else [ch]

def jsonEscape (s : Bytes) : Bytes := s.flatMap jsonEscapeByte

def jsonString (s : Bytes) : Bytes := byte '"' :: (jsonEscape s ++ [byte '"'])

/-- `machine_id ":" source`. -/
def collectorId (machineId source : CStr) : CStr := machineId ++ text ":" ++ source

def buildMachineExtraJson (message : HelloMessage) : CStr :=
  CStr.ofBytes (lit "\x7b\"bridge_source\":" ++ jsonString message.envelope.source.bytes ++
    lit ",\"bridge_version\":" ++ jsonString message.bridgeVersion.bytes ++ lit "\x7d")

def buildHelloExtraJson (message : HelloMessage) : CStr :=
  CStr.ofBytes (lit "\x7b\"hostname\":" ++ jsonString message.hostname.bytes ++
    lit ",\"bridge_version\":" ++ jsonString message.bridgeVersion.bytes ++
    lit ",\"pid\":" ++ decimal message.pid ++
    lit ",\"sample_interval_ms\":" ++ decimal message.sampleIntervalMs ++
    (if message.capabilitiesJson.bytes.isEmpty then []
      else lit ",\"capabilities\":" ++ message.capabilitiesJson.bytes) ++ lit "\x7d")

def buildCatalogExtraJson (sensorCount : ℕ) : CStr :=
  CStr.ofBytes (lit "\x7b\"sensor_count\":" ++ decimal sensorCount ++ lit "\x7d")

def buildSampleExtraJson (sampleCount : ℕ) : CStr :=
  CStr.ofBytes (lit "\x7b\"sample_count\":" ++ decimal sampleCount ++ lit "\x7d")

def buildHeartbeatExtraJson (message : HeartbeatMessage) : CStr :=
  CStr.ofBytes (lit "\x7b\"uptime_s\":" ++ decimal message.uptimeSeconds ++
    lit ",\"catalog_count\":" ++ decimal message.catalogCount ++ lit "\x7d")

end CapacityAgent

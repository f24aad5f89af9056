/-
# Bridge messages

The decoded messages of the pipe, as the parser hands them to the store
(`bridge_messages.h`). Timestamps are UTC milliseconds. A `double` is represented by its
value, an infinite one by the bound of the finite values; a parsed number is rounded to it.
-/

import CapacityAgent.Text
import Mathlib.Data.Rat.Defs

namespace CapacityAgent

/-- A `double` that is a number, by its value; from 2 ^ 1024 on it is infinite. -/
abbrev Double := ℚ

/-- The fields every message carries. -/
structure MessageEnvelope where
  schemaVersion : ℤ
  source : CStr
  machineId : CStr
  sentAtUtcMs : ℤ
  deriving DecidableEq

/-- `capabilitiesJson` is compact JSON text, empty when the field was absent. -/
structure HelloMessage where
  envelope : MessageEnvelope
  bridgeVersion : CStr
  hostname : CStr
  pid : ℤ
  sampleIntervalMs : ℤ
  capabilitiesJson : CStr
  deriving DecidableEq

/-- One entry of a catalog snapshot; `propertiesJson` is empty when absent. -/
structure CatalogSensor where
  sensorUid : CStr
  hardwareUid : CStr
  hardwarePath : CStr
  hardwareName : CStr
  hardwareType : CStr
  sensorPath : CStr
  sensorName : CStr
  sensorType : CStr
  sensorIndex : ℤ
  unit : CStr
  isDefaultHidden : Bool
  propertiesJson : CStr
  deriving DecidableEq

structure CatalogSnapshotMessage where
  envelope : MessageEnvelope
  sensors : List CatalogSensor
  deriving DecidableEq

/-- One reading of a sample batch. -/
structure SensorSample where
  sensorUid : CStr
  value : Double
  minValue : Option Double
  maxValue : Option Double
  quality : CStr
  deriving DecidableEq

structure SampleBatchMessage where
  envelope : MessageEnvelope
  sampleTimeUtcMs : ℤ
  samples : List SensorSample
  deriving DecidableEq

structure HeartbeatMessage where
  envelope : MessageEnvelope
  status : CStr
  uptimeSeconds : ℤ
  catalogCount : ℤ
  deriving DecidableEq

/-- `model::BridgeMessage`. -/
inductive BridgeMessage
  | hello (message : HelloMessage)
  | catalogSnapshot (message : CatalogSnapshotMessage)
  | sampleBatch (message : SampleBatchMessage)
  | heartbeat (message : HeartbeatMessage)
  deriving DecidableEq

/-- The envelope of a message of any kind. -/
def BridgeMessage.envelope : BridgeMessage → MessageEnvelope
  | .hello message => message.envelope
  | .catalogSnapshot message => message.envelope
  | .sampleBatch message => message.envelope
  | .heartbeat message => message.envelope

end CapacityAgent

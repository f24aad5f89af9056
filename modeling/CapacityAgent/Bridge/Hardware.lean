/-
# The hardware tree

The part of LibreHardwareMonitor's interfaces the bridge reads, and its two traversals.
Both visit the sensors of a tree in the same order; `sensorsOf` is that order.
-/

import CapacityAgent.Bridge.Models

namespace CapacityAgent.LibreHwBridge

open NetString (literal)

/-! ## Sensors and hardware -/

/-- The sensor types with a unit, and the others by their names. -/
inductive SensorType
  | voltage | current | power | clock | temperature | temperatureRate | load | frequency | fan
  | flow | control | level | factor | data | smallData | throughput | timeSpan | timing | energy
  | noise | conductivity | humidity
  | other (name : NetString)

/-- `ToString`. -/
def SensorType.name : SensorType → NetString
  | voltage => literal "Voltage"
  | current => literal "Current"
  | power => literal "Power"
  | clock => literal "Clock"
  | temperature => literal "Temperature"
  | temperatureRate => literal "TemperatureRate"
  | load => literal "Load"
  | frequency => literal "Frequency"
  | fan => literal "Fan"
  | flow => literal "Flow"
  | control => literal "Control"
  | level => literal "Level"
  | factor => literal "Factor"
  | data => literal "Data"
  | smallData => literal "SmallData"
  | throughput => literal "Throughput"
  | timeSpan => literal "TimeSpan"
  | timing => literal "Timing"
  | energy => literal "Energy"
  | noise => literal "Noise"
  | conductivity => literal "Conductivity"
  | humidity => literal "Humidity"
  | other name => name

/-- `UnitFor`. -/
def unitFor : SensorType → NetString
  | .voltage => literal "V"
  | .current => literal "A"
  | .power => literal "W"
  | .clock => literal "MHz"
  | .temperature => literal "C"
  | .temperatureRate => literal "C_per_s"
  | .load => literal "pct"
  | .frequency => literal "Hz"
  | .fan => literal "rpm"
  | .flow => literal "L_per_h"
  | .control => literal "pct"
  | .level => literal "pct"
  | .factor => literal "factor"
  | .data => literal "GiB"
  | .smallData => literal "MiB"
  | .throughput => literal "B_per_s"
  | .timeSpan => literal "s"
  | .timing => literal "ns"
  | .energy => literal "mWh"
  | .noise => literal "dBA"
  | .conductivity => literal "uS_per_cm"
  | .humidity => literal "pct"
  | .other _ => literal "unknown"

structure ISensor where
  identifier : NetString
  name : NetString
  sensorType : SensorType
  index : Int32
  isDefaultHidden : Bool
  value : Option Single
  min : Option Single
  max : Option Single

/-- What the bridge reads of a piece of hardware itself; its type by name. -/
structure HardwareInfo where
  identifier : NetString
  name : NetString
  hardwareType : NetString
  properties : List (NetString × NetString)

inductive IHardware
  | mk (info : HardwareInfo) (sensors : List ISensor) (subHardware : List IHardware)

/-- `Computer.Hardware`. -/
abbrev Computer := List IHardware

/-! ## Traversals -/

/-- `SensorUid`. -/
def sensorUid (sensor : ISensor) : NetString := literal "librehw:" ++ sensor.identifier

/-- `HardwareUid`. -/
def hardwareUid (hardware : HardwareInfo) : NetString := literal "librehw:" ++ hardware.identifier

/-- The catalog entry of a sensor. -/
def catalogSensor (hardware : HardwareInfo) (sensor : ISensor) : CatalogSensor where
  sensorUid := sensorUid sensor
  hardwareUid := hardwareUid hardware
  hardwarePath := hardware.identifier
  hardwareName := hardware.name
  hardwareType := hardware.hardwareType
  sensorPath := sensor.identifier
  sensorName := sensor.name
  sensorType := sensor.sensorType.name
  sensorIndex := sensor.index
  unit := unitFor sensor.sensorType
  isDefaultHidden := sensor.isDefaultHidden
  properties := hardware.properties

/-- The sample of a sensor; there is none without a value. -/
def sensorSample (sensor : ISensor) : Option SensorSample :=
  sensor.value.map fun value =>
    { sensorUid := sensorUid sensor
      value
      min := sensor.min
      max := sensor.max
      quality := literal "ok" }

mutual

/-- `CollectCatalogRecursive`. -/
def collectCatalogRecursive : IHardware → List CatalogSensor → List CatalogSensor
  | .mk info sensors subHardware, catalog =>
    collectCatalogEach subHardware
      (sensors.foldl (fun catalog sensor => catalog ++ [catalogSensor info sensor]) catalog)

/-- The loop of `BuildCatalog` and of `CollectCatalogRecursive` over hardware. -/
def collectCatalogEach : List IHardware → List CatalogSensor → List CatalogSensor
  | [], catalog => catalog
  | hardware :: rest, catalog => collectCatalogEach rest (collectCatalogRecursive hardware catalog)

end

mutual

/-- `CollectSamplesRecursive`. -/
def collectSamplesRecursive : IHardware → List SensorSample → List SensorSample
  | .mk _ sensors subHardware, samples =>
    collectSamplesEach subHardware
      (sensors.foldl (fun samples sensor => samples ++ (sensorSample sensor).toList) samples)

/-- The loop of `BuildSampleBatch` and of `CollectSamplesRecursive` over hardware. -/
def collectSamplesEach : List IHardware → List SensorSample → List SensorSample
  | [], samples => samples
  | hardware :: rest, samples => collectSamplesEach rest (collectSamplesRecursive hardware samples)

end

/-- `BuildCatalog`. -/
def buildCatalog (computer : Computer) : List CatalogSensor := collectCatalogEach computer []

/-- The samples of `BuildSampleBatch`. -/
def collectSamples (computer : Computer) : List SensorSample := collectSamplesEach computer []

/-! ## The order of visits -/

mutual

/-- The sensors of a piece of hardware, each with the hardware it belongs to, as visited. -/
def sensorsOf : IHardware → List (HardwareInfo × ISensor)
  | .mk info sensors subHardware => sensors.map (info, ·) ++ sensorsOfEach subHardware

def sensorsOfEach : List IHardware → List (HardwareInfo × ISensor)
  | [] => []
  | hardware :: rest => sensorsOf hardware ++ sensorsOfEach rest

end

mutual

theorem collectCatalogRecursive_eq : ∀ (hardware : IHardware) (catalog : List CatalogSensor),
    collectCatalogRecursive hardware catalog =
      catalog ++ (sensorsOf hardware).map fun visited => catalogSensor visited.1 visited.2
  | .mk info sensors subHardware, catalog => by
    -- the hardware's own sensors come before those of its parts
    rw [collectCatalogRecursive, List.foldl_append_eq_append, ← List.flatMap_def,
      collectCatalogEach_eq, sensorsOf, List.map_append, List.map_map, List.append_assoc]
    congr 2
    exact (List.map_eq_flatMap ..).symm

theorem collectCatalogEach_eq : ∀ (computer : List IHardware) (catalog : List CatalogSensor),
    collectCatalogEach computer catalog =
      catalog ++ (sensorsOfEach computer).map fun visited => catalogSensor visited.1 visited.2
  | [], catalog => (List.append_nil catalog).symm
  | hardware :: rest, catalog => by
    rw [collectCatalogEach, collectCatalogEach_eq rest, collectCatalogRecursive_eq hardware,
      sensorsOfEach, List.map_append, List.append_assoc]

end

mutual

theorem collectSamplesRecursive_eq : ∀ (hardware : IHardware) (samples : List SensorSample),
    collectSamplesRecursive hardware samples =
      samples ++ (sensorsOf hardware).filterMap fun visited => sensorSample visited.2
  | .mk info sensors subHardware, samples => by
    rw [collectSamplesRecursive, List.foldl_append_eq_append, ← List.flatMap_def,
      collectSamplesEach_eq, sensorsOf, List.filterMap_append, List.filterMap_map,
      List.append_assoc]
    congr 2
    exact (List.filterMap_eq_flatMap_toList ..).symm

theorem collectSamplesEach_eq : ∀ (computer : List IHardware) (samples : List SensorSample),
    collectSamplesEach computer samples =
      samples ++ (sensorsOfEach computer).filterMap fun visited => sensorSample visited.2
  | [], samples => (List.append_nil samples).symm
  | hardware :: rest, samples => by
    rw [collectSamplesEach, collectSamplesEach_eq rest, collectSamplesRecursive_eq hardware,
      sensorsOfEach, List.filterMap_append, List.append_assoc]

end

/-- The catalog has an entry for every sensor, in the order of visits. -/
theorem buildCatalog_eq (computer : Computer) :
    buildCatalog computer =
      (sensorsOfEach computer).map fun visited => catalogSensor visited.1 visited.2 :=
  collectCatalogEach_eq computer []

/-- The samples are those of the sensors with a value, in the order of visits. -/
theorem collectSamples_eq (computer : Computer) :
    collectSamples computer =
      (sensorsOfEach computer).filterMap fun visited => sensorSample visited.2 :=
  collectSamplesEach_eq computer []

end CapacityAgent.LibreHwBridge

/-
# Thermal sensors

`discover_sensors` with all it finds, and `read` with what it returns. The driver
answers a mask of sensors with a failure or 32 temperatures; which index is the core's
and which the memory junction's is decided once, from the answers at discovery.
-/

import CapacityAgent.Gpu.Loaders
import CapacityAgent.Messages

namespace CapacityAgent

open Traced

/-- `temperatures`: raw values of 1/256 degree by sensor index. -/
abbrev Temperatures := Fin 32 → Int32

instance neZero_sensors : NeZero 32 := ⟨by decide⟩

/-- The driver's thermal function: what a mask is answered with, if with success. -/
abbrev ThermalDriver := UInt32 → Option Temperatures

/-- `SENTINEL_RAW`. -/
def sentinelRaw : Int32 := 65280

/-- A raw temperature in degrees. -/
def degrees (raw : Int32) : Double := raw.toInt / 256

/-- `NvThermalDiscovery`; an index that was not found is -1 in the source. -/
structure NvThermalDiscovery where
  mask : UInt32 := 0
  count : ℕ := 0
  coreIndex : Option (Fin 32) := none
  memjIndex : Option (Fin 32) := none
  initial : Temperatures := fun _ => 0

/-- A mask of one sensor. -/
def sensorBit (bit : Fin 32) : UInt32 := 1 <<< UInt32.ofNat bit

/-- The sensor is in the mask. -/
def hasSensor (mask : UInt32) (bit : Fin 32) : Bool := mask &&& sensorBit bit != 0

/-- The probe of one bit, with the mask and the highest bit plus one. -/
def probeSensor (driver : ThermalDriver) (found : UInt32 × ℕ) (bit : Fin 32) : UInt32 × ℕ :=
  if (driver (sensorBit bit)).isSome then (found.1 ||| sensorBit bit, bit.val + 1) else found

/-- What the probes of all bits find. -/
def probeSensors (driver : ThermalDriver) : UInt32 × ℕ :=
  (List.finRange 32).foldl (probeSensor driver) (0, 0)

/-- `mem_candidates`. -/
def memCandidates : List (Fin 32) := [2, 7, 9, 8]

/-- A candidate that answered, with a temperature that is no placeholder. -/
def isMemJunction (mask : UInt32) (maxBit : ℕ) (temps : Temperatures) (idx : Fin 32) : Bool :=
  idx < maxBit && hasSensor mask idx && temps idx != 0 && temps idx != sentinelRaw

/-- The roles of the sensors of a mask, from a full read. -/
def identifySensors (mask : UInt32) (maxBit : ℕ) (temps : Temperatures) : NvThermalDiscovery where
  mask := mask
  count := maxBit
  coreIndex := if 1 < maxBit && hasSensor mask 1 then some 1 else none
  memjIndex := memCandidates.find? (isMemJunction mask maxBit temps)
  initial := temps

namespace NvApiThermals

/-- `discover_sensors` into a fresh discovery: its result, and what it leaves. -/
def discover (t : NvApiThermals) (driver : ThermalDriver) : Bool × NvThermalDiscovery :=
  if t.ready && t.fnGetThermalU.isSome then
    let found := probeSensors driver
    if found.1 = 0 then (false, {})
    else
      match driver found.1 with
      | none => (false, {})
      | some temps => (true, identifySensors found.1 found.2 temps)
  else (false, {})

/-- What `read` fills `out` with, if it succeeds. -/
def readTemps (t : NvApiThermals) (driver : ThermalDriver) (mask : UInt32) :
    Option Temperatures :=
  if t.ready && t.fnGetThermalU.isSome && mask != 0 then driver mask else none

end NvApiThermals

/-! ## The mask -/

/-- The driver's answers to a discovery, by success. -/
def ThermalDriver.answers (driver : ThermalDriver) : ThermalAnswers where
  probe bit := if bounded : bit < 32 then (driver (sensorBit ⟨bit, bounded⟩)).isSome else false
  fullRead := (driver (probeSensors driver).1).isSome

theorem probeBits_value (t : NvApiThermals) (driver : ThermalDriver) (bits : List (Fin 32))
    (mask : UInt32) (maxBit : ℕ) :
    (t.probeBits driver.answers.probe (bits.map Fin.val) mask).value =
      (bits.foldl (probeSensor driver) (mask, maxBit)).1 := by
  induction bits generalizing mask maxBit with
  | nil => rfl
  | cons bit rest ih =>
    have answer : driver.answers.probe bit = (driver (sensorBit bit)).isSome := dif_pos bit.isLt
    rw [List.map_cons, List.foldl_cons]
    change (t.probeBits driver.answers.probe (rest.map Fin.val) _).value = _
    rw [answer, probeSensor]
    by_cases present : (driver (sensorBit bit)).isSome = true
    · rw [if_pos present, if_pos present]
      exact ih _ _
    · rw [if_neg present, if_neg present]
      exact ih _ _

/-- The discovery finds the mask that the life of a probe goes by. -/
theorem discoverSensors_value (t : NvApiThermals) (driver : ThermalDriver) :
    (t.discoverSensors driver.answers).value = (t.discover driver).2.mask := by
  have probed : (t.probeBits driver.answers.probe (List.range 32) 0).value =
      (probeSensors driver).1 := by
    rw [← List.map_coe_finRange_eq_range]
    exact probeBits_value t driver _ 0 0
  -- the full read decides whether the mask is kept
  unfold NvApiThermals.discoverSensors NvApiThermals.discover
  by_cases usable : (t.ready && t.fnGetThermalU.isSome) = true
  · rw [if_pos usable, if_pos usable]
    change (if driver.answers.fullRead then _ else 0 : UInt32) = _
    rw [probed]
    by_cases nothing : (probeSensors driver).1 = 0
    · simp only [nothing, if_true, ite_self]
    · simp only [nothing, if_false, ThermalDriver.answers]
      rcases Option.eq_none_or_eq_some (driver (probeSensors driver).1) with
        failed | ⟨temps, answered⟩
      · simp only [failed, Option.isSome_none, Bool.false_eq_true, if_false]
      · simp only [answered, Option.isSome_some, if_true]
        rfl
  · rw [if_neg usable, if_neg usable]
    rfl

end CapacityAgent

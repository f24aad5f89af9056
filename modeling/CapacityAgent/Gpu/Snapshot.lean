/-
# GPU snapshots and their rows

`GpuSnapshot` is one telemetry record of the driver library, its fields zero or
negative where no data was read. The poll loop turns a snapshot into a row of
`gpu_samples`, where missing data is NULL.
-/

import CapacityAgent.Store.Statements
import Mathlib.Data.Rat.Cast.Order

namespace CapacityAgent

/-- One fan of a snapshot. -/
structure FanEntry where
  levelPct : UInt32 := 0
  rpm : UInt32 := 0
  deriving DecidableEq

/-- One power rail of a snapshot. -/
structure PowerRailEntry where
  domain : UInt32 := 0
  powerMw : UInt32 := 0
  deriving DecidableEq

/-- The sensor fields of `GpuSnapshot`; the fans and rails are those counted. -/
structure GpuSnapshot where
  gpuIndex : ℤ := 0
  coreC : Double := 0
  memjnC : Double := 0
  hotspotC : ℤ := 0
  nvmlTempC : UInt32 := 0
  clockGraphicsMhz : UInt32 := 0
  clockMemoryMhz : UInt32 := 0
  clockVideoMhz : UInt32 := 0
  clockBoostMhz : UInt32 := 0
  nvmlClockGraphicsMhz : UInt32 := 0
  nvmlClockMemoryMhz : UInt32 := 0
  nvmlClockVideoMhz : UInt32 := 0
  pstate : ℤ := -1
  utilGpuPct : ℤ := -1
  utilFbPct : ℤ := -1
  utilVidPct : ℤ := -1
  nvmlUtilGpuPct : UInt32 := 0
  nvmlUtilMemPct : UInt32 := 0
  nvmlEncoderPct : UInt32 := 0
  nvmlDecoderPct : UInt32 := 0
  vramUsedMb : UInt32 := 0
  vramFreeMb : UInt32 := 0
  vramTotalMb : UInt32 := 0
  fans : List FanEntry := []
  nvmlPowerMw : UInt32 := 0
  powerRails : List PowerRailEntry := []
  voltageCoreMv : UInt32 := 0
  pcieTxKbS : UInt32 := 0
  pcieRxKbS : UInt32 := 0
  pcieLinkGen : UInt32 := 0
  pcieLinkWidth : UInt32 := 0
  throttleReasons : UInt64 := 0
  deriving DecidableEq

/-! ## Conversions -/

/-- `OptDouble`. -/
def optDouble (value : Double) : Option Double := if value ≠ 0 then some value else none

/-- `OptInt` of an unsigned value, which goes through `int`. -/
def optInt (value : UInt32) : Option ℤ :=
  if 0 < value.toInt32.toInt then some value.toInt32.toInt else none

/-- `OptInt64`. -/
def optInt64 (value : UInt32) : Option ℤ := if 0 < value then some value.toNat else none

/-- `gpu_uid`. -/
def gpuUid (gpuIndex : ℤ) : CStr := text "nvapi:" ++ decimalText gpuIndex

/-- The row `PollLoop` inserts for a snapshot; an empty name is bound as NULL. -/
def gpuRow (gpuName : CStr) (snap : GpuSnapshot) : GpuRow where
  gpuIndex := snap.gpuIndex
  gpuName := if gpuName.bytes.isEmpty then none else some gpuName
  backend := text "nvml_nvapi"
  coreC := optDouble snap.coreC
  hotspotC := if snap.hotspotC ≠ 0 then some (snap.hotspotC : Double) else none
  memJunctionC := optDouble snap.memjnC
  -- an idle GPU reads 0, so here missing data is negative
  utilGpuPct := if 0 ≤ snap.utilGpuPct then some (snap.utilGpuPct : Double) else none
  utilMemPct := if 0 < snap.nvmlUtilMemPct then some (snap.nvmlUtilMemPct.toNat : Double) else none
  powerW := if 0 < snap.nvmlPowerMw then some (snap.nvmlPowerMw.toNat / 1000 : Double) else none
  vramUsedBytes := (optInt64 snap.vramUsedMb).map (· * 1048576)
  vramTotalBytes := (optInt64 snap.vramTotalMb).map (· * 1048576)
  clockGraphicsMhz := optInt snap.clockGraphicsMhz
  clockMemoryMhz := optInt snap.clockMemoryMhz
  fan0Rpm := snap.fans.head?.map fun fan => fan.rpm.toInt32.toInt
  fan0Pct := snap.fans.head?.map fun fan => (fan.levelPct.toNat : Double)

/-- The key of the row. -/
def gpuKey (machineId : CStr) (nowMs : ℤ) (snap : GpuSnapshot) : GpuKey :=
  ⟨machineId, gpuUid snap.gpuIndex, nowMs⟩

/-- The name `gpu_info()` has for a snapshot, empty when it has none. -/
def gpuName (names : List CStr) (snap : GpuSnapshot) : CStr :=
  -- the index is checked against the list before it is used
  if snap.gpuIndex < 0 then text "" else names.getD snap.gpuIndex.toNat (text "")

/-- The inserts of one poll, in order. -/
def pollInserts (machineId : CStr) (names : List CStr) (nowMs : ℤ)
    (snapshots : List GpuSnapshot) : List (GpuKey × GpuRow) :=
  snapshots.map fun snap => (gpuKey machineId nowMs snap, gpuRow (gpuName names snap) snap)

end CapacityAgent

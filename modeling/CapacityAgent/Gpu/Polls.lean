/-
# What a poll puts into a snapshot

The polling helpers of the probe, by what the driver answers. A query that is not made
or fails has no answer and leaves its field; the helpers write different fields, and
only the thermal one writes the core and memory junction temperatures.
-/

import CapacityAgent.Gpu.Lifecycle
import CapacityAgent.Gpu.Probe
import CapacityAgent.Gpu.Thermals

namespace CapacityAgent

/-! ## Answers -/

/-- The clock domains the probe looks at, in kHz, if present. -/
structure ClockDomains where
  graphics : Option UInt32
  memory : Option UInt32
  video : Option UInt32

/-- The utilization domains it looks at, if present. -/
structure UtilDomains where
  gpu : Option ℤ
  fb : Option ℤ
  vid : Option ℤ

structure NvmlUtilization where
  gpu : UInt32
  memory : UInt32

/-- `NvmlMemoryInfo`, in bytes. -/
structure NvmlMemoryInfo where
  total : UInt64
  free : UInt64
  used : UInt64
  deriving DecidableEq

/-- Answers to the queries of `poll_common_medium`. The documented thermal settings are
given by the temperature of the GPU's hotspot sensor, if it is among those counted. -/
structure MediumAnswers where
  temperature : Option UInt32
  thermalSettings : Option (Option ℤ)
  clocks : Option ClockDomains
  boost : Option ClockDomains
  nvmlGraphics : Option UInt32
  nvmlMemory : Option UInt32
  nvmlVideo : Option UInt32
  pstate : Option ℤ
  pstates : Option UtilDomains
  utilization : Option NvmlUtilization

/-- Answers to the queries of `poll_power`. -/
structure PowerAnswers where
  powerUsage : Option UInt32
  topology : Option (List PowerRailEntry)

/-- Answers to the queries of `poll_slow_data`; of the voltage domains, the counted ones. -/
structure SlowAnswers where
  voltage : Option (List UInt32)
  memory : Option NvmlMemoryInfo
  encoder : Option UInt32
  decoder : Option UInt32
  pcieTx : Option UInt32
  pcieRx : Option UInt32
  linkGen : Option UInt32
  linkWidth : Option UInt32
  throttle : Option UInt64

/-- What the driver answers to the queries of one poll. -/
structure PollAnswers where
  thermal : ThermalDriver
  medium : MediumAnswers
  power : PowerAnswers
  fans : Option (List FanEntry)
  slow : SlowAnswers

/-- The answer to a query that is made only on a condition. -/
def answered {α : Type} (made : Bool) (answer : Option α) : Option α :=
  if made then answer else none

/-! ## Helpers -/

/-- The temperatures of a read, in the fields of the indices found at discovery. -/
def GpuSnapshot.takeTemps (snap : GpuSnapshot) (disc : NvThermalDiscovery)
    (temps : Temperatures) : GpuSnapshot :=
  { snap with
    coreC := disc.coreIndex.elim snap.coreC fun idx => degrees (temps idx)
    memjnC := disc.memjIndex.elim snap.memjnC fun idx => degrees (temps idx) }

/-- The VRAM part of `poll_slow_data`, after a query that succeeded. -/
def GpuSnapshot.pollMemory (snap : GpuSnapshot) (mem : NvmlMemoryInfo) : GpuSnapshot :=
  { snap with
    vramUsedMb := (mem.used / (1024 * 1024)).toUInt32
    vramFreeMb := (mem.free / (1024 * 1024)).toUInt32
    vramTotalMb := (mem.total / (1024 * 1024)).toUInt32 }

namespace GpuProbe

variable (p : GpuProbe) (g : GpuBackendContext)

/-- A query of NVML, which is made where its function was found. -/
def nvmlAnswer {α : Type} (fn : NvmlFn) (answer : Option α) : Option α :=
  answered (g.hasNvml && (p.nvml.fn fn).isSome) answer

/-- A query through a pointer of the probe. -/
def nvApiAnswer {α : Type} (fn : NvApiFn) (answer : Option α) : Option α :=
  answered (p.fn fn).isSome answer

/-- What the thermal read of a poll returns, if it is made and succeeds. -/
def thermalAnswer (disc : NvThermalDiscovery) (driver : ThermalDriver) : Option Temperatures :=
  answered (p.thermals.ready && disc.mask != 0) (p.thermals.readTemps driver disc.mask)

/-- `poll_thermals_undoc`. -/
def readThermalsUndoc (disc : NvThermalDiscovery) (driver : ThermalDriver) (snap : GpuSnapshot) :
    GpuSnapshot :=
  (p.thermalAnswer disc driver).elim snap (snap.takeTemps disc)

/-- `poll_common_medium`. -/
def readCommonMedium (answers : MediumAnswers) (snap : GpuSnapshot) : GpuSnapshot :=
  let hotspot := answered g.hasHotspot (p.nvApiAnswer .getThermalSettings answers.thermalSettings)
  let clocks := p.nvApiAnswer .getAllClockFrequencies answers.clocks
  let boost := p.nvApiAnswer .getAllClockFrequencies answers.boost
  let pstates := p.nvApiAnswer .getDynamicPStatesInfoEx answers.pstates
  let utilization := p.nvmlAnswer g .deviceGetUtilizationRates answers.utilization
  { snap with
    nvmlTempC := (p.nvmlAnswer g .deviceGetTemperature answers.temperature).getD snap.nvmlTempC
    hotspotC := (hotspot.bind id).getD snap.hotspotC
    clockGraphicsMhz := (clocks.bind (·.graphics)).elim snap.clockGraphicsMhz (· / 1000)
    clockMemoryMhz := (clocks.bind (·.memory)).elim snap.clockMemoryMhz (· / 1000)
    clockVideoMhz := (clocks.bind (·.video)).elim snap.clockVideoMhz (· / 1000)
    clockBoostMhz := (boost.bind (·.graphics)).elim snap.clockBoostMhz (· / 1000)
    nvmlClockGraphicsMhz :=
      (p.nvmlAnswer g .deviceGetClockInfo answers.nvmlGraphics).getD snap.nvmlClockGraphicsMhz
    nvmlClockMemoryMhz :=
      (p.nvmlAnswer g .deviceGetClockInfo answers.nvmlMemory).getD snap.nvmlClockMemoryMhz
    nvmlClockVideoMhz :=
      (p.nvmlAnswer g .deviceGetClockInfo answers.nvmlVideo).getD snap.nvmlClockVideoMhz
    pstate := (p.nvApiAnswer .getCurrentPstate answers.pstate).getD snap.pstate
    utilGpuPct := (pstates.bind (·.gpu)).getD snap.utilGpuPct
    utilFbPct := (pstates.bind (·.fb)).getD snap.utilFbPct
    utilVidPct := (pstates.bind (·.vid)).getD snap.utilVidPct
    nvmlUtilGpuPct := utilization.elim snap.nvmlUtilGpuPct (·.gpu)
    nvmlUtilMemPct := utilization.elim snap.nvmlUtilMemPct (·.memory) }

/-- `poll_power`; a snapshot has room for four rails. -/
def readPower (answers : PowerAnswers) (snap : GpuSnapshot) : GpuSnapshot :=
  { snap with
    nvmlPowerMw := (p.nvmlAnswer g .deviceGetPowerUsage answers.powerUsage).getD snap.nvmlPowerMw
    powerRails := (p.nvApiAnswer .clientPowerTopologyGetStatus answers.topology).elim
      snap.powerRails (·.take 4) }

/-- `poll_fans`; a snapshot has room for four fans. -/
def readFans (answer : Option (List FanEntry)) (snap : GpuSnapshot) : GpuSnapshot :=
  { snap with fans := (answered p.fans.ready answer).elim snap.fans (·.take 4) }

/-- `poll_slow_data`. -/
def readSlowData (answers : SlowAnswers) (snap : GpuSnapshot) : GpuSnapshot :=
  let voltage := p.nvApiAnswer .getVoltageDomainsStatus answers.voltage
  let memory := p.nvmlAnswer g .deviceGetMemoryInfo answers.memory
  let snap := memory.elim snap snap.pollMemory
  { snap with
    voltageCoreMv := (voltage.bind List.head?).getD snap.voltageCoreMv
    nvmlEncoderPct :=
      (p.nvmlAnswer g .deviceGetEncoderUtilization answers.encoder).getD snap.nvmlEncoderPct
    nvmlDecoderPct :=
      (p.nvmlAnswer g .deviceGetDecoderUtilization answers.decoder).getD snap.nvmlDecoderPct
    pcieTxKbS := (p.nvmlAnswer g .deviceGetPcieThroughput answers.pcieTx).getD snap.pcieTxKbS
    pcieRxKbS := (p.nvmlAnswer g .deviceGetPcieThroughput answers.pcieRx).getD snap.pcieRxKbS
    pcieLinkGen :=
      (p.nvmlAnswer g .deviceGetCurrPcieLinkGeneration answers.linkGen).getD snap.pcieLinkGen
    pcieLinkWidth :=
      (p.nvmlAnswer g .deviceGetCurrPcieLinkWidth answers.linkWidth).getD snap.pcieLinkWidth
    throttleReasons := (p.nvmlAnswer g .deviceGetCurrentClocksThrottleReasons
      answers.throttle).getD snap.throttleReasons }

/-- The helpers on a GPU, for one poll. -/
def reads (disc : NvThermalDiscovery) (answers : PollAnswers) : DriverReads where
  pollThermalsUndoc := p.readThermalsUndoc disc answers.thermal
  pollCommonMedium := p.readCommonMedium g answers.medium
  pollFans := p.readFans answers.fans
  pollPower := p.readPower g answers.power
  pollSlowData := p.readSlowData g answers.slow

end GpuProbe

/-! ## Frames -/

/-- The two temperatures of a snapshot that can be a sentinel. -/
def GpuSnapshot.thermals (snap : GpuSnapshot) : Double × Double := (snap.coreC, snap.memjnC)

section Frames

variable (p : GpuProbe) (g : GpuBackendContext) (snap : GpuSnapshot)

@[simp] theorem thermals_readCommonMedium (answers : MediumAnswers) :
    (p.readCommonMedium g answers snap).thermals = snap.thermals := rfl

@[simp] theorem thermals_readPower (answers : PowerAnswers) :
    (p.readPower g answers snap).thermals = snap.thermals := rfl

@[simp] theorem thermals_readFans (answer : Option (List FanEntry)) :
    (p.readFans answer snap).thermals = snap.thermals := rfl

@[simp] theorem thermals_readSlowData (answers : SlowAnswers) :
    (p.readSlowData g answers snap).thermals = snap.thermals := by
  unfold GpuProbe.readSlowData
  cases p.nvmlAnswer g .deviceGetMemoryInfo answers.memory <;> rfl

theorem thermals_readThermalsUndoc (disc : NvThermalDiscovery) (driver : ThermalDriver) :
    (p.readThermalsUndoc disc driver snap).thermals =
      (p.thermalAnswer disc driver).elim snap.thermals fun temps =>
        (disc.coreIndex.elim snap.coreC fun idx => degrees (temps idx),
          disc.memjIndex.elim snap.memjnC fun idx => degrees (temps idx)) := by
  unfold GpuProbe.readThermalsUndoc
  cases p.thermalAnswer disc driver <;> rfl

end Frames

end CapacityAgent

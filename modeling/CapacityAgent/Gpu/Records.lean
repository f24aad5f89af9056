/-
# Driver structures and stored records

What the driver answers as the structures it fills: arrays of a fixed size with a counter beside
them, which it sets as it likes. The polling helpers copy them into a record that is stored the
same way. Whatever the driver puts there, no array is accessed outside, and the elements in use
are what the polls put into a snapshot.
-/

import CapacityAgent.Gpu.Discovery
import CapacityAgent.Gpu.SampleResults
import CapacityAgent.Library.Counted

namespace CapacityAgent

open Counted Transitions

/-! ## Driver structures -/

/-- An element of `GpuThermalSettings`. -/
structure ThermalSensor where
  currentTemp : Int32
  target : Int32

structure GpuThermalSettings where
  count : UInt32
  sensor : Fin 3 → ThermalSensor

structure NvClockDomainEntry where
  present : UInt32
  freqKhz : UInt32

structure NvAllClockFrequencies where
  domain : Fin 32 → NvClockDomainEntry

structure NvDynamicPStatesUtilEntry where
  present : UInt32
  percentage : Int32

structure NvDynamicPStatesInfoEx where
  utilization : Fin 8 → NvDynamicPStatesUtilEntry

structure PowerTopologyStatus where
  count : UInt32
  entries : Fin 4 → PowerRailEntry

structure NvFanCoolersStatusItem where
  currentRpm : UInt32
  currentLevel : UInt32

structure NvFanCoolersStatus where
  count : UInt32
  items : Fin 32 → NvFanCoolersStatusItem

structure NvVoltageDomainEntry where
  domainId : UInt32
  currentMv : UInt32

structure NvVoltageDomainsStatus where
  count : UInt32
  domains : Fin 16 → NvVoltageDomainEntry

/-- Answers that are single values. -/
structure ScalarAnswers where
  temperature : Option UInt32
  nvmlGraphics : Option UInt32
  nvmlMemory : Option UInt32
  nvmlVideo : Option UInt32
  pstate : Option ℤ
  utilization : Option NvmlUtilization
  powerUsage : Option UInt32
  memory : Option NvmlMemoryInfo
  encoder : Option UInt32
  decoder : Option UInt32
  pcieTx : Option UInt32
  pcieRx : Option UInt32
  linkGen : Option UInt32
  linkWidth : Option UInt32
  throttle : Option UInt64

/-- What the driver answers to the queries of one poll. -/
structure DriverAnswers where
  thermal : ThermalDriver
  thermalSettings : Option GpuThermalSettings
  clocks : Option NvAllClockFrequencies
  boost : Option NvAllClockFrequencies
  pstates : Option NvDynamicPStatesInfoEx
  topology : Option PowerTopologyStatus
  fans : Option NvFanCoolersStatus
  voltage : Option NvVoltageDomainsStatus
  scalars : ScalarAnswers

/-! ## The hotspot sensor -/

/-- `ThermalTargetHotspot`. -/
def thermalTargetHotspot : Int32 := 16

/-- The condition on a sensor of the settings. -/
def ThermalSensor.isHotspot (sensor : ThermalSensor) : Bool :=
  sensor.target == thermalTargetHotspot && decide (0 < sensor.currentTemp)

/-- The index of the first counted sensor that shows a hotspot. -/
def GpuThermalSettings.hotspot (ts : GpuThermalSettings) : Option ℕ :=
  (prefixOf ts.count.toNat ts.sensor).findIdx? ThermalSensor.isHotspot

/-- What a GPU's driver answers to its discovery. -/
structure GpuDriver where
  thermal : ThermalDriver
  thermalSettings : Option GpuThermalSettings

def GpuDriver.hotspot (driver : GpuDriver) : Option ℕ :=
  driver.thermalSettings.bind GpuThermalSettings.hotspot

/-- `hotspot_sensor_idx`, which is -1 where there is none. -/
def GpuDriver.hotspotSensorIdx (driver : GpuDriver) : ℤ :=
  (driver.hotspot.map fun si => (si : ℤ)).getD (-1)

/-- The temperature of the hotspot sensor, if the settings count it; absent where the index is
outside the array. -/
def hotspotTemperature (ts : GpuThermalSettings) (idx : ℤ) : Option (Option ℤ) :=
  if 0 ≤ idx ∧ idx < ts.count.toInt32.toInt then
    (read ts.sensor idx.toNat).map fun sensor => some sensor.currentTemp.toInt
  else some none

/-! ## Answers by value -/

/-- The frequency of a domain that is present. -/
def NvClockDomainEntry.freq (entry : NvClockDomainEntry) : Option UInt32 :=
  if entry.present ≠ 0 then some entry.freqKhz else none

/-- The domains `NV_CLOCK_DOMAIN_GRAPHICS`, `_MEMORY` and `_VIDEO`. -/
def NvAllClockFrequencies.domains (clocks : NvAllClockFrequencies) : ClockDomains where
  graphics := (clocks.domain 0).freq
  memory := (clocks.domain 4).freq
  video := (clocks.domain 8).freq

def NvDynamicPStatesUtilEntry.percent (entry : NvDynamicPStatesUtilEntry) : Option ℤ :=
  if entry.present ≠ 0 then some entry.percentage.toInt else none

def NvDynamicPStatesInfoEx.domains (psi : NvDynamicPStatesInfoEx) : UtilDomains where
  gpu := (psi.utilization 0).percent
  fb := (psi.utilization 1).percent
  vid := (psi.utilization 2).percent

/-- The entry of a snapshot for a cooler. -/
def NvFanCoolersStatusItem.fan (item : NvFanCoolersStatusItem) : FanEntry where
  levelPct := item.currentLevel
  rpm := item.currentRpm

namespace DriverAnswers

variable (answers : DriverAnswers)

/-- The answers of `poll_common_medium`, with those about the hotspot. -/
def medium (thermalSettings : Option (Option ℤ)) : MediumAnswers where
  temperature := answers.scalars.temperature
  thermalSettings := thermalSettings
  clocks := answers.clocks.map (·.domains)
  boost := answers.boost.map (·.domains)
  nvmlGraphics := answers.scalars.nvmlGraphics
  nvmlMemory := answers.scalars.nvmlMemory
  nvmlVideo := answers.scalars.nvmlVideo
  pstate := answers.scalars.pstate
  pstates := answers.pstates.map (·.domains)
  utilization := answers.scalars.utilization

/-- The answers of `poll_slow_data`, with the counted voltages. -/
def slow (voltage : Option (List UInt32)) : SlowAnswers where
  voltage := voltage
  memory := answers.scalars.memory
  encoder := answers.scalars.encoder
  decoder := answers.scalars.decoder
  pcieTx := answers.scalars.pcieTx
  pcieRx := answers.scalars.pcieRx
  linkGen := answers.scalars.linkGen
  linkWidth := answers.scalars.linkWidth
  throttle := answers.scalars.throttle

/-- The answers as their values: of an array, those of the elements in use. -/
def poll (hotspotSensorIdx : ℤ) : PollAnswers where
  thermal := answers.thermal
  medium := answers.medium
    (answers.thermalSettings.map fun ts => (hotspotTemperature ts hotspotSensorIdx).join)
  power := {
    powerUsage := answers.scalars.powerUsage
    topology := answers.topology.map fun topo => prefixOf topo.count.toNat topo.entries }
  fans := answers.fans.map fun status =>
    (prefixOf status.count.toNat status.items).map NvFanCoolersStatusItem.fan
  slow := answers.slow (answers.voltage.map fun vds =>
    (prefixOf vds.count.toNat vds.domains).map (·.currentMv))

end DriverAnswers

/-! ## Stored records -/

/-- `GpuSnapshot` as it is stored, and `gpu_telemetry_snapshot_t`: the arrays with their counts,
and the other fields. -/
structure GpuRecord where
  rest : GpuSnapshot := {}
  fanCount : ℤ := 0
  fans : Fin 4 → FanEntry := fun _ => {}
  powerRailCount : ℤ := 0
  powerRails : Fin 4 → PowerRailEntry := fun _ => {}

/-- What the record says: its arrays as far as they are in use. -/
def GpuRecord.snapshot (r : GpuRecord) : GpuSnapshot :=
  { r.rest with
    fans := prefixOf r.fanCount.toNat r.fans
    powerRails := prefixOf r.powerRailCount.toNat r.powerRails }

/-- The counts are those of elements there are. -/
structure GpuRecord.Sound (r : GpuRecord) : Prop where
  fans : 0 ≤ r.fanCount ∧ r.fanCount ≤ 4
  powerRails : 0 ≤ r.powerRailCount ∧ r.powerRailCount ≤ 4

/-- `copy_snapshot`, into a target whose memory is zero. -/
def GpuRecord.copySnapshot (source : GpuRecord) : Option GpuRecord :=
  (copy id source.fans (fun _ : Fin 4 => ({} : FanEntry)) (min source.fanCount 4).toNat).bind
    fun fans =>
      (copy id source.powerRails (fun _ : Fin 4 => ({} : PowerRailEntry))
        (min source.powerRailCount 4).toNat).map fun powerRails =>
          { source with fans := fans, powerRails := powerRails }

namespace GpuProbe

variable (p : GpuProbe) (g : GpuBackendContext)

/-- `poll_thermals_undoc`. -/
def fillThermalsUndoc (disc : StoredDiscovery) (answers : DriverAnswers) (r : GpuRecord) :
    Option GpuRecord :=
  (p.thermals.pollThermalsUndoc disc answers.thermal r.rest).map fun rest => { r with rest := rest }

/-- `poll_common_medium`; the hotspot is read by an index that discovery found. -/
def fillCommonMedium (hotspotSensorIdx : ℤ) (answers : DriverAnswers) (r : GpuRecord) :
    Option GpuRecord :=
  let settings := answered g.hasHotspot (p.nvApiAnswer .getThermalSettings answers.thermalSettings)
  (settings.elim (some none) fun ts => hotspotTemperature ts hotspotSensorIdx).map fun hotspot =>
    let rest := { r.rest with hotspotC := hotspot.getD r.rest.hotspotC }
    { r with rest := p.readCommonMedium g (answers.medium none) rest }

/-- `poll_power`. -/
def fillPower (answers : DriverAnswers) (r : GpuRecord) : Option GpuRecord :=
  let power := p.nvmlAnswer g .deviceGetPowerUsage answers.scalars.powerUsage
  let r := { r with rest := { r.rest with nvmlPowerMw := power.getD r.rest.nvmlPowerMw } }
  match p.nvApiAnswer .clientPowerTopologyGetStatus answers.topology with
  | none => some r
  | some topo =>
    let count := min topo.count.toNat 4
    (copy id topo.entries r.powerRails count).map fun powerRails =>
      { r with powerRailCount := count, powerRails := powerRails }

/-- `poll_fans`. -/
def fillFans (answers : DriverAnswers) (r : GpuRecord) : Option GpuRecord :=
  match answered p.fans.ready answers.fans with
  | none => some r
  | some status =>
    let count := min status.count.toNat 4
    (copy NvFanCoolersStatusItem.fan status.items r.fans count).map fun fans =>
      { r with fanCount := count, fans := fans }

/-- `poll_slow_data`. -/
def fillSlowData (answers : DriverAnswers) (r : GpuRecord) : GpuRecord :=
  let voltage := p.nvApiAnswer .getVoltageDomainsStatus answers.voltage
  let rest := voltage.elim r.rest fun vds =>
    if 0 < vds.count then { r.rest with voltageCoreMv := (vds.domains 0).currentMv } else r.rest
  { r with rest := p.readSlowData g (answers.slow none) rest }

/-- What an accepted sample of the tier does. -/
def fillTier (disc : StoredDiscovery) (hotspotSensorIdx : ℤ) (answers : DriverAnswers)
    (gpuIndex : ℤ) (r : GpuRecord) : Tier → Option GpuRecord
  | .thermalFast =>
    p.fillThermalsUndoc disc answers { r with rest := { r.rest with gpuIndex := gpuIndex } }
  | .fast => do
    let r ← p.fillThermalsUndoc disc answers { r with rest := { r.rest with gpuIndex := gpuIndex } }
    p.fillCommonMedium g hotspotSensorIdx answers r
  | .medium => do
    let r ← p.fillCommonMedium g hotspotSensorIdx answers r
    p.fillPower g answers r
  | .slow => do
    let r ← p.fillFans answers r
    let r ← p.fillPower g answers r
    return p.fillSlowData g answers r
  | .rare => some (p.fillSlowData g answers r)

end GpuProbe

/-! ## Runs -/

/-- A probe with its limiters, what discovery found on its GPUs, and the records of its
callers. -/
structure RecordTelemetry where
  sampler : Sampler
  disc : ℕ → StoredDiscovery
  hotspotSensorIdx : ℕ → ℤ
  records : ℕ → GpuRecord

/-- A caller clears a record, or has one of its records sampled. -/
inductive RecordEvent
  | fresh (v : ℕ)
  | sample (v : ℕ) (tier : Tier) (gpuIndex : ℤ) (now : TimePoint) (answers : DriverAnswers)

/-- The steps of `init` end as given, with the hotspot answers of each GPU's driver. -/
def ProbeAnswers.withHotspots (answers : ProbeAnswers) (drivers : ℕ → GpuDriver) : ProbeAnswers :=
  { answers with
    gpu := fun i => { answers.gpu i with hotspot := (drivers i).hotspot.isSome } }

namespace RecordTelemetry

/-- After `init` of a new probe. -/
def start (answers : ProbeAnswers) (drivers : ℕ → GpuDriver) : RecordTelemetry :=
  let thermals := fun i => (drivers i).thermal
  let p := (GpuProbe.init ((answers.withHotspots drivers).withDrivers thermals) {}).value.2
  { sampler := Sampler.start p
    disc := fun i => (p.thermals.discoverInto (drivers i).thermal {}).2
    hotspotSensorIdx := fun i =>
      if (p.fn .getThermalSettings).isSome then (drivers i).hotspotSensorIdx else -1
    records := fun _ => {} }

variable (s : RecordTelemetry)

/-- A sample of a tier; absent where it accesses an array outside. -/
def sample (v : ℕ) (tier : Tier) (gpuIndex : ℤ) (now : TimePoint) (answers : DriverAnswers) :
    Option RecordTelemetry :=
  if gpuIndex < 0 then some s
  else
    match s.sampler.probe.gpus[gpuIndex.toNat]?, s.sampler.lastPoll[gpuIndex.toNat]? with
    | some g, some last =>
      match checkPollRate (last.get tier) tier.minInterval now with
      | (false, _) => some s
      | (true, polled) => do
        let record ← s.sampler.probe.fillTier g (s.disc gpuIndex.toNat)
          (s.hotspotSensorIdx gpuIndex.toNat) answers gpuIndex (s.records v) tier
        return { s with
          sampler := { s.sampler with
            lastPoll := s.sampler.lastPoll.set gpuIndex.toNat (last.set tier polled)
            length_eq := by rw [List.length_set, s.sampler.length_eq] }
          records := Function.update s.records v record }
    | _, _ => some s

def step : RecordEvent → Option RecordTelemetry
  | .fresh v => some { s with records := Function.update s.records v {} }
  | .sample v tier gpuIndex now answers => s.sample v tier gpuIndex now answers

end RecordTelemetry

/-! ## Records and snapshots -/

/-- The same, with indices that are checked. -/
def StoredDiscovery.found (disc : StoredDiscovery) : NvThermalDiscovery where
  mask := disc.mask
  count := disc.count.toNat
  coreIndex := if inside : 0 ≤ disc.coreIndex ∧ disc.coreIndex < 32 then
    some ⟨disc.coreIndex.toNat, by omega⟩ else none
  memjIndex := if inside : 0 ≤ disc.memjIndex ∧ disc.memjIndex < 32 then
    some ⟨disc.memjIndex.toNat, by omega⟩ else none
  initial := disc.initial

theorem found_stored (disc : NvThermalDiscovery) : disc.stored.found = disc := by
  rcases disc with ⟨mask, count, _ | core, _ | memj, initial⟩ <;>
    simp [NvThermalDiscovery.stored, StoredDiscovery.found]

/-- The run as one of snapshots. -/
def RecordTelemetry.telemetry (s : RecordTelemetry) : Telemetry where
  sampler := s.sampler
  disc i := (s.disc i).found
  snaps v := (s.records v).snapshot

/-- The event with its answers by value. -/
def RecordEvent.telemetry (hotspotSensorIdx : ℕ → ℤ) : RecordEvent → TelemetryEvent
  | .fresh v => .fresh v
  | .sample v tier gpuIndex now answers =>
    .sample v tier gpuIndex now (answers.poll (hotspotSensorIdx gpuIndex.toNat))

/-- The indices are those of a discovery, and the counts are sound. -/
structure RecordTelemetry.Sound (idx : ℕ → ℤ) (s : RecordTelemetry) : Prop where
  disc : ∀ i, ∃ disc : NvThermalDiscovery, s.disc i = disc.stored
  hotspot : s.hotspotSensorIdx = idx
  records : ∀ v, (s.records v).Sound

/-- The record is filled, with what the poll puts into its snapshot. -/
def Fills (filled : Option GpuRecord) (r : GpuRecord) (snap : GpuSnapshot) : Prop :=
  ∃ r', filled = some r' ∧ r'.snapshot = snap ∧ (r.Sound → r'.Sound)

theorem Fills.bind {filled : Option GpuRecord} {fill : GpuRecord → Option GpuRecord}
    {r : GpuRecord} {snap : GpuSnapshot} {poll : GpuSnapshot → GpuSnapshot}
    (first : Fills filled r snap) (second : ∀ r, Fills (fill r) r (poll r.snapshot)) :
    Fills (filled.bind fill) r (poll snap) := by
  obtain ⟨r', rfl, rfl, sound⟩ := first
  obtain ⟨r'', fills, same, sound'⟩ := second r'
  exact ⟨r'', fills, same, sound' ∘ sound⟩

section Hotspot

variable {idx : ℤ}

theorem hotspot_lt {ts : GpuThermalSettings} {si : ℕ} (found : ts.hotspot = some si) : si < 3 := by
  have inside := (List.findIdx?_eq_some_iff_findIdx_eq.mp found).1
  rw [prefixOf, List.length_take, List.length_ofFn] at inside
  omega

theorem GpuDriver.hotspotSensorIdx_lt (driver : GpuDriver) : driver.hotspotSensorIdx < 3 := by
  unfold GpuDriver.hotspotSensorIdx
  cases found : driver.hotspot with
  | none => decide
  | some si =>
    obtain ⟨ts, -, counted⟩ := Option.bind_eq_some_iff.mp found
    exact Int.ofNat_lt.mpr (hotspot_lt counted)

/-- The access by an index that discovery found is inside. -/
theorem exists_hotspotTemperature (ts : GpuThermalSettings) (small : idx < 3) :
    ∃ hotspot, hotspotTemperature ts idx = some hotspot := by
  unfold hotspotTemperature
  split_ifs with counted
  · rw [read_of_lt (show idx.toNat < 3 by omega)]
    exact ⟨_, rfl⟩
  · exact ⟨none, rfl⟩

end Hotspot

section Polls

variable (p : GpuProbe) (g : GpuBackendContext) (answers : DriverAnswers) (r : GpuRecord)

@[simp] theorem answered_none {α : Type} (made : Bool) :
    answered made (none : Option α) = none := by
  cases made <;> rfl

theorem answered_map {α β : Type} (made : Bool) (answer : Option α) (f : α → β) :
    answered made (answer.map f) = (answered made answer).map f := by
  cases made <;> rfl

theorem fills_thermalsUndoc (disc : NvThermalDiscovery) :
    Fills (p.fillThermalsUndoc disc.stored answers r) r
      (p.readThermalsUndoc disc answers.thermal r.snapshot) := by
  rw [GpuProbe.fillThermalsUndoc, pollThermalsUndoc_stored, Option.map_some]
  refine ⟨_, rfl, ?_, fun sound => ⟨sound.fans, sound.powerRails⟩⟩
  unfold GpuProbe.readThermalsUndoc
  cases p.thermalAnswer disc answers.thermal <;> rfl

/-- What is answered about the hotspot is all that the thermal settings are for. -/
theorem readCommonMedium_medium (thermalSettings : Option (Option ℤ)) (snap : GpuSnapshot) :
    p.readCommonMedium g (answers.medium thermalSettings) snap =
      p.readCommonMedium g (answers.medium none) { snap with
        hotspotC := ((answered g.hasHotspot
          (p.nvApiAnswer .getThermalSettings thermalSettings)).bind id).getD snap.hotspotC } := by
  have silent : answered g.hasHotspot (p.nvApiAnswer .getThermalSettings
      (none : Option (Option ℤ))) = none := by
    rw [GpuProbe.nvApiAnswer, answered_none, answered_none]
  unfold GpuProbe.readCommonMedium
  simp only [DriverAnswers.medium, silent]
  rfl

theorem fills_commonMedium {idx : ℤ} (small : idx < 3) :
    Fills (p.fillCommonMedium g idx answers r) r
      (p.readCommonMedium g (answers.poll idx).medium r.snapshot) := by
  have settings : answered g.hasHotspot (p.nvApiAnswer .getThermalSettings
      (answers.thermalSettings.map fun ts => (hotspotTemperature ts idx).join)) =
        (answered g.hasHotspot (p.nvApiAnswer .getThermalSettings
          answers.thermalSettings)).map fun ts => (hotspotTemperature ts idx).join := by
    rw [GpuProbe.nvApiAnswer, answered_map, answered_map]
    rfl
  rw [DriverAnswers.poll, readCommonMedium_medium, settings, GpuProbe.fillCommonMedium]
  cases answered g.hasHotspot (p.nvApiAnswer .getThermalSettings answers.thermalSettings) with
  | none => exact ⟨_, rfl, rfl, fun sound => ⟨sound.fans, sound.powerRails⟩⟩
  | some ts =>
    obtain ⟨hotspot, inside⟩ := exists_hotspotTemperature ts small
    dsimp only [Option.elim_some, Option.map_some]
    rw [inside]
    refine ⟨_, rfl, ?_, fun sound => ⟨sound.fans, sound.powerRails⟩⟩
    cases hotspot <;> rfl

theorem fills_power (idx : ℤ) :
    Fills (p.fillPower g answers r) r (p.readPower g (answers.poll idx).power r.snapshot) := by
  unfold GpuProbe.fillPower GpuProbe.readPower DriverAnswers.poll
  have values : p.nvApiAnswer .clientPowerTopologyGetStatus
      (answers.topology.map fun topo => prefixOf topo.count.toNat topo.entries) =
        (p.nvApiAnswer .clientPowerTopologyGetStatus answers.topology).map fun topo =>
          prefixOf topo.count.toNat topo.entries := answered_map _ _ _
  dsimp only
  rw [values]
  cases p.nvApiAnswer .clientPowerTopologyGetStatus answers.topology with
  | none => exact ⟨_, rfl, rfl, fun sound => ⟨sound.fans, sound.powerRails⟩⟩
  | some topo =>
    have few : min topo.count.toNat 4 ≤ 4 := min_le_right _ _
    obtain ⟨powerRails, copied, same, -⟩ := exists_copy id topo.entries r.powerRails few few
    have shown : (prefixOf topo.count.toNat topo.entries).take 4 =
        prefixOf (min topo.count.toNat 4) powerRails := by
      rw [take_prefixOf, min_comm 4, same, List.map_id]
    dsimp only
    rw [copied, Option.map_some, Option.map_some, Option.elim_some, shown]
    exact ⟨_, rfl, rfl, fun sound => ⟨sound.fans, Int.natCast_nonneg _, Int.ofNat_le.mpr few⟩⟩

theorem fills_fans (idx : ℤ) :
    Fills (p.fillFans answers r) r (p.readFans (answers.poll idx).fans r.snapshot) := by
  unfold GpuProbe.fillFans GpuProbe.readFans DriverAnswers.poll
  dsimp only
  rw [answered_map]
  cases answered p.fans.ready answers.fans with
  | none => exact ⟨_, rfl, rfl, id⟩
  | some status =>
    have few : min status.count.toNat 4 ≤ 4 := min_le_right _ _
    obtain ⟨fans, copied, same, -⟩ := exists_copy NvFanCoolersStatusItem.fan status.items r.fans
      (few.trans (by decide)) few
    have shown : ((prefixOf status.count.toNat status.items).map
        NvFanCoolersStatusItem.fan).take 4 =
          prefixOf (min status.count.toNat 4) fans := by
      rw [← List.map_take, take_prefixOf, min_comm 4, same]
    dsimp only
    rw [copied, Option.map_some, Option.map_some, Option.elim_some, shown]
    exact ⟨_, rfl, rfl, fun sound =>
      ⟨⟨Int.natCast_nonneg _, Int.ofNat_le.mpr few⟩, sound.powerRails⟩⟩

/-- The voltage is all that the voltage domains are for. -/
theorem readSlowData_slow (voltage : Option (List UInt32)) (snap : GpuSnapshot) :
    p.readSlowData g (answers.slow voltage) snap =
      p.readSlowData g (answers.slow none) { snap with
        voltageCoreMv := ((p.nvApiAnswer .getVoltageDomainsStatus voltage).bind List.head?).getD
          snap.voltageCoreMv } := by
  have silent : p.nvApiAnswer .getVoltageDomainsStatus (none : Option (List UInt32)) = none :=
    answered_none _
  unfold GpuProbe.readSlowData
  simp only [DriverAnswers.slow, silent]
  cases p.nvmlAnswer g .deviceGetMemoryInfo answers.scalars.memory <;> rfl

theorem fills_slowData (idx : ℤ) :
    Fills (some (p.fillSlowData g answers r)) r
      (p.readSlowData g (answers.poll idx).slow r.snapshot) := by
  refine ⟨_, rfl, ?_, fun sound => ⟨sound.fans, sound.powerRails⟩⟩
  have values : p.nvApiAnswer .getVoltageDomainsStatus (answers.voltage.map fun vds =>
      (prefixOf vds.count.toNat vds.domains).map (·.currentMv)) =
        (p.nvApiAnswer .getVoltageDomainsStatus answers.voltage).map fun vds =>
          (prefixOf vds.count.toNat vds.domains).map (·.currentMv) := answered_map _ _ _
  rw [DriverAnswers.poll, readSlowData_slow, values, GpuProbe.fillSlowData]
  have frame (rest : GpuSnapshot) : GpuRecord.snapshot { r with
      rest := p.readSlowData g (answers.slow none) rest } = p.readSlowData g (answers.slow none)
        (GpuRecord.snapshot { r with rest := rest }) := by
    unfold GpuProbe.readSlowData
    cases p.nvmlAnswer g .deviceGetMemoryInfo (answers.slow none).memory <;> rfl
  rw [frame]
  cases p.nvApiAnswer .getVoltageDomainsStatus answers.voltage with
  | none => rfl
  | some vds =>
    rw [Option.map_some, Option.bind_some, List.head?_map, Option.elim_some]
    split_ifs with counted
    · rw [head?_prefixOf (show 0 < vds.count.toNat from counted)]
      rfl
    · have unused : vds.count.toNat = 0 := Nat.eq_zero_of_not_pos counted
      rw [unused]
      rfl

/-- **A tier fills a record** with what it puts into a snapshot. -/
theorem fills_tier (disc : NvThermalDiscovery) {idx : ℤ} (small : idx < 3) (gpuIndex : ℤ)
    (tier : Tier) :
    Fills (p.fillTier g disc.stored idx answers gpuIndex r tier) r
      (tier.poll (p.reads g disc (answers.poll idx)) gpuIndex r.snapshot) := by
  have indexed (r : GpuRecord) {filled : Option GpuRecord} {snap : GpuSnapshot}
      (fills : Fills filled { r with rest := { r.rest with gpuIndex := gpuIndex } } snap) :
      Fills filled r snap := by
    obtain ⟨r', filled, same, sound⟩ := fills
    exact ⟨r', filled, same, fun known => sound ⟨known.fans, known.powerRails⟩⟩
  cases tier with
  | thermalFast => exact indexed r (fills_thermalsUndoc p answers _ disc)
  | fast =>
    exact indexed r ((fills_thermalsUndoc p answers _ disc).bind fun r =>
      fills_commonMedium p g answers r small)
  | medium =>
    exact (fills_commonMedium p g answers r small).bind fun r => fills_power p g answers r idx
  | slow =>
    have fills := ((fills_fans p answers r idx).bind fun r =>
      fills_power p g answers r idx).bind fun r => fills_slowData p g answers r idx
    rwa [Option.bind_assoc] at fills
  | rare => exact fills_slowData p g answers r idx

end Polls

/-! ## Copies -/

/-- The elements of an array that are in use are not more than there are. -/
theorem prefixOf_min {α : Type} (count : ℤ) (a : Fin 4 → α) :
    prefixOf (min count 4).toNat a = prefixOf count.toNat a := by
  rcases le_total count 4 with few | many
  · rw [min_eq_left few]
  · rw [min_eq_right many, prefixOf_of_le (show 4 ≤ (4 : ℤ).toNat from le_rfl),
      prefixOf_of_le (by omega)]

/-- A copy says what the record says, and is zero where its arrays are not in use. -/
structure GpuRecord.CopiedTo (source target : GpuRecord) : Prop where
  snapshot : target.snapshot = source.snapshot
  fans : ∀ i : Fin 4, source.fanCount ≤ i.val → target.fans i = {}
  powerRails : ∀ i : Fin 4, source.powerRailCount ≤ i.val → target.powerRails i = {}

theorem exists_copySnapshot (source : GpuRecord) :
    ∃ target, source.copySnapshot = some target ∧ source.CopiedTo target := by
  have few (count : ℤ) : (min count 4).toNat ≤ 4 := by omega
  obtain ⟨fans, copied, sameFans, zeroFans⟩ :=
    exists_copy id source.fans (fun _ : Fin 4 => ({} : FanEntry)) (few source.fanCount)
      (few source.fanCount)
  obtain ⟨powerRails, copied', sameRails, zeroRails⟩ :=
    exists_copy id source.powerRails (fun _ : Fin 4 => ({} : PowerRailEntry))
      (few source.powerRailCount) (few source.powerRailCount)
  rw [List.map_id, prefixOf_min, prefixOf_min] at sameFans sameRails
  refine ⟨_, by rw [GpuRecord.copySnapshot, copied, Option.bind_some, copied', Option.map_some],
    ?_, fun i unused => zeroFans i (by omega), fun i unused => zeroRails i (by omega)⟩
  simp only [GpuRecord.snapshot, sameFans, sameRails]

/-! ## Runs -/

namespace RecordTelemetry

variable {idx : ℕ → ℤ} {s : RecordTelemetry}

/-- The snapshots after a record has been written. -/
theorem snaps_update (records : ℕ → GpuRecord) (v : ℕ) (r : GpuRecord) :
    (fun w => (Function.update records v r w).snapshot) =
      Function.update (fun w => (records w).snapshot) v r.snapshot := by
  funext w
  by_cases same : w = v
  · subst same
    rw [Function.update_self, Function.update_self]
  · rw [Function.update_of_ne same, Function.update_of_ne same]

theorem Sound.update (sound : s.Sound idx) {v : ℕ} {r : GpuRecord} (own : r.Sound)
    (sampler : Sampler) :
    Sound idx { s with sampler := sampler, records := Function.update s.records v r } where
  disc := sound.disc
  hotspot := sound.hotspot
  records w := by
    dsimp only
    by_cases same : w = v
    · subst same
      rw [Function.update_self]
      exact own
    · rw [Function.update_of_ne same]
      exact sound.records w

theorem sound_fresh : ({} : GpuRecord).Sound := ⟨⟨le_rfl, by decide⟩, le_rfl, by decide⟩

/-- A sample that the limiter refuses reads nothing. -/
theorem sample_of_refused {v : ℕ} {tier : Tier} {gpuIndex : ℤ} {now : TimePoint}
    (refused : ¬ s.sampler.Accepts tier gpuIndex now) (answers : DriverAnswers) :
    s.sample v tier gpuIndex now answers = some s := by
  unfold sample
  by_cases negative : gpuIndex < 0
  · exact if_pos negative
  · rw [if_neg negative]
    cases contexts : s.sampler.probe.gpus[gpuIndex.toNat]? with
    | none => rfl
    | some g =>
      cases found : s.sampler.lastPoll[gpuIndex.toNat]? with
      | none => rfl
      | some last =>
        have soon : now - last.get tier < tier.minInterval := by
          by_contra passed
          have listed := (List.getElem?_eq_some_iff.mp contexts).1
          refine refused ⟨⟨not_lt.mp negative, by omega⟩, ?_⟩
          rw [Sampler.timestamps, if_neg negative, found]
          exact not_lt.mp passed
        simp only [checkPollRate, if_pos soon]

/-- **The step.** An event accesses no array outside, and is the event of snapshots. -/
theorem Sound.step (small : ∀ i, idx i < 3) (s : RecordTelemetry) (e : RecordEvent)
    (sound : s.Sound idx) :
    ∃ t, s.step e = some t ∧ t.Sound idx ∧
      s.telemetry.step (e.telemetry idx) = some t.telemetry := by
  cases e with
  | fresh v =>
    refine ⟨_, rfl, sound.update sound_fresh s.sampler, ?_⟩
    refine congrArg some ?_
    simp only [telemetry, snaps_update]
    rfl
  | sample v tier gpuIndex now answers =>
    obtain rfl := sound.hotspot
    have call : s.telemetry.call v tier gpuIndex now
        (answers.poll (s.hotspotSensorIdx gpuIndex.toNat)) =
        s.sampler.callOf s.telemetry.disc tier gpuIndex
          ⟨now, answers.poll (s.hotspotSensorIdx gpuIndex.toNat)⟩ (s.records v).snapshot := rfl
    have taken : s.telemetry.step (RecordEvent.telemetry s.hotspotSensorIdx
        (.sample v tier gpuIndex now answers)) =
        let result := (s.sampler.querySample s.telemetry.disc tier gpuIndex
          ⟨now, answers.poll (s.hotspotSensorIdx gpuIndex.toNat)⟩ (s.records v).snapshot).value
        some { s.telemetry with
          sampler := result.sampler
          snaps := Function.update s.telemetry.snaps v result.snap } := by
      rw [Sampler.querySample_value, ← call]
      rfl
    rw [taken, RecordTelemetry.step]
    by_cases accepted : s.sampler.Accepts tier gpuIndex now
    · obtain ⟨disc, stored⟩ := sound.disc gpuIndex.toNat
      obtain ⟨nonneg, g, last, contexts, found, polled⟩ := Sampler.exists_of_accepts accepted
      obtain ⟨r, fills, same, own⟩ := fills_tier s.sampler.probe g answers (s.records v) disc
        (small gpuIndex.toNat) gpuIndex tier
      have shown : (s.disc gpuIndex.toNat).found = disc := by rw [stored, found_stored]
      rw [sample, if_neg nonneg, contexts, found]
      dsimp only
      rw [polled, stored, fills]
      refine ⟨_, rfl, sound.update (own (sound.records v)) _, ?_⟩
      unfold Sampler.querySample
      simp only [if_neg nonneg, contexts, found, polled, Traced.value_bind, Traced.value_pure,
        GpuProbe.queryTier_value, shown, ← same, telemetry, snaps_update]
    · refine ⟨s, sample_of_refused accepted answers, sound, ?_⟩
      rw [Sampler.querySample_of_refused accepted]
      dsimp only [Traced.value_pure]
      rw [show (s.records v).snapshot = s.telemetry.snaps v from rfl, Function.update_eq_self]
      rfl

theorem sound_start (answers : ProbeAnswers) (drivers : ℕ → GpuDriver) :
    (start answers drivers).Sound (start answers drivers).hotspotSensorIdx where
  disc _ := ⟨_, congrArg Prod.snd (NvApiThermals.discoverInto_fresh _ _)⟩
  hotspot := rfl
  records _ := sound_fresh

theorem telemetry_start (answers : ProbeAnswers) (drivers : ℕ → GpuDriver) :
    (start answers drivers).telemetry =
      Telemetry.start (answers.withHotspots drivers) fun i => (drivers i).thermal := by
  unfold telemetry start Telemetry.start
  simp only [NvApiThermals.discoverInto_fresh, found_stored]
  rfl

theorem hotspotSensorIdx_start_lt (answers : ProbeAnswers) (drivers : ℕ → GpuDriver) (i : ℕ) :
    (start answers drivers).hotspotSensorIdx i < 3 := by
  dsimp only [start]
  split_ifs
  · exact (drivers i).hotspotSensorIdx_lt
  · decide

end RecordTelemetry

/-- **What the driver puts into its structures is harmless.** Whatever their counters and
contents, no run accesses an array outside, neither in the polls nor in the copies for C, and
the records say what the run of snapshots leaves. -/
theorem records_refine (answers : ProbeAnswers) (drivers : ℕ → GpuDriver)
    (events : List RecordEvent) :
    let initial := RecordTelemetry.start answers drivers
    ∃ s, exec RecordTelemetry.step initial events = some s ∧
      exec Telemetry.step
          (Telemetry.start (answers.withHotspots drivers) fun i => (drivers i).thermal)
          (events.map (RecordEvent.telemetry initial.hotspotSensorIdx)) = some s.telemetry ∧
      ∀ v, (s.records v).Sound ∧
        ∃ target, (s.records v).copySnapshot = some target ∧ (s.records v).CopiedTo target := by
  intro initial
  obtain ⟨s, ran, sound, seen⟩ := exec_of_simulates
    (RecordTelemetry.Sound.step (RecordTelemetry.hotspotSensorIdx_start_lt answers drivers))
    (RecordTelemetry.sound_start answers drivers) events
  rw [RecordTelemetry.telemetry_start] at seen
  exact ⟨s, ran, seen, fun v => ⟨sound.records v, exists_copySnapshot _⟩⟩

end CapacityAgent

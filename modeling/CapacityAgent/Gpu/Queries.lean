/-
# What a sample asks the driver

The polling helpers with the queries they make. A query is made where its function was
found and the GPU has what it asks for; it may fail, and the helper goes on. What they
write is what the polls write, and what they call is what a probe calls in its life.
-/

import CapacityAgent.Gpu.Polls
import CapacityAgent.Gpu.RateLimit

namespace CapacityAgent

open Traced

/-! ## Queries -/

/-- A query of the driver and whether it succeeded. -/
structure DriverQuery where
  fn : NvApiFn ⊕ NvmlFn
  succeeded : Bool
  deriving DecidableEq

/-- A program of queries. -/
abbrev Querying := Traced DriverQuery

/-- A query that is made on a condition; one that is not made has no answer. -/
def ask {α : Type} (fn : NvApiFn ⊕ NvmlFn) (made : Bool) (answer : Option α) :
    Querying (Option α) := do
  guarded made (emit ⟨fn, answer.isSome⟩)
  return answered made answer

namespace GpuProbe

variable (p : GpuProbe) (g : GpuBackendContext)

/-- A query of NVML. -/
def askNvml {α : Type} (fn : NvmlFn) (answer : Option α) : Querying (Option α) :=
  ask (.inr fn) (g.hasNvml && (p.nvml.fn fn).isSome) answer

/-- A query through a pointer of the probe. -/
def askNvApi {α : Type} (fn : NvApiFn) (answer : Option α) : Querying (Option α) :=
  ask (.inl fn) (p.fn fn).isSome answer

/-! ## Helpers -/

/-- `poll_thermals_undoc`. -/
def queryThermalsUndoc (disc : NvThermalDiscovery) (driver : ThermalDriver) (snap : GpuSnapshot) :
    Querying GpuSnapshot := do
  let temps ← ask (.inl .getThermalSensorsUndoc)
    (p.thermals.ready && p.thermals.fnGetThermalU.isSome && disc.mask != 0) (driver disc.mask)
  return temps.elim snap (snap.takeTemps disc)

/-- `poll_common_medium`. -/
def queryCommonMedium (answers : MediumAnswers) (snap : GpuSnapshot) : Querying GpuSnapshot := do
  let temperature ← p.askNvml g .deviceGetTemperature answers.temperature
  let snap := { snap with nvmlTempC := temperature.getD snap.nvmlTempC }
  let hotspot ← ask (.inl .getThermalSettings) (g.hasHotspot && (p.fn .getThermalSettings).isSome)
    answers.thermalSettings
  let snap := { snap with hotspotC := (hotspot.bind id).getD snap.hotspotC }
  let clocks ← p.askNvApi .getAllClockFrequencies answers.clocks
  let snap := { snap with
    clockGraphicsMhz := (clocks.bind (·.graphics)).elim snap.clockGraphicsMhz (· / 1000)
    clockMemoryMhz := (clocks.bind (·.memory)).elim snap.clockMemoryMhz (· / 1000)
    clockVideoMhz := (clocks.bind (·.video)).elim snap.clockVideoMhz (· / 1000) }
  let boost ← p.askNvApi .getAllClockFrequencies answers.boost
  let snap := { snap with
    clockBoostMhz := (boost.bind (·.graphics)).elim snap.clockBoostMhz (· / 1000) }
  let graphics ← p.askNvml g .deviceGetClockInfo answers.nvmlGraphics
  let snap := { snap with nvmlClockGraphicsMhz := graphics.getD snap.nvmlClockGraphicsMhz }
  let memory ← p.askNvml g .deviceGetClockInfo answers.nvmlMemory
  let snap := { snap with nvmlClockMemoryMhz := memory.getD snap.nvmlClockMemoryMhz }
  let video ← p.askNvml g .deviceGetClockInfo answers.nvmlVideo
  let snap := { snap with nvmlClockVideoMhz := video.getD snap.nvmlClockVideoMhz }
  let pstate ← p.askNvApi .getCurrentPstate answers.pstate
  let snap := { snap with pstate := pstate.getD snap.pstate }
  let pstates ← p.askNvApi .getDynamicPStatesInfoEx answers.pstates
  let snap := { snap with
    utilGpuPct := (pstates.bind (·.gpu)).getD snap.utilGpuPct
    utilFbPct := (pstates.bind (·.fb)).getD snap.utilFbPct
    utilVidPct := (pstates.bind (·.vid)).getD snap.utilVidPct }
  let utilization ← p.askNvml g .deviceGetUtilizationRates answers.utilization
  return { snap with
    nvmlUtilGpuPct := utilization.elim snap.nvmlUtilGpuPct (·.gpu)
    nvmlUtilMemPct := utilization.elim snap.nvmlUtilMemPct (·.memory) }

/-- `poll_power`. -/
def queryPower (answers : PowerAnswers) (snap : GpuSnapshot) : Querying GpuSnapshot := do
  let powerUsage ← p.askNvml g .deviceGetPowerUsage answers.powerUsage
  let snap := { snap with nvmlPowerMw := powerUsage.getD snap.nvmlPowerMw }
  let topology ← p.askNvApi .clientPowerTopologyGetStatus answers.topology
  return { snap with powerRails := topology.elim snap.powerRails (·.take 4) }

/-- `poll_fans`. -/
def queryFans (answer : Option (List FanEntry)) (snap : GpuSnapshot) : Querying GpuSnapshot := do
  let status ← ask (.inl .clientFanCoolersGetStatus) p.fans.ready answer
  return { snap with fans := status.elim snap.fans (·.take 4) }

/-- `poll_slow_data`. -/
def querySlowData (answers : SlowAnswers) (snap : GpuSnapshot) : Querying GpuSnapshot := do
  let voltage ← p.askNvApi .getVoltageDomainsStatus answers.voltage
  let snap := { snap with voltageCoreMv := (voltage.bind List.head?).getD snap.voltageCoreMv }
  let memory ← p.askNvml g .deviceGetMemoryInfo answers.memory
  let snap := memory.elim snap snap.pollMemory
  let encoder ← p.askNvml g .deviceGetEncoderUtilization answers.encoder
  let snap := { snap with nvmlEncoderPct := encoder.getD snap.nvmlEncoderPct }
  let decoder ← p.askNvml g .deviceGetDecoderUtilization answers.decoder
  let snap := { snap with nvmlDecoderPct := decoder.getD snap.nvmlDecoderPct }
  let pcieTx ← p.askNvml g .deviceGetPcieThroughput answers.pcieTx
  let snap := { snap with pcieTxKbS := pcieTx.getD snap.pcieTxKbS }
  let pcieRx ← p.askNvml g .deviceGetPcieThroughput answers.pcieRx
  let snap := { snap with pcieRxKbS := pcieRx.getD snap.pcieRxKbS }
  let linkGen ← p.askNvml g .deviceGetCurrPcieLinkGeneration answers.linkGen
  let snap := { snap with pcieLinkGen := linkGen.getD snap.pcieLinkGen }
  let linkWidth ← p.askNvml g .deviceGetCurrPcieLinkWidth answers.linkWidth
  let snap := { snap with pcieLinkWidth := linkWidth.getD snap.pcieLinkWidth }
  let throttle ← p.askNvml g .deviceGetCurrentClocksThrottleReasons answers.throttle
  return { snap with throttleReasons := throttle.getD snap.throttleReasons }

/-- What an accepted sample of the tier does. -/
def queryTier (disc : NvThermalDiscovery) (answers : PollAnswers) (gpuIndex : ℤ)
    (snap : GpuSnapshot) : Tier → Querying GpuSnapshot
  | .thermalFast => p.queryThermalsUndoc disc answers.thermal { snap with gpuIndex := gpuIndex }
  | .fast => do
    let snap ← p.queryThermalsUndoc disc answers.thermal { snap with gpuIndex := gpuIndex }
    p.queryCommonMedium g answers.medium snap
  | .medium => do
    let snap ← p.queryCommonMedium g answers.medium snap
    p.queryPower g answers.power snap
  | .slow => do
    let snap ← p.queryFans answers.fans snap
    let snap ← p.queryPower g answers.power snap
    p.querySlowData g answers.slow snap
  | .rare => p.querySlowData g answers.slow snap

/-! ## What the helpers write -/

section Values

variable (disc : NvThermalDiscovery) (snap : GpuSnapshot)

theorem queryThermalsUndoc_value (driver : ThermalDriver) :
    (p.queryThermalsUndoc disc driver snap).value = p.readThermalsUndoc disc driver snap := by
  unfold queryThermalsUndoc readThermalsUndoc thermalAnswer NvApiThermals.readTemps
  simp only [ask, value_bind, value_pure]
  congr 1
  unfold answered
  cases p.thermals.ready <;> cases p.thermals.fnGetThermalU.isSome <;>
    cases disc.mask != 0 <;> rfl

theorem answered_answered {α : Type} (first second : Bool) (answer : Option α) :
    answered first (answered second answer) = answered (first && second) answer := by
  cases first <;> rfl

theorem queryCommonMedium_value (answers : MediumAnswers) :
    (p.queryCommonMedium g answers snap).value = p.readCommonMedium g answers snap := by
  unfold readCommonMedium nvApiAnswer
  rw [answered_answered]
  rfl

theorem queryPower_value (answers : PowerAnswers) :
    (p.queryPower g answers snap).value = p.readPower g answers snap := rfl

theorem queryFans_value (answer : Option (List FanEntry)) :
    (p.queryFans answer snap).value = p.readFans answer snap := rfl

theorem querySlowData_value (answers : SlowAnswers) :
    (p.querySlowData g answers snap).value = p.readSlowData g answers snap := by
  unfold querySlowData readSlowData
  simp only [value_bind, value_pure]
  unfold askNvml ask nvmlAnswer
  simp only [value_bind, value_pure]
  cases answered (g.hasNvml && (p.nvml.fn .deviceGetMemoryInfo).isSome) answers.memory <;> rfl

/-- The queries of a tier leave in the snapshot what the polls do. -/
theorem queryTier_value (answers : PollAnswers) (gpuIndex : ℤ) (tier : Tier) :
    (p.queryTier g disc answers gpuIndex snap tier).value =
      tier.poll (p.reads g disc answers) gpuIndex snap := by
  cases tier with
  | thermalFast => exact queryThermalsUndoc_value ..
  | fast =>
    simp only [queryTier, value_bind, queryThermalsUndoc_value, queryCommonMedium_value]
    rfl
  | medium =>
    simp only [queryTier, value_bind, queryCommonMedium_value, queryPower_value]
    rfl
  | slow =>
    simp only [queryTier, value_bind, queryFans_value, queryPower_value, querySlowData_value]
    rfl
  | rare => exact querySlowData_value ..

end Values

/-! ## The queries of a tier -/

/-- A query that a helper has, with whether it is made. -/
structure TierQuery where
  made : Bool
  query : DriverQuery

/-- The queries that are made, in order. -/
def madeOf (queries : List TierQuery) : List DriverQuery :=
  (queries.filter (·.made)).map (·.query)

def nvmlQuery (fn : NvmlFn) (succeeds : Bool) : TierQuery :=
  ⟨g.hasNvml && (p.nvml.fn fn).isSome, ⟨.inr fn, succeeds⟩⟩

def nvApiQuery (fn : NvApiFn) (succeeds : Bool) : TierQuery :=
  ⟨(p.fn fn).isSome, ⟨.inl fn, succeeds⟩⟩

def thermalsUndocQueries (disc : NvThermalDiscovery) (driver : ThermalDriver) : List TierQuery :=
  [⟨p.thermals.ready && p.thermals.fnGetThermalU.isSome && disc.mask != 0,
    ⟨.inl .getThermalSensorsUndoc, (driver disc.mask).isSome⟩⟩]

def commonMediumQueries (answers : MediumAnswers) : List TierQuery :=
  [p.nvmlQuery g .deviceGetTemperature answers.temperature.isSome,
    ⟨g.hasHotspot && (p.fn .getThermalSettings).isSome,
      ⟨.inl .getThermalSettings, answers.thermalSettings.isSome⟩⟩,
    p.nvApiQuery .getAllClockFrequencies answers.clocks.isSome,
    p.nvApiQuery .getAllClockFrequencies answers.boost.isSome,
    p.nvmlQuery g .deviceGetClockInfo answers.nvmlGraphics.isSome,
    p.nvmlQuery g .deviceGetClockInfo answers.nvmlMemory.isSome,
    p.nvmlQuery g .deviceGetClockInfo answers.nvmlVideo.isSome,
    p.nvApiQuery .getCurrentPstate answers.pstate.isSome,
    p.nvApiQuery .getDynamicPStatesInfoEx answers.pstates.isSome,
    p.nvmlQuery g .deviceGetUtilizationRates answers.utilization.isSome]

def powerQueries (answers : PowerAnswers) : List TierQuery :=
  [p.nvmlQuery g .deviceGetPowerUsage answers.powerUsage.isSome,
    p.nvApiQuery .clientPowerTopologyGetStatus answers.topology.isSome]

def fanQueries (answer : Option (List FanEntry)) : List TierQuery :=
  [⟨p.fans.ready, ⟨.inl .clientFanCoolersGetStatus, answer.isSome⟩⟩]

def slowDataQueries (answers : SlowAnswers) : List TierQuery :=
  [p.nvApiQuery .getVoltageDomainsStatus answers.voltage.isSome,
    p.nvmlQuery g .deviceGetMemoryInfo answers.memory.isSome,
    p.nvmlQuery g .deviceGetEncoderUtilization answers.encoder.isSome,
    p.nvmlQuery g .deviceGetDecoderUtilization answers.decoder.isSome,
    p.nvmlQuery g .deviceGetPcieThroughput answers.pcieTx.isSome,
    p.nvmlQuery g .deviceGetPcieThroughput answers.pcieRx.isSome,
    p.nvmlQuery g .deviceGetCurrPcieLinkGeneration answers.linkGen.isSome,
    p.nvmlQuery g .deviceGetCurrPcieLinkWidth answers.linkWidth.isSome,
    p.nvmlQuery g .deviceGetCurrentClocksThrottleReasons answers.throttle.isSome]

/-- The queries of a tier, of which some are made. -/
def tierQueries (disc : NvThermalDiscovery) (answers : PollAnswers) : Tier → List TierQuery
  | .thermalFast => p.thermalsUndocQueries disc answers.thermal
  | .fast => p.thermalsUndocQueries disc answers.thermal ++ p.commonMediumQueries g answers.medium
  | .medium => p.commonMediumQueries g answers.medium ++ p.powerQueries g answers.power
  | .slow =>
    p.fanQueries answers.fans ++ p.powerQueries g answers.power ++
      p.slowDataQueries g answers.slow
  | .rare => p.slowDataQueries g answers.slow

section Events

variable {p g} {disc : NvThermalDiscovery} {answers : PollAnswers}

theorem madeOf_append (first second : List TierQuery) :
    madeOf (first ++ second) = madeOf first ++ madeOf second := by
  rw [madeOf, List.filter_append, List.map_append]
  rfl

theorem madeOf_cons (first : TierQuery) (rest : List TierQuery) :
    madeOf (first :: rest) = (if first.made then [first.query] else []) ++ madeOf rest := by
  rw [← List.singleton_append, madeOf_append]
  refine congrArg (· ++ madeOf rest) ?_
  by_cases made : first.made = true
  · rw [if_pos made, madeOf, List.filter_cons_of_pos made]
    rfl
  · rw [if_neg made, madeOf, List.filter_cons_of_neg made]
    rfl

theorem ask_events {α : Type} (fn : NvApiFn ⊕ NvmlFn) (made : Bool) (answer : Option α) :
    (ask fn made answer).events = madeOf [⟨made, ⟨fn, answer.isSome⟩⟩] := by
  cases made <;> rfl

theorem queryThermalsUndoc_events (driver : ThermalDriver) (snap : GpuSnapshot) :
    (p.queryThermalsUndoc disc driver snap).events =
      madeOf (p.thermalsUndocQueries disc driver) := by
  rw [queryThermalsUndoc, events_bind, ask_events, events_pure, List.append_nil]
  rfl

theorem queryCommonMedium_events (medium : MediumAnswers) (snap : GpuSnapshot) :
    (p.queryCommonMedium g medium snap).events = madeOf (p.commonMediumQueries g medium) := by
  unfold queryCommonMedium commonMediumQueries
  simp only [events_bind, events_pure, askNvml, askNvApi, ask_events, madeOf_cons, nvmlQuery,
    nvApiQuery, List.append_assoc]
  rfl

theorem queryPower_events (power : PowerAnswers) (snap : GpuSnapshot) :
    (p.queryPower g power snap).events = madeOf (p.powerQueries g power) := by
  unfold queryPower powerQueries
  simp only [events_bind, events_pure, askNvml, askNvApi, ask_events, madeOf_cons, nvmlQuery,
    nvApiQuery, List.append_assoc]
  rfl

theorem queryFans_events (answer : Option (List FanEntry)) (snap : GpuSnapshot) :
    (p.queryFans answer snap).events = madeOf (p.fanQueries answer) := by
  rw [queryFans, events_bind, ask_events, events_pure, List.append_nil]
  rfl

theorem querySlowData_events (slow : SlowAnswers) (snap : GpuSnapshot) :
    (p.querySlowData g slow snap).events = madeOf (p.slowDataQueries g slow) := by
  unfold querySlowData slowDataQueries
  simp only [events_bind, events_pure, askNvml, askNvApi, ask_events, madeOf_cons, nvmlQuery,
    nvApiQuery, List.append_assoc]
  rfl

/-- A tier asks its queries in their order, whatever is in the snapshot. -/
theorem queryTier_events (gpuIndex : ℤ) (snap : GpuSnapshot) (tier : Tier) :
    (p.queryTier g disc answers gpuIndex snap tier).events =
      madeOf (p.tierQueries g disc answers tier) := by
  cases tier with
  | thermalFast => exact queryThermalsUndoc_events _ _
  | fast =>
    rw [queryTier, events_bind, queryThermalsUndoc_events, queryCommonMedium_events, tierQueries,
      madeOf_append]
  | medium =>
    rw [queryTier, events_bind, queryCommonMedium_events, queryPower_events, tierQueries,
      madeOf_append]
  | slow =>
    rw [queryTier, events_bind, events_bind, queryFans_events, queryPower_events,
      querySlowData_events, tierQueries, madeOf_append, madeOf_append, List.append_assoc]
  | rare => exact querySlowData_events _ _

end Events

/-! ## The calls in a probe's life -/

section Calls

variable {p g} {disc : NvThermalDiscovery} {answers : PollAnswers}

/-- The function that an event calls, if it is a call. -/
def calledFn : DriverEvent → Option (NvApiFn ⊕ NvmlFn)
  | (_, .use fn _) => some fn
  | _ => none

/-- The functions that a program calls. -/
def calledFns {α : Type} (x : Driver α) : List (NvApiFn ⊕ NvmlFn) := x.events.filterMap calledFn

theorem calledFns_bind {α β : Type} (x : Driver α) (f : α → Driver β) :
    calledFns (x >>= f) = calledFns x ++ calledFns (f x.value) :=
  List.filterMap_append

theorem calledFns_guarded (condition : Bool) (x : Driver PUnit) :
    calledFns (guarded condition x) = if condition then calledFns x else [] := by
  cases condition <;> rfl

/-- The functions of the queries that are made. -/
def fnsOf (queries : List TierQuery) : List (NvApiFn ⊕ NvmlFn) := (madeOf queries).map (·.fn)

theorem fnsOf_append (first second : List TierQuery) :
    fnsOf (first ++ second) = fnsOf first ++ fnsOf second := by
  rw [fnsOf, madeOf_append, List.map_append]
  rfl

theorem fnsOf_cons (first : TierQuery) (rest : List TierQuery) :
    fnsOf (first :: rest) = (if first.made then [first.query.fn] else []) ++ fnsOf rest := by
  rw [fnsOf, madeOf_cons, List.map_append, fnsOf]
  split <;> rfl

theorem calledFns_call (fn : NvApiFn) :
    calledFns (p.call fn) = if (p.fn fn).isSome then [.inl fn] else [] :=
  calledFns_guarded _ _

theorem calledFns_get (fn : NvmlFn) :
    calledFns (p.nvml.get fn) = if (p.nvml.fn fn).isSome then [.inr fn] else [] :=
  calledFns_guarded _ _

theorem pollThermalsUndoc_calls (same : g.mask = disc.mask) (driver : ThermalDriver) :
    calledFns (p.pollThermalsUndoc g) = fnsOf (p.thermalsUndocQueries disc driver) := by
  rw [pollThermalsUndoc, NvApiThermals.read, calledFns_guarded, calledFns_guarded,
    thermalsUndocQueries, fnsOf_cons, same]
  cases p.thermals.ready <;> cases p.thermals.fnGetThermalU.isSome <;>
    cases disc.mask != 0 <;> rfl

theorem pollCommonMedium_calls (medium : MediumAnswers) :
    calledFns (p.pollCommonMedium g) = fnsOf (p.commonMediumQueries g medium) := by
  unfold pollCommonMedium commonMediumQueries nvmlQuery nvApiQuery
  simp only [calledFns_bind, calledFns_guarded, calledFns_call, fnsOf_cons, NvmlLoader.getClock,
    NvmlLoader.getTemperature, NvmlLoader.getUtilization, calledFns_get]
  cases g.hasNvml <;> cases g.hasHotspot <;> simp [fnsOf, madeOf]

theorem pollPower_calls (power : PowerAnswers) :
    calledFns (p.pollPower g) = fnsOf (p.powerQueries g power) := by
  unfold pollPower powerQueries nvmlQuery nvApiQuery
  simp only [calledFns_bind, calledFns_guarded, calledFns_call, fnsOf_cons,
    NvmlLoader.getPowerUsage, calledFns_get]
  cases g.hasNvml <;> simp [fnsOf, madeOf]

theorem pollFans_calls (answer : Option (List FanEntry)) :
    calledFns (p.pollFans g) = fnsOf (p.fanQueries answer) := by
  rw [pollFans, NvApiFans.getStatus, calledFns_guarded, calledFns_guarded, fanQueries, fnsOf_cons]
  cases p.fans.ready <;> rfl

theorem pollSlowData_calls (slow : SlowAnswers) :
    calledFns (p.pollSlowData g) = fnsOf (p.slowDataQueries g slow) := by
  unfold pollSlowData slowDataQueries nvmlQuery nvApiQuery
  simp only [calledFns_bind, calledFns_guarded, calledFns_call, fnsOf_cons,
    NvmlLoader.getMemoryInfo, NvmlLoader.getEncoderUtilization, NvmlLoader.getDecoderUtilization,
    NvmlLoader.getPcieThroughput, NvmlLoader.getPcieLinkGen, NvmlLoader.getPcieLinkWidth,
    NvmlLoader.getThrottleReasons, calledFns_get]
  cases g.hasNvml <;> simp [fnsOf, madeOf]

/-- A sample of a probe in its life calls the functions of the tier's queries. -/
theorem sampleTier_calls {gpuIndex : ℤ} (nonneg : 0 ≤ gpuIndex)
    (found : p.gpus[gpuIndex.toNat]? = some g) (same : g.mask = disc.mask) (tier : Tier) :
    calledFns (p.sampleTier tier gpuIndex true) = fnsOf (p.tierQueries g disc answers tier) := by
  have polled : ∀ poll, calledFns (p.sample gpuIndex true poll) = calledFns (poll g) := by
    intro poll
    unfold sample
    rw [if_neg (not_lt.mpr nonneg), found]
    exact (calledFns_bind _ _).trans (List.append_nil _)
  cases tier with
  | thermalFast => exact (polled _).trans (pollThermalsUndoc_calls same _)
  | fast =>
    rw [sampleTier, sampleFast, polled, calledFns_bind, pollThermalsUndoc_calls same,
      pollCommonMedium_calls, tierQueries, fnsOf_append]
  | medium =>
    rw [sampleTier, sampleMedium, polled, calledFns_bind, pollCommonMedium_calls,
      pollPower_calls, tierQueries, fnsOf_append]
  | slow =>
    rw [sampleTier, sampleSlow, polled, calledFns_bind, calledFns_bind, pollFans_calls,
      pollPower_calls, pollSlowData_calls, tierQueries, fnsOf_append, fnsOf_append,
      List.append_assoc]
  | rare => exact (polled _).trans (pollSlowData_calls _)

end Calls

/-! ## A driver that fails -/

section Silent

variable {p g} {disc : NvThermalDiscovery} {answers : PollAnswers}

/-- No query that is made succeeds, as of a GPU that is lost. -/
def Silent (queries : List TierQuery) : Prop :=
  ∀ q ∈ queries, q.made = true → q.query.succeeded = false

theorem silent_append {first second : List TierQuery} :
    Silent (first ++ second) ↔ Silent first ∧ Silent second := List.forall_mem_append

theorem answered_eq_none {α : Type} {made : Bool} {answer : Option α}
    (fails : made = true → answer.isSome = false) : answered made answer = none := by
  cases made with
  | false => rfl
  | true => exact Option.isNone_iff_eq_none.mp (Option.isSome_eq_false_iff.mp (fails rfl))

theorem readThermalsUndoc_of_silent {driver : ThermalDriver}
    (silent : Silent (p.thermalsUndocQueries disc driver)) (snap : GpuSnapshot) :
    p.readThermalsUndoc disc driver snap = snap := by
  rw [← queryThermalsUndoc_value, queryThermalsUndoc, value_bind, ask, value_bind, value_pure,
    answered_eq_none (silent _ (List.mem_singleton_self _))]
  rfl

theorem readCommonMedium_of_silent {medium : MediumAnswers}
    (silent : Silent (p.commonMediumQueries g medium)) (snap : GpuSnapshot) :
    p.readCommonMedium g medium snap = snap := by
  simp only [Silent, commonMediumQueries, nvmlQuery, nvApiQuery, List.forall_mem_cons] at silent
  obtain ⟨temperature, hotspot, clocks, boost, graphics, memory, video, pstate, pstates,
    utilization, -⟩ := silent
  unfold readCommonMedium nvmlAnswer nvApiAnswer
  rw [answered_answered, answered_eq_none temperature, answered_eq_none hotspot,
    answered_eq_none clocks, answered_eq_none boost, answered_eq_none graphics,
    answered_eq_none memory, answered_eq_none video, answered_eq_none pstate,
    answered_eq_none pstates, answered_eq_none utilization]
  rfl

theorem readPower_of_silent {power : PowerAnswers} (silent : Silent (p.powerQueries g power))
    (snap : GpuSnapshot) : p.readPower g power snap = snap := by
  simp only [Silent, powerQueries, nvmlQuery, nvApiQuery, List.forall_mem_cons] at silent
  obtain ⟨powerUsage, topology, -⟩ := silent
  unfold readPower nvmlAnswer nvApiAnswer
  rw [answered_eq_none powerUsage, answered_eq_none topology]
  rfl

theorem readFans_of_silent {answer : Option (List FanEntry)}
    (silent : Silent (p.fanQueries answer)) (snap : GpuSnapshot) :
    p.readFans answer snap = snap := by
  rw [readFans, answered_eq_none (silent _ (List.mem_singleton_self _))]
  rfl

theorem readSlowData_of_silent {slow : SlowAnswers} (silent : Silent (p.slowDataQueries g slow))
    (snap : GpuSnapshot) : p.readSlowData g slow snap = snap := by
  simp only [Silent, slowDataQueries, nvmlQuery, nvApiQuery, List.forall_mem_cons] at silent
  obtain ⟨voltage, memory, encoder, decoder, pcieTx, pcieRx, linkGen, linkWidth, throttle, -⟩ :=
    silent
  unfold readSlowData nvmlAnswer nvApiAnswer
  rw [answered_eq_none voltage, answered_eq_none memory, answered_eq_none encoder,
    answered_eq_none decoder, answered_eq_none pcieTx, answered_eq_none pcieRx,
    answered_eq_none linkGen, answered_eq_none linkWidth, answered_eq_none throttle]
  rfl

/-- Where no query succeeds, a poll writes nothing but the index of the GPU. -/
theorem poll_of_silent {tier : Tier} (silent : Silent (p.tierQueries g disc answers tier))
    (gpuIndex : ℤ) {snap : GpuSnapshot} (indexed : snap.gpuIndex = gpuIndex) :
    tier.poll (p.reads g disc answers) gpuIndex snap = snap := by
  subst indexed
  cases tier with
  | thermalFast => exact readThermalsUndoc_of_silent silent snap
  | fast =>
    obtain ⟨thermals, medium⟩ := silent_append.mp silent
    exact (readCommonMedium_of_silent medium _).trans (readThermalsUndoc_of_silent thermals snap)
  | medium =>
    obtain ⟨medium, power⟩ := silent_append.mp silent
    exact (readPower_of_silent power _).trans (readCommonMedium_of_silent medium snap)
  | slow =>
    obtain ⟨rest, slow⟩ := silent_append.mp silent
    obtain ⟨fans, power⟩ := silent_append.mp rest
    exact ((readSlowData_of_silent slow _).trans (readPower_of_silent power _)).trans
      (readFans_of_silent fans snap)
  | rare => exact readSlowData_of_silent silent snap

end Silent

end GpuProbe

end CapacityAgent

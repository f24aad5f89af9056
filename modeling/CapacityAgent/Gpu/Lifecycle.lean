/-
# The life of a probe

`GpuProbe` from its construction to its destruction, as the calls it makes of the driver
libraries. The pointers of the probe itself are never cleared; they are used only for a
GPU in the list, and the list is empty while NVAPI is not loaded.
-/

import CapacityAgent.Gpu.Loaders
import CapacityAgent.Gpu.Matching

namespace CapacityAgent

open Lifecycle Traced Transitions

/-- An `nvmlDevice_t`. -/
abbrev NvmlDevice := ℕ

/-- A GPU of the list: its device, whether it has a hotspot sensor, and its sensors. -/
structure GpuBackendContext where
  nvml : Option (NvmlDevInfo NvmlDevice)
  hasHotspot : Bool
  mask : UInt32

def GpuBackendContext.hasNvml (g : GpuBackendContext) : Bool := g.nvml.isSome

structure GpuProbe where
  nvapi : NvApiLoader := {}
  thermals : NvApiThermals := {}
  fans : NvApiFans := {}
  nvml : NvmlLoader := {}
  gpus : List GpuBackendContext := []
  /-- The pointer for each function of `probeFns`. -/
  fn : NvApiFn → Option Handle := fun _ => none

/-- The functions the probe has pointers for, in the order of `init`. -/
def probeFns : List NvApiFn :=
  [.enumPhysicalGpus, .getFullName, .getAllClockFrequencies, .getDynamicPStatesInfoEx,
    .getCurrentPstate, .getVoltageDomainsStatus, .clientPowerTopologyGetStatus,
    .getThermalSettings, .getBusId]

/-- What a GPU answers while its context is built. -/
structure GpuAnswers where
  thermal : ThermalAnswers
  hotspot : Bool
  busId : Option ℕ

/-- How the steps of `GpuProbe::init` end. -/
structure ProbeAnswers where
  nvapi : NvApiLoading
  found : NvApiFn → Bool
  nvml : NvmlLoading
  enumOk : Bool
  count : ℕ
  nvmlCount : Option ℕ
  nvmlDevice : ℕ → Option (NvmlDevice × Option PciAddress)
  gpu : ℕ → GpuAnswers

namespace GpuProbe

/-! ## Polling -/

/-- A call of the probe through its own pointer, if that is not null. -/
def call (p : GpuProbe) (fn : NvApiFn) : Driver Unit := callNvApiIf fn (p.fn fn)

/-- `poll_thermals_undoc`. -/
def pollThermalsUndoc (p : GpuProbe) (g : GpuBackendContext) : Driver Unit :=
  guarded (p.thermals.ready && g.mask != 0) (p.thermals.read g.mask)

/-- `poll_common_medium`. -/
def pollCommonMedium (p : GpuProbe) (g : GpuBackendContext) : Driver Unit := do
  guarded g.hasNvml p.nvml.getTemperature
  guarded g.hasHotspot (p.call .getThermalSettings)
  -- the current clocks, then the boost clocks
  p.call .getAllClockFrequencies
  p.call .getAllClockFrequencies
  guarded g.hasNvml do
    p.nvml.getClock
    p.nvml.getClock
    p.nvml.getClock
  p.call .getCurrentPstate
  p.call .getDynamicPStatesInfoEx
  guarded g.hasNvml p.nvml.getUtilization

/-- `poll_power`. -/
def pollPower (p : GpuProbe) (g : GpuBackendContext) : Driver Unit := do
  guarded g.hasNvml p.nvml.getPowerUsage
  p.call .clientPowerTopologyGetStatus

/-- `poll_fans`. -/
def pollFans (p : GpuProbe) (_ : GpuBackendContext) : Driver Unit :=
  guarded p.fans.ready p.fans.getStatus

/-- `poll_slow_data`. -/
def pollSlowData (p : GpuProbe) (g : GpuBackendContext) : Driver Unit := do
  p.call .getVoltageDomainsStatus
  guarded g.hasNvml p.nvml.getMemoryInfo
  guarded g.hasNvml do
    p.nvml.getEncoderUtilization
    p.nvml.getDecoderUtilization
  guarded g.hasNvml do
    p.nvml.getPcieThroughput
    p.nvml.getPcieThroughput
    p.nvml.getPcieLinkGen
    p.nvml.getPcieLinkWidth
  guarded g.hasNvml p.nvml.getThrottleReasons

/-! ## Sampling -/

/-- The form of every sample: only a GPU of the list is polled, and only when its limiter
accepts the call. -/
def sample (p : GpuProbe) (gpuIndex : ℤ) (accepted : Bool)
    (poll : GpuBackendContext → Driver Unit) : Driver Bool :=
  if gpuIndex < 0 then pure false
  else
    match p.gpus[gpuIndex.toNat]? with
    | none => pure false
    | some g => do
      guarded accepted (poll g)
      return accepted

/-- `sample_fast`. -/
def sampleFast (p : GpuProbe) (gpuIndex : ℤ) (accepted : Bool) : Driver Bool :=
  p.sample gpuIndex accepted fun g => do
    p.pollThermalsUndoc g
    p.pollCommonMedium g

/-- `sample_slow`. -/
def sampleSlow (p : GpuProbe) (gpuIndex : ℤ) (accepted : Bool) : Driver Bool :=
  p.sample gpuIndex accepted fun g => do
    p.pollFans g
    p.pollPower g
    p.pollSlowData g

/-- `sample_thermal_fast`. -/
def sampleThermalFast (p : GpuProbe) (gpuIndex : ℤ) (accepted : Bool) : Driver Bool :=
  p.sample gpuIndex accepted p.pollThermalsUndoc

/-- `sample_medium`. -/
def sampleMedium (p : GpuProbe) (gpuIndex : ℤ) (accepted : Bool) : Driver Bool :=
  p.sample gpuIndex accepted fun g => do
    p.pollCommonMedium g
    p.pollPower g

/-- `sample_rare`. -/
def sampleRare (p : GpuProbe) (gpuIndex : ℤ) (accepted : Bool) : Driver Bool :=
  p.sample gpuIndex accepted p.pollSlowData

/-! ## Initialisation -/

/-- The pointers after those for `fns` have been resolved. -/
def resolveAll (loader : NvApiLoader) (found : NvApiFn → Bool) :
    List NvApiFn → (NvApiFn → Option Handle) → Driver (NvApiFn → Option Handle)
  | [], pointers => pure pointers
  | fn :: fns, pointers => do
    let pointer ← loader.resolve (found fn)
    resolveAll loader found fns (Function.update pointers fn pointer)

/-- The devices of the indices that have a handle. -/
def enumerateDevices (nvml : NvmlLoader)
    (device : ℕ → Option (NvmlDevice × Option PciAddress)) :
    List ℕ → Driver (List (NvmlDevInfo NvmlDevice))
  | [] => pure []
  | i :: indices => do
    match ← nvml.getDeviceByIndex (device i) with
    | none => enumerateDevices nvml device indices
    | some (dev, address) =>
      let address ← nvml.getPciBusId address
      let devs ← enumerateDevices nvml device indices
      return nvmlDevInfo dev address :: devs

/-- `nvml_devs`. -/
def nvmlDevs (p : GpuProbe) (answers : ProbeAnswers) (haveNvml : Bool) :
    Driver (List (NvmlDevInfo NvmlDevice)) :=
  if haveNvml then do
    let count ← p.nvml.getDeviceCount answers.nvmlCount
    enumerateDevices p.nvml answers.nvmlDevice (List.range (count.getD 0))
  else pure []

/-- The device of the `i`-th GPU. -/
def matchDevice (p : GpuProbe) (haveNvml : Bool) (devs : List (NvmlDevInfo NvmlDevice)) (i : ℕ)
    (answers : GpuAnswers) : Driver (Option (NvmlDevInfo NvmlDevice)) :=
  if haveNvml && !devs.isEmpty then do
    p.call .getBusId
    return matchNvml devs (if (p.fn .getBusId).isSome then answers.busId else none) i
  else pure none

/-- The context of the `i`-th GPU. -/
def buildContext (p : GpuProbe) (haveNvml : Bool) (devs : List (NvmlDevInfo NvmlDevice)) (i : ℕ)
    (answers : GpuAnswers) : Driver GpuBackendContext := do
  p.call .getFullName
  let mask ← p.thermals.discoverSensors answers.thermal
  p.call .getThermalSettings
  let nvml ← p.matchDevice haveNvml devs i answers
  return {
    nvml := nvml
    hasHotspot := (p.fn .getThermalSettings).isSome && answers.hotspot
    mask := mask }

def buildContexts (p : GpuProbe) (haveNvml : Bool) (devs : List (NvmlDevInfo NvmlDevice))
    (answers : ℕ → GpuAnswers) : List ℕ → Driver (List GpuBackendContext)
  | [] => pure []
  | i :: indices => do
    let g ← p.buildContext haveNvml devs i (answers i)
    let gpus ← buildContexts p haveNvml devs answers indices
    return g :: gpus

/-- The second half of `init`, from the enumeration on. -/
def enumerate (p : GpuProbe) (answers : ProbeAnswers) (haveNvml : Bool) :
    Driver (Bool × GpuProbe) := do
  callNvApi .enumPhysicalGpus (p.fn .enumPhysicalGpus)
  if !answers.enumOk || answers.count == 0 then return (false, p)
  else
    let devs ← p.nvmlDevs answers haveNvml
    let gpus ← p.buildContexts haveNvml devs answers.gpu (List.range answers.count)
    return (true, { p with gpus := gpus })

/-- `GpuProbe::init`. -/
def init (answers : ProbeAnswers) (p : GpuProbe) : Driver (Bool × GpuProbe) := do
  let (ok, nvapi) ← p.nvapi.init answers.nvapi
  let p := { p with nvapi := nvapi }
  if !ok then return (false, p)
  else
    let fn ← resolveAll p.nvapi answers.found probeFns p.fn
    let p := { p with fn := fn }
    -- NVAPI stays loaded here, and where the enumeration fails
    if (p.fn .enumPhysicalGpus).isNone then return (false, p)
    else
      let thermals ← p.thermals.init p.nvapi answers.found
      let fans ← p.fans.init p.nvapi answers.found
      let (haveNvml, nvml) ← p.nvml.init answers.nvml
      enumerate { p with thermals := thermals, fans := fans, nvml := nvml } answers haveNvml

/-! ## The end -/

/-- `GpuProbe::shutdown`. The probe's own pointers stay. -/
def shutdown (p : GpuProbe) : Driver GpuProbe := do
  let nvml ← p.nvml.shutdown
  let nvapi ← p.nvapi.shutdown
  return { p with
    gpus := []
    fans := p.fans.shutdown
    thermals := p.thermals.shutdown
    nvml := nvml
    nvapi := nvapi }

/-- The destructor: the members go in the reverse of their order, and the loaders shut
down. -/
def destroy (p : GpuProbe) : Driver Unit := do
  let _ ← p.nvml.shutdown
  let _ ← p.nvapi.shutdown
  return ⟨⟩

end GpuProbe

/-! ## Runs -/

inductive Tier
  | fast
  | slow
  | thermalFast
  | medium
  | rare
  deriving DecidableEq

/-- A call of a probe, with what the driver and the limiter answer to it. -/
inductive ProbeCall
  | init (answers : ProbeAnswers)
  | shutdown
  | sample (tier : Tier) (gpuIndex : ℤ) (accepted : Bool)

namespace GpuProbe

/-- The sample of a tier. -/
def sampleTier (p : GpuProbe) (tier : Tier) (gpuIndex : ℤ) (accepted : Bool) : Driver Bool :=
  match tier with
  | .fast => p.sampleFast gpuIndex accepted
  | .slow => p.sampleSlow gpuIndex accepted
  | .thermalFast => p.sampleThermalFast gpuIndex accepted
  | .medium => p.sampleMedium gpuIndex accepted
  | .rare => p.sampleRare gpuIndex accepted

/-- The probe after a call. -/
def step (p : GpuProbe) : ProbeCall → Driver GpuProbe
  | .init answers => do
    let (_, p) ← p.init answers
    return p
  | .shutdown => p.shutdown
  | .sample tier gpuIndex accepted => do
    let _ ← p.sampleTier tier gpuIndex accepted
    return p

def run (p : GpuProbe) : List ProbeCall → Driver GpuProbe
  | [] => pure p
  | call :: calls => do
    let p ← p.step call
    run p calls

/-- A whole life: constructed, called and destroyed. -/
def life (calls : List ProbeCall) : Driver Unit := do
  let p ← run {} calls
  p.destroy

/-! ## What holds between calls -/

section Polls

variable {p : GpuProbe} {g : GpuBackendContext} {phases : Libraries}

/-- NVML runs and its loader is ready. -/
def NvmlUsable (p : GpuProbe) (phases : Libraries) : Prop :=
  ∃ h, NvmlLoader.Ready h p.nvml ∧ phases .nvml = .running h

/-- The pointers of the probe are null or point into NVAPI, which is running. -/
def Pointers (p : GpuProbe) (phases : Libraries) : Prop :=
  ∀ fn ∈ probeFns, PointsInto (phases .nvapi) (p.fn fn)

/-- What holds between calls. The tables hold pointers only while NVAPI runs, and the
list of GPUs is what tells whether the probe's own pointers may be used. -/
structure Stands (p : GpuProbe) (phases : Libraries) : Prop where
  nvapi : Agrees {} NvApiLoader.Ready p.nvapi (phases .nvapi)
  nvml : Agrees {} NvmlLoader.Ready p.nvml (phases .nvml)
  thermals : ReadyOn (phases .nvapi) p.thermals.ready p.thermals.fnGetThermalU
  fans : ReadyOn (phases .nvapi) p.fans.ready p.fans.fnGetStatus
  pointers : ∀ g ∈ p.gpus, p.Pointers phases
  devices : ∀ g ∈ p.gpus, g.hasNvml = true → p.NvmlUsable phases

theorem call_keeps (pointers : p.Pointers phases) {fn : NvApiFn} (own : fn ∈ probeFns) :
    Keeps driverStep phases (p.call fn) := callNvApiIf_keeps (pointers fn own) fn

theorem nvmlGet_keeps (device : g.hasNvml = true → p.NvmlUsable phases) (f : NvmlFn) :
    Keeps driverStep phases (guarded g.hasNvml (p.nvml.get f)) := by
  refine .guarded fun has => ?_
  obtain ⟨h, isReady, running⟩ := device has
  exact NvmlLoader.get_keeps isReady running f

theorem pollThermalsUndoc_keeps (stands : p.Stands phases) (g : GpuBackendContext) :
    Keeps driverStep phases (p.pollThermalsUndoc g) :=
  .guarded fun _ => NvApiThermals.read_keeps stands.thermals _

theorem pollFans_keeps (stands : p.Stands phases) (g : GpuBackendContext) :
    Keeps driverStep phases (p.pollFans g) :=
  .guarded fun _ => NvApiFans.getStatus_keeps stands.fans

theorem pollCommonMedium_keeps (stands : p.Stands phases) (member : g ∈ p.gpus) :
    Keeps driverStep phases (p.pollCommonMedium g) := by
  have pointers := stands.pointers g member
  have device := stands.devices g member
  refine (nvmlGet_keeps device _).bind fun _ => ?_
  refine (Keeps.guarded fun _ => call_keeps pointers (by simp [probeFns])).bind fun _ => ?_
  refine (call_keeps pointers (by simp [probeFns])).bind fun _ => ?_
  refine (call_keeps pointers (by simp [probeFns])).bind fun _ => ?_
  refine Keeps.bind (.guarded fun has => ?_) fun _ => ?_
  · obtain ⟨h, isReady, running⟩ := device has
    have get := NvmlLoader.get_keeps isReady running .deviceGetClockInfo
    exact get.bind fun _ => get.bind fun _ => get
  · refine (call_keeps pointers (by simp [probeFns])).bind fun _ => ?_
    refine (call_keeps pointers (by simp [probeFns])).bind fun _ => ?_
    exact nvmlGet_keeps device _

theorem pollPower_keeps (stands : p.Stands phases) (member : g ∈ p.gpus) :
    Keeps driverStep phases (p.pollPower g) :=
  (nvmlGet_keeps (stands.devices g member) _).bind fun _ =>
    call_keeps (stands.pointers g member) (by simp [probeFns])

theorem pollSlowData_keeps (stands : p.Stands phases) (member : g ∈ p.gpus) :
    Keeps driverStep phases (p.pollSlowData g) := by
  have device := stands.devices g member
  refine (call_keeps (stands.pointers g member) (by simp [probeFns])).bind fun _ => ?_
  refine (nvmlGet_keeps device _).bind fun _ => ?_
  refine Keeps.bind (.guarded fun has => ?_) fun _ => ?_
  · obtain ⟨h, isReady, running⟩ := device has
    have get := NvmlLoader.get_keeps isReady running
    exact (get _).bind fun _ => get _
  · refine Keeps.bind (.guarded fun has => ?_) fun _ => nvmlGet_keeps device _
    obtain ⟨h, isReady, running⟩ := device has
    have get := NvmlLoader.get_keeps isReady running
    exact (get _).bind fun _ => (get _).bind fun _ => (get _).bind fun _ => get _

/-- What is done with a GPU of the list is allowed. -/
theorem sample_keeps (gpuIndex : ℤ) (accepted : Bool) {poll : GpuBackendContext → Driver Unit}
    (polls : ∀ g ∈ p.gpus, Keeps driverStep phases (poll g)) :
    Keeps driverStep phases (p.sample gpuIndex accepted poll) := by
  unfold sample
  split
  · exact .of_pure _
  · cases found : p.gpus[gpuIndex.toNat]? with
    | none => exact .of_pure _
    | some g =>
      have member := List.mem_of_getElem? found
      exact (Keeps.guarded fun _ => polls g member).bind fun _ => .of_pure _

theorem sampleTier_keeps (stands : p.Stands phases) (tier : Tier) (gpuIndex : ℤ)
    (accepted : Bool) : Keeps driverStep phases (p.sampleTier tier gpuIndex accepted) := by
  cases tier with
  | fast =>
    refine sample_keeps gpuIndex accepted fun g member => ?_
    exact (pollThermalsUndoc_keeps stands g).bind fun _ => pollCommonMedium_keeps stands member
  | slow =>
    refine sample_keeps gpuIndex accepted fun g member => ?_
    exact (pollFans_keeps stands g).bind fun _ =>
      (pollPower_keeps stands member).bind fun _ => pollSlowData_keeps stands member
  | thermalFast => exact sample_keeps gpuIndex accepted fun g _ => pollThermalsUndoc_keeps stands g
  | medium =>
    refine sample_keeps gpuIndex accepted fun g member => ?_
    exact (pollCommonMedium_keeps stands member).bind fun _ => pollPower_keeps stands member
  | rare => exact sample_keeps gpuIndex accepted fun g member => pollSlowData_keeps stands member

end Polls

/-! ## Initialising -/

section Init

variable {p : GpuProbe} {phases t : Libraries}

theorem Pointers.mono (pointers : p.Pointers phases)
    (later : ∀ h, phases .nvapi = .running h → t .nvapi = .running h) : p.Pointers t :=
  fun fn own => (pointers fn own).mono later

theorem Stands.nvapi_init (stands : p.Stands phases) {ok : Bool} {nvapi : NvApiLoader}
    (ends : InitEnds .nvapi {} NvApiLoader.Ready phases (ok, nvapi) t) :
    Stands { p with nvapi := nvapi } t where
  nvapi := ends.agrees
  nvml := by
    rw [ends.other (by simp)]
    exact stands.nvml
  thermals := stands.thermals.mono fun _ => ends.running_of
  fans := stands.fans.mono fun _ => ends.running_of
  pointers := fun g member => Pointers.mono (stands.pointers g member) fun _ => ends.running_of
  devices := by
    intro g member has
    obtain ⟨h, isReady, running⟩ := stands.devices g member has
    exact ⟨h, isReady, ends.running_of running⟩

theorem Stands.nvml_init (stands : p.Stands phases) {ok : Bool} {nvml : NvmlLoader}
    (ends : InitEnds .nvml {} NvmlLoader.Ready phases (ok, nvml) t) :
    Stands { p with nvml := nvml } t where
  nvapi := by
    rw [ends.other (by simp)]
    exact stands.nvapi
  nvml := ends.agrees
  thermals := stands.thermals.mono fun _ => ends.running_of
  fans := stands.fans.mono fun _ => ends.running_of
  pointers := fun g member => Pointers.mono (stands.pointers g member) fun _ => ends.running_of
  devices := by
    intro g member has
    obtain ⟨h, -, running⟩ := stands.devices g member has
    -- NVML was running, so it is ready by the same handle
    have still := ends.running_of running
    have agrees := ends.agrees
    rw [still] at agrees
    exact ⟨h, agrees.ready_of_running, still⟩

theorem resolveAll_within {loader : NvApiLoader} {h : Handle}
    (isReady : NvApiLoader.Ready h loader) (running : phases .nvapi = .running h)
    (found : NvApiFn → Bool) (fns : List NvApiFn) (pointers : NvApiFn → Option Handle) :
    Within driverStep phases (resolveAll loader found fns pointers) fun resolved t =>
      t = phases ∧ ∀ fn, fn ∈ fns ∨ PointsInto (phases .nvapi) (pointers fn) →
        PointsInto (phases .nvapi) (resolved fn) := by
  induction fns generalizing pointers with
  | nil => exact .of_pure ⟨rfl, fun fn given => given.elim (by simp) id⟩
  | cons first fns ih =>
    obtain rfl := isReady
    refine (NvApiLoader.resolve_within rfl (.inr running) _).bind ?_
    rintro pointer _ ⟨rfl, rfl⟩
    refine (ih _).mono ?_
    rintro resolved _ ⟨rfl, points⟩
    refine ⟨rfl, fun fn given => points fn ?_⟩
    by_cases own : fn = first
    · subst own
      rw [Function.update_self]
      exact .inr (pointsInto_of_running running _)
    · rw [Function.update_of_ne own]
      exact given.imp_left fun member => (List.mem_cons.mp member).resolve_left own

theorem enumerateDevices_keeps (usable : p.NvmlUsable phases)
    (device : ℕ → Option (NvmlDevice × Option PciAddress)) (indices : List ℕ) :
    Keeps driverStep phases (enumerateDevices p.nvml device indices) := by
  obtain ⟨h, isReady, running⟩ := usable
  have get := NvmlLoader.get_keeps isReady running
  induction indices with
  | nil => exact .of_pure _
  | cons i indices ih =>
    refine ((get _).bind fun _ => .of_pure _).bind fun found => ?_
    cases found with
    | none => exact ih
    | some device =>
      exact ((get _).bind fun _ => .of_pure _).bind fun _ => ih.bind fun _ => .of_pure _

theorem nvmlDevs_keeps {haveNvml : Bool} (device : haveNvml = true → p.NvmlUsable phases)
    (answers : ProbeAnswers) : Keeps driverStep phases (p.nvmlDevs answers haveNvml) := by
  unfold nvmlDevs
  split
  · next have_ =>
    obtain ⟨h, isReady, running⟩ := device have_
    refine ((NvmlLoader.get_keeps isReady running _).bind fun _ => .of_pure _).bind fun _ => ?_
    exact enumerateDevices_keeps ⟨h, isReady, running⟩ _ _
  · exact .of_pure _

theorem matchDevice_within (pointers : p.Pointers phases) (haveNvml : Bool)
    (devs : List (NvmlDevInfo NvmlDevice)) (i : ℕ) (answers : GpuAnswers) :
    Within driverStep phases (p.matchDevice haveNvml devs i answers) fun device t =>
      t = phases ∧ (device.isSome = true → haveNvml = true) := by
  unfold matchDevice
  split
  · next some_ =>
    refine Within.bind (call_keeps pointers (by simp [probeFns])) ?_
    rintro _ _ rfl
    exact .of_pure ⟨rfl, fun _ => (Bool.and_eq_true_iff.mp some_).1⟩
  · exact .of_pure ⟨rfl, fun impossible => absurd impossible (by simp)⟩

/-- A context has an NVML device only with NVML. -/
theorem buildContext_within (stands : p.Stands phases) (pointers : p.Pointers phases)
    (haveNvml : Bool) (devs : List (NvmlDevInfo NvmlDevice)) (i : ℕ) (answers : GpuAnswers) :
    Within driverStep phases (p.buildContext haveNvml devs i answers) fun g t =>
      t = phases ∧ (g.hasNvml = true → haveNvml = true) := by
  refine Within.bind (call_keeps pointers (by simp [probeFns])) ?_
  rintro _ _ rfl
  refine Within.bind (NvApiThermals.discoverSensors_keeps stands.thermals _) ?_
  rintro mask _ rfl
  refine Within.bind (call_keeps pointers (by simp [probeFns])) ?_
  rintro _ _ rfl
  refine (matchDevice_within pointers haveNvml devs i answers).bind ?_
  rintro nvml _ ⟨rfl, only⟩
  exact .of_pure ⟨rfl, only⟩

theorem buildContexts_within (stands : p.Stands phases) (pointers : p.Pointers phases)
    (haveNvml : Bool) (devs : List (NvmlDevInfo NvmlDevice)) (answers : ℕ → GpuAnswers)
    (indices : List ℕ) :
    Within driverStep phases (p.buildContexts haveNvml devs answers indices) fun gpus t =>
      t = phases ∧ ∀ g ∈ gpus, g.hasNvml = true → haveNvml = true := by
  induction indices with
  | nil => exact .of_pure ⟨rfl, by simp⟩
  | cons i indices ih =>
    refine (buildContext_within stands pointers haveNvml devs i (answers i)).bind ?_
    rintro g _ ⟨rfl, only⟩
    refine ih.bind ?_
    rintro gpus _ ⟨rfl, others⟩
    exact .of_pure ⟨rfl, List.forall_mem_cons.mpr ⟨only, others⟩⟩

/-- The list is built only with the pointers of this load. -/
theorem enumerate_within (stands : p.Stands phases) (pointers : p.Pointers phases)
    (there : (p.fn .enumPhysicalGpus).isSome) {haveNvml : Bool}
    (device : haveNvml = true → p.NvmlUsable phases) (answers : ProbeAnswers) :
    Within driverStep phases (p.enumerate answers haveNvml) fun result t =>
      result.2.Stands t := by
  obtain ⟨h, points⟩ := Option.isSome_iff_exists.mp there
  have running := pointers .enumPhysicalGpus (by simp [probeFns]) h points
  unfold enumerate
  rw [points]
  refine Within.bind (callNvApi_keeps running _) ?_
  rintro _ _ rfl
  split
  · exact .of_pure stands
  · refine Within.bind (nvmlDevs_keeps device answers) ?_
    rintro devs _ rfl
    refine (buildContexts_within stands pointers haveNvml devs _ _).bind ?_
    rintro gpus _ ⟨rfl, only⟩
    refine .of_pure { stands with pointers := fun _ _ => pointers, devices := ?_ }
    exact fun g member has => device (only g member has)

/-- Whatever is missing and whatever fails. -/
theorem init_within (stands : p.Stands phases) (answers : ProbeAnswers) :
    Within driverStep phases (p.init answers) fun result t => result.2.Stands t := by
  refine (NvApiLoader.init_within stands.nvapi answers.nvapi).bind ?_
  rintro ⟨ok, nvapi⟩ t ends
  have loaded := stands.nvapi_init ends
  cases ok with
  | false => exact .of_pure loaded
  | true =>
    obtain ⟨h, isReady, running⟩ := ends.ready_of
    refine (resolveAll_within isReady running answers.found probeFns p.fn).bind ?_
    rintro fn t ⟨rfl, points⟩
    have pointers : ∀ f ∈ probeFns, PointsInto (t .nvapi) (fn f) :=
      fun f own => points f (.inl own)
    have resolved : Stands { p with nvapi := nvapi, fn := fn } t :=
      { loaded with pointers := fun _ _ => pointers }
    dsimp only
    split
    · exact .of_pure resolved
    · next there =>
      refine (NvApiThermals.init_within isReady running answers.found).bind ?_
      rintro thermals t ⟨rfl, thermalTable⟩
      refine (NvApiFans.init_within isReady running answers.found).bind ?_
      rintro fans t ⟨rfl, fanTable⟩
      refine (NvmlLoader.init_within resolved.nvml answers.nvml).bind ?_
      rintro ⟨haveNvml, nvml⟩ u ends
      have tables : Stands { p with nvapi := nvapi, fn := fn, thermals := thermals, fans := fans }
          t := { resolved with thermals := thermalTable, fans := fanTable }
      have all := tables.nvml_init ends
      refine enumerate_within all (Pointers.mono pointers fun _ => ends.running_of) ?_ ?_ answers
      · simpa [Option.isSome_iff_ne_none] using there
      · rintro rfl
        exact ends.ready_of

end Init

/-! ## Ending -/

section End

variable {p : GpuProbe} {phases : Libraries}

/-- The loaders shut down, NVML first. -/
theorem loaders_shutdown_within (stands : p.Stands phases) :
    Within driverStep phases p.nvml.shutdown fun nvml t =>
      nvml = {} ∧ Within driverStep t p.nvapi.shutdown fun nvapi u =>
        nvapi = {} ∧ u = fun _ => .absent := by
  refine (NvmlLoader.shutdown_within stands.nvml).mono ?_
  rintro nvml _ ⟨rfl, rfl⟩
  have other : Function.update phases .nvml .absent .nvapi = phases .nvapi :=
    Function.update_of_ne (by simp) ..
  refine ⟨rfl, (NvApiLoader.shutdown_within (other ▸ stands.nvapi)).mono ?_⟩
  rintro nvapi _ ⟨rfl, rfl⟩
  refine ⟨rfl, ?_⟩
  ext library
  cases library with
  | nvapi => exact Function.update_self ..
  | nvml => rw [Function.update_of_ne (by simp), Function.update_self]

theorem destroy_within (stands : p.Stands phases) :
    Within driverStep phases p.destroy fun _ t => t = fun _ => .absent := by
  refine (loaders_shutdown_within stands).bind ?_
  rintro _ _ ⟨-, rest⟩
  refine rest.bind ?_
  rintro _ _ ⟨-, rfl⟩
  exact .of_pure rfl

theorem stands_of_empty {p : GpuProbe} (nvapi : p.nvapi = {}) (nvml : p.nvml = {})
    (thermals : p.thermals = {}) (fans : p.fans = {}) (gpus : p.gpus = []) :
    p.Stands fun _ => .absent where
  nvapi := nvapi ▸ .unloaded
  nvml := nvml ▸ .unloaded
  thermals := by simp [thermals, ReadyOn]
  fans := by simp [fans, ReadyOn]
  pointers := by simp [gpus]
  devices := by simp [gpus]

theorem shutdown_within (stands : p.Stands phases) :
    Within driverStep phases p.shutdown fun p' t => p'.Stands t := by
  refine (loaders_shutdown_within stands).bind ?_
  rintro _ _ ⟨rfl, rest⟩
  refine rest.bind ?_
  rintro _ _ ⟨rfl, rfl⟩
  exact .of_pure (stands_of_empty rfl rfl rfl rfl rfl)

end End

/-! ## Whole lives -/

theorem step_within {p : GpuProbe} {phases : Libraries} (stands : p.Stands phases)
    (call : ProbeCall) : Within driverStep phases (p.step call) Stands := by
  cases call with
  | init answers =>
    refine (init_within stands answers).bind ?_
    rintro ⟨ok, p⟩ t later
    exact .of_pure later
  | shutdown => exact shutdown_within stands
  | sample tier gpuIndex accepted =>
    refine Within.bind (sampleTier_keeps stands tier gpuIndex accepted) ?_
    rintro _ _ rfl
    exact .of_pure stands

theorem run_within {p : GpuProbe} {phases : Libraries} (stands : p.Stands phases)
    (calls : List ProbeCall) : Within driverStep phases (p.run calls) Stands := by
  induction calls generalizing p phases with
  | nil => exact .of_pure stands
  | cons call calls ih =>
    refine (step_within stands call).bind ?_
    exact fun p t later => ih later

theorem life_within (calls : List ProbeCall) :
    Within driverStep (fun _ => .absent) (life calls) fun _ t => t = fun _ => .absent := by
  refine (run_within (stands_of_empty rfl rfl rfl rfl rfl) calls).bind ?_
  exact fun p t stands => destroy_within stands

/-- **Both libraries are released once and used only while they are loaded.** -/
theorem libraries_released_once (calls : List ProbeCall) (library : Library) :
    Balanced (actionsOn library (life calls).events) := by
  obtain ⟨t, ran, rfl⟩ := life_within calls
  exact balanced_of_exec (exec_actionsOn ran library)

end GpuProbe

end CapacityAgent

/-
# The driver libraries

`NvApiLoader` and `NvmlLoader`, and the two function tables that depend on the first,
`NvApiThermals` and `NvApiFans`. Every call of the loader of the operating system and
of the libraries is an event; what they answer is an input. A function pointer is null
or points into the library with a handle.
-/

import CapacityAgent.Library.Lifecycle
import CapacityAgent.Library.Traced

namespace CapacityAgent

open Lifecycle Traced Transitions

/-! ## Calls -/

inductive Library
  | nvapi
  | nvml
  deriving DecidableEq

/-- An `HMODULE`. -/
abbrev Handle := ℕ

inductive NvApiFn
  | queryInterface
  | nvApiInitialize
  | enumPhysicalGpus
  | getFullName
  | getAllClockFrequencies
  | getDynamicPStatesInfoEx
  | getCurrentPstate
  | getVoltageDomainsStatus
  | clientPowerTopologyGetStatus
  | getThermalSettings
  | getBusId
  | getThermalSensorsUndoc
  | clientFanCoolersGetControl
  | clientFanCoolersGetStatus
  | clientFanCoolersSetControl
  deriving DecidableEq

inductive NvmlFn
  | init
  | shutdown
  | deviceGetCount
  | deviceGetHandleByIndex
  | deviceGetName
  | deviceGetPciBusId
  | deviceGetTemperature
  | deviceGetClockInfo
  | deviceGetPowerUsage
  | deviceGetUtilizationRates
  | deviceGetMemoryInfo
  | deviceGetEncoderUtilization
  | deviceGetDecoderUtilization
  | deviceGetPcieThroughput
  | deviceGetCurrPcieLinkGeneration
  | deviceGetCurrPcieLinkWidth
  | deviceGetCurrentClocksThrottleReasons
  deriving DecidableEq

/-- What is done with which library. `enter` is a call of an entry point that loading
needs, `start` its success, `stop` the call of unload or shutdown. -/
abbrev DriverEvent := Library × Action Handle (NvApiFn ⊕ NvmlFn)

/-- A program of driver calls. -/
abbrev Driver := Traced DriverEvent

/-- `LoadLibraryW`. -/
def loadLibrary (library : Library) (answer : Option Handle) : Driver (Option Handle) :=
  match answer with
  | none => pure none
  | some h => do
    emit (library, .acquire h)
    return some h

/-- `FreeLibrary` where there is a handle. -/
def freeLibrary (library : Library) (dllHandle : Option Handle) : Driver Unit :=
  match dllHandle with
  | none => pure ()
  | some h => emit (library, .release h)

/-- The call of unload or shutdown, where loading got to the end. -/
def stopLibrary (library : Library) (initialized : Bool) (fnUnload : Option Handle) : Driver Unit :=
  match initialized, fnUnload with
  | true, some h => emit (library, .stop h)
  | _, _ => pure ()

/-- A call through a pointer that is not checked. -/
def callNvApi (fn : NvApiFn) (pointer : Option Handle) : Driver Unit :=
  emit (.nvapi, .use (.inl fn) pointer)

/-- A call where the pointer is not null. -/
def callNvApiIf (fn : NvApiFn) (pointer : Option Handle) : Driver Unit :=
  guarded pointer.isSome (callNvApi fn pointer)

/-- `reinterpret_cast` of what `GetProcAddress` or `QueryInterface` returns. -/
def pointerInto (h : Handle) (found : Bool) : Option Handle := if found then some h else none

/-! ## NVAPI -/

structure NvApiLoader where
  dllHandle : Option Handle := none
  initialized : Bool := false
  queryInterface : Option Handle := none
  fnInitialize : Option Handle := none
  fnUnload : Option Handle := none
  deriving DecidableEq

/-- How the steps of `NvApiLoader::init` end. -/
structure NvApiLoading where
  library : Option Handle
  queryInterfaceFound : Bool
  initializeFound : Bool
  unloadFound : Bool
  initializeOk : Bool

namespace NvApiLoader

/-- `is_ready`. -/
def isReady (l : NvApiLoader) : Bool := l.initialized

/-- `resolve`. -/
def resolve (l : NvApiLoader) (found : Bool) : Driver (Option Handle) :=
  match l.queryInterface with
  | none => pure none
  | some h => do
    emit (.nvapi, .enter (.inl .queryInterface) h)
    return pointerInto h found

/-- `NvApiLoader::shutdown`. -/
def shutdown (l : NvApiLoader) : Driver NvApiLoader := do
  stopLibrary .nvapi l.initialized l.fnUnload
  freeLibrary .nvapi l.dllHandle
  return {}

/-- What `init` does where it cannot go on. -/
def fail (l : NvApiLoader) : Driver (Bool × NvApiLoader) := do
  let l ← l.shutdown
  return (false, l)

/-- `NvApiLoader::init`. -/
def init (answers : NvApiLoading) (l : NvApiLoader) : Driver (Bool × NvApiLoader) :=
  if l.initialized then pure (true, l)
  else do
    match ← loadLibrary .nvapi answers.library with
    | none => return (false, { l with dllHandle := none })
    | some h =>
      let l := { l with
        dllHandle := some h
        queryInterface := pointerInto h answers.queryInterfaceFound }
      if l.queryInterface.isNone then l.fail
      else do
        let fnInitialize ← l.resolve answers.initializeFound
        let fnUnload ← l.resolve answers.unloadFound
        let l := { l with fnInitialize := fnInitialize, fnUnload := fnUnload }
        match fnInitialize, fnUnload with
        | some pointer, some _ =>
          emit (.nvapi, .enter (.inl .nvApiInitialize) pointer)
          if answers.initializeOk then
            emit (.nvapi, .start pointer)
            return (true, { l with initialized := true })
          else l.fail
        | _, _ => l.fail

end NvApiLoader

/-! ## Thermals and fans -/

structure NvApiThermals where
  ready : Bool := false
  fnGetThermalU : Option Handle := none
  deriving DecidableEq

/-- What a GPU answers to the discovery of its sensors: the probe of every bit, and the
full read. -/
structure ThermalAnswers where
  probe : ℕ → Bool
  fullRead : Bool

namespace NvApiThermals

/-- `NvApiThermals::shutdown`. -/
def shutdown (_ : NvApiThermals) : NvApiThermals := {}

/-- `NvApiThermals::init`, whose result is not used. -/
def init (loader : NvApiLoader) (found : NvApiFn → Bool) (t : NvApiThermals) :
    Driver NvApiThermals :=
  if loader.isReady then do
    let fn ← loader.resolve (found .getThermalSensorsUndoc)
    let t := { t with fnGetThermalU := fn }
    return if fn.isNone then t.shutdown else { t with ready := true }
  else pure t

/-- The probes of `bits`, and the mask with theirs. -/
def probeBits (t : NvApiThermals) (answer : ℕ → Bool) : List ℕ → UInt32 → Driver UInt32
  | [], mask => pure mask
  | bit :: bits, mask => do
    callNvApi .getThermalSensorsUndoc t.fnGetThermalU
    probeBits t answer bits (if answer bit then mask ||| (1 <<< UInt32.ofNat bit) else mask)

/-- `discover_sensors`, up to the mask. -/
def discoverSensors (t : NvApiThermals) (answers : ThermalAnswers) : Driver UInt32 :=
  if t.ready && t.fnGetThermalU.isSome then do
    let mask ← t.probeBits answers.probe (List.range 32) 0
    guarded (mask != 0) (callNvApi .getThermalSensorsUndoc t.fnGetThermalU)
    return if answers.fullRead then mask else 0
  else pure 0

/-- `read`. -/
def read (t : NvApiThermals) (mask : UInt32) : Driver Unit :=
  guarded (t.ready && t.fnGetThermalU.isSome && mask != 0)
    (callNvApi .getThermalSensorsUndoc t.fnGetThermalU)

end NvApiThermals

structure NvApiFans where
  ready : Bool := false
  fnGetControl : Option Handle := none
  fnGetStatus : Option Handle := none
  fnSetControl : Option Handle := none
  deriving DecidableEq

namespace NvApiFans

/-- `NvApiFans::shutdown`. -/
def shutdown (_ : NvApiFans) : NvApiFans := {}

/-- `NvApiFans::init`, whose result is not used. -/
def init (loader : NvApiLoader) (found : NvApiFn → Bool) (f : NvApiFans) : Driver NvApiFans :=
  if loader.isReady then do
    let fnGetControl ← loader.resolve (found .clientFanCoolersGetControl)
    let fnGetStatus ← loader.resolve (found .clientFanCoolersGetStatus)
    let fnSetControl ← loader.resolve (found .clientFanCoolersSetControl)
    let f := { f with
      fnGetControl := fnGetControl
      fnGetStatus := fnGetStatus
      fnSetControl := fnSetControl }
    return if fnGetControl.isNone || fnGetStatus.isNone || fnSetControl.isNone then f.shutdown
      else { f with ready := true }
  else pure f

/-- `get_status`. -/
def getStatus (f : NvApiFans) : Driver Unit :=
  guarded f.ready (callNvApi .clientFanCoolersGetStatus f.fnGetStatus)

end NvApiFans

/-! ## NVML -/

structure NvmlLoader where
  dllHandle : Option Handle := none
  initialized : Bool := false
  /-- The pointer for each entry point. -/
  fn : NvmlFn → Option Handle := fun _ => none

/-- How the steps of `NvmlLoader::init` end. -/
structure NvmlLoading where
  library : Option Handle
  found : NvmlFn → Bool
  initOk : Bool

namespace NvmlLoader

/-- `NvmlLoader::shutdown`. -/
def shutdown (l : NvmlLoader) : Driver NvmlLoader := do
  stopLibrary .nvml l.initialized (l.fn .shutdown)
  freeLibrary .nvml l.dllHandle
  return {}

/-- What `init` does where it cannot go on. -/
def fail (l : NvmlLoader) : Driver (Bool × NvmlLoader) := do
  let l ← l.shutdown
  return (false, l)

/-- `NvmlLoader::init`. -/
def init (answers : NvmlLoading) (l : NvmlLoader) : Driver (Bool × NvmlLoader) :=
  if l.initialized then pure (true, l)
  else do
    match ← loadLibrary .nvml answers.library with
    | none => return (false, l)
    | some h =>
      let l := { l with dllHandle := some h, fn := fun f => pointerInto h (answers.found f) }
      match l.fn .init, l.fn .shutdown, l.fn .deviceGetCount, l.fn .deviceGetHandleByIndex with
      | some pointer, some _, some _, some _ =>
        emit (.nvml, .enter (.inr .init) pointer)
        if answers.initOk then
          emit (.nvml, .start pointer)
          return (true, { l with initialized := true })
        else l.fail
      | _, _, _, _ => l.fail

/-- The form of every getter: nothing is called through a null pointer. -/
def get (l : NvmlLoader) (f : NvmlFn) : Driver Unit :=
  guarded (l.fn f).isSome (emit (.nvml, .use (.inr f) (l.fn f)))

/-- `get_device_count`. -/
def getDeviceCount (l : NvmlLoader) (answer : Option ℕ) : Driver (Option ℕ) := do
  l.get .deviceGetCount
  return if (l.fn .deviceGetCount).isSome then answer else none

/-- `get_device_by_index`. -/
def getDeviceByIndex {α : Type} (l : NvmlLoader) (answer : Option α) : Driver (Option α) := do
  l.get .deviceGetHandleByIndex
  return if (l.fn .deviceGetHandleByIndex).isSome then answer else none

/-- `get_pci_bus_id`. -/
def getPciBusId {α : Type} (l : NvmlLoader) (answer : Option α) : Driver (Option α) := do
  l.get .deviceGetPciBusId
  return if (l.fn .deviceGetPciBusId).isSome then answer else none

/-- `get_temperature`. -/
def getTemperature (l : NvmlLoader) : Driver Unit := l.get .deviceGetTemperature

/-- `get_clock`. -/
def getClock (l : NvmlLoader) : Driver Unit := l.get .deviceGetClockInfo

/-- `get_power_usage`. -/
def getPowerUsage (l : NvmlLoader) : Driver Unit := l.get .deviceGetPowerUsage

/-- `get_utilization`. -/
def getUtilization (l : NvmlLoader) : Driver Unit := l.get .deviceGetUtilizationRates

/-- `get_memory_info`. -/
def getMemoryInfo (l : NvmlLoader) : Driver Unit := l.get .deviceGetMemoryInfo

/-- `get_encoder_utilization`. -/
def getEncoderUtilization (l : NvmlLoader) : Driver Unit := l.get .deviceGetEncoderUtilization

/-- `get_decoder_utilization`. -/
def getDecoderUtilization (l : NvmlLoader) : Driver Unit := l.get .deviceGetDecoderUtilization

/-- `get_pcie_throughput`. -/
def getPcieThroughput (l : NvmlLoader) : Driver Unit := l.get .deviceGetPcieThroughput

/-- `get_pcie_link_gen`. -/
def getPcieLinkGen (l : NvmlLoader) : Driver Unit := l.get .deviceGetCurrPcieLinkGeneration

/-- `get_pcie_link_width`. -/
def getPcieLinkWidth (l : NvmlLoader) : Driver Unit := l.get .deviceGetCurrPcieLinkWidth

/-- `get_throttle_reasons`. -/
def getThrottleReasons (l : NvmlLoader) : Driver Unit :=
  l.get .deviceGetCurrentClocksThrottleReasons

end NvmlLoader

/-! ## What the calls do to the libraries -/

/-- Where the libraries stand. -/
abbrev Libraries := Library → Phase Handle

/-- Where they stand after an event that is allowed. -/
abbrev driverStep : Libraries → DriverEvent → Option Libraries := nextOf

/-- The pointer is null or points into the library, which is running. -/
def PointsInto (phase : Phase Handle) (pointer : Option Handle) : Prop :=
  ∀ h ∈ pointer, phase = .running h

theorem PointsInto.mono {phase phase' : Phase Handle} {pointer : Option Handle}
    (points : PointsInto phase pointer)
    (later : ∀ h, phase = .running h → phase' = .running h) : PointsInto phase' pointer :=
  fun h given => later h (points h given)

theorem eq_of_mem_pointerInto {h h' : Handle} {found : Bool} (given : h' ∈ pointerInto h found) :
    h' = h := by
  cases found with
  | false => exact absurd given (by simp [pointerInto])
  | true => exact (Option.mem_some_iff.mp given).symm

theorem pointsInto_of_running {phase : Phase Handle} {h : Handle} (running : phase = .running h)
    (found : Bool) : PointsInto phase (pointerInto h found) := by
  intro h' given
  rw [eq_of_mem_pointerInto given, running]

section Calls

variable {phases : Libraries}

theorem driverStep_of_next {library : Library} {action : Action Handle (NvApiFn ⊕ NvmlFn)}
    {phase : Phase Handle} (allowed : (phases library).next action = some phase) :
    driverStep phases (library, action) = some (Function.update phases library phase) := by
  rw [driverStep, nextOf, allowed]
  rfl

/-- A call that leaves the library as it is. -/
theorem driverStep_of_stays {library : Library} {action : Action Handle (NvApiFn ⊕ NvmlFn)}
    (allowed : (phases library).next action = some (phases library)) :
    driverStep phases (library, action) = some phases := by
  rw [driverStep_of_next allowed, Function.update_eq_self]

theorem loadLibrary_within {library : Library} (absent : phases library = .absent)
    (answer : Option Handle) :
    Within driverStep phases (loadLibrary library answer) fun handle t =>
      handle = answer ∧
        t = answer.elim phases fun h => Function.update phases library (.present h) := by
  cases answer with
  | none => exact .of_pure ⟨rfl, rfl⟩
  | some h =>
    have loaded : driverStep phases (library, .acquire h) =
        some (Function.update phases library (.present h)) :=
      driverStep_of_next (by simp [absent, Phase.next])
    exact .emit_bind loaded (.of_pure ⟨rfl, rfl⟩)

theorem callNvApi_keeps {h : Handle} (running : phases .nvapi = .running h) (fn : NvApiFn) :
    Keeps driverStep phases (callNvApi fn (some h)) :=
  .of_emit (driverStep_of_stays (by simp [running, Phase.next])) rfl

theorem callNvApiIf_keeps {pointer : Option Handle} (points : PointsInto (phases .nvapi) pointer)
    (fn : NvApiFn) : Keeps driverStep phases (callNvApiIf fn pointer) := by
  refine .guarded fun given => ?_
  obtain ⟨h, rfl⟩ := Option.isSome_iff_exists.mp given
  exact callNvApi_keeps (points h rfl) fn

/-- Freeing a library that is loaded and not running. -/
theorem freed_of_present {library : Library} (h : Handle) :
    driverStep (Function.update phases library (.present h)) (library, .release h) =
      some (Function.update phases library .absent) := by
  have next : driverStep (Function.update phases library (.present h)) (library, .release h) =
      some (Function.update (Function.update phases library (.present h)) library .absent) :=
    driverStep_of_next (by simp [Phase.next])
  rwa [Function.update_idem] at next

/-- Freeing a library that was loaded just now. -/
theorem freed_again {library : Library} (absent : phases library = .absent) (h : Handle) :
    driverStep (Function.update phases library (.present h)) (library, .release h) =
      some phases := by
  rw [freed_of_present, ← absent, Function.update_eq_self]

/-- Its entry points may be called. -/
theorem entered_of_present {library : Library} (fn : NvApiFn ⊕ NvmlFn) (h : Handle) :
    driverStep (Function.update phases library (.present h)) (library, .enter fn h) =
      some (Function.update phases library (.present h)) :=
  driverStep_of_stays (by simp [Phase.next])

theorem started_of_present {library : Library} (h : Handle) :
    driverStep (Function.update phases library (.present h)) (library, .start h) =
      some (Function.update phases library (.running h)) := by
  have next : driverStep (Function.update phases library (.present h)) (library, .start h) =
      some (Function.update (Function.update phases library (.present h)) library (.running h)) :=
    driverStep_of_next (by simp [Phase.next])
  rwa [Function.update_idem] at next

theorem stopped_of_running {library : Library} {h : Handle}
    (running : phases library = .running h) :
    driverStep phases (library, .stop h) =
      some (Function.update phases library (.present h)) :=
  driverStep_of_next (by simp [running, Phase.next])

end Calls

section Loaders

variable {Loader : Type} (library : Library) (empty : Loader) (Ready : Handle → Loader → Prop)

/-- Between calls a loader is empty or ready, as its library is absent or running. -/
inductive Agrees : Loader → Phase Handle → Prop
  | unloaded : Agrees empty .absent
  | ready (h : Handle) (l : Loader) (isReady : Ready h l) : Agrees l (.running h)

/-- How an initialisation ends: with the library unloaded as before, or running; one
that runs is not loaded again. -/
inductive InitEnds (phases : Libraries) : Bool × Loader → Libraries → Prop
  | failed (absent : phases library = .absent) : InitEnds phases (false, empty) phases
  | succeeded (h : Handle) (l : Loader) (isReady : Ready h l)
      (same : ∀ h', phases library = .running h' → h' = h) :
      InitEnds phases (true, l) (Function.update phases library (.running h))

variable {library empty Ready}

/-- Closing a library that was loaded just now. -/
theorem closed_of_present {phases : Libraries} (absent : phases library = .absent) (h : Handle)
    {fnUnload : Option Handle} :
    Within driverStep (Function.update phases library (.present h))
      (do
        stopLibrary library false fnUnload
        freeLibrary library (some h)
        return empty)
      fun l t => l = empty ∧ t = phases :=
  .pure_bind (.emit_bind (freed_again absent h) (.of_pure ⟨rfl, rfl⟩))

/-- Closing a library that runs. -/
theorem closed_of_running {phases : Libraries} {h : Handle}
    (running : phases library = .running h) :
    Within driverStep phases
      (do
        stopLibrary library true (some h)
        freeLibrary library (some h)
        return empty)
      fun l t => l = empty ∧ t = Function.update phases library .absent :=
  .emit_bind (stopped_of_running running) (.emit_bind (freed_of_present h) (.of_pure ⟨rfl, rfl⟩))

/-- An initialisation that ends with the library closed. -/
theorem failed_of_closed {phases s : Libraries} {close : Driver Loader}
    (closed : Within driverStep s close fun l t => l = empty ∧ t = phases)
    (absent : phases library = .absent) :
    Within driverStep s (do let l ← close; return (false, l))
      (InitEnds library empty Ready phases) := by
  refine closed.bind ?_
  rintro _ _ ⟨rfl, rfl⟩
  exact .of_pure (.failed absent)

/-- Nothing is loaded again while the library runs. -/
theorem InitEnds.again {phases : Libraries} {h : Handle} {l : Loader} (isReady : Ready h l)
    (running : phases library = .running h) :
    InitEnds library empty Ready phases (true, l) phases := by
  have same : ∀ h', phases library = .running h' → h' = h :=
    fun h' runs => Phase.running.inj (runs.symm.trans running)
  have ends : InitEnds library empty Ready phases (true, l)
      (Function.update phases library (.running h)) := .succeeded h l isReady same
  rwa [← running, Function.update_eq_self] at ends

/-- Nothing that runs stops. -/
theorem InitEnds.running_of {phases t : Libraries} {result : Bool × Loader}
    (ends : InitEnds library empty Ready phases result t) {other : Library} {h : Handle}
    (running : phases other = .running h) : t other = .running h := by
  cases ends with
  | failed absent => exact running
  | succeeded h' l isReady same =>
    by_cases own : other = library
    · -- it ran before, so nothing was loaded again
      subst own
      rw [Function.update_self, same h running]
    · rwa [Function.update_of_ne own]

theorem InitEnds.other {phases t : Libraries} {result : Bool × Loader}
    (ends : InitEnds library empty Ready phases result t) {other : Library}
    (ne : other ≠ library) : t other = phases other := by
  cases ends with
  | failed absent => rfl
  | succeeded h l isReady same => exact Function.update_of_ne ne ..

theorem InitEnds.agrees {phases t : Libraries} {result : Bool × Loader}
    (ends : InitEnds library empty Ready phases result t) :
    Agrees empty Ready result.2 (t library) := by
  cases ends with
  | failed absent => exact absent ▸ .unloaded
  | succeeded h l isReady same =>
    rw [Function.update_self]
    exact .ready h l isReady

theorem InitEnds.ready_of {phases t : Libraries} {l : Loader}
    (ends : InitEnds library empty Ready phases (true, l) t) :
    ∃ h, Ready h l ∧ t library = .running h := by
  cases ends with
  | succeeded h l isReady same => exact ⟨h, isReady, Function.update_self ..⟩

theorem Agrees.ready_of_running {l : Loader} {h : Handle}
    (agrees : Agrees empty Ready l (.running h)) : Ready h l := by
  cases agrees with
  | ready h l isReady => exact isReady

end Loaders

namespace NvApiLoader

/-- Initialised, with everything found. -/
def Ready (h : Handle) (l : NvApiLoader) : Prop :=
  l = ⟨some h, true, some h, some h, some h⟩

variable {phases : Libraries} {l : NvApiLoader}

theorem resolve_within {h : Handle} (query : l.queryInterface = some h)
    (there : phases .nvapi = .present h ∨ phases .nvapi = .running h) (found : Bool) :
    Within driverStep phases (l.resolve found) fun pointer t =>
      pointer = pointerInto h found ∧ t = phases := by
  rw [resolve, query]
  have entered : driverStep phases (.nvapi, .enter (.inl .queryInterface) h) = some phases := by
    refine driverStep_of_stays ?_
    rcases there with present | running
    · simp [present, Phase.next]
    · simp [running, Phase.next]
  exact .emit_bind entered (.of_pure ⟨rfl, rfl⟩)

/-- Failing after the library has been loaded and before it runs. -/
theorem fail_within {h : Handle} (absent : phases .nvapi = .absent) (handle : l.dllHandle = some h)
    (fresh : l.initialized = false) :
    Within driverStep (Function.update phases .nvapi (.present h)) l.fail
      (InitEnds .nvapi {} Ready phases) := by
  rw [fail, shutdown, fresh, handle]
  exact failed_of_closed (closed_of_present absent h) absent

/-- Shutting down between calls. -/
theorem shutdown_within (agrees : Agrees {} Ready l (phases .nvapi)) :
    Within driverStep phases l.shutdown fun l' t =>
      l' = {} ∧ t = Function.update phases .nvapi .absent := by
  generalize standing : phases .nvapi = phase at agrees
  cases agrees with
  | unloaded =>
    -- nothing is called and nothing freed
    refine ⟨phases, rfl, rfl, ?_⟩
    rw [← standing, Function.update_eq_self]
  | ready h l isReady =>
    obtain rfl := isReady
    exact closed_of_running standing

theorem init_within (agrees : Agrees {} Ready l (phases .nvapi)) (answers : NvApiLoading) :
    Within driverStep phases (l.init answers) (InitEnds .nvapi {} Ready phases) := by
  generalize standing : phases .nvapi = phase at agrees
  cases agrees with
  | ready h l isReady =>
    -- a second call returns at once
    obtain rfl := isReady
    exact .of_pure (.again rfl standing)
  | unloaded =>
    refine (loadLibrary_within standing answers.library).bind ?_
    rintro handle t ⟨rfl, rfl⟩
    cases answers.library with
    | none => exact .of_pure (.failed standing)
    | some h =>
      have there : Function.update phases .nvapi (.present h) .nvapi = .present h :=
        Function.update_self ..
      simp only [Option.elim_some]
      cases answers.queryInterfaceFound with
      -- without the query nothing can be resolved, not even the unloading function
      | false => exact fail_within standing rfl rfl
      | true =>
        refine (resolve_within rfl (.inl there) answers.initializeFound).bind ?_
        rintro _ _ ⟨rfl, rfl⟩
        refine (resolve_within rfl (.inl there) answers.unloadFound).bind ?_
        rintro _ _ ⟨rfl, rfl⟩
        cases answers.initializeFound with
        | false => exact fail_within standing rfl rfl
        | true =>
          cases answers.unloadFound with
          | false => exact fail_within standing rfl rfl
          | true =>
            refine .emit_bind (entered_of_present _ h) ?_
            cases answers.initializeOk with
            -- a driver that refuses does not run and is only freed
            | false => exact fail_within standing rfl rfl
            | true =>
              refine .emit_bind (started_of_present h) (.of_pure (.succeeded h _ rfl ?_))
              exact fun h' running => absurd (standing.symm.trans running) (by simp)

end NvApiLoader

/-- A table that is ready has its pointer into the running library. -/
def ReadyOn (phase : Phase Handle) (ready : Bool) (pointer : Option Handle) : Prop :=
  ready = true → ∃ h, phase = .running h ∧ pointer = some h

theorem ReadyOn.mono {phase phase' : Phase Handle} {ready : Bool} {pointer : Option Handle}
    (table : ReadyOn phase ready pointer)
    (later : ∀ h, phase = .running h → phase' = .running h) : ReadyOn phase' ready pointer := by
  intro isReady
  obtain ⟨h, running, points⟩ := table isReady
  exact ⟨h, later h running, points⟩

namespace NvApiThermals

variable {phases : Libraries} {t : NvApiThermals}

theorem init_within {loader : NvApiLoader} {h : Handle} (isReady : NvApiLoader.Ready h loader)
    (running : phases .nvapi = .running h) (found : NvApiFn → Bool) :
    Within driverStep phases (t.init loader found) fun t' phases' =>
      phases' = phases ∧ ReadyOn (phases .nvapi) t'.ready t'.fnGetThermalU := by
  obtain rfl := isReady
  refine (NvApiLoader.resolve_within rfl (.inr running) _).bind ?_
  rintro _ _ ⟨rfl, rfl⟩
  refine .of_pure ⟨rfl, ?_⟩
  cases found .getThermalSensorsUndoc with
  | false => exact fun impossible => absurd impossible (by simp [pointerInto, shutdown])
  | true => exact fun _ => ⟨h, running, rfl⟩

theorem probeBits_keeps {h : Handle} (running : phases .nvapi = .running h)
    (points : t.fnGetThermalU = some h) (answer : ℕ → Bool) (bits : List ℕ) (mask : UInt32) :
    Keeps driverStep phases (t.probeBits answer bits mask) := by
  induction bits generalizing mask with
  | nil => exact .of_pure _
  | cons bit bits ih =>
    rw [probeBits, points]
    exact (callNvApi_keeps running _).bind fun _ => ih _

theorem discoverSensors_keeps (table : ReadyOn (phases .nvapi) t.ready t.fnGetThermalU)
    (answers : ThermalAnswers) : Keeps driverStep phases (t.discoverSensors answers) := by
  unfold discoverSensors
  split
  · next usable =>
    obtain ⟨h, running, points⟩ := table (Bool.and_eq_true_iff.mp usable).1
    refine (probeBits_keeps running points _ _ _).bind fun mask => ?_
    rw [points]
    exact (Keeps.guarded fun _ => callNvApi_keeps running _).bind fun _ => .of_pure _
  · exact .of_pure _

theorem read_keeps (table : ReadyOn (phases .nvapi) t.ready t.fnGetThermalU) (mask : UInt32) :
    Keeps driverStep phases (t.read mask) := by
  refine .guarded fun usable => ?_
  rw [Bool.and_eq_true_iff, Bool.and_eq_true_iff] at usable
  obtain ⟨h, running, points⟩ := table usable.1.1
  rw [points]
  exact callNvApi_keeps running _

end NvApiThermals

namespace NvApiFans

variable {phases : Libraries} {f : NvApiFans}

theorem init_within {loader : NvApiLoader} {h : Handle} (isReady : NvApiLoader.Ready h loader)
    (running : phases .nvapi = .running h) (found : NvApiFn → Bool) :
    Within driverStep phases (f.init loader found) fun f' phases' =>
      phases' = phases ∧ ReadyOn (phases .nvapi) f'.ready f'.fnGetStatus := by
  obtain rfl := isReady
  refine (NvApiLoader.resolve_within rfl (.inr running) _).bind ?_
  rintro _ _ ⟨rfl, rfl⟩
  refine (NvApiLoader.resolve_within rfl (.inr running) _).bind ?_
  rintro _ _ ⟨rfl, rfl⟩
  refine (NvApiLoader.resolve_within rfl (.inr running) _).bind ?_
  rintro _ _ ⟨rfl, rfl⟩
  refine .of_pure ⟨rfl, ?_⟩
  -- with one of the functions missing the table is not ready
  split_ifs with missing
  · exact fun impossible => absurd impossible (by simp [shutdown])
  · cases status : found .clientFanCoolersGetStatus with
    | false => exact absurd (by simp [status, pointerInto]) missing
    | true => exact fun _ => ⟨h, running, rfl⟩

theorem getStatus_keeps (table : ReadyOn (phases .nvapi) f.ready f.fnGetStatus) :
    Keeps driverStep phases f.getStatus := by
  refine .guarded fun ready => ?_
  obtain ⟨h, running, points⟩ := table ready
  rw [points]
  exact callNvApi_keeps running _

end NvApiFans

namespace NvmlLoader

/-- Initialised; what was found points into the library. -/
structure Ready (h : Handle) (l : NvmlLoader) : Prop where
  handle : l.dllHandle = some h
  initialized : l.initialized = true
  shutdown : l.fn .shutdown = some h
  points : ∀ f, ∀ h' ∈ l.fn f, h' = h

variable {phases : Libraries} {l : NvmlLoader}

theorem fail_within {h : Handle} (absent : phases .nvml = .absent) (handle : l.dllHandle = some h)
    (fresh : l.initialized = false) :
    Within driverStep (Function.update phases .nvml (.present h)) l.fail
      (InitEnds .nvml {} Ready phases) := by
  rw [fail, NvmlLoader.shutdown, fresh, handle]
  exact failed_of_closed (closed_of_present absent h) absent

theorem shutdown_within (agrees : Agrees {} Ready l (phases .nvml)) :
    Within driverStep phases l.shutdown fun l' t =>
      l' = {} ∧ t = Function.update phases .nvml .absent := by
  generalize standing : phases .nvml = phase at agrees
  cases agrees with
  | unloaded =>
    refine ⟨phases, rfl, rfl, ?_⟩
    rw [← standing, Function.update_eq_self]
  | ready h l isReady =>
    rw [NvmlLoader.shutdown, isReady.initialized, isReady.shutdown, isReady.handle]
    exact closed_of_running standing

theorem init_within (agrees : Agrees {} Ready l (phases .nvml)) (answers : NvmlLoading) :
    Within driverStep phases (l.init answers) (InitEnds .nvml {} Ready phases) := by
  generalize standing : phases .nvml = phase at agrees
  cases agrees with
  | ready h l isReady =>
    -- a second call returns at once
    rw [init, isReady.initialized]
    exact .of_pure (.again isReady standing)
  | unloaded =>
    refine (loadLibrary_within standing answers.library).bind ?_
    rintro handle t ⟨rfl, rfl⟩
    cases answers.library with
    | none => exact .of_pure (.failed standing)
    | some h =>
      simp only [Option.elim_some]
      -- whatever was found is in the library that has just been loaded
      have into : ∀ f h', pointerInto h (answers.found f) = some h' → h' = h :=
        fun f h' points => eq_of_mem_pointerInto points
      split
      · next pointer _ _ _ initFound shutdownFound _ _ =>
        obtain rfl := into _ _ initFound
        obtain rfl := into _ _ shutdownFound
        refine .emit_bind (entered_of_present _ _) ?_
        cases answers.initOk with
        | false => exact fail_within standing rfl rfl
        | true =>
          refine .emit_bind (started_of_present _)
            (.of_pure (.succeeded _ _ ⟨rfl, rfl, shutdownFound, into⟩ ?_))
          exact fun h' running => absurd (standing.symm.trans running) (by simp)
      · exact fail_within standing rfl rfl

theorem get_keeps {h : Handle} (isReady : Ready h l) (running : phases .nvml = .running h)
    (f : NvmlFn) : Keeps driverStep phases (l.get f) := by
  refine .guarded fun given => ?_
  obtain ⟨pointer, points⟩ := Option.isSome_iff_exists.mp given
  obtain rfl := isReady.points f pointer points
  rw [points]
  exact .of_emit (driverStep_of_stays (by simp [running, Phase.next])) rfl

end NvmlLoader

end CapacityAgent

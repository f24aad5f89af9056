/-
# The invalid-sensor sentinel

A sensor that is absent or invalid reads 65280, which is 255 degrees. `discover_sensors`
passes over such a value when it looks for the memory junction; a later read writes
whatever comes. The run is any sequence of samples into any of the callers' snapshots,
for any answers of the driver.
-/

import CapacityAgent.Gpu.Polls
import CapacityAgent.Gpu.RateLimit

namespace CapacityAgent

open Transitions

/-! ## Runs -/

/-- A probe with its limiters, what discovery found on its GPUs, and the snapshots of its
callers. -/
structure Telemetry where
  sampler : Sampler
  disc : ℕ → NvThermalDiscovery
  snaps : ℕ → GpuSnapshot

/-- A caller takes a new snapshot, or has one of its snapshots sampled. -/
inductive TelemetryEvent
  | fresh (v : ℕ)
  | sample (v : ℕ) (tier : Tier) (gpuIndex : ℤ) (now : TimePoint) (answers : PollAnswers)

/-- The steps of `init` end as given, with the thermal answers of each GPU's driver. -/
def ProbeAnswers.withDrivers (answers : ProbeAnswers) (drivers : ℕ → ThermalDriver) :
    ProbeAnswers :=
  { answers with gpu := fun i => { answers.gpu i with thermal := (drivers i).answers } }

namespace Telemetry

/-- After `init` of a new probe. -/
def start (answers : ProbeAnswers) (drivers : ℕ → ThermalDriver) : Telemetry :=
  let p := (GpuProbe.init (answers.withDrivers drivers) {}).value.2
  { sampler := Sampler.start p
    disc := fun i => (p.thermals.discover (drivers i)).2
    snaps := fun _ => {} }

variable (s : Telemetry)

/-- The call that samples a snapshot. -/
def call (v : ℕ) (tier : Tier) (gpuIndex : ℤ) (now : TimePoint) (answers : PollAnswers) :
    SampleCall where
  tier := tier
  gpuIndex := gpuIndex
  snap := s.snaps v
  now := now
  reads :=
    -- an index without a GPU is refused before anything is read
    let g := s.sampler.probe.gpus.getD gpuIndex.toNat ⟨none, false, 0⟩
    s.sampler.probe.reads g (s.disc gpuIndex.toNat) answers

def step : TelemetryEvent → Option Telemetry
  | .fresh v => some { s with snaps := Function.update s.snaps v {} }
  | .sample v tier gpuIndex now answers =>
    let result := (s.sampler.sample (s.call v tier gpuIndex now answers)).value
    some { s with
      sampler := result.sampler
      snaps := Function.update s.snaps v result.snap }

/-! ## Sentinels -/

/-- No snapshot shows 255 degrees. -/
def Clean : Prop := ∀ v, (s.snaps v).coreC ≠ 255 ∧ (s.snaps v).memjnC ≠ 255

/-- The snapshot the event is about, and what discovery found on its GPU. -/
def subject : TelemetryEvent → ℕ × NvThermalDiscovery
  | .fresh v => (v, {})
  | .sample v _ gpuIndex _ _ => (v, s.disc gpuIndex.toNat)

/-- The temperatures that the event reads: those of an accepted sample of a tier with a
thermal query, when the query succeeds. -/
def taken : TelemetryEvent → Option Temperatures
  | .fresh _ => none
  | .sample v tier gpuIndex now answers =>
    if s.sampler.admitsCall (s.call v tier gpuIndex now answers) = true ∧
        tier ∈ [Tier.thermalFast, Tier.fast] then
      s.sampler.probe.thermalAnswer (s.disc gpuIndex.toNat) answers.thermal
    else none

/-- The sensor of the index reads the sentinel. -/
def SentinelAt (temps : Temperatures) (index : Option (Fin 32)) : Prop :=
  ∃ idx ∈ index, temps idx = sentinelRaw

/-- The event reads no sentinel from the core or memory junction sensor. -/
def NoSentinel (e : TelemetryEvent) : Prop :=
  ∀ temps ∈ s.taken e, ¬ SentinelAt temps (s.subject e).2.coreIndex ∧
    ¬ SentinelAt temps (s.subject e).2.memjIndex

/-- A sentinel that the event reads leaves its field at 0. -/
def LeavesZero (e : TelemetryEvent) : Prop :=
  ∀ t, s.step e = some t → ∀ temps ∈ s.taken e,
    (SentinelAt temps (s.subject e).2.coreIndex → (t.snaps (s.subject e).1).coreC = 0) ∧
      (SentinelAt temps (s.subject e).2.memjIndex → (t.snaps (s.subject e).1).memjnC = 0)

end Telemetry

/-- In the run the sentinel is not published: no snapshot ever shows it, and a reading of
it leaves the field at 0. -/
def SentinelHidden (answers : ProbeAnswers) (drivers : ℕ → ThermalDriver)
    (events : List TelemetryEvent) : Prop :=
  Throughout Telemetry.step Telemetry.Clean (Telemetry.start answers drivers) events ∧
    Meets Telemetry.step Telemetry.LeavesZero (Telemetry.start answers drivers) events

/-! ## Steps -/

theorem degrees_eq_iff (raw : Int32) : degrees raw = 255 ↔ raw = sentinelRaw := by
  have wide : degrees raw = 255 ↔ raw.toInt = 65280 := by
    unfold degrees
    rw [div_eq_iff (by norm_num)]
    norm_num
    exact_mod_cast Iff.rfl
  rw [wide, ← Int32.toInt_inj]
  rfl

namespace Telemetry

/-- The two temperatures of the snapshot after an event: those it read, if any. -/
theorem thermals_step {s t : Telemetry} {e : TelemetryEvent} (stepped : s.step e = some t) :
    (∀ v, v ≠ (s.subject e).1 → t.snaps v = s.snaps v) ∧
      ((t.snaps (s.subject e).1).thermals = (0, 0) ∧ s.taken e = none ∨
        (t.snaps (s.subject e).1).thermals =
          (s.taken e).elim (s.snaps (s.subject e).1).thermals fun temps =>
            ((s.subject e).2.coreIndex.elim (s.snaps (s.subject e).1).coreC
                fun idx => degrees (temps idx),
              (s.subject e).2.memjIndex.elim (s.snaps (s.subject e).1).memjnC
                fun idx => degrees (temps idx))) := by
  cases e with
  | fresh v =>
    obtain rfl := Option.some.inj stepped
    refine ⟨fun other different => Function.update_of_ne different _ _, .inl ⟨?_, rfl⟩⟩
    simp only [subject, Function.update_self]
    rfl
  | sample v tier gpuIndex now answers =>
    obtain rfl := Option.some.inj stepped
    refine ⟨fun other different => Function.update_of_ne different _ _, .inr ?_⟩
    simp only [subject, Function.update_self]
    cases verdict : s.sampler.admitsCall (s.call v tier gpuIndex now answers) with
    | false =>
      rw [Sampler.sample_of_refused verdict, taken, verdict]
      rfl
    | true =>
      rw [(Sampler.sample_of_admitted verdict).2.1, taken, verdict]
      -- only the two tiers with a thermal query write the temperatures
      cases tier with
      | thermalFast => exact thermals_readThermalsUndoc _ _ _ _
      | fast => exact (thermals_readCommonMedium _ _ _ _).trans (thermals_readThermalsUndoc _ _ _ _)
      | medium => rfl
      | slow => exact thermals_readSlowData _ _ _ _
      | rare => exact thermals_readSlowData _ _ _ _

/-- A field that showed no sentinel shows one exactly when its sensor read it. -/
theorem elim_degrees_ne_iff {old : Double} (clean : old ≠ 255) (temps : Temperatures)
    (index : Option (Fin 32)) :
    (index.elim old fun idx => degrees (temps idx)) ≠ 255 ↔ ¬ SentinelAt temps index := by
  cases index with
  | none => simp [SentinelAt, clean]
  | some idx => simp [SentinelAt, degrees_eq_iff]

/-- A step from clean snapshots leaves them clean exactly when it reads no sentinel. -/
theorem clean_step_iff {s t : Telemetry} {e : TelemetryEvent} (clean : s.Clean)
    (stepped : s.step e = some t) : t.Clean ↔ s.NoSentinel e := by
  obtain ⟨others, subject⟩ := thermals_step stepped
  have own : t.Clean ↔ (t.snaps (s.subject e).1).coreC ≠ 255 ∧
      (t.snaps (s.subject e).1).memjnC ≠ 255 := by
    refine ⟨fun all => all _, fun here v => ?_⟩
    by_cases same : v = (s.subject e).1
    · exact same ▸ here
    · rw [others v same]
      exact clean v
  rw [own, NoSentinel]
  rcases subject with ⟨zero, idle⟩ | shown
  · obtain ⟨core, memjn⟩ := Prod.mk.inj zero
    rw [core, memjn, idle]
    simp
  · cases read : s.taken e with
    | none =>
      rw [read] at shown
      obtain ⟨core, memjn⟩ := Prod.mk.inj shown
      rw [core, memjn]
      exact iff_of_true (clean _) fun temps none => absurd none (Option.not_mem_none _)
    | some temps =>
      rw [read] at shown
      obtain ⟨core, memjn⟩ := Prod.mk.inj shown
      rw [core, memjn, elim_degrees_ne_iff (clean _).1, elim_degrees_ne_iff (clean _).2]
      refine ⟨fun unread other same => ?_, fun unread => unread temps rfl⟩
      obtain rfl := Option.some.inj same
      exact unread

theorem leavesZero_of_noSentinel {s : Telemetry} {e : TelemetryEvent} (none : s.NoSentinel e) :
    s.LeavesZero e := by
  intro t _ temps read
  obtain ⟨core, memjn⟩ := none temps read
  exact ⟨fun sentinel => absurd sentinel core, fun sentinel => absurd sentinel memjn⟩

theorem clean_start (answers : ProbeAnswers) (drivers : ℕ → ThermalDriver) :
    (start answers drivers).Clean := by
  intro v
  have unread : ((start answers drivers).snaps v).thermals = (0, 0) := rfl
  obtain ⟨core, memjn⟩ := Prod.mk.inj unread
  rw [core, memjn]
  norm_num

end Telemetry

/-- Every sample that reads a sentinel publishes it. -/
theorem throughout_clean_iff (answers : ProbeAnswers) (drivers : ℕ → ThermalDriver)
    (events : List TelemetryEvent) :
    Throughout Telemetry.step Telemetry.Clean (Telemetry.start answers drivers) events ↔
      Meets Telemetry.step Telemetry.NoSentinel (Telemetry.start answers drivers) events := by
  refine throughout_iff_meets (fun s e t clean stepped => Telemetry.clean_step_iff clean stepped)
    (fun s e idle => ?_) (Telemetry.clean_start answers drivers) events
  -- every event can be taken
  cases e <;> exact absurd idle (Option.some_ne_none _)

/-- **When the sentinel is not published**: exactly in the runs in which no accepted
thermal query of a sample returns it for the core or the memory junction sensor. -/
theorem sentinelHidden_iff (answers : ProbeAnswers) (drivers : ℕ → ThermalDriver)
    (events : List TelemetryEvent) :
    SentinelHidden answers drivers events ↔
      Meets Telemetry.step Telemetry.NoSentinel (Telemetry.start answers drivers) events := by
  constructor
  · rintro ⟨clean, -⟩
    exact (throughout_clean_iff answers drivers events).mp clean
  · intro unread
    refine ⟨(throughout_clean_iff answers drivers events).mpr unread, ?_⟩
    exact unread.mono fun s e => Telemetry.leavesZero_of_noSentinel

/-- A machine with one GPU, on which every library is found and NVML is not. -/
def oneGpuAnswers : ProbeAnswers where
  nvapi := ⟨some 1, true, true, true, true⟩
  found := fun _ => true
  nvml := ⟨none, fun _ => false, false⟩
  enumOk := true
  count := 1
  nvmlCount := none
  nvmlDevice := fun _ => none
  gpu := fun _ => ⟨⟨fun _ => false, false⟩, false, none⟩

/-- A driver whose core sensor is the only one. -/
def coreOnly (raw : Int32) : ThermalDriver := fun mask =>
  if hasSensor mask 1 then some fun _ => raw else none

/-- It reads 40 degrees at discovery and nothing valid 5 ms later. -/
def sentinelRead : TelemetryEvent :=
  .sample 0 .thermalFast 0 (ms 5)
    { thermal := coreOnly sentinelRaw
      medium := ⟨none, none, none, none, none, none, none, none, none, none⟩
      power := ⟨none, none⟩
      fans := none
      slow := ⟨none, none, none, none, none, none, none, none, none⟩ }

theorem sentinel_not_always_hidden :
    ¬ ∀ answers drivers events, SentinelHidden answers drivers events := by
  intro always
  have clean := (always oneGpuAnswers (fun _ => coreOnly 10240) [sentinelRead]).1
  obtain ⟨unread, -⟩ := (throughout_clean_iff _ _ _).mp clean
  have read : (Telemetry.start oneGpuAnswers fun _ => coreOnly 10240).taken sentinelRead =
      some fun _ => sentinelRaw := rfl
  exact (unread _ read).1 ⟨1, rfl, rfl⟩

end CapacityAgent

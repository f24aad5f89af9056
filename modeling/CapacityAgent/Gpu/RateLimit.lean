/-
# The limiters of a probe

Every GPU has a timestamp for each of the five tiers. A sample reads the clock once,
asks the tier's limiter, and polls only when it is accepted. The timestamps are those
of a keyed rate limiter, so its law holds of every sequence of calls.
-/

import CapacityAgent.Gpu.Lifecycle
import CapacityAgent.Gpu.Probe
import CapacityAgent.Library.RateLimiter
import Mathlib.Algebra.Order.Ring.Int

namespace CapacityAgent

open Traced RateLimiter

/-! ## Tiers -/

def kMinThermalFastInterval : ℤ := ms 5

def kMinMediumInterval : ℤ := ms 16

def kMinRareInterval : ℤ := ms 500

namespace Tier

/-- The interval a sample of the tier hands to `check_poll_rate`. -/
def minInterval : Tier → ℤ
  | .thermalFast => kMinThermalFastInterval
  | .fast => kMinFastInterval
  | .medium => kMinMediumInterval
  | .slow => kMinSlowInterval
  | .rare => kMinRareInterval

theorem minInterval_pos (tier : Tier) : 0 < tier.minInterval := by
  cases tier <;> decide

/-- What an accepted sample of the tier puts into the snapshot. -/
def poll (reads : DriverReads) (gpuIndex : ℤ) (snap : GpuSnapshot) : Tier → GpuSnapshot
  | .thermalFast => reads.pollThermalsUndoc { snap with gpuIndex := gpuIndex }
  | .fast => reads.pollCommonMedium (reads.pollThermalsUndoc { snap with gpuIndex := gpuIndex })
  | .medium => reads.pollPower (reads.pollCommonMedium snap)
  | .slow => reads.pollSlowData (reads.pollPower (reads.pollFans snap))
  | .rare => reads.pollSlowData snap

end Tier

/-- `last_poll`: the limiters of one GPU, at the clock's epoch before the first call. -/
structure TierPolls where
  thermalFast : TimePoint := 0
  fast : TimePoint := 0
  medium : TimePoint := 0
  slow : TimePoint := 0
  rare : TimePoint := 0
  deriving DecidableEq

namespace TierPolls

def get (last : TierPolls) : Tier → TimePoint
  | .thermalFast => last.thermalFast
  | .fast => last.fast
  | .medium => last.medium
  | .slow => last.slow
  | .rare => last.rare

def set (last : TierPolls) (tier : Tier) (now : TimePoint) : TierPolls :=
  match tier with
  | .thermalFast => { last with thermalFast := now }
  | .fast => { last with fast := now }
  | .medium => { last with medium := now }
  | .slow => { last with slow := now }
  | .rare => { last with rare := now }

theorem get_set (last : TierPolls) (tier other : Tier) (now : TimePoint) :
    (last.set tier now).get other = if other = tier then now else last.get other := by
  cases tier <;> cases other <;> rfl

theorem set_get (last : TierPolls) (tier : Tier) : last.set tier (last.get tier) = last := by
  cases tier <;> rfl

theorem get_initially (tier : Tier) : get {} tier = 0 := by
  cases tier <;> rfl

/-- The two limiters that the full mode uses. -/
def lastPoll (last : TierPolls) : LastPoll := ⟨last.fast, last.slow⟩

end TierPolls

/-! ## Calls -/

/-- A probe with the limiters of its GPUs. -/
structure Sampler where
  probe : GpuProbe
  lastPoll : List TierPolls
  length_eq : lastPoll.length = probe.gpus.length

/-- After `init`, which makes the contexts anew. -/
def Sampler.start (probe : GpuProbe) : Sampler where
  probe := probe
  lastPoll := List.replicate probe.gpus.length {}
  length_eq := List.length_replicate

/-- A call of a sample: what the caller passes, the clock and the driver's answers. -/
structure SampleCall where
  tier : Tier
  gpuIndex : ℤ
  snap : GpuSnapshot
  now : TimePoint
  reads : DriverReads

/-- What limits the call. -/
def SampleCall.key (call : SampleCall) : ℤ × Tier := (call.gpuIndex, call.tier)

/-- What a call returns, the snapshot it leaves and the limiters after it. -/
structure SampleResult where
  accepted : Bool
  snap : GpuSnapshot
  sampler : Sampler

namespace Sampler

/-- A sample of any tier: `sample_fast` and the others differ in the limiter, the
interval and the polls. -/
def sample (s : Sampler) (call : SampleCall) : Driver SampleResult :=
  if call.gpuIndex < 0 then pure ⟨false, call.snap, s⟩
  else
    match s.lastPoll[call.gpuIndex.toNat]? with
    | none => pure ⟨false, call.snap, s⟩
    | some last =>
      match checkPollRate (last.get call.tier) call.tier.minInterval call.now with
      | (false, _) => pure ⟨false, call.snap, s⟩
      | (true, polled) => do
        let accepted ← s.probe.sampleTier call.tier call.gpuIndex true
        return {
          accepted := accepted
          snap := call.tier.poll call.reads call.gpuIndex call.snap
          sampler := { s with
            lastPoll := s.lastPoll.set call.gpuIndex.toNat (last.set call.tier polled)
            length_eq := by rw [List.length_set, s.length_eq] } }

/-- The limiters after calls. -/
def after (s : Sampler) (calls : List SampleCall) : Sampler :=
  calls.foldl (fun s call => (s.sample call).value.sampler) s

/-- The calls with their results. -/
def history : Sampler → List SampleCall → List (Outcome (ℤ × Tier) TimePoint)
  | _, [] => []
  | s, call :: calls =>
    let result := (s.sample call).value
    ⟨call.key, call.now, result.accepted⟩ :: history result.sampler calls

end Sampler

/-- The index is one of the probe's GPUs. -/
def GpuProbe.InRange (p : GpuProbe) (gpuIndex : ℤ) : Prop :=
  0 ≤ gpuIndex ∧ gpuIndex < p.gpus.length

instance (p : GpuProbe) (gpuIndex : ℤ) : Decidable (p.InRange gpuIndex) :=
  inferInstanceAs (Decidable (_ ∧ _))

/-- The keys of the probe's limiters. -/
def GpuProbe.knows (p : GpuProbe) (key : ℤ × Tier) : Bool := decide (p.InRange key.1)

def keyInterval (key : ℤ × Tier) : ℤ := key.2.minInterval

/-! ## The limiters as one keyed limiter -/

namespace Sampler

/-- The timestamps by GPU index and tier. -/
def timestamps (s : Sampler) (key : ℤ × Tier) : TimePoint :=
  if key.1 < 0 then 0 else (s.lastPoll[key.1.toNat]?).elim 0 (TierPolls.get · key.2)

/-- The keyed limiter's verdict on a call. -/
def admitsCall (s : Sampler) (call : SampleCall) : Bool :=
  admits s.probe.knows keyInterval s.timestamps call.key call.now

theorem timestamps_start (p : GpuProbe) : (start p).timestamps = fun _ => 0 := by
  ext key
  unfold timestamps start
  by_cases negative : key.1 < 0
  · exact if_pos negative
  · rw [if_neg negative]
    by_cases listed : key.1.toNat < p.gpus.length
    · rw [List.getElem?_replicate, if_pos listed]
      exact TierPolls.get_initially key.2
    · rw [List.getElem?_replicate, if_neg listed]
      rfl

variable {s : Sampler} {call : SampleCall}

/-- A GPU of the probe has limiters. -/
theorem exists_lastPoll (inRange : s.probe.InRange call.gpuIndex) :
    ∃ last, s.lastPoll[call.gpuIndex.toNat]? = some last := by
  obtain ⟨nonneg, below⟩ := inRange
  have listed : call.gpuIndex.toNat < s.lastPoll.length := by
    rw [s.length_eq]
    omega
  exact ⟨_, List.getElem?_eq_getElem listed⟩

/-- The list of GPUs is as long as the list of limiters. -/
theorem inRange_of_lastPoll {last : TierPolls} (nonneg : ¬ call.gpuIndex < 0)
    (found : s.lastPoll[call.gpuIndex.toNat]? = some last) : s.probe.InRange call.gpuIndex := by
  obtain ⟨listed, -⟩ := List.getElem?_eq_some_iff.mp found
  rw [s.length_eq] at listed
  exact ⟨by omega, by omega⟩

theorem timestamps_key {last : TierPolls} (nonneg : ¬ call.gpuIndex < 0)
    (found : s.lastPoll[call.gpuIndex.toNat]? = some last) :
    s.timestamps call.key = last.get call.tier := by
  rw [timestamps, SampleCall.key, if_neg nonneg, found]
  rfl

theorem admitsCall_eq_true_iff :
    s.admitsCall call = true ↔
      s.probe.InRange call.gpuIndex ∧
        call.tier.minInterval ≤ call.now - s.timestamps call.key := by
  rw [admitsCall, admits_iff, GpuProbe.knows, decide_eq_true_iff]
  rfl

/-- A call that the keyed limiter refuses does nothing. -/
theorem sample_of_refused (refused : s.admitsCall call = false) :
    s.sample call = pure ⟨false, call.snap, s⟩ := by
  unfold sample
  by_cases negative : call.gpuIndex < 0
  · exact if_pos negative
  · rw [if_neg negative]
    cases found : s.lastPoll[call.gpuIndex.toNat]? with
    | none => rfl
    | some last =>
      -- the GPU is one of the probe's, so the refusal is the interval's
      have soon : call.now - last.get call.tier < call.tier.minInterval := by
        by_contra passed
        have admitted : s.admitsCall call = true := by
          rw [admitsCall_eq_true_iff, timestamps_key negative found]
          exact ⟨inRange_of_lastPoll negative found, not_lt.mp passed⟩
        exact absurd admitted (by rw [refused]; exact Bool.false_ne_true)
      simp only [checkPollRate, if_pos soon]

/-- A tier's sample of a GPU of the probe returns what its limiter says. -/
theorem sampleTier_value {p : GpuProbe} {gpuIndex : ℤ} (inRange : p.InRange gpuIndex) (tier : Tier)
    (accepted : Bool) : (p.sampleTier tier gpuIndex accepted).value = accepted := by
  obtain ⟨nonneg, below⟩ := inRange
  have polled : ∀ poll, (p.sample gpuIndex accepted poll).value = accepted := by
    intro poll
    unfold GpuProbe.sample
    rw [if_neg (by omega), List.getElem?_eq_getElem (by omega)]
    rfl
  cases tier <;> exact polled _

/-- A call that it admits is accepted, polls, and moves its own timestamp. -/
theorem sample_of_admitted (admitted : s.admitsCall call = true) :
    (s.sample call).value.accepted = true ∧
      (s.sample call).value.snap = call.tier.poll call.reads call.gpuIndex call.snap ∧
      (s.sample call).events = (s.probe.sampleTier call.tier call.gpuIndex true).events ∧
      (s.sample call).value.sampler.probe = s.probe ∧
      ∃ last, s.lastPoll[call.gpuIndex.toNat]? = some last ∧
        (s.sample call).value.sampler.lastPoll =
          s.lastPoll.set call.gpuIndex.toNat (last.set call.tier call.now) := by
  obtain ⟨inRange, passed⟩ := admitsCall_eq_true_iff.mp admitted
  obtain ⟨last, found⟩ := exists_lastPoll inRange
  have nonneg : ¬ call.gpuIndex < 0 := not_lt.mpr inRange.1
  rw [timestamps_key nonneg found] at passed
  have polled := checkPollRate_eq_of_accepts passed
  unfold sample
  simp only [if_neg nonneg, found, polled]
  refine ⟨sampleTier_value inRange call.tier true, rfl, ?_, rfl, last, rfl, rfl⟩
  exact List.append_nil _

theorem sample_accepted (s : Sampler) (call : SampleCall) :
    (s.sample call).value.accepted = s.admitsCall call := by
  cases verdict : s.admitsCall call with
  | true => exact (sample_of_admitted verdict).1
  | false => rw [sample_of_refused verdict]; rfl

theorem sample_probe (s : Sampler) (call : SampleCall) :
    (s.sample call).value.sampler.probe = s.probe := by
  cases verdict : s.admitsCall call with
  | true => exact (sample_of_admitted verdict).2.2.2.1
  | false => rw [sample_of_refused verdict]; rfl

/-- The timestamps move as the keyed limiter's. -/
theorem sample_timestamps (s : Sampler) (call : SampleCall) :
    (s.sample call).value.sampler.timestamps =
      RateLimiter.after s.probe.knows keyInterval s.timestamps call.key call.now := by
  cases verdict : s.admitsCall call with
  | false =>
    rw [sample_of_refused verdict, RateLimiter.after, ← admitsCall, verdict]
    rfl
  | true =>
    obtain ⟨-, -, -, -, last, found, lastPoll⟩ := sample_of_admitted verdict
    obtain ⟨nonneg, -⟩ := (admitsCall_eq_true_iff.mp verdict).1
    obtain ⟨listed, -⟩ := List.getElem?_eq_some_iff.mp found
    rw [RateLimiter.after, ← admitsCall, verdict, if_pos rfl]
    ext key
    obtain ⟨gpuIndex, tier⟩ := key
    unfold timestamps
    rw [lastPoll]
    by_cases sameKey : (gpuIndex, tier) = call.key
    · -- the limiter of the call
      rw [sameKey, Function.update_self, SampleCall.key, if_neg (not_lt.mpr nonneg),
        List.getElem?_set_self listed, Option.elim_some, TierPolls.get_set, if_pos rfl]
    · rw [Function.update_of_ne sameKey]
      by_cases negative : gpuIndex < 0
      · rw [if_pos negative, if_pos negative]
      · rw [if_neg negative, if_neg negative]
        by_cases sameGpu : gpuIndex = call.gpuIndex
        · -- another tier of the same GPU
          subst sameGpu
          have otherTier : tier ≠ call.tier := fun same => sameKey (by rw [same]; rfl)
          rw [List.getElem?_set_self listed, found, Option.elim_some, Option.elim_some,
            TierPolls.get_set, if_neg otherTier]
        · rw [List.getElem?_set_ne (by omega)]

/-- The calls as the keyed limiter sees them. -/
def keyed (calls : List SampleCall) : List ((ℤ × Tier) × TimePoint) :=
  calls.map fun call => (call.key, call.now)

theorem after_probe (s : Sampler) (calls : List SampleCall) : (s.after calls).probe = s.probe := by
  unfold after
  induction calls generalizing s with
  | nil => rfl
  | cons call rest ih => rw [List.foldl_cons, ih, sample_probe]

theorem after_timestamps (s : Sampler) (calls : List SampleCall) :
    (s.after calls).timestamps =
      afterAll s.probe.knows keyInterval s.timestamps (keyed calls) := by
  unfold after afterAll keyed
  induction calls generalizing s with
  | nil => rfl
  | cons call rest ih =>
    rw [List.foldl_cons, ih, sample_timestamps, sample_probe, List.map_cons, List.foldl_cons]

/-- The probe's history is the keyed limiter's. -/
theorem history_eq (s : Sampler) (calls : List SampleCall) :
    s.history calls = outcomes s.probe.knows keyInterval s.timestamps (keyed calls) := by
  induction calls generalizing s with
  | nil => rfl
  | cons call rest ih =>
    rw [history, ih, sample_timestamps, sample_probe, sample_accepted]
    rfl

end Sampler

/-! ## The full mode -/

section Full

variable {s : Sampler} {call : SampleCall} {last : TierPolls}

/-- A sample of a GPU of the probe, by its limiter's answer. -/
theorem sample_spec (nonneg : 0 ≤ call.gpuIndex)
    (found : s.lastPoll[call.gpuIndex.toNat]? = some last) :
    let polled := checkPollRate (last.get call.tier) call.tier.minInterval call.now
    let result := (s.sample call).value
    result.accepted = polled.1 ∧
      result.snap = (if polled.1 then call.tier.poll call.reads call.gpuIndex call.snap
        else call.snap) ∧
      result.sampler.lastPoll[call.gpuIndex.toNat]? = some (last.set call.tier polled.2) := by
  have inRange := Sampler.inRange_of_lastPoll (not_lt.mpr nonneg) found
  obtain ⟨listed, -⟩ := List.getElem?_eq_some_iff.mp found
  unfold Sampler.sample
  rw [if_neg (not_lt.mpr nonneg), found]
  rcases checkPollRate_cases (last.get call.tier) call.tier.minInterval call.now with
    refused | polled
  · simp only [refused]
    exact ⟨rfl, rfl, found.trans (congrArg some (last.set_get call.tier).symm)⟩
  · simp only [polled]
    exact ⟨Sampler.sampleTier_value inRange call.tier true, rfl, List.getElem?_set_self listed⟩

/-- The fast sample as `sample_all` uses it, with the two limiters of the full mode. -/
theorem sample_fast_eq (fast : call.tier = .fast) (nonneg : 0 ≤ call.gpuIndex)
    (found : s.lastPoll[call.gpuIndex.toNat]? = some last) :
    let full := sampleFast call.reads call.now last.lastPoll call.gpuIndex call.snap
    let result := (s.sample call).value
    result.accepted = full.1 ∧ result.snap = full.2.2 ∧
      (result.sampler.lastPoll[call.gpuIndex.toNat]?).map TierPolls.lastPoll = some full.2.1 := by
  obtain ⟨accepted, snap, lastPoll⟩ := sample_spec nonneg found
  intro full result
  have unfolded : full = sampleFast call.reads call.now last.lastPoll call.gpuIndex call.snap := rfl
  rw [accepted, snap, lastPoll, fast, unfolded, sampleFast]
  rcases checkPollRate_cases last.fast kMinFastInterval call.now with refused | polled
  · simp only [TierPolls.lastPoll, TierPolls.get, Tier.minInterval, refused]
    exact ⟨trivial, rfl, rfl⟩
  · simp only [TierPolls.lastPoll, TierPolls.get, Tier.minInterval, polled]
    exact ⟨trivial, rfl, rfl⟩

/-- The slow sample as `sample_all` uses it. -/
theorem sample_slow_eq (slow : call.tier = .slow) (nonneg : 0 ≤ call.gpuIndex)
    (found : s.lastPoll[call.gpuIndex.toNat]? = some last) :
    let full := sampleSlow call.reads call.now last.lastPoll call.snap
    let result := (s.sample call).value
    result.accepted = full.1 ∧ result.snap = full.2.2 ∧
      (result.sampler.lastPoll[call.gpuIndex.toNat]?).map TierPolls.lastPoll = some full.2.1 := by
  obtain ⟨accepted, snap, lastPoll⟩ := sample_spec nonneg found
  intro full result
  have unfolded : full = sampleSlow call.reads call.now last.lastPoll call.snap := rfl
  rw [accepted, snap, lastPoll, slow, unfolded, sampleSlow]
  rcases checkPollRate_cases last.slow kMinSlowInterval call.now with refused | polled
  · simp only [TierPolls.lastPoll, TierPolls.get, Tier.minInterval, refused]
    exact ⟨trivial, rfl, rfl⟩
  · simp only [TierPolls.lastPoll, TierPolls.get, Tier.minInterval, polled]
    exact ⟨trivial, rfl, rfl⟩

end Full

/-! ## The law -/

/-- The time of the last accepted call of a tier on a GPU, the clock's epoch if there
was none. -/
def lastAccepted (p : GpuProbe) (earlier : List SampleCall) (gpuIndex : ℤ) (tier : Tier) :
    TimePoint :=
  lastAdmitted 0 (gpuIndex, tier) ((Sampler.start p).history earlier)

/-- The calls of a probe are limited exactly, by GPU and tier. -/
structure ExactlyLimited (p : GpuProbe) (calls : List SampleCall) : Prop where
  /-- A call is accepted when its GPU exists and its tier's interval has passed since the
  last accepted call of the tier on the GPU. -/
  accepted : ∀ earlier call later, calls = earlier ++ call :: later →
    ((((Sampler.start p).after earlier).sample call).value.accepted = true ↔
      p.InRange call.gpuIndex ∧
        call.tier.minInterval ≤ call.now - lastAccepted p earlier call.gpuIndex call.tier)
  /-- Accepted calls of a tier on a GPU keep the interval. -/
  spaced : ∀ gpuIndex tier,
    (admittedOf (gpuIndex, tier) ((Sampler.start p).history calls)).Pairwise fun first second =>
      first.now + tier.minInterval ≤ second.now
  /-- The results for a tier and a GPU are those without the other calls. -/
  undelayed : ∀ gpuIndex tier,
    ((Sampler.start p).history calls).filter (·.key = (gpuIndex, tier)) =
      (Sampler.start p).history (calls.filter (·.key = (gpuIndex, tier)))
  /-- A refused call queries nothing and changes neither the snapshot nor a limiter. -/
  refused : ∀ earlier call later, calls = earlier ++ call :: later →
    let s := (Sampler.start p).after earlier
    (s.sample call).value.accepted = false →
      (s.sample call).events = [] ∧ (s.sample call).value.snap = call.snap ∧
        (s.sample call).value.sampler = s

/-- **Rate limiting is exact.** Every sequence of samples of a probe is limited by GPU
and tier. -/
theorem exactly_limited (p : GpuProbe) (calls : List SampleCall) : ExactlyLimited p calls := by
  have fresh := Sampler.timestamps_start p
  refine ⟨fun earlier call later _ => ?_, fun gpuIndex tier => ?_, fun gpuIndex tier => ?_,
    fun earlier call later _ => ?_⟩
  · rw [Sampler.sample_accepted, Sampler.admitsCall_eq_true_iff, Sampler.after_probe,
      Sampler.after_timestamps, fresh, afterAll_eq, lastAccepted, Sampler.history_eq, fresh]
    rfl
  -- the results for a key are the keyed limiter's, and so are its laws
  · rw [Sampler.history_eq]
    have nonneg : 0 ≤ keyInterval (gpuIndex, tier) := tier.minInterval_pos.le
    exact pairwise_admitted (gpuIndex, tier) nonneg _ _
  · rw [Sampler.history_eq, Sampler.history_eq, outcomes_filter _ _ _ rfl]
    refine congrArg _ ?_
    unfold Sampler.keyed
    rw [List.filter_map]
    rfl
  · intro s refused
    rw [Sampler.sample_accepted] at refused
    rw [Sampler.sample_of_refused refused]
    exact ⟨rfl, rfl, rfl⟩

end CapacityAgent

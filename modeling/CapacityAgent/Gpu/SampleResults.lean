/-
# What a positive sample means

The samples of the probe, of `GpuSensorReader` over it and of the C interface over the
reader. A sample is positive when the limiter of its tier accepts it; the results of the
queries are not looked at.
-/

import CapacityAgent.Gpu.Queries
import CapacityAgent.Gpu.Sentinel

namespace CapacityAgent

open Traced

/-! ## The probe -/

/-- What the sample of a tier meets: the clock, and the driver. -/
structure TierPoll where
  now : TimePoint
  answers : PollAnswers

namespace Sampler

/-- `GpuProbe::sample_fast` and the other four, with their queries. -/
def querySample (s : Sampler) (disc : ℕ → NvThermalDiscovery) (tier : Tier) (gpuIndex : ℤ)
    (poll : TierPoll) (snap : GpuSnapshot) : Querying SampleResult :=
  if gpuIndex < 0 then pure ⟨false, snap, s⟩
  else
    match s.probe.gpus[gpuIndex.toNat]?, s.lastPoll[gpuIndex.toNat]? with
    | some g, some last =>
      match checkPollRate (last.get tier) tier.minInterval poll.now with
      | (false, _) => pure ⟨false, snap, s⟩
      | (true, polled) => do
        let snap ← s.probe.queryTier g (disc gpuIndex.toNat) poll.answers gpuIndex snap tier
        return {
          accepted := true
          snap := snap
          sampler := { s with
            lastPoll := s.lastPoll.set gpuIndex.toNat (last.set tier polled)
            length_eq := by rw [List.length_set, s.length_eq] } }
    | _, _ => pure ⟨false, snap, s⟩

end Sampler

/-! ## The reader -/

inductive GpuSampleMode
  | thermalFast
  | fast
  | medium
  | slow
  | rare
  | full
  deriving DecidableEq

/-- `GpuSensorReader`: its probe with the limiters, and what discovery found. -/
structure GpuSensorReader where
  sampler : Sampler
  disc : ℕ → NvThermalDiscovery
  initialized : Bool

namespace GpuSensorReader

variable (r : GpuSensorReader)

/-- `sample_with_mode`. -/
def sampleWithMode (gpuIndex : ℤ) (mode : GpuSampleMode) (polls : Tier → TierPoll)
    (snap : GpuSnapshot) : Querying SampleResult :=
  let snap := { snap with gpuIndex := gpuIndex }
  match mode with
  | .thermalFast => r.sampler.querySample r.disc .thermalFast gpuIndex (polls .thermalFast) snap
  | .fast => r.sampler.querySample r.disc .fast gpuIndex (polls .fast) snap
  | .medium => r.sampler.querySample r.disc .medium gpuIndex (polls .medium) snap
  | .slow => r.sampler.querySample r.disc .slow gpuIndex (polls .slow) snap
  | .rare => r.sampler.querySample r.disc .rare gpuIndex (polls .rare) snap
  | .full => do
    let a ← r.sampler.querySample r.disc .fast gpuIndex (polls .fast) snap
    let b ← a.sampler.querySample r.disc .slow gpuIndex (polls .slow) a.snap
    return { b with accepted := a.accepted || b.accepted }

/-- `GpuSensorReader::sample`, which clears the snapshot first. -/
def sample (gpuIndex : ℤ) (mode : GpuSampleMode) (polls : Tier → TierPoll) :
    Querying SampleResult :=
  if !r.initialized || !(decide (r.sampler.probe.InRange gpuIndex)) then
    pure ⟨false, {}, r.sampler⟩
  else r.sampleWithMode gpuIndex mode polls {}

end GpuSensorReader

/-! ## The C interface -/

/-- `to_sample_mode`. -/
def toSampleMode (mode : ℤ) : Option GpuSampleMode :=
  if mode = 0 then some .thermalFast
  else if mode = 1 then some .fast
  else if mode = 2 then some .medium
  else if mode = 3 then some .slow
  else if mode = 4 then some .rare
  else if mode = 5 then some .full
  else none

/-- A snapshot whose memory is zero. -/
def zeroSnapshot : GpuSnapshot :=
  { pstate := 0, utilGpuPct := 0, utilFbPct := 0, utilVidPct := 0 }

/-- The result of the C function, and the caller's snapshot if there is one. -/
structure CSampleResult where
  result : ℤ
  outSnapshot : Option GpuSnapshot

/-- `gpu_telemetry_reader_sample`, of a reader and into a snapshot that may be null. -/
def gpuTelemetryReaderSample (reader : Option GpuSensorReader) (gpuIndex : ℤ) (mode : ℤ)
    (outSnapshot : Option GpuSnapshot) (polls : Tier → TierPoll) : Querying CSampleResult :=
  if outSnapshot.isNone then pure ⟨0, none⟩
  else
    match reader with
    | none => pure ⟨0, some zeroSnapshot⟩
    | some r =>
      match toSampleMode mode with
      | none => pure ⟨0, some zeroSnapshot⟩
      | some mode => do
        let sampled ← r.sample gpuIndex mode polls
        return if sampled.accepted then ⟨1, some sampled.snap⟩ else ⟨0, some zeroSnapshot⟩

/-! ## Acceptance and answers -/

namespace Sampler

variable (s : Sampler) (disc : ℕ → NvThermalDiscovery) (tier : Tier) (gpuIndex : ℤ)
  (poll : TierPoll) (snap : GpuSnapshot)

/-- The GPU is one of the probe's and the interval of the tier has passed. -/
def Accepts (now : TimePoint) : Prop :=
  s.probe.InRange gpuIndex ∧ tier.minInterval ≤ now - s.timestamps (gpuIndex, tier)

/-- The driver answers a query of the tier, of those that are made. -/
def Answers : Prop :=
  ∃ g, s.probe.gpus[gpuIndex.toNat]? = some g ∧
    ∃ q ∈ s.probe.tierQueries g (disc gpuIndex.toNat) poll.answers tier,
      q.made = true ∧ q.query.succeeded = true

/-- The call as the limiters see it. -/
def callOf : SampleCall where
  tier := tier
  gpuIndex := gpuIndex
  snap := snap
  now := poll.now
  reads :=
    let g := s.probe.gpus.getD gpuIndex.toNat ⟨none, false, 0⟩
    s.probe.reads g (disc gpuIndex.toNat) poll.answers

theorem admitsCall_callOf :
    s.admitsCall (s.callOf disc tier gpuIndex poll snap) = true ↔
      s.Accepts tier gpuIndex poll.now := admitsCall_eq_true_iff

variable {s disc tier gpuIndex poll snap}

/-- A refused sample makes no query. -/
theorem querySample_of_refused (refused : ¬ s.Accepts tier gpuIndex poll.now) :
    s.querySample disc tier gpuIndex poll snap = pure ⟨false, snap, s⟩ := by
  unfold querySample
  by_cases negative : gpuIndex < 0
  · exact if_pos negative
  · rw [if_neg negative]
    cases contexts : s.probe.gpus[gpuIndex.toNat]? with
    | none => rfl
    | some g =>
      cases found : s.lastPoll[gpuIndex.toNat]? with
      | none => rfl
      | some last =>
        -- the GPU is one of the probe's, so the refusal is the interval's
        have inRange : s.probe.InRange (s.callOf disc tier gpuIndex poll snap).gpuIndex :=
          inRange_of_lastPoll negative found
        have soon : poll.now - last.get tier < tier.minInterval := by
          by_contra passed
          refine refused ⟨inRange, ?_⟩
          rw [timestamps, if_neg negative, found]
          exact not_lt.mp passed
        simp only [checkPollRate, if_pos soon]

/-- What an accepted call finds. -/
theorem exists_of_accepts {now : TimePoint} (accepted : s.Accepts tier gpuIndex now) :
    ¬ gpuIndex < 0 ∧ ∃ g last, s.probe.gpus[gpuIndex.toNat]? = some g ∧
      s.lastPoll[gpuIndex.toNat]? = some last ∧
      checkPollRate (last.get tier) tier.minInterval now = (true, now) := by
  obtain ⟨⟨nonneg, below⟩, passed⟩ := accepted
  have listed : gpuIndex.toNat < s.probe.gpus.length := by omega
  have limited : gpuIndex.toNat < s.lastPoll.length := by rwa [s.length_eq]
  have found := List.getElem?_eq_getElem limited
  rw [timestamps, if_neg (not_lt.mpr nonneg), found] at passed
  exact ⟨not_lt.mpr nonneg, _, _, List.getElem?_eq_getElem listed, found,
    checkPollRate_eq_of_accepts passed⟩

variable (disc snap) in
/-- An accepted sample makes the queries of its tier, and is positive whatever they
return. -/
theorem querySample_of_accepted (accepted : s.Accepts tier gpuIndex poll.now) :
    ∃ g, s.probe.gpus[gpuIndex.toNat]? = some g ∧
      (s.querySample disc tier gpuIndex poll snap).events =
        GpuProbe.madeOf (s.probe.tierQueries g (disc gpuIndex.toNat) poll.answers tier) ∧
      (s.querySample disc tier gpuIndex poll snap).value.accepted = true ∧
      (s.querySample disc tier gpuIndex poll snap).value.snap =
        tier.poll (s.probe.reads g (disc gpuIndex.toNat) poll.answers) gpuIndex snap := by
  obtain ⟨nonneg, g, last, contexts, found, polled⟩ := exists_of_accepts accepted
  refine ⟨g, contexts, ?_⟩
  unfold querySample
  simp only [if_neg nonneg, contexts, found, polled, value_bind, value_pure, events_bind,
    events_pure, List.append_nil, GpuProbe.queryTier_value, GpuProbe.queryTier_events, and_self]

/-- What a sample leaves is what the limiters make of the call. -/
theorem querySample_value :
    (s.querySample disc tier gpuIndex poll snap).value =
      (s.sample (s.callOf disc tier gpuIndex poll snap)).value := by
  by_cases accepted : s.Accepts tier gpuIndex poll.now
  · obtain ⟨nonneg, g, last, contexts, found, polled⟩ := exists_of_accepts accepted
    have ownContext : s.probe.gpus.getD gpuIndex.toNat ⟨none, false, 0⟩ = g := by
      rw [List.getD_eq_getElem?_getD, contexts]
      rfl
    have taken := GpuProbe.queryTier_value s.probe g (disc gpuIndex.toNat) snap poll.answers
      gpuIndex tier
    unfold querySample sample callOf
    simp only [if_neg nonneg, contexts, found, polled, value_bind, value_pure, taken, ownContext,
      sampleTier_value accepted.1]
  · rw [querySample_of_refused accepted, sample_of_refused]
    · rfl
    · exact Bool.eq_false_iff.mpr fun admitted =>
        accepted ((admitsCall_callOf s disc tier gpuIndex poll snap).mp admitted)

theorem querySample_accepted_iff :
    (s.querySample disc tier gpuIndex poll snap).value.accepted = true ↔
      s.Accepts tier gpuIndex poll.now := by
  rw [querySample_value, sample_accepted, admitsCall_callOf]

theorem mem_madeOf {queries : List GpuProbe.TierQuery} {query : DriverQuery} :
    query ∈ GpuProbe.madeOf queries ↔ ∃ q ∈ queries, q.made = true ∧ q.query = query := by
  rw [GpuProbe.madeOf, List.mem_map]
  simp only [List.mem_filter, and_assoc]

/-- A query of a sample succeeds when the sample is accepted and the driver answers. -/
theorem exists_succeeded_iff :
    (∃ query ∈ (s.querySample disc tier gpuIndex poll snap).events, query.succeeded = true) ↔
      s.Accepts tier gpuIndex poll.now ∧ s.Answers disc tier gpuIndex poll := by
  by_cases accepted : s.Accepts tier gpuIndex poll.now
  · obtain ⟨g, contexts, events, -⟩ := querySample_of_accepted disc snap accepted
    rw [events]
    constructor
    · rintro ⟨query, member, succeeded⟩
      obtain ⟨q, listed, made, rfl⟩ := mem_madeOf.mp member
      exact ⟨accepted, g, contexts, q, listed, made, succeeded⟩
    · rintro ⟨-, other, contexts', q, listed, made, succeeded⟩
      obtain rfl := Option.some.inj (contexts.symm.trans contexts')
      exact ⟨q.query, mem_madeOf.mpr ⟨q, listed, made, rfl⟩, succeeded⟩
  · rw [querySample_of_refused accepted]
    simp [accepted]

/-- A sample leaves the limiters of the other tiers. -/
theorem accepts_querySample_iff {other : Tier} (different : other ≠ tier) (now : TimePoint) :
    (s.querySample disc tier gpuIndex poll snap).value.sampler.Accepts other gpuIndex now ↔
      s.Accepts other gpuIndex now := by
  unfold Accepts
  rw [querySample_value, sample_probe, sample_timestamps, RateLimiter.after]
  have otherKey : (gpuIndex, other) ≠ (s.callOf disc tier gpuIndex poll snap).key :=
    fun same => different (Prod.mk.inj same).2
  split
  · rw [Function.update_of_ne otherKey]
  · rfl

/-- It leaves what the tiers ask. -/
theorem answers_querySample_iff (other : Tier) (otherPoll : TierPoll) :
    (s.querySample disc tier gpuIndex poll snap).value.sampler.Answers disc other gpuIndex
        otherPoll ↔ s.Answers disc other gpuIndex otherPoll := by
  unfold Answers
  rw [querySample_value, sample_probe]

/-- A sample that no query answers leaves the snapshot, whether it is accepted or not. -/
theorem querySample_snap_of_unanswered (unanswered : ¬ s.Answers disc tier gpuIndex poll)
    (indexed : snap.gpuIndex = gpuIndex) :
    (s.querySample disc tier gpuIndex poll snap).value.snap = snap := by
  by_cases accepted : s.Accepts tier gpuIndex poll.now
  · obtain ⟨g, contexts, -, -, polled⟩ :=
      querySample_of_accepted disc snap accepted
    have silent : GpuProbe.Silent
        (s.probe.tierQueries g (disc gpuIndex.toNat) poll.answers tier) := by
      intro q listed made
      refine Bool.eq_false_iff.mpr fun succeeded => unanswered ?_
      exact ⟨g, contexts, q, listed, made, succeeded⟩
    rw [polled, GpuProbe.poll_of_silent silent gpuIndex indexed]
  · rw [querySample_of_refused accepted]
    rfl

end Sampler

/-! ## Requests -/

/-- The tiers of a mode, in the order they are sampled. -/
def GpuSampleMode.tiers : GpuSampleMode → List Tier
  | .thermalFast => [.thermalFast]
  | .fast => [.fast]
  | .medium => [.medium]
  | .slow => [.slow]
  | .rare => [.rare]
  | .full => [.fast, .slow]

/-- A request for a sample, of one of the three interfaces. A caller of the C interface
may pass null for the reader and for the snapshot. -/
inductive SampleRequest
  | probe (tier : Tier) (snap : GpuSnapshot)
  | reader (mode : GpuSampleMode)
  | c (hasReader : Bool) (mode : ℤ) (outSnapshot : Option GpuSnapshot)

namespace GpuSensorReader

variable (r : GpuSensorReader) (gpuIndex : ℤ) (polls : Tier → TierPoll)

/-- Whether the answer to a request is positive. -/
def positive : SampleRequest → Querying Bool
  | .probe tier snap => do
    let sampled ← r.sampler.querySample r.disc tier gpuIndex (polls tier) snap
    return sampled.accepted
  | .reader mode => do
    let sampled ← r.sample gpuIndex mode polls
    return sampled.accepted
  | .c hasReader mode outSnapshot => do
    let reader := if hasReader then some r else none
    let sampled ← gpuTelemetryReaderSample reader gpuIndex mode outSnapshot polls
    return sampled.result == 1

/-- The tiers that a request samples. -/
def tiersOf : SampleRequest → List Tier
  | .probe tier _ => [tier]
  | .reader mode => if r.initialized then mode.tiers else []
  | .c hasReader mode outSnapshot =>
    if hasReader && outSnapshot.isSome && r.initialized then
      (toSampleMode mode).elim [] GpuSampleMode.tiers
    else []

/-- The limiters refuse every tier of the request. -/
def Refused (request : SampleRequest) : Prop :=
  ∀ tier ∈ r.tiersOf request, ¬ r.sampler.Accepts tier gpuIndex (polls tier).now

/-- The driver answers one of the queries that the request makes. -/
def Answered (request : SampleRequest) : Prop :=
  ∃ tier ∈ r.tiersOf request, r.sampler.Accepts tier gpuIndex (polls tier).now ∧
    r.sampler.Answers r.disc tier gpuIndex (polls tier)

/-- A positive answer means that a query of the request succeeded. -/
def PositiveMeansFresh (request : SampleRequest) : Prop :=
  (r.positive gpuIndex polls request).value = true →
    ∃ query ∈ (r.positive gpuIndex polls request).events, query.succeeded = true

end GpuSensorReader

/-! ## Through the interfaces -/

namespace GpuSensorReader

variable (r : GpuSensorReader) (gpuIndex : ℤ) (polls : Tier → TierPoll)

/-- A program of samples of some tiers: its result is positive when a limiter accepts,
and a query of it succeeds when the driver answers an accepted tier. -/
structure Samples (tiers : List Tier) (accepted : Bool) (events : List DriverQuery) : Prop where
  accepted_iff : accepted = true ↔
    ∃ tier ∈ tiers, r.sampler.Accepts tier gpuIndex (polls tier).now
  succeeded_iff : (∃ query ∈ events, query.succeeded = true) ↔
    ∃ tier ∈ tiers, r.sampler.Accepts tier gpuIndex (polls tier).now ∧
      r.sampler.Answers r.disc tier gpuIndex (polls tier)

variable {r gpuIndex polls}

theorem samples_none : Samples r gpuIndex polls [] false [] where
  accepted_iff := by simp
  succeeded_iff := by simp

theorem Samples.append {first second : List Tier} {accepted accepted' : Bool}
    {events events' : List DriverQuery} (before : Samples r gpuIndex polls first accepted events)
    (after : Samples r gpuIndex polls second accepted' events') :
    Samples r gpuIndex polls (first ++ second) (accepted || accepted') (events ++ events') where
  accepted_iff := by
    rw [Bool.or_eq_true, before.accepted_iff, after.accepted_iff]
    simp only [List.mem_append, or_and_right, exists_or]
  succeeded_iff := by
    simp only [List.mem_append, or_and_right, exists_or]
    exact or_congr before.succeeded_iff after.succeeded_iff

theorem samples_tier (tier : Tier) (snap : GpuSnapshot) :
    let sampled := r.sampler.querySample r.disc tier gpuIndex (polls tier) snap
    Samples r gpuIndex polls [tier] sampled.value.accepted sampled.events where
  accepted_iff := by simpa using Sampler.querySample_accepted_iff
  succeeded_iff := by simpa using Sampler.exists_succeeded_iff

/-- A tier that is sampled after another one: its limiter saw nothing of that. -/
theorem samples_later {earlier tier : Tier} (different : tier ≠ earlier)
    (snap snap' : GpuSnapshot) :
    let before := r.sampler.querySample r.disc earlier gpuIndex (polls earlier) snap
    let sampled := before.value.sampler.querySample r.disc tier gpuIndex (polls tier) snap'
    Samples r gpuIndex polls [tier] sampled.value.accepted sampled.events := by
  intro before sampled
  have accepts : before.value.sampler.Accepts tier gpuIndex (polls tier).now ↔
      r.sampler.Accepts tier gpuIndex (polls tier).now :=
    Sampler.accepts_querySample_iff different _
  have answers : before.value.sampler.Answers r.disc tier gpuIndex (polls tier) ↔
      r.sampler.Answers r.disc tier gpuIndex (polls tier) :=
    Sampler.answers_querySample_iff _ _
  have accepted_iff : sampled.value.accepted = true ↔ _ :=
    Sampler.querySample_accepted_iff.trans accepts
  have succeeded_iff : (∃ query ∈ sampled.events, query.succeeded = true) ↔ _ :=
    Sampler.exists_succeeded_iff.trans (and_congr accepts answers)
  exact ⟨by simpa using accepted_iff, by simpa using succeeded_iff⟩

/-- The full mode. -/
theorem samples_full (snap : GpuSnapshot) :
    let sampled := r.sampleWithMode gpuIndex .full polls snap
    Samples r gpuIndex polls [.fast, .slow] sampled.value.accepted sampled.events := by
  intro sampled
  let a := r.sampler.querySample r.disc .fast gpuIndex (polls .fast)
    { snap with gpuIndex := gpuIndex }
  let b := a.value.sampler.querySample r.disc .slow gpuIndex (polls .slow) a.value.snap
  have fast : Samples r gpuIndex polls [.fast] a.value.accepted a.events := samples_tier ..
  have slow : Samples r gpuIndex polls [.slow] b.value.accepted b.events :=
    samples_later (by decide) ..
  have events : sampled.events = a.events ++ b.events := by
    change a.events ++ (b.events ++ []) = _
    rw [List.append_nil]
  rw [events]
  exact fast.append slow

theorem samples_mode (mode : GpuSampleMode) (snap : GpuSnapshot) :
    let sampled := r.sampleWithMode gpuIndex mode polls snap
    Samples r gpuIndex polls mode.tiers sampled.value.accepted sampled.events := by
  cases mode with
  | thermalFast => exact samples_tier _ _
  | fast => exact samples_tier _ _
  | medium => exact samples_tier _ _
  | slow => exact samples_tier _ _
  | rare => exact samples_tier _ _
  | full => exact samples_full snap

/-- An index that is out of range is refused by every limiter too. -/
theorem samples_sample (mode : GpuSampleMode) :
    let sampled := r.sample gpuIndex mode polls
    Samples r gpuIndex polls (if r.initialized then mode.tiers else []) sampled.value.accepted
      sampled.events := by
  intro sampled
  cases initialized : r.initialized with
  | false =>
    have refused : sampled = pure ⟨false, {}, r.sampler⟩ := by
      simp only [sampled, sample, initialized, Bool.not_false, Bool.true_or, if_true]
    rw [refused]
    exact samples_none
  | true =>
    by_cases inRange : r.sampler.probe.InRange gpuIndex
    · have taken : sampled = r.sampleWithMode gpuIndex mode polls {} := by
        simp [sampled, sample, initialized, inRange]
      rw [taken]
      exact samples_mode mode {}
    · have refused : sampled = pure ⟨false, {}, r.sampler⟩ := by
        simp [sampled, sample, initialized, inRange]
      rw [refused]
      have unaccepted : ∀ tier now, ¬ r.sampler.Accepts tier gpuIndex now :=
        fun _ _ accepted => inRange accepted.1
      exact ⟨by simp [unaccepted], by simp [unaccepted]⟩

/-- The C function passes the result on. -/
theorem gpuTelemetryReaderSample_of_mode {mode : ℤ} {sampleMode : GpuSampleMode}
    (known : toSampleMode mode = some sampleMode) (snap : GpuSnapshot) :
    let sampled := gpuTelemetryReaderSample (some r) gpuIndex mode (some snap) polls
    (sampled.value.result == 1) = (r.sample gpuIndex sampleMode polls).value.accepted ∧
      sampled.events = (r.sample gpuIndex sampleMode polls).events := by
  intro sampled
  have unfolded : sampled = gpuTelemetryReaderSample (some r) gpuIndex mode (some snap) polls := rfl
  rw [unfolded, gpuTelemetryReaderSample, Option.isNone_some, if_neg Bool.false_ne_true]
  simp only [known, value_bind, events_bind]
  cases (r.sample gpuIndex sampleMode polls).value.accepted
  · exact ⟨rfl, List.append_nil _⟩
  · exact ⟨rfl, List.append_nil _⟩

theorem samples_c (hasReader : Bool) (mode : ℤ) (outSnapshot : Option GpuSnapshot) :
    let sampled := r.positive gpuIndex polls (.c hasReader mode outSnapshot)
    Samples r gpuIndex polls (r.tiersOf (.c hasReader mode outSnapshot)) sampled.value
      sampled.events := by
  cases outSnapshot with
  | none => cases hasReader <;> exact samples_none
  | some snap =>
    cases hasReader with
    | false => exact samples_none
    | true =>
      cases known : toSampleMode mode with
      | none =>
        have refused : gpuTelemetryReaderSample (some r) gpuIndex mode (some snap) polls =
            pure ⟨0, some zeroSnapshot⟩ := by
          rw [gpuTelemetryReaderSample, Option.isNone_some, if_neg Bool.false_ne_true]
          simp only [known]
        have nothing : r.tiersOf (.c true mode (some snap)) = [] := by
          simp [tiersOf, known]
        rw [nothing, positive, if_pos rfl, refused]
        exact samples_none
      | some sampleMode =>
        let sampled := gpuTelemetryReaderSample (some r) gpuIndex mode (some snap) polls
        have passedOn : (sampled.value.result == 1) =
            (r.sample gpuIndex sampleMode polls).value.accepted ∧
              sampled.events = (r.sample gpuIndex sampleMode polls).events :=
          gpuTelemetryReaderSample_of_mode known snap
        have tiers : r.tiersOf (.c true mode (some snap)) =
            if r.initialized then sampleMode.tiers else [] := by
          simp [tiersOf, known]
        change Samples r gpuIndex polls _ (sampled.value.result == 1) (sampled.events ++ [])
        rw [tiers, List.append_nil, passedOn.1, passedOn.2]
        exact samples_sample sampleMode

variable (r gpuIndex polls) in
/-- Every request is a program of samples of its tiers. -/
theorem samples_positive (request : SampleRequest) :
    Samples r gpuIndex polls (r.tiersOf request) (r.positive gpuIndex polls request).value
      (r.positive gpuIndex polls request).events := by
  cases request with
  | probe tier snap =>
    rw [positive, value_bind, events_bind, events_pure, List.append_nil]
    exact samples_tier tier snap
  | reader mode =>
    rw [positive, value_bind, events_bind, events_pure, List.append_nil]
    exact samples_sample mode
  | c hasReader mode outSnapshot => exact samples_c hasReader mode outSnapshot

/-- Where the driver answers no query of its tiers, a mode leaves the snapshot as it was
cleared, with the index of the GPU. -/
theorem sampleWithMode_snap_of_unanswered {mode : GpuSampleMode}
    (unanswered : ∀ tier ∈ mode.tiers, ¬ r.sampler.Answers r.disc tier gpuIndex (polls tier))
    (snap : GpuSnapshot) :
    (r.sampleWithMode gpuIndex mode polls snap).value.snap =
      { snap with gpuIndex := gpuIndex } := by
  have single : ∀ tier, ¬ r.sampler.Answers r.disc tier gpuIndex (polls tier) →
      (r.sampler.querySample r.disc tier gpuIndex (polls tier)
        { snap with gpuIndex := gpuIndex }).value.snap = { snap with gpuIndex := gpuIndex } :=
    fun tier none => Sampler.querySample_snap_of_unanswered none rfl
  cases mode with
  | thermalFast => exact single _ (unanswered _ (List.mem_singleton_self _))
  | fast => exact single _ (unanswered _ (List.mem_singleton_self _))
  | medium => exact single _ (unanswered _ (List.mem_singleton_self _))
  | slow => exact single _ (unanswered _ (List.mem_singleton_self _))
  | rare => exact single _ (unanswered _ (List.mem_singleton_self _))
  | full =>
    have fast := single .fast (unanswered _ (by simp [GpuSampleMode.tiers]))
    have slow := unanswered .slow (by simp [GpuSampleMode.tiers])
    -- the slow sample starts from the snapshot of the fast one, which is the cleared one
    refine (Sampler.querySample_snap_of_unanswered ?_ ?_).trans fast
    · rwa [Sampler.answers_querySample_iff]
    · rw [fast]

/-- **When a positive sample means fresh data**: when the limiters refuse the request, or
the driver answers one of the queries of an accepted tier. -/
theorem positiveMeansFresh_iff (r : GpuSensorReader) (gpuIndex : ℤ) (polls : Tier → TierPoll)
    (request : SampleRequest) :
    r.PositiveMeansFresh gpuIndex polls request ↔
      r.Refused gpuIndex polls request ∨ r.Answered gpuIndex polls request := by
  obtain ⟨accepted_iff, succeeded_iff⟩ := samples_positive r gpuIndex polls request
  unfold PositiveMeansFresh Refused Answered
  rw [succeeded_iff, accepted_iff, imp_iff_not_or]
  push Not
  rfl

end GpuSensorReader

/-- A reader on a machine with one GPU. -/
def oneGpuReader : GpuSensorReader where
  sampler := (Telemetry.start oneGpuAnswers fun _ => coreOnly 10240).sampler
  disc := (Telemetry.start oneGpuAnswers fun _ => coreOnly 10240).disc
  initialized := true

/-- Half a second later the GPU is lost: every query fails. -/
def lostGpu : TierPoll where
  now := ms 500
  answers :=
    { thermal := fun _ => none
      medium := ⟨none, none, none, none, none, none, none, none, none, none⟩
      power := ⟨none, none⟩
      fans := none
      slow := ⟨none, none, none, none, none, none, none, none, none⟩ }

theorem positive_not_always_fresh :
    ¬ ∀ (r : GpuSensorReader) (gpuIndex : ℤ) (polls : Tier → TierPoll) (request : SampleRequest),
      r.PositiveMeansFresh gpuIndex polls request := by
  intro always
  have fresh := always oneGpuReader 0 (fun _ => lostGpu) (.c true 5 (some {}))
  have failed : ∀ query ∈ (oneGpuReader.positive 0 (fun _ => lostGpu) (.c true 5 (some {}))).events,
      query.succeeded = false := by decide +kernel
  obtain ⟨query, made, succeeded⟩ := fresh (by decide +kernel)
  exact absurd succeeded (by rw [failed query made]; exact Bool.false_ne_true)

end CapacityAgent

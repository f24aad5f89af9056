/-
# Sampling the driver

The tiers of `GpuProbe` that a full sample uses, and `GpuSensorReader::sample_all`.
Every tier of every GPU has its own limiter: a call that comes too soon after the
last accepted one reads nothing and leaves the snapshot as it is. What the driver
answers and how long it takes are inputs.
-/

import CapacityAgent.Gpu.Snapshot

namespace CapacityAgent

/-- A `steady_clock` time point, in nanoseconds since the clock's epoch. -/
abbrev TimePoint := ℤ

/-- Milliseconds as nanoseconds. -/
def ms (n : ℤ) : ℤ := n * 1000000

def kMinFastInterval : ℤ := ms 16

def kMinSlowInterval : ℤ := ms 100

/-- `check_poll_rate`: whether the call is accepted, and the limiter afterwards. -/
def checkPollRate (last : TimePoint) (minInterval : ℤ) (now : TimePoint) : Bool × TimePoint :=
  if now - last < minInterval then (false, last) else (true, now)

/-- The limiters of one GPU, at the clock's epoch before the first call. -/
structure LastPoll where
  fast : TimePoint := 0
  slow : TimePoint := 0
  deriving DecidableEq

/-- What the polling helpers put into a snapshot. -/
structure DriverReads where
  pollThermalsUndoc : GpuSnapshot → GpuSnapshot
  pollCommonMedium : GpuSnapshot → GpuSnapshot
  pollFans : GpuSnapshot → GpuSnapshot
  pollPower : GpuSnapshot → GpuSnapshot
  pollSlowData : GpuSnapshot → GpuSnapshot

/-- `GpuProbe::sample_fast` of an enumerated GPU. -/
def sampleFast (reads : DriverReads) (now : TimePoint) (last : LastPoll) (gpuIndex : ℤ)
    (snap : GpuSnapshot) : Bool × LastPoll × GpuSnapshot :=
  match checkPollRate last.fast kMinFastInterval now with
  -- too soon: nothing is read and the limiter keeps its time
  | (false, _) => (false, last, snap)
  | (true, polled) =>
    (true, { last with fast := polled },
      reads.pollCommonMedium (reads.pollThermalsUndoc { snap with gpuIndex := gpuIndex }))

/-- `GpuProbe::sample_slow` of an enumerated GPU. -/
def sampleSlow (reads : DriverReads) (now : TimePoint) (last : LastPoll) (snap : GpuSnapshot) :
    Bool × LastPoll × GpuSnapshot :=
  match checkPollRate last.slow kMinSlowInterval now with
  | (false, _) => (false, last, snap)
  | (true, polled) =>
    (true, { last with slow := polled },
      reads.pollSlowData (reads.pollPower (reads.pollFans snap)))

/-- How one GPU is sampled in a poll: the time that passes before the fast tier asks
the clock, the time until the slow tier does, and the driver's answers. -/
structure GpuPoll where
  toFast : ℕ
  toSlow : ℕ
  reads : DriverReads

/-- A snapshot of `sample_all`, with the results of the two tiers, which the code
discards. -/
structure Sampled where
  snapshot : GpuSnapshot
  fast : Bool
  slow : Bool

/-- `sample_all(GpuSampleMode::Full)` over the GPUs from the `i`-th on. -/
def sampleAll (gpu : ℕ → GpuPoll) : TimePoint → ℕ → List LastPoll →
    List Sampled × List LastPoll × TimePoint
  | now, _, [] => ([], [], now)
  | now, i, last :: rest =>
    let fastNow := now + (gpu i).toFast
    let fast := sampleFast (gpu i).reads fastNow last i { gpuIndex := i }
    let slowNow := fastNow + (gpu i).toSlow
    -- the slow tier is called whatever the fast one returned
    let slow := sampleSlow (gpu i).reads slowNow fast.2.1 fast.2.2
    let later := sampleAll gpu slowNow (i + 1) rest
    (⟨slow.2.2, fast.1, slow.1⟩ :: later.1, slow.2.1 :: later.2.1, later.2.2)

/-! ## When the limiters accept -/

theorem checkPollRate_accepts_iff (last : TimePoint) (minInterval : ℤ) (now : TimePoint) :
    (checkPollRate last minInterval now).1 = true ↔ minInterval ≤ now - last := by
  unfold checkPollRate
  split_ifs with soon
  · simp [soon]
  · simpa using soon

/-- An accepted call sets its limiter to the time of the call. -/
theorem checkPollRate_eq_of_accepts {last now : TimePoint} {minInterval : ℤ}
    (accepts : minInterval ≤ now - last) : checkPollRate last minInterval now = (true, now) :=
  if_neg (not_lt.mpr accepts)

/-- A call keeps the limiter's time or sets it to its own. -/
theorem checkPollRate_cases (last : TimePoint) (minInterval : ℤ) (now : TimePoint) :
    checkPollRate last minInterval now = (false, last) ∨
      checkPollRate last minInterval now = (true, now) := by
  by_cases soon : now - last < minInterval
  · exact .inl (if_pos soon)
  · exact .inr (if_neg soon)

/-- The two limiters are independent: the slow tier of a GPU sees its own time,
whatever the fast tier did. -/
theorem sampleFast_slow (reads : DriverReads) (now : TimePoint) (last : LastPoll) (gpuIndex : ℤ)
    (snap : GpuSnapshot) : (sampleFast reads now last gpuIndex snap).2.1.slow = last.slow := by
  unfold sampleFast
  split <;> rfl

theorem sampleFast_accepts_iff (reads : DriverReads) (now : TimePoint) (last : LastPoll)
    (gpuIndex : ℤ) (snap : GpuSnapshot) :
    (sampleFast reads now last gpuIndex snap).1 = true ↔ kMinFastInterval ≤ now - last.fast := by
  rw [← checkPollRate_accepts_iff]
  unfold sampleFast
  split <;> simp [*]

theorem sampleSlow_accepts_iff (reads : DriverReads) (now : TimePoint) (last : LastPoll)
    (snap : GpuSnapshot) :
    (sampleSlow reads now last snap).1 = true ↔ kMinSlowInterval ≤ now - last.slow := by
  rw [← checkPollRate_accepts_iff]
  unfold sampleSlow
  split <;> simp [*]

/-- After two accepted calls the limiters hold their times. -/
theorem limiters_of_accepts {reads : DriverReads} {fastNow slowNow : TimePoint} {last : LastPoll}
    {gpuIndex : ℤ} {snap : GpuSnapshot} (fastAccepts : kMinFastInterval ≤ fastNow - last.fast)
    (slowAccepts : kMinSlowInterval ≤ slowNow - last.slow) :
    (sampleSlow reads slowNow (sampleFast reads fastNow last gpuIndex snap).2.1
      (sampleFast reads fastNow last gpuIndex snap).2.2).2.1 = ⟨fastNow, slowNow⟩ := by
  simp only [sampleFast, checkPollRate_eq_of_accepts fastAccepts, sampleSlow,
    checkPollRate_eq_of_accepts slowAccepts]

end CapacityAgent

/-
# The GPU poll loop

`DirectGpuCollector::PollLoop`: sample every GPU, insert a row for each, sleep
until the configured interval has passed since the poll began. The loop paces
itself by the start of a poll, the limiters by the calls inside it; a row carries
data read in its poll exactly when the calls are far enough apart.
-/

import CapacityAgent.Gpu.Probe
import Mathlib.Tactic.Linarith

namespace CapacityAgent

/-- One turn of the loop: how its GPUs are sampled, the clock read for the rows, the
time from the last slow tier to the end of the writes, and the time by which the
thread resumes late. -/
structure Turn where
  gpu : ℕ → GpuPoll
  nowMs : ℤ
  tail : ℕ
  late : ℕ

/-- A row the loop inserts, with the results of the tiers it was built from. -/
structure InsertedRow where
  key : GpuKey
  row : GpuRow
  fast : Bool
  slow : Bool

section PollLoop

variable (machineId : CStr) (names : List CStr) (sampleIntervalMs : ℤ)

/-- The rows of one poll. -/
def insertedRows (nowMs : ℤ) (sampled : List Sampled) : List InsertedRow :=
  sampled.map fun s =>
    ⟨gpuKey machineId nowMs s.snapshot, gpuRow (gpuName names s.snapshot) s.snapshot, s.fast,
      s.slow⟩

/-- When the next poll starts. -/
def nextStart (start finished : TimePoint) (late : ℕ) : TimePoint :=
  -- the sleep lasts until the interval has passed since the start; a late poll has none
  if finished - start < ms sampleIntervalMs then
    finished + (ms sampleIntervalMs - (finished - start)) + late
  else finished + late

/-- The rows of every poll of a run. -/
def pollLoop : TimePoint → List LastPoll → List Turn → List (List InsertedRow)
  | _, _, [] => []
  | start, last, turn :: rest =>
    let sampled := sampleAll turn.gpu start 0 last
    insertedRows machineId names turn.nowMs sampled.1 ::
      pollLoop (nextStart sampleIntervalMs start (sampled.2.2 + turn.tail) turn.late) sampled.2.1
        rest

end PollLoop

/-! ## When the calls happen -/

/-- When the two tiers of the GPUs from the `i`-th on ask the clock. -/
def callTimes (gpu : ℕ → GpuPoll) : TimePoint → ℕ → ℕ → List LastPoll
  | _, _, 0 => []
  | now, i, count + 1 =>
    ⟨now + (gpu i).toFast, now + (gpu i).toFast + (gpu i).toSlow⟩ ::
      callTimes gpu (now + (gpu i).toFast + (gpu i).toSlow) (i + 1) count

/-- The time the sampling of the GPUs from the `i`-th on takes. -/
def samplingTime (gpu : ℕ → GpuPoll) : ℕ → ℕ → ℕ
  | _, 0 => 0
  | i, count + 1 => (gpu i).toFast + (gpu i).toSlow + samplingTime gpu (i + 1) count

/-- Both tiers are called late enough after the given times. -/
def Spaced (earlier now : LastPoll) : Prop :=
  kMinFastInterval ≤ now.fast - earlier.fast ∧ kMinSlowInterval ≤ now.slow - earlier.slow

/-- In every poll of a run each tier of each GPU is called late enough after its call
in the poll before, or after `earlier` in the first. -/
def WellPaced (sampleIntervalMs : ℤ) (count : ℕ) : List LastPoll → TimePoint → List Turn → Prop
  | _, _, [] => True
  | earlier, start, turn :: rest =>
    List.Forall₂ Spaced earlier (callTimes turn.gpu start 0 count) ∧
      WellPaced sampleIntervalMs count (callTimes turn.gpu start 0 count)
        (nextStart sampleIntervalMs start
          (start + samplingTime turn.gpu 0 count + turn.tail) turn.late)
        rest

theorem sampleAll_now (gpu : ℕ → GpuPoll) (now : TimePoint) (i : ℕ) (last : List LastPoll) :
    (sampleAll gpu now i last).2.2 = now + samplingTime gpu i last.length := by
  induction last generalizing now i with
  | nil => simp [sampleAll, samplingTime]
  | cons first rest ih =>
    simp only [sampleAll, samplingTime, List.length_cons, ih]
    push_cast
    ring

/-- Every snapshot of a poll was read by both tiers exactly when all calls come late
enough after the limiters. -/
theorem sampleAll_fresh_iff (gpu : ℕ → GpuPoll) (now : TimePoint) (i : ℕ) (last : List LastPoll) :
    (∀ s ∈ (sampleAll gpu now i last).1, s.fast = true ∧ s.slow = true) ↔
      List.Forall₂ Spaced last (callTimes gpu now i last.length) := by
  induction last generalizing now i with
  | nil => simp [sampleAll, callTimes]
  | cons first rest ih =>
    simp only [sampleAll, List.length_cons, callTimes, List.forall_mem_cons, ih,
      List.forall₂_cons, sampleFast_accepts_iff, sampleSlow_accepts_iff, sampleFast_slow, Spaced]

/-- When they do, the limiters hold the times of the calls. -/
theorem sampleAll_limiters {gpu : ℕ → GpuPoll} {now : TimePoint} {i : ℕ} {last : List LastPoll}
    (spaced : List.Forall₂ Spaced last (callTimes gpu now i last.length)) :
    (sampleAll gpu now i last).2.1 = callTimes gpu now i last.length := by
  induction last generalizing now i with
  | nil => rfl
  | cons first rest ih =>
    simp only [List.length_cons, callTimes, List.forall₂_cons] at spaced ⊢
    obtain ⟨⟨fastSpaced, slowSpaced⟩, later⟩ := spaced
    simp only [sampleAll, ih later, limiters_of_accepts fastSpaced slowSpaced]

theorem length_callTimes (gpu : ℕ → GpuPoll) (now : TimePoint) (i count : ℕ) :
    (callTimes gpu now i count).length = count := by
  induction count generalizing now i with
  | zero => rfl
  | succ count ih => simp only [callTimes, List.length_cons, ih]

/-! ## Fresh rows -/

/-- Every row of every poll was built from both tiers of its poll. -/
def AllFresh (polls : List (List InsertedRow)) : Prop :=
  ∀ poll ∈ polls, ∀ inserted ∈ poll, inserted.fast = true ∧ inserted.slow = true

instance (polls : List (List InsertedRow)) : Decidable (AllFresh polls) :=
  inferInstanceAs (Decidable (∀ poll ∈ polls, ∀ inserted ∈ poll,
    inserted.fast = true ∧ inserted.slow = true))

theorem allFresh_cons (poll : List InsertedRow) (rest : List (List InsertedRow)) :
    AllFresh (poll :: rest) ↔
      (∀ inserted ∈ poll, inserted.fast = true ∧ inserted.slow = true) ∧ AllFresh rest :=
  List.forall_mem_cons

/-- From any limiters: the rows of a run are fresh exactly when the run is well paced. -/
theorem allFresh_pollLoop_iff (machineId : CStr) (names : List CStr) (sampleIntervalMs : ℤ)
    (start : TimePoint) (last : List LastPoll) (turns : List Turn) :
    AllFresh (pollLoop machineId names sampleIntervalMs start last turns) ↔
      WellPaced sampleIntervalMs last.length last start turns := by
  induction turns generalizing start last with
  | nil => simp [pollLoop, WellPaced, AllFresh]
  | cons turn rest ih =>
    have first : (∀ inserted ∈ insertedRows machineId names turn.nowMs
          (sampleAll turn.gpu start 0 last).1, inserted.fast = true ∧ inserted.slow = true) ↔
        List.Forall₂ Spaced last (callTimes turn.gpu start 0 last.length) := by
      rw [← sampleAll_fresh_iff]
      simp only [insertedRows, List.forall_mem_map]
    simp only [pollLoop, WellPaced, allFresh_cons, first]
    -- a spaced poll leaves its call times in the limiters, from where the rest goes on
    refine and_congr_right fun spaced => ?_
    rw [ih, sampleAll_limiters spaced, length_callTimes, sampleAll_now]

/-- **When every row carries data of its poll.** After a successful `init`, in a run
of any number of polls of any number of GPUs with any configured interval and any
driver latencies, no tier of any poll was skipped by its limiter exactly when the
calls of each tier of each GPU are far enough apart, the first counted from the
clock's epoch. -/
theorem rows_fresh_iff (machineId : CStr) (names : List CStr) (sampleIntervalMs : ℤ)
    (start : TimePoint) (count : ℕ) (turns : List Turn) :
    AllFresh (pollLoop machineId names sampleIntervalMs start (List.replicate count {}) turns) ↔
      WellPaced sampleIntervalMs count (List.replicate count {}) start turns := by
  have run := allFresh_pollLoop_iff machineId names sampleIntervalMs start
    (List.replicate count {}) turns
  rwa [List.length_replicate] at run

/-! ## A row without its slow columns -/

/-- A driver that answers nothing new. -/
def silentReads : DriverReads := ⟨id, id, id, id, id⟩

/-- A poll whose fast tier takes 450 ms, and one whose tiers take 1 ms each. -/
def unevenTurns : List Turn :=
  [⟨fun _ => ⟨1000000, 450000000, silentReads⟩, 1000, 1000000, 0⟩,
    ⟨fun _ => ⟨1000000, 1000000, silentReads⟩, 1500, 1000000, 0⟩]

/-- At the default interval of 500 ms, one slow poll makes the slow tier of the next be
skipped: its call comes 51 ms after the last. -/
theorem rows_not_always_fresh :
    ¬ ∀ (machineId : CStr) (names : List CStr) (sampleIntervalMs : ℤ) (start : TimePoint)
      (count : ℕ) (turns : List Turn),
      AllFresh (pollLoop machineId names sampleIntervalMs start (List.replicate count {})
        turns) := by
  intro fresh
  exact absurd (fresh (text "host") [] 500 (ms 60000) 1 unevenTurns) (by decide)

end CapacityAgent

/-
# Free VRAM, from the driver to the verdict

NVML counts bytes. The probe keeps whole MiB in 32 bits, the collector multiplies
them back and takes 0 for missing data, and `/v1/readiness` sums the differences of
total and used. Rounding down what is used makes free VRAM appear, and a GPU that
uses less than a MiB is not counted at all.
-/

import CapacityAgent.Api.GpuSummary
import CapacityAgent.Gpu.Polls
import CapacityAgent.Library.Rounding

namespace CapacityAgent

open Rounding

/-! ## The probe -/

/-- A GPU whose memory query succeeds: its snapshot before the query, and the answer. -/
structure ReadableGpu where
  snap : GpuSnapshot
  mem : NvmlMemoryInfo
  within : mem.used ≤ mem.total

namespace ReadableGpu

def snapshot (gpu : ReadableGpu) : GpuSnapshot := gpu.snap.pollMemory gpu.mem

def used (gpu : ReadableGpu) : ℕ := gpu.mem.used.toNat

def total (gpu : ReadableGpu) : ℕ := gpu.mem.total.toNat

/-- A slow poll whose memory query succeeds leaves such a snapshot. -/
theorem readSlowData_eq_pollMemory {p : GpuProbe} {g : GpuBackendContext} {answers : SlowAnswers}
    {mem : NvmlMemoryInfo}
    (succeeded : p.nvmlAnswer g .deviceGetMemoryInfo answers.memory = some mem)
    (snap : GpuSnapshot) :
    p.readSlowData g answers snap = (p.readSlowData g answers snap).pollMemory mem := by
  unfold GpuProbe.readSlowData
  rw [succeeded]
  rfl

theorem used_le_total (gpu : ReadableGpu) : gpu.used ≤ gpu.total :=
  UInt64.le_iff_toNat_le.mp gpu.within

end ReadableGpu

/-! ## The rows -/

def mib : ℕ := 1048576

/-- A whole number of MiB as the collector stores it. -/
theorem optInt64_bytes (megabytes : UInt32) :
    (optInt64 megabytes).map (· * 1048576) =
      if megabytes.toNat = 0 then none else some ((mib * megabytes.toNat : ℕ) : ℤ) := by
  have zero : 0 < megabytes ↔ megabytes.toNat ≠ 0 := by
    rw [UInt32.lt_iff_toNat_lt, Nat.pos_iff_ne_zero.symm]
    rfl
  unfold optInt64
  by_cases missing : megabytes.toNat = 0
  · rw [if_neg (fun positive => zero.mp positive missing), if_pos missing, Option.map_none]
  · rw [if_pos (zero.mpr missing), if_neg missing, Option.map_some]
    simp [mib, Int.mul_comm]

namespace ReadableGpu

variable (gpu : ReadableGpu)

/-- The used memory in whole MiB, as 32 bits hold it. -/
theorem vramUsedMb_toNat : gpu.snapshot.vramUsedMb.toNat = gpu.used / mib % 2 ^ 32 := by
  unfold snapshot GpuSnapshot.pollMemory
  rw [UInt64.toNat_toUInt32, UInt64.toNat_div]
  rfl

theorem vramTotalMb_toNat : gpu.snapshot.vramTotalMb.toNat = gpu.total / mib % 2 ^ 32 := by
  unfold snapshot GpuSnapshot.pollMemory
  rw [UInt64.toNat_toUInt32, UInt64.toNat_div]
  rfl

end ReadableGpu

section Rows

variable (machineId : CStr) (names : List CStr) (nowMs : ℤ)

/-- The rows that a poll leaves for the handler. -/
def polledRows (gpus : List ReadableGpu) : List GpuSnapshotRow :=
  (pollInserts machineId names nowMs (gpus.map ReadableGpu.snapshot)).map StoredGpu.snapshotRow

/-- The row of one GPU. -/
def polledRow (gpu : ReadableGpu) : GpuSnapshotRow :=
  StoredGpu.snapshotRow
    (gpuKey machineId nowMs gpu.snapshot, gpuRow (gpuName names gpu.snapshot) gpu.snapshot)

theorem polledRows_eq (gpus : List ReadableGpu) :
    polledRows machineId names nowMs gpus = gpus.map (polledRow machineId names nowMs) := by
  simp only [polledRows, pollInserts, List.map_map]
  rfl

/-- What a row shows as free, with its two counts in whole MiB. -/
theorem vramFree?_polledRow (gpu : ReadableGpu) :
    (polledRow machineId names nowMs gpu).vramFree? =
      if gpu.used / mib % 2 ^ 32 = 0 ∨ gpu.total / mib % 2 ^ 32 = 0 then none
      else some (((mib * (gpu.total / mib % 2 ^ 32) : ℕ) : ℤ) -
        ((mib * (gpu.used / mib % 2 ^ 32) : ℕ) : ℤ)) := by
  have total : (polledRow machineId names nowMs gpu).vramTotalBytes =
      (optInt64 gpu.snapshot.vramTotalMb).map (· * 1048576) := rfl
  have used : (polledRow machineId names nowMs gpu).vramUsedBytes =
      (optInt64 gpu.snapshot.vramUsedMb).map (· * 1048576) := rfl
  rw [optInt64_bytes, gpu.vramTotalMb_toNat] at total
  rw [optInt64_bytes, gpu.vramUsedMb_toNat] at used
  unfold GpuSnapshotRow.vramFree?
  by_cases noUsed : gpu.used / mib % 2 ^ 32 = 0
  · rw [used, if_pos noUsed, if_pos (Or.inl noUsed)]
    cases (polledRow machineId names nowMs gpu).vramTotalBytes <;> rfl
  · by_cases noTotal : gpu.total / mib % 2 ^ 32 = 0
    · rw [total, if_pos noTotal, if_pos (Or.inr noTotal)]
    · rw [total, used, if_neg noUsed, if_neg noTotal, if_neg (not_or.mpr ⟨noUsed, noTotal⟩)]

/-- The free VRAM `/v1/readiness` computes from the rows. -/
def reportedFree (gpus : List ReadableGpu) : ℤ :=
  totalVramFree (polledRows machineId names nowMs gpus)

/-- The bytes that are free. -/
def actualFree (gpus : List ReadableGpu) : ℕ := gap ReadableGpu.used ReadableGpu.total gpus

/-! ## Honesty -/

/-- An `int64_t` holds the value. -/
def InInt64 (value : ℤ) : Prop := -2 ^ 63 ≤ value ∧ value < 2 ^ 63

/-- The conversions keep what they convert: the counts in MiB fit their 32 bits, and the
stored sizes and their difference fit 64. -/
structure ReadableGpu.Converted (gpu : ReadableGpu) : Prop where
  used : gpu.snapshot.vramUsedMb.toNat = gpu.used / mib
  total : gpu.snapshot.vramTotalMb.toNat = gpu.total / mib
  usedBytes : ∀ bytes ∈ (polledRow machineId names nowMs gpu).vramUsedBytes, InInt64 bytes
  totalBytes : ∀ bytes ∈ (polledRow machineId names nowMs gpu).vramTotalBytes, InInt64 bytes
  freeBytes : ∀ bytes ∈ (polledRow machineId names nowMs gpu).vramFree?, InInt64 bytes

/-- Free VRAM is reported honestly: no step wraps around or overflows, every GPU counts,
the sum is at most what is free and short of it by less than a MiB for each GPU, and a
positive demand that is granted is free. -/
structure FreeVramHonest (gpus : List ReadableGpu) : Prop where
  converted : ∀ gpu ∈ gpus, gpu.Converted machineId names nowMs
  summed : ∀ n, InInt64 (totalVramFree ((polledRows machineId names nowMs gpus).take n))
  counted : ∀ row ∈ polledRows machineId names nowMs gpus, row.vramFree? ≠ none
  notMore : reportedFree machineId names nowMs gpus ≤ actualFree gpus
  notLess : gpus ≠ [] →
    actualFree gpus < reportedFree machineId names nowMs gpus + gpus.length * mib
  granted : ∀ collectors nowDirect nowBridge required, 0 < required →
    (readiness required (polledRows machineId names nowMs gpus) collectors nowDirect
      nowBridge).verdict.Fits → required ≤ actualFree gpus

end Rows

/-- At least a MiB of every GPU is used and no GPU has 4 PiB, the parts of a MiB that
are used add up to no more than those there are in total, and the differences in whole
MiB stay below 8 EiB. -/
structure VramWhole (gpus : List ReadableGpu) : Prop where
  someUsed : ∀ gpu ∈ gpus, mib ≤ gpu.used
  narrow : ∀ gpu ∈ gpus, gpu.total < 2 ^ 52
  parts : dropped mib ReadableGpu.used gpus ≤ dropped mib ReadableGpu.total gpus
  sum : roundedGap mib ReadableGpu.used ReadableGpu.total gpus < 2 ^ 43

section Honesty

variable (machineId : CStr) (names : List CStr) (nowMs : ℤ) {gpus : List ReadableGpu}

/-- The row of a GPU that is counted, when nothing is lost in 32 bits. -/
theorem vramFree?_of_whole {gpu : ReadableGpu} (someUsed : mib ≤ gpu.used)
    (narrow : gpu.total < 2 ^ 52) :
    (polledRow machineId names nowMs gpu).vramFree? =
      some ((mib * (gpu.total / mib - gpu.used / mib) : ℕ) : ℤ) := by
  have ordered := gpu.used_le_total
  have wholeUsed : gpu.used / mib % 2 ^ 32 = gpu.used / mib := by
    unfold mib
    omega
  have wholeTotal : gpu.total / mib % 2 ^ 32 = gpu.total / mib := by
    unfold mib
    omega
  have le : gpu.used / mib ≤ gpu.total / mib := Nat.div_le_div_right ordered
  have positive : 0 < gpu.used / mib := Nat.div_pos someUsed (by decide)
  rw [vramFree?_polledRow, wholeUsed, wholeTotal, if_neg (by omega), Nat.mul_sub,
    Int.ofNat_sub (Nat.mul_le_mul_left _ le)]

/-- What is reported when every GPU is counted. -/
theorem reportedFree_eq (someUsed : ∀ gpu ∈ gpus, mib ≤ gpu.used)
    (narrow : ∀ gpu ∈ gpus, gpu.total < 2 ^ 52) :
    reportedFree machineId names nowMs gpus =
      (mib * roundedGap mib ReadableGpu.used ReadableGpu.total gpus : ℕ) := by
  unfold reportedFree totalVramFree roundedGap
  rw [polledRows_eq]
  induction gpus with
  | nil => rfl
  | cons gpu rest ih =>
    have tail := ih (fun other member => someUsed other (List.mem_cons_of_mem _ member))
      fun other member => narrow other (List.mem_cons_of_mem _ member)
    have head := vramFree?_of_whole machineId names nowMs (someUsed gpu List.mem_cons_self)
      (narrow gpu List.mem_cons_self)
    rw [List.map_cons, List.filterMap_cons_some head, List.sum_cons, tail, List.map_cons,
      List.sum_cons, Nat.mul_add, Nat.cast_add]

/-- The law of the sum, for the GPUs and every part of their list. -/
theorem VramWhole.reportedFree_take (whole : VramWhole gpus) (n : ℕ) :
    reportedFree machineId names nowMs (gpus.take n) =
      (mib * roundedGap mib ReadableGpu.used ReadableGpu.total (gpus.take n) : ℕ) :=
  reportedFree_eq machineId names nowMs
    (fun gpu member => whole.someUsed gpu (List.mem_of_mem_take member))
    fun gpu member => whole.narrow gpu (List.mem_of_mem_take member)

/-- Adding up the rows overflows nowhere: a part of them sums to no more than all. -/
theorem VramWhole.summed (whole : VramWhole gpus) (n : ℕ) :
    InInt64 (totalVramFree ((polledRows machineId names nowMs gpus).take n)) := by
  -- every difference is at least 0
  have part : roundedGap mib ReadableGpu.used ReadableGpu.total (gpus.take n) ≤
      roundedGap mib ReadableGpu.used ReadableGpu.total gpus := roundedGap_take_le mib n
  have sum := whole.sum
  rw [polledRows_eq, ← List.map_take, ← polledRows_eq, ← reportedFree,
    whole.reportedFree_take machineId names nowMs n]
  unfold InInt64
  unfold mib at *
  omega

/-- The steps before the sum, when nothing is lost in 32 bits. -/
theorem converted_of_whole {gpu : ReadableGpu} (someUsed : mib ≤ gpu.used)
    (narrow : gpu.total < 2 ^ 52) : gpu.Converted machineId names nowMs := by
  have ordered := gpu.used_le_total
  have small : ∀ megabytes : UInt32, ∀ bytes ∈ (optInt64 megabytes).map (· * 1048576),
      InInt64 bytes := by
    intro megabytes bytes stored
    have bound := megabytes.toNat_lt
    rw [optInt64_bytes] at stored
    by_cases missing : megabytes.toNat = 0
    · rw [if_pos missing] at stored
      exact absurd stored (Option.not_mem_none _)
    · rw [if_neg missing] at stored
      obtain rfl := Option.some.inj stored
      unfold InInt64 mib
      omega
  refine ⟨?_, ?_, small _, small _, fun bytes free => ?_⟩
  · rw [gpu.vramUsedMb_toNat]
    unfold mib
    omega
  · rw [gpu.vramTotalMb_toNat]
    unfold mib
    omega
  · rw [vramFree?_of_whole machineId names nowMs someUsed narrow] at free
    obtain rfl := Option.some.inj free
    unfold InInt64 mib
    omega

theorem used_le_total_of_mem : ∀ gpu ∈ gpus, gpu.used ≤ gpu.total := fun gpu _ => gpu.used_le_total

theorem FreeVramHonest.narrow (honest : FreeVramHonest machineId names nowMs gpus) :
    ∀ gpu ∈ gpus, gpu.total < 2 ^ 52 := by
  intro gpu member
  have kept := (honest.converted gpu member).total
  have bound := gpu.snapshot.vramTotalMb.toNat_lt
  unfold mib at kept
  omega

theorem FreeVramHonest.someUsed (honest : FreeVramHonest machineId names nowMs gpus) :
    ∀ gpu ∈ gpus, mib ≤ gpu.used := by
  intro gpu member
  have listed : polledRow machineId names nowMs gpu ∈ polledRows machineId names nowMs gpus := by
    rw [polledRows_eq]
    exact List.mem_map_of_mem member
  have counts := honest.counted _ listed
  rw [vramFree?_polledRow] at counts
  -- a count of 0 MiB would have been taken for missing
  have nonzero : gpu.used / mib % 2 ^ 32 ≠ 0 := fun zero => counts (if_pos (.inl zero))
  unfold mib at nonzero ⊢
  omega

theorem FreeVramHonest.whole (honest : FreeVramHonest machineId names nowMs gpus) :
    VramWhole gpus := by
  have used := honest.someUsed machineId names nowMs
  have wide := honest.narrow machineId names nowMs
  have reported := reportedFree_eq machineId names nowMs used wide
  refine ⟨used, wide, ?_, ?_⟩
  -- the reported sum is the rounded one, and honest only if rounding does not add to it
  · have notMore := honest.notMore
    rw [reported] at notMore
    exact (roundedGap_le_gap_iff mib used_le_total_of_mem).mp (by exact_mod_cast notMore)
  · have inRange := (honest.summed gpus.length).2
    rw [polledRows_eq, List.take_of_length_le (by simp), ← polledRows_eq, ← reportedFree,
      reported] at inRange
    unfold mib at inRange ⊢
    omega

theorem VramWhole.notMore (whole : VramWhole gpus) :
    reportedFree machineId names nowMs gpus ≤ actualFree gpus := by
  rw [reportedFree_eq machineId names nowMs whole.someUsed whole.narrow]
  exact_mod_cast (roundedGap_le_gap_iff mib used_le_total_of_mem).mpr whole.parts

theorem VramWhole.notLess (whole : VramWhole gpus) (listed : gpus ≠ []) :
    actualFree gpus < reportedFree machineId names nowMs gpus + gpus.length * mib := by
  rw [reportedFree_eq machineId names nowMs whole.someUsed whole.narrow]
  exact_mod_cast gap_lt_roundedGap mib (by decide) used_le_total_of_mem listed

theorem VramWhole.counted (whole : VramWhole gpus) :
    ∀ row ∈ polledRows machineId names nowMs gpus, row.vramFree? ≠ none := by
  intro row listed
  rw [polledRows_eq] at listed
  obtain ⟨gpu, member, rfl⟩ := List.mem_map.mp listed
  rw [vramFree?_of_whole machineId names nowMs (whole.someUsed gpu member)
    (whole.narrow gpu member)]
  exact Option.some_ne_none _

/-- A demand is granted only against the sum. -/
theorem VramWhole.granted (whole : VramWhole gpus) (collectors : List (CStr × CollectorRow))
    (nowDirect nowBridge : ℤ) {required : ℤ} (positive : 0 < required)
    (fits : (readiness required (polledRows machineId names nowMs gpus) collectors nowDirect
      nowBridge).verdict.Fits) : required ≤ actualFree gpus := by
  obtain ⟨-, loaded⟩ := loaded_of_decided fits.decided
  rw [loaded required] at fits
  rcases loadVerdict_fits fits with negative | enough
  · omega
  · exact enough.trans (whole.notMore machineId names nowMs)

/-- **When free VRAM is reported honestly**: exactly when every GPU uses at least a MiB
and no count is too wide, and the rounding takes no more from what is used than from
what there is. -/
theorem freeVramHonest_iff (gpus : List ReadableGpu) :
    FreeVramHonest machineId names nowMs gpus ↔ VramWhole gpus := by
  refine ⟨fun honest => honest.whole machineId names nowMs, fun whole => ?_⟩
  exact
    { converted := fun gpu member => converted_of_whole machineId names nowMs
        (whole.someUsed gpu member) (whole.narrow gpu member)
      summed := whole.summed machineId names nowMs
      counted := whole.counted machineId names nowMs
      notMore := whole.notMore machineId names nowMs
      notLess := whole.notLess machineId names nowMs
      granted := fun collectors nowDirect nowBridge _ positive fits =>
        whole.granted machineId names nowMs collectors nowDirect nowBridge positive fits }

end Honesty

/-- A GPU of 8 GiB of which 1 GiB and a byte are used. -/
def gpuOneByteOver : ReadableGpu where
  snap := {}
  mem := { total := 8589934592, free := 7516192767, used := 1073741825 }
  within := by decide

/-- It is granted 7 GiB, and has a byte less. -/
theorem freeVram_not_always_honest :
    ¬ ∀ (machineId : CStr) (names : List CStr) (nowMs : ℤ) (gpus : List ReadableGpu),
      FreeVramHonest machineId names nowMs gpus := by
  intro always
  have notMore := (always (text "m") [] 0 [gpuOneByteOver]).notMore
  exact absurd notMore (by decide)

end CapacityAgent

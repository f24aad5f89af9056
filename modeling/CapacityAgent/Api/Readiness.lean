/-
# The readiness verdict

The part of the `/v1/readiness` handler between its queries and its response: how
old the GPU collector's last report is, and what utilisation and free VRAM the
selected GPU rows show. The clock is read again for every use.
-/

import CapacityAgent.Store.Queries

namespace CapacityAgent

/-- The `verdict` strings of the response. -/
inductive Verdict
  | stale
  | unknown
  | insufficientVram
  | fitsIdle
  | fitsAvailable
  | fitsBusy
  deriving DecidableEq

/-- The string sent. -/
def Verdict.text : Verdict → CStr
  | .stale => CapacityAgent.text "stale"
  | .unknown => CapacityAgent.text "unknown"
  | .insufficientVram => CapacityAgent.text "insufficient_vram"
  | .fitsIdle => CapacityAgent.text "fits_idle"
  | .fitsAvailable => CapacityAgent.text "fits_available"
  | .fitsBusy => CapacityAgent.text "fits_busy"

/-- The verdicts that are based on the GPU rows' values. -/
def Verdict.Decided : Verdict → Prop
  | .stale | .unknown => False
  | .insufficientVram | .fitsIdle | .fitsAvailable | .fitsBusy => True

instance : DecidablePred Verdict.Decided
  | .stale | .unknown => .isFalse id
  | .insufficientVram | .fitsIdle | .fitsAvailable | .fitsBusy => .isTrue trivial

structure Readiness where
  verdict : Verdict
  reasons : List CStr
  deriving DecidableEq

def kStaleThresholdMs : ℤ := 30000

/-! ## Staleness -/

/-- The last report time of the first collector of a source that has one. -/
def lastSampleOf (source : CStr) (collectors : List (CStr × CollectorRow)) : Option ℤ :=
  collectors.findSome? fun collector =>
    if collector.2.source = source then collector.2.lastSampleUtcMs else none

/-- A report is too old. -/
def overdue (now lastSample : ℤ) : Bool := decide (now - lastSample > kStaleThresholdMs)

theorem exists_of_lastSampleOf {source : CStr} {collectors : List (CStr × CollectorRow)} {t : ℤ}
    (found : lastSampleOf source collectors = some t) :
    ∃ collector ∈ collectors, collector.2.source = source ∧
      collector.2.lastSampleUtcMs = some t := by
  obtain ⟨collector, member, has⟩ := List.exists_of_findSome?_eq_some found
  split_ifs at has with same
  exact ⟨collector, member, same, has⟩

/-! ## Load -/

/-- The greatest utilisation. -/
def maxUtil (gpus : List GpuSnapshotRow) : Double :=
  gpus.foldl (fun highest gpu =>
    match gpu.utilGpuPct with
    | none => highest
    | some util => max highest util) 0

/-- What a row contributes to the free VRAM. -/
def GpuSnapshotRow.vramFree? (gpu : GpuSnapshotRow) : Option ℤ :=
  match gpu.vramTotalBytes, gpu.vramUsedBytes with
  | some total, some used => some (total - used)
  | _, _ => none

def totalVramFree (gpus : List GpuSnapshotRow) : ℤ := (gpus.filterMap (·.vramFree?)).sum

def hasVram (gpus : List GpuSnapshotRow) : Bool := gpus.any (·.vramFree?.isSome)

/-- `static_cast<int>` of a `double` in range. -/
def truncate (value : Double) : ℤ := value.num.tdiv value.den

/-- The verdict on fresh rows. -/
def loadVerdict (required : ℤ) (gpus : List GpuSnapshotRow) : Readiness :=
  if hasVram gpus = false then ⟨.unknown, [text "no VRAM data available"]⟩
  else if required > 0 ∧ totalVramFree gpus < required then
    ⟨.insufficientVram,
      [text "required " ++ decimalText required ++ text " bytes but only " ++
        decimalText (totalVramFree gpus) ++ text " free"]⟩
  else if maxUtil gpus < 30 then ⟨.fitsIdle, []⟩
  else if maxUtil gpus < 80 then ⟨.fitsAvailable, []⟩
  else
    ⟨.fitsBusy, [text "GPU utilization at " ++ decimalText (truncate (maxUtil gpus)) ++ text "%"]⟩

/-! ## The verdict -/

/-- The verdict, with the times at which `NowUtcMs` is read for the GPU collector's
age and for the bridge's. -/
def readiness (required : ℤ) (gpus : List GpuSnapshotRow)
    (collectors : List (CStr × CollectorRow)) (nowDirect nowBridge : ℤ) : Readiness :=
  let gpuStale := (lastSampleOf (text "direct_gpu") collectors).elim true (overdue nowDirect)
  if gpus.isEmpty then
    -- without GPU rows the bridge decides between stale and unknown
    match lastSampleOf (text "librehw_bridge") collectors with
    | none => ⟨.stale, [text "no recent sensor data"]⟩
    | some lastSample =>
      if overdue nowBridge lastSample then ⟨.stale, [text "no recent sensor data"]⟩
      else ⟨.unknown, [text "no GPU collector data available"]⟩
  else if gpuStale then ⟨.stale, [text "GPU data is stale"]⟩
  else loadVerdict required gpus

/-- A verdict on values needs a recent report of the GPU collector. -/
theorem recent_of_decided {required : ℤ} {gpus : List GpuSnapshotRow}
    {collectors : List (CStr × CollectorRow)} {nowDirect nowBridge : ℤ}
    (decided : (readiness required gpus collectors nowDirect nowBridge).verdict.Decided) :
    ∃ t, lastSampleOf (text "direct_gpu") collectors = some t ∧
      nowDirect ≤ t + kStaleThresholdMs := by
  unfold readiness at decided
  by_cases noRows : gpus.isEmpty
  · -- without rows the verdict is stale or unknown
    simp only [noRows, if_true] at decided
    split at decided
    · exact decided.elim
    · split_ifs at decided <;> exact decided.elim
  · cases reported : lastSampleOf (text "direct_gpu") collectors with
    | none => simp [noRows, reported, Verdict.Decided] at decided
    | some t =>
      refine ⟨t, rfl, ?_⟩
      -- an older report would have made the verdict stale
      by_contra late
      have old : overdue nowDirect t = true := by
        rw [overdue, decide_eq_true_iff]
        omega
      simp [noRows, reported, old, Verdict.Decided] at decided

end CapacityAgent

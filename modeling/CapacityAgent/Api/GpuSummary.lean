/-
# The readiness response

The object `/v1/readiness` sends. The handler runs over the GPU rows a second time
for the `gpu_summary` section; where the numbers there are printed as they are, what a client
reads of them is what decided the verdict, and a verdict that grants a demand grants every
smaller one.
-/

import CapacityAgent.Api.Readiness
import CapacityAgent.Library.Signed
import CapacityAgent.Ollama.Runtime
import CapacityAgent.Store.ReadQueries

namespace CapacityAgent

open Signed

/-! ## The summary -/

/-- The accumulators of the summary's loop. -/
structure GpuTotals where
  maxUtil : Double := 0
  maxTemp : Double := 0
  totalPower : Double := 0
  vramFree : ℤ := 0
  vramTotal : ℤ := 0

/-- One round of the loop. -/
def GpuTotals.add (totals : GpuTotals) (gpu : GpuSnapshotRow) : GpuTotals where
  maxUtil := gpu.utilGpuPct.elim totals.maxUtil (max totals.maxUtil)
  maxTemp := gpu.coreC.elim totals.maxTemp (max totals.maxTemp)
  totalPower := gpu.powerW.elim totals.totalPower fun power =>
    Binary64.held (totals.totalPower + power)
  vramTotal := gpu.vramTotalBytes.elim totals.vramTotal (totals.vramTotal + ·)
  vramFree :=
    match gpu.vramUsedBytes, gpu.vramTotalBytes with
    | some used, some total => totals.vramFree + (total - used)
    | _, _ => totals.vramFree

/-- What the loop leaves. -/
def gpuTotals (gpus : List GpuSnapshotRow) : GpuTotals := gpus.foldl GpuTotals.add {}

/-- The `gpu_summary` object; without GPU rows it has the count only. -/
def gpuSummary (gpus : List GpuSnapshotRow) : CJson.Item :=
  .object ((text "gpu_count", .number gpus.length) ::
    if gpus.isEmpty then [] else
      [(text "max_util_pct", .number (gpuTotals gpus).maxUtil),
        (text "max_temperature_c", .number (gpuTotals gpus).maxTemp),
        (text "total_power_w", .number (gpuTotals gpus).totalPower),
        (text "vram_free_bytes", int64Item (gpuTotals gpus).vramFree),
        (text "vram_total_bytes", int64Item (gpuTotals gpus).vramTotal)])

theorem GpuTotals.add_maxUtil (totals : GpuTotals) (gpu : GpuSnapshotRow) :
    (totals.add gpu).maxUtil =
      match gpu.utilGpuPct with
      | none => totals.maxUtil
      | some util => max totals.maxUtil util := by
  cases missing : gpu.utilGpuPct <;> simp [GpuTotals.add, missing]

theorem GpuTotals.add_vramFree (totals : GpuTotals) (gpu : GpuSnapshotRow) :
    (totals.add gpu).vramFree = totals.vramFree + gpu.vramFree?.getD 0 := by
  cases used : gpu.vramUsedBytes <;> cases total : gpu.vramTotalBytes <;>
    simp [GpuTotals.add, GpuSnapshotRow.vramFree?, used, total]

/-- The summary's maximum is the verdict's. -/
theorem gpuTotals_maxUtil (gpus : List GpuSnapshotRow) :
    (gpuTotals gpus).maxUtil = maxUtil gpus := by
  have carried : ∀ totals : GpuTotals, (gpus.foldl GpuTotals.add totals).maxUtil =
      gpus.foldl (fun highest gpu =>
        match gpu.utilGpuPct with
        | none => highest
        | some util => max highest util) totals.maxUtil := by
    induction gpus with
    | nil =>
      intro totals
      rfl
    | cons gpu rest ih =>
      intro totals
      rw [List.foldl_cons, ih, List.foldl_cons, GpuTotals.add_maxUtil]
  exact carried {}

/-- The summary's free VRAM is the verdict's. -/
theorem gpuTotals_vramFree (gpus : List GpuSnapshotRow) :
    (gpuTotals gpus).vramFree = totalVramFree gpus := by
  have carried : ∀ totals : GpuTotals,
      (gpus.foldl GpuTotals.add totals).vramFree = totals.vramFree + totalVramFree gpus := by
    induction gpus with
    | nil =>
      intro totals
      simp [totalVramFree]
    | cons gpu rest ih =>
      intro totals
      rw [List.foldl_cons, ih, GpuTotals.add_vramFree]
      cases free : gpu.vramFree? <;> simp [totalVramFree, free, add_assoc]
  exact (carried {}).trans (Int.zero_add _)

/-! ## Overflow -/

/-- One round with the sums of integers checked, of which the verdict's loop makes the second. -/
def GpuTotals.addChecked (totals : GpuTotals) (gpu : GpuSnapshotRow) : Except Unit GpuTotals := do
  let vramTotal ←
    match gpu.vramTotalBytes with
    | some total => checked 64 () (totals.vramTotal + total)
    | none => .ok totals.vramTotal
  let vramFree ←
    match gpu.vramUsedBytes, gpu.vramTotalBytes with
    | some used, some total => do
      let part ← checked 64 () (total - used)
      checked 64 () (totals.vramFree + part)
    | _, _ => .ok totals.vramFree
  return { totals.add gpu with vramTotal, vramFree }

/-- No difference and no sum leaves the 64 bits. -/
structure SumsFit (gpus : List GpuSnapshotRow) : Prop where
  parts : ∀ gpu ∈ gpus, ∀ free ∈ gpu.vramFree?, Fits 64 free
  free : ∀ first, first <+: gpus → Fits 64 (totalVramFree first)
  total : ∀ first, first <+: gpus → Fits 64 (gpuTotals first).vramTotal

theorem gpuTotals_append (gpus : List GpuSnapshotRow) (gpu : GpuSnapshotRow) :
    gpuTotals (gpus ++ [gpu]) = (gpuTotals gpus).add gpu := by
  rw [gpuTotals, List.foldl_append]
  rfl

theorem GpuTotals.addChecked_eq {totals : GpuTotals} {gpu : GpuSnapshotRow}
    (part : ∀ free ∈ gpu.vramFree?, Fits 64 free) (free : Fits 64 (totals.add gpu).vramFree)
    (total : Fits 64 (totals.add gpu).vramTotal) :
    totals.addChecked gpu = .ok (totals.add gpu) := by
  cases used : gpu.vramUsedBytes <;> cases all : gpu.vramTotalBytes <;>
    simp only [GpuTotals.addChecked, GpuTotals.add, GpuSnapshotRow.vramFree?, used, all,
      Option.elim_some, Option.elim_none] at *
  · rfl
  · rw [checked_of_fits total]
    rfl
  · rfl
  · rw [checked_of_fits total, checked_of_fits (part _ rfl)]
    simp only [bind, Except.bind]
    rw [checked_of_fits free]
    rfl

/-- **The sums do not overflow** where they fit, so they are the exact ones. -/
theorem foldlM_addChecked {gpus : List GpuSnapshotRow} (fit : SumsFit gpus) :
    gpus.foldlM GpuTotals.addChecked {} = .ok (gpuTotals gpus) := by
  induction gpus using List.reverseRecOn with
  | nil => rfl
  | append_singleton gpus gpu ih =>
    have shorter : gpus <+: gpus ++ [gpu] := List.prefix_append gpus [gpu]
    have first : SumsFit gpus :=
      { parts := fun other member => fit.parts other (List.mem_append_left [gpu] member)
        free := fun first before => fit.free first (before.trans shorter)
        total := fun first before => fit.total first (before.trans shorter) }
    have free := fit.free _ List.prefix_rfl
    have total := fit.total _ List.prefix_rfl
    rw [← gpuTotals_vramFree] at free
    -- the last row is added to totals that the checked loop has reached
    rw [gpuTotals_append] at free total ⊢
    have last := GpuTotals.addChecked_eq
      (fit.parts gpu (List.mem_append_right gpus (List.mem_singleton_self gpu))) free total
    rw [List.foldlM_append, ih first]
    simp only [bind, Except.bind, List.foldlM_cons, List.foldlM_nil, last]
    rfl

/-! ## The response -/

/-- The readings of the clock a request makes: for the age of the GPU collector's report,
for that of the bridge's, and for the response. -/
structure ReadinessClock where
  nowDirect : ℤ
  nowBridge : ℤ
  nowResponse : ℤ

/-- The object sent for the results of the two queries. -/
def readinessResponse (machineId : CStr) (snapshot : LatestSnapshot)
    (collectors : List (CStr × CollectorRow)) (clock : ReadinessClock) (required : ℤ) :
    CJson.Item :=
  let result := readiness required snapshot.gpus collectors clock.nowDirect clock.nowBridge
  .object
    [(text "machine_id", .string machineId),
      (text "verdict", .string result.verdict.text),
      (text "generated_utc_ms", int64Item clock.nowResponse),
      (text "gpu_summary", gpuSummary snapshot.gpus),
      (text "ollama", ollamaSection snapshot.ollama),
      (text "reasons", .array (result.reasons.map .string))]

/-- The verdict a response shows. -/
def shownVerdict (response : CJson.Item) : Option CJson.Item :=
  CJson.getObjectItemCaseSensitive response (text "verdict")

/-- The number that a client reads in a response's `gpu_summary`. -/
def shownSummary (response : CJson.Item) (name : CStr) : Option ℚ :=
  ((CJson.getObjectItemCaseSensitive response (text "gpu_summary")).bind
    (CJson.getObjectItemCaseSensitive · name)).bind readNumber

section Response

variable (machineId : CStr) (snapshot : LatestSnapshot) (collectors : List (CStr × CollectorRow))
  (clock : ReadinessClock) (required : ℤ)

theorem shownVerdict_readinessResponse :
    shownVerdict (readinessResponse machineId snapshot collectors clock required) =
      some (.string (readiness required snapshot.gpus collectors clock.nowDirect
        clock.nowBridge).verdict.text) := by
  rfl

theorem shownSummary_readinessResponse (name : CStr) :
    shownSummary (readinessResponse machineId snapshot collectors clock required) name =
      (CJson.getObjectItemCaseSensitive (gpuSummary snapshot.gpus) name).bind readNumber := by
  rfl

end Response

theorem gpuSummary_free {gpus : List GpuSnapshotRow} (listed : gpus ≠ []) :
    CJson.getObjectItemCaseSensitive (gpuSummary gpus) (text "vram_free_bytes") =
      some (int64Item (totalVramFree gpus)) := by
  rw [gpuSummary, if_neg (by simpa using listed), gpuTotals_vramFree]
  rfl

theorem gpuSummary_util {gpus : List GpuSnapshotRow} (listed : gpus ≠ []) :
    CJson.getObjectItemCaseSensitive (gpuSummary gpus) (text "max_util_pct") =
      some (.number (maxUtil gpus)) := by
  rw [gpuSummary, if_neg (by simpa using listed), gpuTotals_maxUtil]
  rfl

/-! ## The demand -/

/-- The verdicts that grant the demand. -/
def Verdict.Fits : Verdict → Prop
  | .fitsIdle | .fitsAvailable | .fitsBusy => True
  | .stale | .unknown | .insufficientVram => False

theorem Verdict.Fits.decided {verdict : Verdict} (fits : verdict.Fits) : verdict.Decided := by
  cases verdict with
  | fitsIdle | fitsAvailable | fitsBusy => trivial
  | stale | unknown | insufficientVram => exact fits.elim

theorem Verdict.text_injective : Function.Injective Verdict.text := by
  intro first second same
  cases first <;> cases second <;> first | rfl | exact absurd same (by decide)

section Demand

variable (gpus : List GpuSnapshotRow) (collectors : List (CStr × CollectorRow))
  (nowDirect nowBridge : ℤ)

/-- Whether the demand is looked at depends on the rows and the reports only. -/
theorem readiness_cases :
    (∃ result : Readiness, ¬ result.verdict.Decided ∧
        ∀ required, readiness required gpus collectors nowDirect nowBridge = result) ∨
      gpus ≠ [] ∧ ∀ required,
        readiness required gpus collectors nowDirect nowBridge = loadVerdict required gpus := by
  unfold readiness
  by_cases noRows : gpus.isEmpty
  · -- the bridge decides between stale and unknown
    left
    simp only [noRows, if_true]
    cases lastSampleOf (text "librehw_bridge") collectors with
    | none => exact ⟨_, id, fun _ => rfl⟩
    | some lastSample =>
      by_cases old : overdue nowBridge lastSample
      · exact ⟨_, id, fun _ => if_pos old⟩
      · exact ⟨_, id, fun _ => if_neg old⟩
  · simp only [noRows]
    by_cases old : (lastSampleOf (text "direct_gpu") collectors).elim true (overdue nowDirect)
    · exact .inl ⟨_, id, fun _ => if_pos old⟩
    · exact .inr ⟨by simpa using noRows, fun _ => if_neg old⟩

variable {gpus collectors nowDirect nowBridge}

/-- A decided verdict looks at the demand, and the rows are there to be summed. -/
theorem loaded_of_decided {required : ℤ}
    (decided : (readiness required gpus collectors nowDirect nowBridge).verdict.Decided) :
    gpus ≠ [] ∧ ∀ required,
      readiness required gpus collectors nowDirect nowBridge = loadVerdict required gpus := by
  rcases readiness_cases gpus collectors nowDirect nowBridge with
    ⟨result, undecided, constant⟩ | loaded
  · rw [constant required] at decided
    exact absurd decided undecided
  · exact loaded

end Demand

/-- The verdict is read off its text. -/
theorem verdict_of_shown {machineId : CStr} {snapshot : LatestSnapshot}
    {collectors : List (CStr × CollectorRow)} {clock : ReadinessClock} {required : ℤ}
    {verdict : Verdict}
    (shown : shownVerdict (readinessResponse machineId snapshot collectors clock required) =
      some (.string verdict.text)) :
    (readiness required snapshot.gpus collectors clock.nowDirect clock.nowBridge).verdict =
      verdict := by
  rw [shownVerdict_readinessResponse, Option.some_inj, CJson.Item.string.injEq] at shown
  exact Verdict.text_injective shown

variable {gpus : List GpuSnapshotRow} {required lower : ℤ}

theorem loadVerdict_insufficient
    (refused : (loadVerdict required gpus).verdict = .insufficientVram) :
    0 < required ∧ totalVramFree gpus < required := by
  unfold loadVerdict at refused
  split_ifs at refused with missing short idle available
  · exact short

theorem loadVerdict_fits (fits : (loadVerdict required gpus).verdict.Fits) :
    required ≤ 0 ∨ required ≤ totalVramFree gpus := by
  unfold loadVerdict at fits
  split_ifs at fits with missing short idle available
  · exact fits.elim
  · exact fits.elim
  all_goals omega

/-- What remains of the verdict when the demand is granted does not mention it. -/
theorem loadVerdict_mono (fits : (loadVerdict required gpus).verdict.Fits)
    (less : lower ≤ required) :
    loadVerdict lower gpus = loadVerdict required gpus := by
  have enough := loadVerdict_fits fits
  unfold loadVerdict
  by_cases missing : hasVram gpus = false
  · rw [if_pos missing, if_pos missing]
  · have granted : ¬ (required > 0 ∧ totalVramFree gpus < required) := by omega
    have grantedLower : ¬ (lower > 0 ∧ totalVramFree gpus < lower) := by omega
    rw [if_neg missing, if_neg missing, if_neg granted, if_neg grantedLower]

/-! ## Verdict and summary -/

/-- The numbers that decide the verdict are integers of fifteen digits, or else are printed as
they are. -/
structure SummaryRead (gpus : List GpuSnapshotRow) : Prop where
  free : |totalVramFree gpus| < 10 ^ 15 ∨
    readNumber (int64Item (totalVramFree gpus)) = some (totalVramFree gpus : ℚ)
  util : (∃ percent : ℤ, maxUtil gpus = percent ∧ |percent| < 10 ^ 15) ∨
    readNumber (.number (maxUtil gpus)) = some (maxUtil gpus)

section Agreement

variable (machineId : CStr) (snapshot : LatestSnapshot) (collectors : List (CStr × CollectorRow))
  (clock : ReadinessClock) (required : ℤ)

/-- A client reads the free VRAM and the utilisation that decided the verdict, and a refusal
and a grant are borne out by the free VRAM it reads. -/
structure VerdictAgrees : Prop where
  free : snapshot.gpus ≠ [] →
    shownSummary (readinessResponse machineId snapshot collectors clock required)
      (text "vram_free_bytes") = some (totalVramFree snapshot.gpus : ℚ)
  util : snapshot.gpus ≠ [] →
    shownSummary (readinessResponse machineId snapshot collectors clock required)
      (text "max_util_pct") = some (maxUtil snapshot.gpus)
  refused : shownVerdict (readinessResponse machineId snapshot collectors clock required) =
      some (.string Verdict.insufficientVram.text) →
    ∃ free, shownSummary (readinessResponse machineId snapshot collectors clock required)
      (text "vram_free_bytes") = some free ∧ 0 < required ∧ free < required
  granted : ∀ verdict : Verdict, verdict.Fits →
    shownVerdict (readinessResponse machineId snapshot collectors clock required) =
      some (.string verdict.text) →
    ∃ free, shownSummary (readinessResponse machineId snapshot collectors clock required)
      (text "vram_free_bytes") = some free ∧ (required ≤ 0 ∨ required ≤ free)

/-- A grant is given unchanged for any smaller demand. -/
def VerdictMonotone : Prop :=
  ∀ verdict : Verdict, verdict.Fits →
    shownVerdict (readinessResponse machineId snapshot collectors clock required) =
      some (.string verdict.text) →
    ∀ lower ≤ required,
      shownVerdict (readinessResponse machineId snapshot collectors clock lower) =
        some (.string verdict.text)

theorem SummaryRead.shown_free {gpus : List GpuSnapshotRow} (read : SummaryRead gpus)
    (listed : gpus ≠ []) :
    (CJson.getObjectItemCaseSensitive (gpuSummary gpus) (text "vram_free_bytes")).bind readNumber =
      some (totalVramFree gpus : ℚ) := by
  rw [gpuSummary_free listed]
  exact read.free.elim readNumber_int64Item id

theorem SummaryRead.shown_util {gpus : List GpuSnapshotRow} (read : SummaryRead gpus)
    (listed : gpus ≠ []) :
    (CJson.getObjectItemCaseSensitive (gpuSummary gpus) (text "max_util_pct")).bind readNumber =
      some (maxUtil gpus) := by
  rw [gpuSummary_util listed]
  rcases read.util with ⟨percent, whole, small⟩ | printed
  · rw [whole]
    exact CJson.printed_intCast small
  · exact printed

variable {snapshot} in
theorem verdictAgrees_of_read (read : SummaryRead snapshot.gpus) :
    VerdictAgrees machineId snapshot collectors clock required := by
  constructor <;> simp only [shownSummary_readinessResponse]
  · exact read.shown_free
  · exact read.shown_util
  · intro refused
    have verdict := verdict_of_shown refused
    have decided : Verdict.insufficientVram.Decided := trivial
    obtain ⟨listed, loaded⟩ := loaded_of_decided (verdict.symm ▸ decided)
    rw [loaded required] at verdict
    obtain ⟨demand, short⟩ := loadVerdict_insufficient verdict
    exact ⟨_, read.shown_free listed, demand, by exact_mod_cast short⟩
  · intro verdict fits granted
    obtain rfl := verdict_of_shown granted
    obtain ⟨listed, loaded⟩ := loaded_of_decided fits.decided
    rw [loaded required] at fits
    exact ⟨_, read.shown_free listed,
      (loadVerdict_fits fits).imp_right fun enough => by exact_mod_cast enough⟩

/-- A grant looks at the rows, so the same branch is taken for a smaller demand. -/
theorem verdictMonotone : VerdictMonotone machineId snapshot collectors clock required := by
  intro verdict fits granted lower less
  obtain rfl := verdict_of_shown granted
  obtain ⟨-, loaded⟩ := loaded_of_decided fits.decided
  rw [loaded required] at fits ⊢
  rw [shownVerdict_readinessResponse, loaded lower, loadVerdict_mono fits less]

end Agreement

/-- **The verdict agrees with the summary and is monotone in the demand**, where the sums of the
handler fit; for the agreement its numbers are printed as they are. -/
theorem verdict_agrees_with_summary (machineId : CStr) {snapshot : LatestSnapshot}
    (collectors : List (CStr × CollectorRow)) (clock : ReadinessClock) (required : ℤ)
    (fit : SumsFit snapshot.gpus) :
    snapshot.gpus.foldlM GpuTotals.addChecked {} = .ok (gpuTotals snapshot.gpus) ∧
      (SummaryRead snapshot.gpus →
        VerdictAgrees machineId snapshot collectors clock required) ∧
      VerdictMonotone machineId snapshot collectors clock required :=
  ⟨foldlM_addChecked fit, verdictAgrees_of_read machineId collectors clock required,
    verdictMonotone machineId snapshot collectors clock required⟩

/-! ## Two GPUs -/

/-- A snapshot of a GPU of which nothing is used. -/
def unusedGpu (vramTotalBytes : ℤ) (util : Double) : LatestSnapshot where
  system := ⟨none, none, none⟩
  gpus := [⟨0, text "gpu", none, none, some util, some 0, some vramTotalBytes, none⟩]
  ollama := {}

/-- The GPU collector has just reported. -/
def freshReport : List (CStr × CollectorRow) :=
  [(text "pc:direct_gpu",
    ⟨text "pc", text "direct_gpu", text "gpu_poller", text "ok", none, some 0, none, 0, none⟩)]

theorem sumsFit_unusedGpu {vramTotalBytes : ℤ} (fits : Fits 64 vramTotalBytes) (util : Double) :
    SumsFit (unusedGpu vramTotalBytes util).gpus := by
  have zero : Fits 64 0 := ⟨by decide, by decide⟩
  constructor
  · intro gpu member free shown
    obtain rfl := List.mem_singleton.mp member
    obtain rfl : vramTotalBytes - 0 = free := Option.some.inj shown
    rwa [sub_zero]
  · intro first before
    rcases List.prefix_cons_iff.mp before with rfl | ⟨rest, rfl, none⟩
    · exact zero
    · obtain rfl := List.prefix_nil.mp none
      simpa [totalVramFree, GpuSnapshotRow.vramFree?] using fits
  · intro first before
    rcases List.prefix_cons_iff.mp before with rfl | ⟨rest, rfl, none⟩
    · exact zero
    · obtain rfl := List.prefix_nil.mp none
      simpa [gpuTotals, GpuTotals.add] using fits

theorem verdict_agrees_with_summary_unused :
    VerdictAgrees (text "pc") (unusedGpu (8 * 2 ^ 30) 30) freshReport ⟨0, 0, 0⟩ (2 ^ 30) :=
  (verdict_agrees_with_summary (text "pc") freshReport ⟨0, 0, 0⟩ (2 ^ 30)
    (sumsFit_unusedGpu (by decide) 30)).2.1
    ⟨.inl (by decide), .inl ⟨30, by decide +kernel, by decide⟩⟩

/-- A free VRAM of sixteen digits grants a demand and is printed with fifteen, and a load of just
below 30 % is printed as 30. -/
theorem verdict_not_always_agrees :
    ¬ VerdictAgrees (text "pc") (unusedGpu 4503599627370501 0) freshReport ⟨0, 0, 0⟩
        4503599627370501 ∧
      ¬ VerdictAgrees (text "pc") (unusedGpu (8 * 2 ^ 30) (30 - 1 / 2 ^ 48)) freshReport ⟨0, 0, 0⟩
        0 := by
  constructor
  · intro agrees
    have granted : (readiness 4503599627370501 (unusedGpu 4503599627370501 0).gpus freshReport
        0 0).verdict = .fitsIdle := by decide +kernel
    obtain ⟨free, read, enough⟩ := agrees.granted .fitsIdle trivial
      (by rw [shownVerdict_readinessResponse, granted])
    have printed : shownSummary (readinessResponse (text "pc") (unusedGpu 4503599627370501 0)
        freshReport ⟨0, 0, 0⟩ 4503599627370501) (text "vram_free_bytes") =
          some 4503599627370500 := by decide +kernel
    obtain rfl := Option.some.inj (printed.symm.trans read)
    exact absurd enough (by norm_num)
  · intro agrees
    have printed : shownSummary (readinessResponse (text "pc")
        (unusedGpu (8 * 2 ^ 30) (30 - 1 / 2 ^ 48)) freshReport ⟨0, 0, 0⟩ 0) (text "max_util_pct") =
          some 30 := by decide +kernel
    have load := Option.some.inj (printed.symm.trans (agrees.util (by decide +kernel)))
    exact absurd load (by decide +kernel)

end CapacityAgent

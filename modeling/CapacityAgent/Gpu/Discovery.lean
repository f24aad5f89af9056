/-
# Thermal discovery

`discover_sensors` as it is written: an `out` that is cleared only when the object is
ready, a loop over the bits, and indices that are -1 where there is no sensor. Whatever the
driver answers, what a discovery finds is sound, and a poll that indexes the temperatures by it
stays in the array and in the mask.
-/

import CapacityAgent.Gpu.Polls
import Mathlib.Data.Nat.Bitwise
import Mathlib.Order.Bounds.Defs

namespace CapacityAgent

open Traced

/-! ## Discovery -/

/-- `NvThermalDiscovery`, with indices that are -1 where there is no sensor. -/
structure StoredDiscovery where
  mask : UInt32 := 0
  count : ℤ := 0
  coreIndex : ℤ := -1
  memjIndex : ℤ := -1
  initial : Temperatures := fun _ => 0

/-- `1u << bit`. -/
def bitMask (bit : ℕ) : UInt32 := 1 <<< UInt32.ofNat bit

/-- `temperatures[index]`, absent outside the array. -/
def temperatureAt (temps : Temperatures) (index : ℤ) : Option Int32 :=
  if inside : 0 ≤ index ∧ index < 32 then some (temps ⟨index.toNat, by omega⟩) else none

/-- What is taken over from a read for an index, where it is not negative. -/
def takeTemperature (temps : Temperatures) (index : ℤ) (put : Double → GpuSnapshot)
    (snap : GpuSnapshot) : Option GpuSnapshot :=
  if 0 ≤ index then (temperatureAt temps index).map fun raw => put (degrees raw) else some snap

/-- One turn of the loop over the bits: the mask, and the highest bit plus one. -/
def probeBit (driver : ThermalDriver) (found : UInt32 × ℤ) (bit : ℕ) : UInt32 × ℤ :=
  if (driver (bitMask bit)).isSome then (found.1 ||| bitMask bit, bit + 1) else found

/-- The loop, up to a bit. -/
def probeBelow (driver : ThermalDriver) (bits : ℕ) : UInt32 × ℤ :=
  (List.range bits).foldl (probeBit driver) (0, 0)

/-- `mem_candidates`. -/
def memCandidateIndices : List ℤ := [2, 7, 9, 8]

/-- The condition on a candidate. -/
def isMemCandidate (mask : UInt32) (maxBit : ℤ) (temps : Temperatures) (idx : ℤ) : Bool :=
  idx < maxBit && mask &&& bitMask idx.toNat != 0 &&
    (temperatureAt temps idx).any fun raw => raw != 0 && raw != sentinelRaw

/-- What is filled in after the full read. -/
def discovered (mask : UInt32) (maxBit : ℤ) (temps : Temperatures) : StoredDiscovery where
  mask := mask
  count := maxBit
  coreIndex := if 1 < maxBit && mask &&& bitMask 1 != 0 then 1 else -1
  memjIndex := (memCandidateIndices.find? (isMemCandidate mask maxBit temps)).getD (-1)
  initial := temps

namespace NvApiThermals

/-- `discover_sensors`: its result, and what it leaves in `out`. -/
def discoverInto (t : NvApiThermals) (driver : ThermalDriver) (out : StoredDiscovery) :
    Bool × StoredDiscovery :=
  if !t.ready || t.fnGetThermalU.isNone then (false, out)
  else
    let found := probeBelow driver 32
    if found.1 = 0 then (false, {})
    else
      match driver found.1 with
      | none => (false, {})
      | some temps => (true, discovered found.1 found.2 temps)

/-- `poll_thermals_undoc`, absent where it indexes outside the array. -/
def pollThermalsUndoc (t : NvApiThermals) (disc : StoredDiscovery) (driver : ThermalDriver)
    (snap : GpuSnapshot) : Option GpuSnapshot :=
  if t.ready && disc.mask != 0 then
    match t.readTemps driver disc.mask with
    | none => some snap
    | some temps =>
      (takeTemperature temps disc.coreIndex (fun c => { snap with coreC := c }) snap).bind
        fun snap => takeTemperature temps disc.memjIndex (fun c => { snap with memjnC := c }) snap
  else some snap

/-- What can become of an object: nothing but `init` and `shutdown` writes its fields. -/
inductive Made : NvApiThermals → Prop
  | fresh : Made {}
  | init {t : NvApiThermals} (earlier : Made t) (loader : NvApiLoader) (found : NvApiFn → Bool) :
      Made (t.init loader found).value
  | shutdown {t : NvApiThermals} (earlier : Made t) : Made t.shutdown

end NvApiThermals

/-! ## Soundness -/

/-- The bit is set. -/
def InMask (mask : UInt32) (bit : ℕ) : Prop := mask.toNat.testBit bit = true

instance (mask : UInt32) (bit : ℕ) : Decidable (InMask mask bit) :=
  inferInstanceAs (Decidable (mask.toNat.testBit bit = true))

namespace StoredDiscovery

variable (disc : StoredDiscovery)

/-- A sensor of the mask whose first temperature is neither 0 nor the sentinel. -/
def ShowsTemperature (idx : ℤ) : Prop :=
  InMask disc.mask idx.toNat ∧ ∃ raw ∈ temperatureAt disc.initial idx, raw ≠ 0 ∧ raw ≠ sentinelRaw

/-- What a discovery that succeeds says about the driver. -/
structure Sound (driver : ThermalDriver) : Prop where
  mask_ne : disc.mask ≠ 0
  inMask_iff : ∀ bit, InMask disc.mask bit ↔ bit < 32 ∧ driver (bitMask bit) ≠ none
  count : ∃ top, IsGreatest {bit | InMask disc.mask bit} top ∧ disc.count = top + 1
  initial : driver disc.mask = some disc.initial
  core : disc.coreIndex = if InMask disc.mask 1 then 1 else -1
  /-- The first of the candidates that shows a temperature, or -1. -/
  memj : (disc.memjIndex = -1 ∧ ∀ idx ∈ memCandidateIndices, ¬ disc.ShowsTemperature idx) ∨
    ∃ before after, memCandidateIndices = before ++ disc.memjIndex :: after ∧
      disc.ShowsTemperature disc.memjIndex ∧ ∀ idx ∈ before, ¬ disc.ShowsTemperature idx

/-- The indices that are not -1 are those of sensors in the mask. -/
def IndicesInMask : Prop :=
  ∀ index ∈ [disc.coreIndex, disc.memjIndex], 0 ≤ index →
    index ≤ 31 ∧ InMask disc.mask index.toNat

end StoredDiscovery

/-! ## The mask -/

theorem toNat_bitMask {bit : ℕ} (small : bit < 32) : (bitMask bit).toNat = 2 ^ bit := by
  have all : ∀ bit : Fin 32, (bitMask bit).toNat = 2 ^ bit.val := by decide
  exact all ⟨bit, small⟩

theorem and_bitMask_ne_zero_iff (mask : UInt32) {bit : ℕ} (small : bit < 32) :
    (mask &&& bitMask bit != 0) = true ↔ InMask mask bit := by
  rw [bne_iff_ne, ne_eq, ← UInt32.toNat_inj, UInt32.toNat_and, toNat_bitMask small, InMask,
    Nat.and_two_pow]
  cases mask.toNat.testBit bit <;> simp

theorem probeBelow_succ (driver : ThermalDriver) (bits : ℕ) :
    probeBelow driver (bits + 1) = probeBit driver (probeBelow driver bits) bits := by
  rw [probeBelow, List.range_succ, List.foldl_append]
  rfl

/-- **The loop invariant.** The mask holds the bits so far whose probe succeeded. -/
theorem inMask_probeBelow (driver : ThermalDriver) {bits : ℕ} (few : bits ≤ 32) (bit : ℕ) :
    InMask (probeBelow driver bits).1 bit ↔ bit < bits ∧ driver (bitMask bit) ≠ none := by
  induction bits with
  | zero => simp [InMask, probeBelow]
  | succ bits ih =>
    have before := ih (Nat.le_of_succ_le few)
    have mask := toNat_bitMask (show bits < 32 from few)
    rw [probeBelow_succ, probeBit]
    by_cases answers : (driver (bitMask bits)).isSome = true
    · rw [if_pos answers, InMask, UInt32.toNat_or, mask, Nat.testBit_or, Nat.testBit_two_pow,
        Bool.or_eq_true, decide_eq_true_eq]
      rw [InMask] at before
      rw [before]
      constructor
      · rintro (⟨earlier, succeeds⟩ | rfl)
        · exact ⟨Nat.lt_succ_of_lt earlier, succeeds⟩
        · exact ⟨Nat.lt_succ_self _, Option.isSome_iff_ne_none.mp answers⟩
      · rintro ⟨earlier, succeeds⟩
        rcases Nat.lt_succ_iff_lt_or_eq.mp earlier with earlier | rfl
        · exact .inl ⟨earlier, succeeds⟩
        · exact .inr rfl
    · rw [if_neg answers, before]
      refine ⟨fun ⟨earlier, succeeds⟩ => ⟨Nat.lt_succ_of_lt earlier, succeeds⟩, ?_⟩
      rintro ⟨earlier, succeeds⟩
      refine ⟨lt_of_le_of_ne (Nat.le_of_lt_succ earlier) ?_, succeeds⟩
      rintro rfl
      exact answers (Option.isSome_iff_ne_none.mpr succeeds)

/-- The other part of the invariant: the highest bit of the mask plus one. -/
theorem count_probeBelow (driver : ThermalDriver) {bits : ℕ} (few : bits ≤ 32) :
    ((∀ bit, ¬ InMask (probeBelow driver bits).1 bit) ∧ (probeBelow driver bits).2 = 0) ∨
      ∃ top, IsGreatest {bit | InMask (probeBelow driver bits).1 bit} top ∧
        (probeBelow driver bits).2 = top + 1 := by
  induction bits with
  | zero => exact .inl ⟨fun bit => by simp [InMask, probeBelow], rfl⟩
  | succ bits ih =>
    have mask := inMask_probeBelow driver few
    by_cases answers : (driver (bitMask bits)).isSome = true
    · refine .inr ⟨bits, ⟨?_, fun bit member => ?_⟩, ?_⟩
      · exact (mask bits).mpr ⟨Nat.lt_succ_self _, Option.isSome_iff_ne_none.mp answers⟩
      · exact Nat.le_of_lt_succ ((mask bit).mp member).1
      · rw [probeBelow_succ, probeBit, if_pos answers]
    · rw [probeBelow_succ, probeBit, if_neg answers]
      exact ih (Nat.le_of_succ_le few)

/-! ## The roles of the sensors -/

section Roles

variable {driver : ThermalDriver} {temps : Temperatures}

theorem lt_of_mem_memCandidateIndices {idx : ℤ} (member : idx ∈ memCandidateIndices) :
    0 ≤ idx ∧ idx < 32 := by
  have all : ∀ idx ∈ memCandidateIndices, 0 ≤ idx ∧ idx < 32 := by decide
  exact all idx member

theorem isMemCandidate_iff {mask : UInt32} {top : ℕ}
    (greatest : IsGreatest {bit | InMask mask bit} top) {idx : ℤ}
    (inside : 0 ≤ idx ∧ idx < 32) :
    isMemCandidate mask (top + 1) temps idx = true ↔
      (discovered mask (top + 1) temps).ShowsTemperature idx := by
  have bit := and_bitMask_ne_zero_iff mask (show idx.toNat < 32 by omega)
  -- a bit of the mask is below the highest plus one
  have below : InMask mask idx.toNat → idx < top + 1 := fun member => by
    have le : idx.toNat ≤ top := greatest.2 member
    omega
  rw [isMemCandidate, Bool.and_eq_true, Bool.and_eq_true, bit, decide_eq_true_eq,
    Option.any_eq_true, StoredDiscovery.ShowsTemperature, and_iff_right_of_imp below]
  simp only [Bool.and_eq_true, bne_iff_ne, discovered, Option.mem_def]

theorem coreIndex_discovered {mask : UInt32} {top : ℕ}
    (greatest : IsGreatest {bit | InMask mask bit} top) :
    (discovered mask (top + 1) temps).coreIndex = if InMask mask 1 then 1 else -1 := by
  have bit := and_bitMask_ne_zero_iff mask (show 1 < 32 by decide)
  have below : InMask mask 1 → (1 : ℤ) < top + 1 := fun member => by
    have le : 1 ≤ top := greatest.2 member
    omega
  refine if_congr ?_ rfl rfl
  rw [Bool.and_eq_true, bit, decide_eq_true_eq]
  exact and_iff_right_of_imp below

/-- The search among the candidates ends at the first that shows a temperature. -/
theorem memjIndex_discovered {mask : UInt32} {top : ℕ}
    (greatest : IsGreatest {bit | InMask mask bit} top) :
    let disc := discovered mask (top + 1) temps
    (disc.memjIndex = -1 ∧ ∀ idx ∈ memCandidateIndices, ¬ disc.ShowsTemperature idx) ∨
      ∃ before after, memCandidateIndices = before ++ disc.memjIndex :: after ∧
        disc.ShowsTemperature disc.memjIndex ∧ ∀ idx ∈ before, ¬ disc.ShowsTemperature idx := by
  have shown_iff : ∀ idx ∈ memCandidateIndices, isMemCandidate mask (top + 1) temps idx = true ↔
      (discovered mask (top + 1) temps).ShowsTemperature idx :=
    fun idx member => isMemCandidate_iff greatest (lt_of_mem_memCandidateIndices member)
  dsimp only
  cases search : memCandidateIndices.find? (isMemCandidate mask (top + 1) temps) with
  | none =>
    refine .inl ⟨by simp [discovered, search], fun idx member shown => ?_⟩
    exact List.find?_eq_none.mp search idx member ((shown_iff idx member).mpr shown)
  | some idx =>
    obtain ⟨found, before, after, splits, others⟩ := List.find?_eq_some_iff_append.mp search
    have index : (discovered mask (top + 1) temps).memjIndex = idx := by simp [discovered, search]
    rw [index]
    refine .inr ⟨before, after, splits, ?_, fun earlier member shown => ?_⟩
    · exact (shown_iff idx (List.mem_of_find?_eq_some search)).mp found
    · have listed : earlier ∈ memCandidateIndices := splits ▸ List.mem_append_left _ member
      have passedOver := others earlier member
      rw [(shown_iff earlier listed).mpr shown] at passedOver
      exact absurd passedOver (by decide)

/-- **What a discovery that succeeds finds.** -/
theorem sound_discovered (nonzero : (probeBelow driver 32).1 ≠ 0)
    (answered : driver (probeBelow driver 32).1 = some temps) :
    (discovered (probeBelow driver 32).1 (probeBelow driver 32).2 temps).Sound driver := by
  rcases count_probeBelow driver le_rfl with ⟨empty, -⟩ | ⟨top, greatest, count⟩
  · refine absurd (UInt32.toNat_inj.mp (Nat.eq_of_testBit_eq fun bit => ?_)) nonzero
    rw [UInt32.toNat_zero, Nat.zero_testBit]
    exact Bool.eq_false_iff.mpr (empty bit)
  · rw [count]
    exact ⟨nonzero, inMask_probeBelow driver le_rfl, ⟨top, greatest, rfl⟩, answered,
      coreIndex_discovered greatest, memjIndex_discovered greatest⟩

end Roles

namespace StoredDiscovery

theorem indicesInMask_default : ({} : StoredDiscovery).IndicesInMask := by
  intro index member nonneg
  simp only [List.mem_cons, List.not_mem_nil, or_false, or_self] at member
  omega

theorem Sound.indicesInMask {disc : StoredDiscovery} {driver : ThermalDriver}
    (sound : disc.Sound driver) : disc.IndicesInMask := by
  intro index member nonneg
  rcases List.mem_cons.mp member with rfl | member
  · rw [sound.core] at nonneg ⊢
    split_ifs at nonneg ⊢ with core
    · exact ⟨by decide, core⟩
    · exact absurd nonneg (by decide)
  · obtain rfl := List.mem_singleton.mp member
    rcases sound.memj with ⟨none, -⟩ | ⟨before, after, splits, shown, -⟩
    · omega
    · have inside := lt_of_mem_memCandidateIndices
        (splits ▸ List.mem_append_right before List.mem_cons_self)
      exact ⟨Int.le_of_lt_add_one inside.2, shown.1⟩

theorem isSome_takeTemperature {index : ℤ} (inside : 0 ≤ index → index ≤ 31)
    (temps : Temperatures) (put : Double → GpuSnapshot) (snap : GpuSnapshot) :
    (takeTemperature temps index put snap).isSome = true := by
  unfold takeTemperature
  split_ifs with nonneg
  · have read : temperatureAt temps index = some _ :=
      dif_pos ⟨nonneg, Int.lt_of_le_sub_one (inside nonneg)⟩
    rw [read]
    rfl
  · rfl

/-- A poll that indexes by such a discovery stays in the array. -/
theorem IndicesInMask.poll_isSome {disc : StoredDiscovery} (inMask : disc.IndicesInMask)
    (t : NvApiThermals) (driver : ThermalDriver) (snap : GpuSnapshot) :
    (t.pollThermalsUndoc disc driver snap).isSome = true := by
  unfold NvApiThermals.pollThermalsUndoc
  by_cases polls : (t.ready && disc.mask != 0) = true
  · rw [if_pos polls]
    cases t.readTemps driver disc.mask with
    | none => rfl
    | some temps =>
      have core := fun nonneg => (inMask disc.coreIndex List.mem_cons_self nonneg).1
      have memj := fun nonneg =>
        (inMask disc.memjIndex (List.mem_cons_of_mem _ List.mem_cons_self) nonneg).1
      obtain ⟨snap', first⟩ :=
        Option.isSome_iff_exists.mp (isSome_takeTemperature core temps _ snap)
      dsimp only
      rw [first, Option.bind_some]
      exact isSome_takeTemperature memj temps _ snap'
  · rw [if_neg polls]
    rfl

end StoredDiscovery

namespace NvApiThermals

variable {t : NvApiThermals}

/-- An object that is ready has the function. -/
theorem Made.fn_isSome (made : t.Made) (ready : t.ready = true) :
    t.fnGetThermalU.isSome = true := by
  induction made with
  | fresh => exact absurd ready (by decide)
  | @init t earlier loader found ih =>
    unfold NvApiThermals.init at ready ⊢
    by_cases loaded : loader.isReady = true
    · rw [if_pos loaded] at ready ⊢
      simp only [value_bind, value_pure] at ready ⊢
      cases resolved : (loader.resolve (found .getThermalSensorsUndoc)).value with
      | none =>
        rw [resolved] at ready
        exact absurd ready Bool.false_ne_true
      | some pointer => rfl
    · rw [if_neg loaded] at ready ⊢
      exact ih ready
  | shutdown earlier ih => exact absurd ready Bool.false_ne_true

/-- How a discovery goes. -/
theorem discoverInto_cases (t : NvApiThermals) (driver : ThermalDriver) (out : StoredDiscovery) :
    ((t.ready = true → t.fnGetThermalU = none) ∧ t.discoverInto driver out = (false, out)) ∨
      t.discoverInto driver out = (false, {}) ∨
      ∃ temps, (probeBelow driver 32).1 ≠ 0 ∧ driver (probeBelow driver 32).1 = some temps ∧
        t.discoverInto driver out =
          (true, discovered (probeBelow driver 32).1 (probeBelow driver 32).2 temps) := by
  unfold discoverInto
  by_cases unusable : (!t.ready || t.fnGetThermalU.isNone) = true
  · rw [if_pos unusable]
    refine .inl ⟨fun ready => ?_, rfl⟩
    rw [ready] at unusable
    exact Option.isNone_iff_eq_none.mp unusable
  · rw [if_neg unusable]
    by_cases empty : (probeBelow driver 32).1 = 0
    · exact .inr (.inl (if_pos empty))
    · dsimp only
      rw [if_neg empty]
      cases answered : driver (probeBelow driver 32).1 with
      | none => exact .inr (.inl rfl)
      | some temps => exact .inr (.inr ⟨temps, empty, rfl, rfl⟩)

/-- **Soundness.** A discovery that succeeds is sound, one that fails on a ready object leaves
the default, and later polls index inside the array and the mask. -/
theorem discoverInto_sound (made : t.Made) (driver : ThermalDriver) (out : StoredDiscovery) :
    let result := t.discoverInto driver out
    (result.1 = true → result.2.Sound driver) ∧
      (result.1 = false → t.ready = true → result.2 = {}) ∧
      (t.ready = true ∨ out.IndicesInMask → result.2.IndicesInMask ∧
        ∀ (later : NvApiThermals) (driver' : ThermalDriver) (snap : GpuSnapshot),
          (later.pollThermalsUndoc result.2 driver' snap).isSome = true) := by
  dsimp only
  rcases t.discoverInto_cases driver out with
    ⟨unusable, result⟩ | result | ⟨temps, nonzero, answered, result⟩
  · -- an object that is ready has the function
    have notReady : t.ready ≠ true := fun ready => by
      have isSome := made.fn_isSome ready
      rw [unusable ready] at isSome
      exact absurd isSome (by decide)
    rw [result]
    refine ⟨fun h => absurd h Bool.false_ne_true, fun _ ready => absurd ready notReady,
      fun known => ?_⟩
    have kept : out.IndicesInMask := known.resolve_left notReady
    exact ⟨kept, kept.poll_isSome⟩
  · have default := StoredDiscovery.indicesInMask_default
    rw [result]
    exact ⟨fun h => absurd h Bool.false_ne_true, fun _ _ => rfl,
      fun _ => ⟨default, default.poll_isSome⟩⟩
  · have sound := sound_discovered nonzero answered
    rw [result]
    exact ⟨fun _ => sound, fun h => absurd h.symm Bool.false_ne_true,
      fun _ => ⟨sound.indicesInMask, sound.indicesInMask.poll_isSome⟩⟩

/-- An object made by a loader that is ready. -/
def loaded : NvApiThermals := { ready := true, fnGetThermalU := some 1 }

theorem made_loaded : loaded.Made :=
  .init .fresh { initialized := true, queryInterface := some 1 } fun _ => true

/-- Sensors at 1, 2 and 9; the second shows the sentinel. -/
def sparseDriver : ThermalDriver := fun mask =>
  if mask ≠ 0 ∧ mask &&& 0x206 = mask then
    some fun idx => if idx = 2 then sentinelRaw else 12800
  else none

theorem discoverInto_sparseDriver :
    (loaded.discoverInto sparseDriver {}).2.Sound sparseDriver ∧
      (loaded.discoverInto sparseDriver {}).2.coreIndex = 1 ∧
      (loaded.discoverInto sparseDriver {}).2.memjIndex = 9 :=
  ⟨(discoverInto_sound made_loaded sparseDriver {}).1 (by decide), by decide, by decide⟩

end NvApiThermals

/-! ## The discovery of a probe -/

section Stored

variable (driver : ThermalDriver) (mask : UInt32) (maxBit : ℕ) (temps : Temperatures)

/-- The fields, with -1 for an index that was not found. -/
def NvThermalDiscovery.stored (disc : NvThermalDiscovery) : StoredDiscovery where
  mask := disc.mask
  count := disc.count
  coreIndex := (disc.coreIndex.map fun idx => (idx.val : ℤ)).getD (-1)
  memjIndex := (disc.memjIndex.map fun idx => (idx.val : ℤ)).getD (-1)
  initial := disc.initial

theorem bitMask_val (bit : Fin 32) : bitMask bit = sensorBit bit := rfl

theorem foldl_probeBit (bits : List (Fin 32)) :
    (bits.map Fin.val).foldl (probeBit driver) (mask, maxBit) =
      ((bits.foldl (probeSensor driver) (mask, maxBit)).1,
        ((bits.foldl (probeSensor driver) (mask, maxBit)).2 : ℤ)) := by
  induction bits generalizing mask maxBit with
  | nil => rfl
  | cons bit rest ih =>
    rw [List.map_cons, List.foldl_cons, List.foldl_cons, probeBit, probeSensor, bitMask_val]
    by_cases answers : (driver (sensorBit bit)).isSome = true
    · rw [if_pos answers, if_pos answers]
      exact ih _ _
    · rw [if_neg answers, if_neg answers]
      exact ih _ _

theorem probeBelow_eq :
    probeBelow driver 32 = ((probeSensors driver).1, ((probeSensors driver).2 : ℤ)) := by
  rw [probeBelow, ← List.map_coe_finRange_eq_range]
  exact foldl_probeBit driver 0 0 _

theorem temperatureAt_val (idx : Fin 32) : temperatureAt temps idx.val = some (temps idx) :=
  dif_pos ⟨by omega, by omega⟩

theorem isMemCandidate_val (idx : Fin 32) :
    isMemCandidate mask maxBit temps idx.val = isMemJunction mask maxBit temps idx := by
  have below : decide ((idx.val : ℤ) < maxBit) = decide (idx.val < maxBit) :=
    decide_eq_decide.mpr Nat.cast_lt
  rw [isMemCandidate, temperatureAt_val, Option.any_some, isMemJunction, below, Int.toNat_natCast,
    bitMask_val, hasSensor]
  simp only [Bool.and_assoc]

theorem stored_identifySensors :
    (identifySensors mask maxBit temps).stored = discovered mask maxBit temps := by
  have core : ((identifySensors mask maxBit temps).coreIndex.map fun idx => (idx.val : ℤ)).getD
      (-1) = (discovered mask maxBit temps).coreIndex := by
    have below : decide ((1 : ℤ) < maxBit) = decide (1 < maxBit) :=
      decide_eq_decide.mpr Nat.one_lt_cast
    have bit : (mask &&& bitMask 1 != 0) = hasSensor mask 1 := rfl
    rw [identifySensors, discovered, below, bit]
    cases (decide (1 < maxBit) && hasSensor mask 1) <;> rfl
  have memj : (identifySensors mask maxBit temps).memjIndex.map (fun idx => (idx.val : ℤ)) =
      memCandidateIndices.find? (isMemCandidate mask maxBit temps) := by
    change _ = (memCandidates.map fun idx => (idx.val : ℤ)).find? _
    rw [List.find?_map]
    have candidates : isMemCandidate mask maxBit temps ∘ (fun idx : Fin 32 => (idx.val : ℤ)) =
        isMemJunction mask maxBit temps := funext (isMemCandidate_val mask maxBit temps)
    rw [candidates]
    rfl
  rw [NvThermalDiscovery.stored, core, memj]
  rfl

theorem NvApiThermals.discoverInto_fresh (t : NvApiThermals) :
    t.discoverInto driver {} = ((t.discover driver).1, (t.discover driver).2.stored) := by
  unfold NvApiThermals.discoverInto NvApiThermals.discover
  rw [probeBelow_eq]
  have unusable : (!t.ready || t.fnGetThermalU.isNone) =
      !(t.ready && t.fnGetThermalU.isSome) := by
    rw [Bool.not_and, Option.not_isSome]
  rw [unusable]
  cases t.ready && t.fnGetThermalU.isSome with
  | true =>
    rw [Bool.not_true, if_neg Bool.false_ne_true, if_pos rfl]
    dsimp only
    by_cases empty : (probeSensors driver).1 = 0
    · rw [if_pos empty, if_pos empty]
      rfl
    · rw [if_neg empty, if_neg empty]
      cases driver (probeSensors driver).1 with
      | none => rfl
      | some temps => exact congrArg (Prod.mk true) (stored_identifySensors _ _ _).symm
  | false => rfl

/-- A poll of the probe, with its indices unchecked. -/
theorem pollThermalsUndoc_stored (p : GpuProbe) (disc : NvThermalDiscovery) (snap : GpuSnapshot) :
    p.thermals.pollThermalsUndoc disc.stored driver snap =
      some (p.readThermalsUndoc disc driver snap) := by
  unfold NvApiThermals.pollThermalsUndoc GpuProbe.readThermalsUndoc GpuProbe.thermalAnswer answered
  have mask : disc.stored.mask = disc.mask := rfl
  rw [mask]
  by_cases polls : (p.thermals.ready && disc.mask != 0) = true
  · rw [if_pos polls, if_pos polls]
    cases p.thermals.readTemps driver disc.mask with
    | none => rfl
    | some temps =>
      rcases disc with ⟨mask, count, _ | core, _ | memj, initial⟩ <;>
        simp [NvThermalDiscovery.stored, GpuSnapshot.takeTemps, takeTemperature, temperatureAt_val]
  · rw [if_neg polls, if_neg polls]
    rfl

end Stored

end CapacityAgent

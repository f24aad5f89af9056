/-
# The system section

The rows of the system statement come without an `ORDER BY`. Its loop keeps the first
CPU temperature and the last total load and used memory, so what it returns is settled
by the stored data only where the matching rows agree.
-/

import CapacityAgent.Store.ReadQueries
import CapacityAgent.Library.Reordering

namespace CapacityAgent

open Reordering

/-! ## What the loop selects -/

/-- The temperature of a row that is a CPU temperature. -/
def SystemRow.cpuTemperature? (row : SystemRow) : Option Double :=
  if row.hardwareType = text "Cpu" ∧ row.sensorType = text "Temperature" then some row.value
  else none

/-- The load of a row that is a CPU's total load. -/
def SystemRow.cpuTotalLoad? (row : SystemRow) : Option Double :=
  if row.hardwareType = text "Cpu" ∧ row.sensorType = text "Load" ∧
      contains row.sensorName "Total" then some row.value
  else none

/-- The bytes of a row that is a size of used memory. -/
def SystemRow.memoryUsed? (row : SystemRow) : Option ℤ :=
  if row.hardwareType = text "Memory" ∧ row.sensorType = text "Data" ∧
      contains row.sensorName "Used" then some (gibToBytes row.value)
  else none

/-- A row is selected for one field at most. -/
theorem SystemRow.selected_once (row : SystemRow) :
    (row.cpuTemperature?.isSome → row.cpuTotalLoad? = none ∧ row.memoryUsed? = none) ∧
      (row.cpuTotalLoad?.isSome → row.memoryUsed? = none) ∧
        (row.memoryUsed?.isSome → row.cpuTotalLoad? = none) := by
  have hardware : text "Cpu" ≠ text "Memory" := by decide
  have types : text "Temperature" ≠ text "Load" := by decide
  unfold cpuTemperature? cpuTotalLoad? memoryUsed?
  refine ⟨?_, ?_, ?_⟩
  all_goals
    intro selected
    split_ifs at selected with mine
  · rw [mine.1, mine.2]
    exact ⟨if_neg fun load => types load.2.1, if_neg fun memory => hardware memory.1⟩
  · exact absurd selected Bool.false_ne_true
  · rw [mine.1]
    exact if_neg fun memory => hardware memory.1
  · exact absurd selected Bool.false_ne_true
  · rw [mine.1]
    exact if_neg fun cpu => hardware cpu.1.symm
  · exact absurd selected Bool.false_ne_true

/-- One round of the loop, field by field. -/
theorem SystemMetrics.absorb_eq (metrics : SystemMetrics) (row : SystemRow) :
    metrics.absorb row =
      ⟨metrics.cpuPackageC.or row.cpuTemperature?, row.cpuTotalLoad?.or metrics.cpuTotalLoadPct,
        row.memoryUsed?.or metrics.memoryUsedBytes⟩ := by
  obtain ⟨fromTemperature, fromLoad, fromMemory⟩ := row.selected_once
  unfold absorb
  split_ifs with temperature load memoryLoad memory
  · have selected : row.cpuTemperature? = some row.value := if_pos temperature
    obtain ⟨noLoad, noMemory⟩ := fromTemperature (by rw [selected]; rfl)
    rw [selected, noLoad, noMemory]
    rfl
  · have selected : row.cpuTotalLoad? = some row.value := if_pos load
    have noTemperature : row.cpuTemperature? = none := if_neg temperature
    rw [selected, noTemperature, fromLoad (by rw [selected]; rfl), Option.or_none]
    rfl
  · have noTemperature : row.cpuTemperature? = none := if_neg temperature
    have noLoad : row.cpuTotalLoad? = none := if_neg load
    have noMemory : row.memoryUsed? = none := by
      refine if_neg fun size => ?_
      have types : text "Load" ≠ text "Data" := by decide
      exact types (memoryLoad.2.symm.trans size.2.1)
    rw [noTemperature, noLoad, noMemory, Option.or_none]
    rfl
  · have selected : row.memoryUsed? = some (gibToBytes row.value) := if_pos memory
    have noTemperature : row.cpuTemperature? = none := if_neg temperature
    rw [selected, noTemperature, fromMemory (by rw [selected]; rfl), Option.or_none]
    rfl
  · have noTemperature : row.cpuTemperature? = none := if_neg temperature
    have noLoad : row.cpuTotalLoad? = none := if_neg load
    have noMemory : row.memoryUsed? = none := if_neg memory
    rw [noTemperature, noLoad, noMemory, Option.or_none]
    rfl

/-- What the loop leaves: the first temperature, the last load and the last size. -/
theorem foldl_absorb (rows : List SystemRow) (metrics : SystemMetrics) :
    rows.foldl SystemMetrics.absorb metrics =
      ⟨metrics.cpuPackageC.or (rows.findSome? SystemRow.cpuTemperature?),
        (lastSome? SystemRow.cpuTotalLoad? rows).or metrics.cpuTotalLoadPct,
        (lastSome? SystemRow.memoryUsed? rows).or metrics.memoryUsedBytes⟩ := by
  induction rows generalizing metrics with
  | nil =>
    rw [List.findSome?_nil, Option.or_none]
    rfl
  | cons row rest ih =>
    rw [List.foldl_cons, ih, SystemMetrics.absorb_eq, lastSome?_cons, lastSome?_cons,
      Option.or_assoc, Option.or_assoc, Option.or_assoc, List.findSome?_cons]
    cases row.cpuTemperature? <;> rfl

/-! ## Every order -/

/-- The metrics the snapshot may show. -/
def SystemAnswer (machineId : CStr) (db : Database) (metrics : SystemMetrics) : Prop :=
  ∃ rows : List SystemRow, rows.Perm (systemRows machineId db) ∧
    metrics = rows.foldl SystemMetrics.absorb {}

/-- Each field is chosen from its own rows, independently of the others. -/
theorem systemAnswer_iff {machineId : CStr} {db : Database} {metrics : SystemMetrics} :
    SystemAnswer machineId db metrics ↔
      Selects SystemRow.cpuTemperature? (systemRows machineId db) metrics.cpuPackageC ∧
        Selects SystemRow.cpuTotalLoad? (systemRows machineId db) metrics.cpuTotalLoadPct ∧
          Selects SystemRow.memoryUsed? (systemRows machineId db) metrics.memoryUsedBytes := by
  constructor
  · rintro ⟨rows, permuted, rfl⟩
    rw [foldl_absorb, Option.or_none, Option.or_none, Option.none_or]
    exact ⟨(selects_findSome? rows).of_perm permuted, (selects_lastSome? rows).of_perm permuted,
      (selects_lastSome? rows).of_perm permuted⟩
  · rintro ⟨temperature, load, memory⟩
    obtain ⟨first, firstPerm, used, -⟩ := exists_perm_lastSome? memory
    obtain ⟨second, secondPerm, total, keepsUsed⟩ :=
      exists_perm_lastSome? (load.of_perm firstPerm.symm)
    obtain ⟨third, thirdPerm, package, keeps⟩ :=
      exists_perm_findSome? ((temperature.of_perm firstPerm.symm).of_perm secondPerm.symm)
    refine ⟨third, thirdPerm.trans (secondPerm.trans firstPerm), ?_⟩
    rw [foldl_absorb, package, keeps _ fun row isTemp => (row.selected_once.1 isTemp).1, total,
      keeps _ fun row isTemp => (row.selected_once.1 isTemp).2,
      keepsUsed _ fun row isLoad => row.selected_once.2.1 isLoad, used, Option.or_none,
      Option.or_none, Option.none_or]

/-- Any two orders of the matching rows give the same metrics. -/
def SystemDetermined (machineId : CStr) (db : Database) : Prop :=
  ∀ first second : List SystemRow, first.Perm (systemRows machineId db) →
    second.Perm (systemRows machineId db) →
      first.foldl SystemMetrics.absorb {} = second.foldl SystemMetrics.absorb {}

theorem systemDetermined_iff_answers (machineId : CStr) (db : Database) :
    SystemDetermined machineId db ↔
      ∀ first second, SystemAnswer machineId db first → SystemAnswer machineId db second →
        first = second := by
  constructor
  · rintro same first second ⟨rows, permuted, rfl⟩ ⟨rows', permuted', rfl⟩
    exact same rows rows' permuted permuted'
  · intro same rows rows' permuted permuted'
    exact same _ _ ⟨rows, permuted, rfl⟩ ⟨rows', permuted', rfl⟩

/-- **When the system section is settled by the data**: exactly when the machine's CPU
temperatures agree, its total CPU loads agree, and its sizes of used memory agree. -/
theorem systemDetermined_iff (machineId : CStr) (db : Database) :
    SystemDetermined machineId db ↔
      OneValue SystemRow.cpuTemperature? (systemRows machineId db) ∧
        OneValue SystemRow.cpuTotalLoad? (systemRows machineId db) ∧
          OneValue SystemRow.memoryUsed? (systemRows machineId db) := by
  rw [systemDetermined_iff_answers]
  obtain ⟨package, total, used⟩ := systemAnswer_iff.mp
    (⟨_, List.Perm.refl _, rfl⟩ : SystemAnswer machineId db (querySystem machineId db))
  constructor
  · intro same
    -- a field takes every value it can while the others stay as they are
    refine ⟨oneValue_iff.mpr fun first second may may' => ?_,
      oneValue_iff.mpr fun first second may may' => ?_,
      oneValue_iff.mpr fun first second may may' => ?_⟩
    · exact congrArg SystemMetrics.cpuPackageC (same ⟨first, _, _⟩ ⟨second, _, _⟩
        (systemAnswer_iff.mpr ⟨may, total, used⟩) (systemAnswer_iff.mpr ⟨may', total, used⟩))
    · exact congrArg SystemMetrics.cpuTotalLoadPct (same ⟨_, first, _⟩ ⟨_, second, _⟩
        (systemAnswer_iff.mpr ⟨package, may, used⟩) (systemAnswer_iff.mpr ⟨package, may', used⟩))
    · exact congrArg SystemMetrics.memoryUsedBytes (same ⟨_, _, first⟩ ⟨_, _, second⟩
        (systemAnswer_iff.mpr ⟨package, total, may⟩) (systemAnswer_iff.mpr ⟨package, total, may'⟩))
  · rintro ⟨onePackage, oneTotal, oneUsed⟩ first second answer answer'
    obtain ⟨temperature, load, memory⟩ := systemAnswer_iff.mp answer
    obtain ⟨temperature', load', memory'⟩ := systemAnswer_iff.mp answer'
    have samePackage := oneValue_iff.mp onePackage _ _ temperature temperature'
    have sameTotal := oneValue_iff.mp oneTotal _ _ load load'
    have sameUsed := oneValue_iff.mp oneUsed _ _ memory memory'
    cases first
    cases second
    exact congr (congr (congrArg SystemMetrics.mk samePackage) sameTotal) sameUsed

/-- A machine whose processor has two temperature sensors, of 40 and 90 degrees. -/
def twoTemperatures : Database :=
  let sensor (uid : String) : SensorRow :=
    { machineId := text "pc", source := text "librehw_bridge", hardwareUid := text uid
      hardwarePath := text "/cpu/0", hardwareName := text "CPU", hardwareType := text "Cpu"
      sensorPath := text uid, sensorName := text "Core", sensorType := text "Temperature"
      sensorIndex := 0, unit := text "C", isDefaultHidden := false, firstSeenUtcMs := 0
      lastSeenUtcMs := 0, propertiesJson := none }
  let sample (value : Double) : SampleRow :=
    { value := value, minValue := none, maxValue := none, quality := text "ok"
      source := text "librehw_bridge" }
  { Database.empty with
    sensorCatalog := (Database.empty.sensorCatalog.put (text "a") (sensor "a")).put (text "b")
      (sensor "b")
    sensorSamples := (Database.empty.sensorSamples.put ⟨text "a", 0⟩ (sample 40)).put
      ⟨text "b", 0⟩ (sample 90) }

theorem system_not_always_determined :
    ¬ ∀ machineId db, SystemDetermined machineId db := by
  intro always
  have same := always (text "pc") twoTemperatures _ _ (List.Perm.refl _) (List.reverse_perm _)
  have shown := congrArg SystemMetrics.cpuPackageC same
  exact absurd shown (by decide)

end CapacityAgent

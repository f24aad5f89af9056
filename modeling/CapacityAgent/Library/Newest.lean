/-
# Newest rows

Rows that carry a stamp, queried for the newest ones: of the whole list
(`WHERE stamp = (SELECT MAX(stamp) ...)`) or of every group (a join with
`SELECT group, MAX(stamp) ... GROUP BY group`). The maximum of no rows is NULL,
which equals nothing.
-/

import Mathlib.Data.List.Dedup
import Mathlib.Data.List.Basic
import Mathlib.Order.MinMax
import Mathlib.Tactic.Common

namespace Newest

variable {α γ τ : Type*} [DecidableEq γ] [LinearOrder τ] (group : α → γ) (stamp : α → τ)

/-- `MAX(stamp)`. -/
def maxStamp (rows : List α) : Option τ := (rows.map stamp).max?

/-- The rows that have the maximal stamp. -/
def newest (rows : List α) : List α :=
  rows.filter fun row => maxStamp stamp rows = some (stamp row)

/-- The members of a group. -/
def members (rows : List α) (g : γ) : List α := rows.filter fun row => group row = g

/-- One row for every group, with the maximum over the group. -/
def groupMax (rows : List α) : List (γ × Option τ) :=
  (rows.map group).dedup.map fun g => (g, maxStamp stamp (members group rows g))

/-- The join of the rows with `groupMax` on the group and the stamp. -/
def joinNewest (rows : List α) : List α :=
  rows.flatMap fun row =>
    ((groupMax group stamp rows).filter fun max =>
      max.1 = group row ∧ max.2 = some (stamp row)).map fun _ => row

variable {group stamp} {rows : List α} {row : α}

omit [DecidableEq γ] in
theorem maxStamp_eq_some_iff {t : τ} :
    maxStamp stamp rows = some t ↔
      (∃ row ∈ rows, stamp row = t) ∧ ∀ row ∈ rows, stamp row ≤ t := by
  rw [maxStamp, List.max?_eq_some_iff]
  simp only [List.mem_map, forall_exists_index, and_imp, forall_apply_eq_imp_iff₂]

/-- Some row attains the maximum of a list that is not empty. -/
theorem exists_maxStamp_eq (stamp : α → τ) (member : row ∈ rows) :
    ∃ top ∈ rows, maxStamp stamp rows = some (stamp top) ∧ ∀ row ∈ rows, stamp row ≤ stamp top := by
  cases top : maxStamp stamp rows with
  | none =>
    rw [maxStamp, List.max?_eq_none_iff, List.map_eq_nil_iff] at top
    exact absurd member (top ▸ List.not_mem_nil)
  | some t =>
    obtain ⟨⟨row', member', rfl⟩, largest⟩ := maxStamp_eq_some_iff.mp top
    exact ⟨row', member', rfl, largest⟩

theorem mem_newest :
    row ∈ newest stamp rows ↔ row ∈ rows ∧ ∀ other ∈ rows, stamp other ≤ stamp row := by
  rw [newest, List.mem_filter, decide_eq_true_iff, maxStamp_eq_some_iff]
  exact ⟨fun ⟨member, _, largest⟩ => ⟨member, largest⟩,
    fun ⟨member, largest⟩ => ⟨member, ⟨row, member, rfl⟩, largest⟩⟩

/-- The newest rows share one stamp. -/
theorem stamp_eq_of_mem_newest {row' : α} (first : row ∈ newest stamp rows)
    (second : row' ∈ newest stamp rows) : stamp row = stamp row' := by
  rw [mem_newest] at first second
  exact le_antisymm (second.2 row first.1) (first.2 row' second.1)

/-- A list without duplicates that has one member is a singleton. -/
theorem eq_singleton_of_nodup {α : Type*} {l : List α} {x : α} (distinct : l.Nodup)
    (member : x ∈ l) (only : ∀ y ∈ l, y = x) : l = [x] := by
  have copies : l = List.replicate l.length x := List.eq_replicate_iff.mpr ⟨rfl, only⟩
  have short : l.length ≤ 1 := by rwa [copies, List.nodup_replicate] at distinct
  have single : l.length = 1 := le_antisymm short (List.length_pos_of_mem member)
  rw [copies, single]
  rfl

omit [DecidableEq γ] in
/-- Where stamps tell the rows apart there is one newest row. -/
theorem exists_newest_eq_singleton (distinct : rows.Nodup)
    (apart : ∀ row ∈ rows, ∀ other ∈ rows, stamp row = stamp other → row = other)
    (member : row ∈ rows) :
    ∃ top ∈ rows, newest stamp rows = [top] ∧ ∀ row ∈ rows, stamp row ≤ stamp top := by
  obtain ⟨top, stored, -, largest⟩ := exists_maxStamp_eq stamp member
  have attained : top ∈ newest stamp rows := mem_newest.mpr ⟨stored, largest⟩
  have only : ∀ row ∈ newest stamp rows, row = top := fun row here =>
    apart row (mem_newest.mp here).1 top stored (stamp_eq_of_mem_newest here attained)
  exact ⟨top, stored, eq_singleton_of_nodup (distinct.filter _) attained only, largest⟩

theorem mem_members {g : γ} : row ∈ members group rows g ↔ row ∈ rows ∧ group row = g := by
  simp [members]

/-- A group occurs once among the group rows. -/
theorem filter_groupMax (member : row ∈ rows) (t : τ) :
    ((groupMax group stamp rows).filter fun max => max.1 = group row ∧ max.2 = some t) =
      if maxStamp stamp (members group rows (group row)) = some t then
        [(group row, some t)] else [] := by
  have occurs : group row ∈ (rows.map group).dedup :=
    List.mem_dedup.mpr (List.mem_map_of_mem member)
  have once : (rows.map group).dedup.filter (fun g => decide (g = group row)) = [group row] := by
    rw [List.filter_eq, List.count_eq_one_of_mem (List.nodup_dedup _) occurs]
    rfl
  rw [groupMax, List.filter_map]
  -- the group's row survives the filter when its maximum is the stamp
  split_ifs with top
  · have same : (rows.map group).dedup.filter ((fun max : γ × Option τ =>
          decide (max.1 = group row ∧ max.2 = some t)) ∘
          fun g => (g, maxStamp stamp (members group rows g))) =
        (rows.map group).dedup.filter fun g => decide (g = group row) := by
      refine List.filter_congr fun g _ => decide_eq_decide.mpr ?_
      exact ⟨fun both => both.1, fun here => ⟨here, here ▸ top⟩⟩
    rw [same, once, List.map_singleton, top]
  · rw [List.map_eq_nil_iff, List.filter_eq_nil_iff]
    intro g _ both
    obtain ⟨here, newest⟩ := of_decide_eq_true both
    exact top (here ▸ newest)

omit [DecidableEq γ] [LinearOrder τ] in
/-- Emitting the rows that satisfy a condition is filtering. -/
theorem flatMap_ite_eq_filter (keep : α → Prop) [DecidablePred keep] (rows : List α) :
    rows.flatMap (fun row => if keep row then [row] else []) = rows.filter keep := by
  induction rows with
  | nil => rfl
  | cons row rest ih =>
    rw [List.flatMap_cons, ih]
    by_cases kept : keep row
    · simp [kept]
    · simp [kept]

/-- The join lists every row that is newest in its group, once for every time the
row is stored. -/
theorem joinNewest_eq_filter (rows : List α) :
    joinNewest group stamp rows =
      rows.filter fun row =>
        maxStamp stamp (members group rows (group row)) = some (stamp row) := by
  have each : ∀ row ∈ rows,
      (((groupMax group stamp rows).filter fun max =>
        max.1 = group row ∧ max.2 = some (stamp row)).map fun _ => row) =
      if maxStamp stamp (members group rows (group row)) = some (stamp row) then [row] else [] := by
    intro row member
    rw [filter_groupMax member]
    split_ifs <;> rfl
  rw [joinNewest, List.flatMap_congr each, flatMap_ite_eq_filter]

/-- The rows of one group in the join are the newest of the group. -/
theorem members_joinNewest (rows : List α) (g : γ) :
    members group (joinNewest group stamp rows) g = newest stamp (members group rows g) := by
  rw [joinNewest_eq_filter, newest]
  simp only [members, List.filter_filter]
  refine List.filter_congr fun row _ => ?_
  -- within the group both conditions ask for the group's maximum
  by_cases here : group row = g
  · simp only [here, decide_true, Bool.true_and, Bool.and_true]
    exact decide_eq_decide.mpr Iff.rfl
  · simp [here]

end Newest

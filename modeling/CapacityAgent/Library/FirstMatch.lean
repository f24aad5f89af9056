/-
# Matching by key, else by position

Items are given slots of a keyed list: an item whose key was read takes the first
slot that has the key, any other item the slot of its own position, if there is one.
Both rules on one list can give a slot twice; this module says when they do not.
-/

import Mathlib.Data.List.Basic
import Mathlib.Tactic.Common

namespace FirstMatch

variable {κ : Type*} [DecidableEq κ] (keys : List κ)

/-- The first slot that has a key. -/
def firstSlot (k : κ) : Option ℕ := keys.findIdx? fun key => decide (key = k)

/-- The slot of the `i`-th item. -/
def slot (read : Option κ) (i : ℕ) : Option ℕ :=
  match read.bind (firstSlot keys) with
  | some s => some s
  | none => if i < keys.length then some i else none

/-- The item's key was read and some slot has it. -/
def Matched (read : Option κ) : Prop := ∃ k ∈ keys, read = some k

variable {keys}

theorem firstSlot_eq_some_iff {k : κ} {s : ℕ} :
    firstSlot keys k = some s ↔
      keys[s]? = some k ∧ ∀ earlier < s, keys[earlier]? ≠ some k := by
  rw [firstSlot, List.findIdx?_eq_some_iff_getElem]
  constructor
  · rintro ⟨bound, has, others⟩
    refine ⟨?_, fun earlier before here => ?_⟩
    · rw [List.getElem?_eq_getElem bound, of_decide_eq_true has]
    · rw [List.getElem?_eq_getElem (Nat.lt_trans before bound)] at here
      exact others earlier before (decide_eq_true (Option.some.inj here))
  · rintro ⟨has, others⟩
    obtain ⟨bound, same⟩ := List.getElem?_eq_some_iff.mp has
    refine ⟨bound, decide_eq_true same, fun earlier before here => ?_⟩
    refine others earlier before ?_
    rw [List.getElem?_eq_getElem (Nat.lt_trans before bound), of_decide_eq_true here]

theorem firstSlot_eq_none_iff {k : κ} : firstSlot keys k = none ↔ k ∉ keys := by
  rw [firstSlot, List.findIdx?_eq_none_iff]
  constructor
  · intro none member
    exact of_decide_eq_false (none k member) rfl
  · intro absent key member
    exact decide_eq_false fun same => absent (same ▸ member)

theorem exists_firstSlot {k : κ} (member : k ∈ keys) : ∃ s, firstSlot keys k = some s := by
  refine Option.ne_none_iff_exists'.mp fun none => ?_
  exact firstSlot_eq_none_iff.mp none member

theorem mem_of_firstSlot {k : κ} {s : ℕ} (first : firstSlot keys k = some s) : k ∈ keys :=
  List.mem_of_getElem? (firstSlot_eq_some_iff.mp first).1

/-- The two ways an item gets a slot. -/
theorem slot_eq_some_iff {read : Option κ} {i s : ℕ} :
    slot keys read i = some s ↔
      (∃ k, read = some k ∧ firstSlot keys k = some s) ∨
        ¬ Matched keys read ∧ s = i ∧ i < keys.length := by
  unfold slot
  cases found : read.bind (firstSlot keys) with
  | some first =>
    obtain ⟨k, has, at_⟩ := Option.bind_eq_some_iff.mp found
    have matched : Matched keys read := ⟨k, mem_of_firstSlot at_, has⟩
    simp only [Option.some.injEq, matched, not_true_eq_false, false_and, or_false]
    constructor
    · rintro rfl
      exact ⟨k, has, at_⟩
    · rintro ⟨k', has', at_'⟩
      obtain rfl := Option.some.inj (has.symm.trans has')
      exact Option.some.inj (at_.symm.trans at_')
  | none =>
    have unmatched : ∀ k, read = some k → firstSlot keys k = none := by
      rintro k rfl
      exact found
    have fallback : ¬ Matched keys read := by
      rintro ⟨k, member, has⟩
      exact firstSlot_eq_none_iff.mp (unmatched k has) member
    -- without a matching slot only the position counts
    have noFirst : ¬ ∃ k, read = some k ∧ firstSlot keys k = some s := by
      rintro ⟨k, has, at_⟩
      rw [unmatched k has] at at_
      exact absurd at_ (by simp)
    by_cases bound : i < keys.length
    · simp [bound, noFirst, fallback, eq_comm]
    · simp [bound, noFirst]

variable (keys) in
/-- The slots of all items. -/
def slots (reads : List (Option κ)) : List (Option ℕ) :=
  reads.mapIdx fun i read => slot keys read i

theorem getElem?_slots {reads : List (Option κ)} {i s : ℕ} :
    (slots keys reads)[i]? = some (some s) ↔
      ∃ read, reads[i]? = some read ∧ slot keys read i = some s := by
  rw [slots, List.getElem?_mapIdx, Option.map_eq_some_iff]

/-- No slot is given twice. -/
def OneToOne (given : List (Option ℕ)) : Prop :=
  ∀ i j s : ℕ, given[i]? = some (some s) → given[j]? = some (some s) → i = j

variable (keys) in
/-- No two items have read one key of a slot, and no item that takes its own position
finds it taken by a match. -/
structure Separate (reads : List (Option κ)) : Prop where
  apart : ∀ (i j : ℕ) (k : κ),
    reads[i]? = some (some k) → reads[j]? = some (some k) → k ∈ keys → i = j
  free : ∀ (i j : ℕ) (k : κ) (read : Option κ), reads[i]? = some (some k) →
    firstSlot keys k = some j → reads[j]? = some read → Matched keys read

/-- **When matching by key or position is one to one.** -/
theorem oneToOne_slots_iff (reads : List (Option κ)) :
    OneToOne (slots keys reads) ↔ Separate keys reads := by
  constructor
  · intro oneToOne
    refine ⟨fun i j k first second member => ?_, fun i j k read has taken here => ?_⟩
    · obtain ⟨s, at_⟩ := exists_firstSlot member
      have given : slot keys (some k) i = some s ∧ slot keys (some k) j = some s :=
        ⟨slot_eq_some_iff.mpr (.inl ⟨k, rfl, at_⟩), slot_eq_some_iff.mpr (.inl ⟨k, rfl, at_⟩)⟩
      exact oneToOne i j s (getElem?_slots.mpr ⟨_, first, given.1⟩)
        (getElem?_slots.mpr ⟨_, second, given.2⟩)
    · by_contra fallback
      obtain ⟨bound, -⟩ := List.getElem?_eq_some_iff.mp (firstSlot_eq_some_iff.mp taken).1
      -- the item at `j` falls back on the slot the other one has matched
      have same : i = j := oneToOne i j j
        (getElem?_slots.mpr ⟨_, has, slot_eq_some_iff.mpr (.inl ⟨k, rfl, taken⟩)⟩)
        (getElem?_slots.mpr ⟨_, here, slot_eq_some_iff.mpr (.inr ⟨fallback, rfl, bound⟩)⟩)
      subst same
      obtain rfl := Option.some.inj (has.symm.trans here)
      exact fallback ⟨k, mem_of_firstSlot taken, rfl⟩
  · intro separate i j s first second
    obtain ⟨read, here, given⟩ := getElem?_slots.mp first
    obtain ⟨read', here', given'⟩ := getElem?_slots.mp second
    rcases slot_eq_some_iff.mp given with ⟨k, rfl, at_⟩ | ⟨fallback, rfl, -⟩
    · rcases slot_eq_some_iff.mp given' with ⟨k', rfl, at_'⟩ | ⟨fallback, rfl, -⟩
      · -- one slot has one key
        have key := (firstSlot_eq_some_iff.mp at_).1
        obtain rfl := Option.some.inj (key.symm.trans (firstSlot_eq_some_iff.mp at_').1)
        exact separate.apart i j k here here' (mem_of_firstSlot at_)
      · exact absurd (separate.free i s k read' here at_ here') fallback
    · rcases slot_eq_some_iff.mp given' with ⟨k', rfl, at_'⟩ | ⟨-, rfl, -⟩
      · exact absurd (separate.free j s k' read here' at_' here) fallback
      · rfl

end FirstMatch

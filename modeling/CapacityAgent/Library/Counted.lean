/-
# Counted arrays

An array of a fixed size whose first elements are in use, as many as a counter beside it says.
Indices are checked: an access outside the array has no result. A copy of counted elements is a
loop over the indices, and it has a result when the count fits both arrays.
-/

import Mathlib.Data.List.OfFn
import Mathlib.Logic.Function.Basic

namespace Counted

variable {α β : Type*} {n m : ℕ}

/-- `a[i]`. -/
def read (a : Fin n → α) (i : ℕ) : Option α :=
  if inside : i < n then some (a ⟨i, inside⟩) else none

/-- `a[i] = x`. -/
def write (a : Fin n → α) (i : ℕ) (x : α) : Option (Fin n → α) :=
  if inside : i < n then some (Function.update a ⟨i, inside⟩ x) else none

/-- The elements in use. -/
def prefixOf (count : ℕ) (a : Fin n → α) : List α := (List.ofFn a).take count

/-- `for (i = 0; i < count; i++) target[i] = f(source[i])`. -/
def copy (f : α → β) (source : Fin n → α) (target : Fin m → β) : ℕ → Option (Fin m → β)
  | 0 => some target
  | count + 1 =>
    (copy f source target count).bind fun copied =>
      (read source count).bind fun x => write copied count (f x)

theorem read_of_lt {a : Fin n → α} {i : ℕ} (inside : i < n) : read a i = some (a ⟨i, inside⟩) :=
  dif_pos inside

/-- **The loop invariant.** The elements so far are copied, the others are as they were. -/
theorem copy_eq (f : α → β) (source : Fin n → α) (target : Fin m → β) {count : ℕ}
    (read_ : count ≤ n) (written : count ≤ m) :
    copy f source target count = some fun i : Fin m =>
      if used : i.val < count then f (source ⟨i, used.trans_le read_⟩) else target i := by
  induction count with
  | zero => simp [copy]
  | succ count ih =>
    rw [copy, ih (Nat.le_of_succ_le read_) (Nat.le_of_succ_le written), Option.bind_some,
      read_of_lt read_, Option.bind_some, write, dif_pos (show count < m from written)]
    refine congrArg some (funext fun i => ?_)
    by_cases last : i = ⟨count, written⟩
    · subst last
      rw [Function.update_self, dif_pos (Nat.lt_succ_self count)]
    · have other : i.val ≠ count := fun same => last (Fin.ext same)
      rw [Function.update_of_ne last]
      by_cases used : i.val < count
      · rw [dif_pos used, dif_pos (Nat.lt_succ_of_lt used)]
      · have later : ¬ i.val < count + 1 := fun less =>
          used (lt_of_le_of_ne (Nat.le_of_lt_succ less) other)
        rw [dif_neg used, dif_neg later]

theorem getElem?_prefixOf {count i : ℕ} (few : count ≤ n) (a : Fin n → α) :
    (prefixOf count a)[i]? =
      if used : i < count then some (a ⟨i, used.trans_le few⟩) else none := by
  rw [prefixOf, List.getElem?_take, List.getElem?_ofFn]
  split_ifs with used inside
  · rfl
  · exact absurd (used.trans_le few) inside
  · rfl

/-- A copy leaves the elements of the source in use in the target. -/
theorem exists_copy (f : α → β) (source : Fin n → α) (target : Fin m → β) {count : ℕ}
    (read_ : count ≤ n) (written : count ≤ m) :
    ∃ copied, copy f source target count = some copied ∧
      prefixOf count copied = (prefixOf count source).map f ∧
      ∀ i : Fin m, count ≤ i.val → copied i = target i := by
  refine ⟨_, copy_eq f source target read_ written, ?_, fun i unused => dif_neg unused.not_gt⟩
  refine List.ext_getElem? fun i => ?_
  rw [List.getElem?_map, getElem?_prefixOf written, getElem?_prefixOf read_]
  split_ifs with used
  · rfl
  · rfl

/-- No more elements can be in use than there are. -/
theorem prefixOf_of_le {count : ℕ} (many : n ≤ count) (a : Fin n → α) :
    prefixOf count a = List.ofFn a := by
  rw [prefixOf, List.take_of_length_le (by rwa [List.length_ofFn])]

theorem take_prefixOf (a : Fin n → α) (count most : ℕ) :
    (prefixOf count a).take most = prefixOf (min most count) a := by
  rw [prefixOf, prefixOf, List.take_take]

/-- The first element in use. -/
theorem head?_prefixOf {count : ℕ} (some_ : 0 < count) (a : Fin (n + 1) → α) :
    (prefixOf count a).head? = some (a 0) := by
  obtain ⟨more, rfl⟩ := Nat.exists_eq_add_one.mpr some_
  rw [prefixOf, List.ofFn_succ, List.take_succ_cons, List.head?_cons]

end Counted

/-
# Differences of rounded quantities

Two quantities of every element of a list, the lower and the upper, are rounded down
to whole units before they are subtracted. The sum of the differences is off by the
difference of what the roundings drop: it can be too great, and it is too small by
less than a unit for each element.
-/

import Mathlib.Algebra.Order.BigOperators.Group.List
import Mathlib.Algebra.Order.Ring.Nat
import Mathlib.Tactic.Common

namespace Rounding

variable {α : Type*} (unit : ℕ) (lower upper : α → ℕ)

/-- What the elements leave between the two quantities. -/
def gap (items : List α) : ℕ := (items.map fun item => upper item - lower item).sum

/-- The whole units they leave by the rounded quantities. -/
def roundedGap (items : List α) : ℕ :=
  (items.map fun item => upper item / unit - lower item / unit).sum

/-- What rounding drops of a quantity. -/
def dropped (quantity : α → ℕ) (items : List α) : ℕ :=
  (items.map fun item => quantity item % unit).sum

variable {lower upper} {items : List α}

theorem roundedGap_add_dropped (ordered : ∀ item ∈ items, lower item ≤ upper item) :
    unit * roundedGap unit lower upper items + dropped unit upper items =
      gap lower upper items + dropped unit lower items := by
  unfold roundedGap dropped gap
  induction items with
  | nil => simp
  | cons item rest ih =>
    have tail := ih fun other member => ordered other (List.mem_cons_of_mem _ member)
    have le := ordered item List.mem_cons_self
    have wholeLower := Nat.div_add_mod (lower item) unit
    have wholeUpper := Nat.div_add_mod (upper item) unit
    have rounded : unit * (lower item / unit) ≤ unit * (upper item / unit) :=
      Nat.mul_le_mul_left _ (Nat.div_le_div_right le)
    simp only [List.map_cons, List.sum_cons, Nat.mul_add, Nat.mul_sub]
    omega

theorem dropped_lt (positive : 0 < unit) (quantity : α → ℕ) (listed : items ≠ []) :
    dropped unit quantity items < items.length * unit := by
  unfold dropped
  induction items with
  | nil => exact absurd rfl listed
  | cons item rest ih =>
    have first := Nat.mod_lt (quantity item) positive
    rw [List.map_cons, List.sum_cons, List.length_cons, Nat.succ_mul]
    cases rest with
    | nil => simpa using first
    | cons next more =>
      have others := ih (List.cons_ne_nil _ _)
      omega

/-- The rounded difference is too great exactly when more is dropped of the lower
quantity than of the upper one. -/
theorem roundedGap_le_gap_iff (ordered : ∀ item ∈ items, lower item ≤ upper item) :
    unit * roundedGap unit lower upper items ≤ gap lower upper items ↔
      dropped unit lower items ≤ dropped unit upper items := by
  have balance := roundedGap_add_dropped unit ordered
  omega

theorem gap_lt_roundedGap (positive : 0 < unit)
    (ordered : ∀ item ∈ items, lower item ≤ upper item) (listed : items ≠ []) :
    gap lower upper items < unit * roundedGap unit lower upper items + items.length * unit := by
  have balance := roundedGap_add_dropped unit ordered
  have bound := dropped_lt unit positive upper listed
  omega

theorem roundedGap_take_le (n : ℕ) :
    roundedGap unit lower upper (items.take n) ≤ roundedGap unit lower upper items := by
  unfold roundedGap
  exact ((List.take_sublist n items).map _).sum_le_sum fun _ _ => Nat.zero_le _

end Rounding

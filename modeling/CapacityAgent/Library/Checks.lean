/-
# Sequences of checks

A reader in `Except` makes one check after the other and ends at the first that fails.
What it yields is then a conjunction of what the checks yield, and how it fails is how
one of them does.
-/

import Mathlib.Data.List.Forall2
import Mathlib.Tactic.Common

universe u

namespace Checks

variable {ε : Type*} {α β : Type u}

/-! ## Success -/

/-- A sequence succeeds when its parts do. -/
theorem bind_eq_ok_iff {check : Except ε α} {next : α → Except ε β} {b : β} :
    (check >>= next) = .ok b ↔ ∃ a, check = .ok a ∧ next a = .ok b := by
  cases check with
  | error e =>
    exact iff_of_false (fun failed => nomatch failed) fun ⟨_, succeeded, _⟩ => nomatch succeeded
  | ok a =>
    constructor
    · exact fun rest => ⟨a, rfl, rest⟩
    · rintro ⟨_, ⟨⟩, rest⟩
      exact rest

theorem map_eq_ok_iff {check : Except ε α} {f : α → β} {b : β} :
    check.map f = .ok b ↔ ∃ a, check = .ok a ∧ f a = b := by
  cases check with
  | error e =>
    exact iff_of_false (fun failed => nomatch failed) fun ⟨_, succeeded, _⟩ => nomatch succeeded
  | ok a =>
    constructor
    · rintro ⟨⟩
      exact ⟨a, rfl, rfl⟩
    · rintro ⟨_, ⟨⟩, rfl⟩
      rfl

/-- A list is read when its elements are, each to the entry at its place. -/
theorem mapM_eq_ok_iff {check : α → Except ε β} {items : List α} {entries : List β} :
    items.mapM check = .ok entries ↔
      List.Forall₂ (fun item entry => check item = .ok entry) items entries := by
  induction items generalizing entries with
  | nil =>
    rw [List.mapM_nil, List.forall₂_nil_left_iff]
    exact ⟨fun same => (Except.ok.inj same).symm, fun same => congrArg Except.ok same.symm⟩
  | cons item rest ih =>
    rw [List.mapM_cons, bind_eq_ok_iff, List.forall₂_cons_left_iff]
    -- the first element, and by induction the others
    refine exists_congr fun entry => ?_
    constructor
    · rintro ⟨first, later⟩
      obtain ⟨others, read, whole⟩ := bind_eq_ok_iff.mp later
      exact ⟨others, first, ih.mp read, (Except.ok.inj whole).symm⟩
    · rintro ⟨others, first, later, rfl⟩
      exact ⟨first, bind_eq_ok_iff.mpr ⟨others, ih.mpr later, rfl⟩⟩

/-- A list is read when each of its elements can be. -/
theorem exists_mapM_eq_ok_iff {check : α → Except ε β} {items : List α} :
    (∃ entries, items.mapM check = .ok entries) ↔
      ∀ item ∈ items, ∃ entry, check item = .ok entry := by
  induction items with
  | nil => exact ⟨fun _ item member => absurd member List.not_mem_nil, fun _ => ⟨[], rfl⟩⟩
  | cons item rest ih =>
    rw [List.forall_mem_cons, ← ih]
    simp only [mapM_eq_ok_iff, List.forall₂_cons_left_iff]
    constructor
    · rintro ⟨entries, entry, others, first, later, -⟩
      exact ⟨⟨entry, first⟩, others, later⟩
    · rintro ⟨⟨entry, first⟩, others, later⟩
      exact ⟨entry :: others, entry, others, first, later, rfl⟩

/-! ## Failure -/

/-- However the check fails, its error is of a kind. -/
def FailsWith (P : ε → Prop) (check : Except ε α) : Prop := ∀ e, check = .error e → P e

variable {P : ε → Prop}

theorem failsWith_ok (a : α) : FailsWith P (.ok a : Except ε α) := fun _ failed => nomatch failed

theorem failsWith_error {e : ε} (here : P e) : FailsWith P (.error e : Except ε α) := by
  rintro _ ⟨⟩
  exact here

theorem FailsWith.bind {check : Except ε α} {next : α → Except ε β} (first : FailsWith P check)
    (later : ∀ a, FailsWith P (next a)) : FailsWith P (check >>= next) := by
  cases check with
  | error e => exact failsWith_error (first e rfl)
  | ok a => exact later a

theorem FailsWith.map {check : Except ε α} (first : FailsWith P check) (f : α → β) :
    FailsWith P (check.map f) := by
  cases check with
  | error e => exact failsWith_error (first e rfl)
  | ok a => exact failsWith_ok (f a)

theorem FailsWith.mapM {check : α → Except ε β} (each : ∀ item, FailsWith P (check item))
    (items : List α) : FailsWith P (items.mapM check) := by
  induction items with
  | nil => exact failsWith_ok _
  | cons item rest ih =>
    rw [List.mapM_cons]
    exact (each item).bind fun entry => ih.bind fun others => failsWith_ok _

end Checks

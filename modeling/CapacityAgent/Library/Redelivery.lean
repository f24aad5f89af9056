/-
# Redelivery

A request is a list of updates, applied in order. Updates *overwrite* when an
update makes the same update further back irrelevant, whatever happened between.
Then a request that has been applied can be applied again, or its parts can have
been applied before it, without a trace.
-/

import Mathlib.Data.List.Basic
import Mathlib.Tactic.Common

namespace Redelivery

variable {σ α : Type*} {act : σ → α → σ} {updates : List α}

/-- Among these updates, one makes the same update further back irrelevant. -/
structure Overwriting (act : σ → α → σ) (updates : List α) : Prop where
  again : ∀ x ∈ updates, ∀ s, act (act s x) x = act s x
  later : ∀ x ∈ updates, ∀ y ∈ updates, ∀ s, act (act (act s x) y) x = act (act s y) x

/-- An update between two occurrences of itself only counts once. -/
theorem Overwriting.foldl_between (laws : Overwriting act updates) {x : α} (here : x ∈ updates)
    {between : List α} (known : ∀ y ∈ between, y ∈ updates) (s : σ) :
    act (between.foldl act (act s x)) x = act (between.foldl act s) x := by
  induction between generalizing s with
  | nil => exact laws.again x here s
  | cons y rest ih =>
    obtain ⟨first, others⟩ := List.forall_mem_cons.mp known
    -- a further occurrence of `x` next to `y` lets the law for two updates apply
    calc act (rest.foldl act (act (act s x) y)) x
        = act (rest.foldl act (act (act (act s x) y) x)) x := (ih others _).symm
      _ = act (rest.foldl act (act (act s y) x)) x := by rw [laws.later x here y first]
      _ = act (rest.foldl act (act s y)) x := ih others _

/-- An update before a request that contains it leaves no trace. -/
theorem Overwriting.foldl_act (laws : Overwriting act updates) {x : α} (here : x ∈ updates)
    (s : σ) : updates.foldl act (act s x) = updates.foldl act s := by
  obtain ⟨before, after, split⟩ := List.append_of_mem here
  have known : ∀ y ∈ before, y ∈ updates := fun y member => by
    rw [split]
    exact List.mem_append_left _ member
  rw [split, List.foldl_append, List.foldl_append, List.foldl_cons, List.foldl_cons,
    laws.foldl_between here known]

/-- Parts of a request, applied before it in any order, leave no trace. -/
theorem Overwriting.foldl_of_subset (laws : Overwriting act updates) {parts : List α}
    (known : ∀ x ∈ parts, x ∈ updates) (s : σ) :
    updates.foldl act (parts.foldl act s) = updates.foldl act s := by
  induction parts generalizing s with
  | nil => rfl
  | cons x rest ih =>
    obtain ⟨here, others⟩ := List.forall_mem_cons.mp known
    rw [List.foldl_cons, ih others, laws.foldl_act here]

/-- **A request applied twice has been applied once.** -/
theorem Overwriting.foldl_twice (laws : Overwriting act updates) (s : σ) :
    updates.foldl act (updates.foldl act s) = updates.foldl act s :=
  laws.foldl_of_subset (fun _ here => here) s

end Redelivery

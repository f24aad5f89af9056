/-
# Groups of resources

Resources that come in groups, each group with its own phases: a program that works on
one group does so whatever the phases of the others are, and leaves them alone.
-/

import CapacityAgent.Library.Lifecycle
import CapacityAgent.Library.Traced

namespace Lifecycle

open Traced Transitions

universe u

variable {κ ι H F : Type*}

/-- What is done with a resource, in its group. -/
def inGroup (k : κ) (event : ι × Action H F) : (κ × ι) × Action H F := ((k, event.1), event.2)

/-- The phases of one group. -/
def ofGroup (phases : κ × ι → Phase H) (k : κ) : ι → Phase H := fun i => phases (k, i)

/-- The phases with those of one group replaced. -/
def setGroup [DecidableEq κ] (phases : κ × ι → Phase H) (k : κ) (own : ι → Phase H) :
    κ × ι → Phase H := fun resource => if resource.1 = k then own resource.2 else phases resource

/-- A program for one group. -/
def grouped {α : Type*} (k : κ) (x : Traced (ι × Action H F) α) :
    Traced ((κ × ι) × Action H F) α := ⟨x.value, x.events.map (inGroup k)⟩

section Phases

variable [DecidableEq κ] (phases : κ × ι → Phase H) (k : κ) (own : ι → Phase H)

@[simp] theorem ofGroup_setGroup_self : ofGroup (setGroup phases k own) k = own := by
  funext i
  exact if_pos rfl

theorem ofGroup_setGroup_of_ne {l : κ} (other : l ≠ k) :
    ofGroup (setGroup phases k own) l = ofGroup phases l := by
  funext i
  exact if_neg other

@[simp] theorem setGroup_ofGroup : setGroup phases k (ofGroup phases k) = phases := by
  funext ⟨l, i⟩
  by_cases same : l = k
  · subst same
    exact if_pos rfl
  · exact if_neg same

theorem setGroup_setGroup (next : ι → Phase H) :
    setGroup (setGroup phases k own) k next = setGroup phases k next := by
  funext ⟨l, i⟩
  by_cases same : l = k
  · subst same
    exact (if_pos rfl).trans (if_pos rfl).symm
  · exact ((if_neg same).trans (if_neg same)).trans (if_neg same).symm

theorem update_inGroup [DecidableEq ι] (i : ι) (phase : Phase H) :
    Function.update phases (k, i) phase =
      setGroup phases k (Function.update (ofGroup phases k) i phase) := by
  funext ⟨l, j⟩
  by_cases same : l = k
  · subst same
    by_cases here : j = i
    · subst here
      simp [setGroup]
    · simp [setGroup, ofGroup, here]
  · simp [setGroup, same]

end Phases

section Runs

variable [DecidableEq κ] [DecidableEq ι] [DecidableEq H]

theorem nextOf_inGroup (phases : κ × ι → Phase H) (k : κ) (event : ι × Action H F) :
    nextOf phases (inGroup k event) =
      (nextOf (ofGroup phases k) event).map (setGroup phases k) := by
  obtain ⟨i, action⟩ := event
  rw [nextOf, nextOf, Option.map_map]
  exact congrArg (fun f => Option.map f _) (funext (update_inGroup phases k i))

/-- The events of one group run as they do without the others. -/
theorem exec_inGroup (phases : κ × ι → Phase H) (k : κ) (events : List (ι × Action H F)) :
    exec nextOf phases (events.map (inGroup k)) =
      (exec nextOf (ofGroup phases k) events).map (setGroup phases k) := by
  induction events generalizing phases with
  | nil => exact congrArg some (setGroup_ofGroup phases k).symm
  | cons event rest ih =>
    rw [List.map_cons, exec_cons, exec_cons, nextOf_inGroup]
    cases nextOf (ofGroup phases k) event with
    | none => rfl
    | some own =>
      rw [Option.map_some, Option.bind_some, Option.bind_some, ih, ofGroup_setGroup_self]
      exact congrArg (fun f => Option.map f _) (funext (setGroup_setGroup phases k own))

/-- What a program does with the phases of its group is all it does. -/
theorem within_grouped {α : Type u} {phases : κ × ι → Phase H} {k : κ}
    {x : Traced (ι × Action H F) α} {post : α → (ι → Phase H) → Prop}
    (within : Within nextOf (ofGroup phases k) x post) :
    Within nextOf phases (grouped k x) fun a t =>
      ∃ own, post a own ∧ t = setGroup phases k own := by
  obtain ⟨own, ran, holds⟩ := within
  refine ⟨setGroup phases k own, ?_, own, holds, rfl⟩
  rw [grouped, exec_inGroup, ran]
  rfl

end Runs

end Lifecycle

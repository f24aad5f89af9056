/-
# The life of a resource

A resource is acquired, started, used, stopped and released; some entry points may be
entered as soon as it is there. A log of a whole life is one the phases below allow, and
it is balanced: everything acquired or started is released or stopped once, never
before, and what is used is there and started.
-/

import CapacityAgent.Library.Transitions
import Mathlib.Data.List.Induction
import Mathlib.Logic.Function.Basic
import Mathlib.Tactic.Common

namespace Lifecycle

open Transitions

variable {H F : Type*}

/-- What is done with a resource, by its handle; a use goes through a pointer that may be
null. -/
inductive Action (H F : Type*)
  | acquire (h : H)
  | enter (f : F) (h : H)
  | start (h : H)
  | use (f : F) (pointer : Option H)
  | stop (h : H)
  | release (h : H)
  deriving DecidableEq

inductive Phase (H : Type*)
  | absent
  | present (h : H)
  | running (h : H)
  deriving DecidableEq

/-- The phase after an action that is allowed. -/
def Phase.next [DecidableEq H] : Phase H → Action H F → Option (Phase H)
  | .absent, .acquire h => some (.present h)
  | .present h, .enter _ h' => if h' = h then some (.present h) else none
  | .running h, .enter _ h' => if h' = h then some (.running h) else none
  | .present h, .start h' => if h' = h then some (.running h) else none
  | .running h, .use _ pointer => if pointer = some h then some (.running h) else none
  | .running h, .stop h' => if h' = h then some (.present h) else none
  | .present h, .release h' => if h' = h then some .absent else none
  | _, _ => none

/-! ## Balanced logs -/

def Action.isAcquire : Action H F → Bool
  | .acquire _ => true
  | _ => false

def Action.isRelease : Action H F → Bool
  | .release _ => true
  | _ => false

def Action.isStart : Action H F → Bool
  | .start _ => true
  | _ => false

def Action.isStop : Action H F → Bool
  | .stop _ => true
  | _ => false

/-- The handle acquired last. -/
def latest (actions : List (Action H F)) : Option H :=
  (actions.filterMap fun
    | .acquire h => some h
    | _ => none).getLast?

/-- The resource is there, by this handle. -/
structure There (actions : List (Action H F)) (h : H) : Prop where
  acquired : actions.countP Action.isAcquire = actions.countP Action.isRelease + 1
  handle : latest actions = some h

/-- It is started as well. -/
structure Live (actions : List (Action H F)) (h : H) : Prop extends There actions h where
  started : actions.countP Action.isStart = actions.countP Action.isStop + 1

/-- Acquired and released, started and stopped in turn, to the end; entered, started and
released by the handle acquired while it is there; used, through a pointer that is not
null, and stopped while it is started as well. -/
structure Balanced (actions : List (Action H F)) : Prop where
  released : actions.countP Action.isAcquire = actions.countP Action.isRelease
  stopped : actions.countP Action.isStart = actions.countP Action.isStop
  ordered : ∀ before after, actions = before ++ after →
    (before.countP Action.isRelease ≤ before.countP Action.isAcquire ∧
      before.countP Action.isAcquire ≤ before.countP Action.isRelease + 1) ∧
    before.countP Action.isStop ≤ before.countP Action.isStart ∧
      before.countP Action.isStart ≤ before.countP Action.isStop + 1
  enters : ∀ before f h after, actions = before ++ .enter f h :: after → There before h
  starts : ∀ before h after, actions = before ++ .start h :: after → There before h
  uses : ∀ before f pointer after, actions = before ++ .use f pointer :: after →
    ∃ h, pointer = some h ∧ Live before h
  stops : ∀ before h after, actions = before ++ .stop h :: after → Live before h
  releases : ∀ before h after, actions = before ++ .release h :: after → There before h

theorem latest_concat (actions : List (Action H F)) (action : Action H F) :
    latest (actions ++ [action]) =
      match action with
      | .acquire h => some h
      | _ => latest actions := by
  cases action <;> simp [latest]

/-- What the phase says about the actions that led to it. -/
structure Phase.Accounts (phase : Phase H) (actions : List (Action H F)) : Prop where
  acquired : actions.countP Action.isAcquire = actions.countP Action.isRelease +
    match phase with
    | .absent => 0
    | .present _ | .running _ => 1
  started : actions.countP Action.isStart = actions.countP Action.isStop +
    match phase with
    | .absent | .present _ => 0
    | .running _ => 1
  handle : ∀ h, phase = .present h ∨ phase = .running h → latest actions = some h

/-- Everything an allowed action can do. -/
inductive Phase.Step : Phase H → Action H F → Phase H → Prop
  | acquire (h : H) : Step .absent (.acquire h) (.present h)
  | enterPresent (f : F) (h : H) : Step (.present h) (.enter f h) (.present h)
  | enterRunning (f : F) (h : H) : Step (.running h) (.enter f h) (.running h)
  | start (h : H) : Step (.present h) (.start h) (.running h)
  | use (f : F) (h : H) : Step (.running h) (.use f (some h)) (.running h)
  | stop (h : H) : Step (.running h) (.stop h) (.present h)
  | release (h : H) : Step (.present h) (.release h) .absent

theorem Phase.step_of_next [DecidableEq H] {phase phase' : Phase H} {action : Action H F}
    (allowed : phase.next action = some phase') : phase.Step action phase' := by
  unfold Phase.next at allowed
  split at allowed
  · obtain rfl := Option.some.inj allowed
    exact .acquire _
  · split_ifs at allowed with same
    obtain rfl := Option.some.inj allowed
    exact same ▸ .enterPresent _ _
  · split_ifs at allowed with same
    obtain rfl := Option.some.inj allowed
    exact same ▸ .enterRunning _ _
  · split_ifs at allowed with same
    obtain rfl := Option.some.inj allowed
    exact same ▸ .start _
  · split_ifs at allowed with same
    obtain rfl := Option.some.inj allowed
    exact same ▸ .use _ _
  · split_ifs at allowed with same
    obtain rfl := Option.some.inj allowed
    exact same ▸ .stop _
  · split_ifs at allowed with same
    obtain rfl := Option.some.inj allowed
    exact same ▸ .release _
  · exact absurd allowed (by simp)

theorem Phase.Accounts.step {phase phase' : Phase H} {actions : List (Action H F)}
    (accounts : phase.Accounts actions) {action : Action H F}
    (taken : phase.Step action phase') : phase'.Accounts (actions ++ [action]) where
  acquired := by
    cases taken <;> simpa [Action.isAcquire, Action.isRelease] using accounts.acquired
  started := by
    cases taken <;> simpa [Action.isStart, Action.isStop] using accounts.started
  handle := by
    intro h same
    rw [latest_concat]
    cases taken with
    | acquire h' => simpa using same
    | release h' => simp at same
    | enterPresent f h' => exact accounts.handle h (by simpa using same)
    | enterRunning f h' => exact accounts.handle h (by simpa using same)
    | start h' => exact accounts.handle h (by simpa using same)
    | use f h' => exact accounts.handle h (by simpa using same)
    | stop h' => exact accounts.handle h (by simpa using same)

theorem Phase.Accounts.there_of_present {h : H} {actions : List (Action H F)}
    (accounts : (Phase.present h).Accounts actions) : There actions h :=
  ⟨accounts.acquired, accounts.handle h (.inl rfl)⟩

theorem Phase.Accounts.live {h : H} {actions : List (Action H F)}
    (accounts : (Phase.running h).Accounts actions) : Live actions h :=
  ⟨⟨accounts.acquired, accounts.handle h (.inr rfl)⟩, accounts.started⟩

section Runs

variable [DecidableEq H]

/-- A run of the phases accounts for its actions. -/
theorem accounts_of_exec {phase : Phase H} {actions : List (Action H F)}
    (ran : exec Phase.next .absent actions = some phase) : phase.Accounts actions := by
  induction actions using List.reverseRecOn generalizing phase with
  | nil =>
    obtain rfl := Option.some.inj ran
    exact ⟨rfl, rfl, by simp⟩
  | append_singleton actions action ih =>
    obtain ⟨before, ranBefore, last⟩ := exec_append_eq_some.mp ran
    obtain ⟨after, allowed, ended⟩ := exec_cons_eq_some.mp last
    obtain rfl := Option.some.inj ended
    exact (ih ranBefore).step (Phase.step_of_next allowed)

/-- In front of every action the phases were run to a phase that allows it. -/
theorem exists_step_of_exec {phase : Phase H} {before after : List (Action H F)}
    {action : Action H F} (ran : exec Phase.next .absent (before ++ action :: after) = some phase) :
    ∃ first second, Phase.Accounts first before ∧ first.Step action second := by
  obtain ⟨first, ranBefore, rest⟩ := exec_append_eq_some.mp ran
  obtain ⟨second, allowed, -⟩ := exec_cons_eq_some.mp rest
  exact ⟨first, second, accounts_of_exec ranBefore, Phase.step_of_next allowed⟩

/-- **A whole life is balanced.** -/
theorem balanced_of_exec {actions : List (Action H F)}
    (ran : exec Phase.next .absent actions = some .absent) : Balanced actions where
  released := (accounts_of_exec ran).acquired
  stopped := (accounts_of_exec ran).started
  ordered := by
    rintro before after rfl
    obtain ⟨phase, ranBefore, -⟩ := exec_append_eq_some.mp ran
    obtain ⟨acquired, started, -⟩ := accounts_of_exec ranBefore
    cases phase <;> simp only at acquired started <;> omega
  enters := by
    rintro before f h after rfl
    obtain ⟨first, second, accounts, taken⟩ := exists_step_of_exec ran
    cases taken with
    | enterPresent f h => exact accounts.there_of_present
    | enterRunning f h => exact accounts.live.toThere
  starts := by
    rintro before h after rfl
    obtain ⟨first, second, accounts, taken⟩ := exists_step_of_exec ran
    cases taken with
    | start h => exact accounts.there_of_present
  uses := by
    rintro before f pointer after rfl
    obtain ⟨first, second, accounts, taken⟩ := exists_step_of_exec ran
    cases taken with
    | use f h => exact ⟨h, rfl, accounts.live⟩
  stops := by
    rintro before h after rfl
    obtain ⟨first, second, accounts, taken⟩ := exists_step_of_exec ran
    cases taken with
    | stop h => exact accounts.live
  releases := by
    rintro before h after rfl
    obtain ⟨first, second, accounts, taken⟩ := exists_step_of_exec ran
    cases taken with
    | release h => exact accounts.there_of_present

end Runs

/-! ## Several resources -/

section Several

variable {ι : Type*} [DecidableEq ι] [DecidableEq H]

/-- The phases of resources after an action on one of them. -/
def nextOf (phases : ι → Phase H) (event : ι × Action H F) : Option (ι → Phase H) :=
  ((phases event.1).next event.2).map (Function.update phases event.1)

/-- What is done with one of them. -/
def actionsOn (resource : ι) (events : List (ι × Action H F)) : List (Action H F) :=
  (events.filter fun event => event.1 = resource).map Prod.snd

/-- The phases of each move by its own actions. -/
theorem exec_actionsOn {phases phases' : ι → Phase H} {events : List (ι × Action H F)}
    (ran : exec nextOf phases events = some phases') (resource : ι) :
    exec Phase.next (phases resource) (actionsOn resource events) = some (phases' resource) := by
  induction events generalizing phases with
  | nil => exact congrArg (fun phases => some (phases resource)) (Option.some.inj ran)
  | cons event rest ih =>
    obtain ⟨between, taken, ranOn⟩ := exec_cons_eq_some.mp ran
    obtain ⟨phase, allowed, rfl⟩ := Option.map_eq_some_iff.mp taken
    have later := ih ranOn
    by_cases own : event.1 = resource
    · subst own
      rw [Function.update_self] at later
      rw [actionsOn, List.filter_cons_of_pos (by simp), List.map_cons, exec_cons, allowed]
      exact later
    · rw [Function.update_of_ne (Ne.symm own)] at later
      rw [actionsOn, List.filter_cons_of_neg (by simpa using own)]
      exact later

end Several

end Lifecycle

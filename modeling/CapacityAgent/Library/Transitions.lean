/-
# Guarded runs of a state machine

A machine is a partial step function on states, driven by events. A run is
*guarded* when every event it takes meets a condition on the state the event is
taken in; the trivial condition gives all runs. Invariants are proved once per
step and hold of every state reached.
-/

import Mathlib.Logic.Relation

namespace Transitions

variable {σ ε : Type*}

/-- One step whose event meets the condition in the state it is taken in. -/
def GuardedStep (step : σ → ε → Option σ) (guard : σ → ε → Prop) (s t : σ) : Prop :=
  ∃ e, guard s e ∧ step s e = some t

/-- `t` is reached from `s` through steps that all meet the condition. -/
def Reaches (step : σ → ε → Option σ) (guard : σ → ε → Prop) : σ → σ → Prop :=
  Relation.ReflTransGen (GuardedStep step guard)

/-- The condition every event meets. -/
def unguarded : σ → ε → Prop := fun _ _ => True

variable {step : σ → ε → Option σ} {guard : σ → ε → Prop}

theorem Reaches.refl (s : σ) : Reaches step guard s s := Relation.ReflTransGen.refl

theorem Reaches.tail {s t u : σ} {e : ε} (run : Reaches step guard s t)
    (meets : guard t e) (taken : step t e = some u) : Reaches step guard s u :=
  Relation.ReflTransGen.tail run ⟨e, meets, taken⟩

theorem Reaches.head {s t u : σ} {e : ε} (meets : guard s e) (taken : step s e = some t)
    (run : Reaches step guard t u) : Reaches step guard s u :=
  Relation.ReflTransGen.head ⟨e, meets, taken⟩ run

/-- Dropping the condition only adds runs. -/
theorem Reaches.mono {guard' : σ → ε → Prop} (weaker : ∀ s e, guard s e → guard' s e)
    {s t : σ} (run : Reaches step guard s t) : Reaches step guard' s t := by
  induction run with
  | refl => exact Reaches.refl s
  | tail _ last ih =>
    obtain ⟨e, meets, taken⟩ := last
    exact ih.tail (weaker _ e meets) taken

/-- What every guarded step preserves holds of every state reached. -/
theorem Reaches.invariant {Inv : σ → Prop}
    (preserved : ∀ s e t, Inv s → guard s e → step s e = some t → Inv t)
    {s t : σ} (run : Reaches step guard s t) (initially : Inv s) : Inv t := by
  induction run with
  | refl => exact initially
  | tail _ last ih =>
    obtain ⟨e, meets, taken⟩ := last
    exact preserved _ e _ ih meets taken

/-- Run a list of events. -/
def exec (step : σ → ε → Option σ) : σ → List ε → Option σ
  | s, [] => some s
  | s, e :: rest =>
    match step s e with
    | none => none
    | some t => exec step t rest

theorem exec_cons (s : σ) (e : ε) (rest : List ε) :
    exec step s (e :: rest) = (step s e).bind fun t => exec step t rest := by
  rw [exec]
  cases step s e <;> rfl

theorem exec_append (s : σ) (first second : List ε) :
    exec step s (first ++ second) = (exec step s first).bind fun t => exec step t second := by
  induction first generalizing s with
  | nil => rfl
  | cons e rest ih =>
    rw [List.cons_append, exec_cons, exec_cons, Option.bind_assoc]
    exact Option.bind_congr fun next _ => ih next

theorem exec_cons_eq_some {s u : σ} {e : ε} {rest : List ε} :
    exec step s (e :: rest) = some u ↔ ∃ t, step s e = some t ∧ exec step t rest = some u := by
  rw [exec_cons, Option.bind_eq_some_iff]

theorem exec_append_eq_some {s u : σ} {first second : List ε} :
    exec step s (first ++ second) = some u ↔
      ∃ t, exec step s first = some t ∧ exec step t second = some u := by
  rw [exec_append, Option.bind_eq_some_iff]

/-- **Simulation.** Where every step from a state of the invariant is one of another machine, as
seen there, so is every run. -/
theorem exec_of_simulates {τ δ : Type*} {step' : τ → δ → Option τ} {Inv : σ → Prop} {view : σ → τ}
    {label : ε → δ}
    (simulates : ∀ s e, Inv s →
      ∃ t, step s e = some t ∧ Inv t ∧ step' (view s) (label e) = some (view t))
    {s : σ} (initially : Inv s) (events : List ε) :
    ∃ t, exec step s events = some t ∧ Inv t ∧
      exec step' (view s) (events.map label) = some (view t) := by
  induction events generalizing s with
  | nil => exact ⟨s, rfl, initially, rfl⟩
  | cons e rest ih =>
    obtain ⟨next, taken, kept, seen⟩ := simulates s e initially
    obtain ⟨t, ran, inv, ran'⟩ := ih kept
    refine ⟨t, exec_cons_eq_some.mpr ⟨next, taken, ran⟩, inv, ?_⟩
    rw [List.map_cons]
    exact exec_cons_eq_some.mpr ⟨view next, seen, ran'⟩

/-- Every event of the list meets the condition where it is taken. -/
def Meets (step : σ → ε → Option σ) (guard : σ → ε → Prop) : σ → List ε → Prop
  | _, [] => True
  | s, e :: rest =>
    guard s e ∧
      match step s e with
      | none => True
      | some t => Meets step guard t rest

instance [∀ s e, Decidable (guard s e)] : ∀ (s : σ) (events : List ε),
    Decidable (Meets step guard s events)
  | _, [] => .isTrue trivial
  | s, e :: rest =>
    have : Decidable (match step s e with
        | none => True
        | some t => Meets step guard t rest) :=
      match step s e with
      | none => .isTrue trivial
      | some t => instDecidableMeets t rest
    inferInstanceAs (Decidable (_ ∧ _))

theorem Reaches.of_exec {s t : σ} {events : List ε} (ran : exec step s events = some t)
    (meets : Meets step guard s events) : Reaches step guard s t := by
  induction events generalizing s with
  | nil => exact Option.some.inj ran ▸ Reaches.refl s
  | cons e rest ih =>
    obtain ⟨allowed, later⟩ := meets
    obtain ⟨next, taken, ranOn⟩ := exec_cons_eq_some.mp ran
    rw [taken] at later
    exact Reaches.head allowed taken (ih ranOn later)

theorem meets_unguarded (s : σ) (events : List ε) : Meets step unguarded s events := by
  induction events generalizing s with
  | nil => trivial
  | cons e rest ih =>
    refine ⟨trivial, ?_⟩
    cases step s e with
    | none => trivial
    | some next => exact ih next

/-- Under an invariant, where one condition gives another, so does a run. -/
theorem Meets.of_invariant {guard' : σ → ε → Prop} {Inv : σ → Prop}
    (preserved : ∀ s e t, Inv s → step s e = some t → Inv t)
    (weaker : ∀ s e, Inv s → guard s e → guard' s e) {s : σ} (initially : Inv s)
    {events : List ε} (meets : Meets step guard s events) : Meets step guard' s events := by
  induction events generalizing s with
  | nil => trivial
  | cons e rest ih =>
    refine ⟨weaker s e initially meets.1, ?_⟩
    have later := meets.2
    cases taken : step s e with
    | none => trivial
    | some next =>
      rw [taken] at later
      exact ih (preserved s e next initially taken) later

theorem Meets.mono {guard' : σ → ε → Prop} (weaker : ∀ s e, guard s e → guard' s e) {s : σ}
    {events : List ε} (meets : Meets step guard s events) : Meets step guard' s events :=
  have always : (fun _ : σ => True) s := trivial
  meets.of_invariant (fun _ _ _ _ _ => trivial) (fun s e _ => weaker s e) always

/-- The property holds at the start and after every event, as far as the events can be
taken. -/
def Throughout (step : σ → ε → Option σ) (P : σ → Prop) : σ → List ε → Prop
  | s, [] => P s
  | s, e :: rest =>
    P s ∧
      match step s e with
      | none => True
      | some t => Throughout step P t rest

/-- A property that a step from where it holds keeps exactly when the step meets the
condition holds throughout a run exactly when every event meets it. -/
theorem throughout_iff_meets {P : σ → Prop}
    (exact : ∀ s e t, P s → step s e = some t → (P t ↔ guard s e))
    (idle : ∀ s e, step s e = none → guard s e) {s : σ} (initially : P s) (events : List ε) :
    Throughout step P s events ↔ Meets step guard s events := by
  induction events generalizing s with
  | nil => exact iff_of_true initially trivial
  | cons e rest ih =>
    cases taken : step s e with
    | none => simp [Throughout, Meets, taken, initially, idle s e taken]
    | some t =>
      simp only [Throughout, Meets, taken, initially, true_and]
      -- once the step has broken the property, neither side holds
      by_cases meets : guard s e
      · rw [ih ((exact s e t initially taken).mpr meets)]
        exact (and_iff_right meets).symm
      · refine iff_of_false (fun later => ?_) fun both => meets both.1
        have first : P t := by
          cases rest with
          | nil => exact later
          | cons _ _ => exact later.1
        exact meets ((exact s e t initially taken).mp first)

end Transitions

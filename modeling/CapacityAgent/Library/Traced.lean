/-
# Programs that leave a trace

A program that calls its environment, as its result and the calls it makes in order.
Which call is allowed when is a state machine over the calls; the rules follow the
program text.
-/

import CapacityAgent.Library.Transitions

open Transitions

universe u

/-- A result and the events before it. -/
structure Traced (ε α : Type*) where
  value : α
  events : List ε

namespace Traced

variable {ε : Type*}

instance : Monad (Traced ε) where
  pure a := ⟨a, []⟩
  bind x f := ⟨(f x.value).value, x.events ++ (f x.value).events⟩

/-- One event. -/
def emit (e : ε) : Traced ε PUnit := ⟨⟨⟩, [e]⟩

/-- A part that is run on a condition. -/
def guarded (condition : Bool) (x : Traced ε PUnit) : Traced ε PUnit :=
  if condition then x else pure ⟨⟩

variable {α β : Type u} {σ : Type*} {step : σ → ε → Option σ}

@[simp] theorem value_pure (a : α) : (pure a : Traced ε α).value = a := rfl

@[simp] theorem events_pure (a : α) : (pure a : Traced ε α).events = [] := rfl

@[simp] theorem value_bind (x : Traced ε α) (f : α → Traced ε β) :
    (x >>= f).value = (f x.value).value := rfl

@[simp] theorem events_bind (x : Traced ε α) (f : α → Traced ε β) :
    (x >>= f).events = x.events ++ (f x.value).events := rfl

/-- From the state every event is allowed, and result and last state are as stated. -/
def Within (step : σ → ε → Option σ) (s : σ) (x : Traced ε α) (post : α → σ → Prop) : Prop :=
  ∃ t, exec step s x.events = some t ∧ post x.value t

namespace Within

variable {s : σ} {x : Traced ε α} {post post' : α → σ → Prop}

theorem of_pure {a : α} (holds : post a s) : Within step s (pure a) post := ⟨s, rfl, holds⟩

theorem of_emit {e : ε} {t : σ} {post : PUnit → σ → Prop} (allowed : step s e = some t)
    (holds : post ⟨⟩ t) : Within step s (emit e) post := by
  refine ⟨t, ?_, holds⟩
  rw [emit, exec, allowed]
  rfl

theorem mono (within : Within step s x post) (weaker : ∀ a t, post a t → post' a t) :
    Within step s x post' := by
  obtain ⟨t, ran, holds⟩ := within
  exact ⟨t, ran, weaker _ t holds⟩

/-- One part of a program after the other. -/
theorem bind {f : α → Traced ε β} {post' : β → σ → Prop} (first : Within step s x post)
    (second : ∀ a t, post a t → Within step t (f a) post') : Within step s (x >>= f) post' := by
  obtain ⟨t, ran, holds⟩ := first
  obtain ⟨u, ranOn, holdsOn⟩ := second _ t holds
  refine ⟨u, ?_, holdsOn⟩
  change exec step s (x.events ++ (f x.value).events) = some u
  rw [exec_append, ran]
  exact ranOn

theorem pure_bind {a : α} {f : α → Traced ε β} {post : β → σ → Prop}
    (second : Within step s (f a) post) : Within step s (pure a >>= f) post := second

theorem emit_bind {e : ε} {f : PUnit → Traced ε α} {t : σ} (allowed : step s e = some t)
    (second : Within step t (f ⟨⟩) post) : Within step s (emit e >>= f) post :=
  have first : Within step s (emit e) fun _ u => u = t := of_emit allowed rfl
  first.bind fun _ _ same => same ▸ second

end Within

/-- Every event is allowed and the state is as before. -/
def Keeps (step : σ → ε → Option σ) (s : σ) (x : Traced ε α) : Prop :=
  Within step s x fun _ t => t = s

namespace Keeps

variable {s : σ}

theorem of_pure (a : α) : Keeps step s (pure a : Traced ε α) := Within.of_pure rfl

theorem bind {x : Traced ε α} {f : α → Traced ε β} (first : Keeps step s x)
    (second : ∀ a, Keeps step s (f a)) : Keeps step s (x >>= f) :=
  Within.bind first fun a _ same => same ▸ second a

theorem guarded {condition : Bool} {x : Traced ε PUnit}
    (keeps : condition = true → Keeps step s x) : Keeps step s (guarded condition x) := by
  cases condition with
  | false => exact of_pure _
  | true => exact keeps rfl

end Keeps

/-! ## Programs that may end without a result -/

/-- Every event is allowed, and there is a result; it and the last state are as stated. -/
def Completes (step : σ → ε → Option σ) (s : σ) (x : OptionT (Traced ε) α)
    (post : α → σ → Prop) : Prop :=
  Within step s x.run fun result t => ∃ a, result = some a ∧ post a t

namespace Completes

variable {s : σ} {post post' : α → σ → Prop}

theorem of_pure {a : α} (holds : post a s) : Completes step s (pure a) post :=
  Within.of_pure ⟨a, rfl, holds⟩

theorem of_lift {x : Traced ε α} (within : Within step s x post) :
    Completes step s (OptionT.lift x) post :=
  within.bind fun a _ holds => Within.of_pure ⟨a, rfl, holds⟩

theorem mono {x : OptionT (Traced ε) α} (completes : Completes step s x post)
    (weaker : ∀ a t, post a t → post' a t) : Completes step s x post' :=
  Within.mono completes fun _ t ⟨a, same, holds⟩ => ⟨a, same, weaker a t holds⟩

theorem bind {x : OptionT (Traced ε) α} {f : α → OptionT (Traced ε) β} {post' : β → σ → Prop}
    (first : Completes step s x post)
    (second : ∀ a t, post a t → Completes step t (f a) post') :
    Completes step s (x >>= f) post' := by
  rw [Completes, OptionT.run_bind]
  refine Within.bind first ?_
  rintro _ t ⟨a, rfl, holds⟩
  exact second a t holds

end Completes

end Traced

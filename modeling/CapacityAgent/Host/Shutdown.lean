/-
# Stopping the agent

Three kinds of threads around two flags: the main thread in `Service::Run`, the pipe
thread in `NamedPipeServer::Run`, and console threads in `Service::Stop`, of which a
new one comes with every control event once the handler is installed. Each `Run` sets
its own flag when it gets there, so a stop that comes first is overwritten.
-/

import CapacityAgent.Library.Transitions
import Mathlib.Tactic.Common

namespace CapacityAgent.Shutdown

open Transitions

/-- Where the main thread is: before `SetConsoleCtrlHandler`, then in `Service::Run`. -/
inductive MainThread
  | configuring
  | ensuring
  | storing
  | launching
  | waiting
  | sleeping
  | stoppingPipe
  | joining
  | stoppingRest
  | returned
  deriving DecidableEq

/-- Where the pipe thread is in `NamedPipeServer::Run`; `accepting` and `receiving` are
the heads of its two loops. -/
inductive PipeThread
  | absent
  | starting
  | accepting
  | creating
  | connecting
  | receiving
  | reading
  | flushing
  | returned
  deriving DecidableEq

/-- The two flags and the threads; beside them, for the statements only, whether a stop
has cleared each flag. -/
structure Agent where
  serviceRunning : Bool
  pipeRunning : Bool
  main : MainThread
  pipe : PipeThread
  /-- Calls of `Service::Stop` between their first two stores. -/
  stopping : ℕ
  serviceStopped : Bool
  pipeStopped : Bool
  deriving DecidableEq

def initial : Agent := ⟨false, false, .configuring, .absent, 0, false, false⟩

/-- The main thread or the pipe thread takes its next step, whose call succeeds or not; a
console thread makes the first or the second store of `Service::Stop`. -/
inductive Event
  | main (ok : Bool)
  | pipe (ok : Bool)
  | stopService
  | stopPipe
  deriving DecidableEq

/-- The main thread. -/
def Agent.mainStep (s : Agent) (ok : Bool) : Option Agent :=
  match s.main with
  | .configuring => some { s with main := .ensuring }
  | .ensuring => some { s with main := if ok then .storing else .returned }
  | .storing => some { s with serviceRunning := true, main := .launching }
  | .launching => some { s with pipe := .starting, main := .waiting }
  | .waiting => some { s with main := if s.serviceRunning then .sleeping else .stoppingPipe }
  | .sleeping => some { s with main := .waiting }
  | .stoppingPipe => some { s with pipeRunning := false, pipeStopped := true, main := .joining }
  -- `join` waits for the pipe thread
  | .joining => if s.pipe = .returned then some { s with main := .stoppingRest } else none
  | .stoppingRest => some { s with main := .returned }
  | .returned => none

/-- The pipe thread; a failed `ConnectNamedPipe` goes back to the loop's head. -/
def Agent.pipeStep (s : Agent) (ok : Bool) : Option Agent :=
  match s.pipe with
  | .absent | .returned => none
  | .starting => some { s with pipeRunning := true, pipe := .accepting }
  | .accepting => some { s with pipe := if s.pipeRunning then .creating else .returned }
  | .creating => some { s with pipe := if ok then .connecting else .returned }
  | .connecting => some { s with pipe := if ok then .receiving else .accepting }
  | .receiving => some { s with pipe := if s.pipeRunning then .reading else .flushing }
  | .reading => some { s with pipe := if ok then .receiving else .flushing }
  | .flushing => some { s with pipe := .accepting }

/-- One step; `none` when it cannot be taken now. -/
def Agent.step (s : Agent) : Event → Option Agent
  | .main ok => s.mainStep ok
  | .pipe ok => s.pipeStep ok
  | .stopService =>
    if s.main = .configuring then none
    else
      some
        { s with
          serviceRunning := false
          serviceStopped := true
          stopping := s.stopping + 1 }
  | .stopPipe =>
    match s.stopping with
    | 0 => none
    | more + 1 => some { s with pipeRunning := false, pipeStopped := true, stopping := more }

/-- A stop is kept: the flag it has cleared is clear, and neither loop is entered nor
gone on with. -/
structure StopKept (s : Agent) : Prop where
  service : s.serviceStopped = true → s.serviceRunning = false
  pipe : s.pipeStopped = true → s.pipeRunning = false
  waits : s.serviceStopped = true → ∀ ok t, s.step (.main ok) = some t → t.main ≠ .sleeping
  serves : s.pipeStopped = true → ∀ ok t, s.step (.pipe ok) = some t → t.pipe ≠ .creating ∧
    (s.pipe = .receiving → t.pipe ≠ .reading)

/-! ## Stops that come after the start -/

/-- `Service::Run` has set its flag, or has returned without. -/
def MainThread.Set : MainThread → Prop
  | .configuring | .ensuring | .storing => False
  | .launching | .waiting | .sleeping | .stoppingPipe | .joining | .stoppingRest | .returned => True

instance : DecidablePred MainThread.Set
  | .configuring | .ensuring | .storing => .isFalse id
  | .launching | .waiting | .sleeping | .stoppingPipe | .joining | .stoppingRest | .returned =>
    .isTrue trivial

/-- The pipe thread has set its flag, or will never be started. -/
def Agent.PipeSet (s : Agent) : Prop :=
  s.pipe ≠ .absent ∧ s.pipe ≠ .starting ∨ s.pipe = .absent ∧ s.main = .returned

instance (s : Agent) : Decidable s.PipeSet :=
  inferInstanceAs (Decidable (_ ∨ _))

/-- No flag is cleared before the thread that serves under it has set it. -/
def StopsAfterStart (s : Agent) : Event → Prop
  | .stopService => s.main.Set
  | .stopPipe => s.PipeSet
  | .main _ => s.main = .stoppingPipe → s.PipeSet
  | .pipe _ => True

instance (s : Agent) (e : Event) : Decidable (StopsAfterStart s e) :=
  match e with
  | .stopService => inferInstanceAs (Decidable s.main.Set)
  | .stopPipe => inferInstanceAs (Decidable s.PipeSet)
  | .main _ => inferInstanceAs (Decidable (s.main = .stoppingPipe → s.PipeSet))
  | .pipe _ => .isTrue trivial

/-- The pipe thread is started by the main thread on its way to the wait loop. -/
def MainThread.Launched : MainThread → Prop
  | .configuring | .ensuring | .storing | .launching => False
  | .waiting | .sleeping | .stoppingPipe | .joining | .stoppingRest | .returned => True

structure Sound (s : Agent) : Prop where
  service : s.serviceStopped = true → s.serviceRunning = false ∧ s.main.Set
  pipe : s.pipeStopped = true → s.pipeRunning = false ∧ s.PipeSet
  launched : ¬ s.main.Launched → s.pipe = .absent

theorem sound_initial : Sound initial where
  service := fun stopped => absurd stopped (by simp [initial])
  pipe := fun stopped => absurd stopped (by simp [initial])
  launched := fun _ => rfl

theorem MainThread.Launched.set {main : MainThread} (launched : main.Launched) : main.Set := by
  cases main with
  | configuring | ensuring | storing => exact launched
  | _ => trivial

/-- Before the service's flag is set nobody has stopped anything, so a step of the main
thread has nothing to overwrite. -/
theorem Sound.prepare {s t : Agent} (sound : Sound s) (early : ¬ s.main.Set)
    (samePipe : t.pipe = s.pipe) (sameService : t.serviceStopped = s.serviceStopped)
    (sameStopped : t.pipeStopped = s.pipeStopped) : Sound t := by
  have absent := sound.launched fun launched => early launched.set
  refine ⟨fun stopped => ?_, fun stopped => ?_, fun _ => samePipe.trans absent⟩
  · exact absurd (sound.service (sameService ▸ stopped)).2 early
  · rcases (sound.pipe (sameStopped ▸ stopped)).2 with ⟨present, -⟩ | ⟨-, returned⟩
    · exact absurd absent present
    · rw [returned] at early
      exact absurd trivial early

/-- Behind the launch the main thread moves on without a flag. -/
theorem Sound.advance {s : Agent} (sound : Sound s) (still : s.main ≠ .returned)
    {main : MainThread} (launched : main.Launched) : Sound { s with main := main } where
  service := fun stopped => ⟨(sound.service stopped).1, launched.set⟩
  pipe := fun stopped => ⟨(sound.pipe stopped).1,
    .inl ((sound.pipe stopped).2.resolve_right fun ended => still ended.2)⟩
  launched := fun early => absurd launched early

theorem Sound.mainStep {s t : Agent} (sound : Sound s) {ok : Bool}
    (late : StopsAfterStart s (.main ok)) (taken : s.mainStep ok = some t) : Sound t := by
  obtain ⟨serviceRunning, pipeRunning, main, pipe, stopping, serviceStopped, pipeStopped⟩ := s
  cases main with
  | configuring | ensuring | storing =>
    obtain rfl := Option.some.inj taken
    exact sound.prepare id rfl rfl rfl
  | launching =>
    obtain rfl := Option.some.inj taken
    have absent : pipe = .absent := sound.launched id
    refine ⟨fun stopped => ⟨(sound.service stopped).1, trivial⟩, fun stopped => ?_,
      fun early => absurd trivial early⟩
    exact absurd (sound.pipe stopped).2 (by simp [Agent.PipeSet, absent])
  | waiting =>
    obtain rfl := Option.some.inj taken
    refine sound.advance (by simp) ?_
    cases serviceRunning <;> trivial
  | sleeping | stoppingRest =>
    obtain rfl := Option.some.inj taken
    exact sound.advance (by simp) trivial
  | stoppingPipe =>
    obtain rfl := Option.some.inj taken
    refine ⟨fun stopped => ⟨(sound.service stopped).1, trivial⟩, fun _ => ⟨rfl, ?_⟩,
      fun early => absurd trivial early⟩
    exact .inl ((late rfl).resolve_right (by simp))
  | joining =>
    simp only [Agent.mainStep] at taken
    split_ifs at taken with done
    obtain rfl := Option.some.inj taken
    exact sound.advance (by simp) trivial
  | returned => exact absurd taken (by simp [Agent.mainStep])

/-- The pipe thread only writes the flag as its first step. -/
theorem pipeStep_frame {s t : Agent} {ok : Bool} (taken : s.pipeStep ok = some t) :
    t.serviceRunning = s.serviceRunning ∧ t.serviceStopped = s.serviceStopped ∧
      t.pipeStopped = s.pipeStopped ∧ t.main = s.main ∧ s.pipe ≠ .absent ∧
      t.pipe ≠ .absent ∧ t.pipe ≠ .starting ∧
      (s.pipe ≠ .starting → t.pipeRunning = s.pipeRunning) := by
  obtain ⟨serviceRunning, pipeRunning, main, pipe, stopping, serviceStopped, pipeStopped⟩ := s
  cases pipe with
  | absent => exact absurd taken (by simp [Agent.pipeStep])
  | returned => exact absurd taken (by simp [Agent.pipeStep])
  | starting =>
    obtain rfl := Option.some.inj taken
    simp
  | accepting =>
    obtain rfl := Option.some.inj taken
    cases pipeRunning <;> simp
  | receiving =>
    obtain rfl := Option.some.inj taken
    cases pipeRunning <;> simp
  | flushing =>
    obtain rfl := Option.some.inj taken
    simp
  | _ =>
    obtain rfl := Option.some.inj taken
    cases ok <;> simp

theorem Sound.pipeStep {s t : Agent} (sound : Sound s) {ok : Bool}
    (taken : s.pipeStep ok = some t) : Sound t := by
  obtain ⟨sameService, sameStopped, samePipeStopped, sameMain, present, stays, past, sameFlag⟩ :=
    pipeStep_frame taken
  refine ⟨fun stopped => ?_, fun stopped => ?_, fun early => ?_⟩
  · rw [sameService, sameMain]
    exact sound.service (sameStopped ▸ stopped)
  · obtain ⟨clear, set⟩ := sound.pipe (samePipeStopped ▸ stopped)
    -- a cleared flag means that the thread is past its first step
    rcases set with ⟨-, later⟩ | ⟨absent, -⟩
    · exact ⟨by rw [sameFlag later, clear], .inl ⟨stays, past⟩⟩
    · exact absurd absent present
  · exact absurd (sound.launched (sameMain ▸ early)) present

theorem Sound.step {s t : Agent} {e : Event} (sound : Sound s) (late : StopsAfterStart s e)
    (taken : s.step e = some t) : Sound t := by
  cases e with
  | main ok => exact sound.mainStep late taken
  | pipe ok => exact sound.pipeStep taken
  | stopService =>
    simp only [Agent.step] at taken
    split_ifs at taken with early
    obtain rfl := Option.some.inj taken
    exact ⟨fun _ => ⟨rfl, late⟩, sound.pipe, sound.launched⟩
  | stopPipe =>
    simp only [Agent.step] at taken
    split at taken
    next => exact absurd taken (by simp)
    next =>
      obtain rfl := Option.some.inj taken
      exact ⟨sound.service, fun _ => ⟨rfl, late⟩, sound.launched⟩

/-- A cleared flag keeps the threads out of their loops. -/
theorem Sound.stopKept {s : Agent} (sound : Sound s) : StopKept s where
  service := fun stopped => (sound.service stopped).1
  pipe := fun stopped => (sound.pipe stopped).1
  waits := by
    intro stopped ok t taken
    obtain ⟨clear, -⟩ := sound.service stopped
    obtain ⟨serviceRunning, pipeRunning, main, pipe, stopping, serviceStopped, pipeStopped⟩ := s
    obtain rfl : serviceRunning = false := clear
    cases main with
    | returned => exact absurd taken (by simp [Agent.step, Agent.mainStep])
    | joining =>
      simp only [Agent.step, Agent.mainStep] at taken
      split_ifs at taken
      obtain rfl := Option.some.inj taken
      simp
    | ensuring =>
      obtain rfl := Option.some.inj taken
      cases ok <;> simp
    | _ =>
      obtain rfl := Option.some.inj taken
      simp
  serves := by
    intro stopped ok t taken
    obtain ⟨clear, -⟩ := sound.pipe stopped
    obtain ⟨serviceRunning, pipeRunning, main, pipe, stopping, serviceStopped, pipeStopped⟩ := s
    obtain rfl : pipeRunning = false := clear
    cases pipe with
    | absent => exact absurd taken (by simp [Agent.step, Agent.pipeStep])
    | returned => exact absurd taken (by simp [Agent.step, Agent.pipeStep])
    | accepting =>
      obtain rfl := Option.some.inj taken
      simp
    | receiving =>
      obtain rfl := Option.some.inj taken
      simp
    | starting =>
      obtain rfl := Option.some.inj taken
      simp
    | flushing =>
      obtain rfl := Option.some.inj taken
      simp
    | _ =>
      obtain rfl := Option.some.inj taken
      cases ok <;> simp

/-- **A stop is never lost** in any run, of any number of console stops, in which no flag is
cleared before the thread that serves under it has set it. -/
theorem stop_kept {s : Agent} (run : Reaches Agent.step StopsAfterStart initial s) :
    StopKept s :=
  (run.invariant (fun _ _ _ sound late taken => sound.step late taken) sound_initial).stopKept

/-- Any other clearing of the service's flag is lost when the main thread gets to its
store. -/
theorem lost_of_early_stopService {s t : Agent} (early : ¬ StopsAfterStart s .stopService)
    (taken : s.step .stopService = some t) :
    ∃ run u, exec Agent.step t run = some u ∧
      u.serviceStopped = true ∧ u.serviceRunning = true := by
  obtain ⟨serviceRunning, pipeRunning, main, pipe, stopping, serviceStopped, pipeStopped⟩ := s
  simp only [Agent.step] at taken
  split_ifs at taken with unconfigured
  obtain rfl := Option.some.inj taken
  cases main with
  | configuring => exact absurd rfl unconfigured
  | ensuring => exact ⟨[.main true, .main true], _, rfl, rfl, rfl⟩
  | storing => exact ⟨[.main true], _, rfl, rfl, rfl⟩
  | _ => exact absurd trivial early

/-! ## A lost stop, and a kept one -/

/-- Ctrl+C while the schema is being set up. -/
def earlyStop : List Event :=
  [.main true, .stopService, .stopPipe, .main true, .main true, .main true]

/-- A stop during start-up is lost: the main thread goes into its wait loop with a flag
that is set. -/
theorem stop_not_always_kept :
    ¬ ∀ s, Reaches Agent.step unguarded initial s → StopKept s := by
  intro kept
  have ran : exec Agent.step initial earlyStop =
      some ⟨true, false, .waiting, .starting, 0, true, true⟩ := rfl
  have lost := (kept _ (Reaches.of_exec ran (meets_unguarded _ _))).service rfl
  exact absurd lost (by simp)

/-- Ctrl+C while the pipe thread is waiting for a client. -/
def timelyStop : List Event :=
  [.main true, .main true, .main true, .main true, .pipe true, .pipe true, .pipe true,
    .main true, .stopService, .stopPipe, .pipe false, .pipe true, .main true, .main true,
    .main true, .main true, .main true]

theorem stop_kept_timelyStop :
    ∃ s, exec Agent.step initial timelyStop = some s ∧ s.main = .returned ∧
      s.serviceStopped = true ∧ s.pipeStopped = true ∧ StopKept s := by
  have ran : exec Agent.step initial timelyStop =
      some ⟨false, false, .returned, .returned, 0, true, true⟩ := rfl
  exact ⟨_, ran, rfl, rfl, rfl, stop_kept (Reaches.of_exec ran (by decide))⟩

end CapacityAgent.Shutdown

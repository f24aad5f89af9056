/-
# The server thread

`HttpServer::Start`, `Stop` and the destructor, called one after the other by the
owner, against the thread they start. `running_` stands for "serving" and for "there
is a thread to join", but a failed `listen` clears it from the server thread, and a
`Stop` that finds it cleared does not join. A `std::thread` that is destroyed or
assigned to while joinable terminates the process.
-/

import CapacityAgent.Library.Transitions
import Mathlib.Tactic.Common

namespace CapacityAgent.HttpServer

open Transitions

/-- Where the server thread is. `listen` binds, then accepts until its socket is closed,
and may fail at any moment. -/
inductive ServerThread
  | binding
  | accepting (closed : Bool)
  | failed
  | finished
  deriving DecidableEq

/-- Where the owner is in the call it is making; in `Stop`, with whether the destructor
made the call. -/
inductive Owner
  | idle
  | starting
  | spawning
  | stopping (destroying : Bool)
  | joining (destroying : Bool)
  | clearing (destroying : Bool)
  | destroying
  | gone
  deriving DecidableEq

/-- `running_`, the thread that `thread_` owns, the owner, and whether `std::terminate`
has been called. -/
structure Server where
  running : Bool
  thread : Option ServerThread
  owner : Owner
  terminated : Bool
  deriving DecidableEq

def initial : Server := ⟨false, none, .idle, false⟩

/-- The owner calls `Start`, `Stop` or the destructor, or takes its next step in the
call; or the server thread moves on in `Run`. -/
inductive Event
  | start
  | stop
  | destroy
  | owner
  | listens
  | listenFails
  | listenEnds
  | clears
  deriving DecidableEq

/-- `svr_->stop()`, which does nothing before `listen` has come to its loop. -/
def ServerThread.close : ServerThread → ServerThread
  | .accepting _ => .accepting true
  | .binding => .binding
  | .failed => .failed
  | .finished => .finished

/-- What the owner goes on with after `Stop`. -/
def afterStop (destroying : Bool) : Owner := if destroying then .destroying else .idle

/-- The next step of the owner's call. -/
def Server.advance (s : Server) : Option Server :=
  match s.owner with
  | .idle | .gone => none
  | .starting => some { s with running := true, owner := .spawning }
  | .spawning =>
    match s.thread with
    | none => some { s with thread := some .binding, owner := .idle }
    -- the assignment to a joinable thread
    | some _ => some { s with terminated := true, owner := .gone }
  | .stopping destroying =>
    some { s with thread := s.thread.map ServerThread.close, owner := .joining destroying }
  | .joining destroying =>
    match s.thread with
    | none => some { s with owner := .clearing destroying }
    | some .finished => some { s with thread := none, owner := .clearing destroying }
    -- `join` waits for the thread
    | some _ => none
  | .clearing destroying => some { s with running := false, owner := afterStop destroying }
  | .destroying =>
    match s.thread with
    | none => some { s with owner := .gone }
    -- the destruction of a joinable thread
    | some _ => some { s with terminated := true, owner := .gone }

/-- A call, by the owner when it is making none. -/
def Server.call (s : Server) (next : Owner) : Option Server :=
  if s.owner = .idle then some { s with owner := next } else none

/-- One step; `none` when it cannot be taken now. -/
def Server.step (s : Server) : Event → Option Server
  | .start => s.call (if s.running then .idle else .starting)
  | .stop => s.call (if s.running then .stopping false else .idle)
  | .destroy => s.call (if s.running then .stopping true else .destroying)
  | .owner => s.advance
  | .listens =>
    match s.thread with
    | some .binding => some { s with thread := some (.accepting false) }
    | _ => none
  | .listenFails =>
    match s.thread with
    | some .binding | some (.accepting _) => some { s with thread := some .failed }
    | _ => none
  | .listenEnds =>
    match s.thread with
    | some (.accepting true) => some { s with thread := some .finished }
    | _ => none
  | .clears =>
    match s.thread with
    | some .failed => some { s with running := false, thread := some .finished }
    | _ => none

/-- The server thread only clears the flag while a `Stop` that has found it set is
about to join. -/
def ClearsWhileStopping (s : Server) : Event → Prop
  | .clears => ∃ destroying, s.owner = .stopping destroying ∨ s.owner = .joining destroying
  | _ => True

instance (s : Server) (e : Event) : Decidable (ClearsWhileStopping s e) :=
  match e with
  | .clears => inferInstanceAs (Decidable
      (∃ destroying, s.owner = .stopping destroying ∨ s.owner = .joining destroying))
  | .start | .stop | .destroy | .owner | .listens | .listenFails | .listenEnds =>
    .isTrue trivial

/-! ## The flag and the thread -/

/-- Between calls the flag says whether there is a thread; inside them the owner knows. -/
def Server.FlagAgrees (s : Server) : Prop :=
  match s.owner with
  | .idle => s.running = s.thread.isSome
  | .spawning => s.running = true ∧ s.thread = none
  | .stopping _ | .joining _ => True
  | .starting | .clearing _ | .destroying | .gone => s.thread = none

structure Sound (s : Server) : Prop where
  alive : s.terminated = false
  flag : s.FlagAgrees

theorem sound_initial : Sound initial := ⟨rfl, rfl⟩

/-- Where the flag agrees and is clear, there is no thread. -/
theorem thread_eq_none {s : Server} (agrees : s.running = s.thread.isSome)
    (clear : s.running = false) : s.thread = none := by
  rw [clear] at agrees
  exact Option.not_isSome_iff_eq_none.mp (by rw [← agrees]; simp)

/-- A call starts from an agreeing flag and knows what it has read. -/
theorem Sound.call {s t : Server} (sound : Sound s) {next : Owner} (called : s.call next = some t)
    (knows : s.running = s.thread.isSome → { s with owner := next : Server }.FlagAgrees) :
    Sound t := by
  unfold Server.call at called
  split_ifs at called with idle
  obtain rfl := Option.some.inj called
  have flag := sound.flag
  rw [Server.FlagAgrees, idle] at flag
  exact ⟨sound.alive, knows flag⟩

/-- No step of a call finds a thread where it needs none. -/
theorem Sound.advance {s t : Server} (sound : Sound s) (taken : s.advance = some t) : Sound t := by
  obtain ⟨running, thread, owner, terminated⟩ := s
  obtain ⟨alive, flag⟩ := sound
  cases owner with
  | idle => exact absurd taken (by simp [Server.advance])
  | gone => exact absurd taken (by simp [Server.advance])
  | starting =>
    obtain rfl := Option.some.inj taken
    exact ⟨alive, rfl, flag⟩
  | spawning =>
    obtain ⟨set, none⟩ := flag
    subst none
    obtain rfl := Option.some.inj taken
    exact ⟨alive, set⟩
  | stopping destroying =>
    obtain rfl := Option.some.inj taken
    exact ⟨alive, trivial⟩
  | joining destroying =>
    -- whether it joins or finds nothing to join, no thread is left
    cases thread with
    | none =>
      obtain rfl := Option.some.inj taken
      exact ⟨alive, rfl⟩
    | some phase =>
      cases phase with
      | finished =>
        obtain rfl := Option.some.inj taken
        exact ⟨alive, rfl⟩
      | _ => exact absurd taken (by simp [Server.advance])
  | clearing destroying =>
    have none : thread = none := flag
    subst none
    obtain rfl := Option.some.inj taken
    cases destroying <;> exact ⟨alive, rfl⟩
  | destroying =>
    have none : thread = none := flag
    subst none
    obtain rfl := Option.some.inj taken
    exact ⟨alive, rfl⟩

/-- What the server thread does to itself leaves the flag as it is. -/
theorem Sound.thread {s : Server} (sound : Sound s) {phase : ServerThread}
    (has : s.thread = some phase) (next : ServerThread) :
    Sound { s with thread := some next } := by
  obtain ⟨running, thread, owner, terminated⟩ := s
  obtain ⟨alive, flag⟩ := sound
  subst has
  refine ⟨alive, ?_⟩
  cases owner with
  | idle => exact flag
  | spawning => exact absurd flag.2 (by simp)
  | stopping destroying => trivial
  | joining destroying => trivial
  | _ => exact absurd flag (by simp [Server.FlagAgrees])

theorem Sound.step {s t : Server} {e : Event} (sound : Sound s) (late : ClearsWhileStopping s e)
    (taken : s.step e = some t) : Sound t := by
  cases e with
  | start =>
    refine sound.call taken fun agrees => ?_
    cases set : s.running with
    | true =>
      rw [set] at agrees
      exact agrees
    | false =>
      have none : s.thread = none := thread_eq_none agrees set
      exact none
  | stop =>
    refine sound.call taken fun agrees => ?_
    cases set : s.running with
    | true => trivial
    | false =>
      rw [set] at agrees
      exact agrees
  | destroy =>
    refine sound.call taken fun agrees => ?_
    cases set : s.running with
    | true => trivial
    | false =>
      have none : s.thread = none := thread_eq_none agrees set
      exact none
  | owner => exact sound.advance taken
  | listens =>
    simp only [Server.step] at taken
    split at taken
    next has =>
      obtain rfl := Option.some.inj taken
      exact sound.thread has _
    next => exact absurd taken (by simp)
  | listenFails =>
    simp only [Server.step] at taken
    split at taken
    next has =>
      obtain rfl := Option.some.inj taken
      exact sound.thread has _
    next has =>
      obtain rfl := Option.some.inj taken
      exact sound.thread has _
    next => exact absurd taken (by simp)
  | listenEnds =>
    simp only [Server.step] at taken
    split at taken
    next has =>
      obtain rfl := Option.some.inj taken
      exact sound.thread has _
    next => exact absurd taken (by simp)
  | clears =>
    simp only [Server.step] at taken
    split at taken
    next has =>
      obtain rfl := Option.some.inj taken
      -- the owner is in `Stop` and joins whatever the flag says
      obtain ⟨destroying, stopping | joining⟩ := late
      · exact ⟨sound.alive, by simp [Server.FlagAgrees, stopping]⟩
      · exact ⟨sound.alive, by simp [Server.FlagAgrees, joining]⟩
    next => exact absurd taken (by simp)

/-- **No joinable thread is destroyed or assigned to** in any run of calls, failures and
destruction in which the server thread clears the flag only while a `Stop` that has
found it set is about to join. -/
theorem never_terminated {s : Server}
    (run : Reaches Server.step ClearsWhileStopping initial s) : s.terminated = false :=
  (run.invariant (fun _ _ _ sound late taken => sound.step late taken) sound_initial).alive

/-- Any other clearing is fatal: the destructor finds the flag cleared, does not join and
destroys the thread. -/
theorem terminated_of_cleared {s t : Server}
    (run : Reaches Server.step ClearsWhileStopping initial s)
    (early : ¬ ClearsWhileStopping s .clears) (taken : s.step .clears = some t) :
    ∃ u, exec Server.step t [.destroy, .owner] = some u ∧ u.terminated = true := by
  have sound := run.invariant (fun _ _ _ sound late taken => sound.step late taken) sound_initial
  obtain ⟨running, thread, owner, terminated⟩ := s
  simp only [Server.step] at taken
  split at taken
  next =>
    obtain rfl := Option.some.inj taken
    have flag := sound.flag
    -- with a thread about, the owner is between calls or in a `Stop`
    cases owner with
    | idle => exact ⟨_, rfl, rfl⟩
    | stopping destroying => exact absurd ⟨destroying, .inl rfl⟩ early
    | joining destroying => exact absurd ⟨destroying, .inr rfl⟩ early
    | spawning => exact absurd flag.2 (by simp)
    | _ => exact absurd flag (by simp [Server.FlagAgrees])
  next => exact absurd taken (by simp)

/-- A port that is taken: `listen` fails on a started server, which is then destroyed. -/
def portTaken : List Event :=
  [.start, .owner, .owner, .listenFails, .clears, .destroy, .owner]

theorem sometimes_terminated :
    ¬ ∀ s, Reaches Server.step unguarded initial s → s.terminated = false := by
  intro never
  have ran : exec Server.step initial portTaken =
      some ⟨false, some .finished, .gone, true⟩ := rfl
  exact absurd (never _ (Reaches.of_exec ran (meets_unguarded _ _))) (by simp)

/-- A server that is started, stopped while `listen` fails, started again and destroyed. -/
def stoppedInTime : List Event :=
  [.start, .owner, .owner, .listens, .stop, .listenFails, .owner, .clears, .owner, .owner,
    .start, .owner, .owner, .listens, .destroy, .owner, .listenEnds, .owner, .owner, .owner]

theorem never_terminated_stoppedInTime :
    ∃ s, exec Server.step initial stoppedInTime = some s ∧ s.owner = .gone ∧
      s.terminated = false := by
  have ran : exec Server.step initial stoppedInTime = some ⟨false, none, .gone, false⟩ := rfl
  exact ⟨_, ran, rfl, never_terminated (Reaches.of_exec ran (by decide))⟩

end CapacityAgent.HttpServer

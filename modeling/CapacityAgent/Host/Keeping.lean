/-
# What every step of the agent keeps

A property of the database holds throughout a run, in what is seen and in what a rollback brings
back, when every statement of the pipe and every call of a collector keeps it, and what comes
from outside leads to no others.
-/

import CapacityAgent.Host.Freshness

namespace CapacityAgent

open KeyedTable SharedConnection Transitions

/-- The property of the database is kept by the statements and calls of these kinds. -/
structure Stable (P : Database → Prop) (Q : PipeStmt → Prop) (C : CollectorCall → Prop) : Prop where
  empty : P Database.empty
  stmt : ∀ stmt db, Q stmt → P db → P (stmt.effect db)
  call : ∀ call db, C call → P db → P (call.effect db)

/-- What the event leads to is of these kinds. -/
def HostEvent.Brings (machineId : CStr) (Q : PipeStmt → Prop) (C : CollectorCall → Prop)
    (nowMs : ℤ) : HostEvent → Prop
  | .message parsed => ∀ stmt ∈ parsed.statements, Q stmt
  | .gpuInit failure => ∀ warning ∈ failure, ∀ call ∈ gpuInitCalls machineId warning nowMs, C call
  | .gpuPoll names snapshots => ∀ call ∈ gpuPollCalls machineId names nowMs snapshots, C call
  | .ollamaPoll reply => ∀ call ∈ ollamaPollCalls machineId nowMs reply, C call
  | .tick _ | .command _ | .gpuCall _ | .ollamaInit _ | .ollamaCall _ => True
  | .restart | .readGpus | .readHealth | .answered => True

/-- Beside reports an event brings the rows of the GPUs and the row of Ollama. -/
theorem HostEvent.brings_of_inserts {machineId : CStr} {C : CollectorCall → Prop} {nowMs : ℤ}
    {e : HostEvent} (reports : ∀ health, C (.healthDirect health))
    (gpus : ∀ names snapshots, e = .gpuPoll names snapshots →
      ∀ insert ∈ pollInserts machineId names nowMs snapshots, C (.gpuSample insert.1 insert.2))
    (ollama : ∀ row, e = .ollamaPoll (.models row) → C (.ollamaSample ⟨machineId, nowMs⟩ row)) :
    e.Brings machineId (fun _ => True) C nowMs := by
  cases e with
  | message message => exact fun _ _ => trivial
  | gpuInit failure => exact fun warning _ => List.forall_mem_singleton.mpr (reports _)
  | gpuPoll names snapshots =>
    exact List.forall_mem_append.mpr
      ⟨List.forall_mem_map.mpr (gpus names snapshots rfl),
        List.forall_mem_singleton.mpr (reports _)⟩
  | ollamaPoll reply =>
    intro call member
    cases reply with
    | models row =>
      exact List.forall_mem_cons.mpr
        ⟨ollama row rfl, List.forall_mem_singleton.mpr (reports _)⟩ call member
    | _ => exact List.forall_mem_singleton.mpr (reports _) call member
  | _ => trivial

/-- The visible database, what a rollback brings back, the statements of the transaction
and the calls of the collectors. -/
structure Host.Holds (P : Database → Prop) (Q : PipeStmt → Prop) (C : CollectorCall → Prop)
    (s : Host) : Prop where
  store : Keeps P Q s.store
  gpu : ∀ call ∈ s.gpu.calls, C call
  ollama : ∀ call ∈ s.ollama.calls, C call

section Steps

variable {machineId : CStr} {P : Database → Prop} {Q : PipeStmt → Prop} {C : CollectorCall → Prop}
  (stable : Stable P Q C)

include stable

theorem Host.Holds.start (now : ℤ) : (Host.start now).Holds P Q C where
  store := .fresh stable.empty
  gpu := List.forall_mem_nil _
  ollama := List.forall_mem_nil _

theorem Host.Holds.call {s : Host} (holds : s.Holds P Q C) {call : CollectorCall} (own : C call)
    (ok : Bool) : Keeps P Q (s.store.write CollectorCall.effect call ok) :=
  holds.store.write (fun db stored => stable.call call db own stored) ok

theorem Host.Holds.command {s : Host} (holds : s.Holds P Q C) (ok : Bool) :
    Keeps P Q (s.store.command PipeStmt.apply ok) := by
  refine holds.store.command (fun stmt db db' own stored took => ?_) ok
  obtain rfl := Option.some.inj ((stmt.apply_eq db).symm.trans took)
  exact stable.stmt stmt db own stored

/-- The step lemma. -/
theorem Host.Holds.step {s s' : Host} {e : HostEvent} (holds : s.Holds P Q C)
    (brings : e.Brings machineId Q C s.clock) (taken : s.step machineId e = some s') :
    s'.Holds P Q C := by
  cases e with
  | tick now =>
    rw [Host.step] at taken
    split_ifs at taken
    obtain rfl := Option.some.inj taken
    exact ⟨holds.store, holds.gpu, holds.ollama⟩
  | message message =>
    obtain ⟨store, submitted, rfl⟩ := Option.map_eq_some_iff.mp taken
    obtain ⟨-, rfl⟩ := Shared.submit_eq_some submitted
    exact ⟨holds.store.submit brings, holds.gpu, holds.ollama⟩
  | command ok =>
    obtain rfl := Option.some.inj taken
    exact ⟨holds.command stable ok, holds.gpu, holds.ollama⟩
  | gpuInit failure =>
    cases failure with
    | none =>
      obtain ⟨gpu, began, rfl⟩ := Option.map_eq_some_iff.mp taken
      obtain rfl := Collector.begin_eq_some began
      exact ⟨holds.store, List.forall_mem_nil _, holds.ollama⟩
    | some warning =>
      obtain ⟨gpu, began, rfl⟩ := Option.map_eq_some_iff.mp taken
      obtain rfl := Collector.begin_eq_some began
      exact ⟨holds.store, brings warning rfl, holds.ollama⟩
  | gpuPoll names snapshots =>
    obtain ⟨gpu, polled, rfl⟩ := Option.map_eq_some_iff.mp taken
    refine ⟨holds.store, ?_, holds.ollama⟩
    rw [Collector.poll_eq_some polled]
    exact brings
  | gpuCall ok =>
    obtain ⟨next, issued, rfl⟩ := Option.map_eq_some_iff.mp taken
    obtain ⟨call, rest, calls, rfl⟩ := Collector.issue_eq_some issued
    obtain ⟨own, later⟩ := List.forall_mem_cons.mp (calls ▸ holds.gpu)
    exact ⟨holds.call stable own ok, later, holds.ollama⟩
  | ollamaInit ok =>
    obtain ⟨ollama, began, rfl⟩ := Option.map_eq_some_iff.mp taken
    obtain rfl := Collector.begin_eq_some began
    exact ⟨holds.store, holds.gpu, List.forall_mem_nil _⟩
  | ollamaPoll reply =>
    obtain ⟨ollama, polled, rfl⟩ := Option.map_eq_some_iff.mp taken
    refine ⟨holds.store, holds.gpu, ?_⟩
    rw [Collector.poll_eq_some polled]
    exact brings
  | ollamaCall ok =>
    obtain ⟨next, issued, rfl⟩ := Option.map_eq_some_iff.mp taken
    obtain ⟨call, rest, calls, rfl⟩ := Collector.issue_eq_some issued
    obtain ⟨own, later⟩ := List.forall_mem_cons.mp (calls ▸ holds.ollama)
    exact ⟨holds.call stable own ok, holds.gpu, later⟩
  | restart =>
    obtain rfl := Option.some.inj taken
    -- the database that stays is the one a rollback brings back
    exact ⟨.fresh holds.store.base, List.forall_mem_nil _, List.forall_mem_nil _⟩
  | readGpus =>
    obtain rfl := Option.some.inj taken
    exact ⟨holds.store, holds.gpu, holds.ollama⟩
  | readHealth =>
    rw [Host.step] at taken
    split at taken
    next =>
      obtain rfl := Option.some.inj taken
      exact ⟨holds.store, holds.gpu, holds.ollama⟩
    next => exact absurd taken (by simp)
  | answered =>
    rw [Host.step] at taken
    split at taken
    next =>
      obtain rfl := Option.some.inj taken
      exact ⟨holds.store, holds.gpu, holds.ollama⟩
    next => exact absurd taken (by simp)

/-- The run lemma. -/
theorem Host.holds_of_reaches {guard : Host → HostEvent → Prop}
    (brings : ∀ s e, guard s e → e.Brings machineId Q C s.clock) {now : ℤ} {s : Host}
    (reached : Reaches (Host.step machineId) guard (Host.start now) s) : s.Holds P Q C :=
  reached.invariant (fun _ _ _ holds meets taken => holds.step stable (brings _ _ meets) taken)
    (Host.Holds.start stable now)

end Steps

end CapacityAgent

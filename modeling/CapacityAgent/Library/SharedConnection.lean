/-
# One connection, several users

A connection shared by one user who runs transactions, command by command, and
others who issue single writes whenever they like. A write issued while the
transaction is open is acknowledged at once but commits or rolls back with it.

Beside the connection the state keeps a journal of what has been written, for the
statements about it only: `log` what no rollback can reach any more and `tail`
what the open transaction holds. A rollback strikes the transaction's own
statements from the journal; an acknowledged write stays in it, as the caller has
been told.
-/

import CapacityAgent.Library.Connection
import CapacityAgent.Library.Transitions

namespace SharedConnection

open Connection Transitions

variable {σ α β ρ : Type*}

/-- The connection, where the transaction stands, and the journal. -/
structure Shared (σ α β : Type*) where
  conn : Conn σ
  pipe : Txn α
  log : List (α ⊕ β)
  tail : List (α ⊕ β)

/-- A shared connection nobody has used. -/
def Shared.fresh (db : σ) : Shared σ α β := ⟨Conn.closed db, .idle, [], []⟩

/-- What can happen next: a request arrives, the transaction issues its next command,
or another user issues a write. `ok` is whether the command succeeds. -/
inductive Event (ρ β : Type*)
  | submit (request : ρ)
  | command (ok : Bool)
  | write (write : β) (ok : Bool)
  deriving DecidableEq

section Step

variable (statements : ρ → List α) (apply : α → σ → Option σ) (effect : β → σ → σ)

/-- The next command of the transaction. -/
def Shared.command (s : Shared σ α β) (ok : Bool) : Shared σ α β :=
  match s.pipe with
  | .idle => s
  | .starting stmts =>
    match s.conn.begin ok with
    | none => { s with pipe := .idle }
    | some opened => { s with conn := opened, pipe := .running stmts }
  | .running [] =>
    match s.conn.commit ok with
    | none => { s with pipe := .undoing }
    | some committed =>
      { conn := committed, pipe := .idle, log := s.log ++ s.tail, tail := [] }
  | .running (stmt :: rest) =>
    match s.conn.exec (apply stmt) ok with
    | none => { s with pipe := .undoing }
    | some next => { s with conn := next, pipe := .running rest, tail := s.tail ++ [.inl stmt] }
  | .undoing =>
    match s.conn.rollback ok with
    -- a failed rollback is not retried; the transaction stays open
    | none => { s with pipe := .idle }
    | some undone =>
      -- the acknowledged writes stay in the journal although the database loses them
      { conn := undone, pipe := .idle, log := s.log ++ s.tail.filter Sum.isRight, tail := [] }

/-- The journal does not steer: connection and procedure move as the transaction
alone would. -/
theorem Shared.command_eq_next (s : Shared σ α β) (ok : Bool) :
    ((s.command apply ok).conn, (s.command apply ok).pipe) = Txn.next apply ok s.conn s.pipe := by
  obtain ⟨conn, pipe, log, tail⟩ := s
  cases pipe with
  | idle => rfl
  | starting stmts => cases began : conn.begin ok <;> simp [Shared.command, Txn.next, began]
  | running stmts =>
    cases stmts with
    | nil => cases committed : conn.commit ok <;> simp [Shared.command, Txn.next, committed]
    | cons stmt rest =>
      cases ran : conn.exec (apply stmt) ok <;> simp [Shared.command, Txn.next, ran]
  | undoing => cases undone : conn.rollback ok <;> simp [Shared.command, Txn.next, undone]

/-- Everything a command can do. -/
inductive Shared.Commanded (s : Shared σ α β) (ok : Bool) : Shared σ α β → Prop
  | rested (outside : ∀ stmts, s.pipe ≠ .running stmts) : Commanded s ok { s with pipe := .idle }
  | failed (stmts : List α) (inside : s.pipe = .running stmts) :
      Commanded s ok { s with pipe := .undoing }
  | began (stmts : List α) (starting : s.pipe = .starting stmts) (free : s.conn.saved = none) :
      Commanded s ok { s with conn := ⟨s.conn.db, some s.conn.db⟩, pipe := .running stmts }
  | ran (stmt : α) (rest : List α) (db : σ) (inside : s.pipe = .running (stmt :: rest))
      (succeeds : ok = true) (took : apply stmt s.conn.db = some db) :
      Commanded s ok
        { s with
          conn := ⟨db, s.conn.saved⟩
          pipe := .running rest
          tail := s.tail ++ [.inl stmt] }
  | committed (saved : σ) (inside : s.pipe = .running []) (opened : s.conn.saved = some saved) :
      Commanded s ok ⟨⟨s.conn.db, none⟩, .idle, s.log ++ s.tail, []⟩
  | undone (saved : σ) (undoing : s.pipe = .undoing) (succeeds : ok = true)
      (opened : s.conn.saved = some saved) :
      Commanded s ok ⟨⟨saved, none⟩, .idle, s.log ++ s.tail.filter Sum.isRight, []⟩

theorem Shared.command_cases (s : Shared σ α β) (ok : Bool) :
    Shared.Commanded apply s ok (s.command apply ok) := by
  unfold Shared.command
  split
  next standing =>
    have same : s = { s with pipe := .idle } := by rw [← standing]
    rw [same]
    exact .rested (by simp)
  next stmts standing =>
    cases began : s.conn.begin ok with
    | none => exact .rested (by simp [standing])
    | some opened =>
      obtain ⟨free, -, rfl⟩ := Conn.begin_eq_some began
      exact .began stmts standing free
  next standing =>
    cases committed : s.conn.commit ok with
    | none => exact .failed [] standing
    | some closed =>
      obtain ⟨-, saved, opened, rfl⟩ := Conn.commit_eq_some committed
      exact .committed saved standing opened
  next stmt rest standing =>
    cases ran : s.conn.exec (apply stmt) ok with
    | none => exact .failed _ standing
    | some next =>
      obtain ⟨succeeds, db, took, rfl⟩ := Conn.exec_eq_some ran
      exact .ran stmt rest db standing succeeds took
  next standing =>
    cases undone : s.conn.rollback ok with
    | none => exact .rested (by simp [standing])
    | some closed =>
      obtain ⟨succeeds, saved, opened, rfl⟩ := Conn.rollback_eq_some undone
      exact .undone saved standing succeeds opened

/-- A write by another user; acknowledged, it is journalled. -/
def Shared.write (s : Shared σ α β) (write : β) (ok : Bool) : Shared σ α β :=
  match s.conn.exec (fun db => some (effect write db)) ok with
  | none => s
  | some next =>
    if s.conn.saved.isNone then { s with conn := next, log := s.log ++ [.inr write] }
    else { s with conn := next, tail := s.tail ++ [.inr write] }

/-- A write that fails changes nothing; one that succeeds is in the database at once. -/
theorem Shared.write_eq (s : Shared σ α β) (write : β) (ok : Bool) :
    s.write effect write ok =
      if ok then
        if s.conn.saved.isNone then
          { s with conn := ⟨effect write s.conn.db, s.conn.saved⟩, log := s.log ++ [.inr write] }
        else
          { s with conn := ⟨effect write s.conn.db, s.conn.saved⟩, tail := s.tail ++ [.inr write] }
      else s := by
  cases ok <;> rfl

@[simp] theorem Shared.write_pipe (s : Shared σ α β) (write : β) (ok : Bool) :
    (s.write effect write ok).pipe = s.pipe := by
  rw [Shared.write_eq]
  split_ifs <;> rfl

theorem Shared.write_conn (s : Shared σ α β) (write : β) (ok : Bool) :
    (s.write effect write ok).conn =
      if ok then ⟨effect write s.conn.db, s.conn.saved⟩ else s.conn := by
  rw [Shared.write_eq]
  split_ifs <;> rfl

/-- One step. A request is only taken while no transaction is under way. -/
def Shared.step (s : Shared σ α β) : Event ρ β → Option (Shared σ α β)
  | .submit request =>
    match s.pipe with
    | .idle => some { s with pipe := .starting (statements request) }
    | _ => none
  | .command ok => some (s.command apply ok)
  | .write write ok => some (s.write effect write ok)

variable {statements apply effect} in
theorem Shared.submit_eq_some {s t : Shared σ α β} {request : ρ}
    (taken : s.step statements apply effect (.submit request) = some t) :
    s.pipe = .idle ∧ t = { s with pipe := .starting (statements request) } := by
  simp only [Shared.step] at taken
  split at taken
  · exact ⟨‹_›, (Option.some.inj taken).symm⟩
  · exact absurd taken (by simp)

end Step

/-! ## Acknowledged writes -/

/-- The writes that have been acknowledged, in order. -/
def Shared.acknowledged (s : Shared σ α β) : List β :=
  (s.log ++ s.tail).filterMap Sum.getRight?

section Journal

variable {statements : ρ → List α} {apply : α → σ → Option σ} {effect : β → σ → σ}

theorem filterMap_getRight?_filter (writes : List (α ⊕ β)) :
    (writes.filter Sum.isRight).filterMap Sum.getRight? = writes.filterMap Sum.getRight? := by
  induction writes with
  | nil => rfl
  | cons write rest ih =>
    cases write with
    | inl stmt => rw [List.filter_cons_of_neg (by simp), List.filterMap_cons_none rfl, ih]
    | inr write =>
      have given : (Sum.inr write : α ⊕ β).getRight? = some write := rfl
      rw [List.filter_cons_of_pos rfl, List.filterMap_cons_some given,
        List.filterMap_cons_some given, ih]

/-- No command of the transaction changes what has been acknowledged. -/
theorem Shared.acknowledged_command (s : Shared σ α β) (ok : Bool) :
    (s.command apply ok).acknowledged = s.acknowledged := by
  have moved := s.command_cases apply ok
  generalize s.command apply ok = t at moved
  cases moved with
  | rested outside => rfl
  | failed stmts inside => rfl
  | began stmts starting free => rfl
  | ran stmt rest db inside succeeds took => simp [Shared.acknowledged]
  | committed saved inside opened => simp [Shared.acknowledged]
  | undone saved undoing succeeds opened =>
    simp [Shared.acknowledged, filterMap_getRight?_filter]

/-- A write is acknowledged exactly when its statement succeeds. -/
theorem Shared.acknowledged_write {s : Shared σ α β} (settled : s.conn.saved = none → s.tail = [])
    (write : β) (ok : Bool) :
    (s.write effect write ok).acknowledged = s.acknowledged ++ if ok then [write] else [] := by
  have given : [(Sum.inr write : α ⊕ β)].filterMap Sum.getRight? = [write] := rfl
  rw [Shared.write_eq]
  cases ok with
  | false => simp
  | true =>
    -- outside a transaction the write is logged for good, inside it waits in the tail
    cases opened : s.conn.saved with
    | none => simp [Shared.acknowledged, settled opened, given]
    | some saved => simp [Shared.acknowledged, given]

/-- What a journalled write did. -/
def redo (apply : α → σ → Option σ) (effect : β → σ → σ) : α ⊕ β → σ → σ
  | .inl stmt, db => (apply stmt db).getD db
  | .inr write, db => effect write db

/-- What a journal did, in order. -/
def redoAll (apply : α → σ → Option σ) (effect : β → σ → σ) (writes : List (α ⊕ β)) (db : σ) : σ :=
  writes.foldl (fun db write => redo apply effect write db) db

theorem redoAll_append (first second : List (α ⊕ β)) (db : σ) :
    redoAll apply effect (first ++ second) db =
      redoAll apply effect second (redoAll apply effect first db) :=
  List.foldl_append

theorem redoAll_concat (writes : List (α ⊕ β)) (write : α ⊕ β) (db : σ) :
    redoAll apply effect (writes ++ [write]) db =
      redo apply effect write (redoAll apply effect writes db) :=
  redoAll_append writes [write] db

/-- The journal accounts for the connection: `log` for what a rollback would leave,
`tail` for the rest of what is visible. -/
structure Sound (apply : α → σ → Option σ) (effect : β → σ → σ) (start : σ)
    (s : Shared σ α β) : Prop where
  base : s.conn.base = redoAll apply effect s.log start
  visible : s.conn.db = redoAll apply effect (s.log ++ s.tail) start
  settled : s.conn.saved = none → s.tail = []
  inside : ∀ stmts, s.pipe = .running stmts → s.conn.saved ≠ none

theorem Sound.fresh (db : σ) : Sound apply effect db (Shared.fresh db) where
  base := rfl
  visible := rfl
  settled := fun _ => rfl
  inside := fun _ running => absurd running (by simp [Shared.fresh])

/-- No rollback takes an acknowledged write with it. -/
def KeepsWrites (s : Shared σ α β) : Event ρ β → Prop
  | .command true =>
    match s.pipe with
    | .undoing => s.tail.any Sum.isRight = false
    | _ => True
  | _ => True

instance (s : Shared σ α β) (e : Event ρ β) : Decidable (KeepsWrites s e) := by
  unfold KeepsWrites
  split
  · split <;> infer_instance
  · infer_instance

/-- A command that keeps the acknowledged writes keeps the journal in step. -/
theorem Sound.command {start : σ} {s : Shared σ α β} (sound : Sound apply effect start s)
    {ok : Bool} (keeps : KeepsWrites (ρ := ρ) s (.command ok)) :
    Sound apply effect start (s.command apply ok) := by
  have moved := s.command_cases apply ok
  generalize s.command apply ok = t at moved
  cases moved with
  | rested outside => exact ⟨sound.base, sound.visible, sound.settled, by simp⟩
  | failed stmts inside => exact ⟨sound.base, sound.visible, sound.settled, by simp⟩
  | began stmts starting free =>
    -- with no transaction open the journal has no tail, so BEGIN saves what `log` did
    have empty := sound.settled free
    refine ⟨?_, sound.visible, by simp, by simp⟩
    have visible := sound.visible
    rw [empty, List.append_nil] at visible
    exact visible
  | ran stmt rest db inside succeeds took =>
    have opened := sound.inside _ inside
    refine ⟨?_, ?_, fun free => absurd free opened, fun _ _ => opened⟩
    · obtain ⟨saved, has⟩ := Option.ne_none_iff_exists'.mp opened
      have base := sound.base
      simp only [Conn.base, has, Option.getD_some] at base ⊢
      exact base
    · rw [← List.append_assoc, redoAll_concat, ← sound.visible, redo, took]
      rfl
  | committed saved inside opened =>
    exact ⟨sound.visible, by simpa using sound.visible, fun _ => rfl, by simp⟩
  | undone saved undoing succeeds opened =>
    -- the only step that takes writes away: the condition says none of them is acknowledged
    have none : s.tail.filter Sum.isRight = [] := by
      subst succeeds
      simp only [KeepsWrites, undoing] at keeps
      simpa using keeps
    have base := sound.base
    simp only [Conn.base, opened, Option.getD_some] at base
    rw [none]
    exact ⟨by simpa [Conn.base] using base, by simpa using base, fun _ => rfl, by simp⟩

theorem Sound.write {start : σ} {s : Shared σ α β} (sound : Sound apply effect start s)
    (write : β) (ok : Bool) : Sound apply effect start (s.write effect write ok) := by
  rw [Shared.write_eq]
  cases ok with
  | false => exact sound
  | true =>
    cases opened : s.conn.saved with
    | none =>
      have empty := sound.settled opened
      have visible := sound.visible
      rw [empty, List.append_nil] at visible
      refine ⟨?_, ?_, fun _ => empty, fun stmts running =>
        absurd opened (sound.inside stmts running)⟩
      · simp [Conn.base, redoAll_concat, ← visible, redo]
      · simp [empty, redoAll_concat, ← visible, redo]
    | some saved =>
      have base := sound.base
      simp only [Conn.base, opened, Option.getD_some] at base
      refine ⟨by simpa [Conn.base] using base, ?_, by simp, by simp⟩
      simp [← List.append_assoc, redoAll_concat, ← sound.visible, redo]

/-- **Nothing acknowledged is lost** in a run that rolls no acknowledged write back:
whenever no transaction is open the database is what the journal did. -/
theorem redoAll_log_of_reaches {start : σ} {s : Shared σ α β}
    (run : Reaches (Shared.step statements apply effect) KeepsWrites (Shared.fresh start) s)
    (ended : s.conn.saved = none) : s.conn.db = redoAll apply effect s.log start := by
  -- the step lemma, by the kind of event
  have preserved : ∀ t e u, Sound apply effect start t → KeepsWrites t e →
      Shared.step statements apply effect t e = some u → Sound apply effect start u := by
    intro t e u sound keeps taken
    cases e with
    | submit request =>
      obtain ⟨-, rfl⟩ := Shared.submit_eq_some taken
      exact ⟨sound.base, sound.visible, sound.settled, by simp⟩
    | command ok =>
      obtain rfl := Option.some.inj taken
      exact sound.command keeps
    | write write ok =>
      obtain rfl := Option.some.inj taken
      exact sound.write write ok
  have sound : Sound apply effect start s := run.invariant preserved (Sound.fresh start)
  have visible := sound.visible
  rwa [sound.settled ended, List.append_nil] at visible

end Journal

/-! ## Properties of all that is stored -/

/-- The property holds of what is visible and of what a rollback would bring back, and the
statements still to come are of the kind that keeps it. -/
structure Keeps (P : σ → Prop) (Q : α → Prop) (s : Shared σ α β) : Prop where
  visible : P s.conn.db
  saved : ∀ db, s.conn.saved = some db → P db
  pending : ∀ stmt ∈ s.pipe.stmts, Q stmt

section Keeps

variable {P : σ → Prop} {Q : α → Prop} {apply : α → σ → Option σ} {effect : β → σ → σ}

theorem Keeps.fresh {db : σ} (holds : P db) : Keeps P Q (Shared.fresh db : Shared σ α β) where
  visible := holds
  saved _ open_ := absurd open_ (by simp [Shared.fresh, Conn.closed])
  pending _ member := absurd member (by simp [Shared.fresh, Txn.stmts])

theorem Keeps.base {s : Shared σ α β} (keeps : Keeps P Q s) : P s.conn.base := by
  unfold Conn.base
  cases saved : s.conn.saved with
  | none => exact keeps.visible
  | some db => exact keeps.saved db saved

theorem Keeps.submit {s : Shared σ α β} (keeps : Keeps P Q s) {stmts : List α}
    (kind : ∀ stmt ∈ stmts, Q stmt) : Keeps P Q { s with pipe := .starting stmts } :=
  ⟨keeps.visible, keeps.saved, kind⟩

theorem Keeps.command {s : Shared σ α β} (keeps : Keeps P Q s)
    (kept : ∀ stmt db db', Q stmt → P db → apply stmt db = some db' → P db') (ok : Bool) :
    Keeps P Q (s.command apply ok) := by
  have moved := s.command_cases apply ok
  have none_ : ∀ stmt ∈ ([] : List α), Q stmt := List.forall_mem_nil _
  generalize s.command apply ok = t at moved
  cases moved with
  | rested outside => exact ⟨keeps.visible, keeps.saved, none_⟩
  | failed stmts inside => exact ⟨keeps.visible, keeps.saved, none_⟩
  | began stmts starting free =>
    refine ⟨keeps.visible, ?_, ?_⟩
    · rintro _ ⟨⟩
      exact keeps.visible
    · have pending := keeps.pending
      rwa [starting] at pending
  | ran stmt rest db inside succeeds took =>
    have pending := keeps.pending
    rw [inside] at pending
    obtain ⟨first, later⟩ := List.forall_mem_cons.mp pending
    exact ⟨kept stmt _ db first keeps.visible took, keeps.saved, later⟩
  | committed saved inside opened =>
    exact ⟨keeps.visible, fun _ open_ => absurd open_ (by simp), none_⟩
  | undone saved undoing succeeds opened =>
    exact ⟨keeps.saved saved opened, fun _ open_ => absurd open_ (by simp), none_⟩

theorem Keeps.write {s : Shared σ α β} (keeps : Keeps P Q s) {write : β}
    (kept : ∀ db, P db → P (effect write db)) (ok : Bool) :
    Keeps P Q (s.write effect write ok) := by
  rw [Shared.write_eq]
  split_ifs
  · exact ⟨kept _ keeps.visible, keeps.saved, keeps.pending⟩
  · exact ⟨kept _ keeps.visible, keeps.saved, keeps.pending⟩
  · exact keeps

end Keeps

end SharedConnection

/-
# A database connection with transactions

What one connection of a transactional store does, over an arbitrary type of
database states. A statement is atomic: it either fails and changes nothing or
replaces the visible state. BEGIN saves the state, COMMIT drops the saved copy,
ROLLBACK puts it back. Whatever is executed on the connection while a
transaction is open belongs to that transaction, whoever issued it.

`transact` runs a list of statements in one transaction that is rolled back as
soon as a statement or the commit fails. `Txn` is the same procedure cut into
single commands, so that commands of other users of the connection can fall
between them; run alone it computes what `transact` computes.
-/

import Mathlib.Data.Nat.Notation
import Mathlib.Tactic.Common

namespace Connection

variable {σ α : Type*}

/-- The state statements on the connection see, and the state saved at BEGIN
while a transaction is open. -/
structure Conn (σ : Type*) where
  db : σ
  saved : Option σ
  deriving DecidableEq

/-- A connection with no open transaction. -/
def Conn.closed (db : σ) : Conn σ := ⟨db, none⟩

/-- The state a rollback would leave. -/
def Conn.base (c : Conn σ) : σ := c.saved.getD c.db

/-- BEGIN; it fails inside an open transaction. `none` is failure, which changes
nothing, here and below. -/
def Conn.begin (c : Conn σ) (ok : Bool) : Option (Conn σ) :=
  match c.saved with
  | some _ => none
  | none => if ok then some ⟨c.db, some c.db⟩ else none

/-- Execute a statement, whose own effect may be refused by a constraint. -/
def Conn.exec (c : Conn σ) (effect : σ → Option σ) (ok : Bool) : Option (Conn σ) :=
  if ok then (effect c.db).map fun db => ⟨db, c.saved⟩ else none

/-- COMMIT; it fails when no transaction is open. -/
def Conn.commit (c : Conn σ) (ok : Bool) : Option (Conn σ) :=
  match c.saved with
  | none => none
  | some _ => if ok then some ⟨c.db, none⟩ else none

/-- ROLLBACK; it fails when no transaction is open. -/
def Conn.rollback (c : Conn σ) (ok : Bool) : Option (Conn σ) :=
  match c.saved with
  | none => none
  | some saved => if ok then some ⟨saved, none⟩ else none

theorem Conn.begin_eq_some {c c' : Conn σ} {ok : Bool} (began : c.begin ok = some c') :
    c.saved = none ∧ ok = true ∧ c' = ⟨c.db, some c.db⟩ := by
  unfold Conn.begin at began
  split at began
  · exact absurd began (by simp)
  · split_ifs at began with succeeds
    exact ⟨‹_›, succeeds, (Option.some.inj began).symm⟩

theorem Conn.exec_eq_some {c c' : Conn σ} {effect : σ → Option σ} {ok : Bool}
    (ran : c.exec effect ok = some c') :
    ok = true ∧ ∃ db, effect c.db = some db ∧ c' = ⟨db, c.saved⟩ := by
  unfold Conn.exec at ran
  split_ifs at ran with succeeds
  obtain ⟨db, took, rfl⟩ := Option.map_eq_some_iff.mp ran
  exact ⟨succeeds, db, took, rfl⟩

theorem Conn.commit_eq_some {c c' : Conn σ} {ok : Bool} (committed : c.commit ok = some c') :
    ok = true ∧ ∃ saved, c.saved = some saved ∧ c' = ⟨c.db, none⟩ := by
  unfold Conn.commit at committed
  split at committed
  · exact absurd committed (by simp)
  · split_ifs at committed with succeeds
    exact ⟨succeeds, _, ‹_›, (Option.some.inj committed).symm⟩

theorem Conn.rollback_eq_some {c c' : Conn σ} {ok : Bool} (undone : c.rollback ok = some c') :
    ok = true ∧ ∃ saved, c.saved = some saved ∧ c' = ⟨saved, none⟩ := by
  unfold Conn.rollback at undone
  split at undone
  · exact absurd undone (by simp)
  · split_ifs at undone with succeeds
    exact ⟨succeeds, _, ‹_›, (Option.some.inj undone).symm⟩

/-! ## Runs of requests -/

section Requests

variable (run : α → Conn σ → Bool × Conn σ)

/-- Handle requests one after the other and collect those reported as applied. -/
def serve : List α → Conn σ → List α × Conn σ
  | [], c => ([], c)
  | request :: rest, c =>
    let outcome := run request c
    let later := serve rest outcome.2
    (if outcome.1 then request :: later.1 else later.1, later.2)

/-- If every request leaves a closed connection closed and either changes nothing
and says so or has its effect and says so, then a run leaves what the applied
requests alone would have left. -/
theorem serve_closed (effect : α → σ → σ)
    (outcome : ∀ request db, run request (Conn.closed db) = (false, Conn.closed db) ∨
      run request (Conn.closed db) = (true, Conn.closed (effect request db)))
    (requests : List α) (db : σ) :
    (serve run requests (Conn.closed db)).2 =
      Conn.closed ((serve run requests (Conn.closed db)).1.foldl
        (fun db request => effect request db) db) := by
  induction requests generalizing db with
  | nil => rfl
  | cons request rest ih =>
    -- a failed request leaves the induction where it was
    rcases outcome request db with failed | succeeded
    · simpa [serve, failed] using ih db
    · simpa [serve, succeeded] using ih (effect request db)

end Requests

/-! ## Lists of statements -/

section Statements

variable (apply : α → σ → Option σ)

/-- The effect of the statements in order, unless one of them is refused. -/
def applyAll : List α → σ → Option σ
  | [], db => some db
  | stmt :: rest, db =>
    match apply stmt db with
    | none => none
    | some next => applyAll rest next

@[simp] theorem applyAll_nil (db : σ) : applyAll apply [] db = some db := rfl

/-- Statements that are never refused act as a function. -/
theorem applyAll_eq_foldl (effect : α → σ → σ) (stmts : List α)
    (total : ∀ stmt ∈ stmts, ∀ db, apply stmt db = some (effect stmt db)) (db : σ) :
    applyAll apply stmts db = some (stmts.foldl (fun db stmt => effect stmt db) db) := by
  induction stmts generalizing db with
  | nil => rfl
  | cons stmt rest ih =>
    have took := total stmt List.mem_cons_self db
    simp only [applyAll, took, List.foldl_cons]
    exact ih (fun later member => total later (List.mem_cons_of_mem stmt member)) (effect stmt db)

/-! ## A transaction run alone -/

/-- Run the statements until one fails. `fails n` tells whether the `n`-th command
issued fails for a reason outside the statement itself. -/
def runStatements (fails : ℕ → Bool) : ℕ → List α → Conn σ → Bool × Conn σ
  | _, [], c => (true, c)
  | n, stmt :: rest, c =>
    match c.exec (apply stmt) (!fails n) with
    | none => (false, c)
    | some next => runStatements fails (n + 1) rest next

/-- Undo an open transaction, as the scope guard does on every path that has not
committed. -/
def Conn.abandon (c : Conn σ) : Conn σ := (c.rollback true).getD c

/-- BEGIN, the statements in order, COMMIT; any failure after BEGIN rolls back. -/
def transact (fails : ℕ → Bool) (stmts : List α) (c : Conn σ) : Bool × Conn σ :=
  match c.begin (!fails 0) with
  | none => (false, c)
  | some opened =>
    match runStatements apply fails 1 stmts opened with
    | (false, failed) => (false, failed.abandon)
    | (true, done) =>
      match done.commit (!fails (stmts.length + 1)) with
      | none => (false, done.abandon)
      | some committed => (true, committed)

/-- Statements leave the saved state alone; when all succeed they have had their
whole effect. -/
theorem runStatements_spec (fails : ℕ → Bool) (n : ℕ) (stmts : List α) (c : Conn σ) :
    (runStatements apply fails n stmts c).2.saved = c.saved ∧
      ((runStatements apply fails n stmts c).1 = true →
        applyAll apply stmts c.db = some (runStatements apply fails n stmts c).2.db) := by
  induction stmts generalizing n c with
  | nil => simp [runStatements]
  | cons stmt rest ih =>
    cases ran : c.exec (apply stmt) (!fails n) with
    | none => simp [runStatements, ran]
    | some next =>
      obtain ⟨-, db, took, rfl⟩ := Conn.exec_eq_some ran
      simpa [runStatements, ran, applyAll, took] using ih (n + 1) ⟨db, c.saved⟩

theorem Conn.abandon_of_saved {c : Conn σ} {db : σ} (opened : c.saved = some db) :
    c.abandon = Conn.closed db := by
  simp [Conn.abandon, Conn.rollback, opened, Conn.closed]

/-- **Atomicity.** From a connection with no open transaction, a transaction that
reports failure has changed nothing, one that reports success has had the effect
of all its statements in order, and neither leaves a transaction open. -/
theorem transact_atomic (fails : ℕ → Bool) (stmts : List α) (db : σ) :
    transact apply fails stmts (Conn.closed db) = (false, Conn.closed db) ∨
      ∃ db', applyAll apply stmts db = some db' ∧
        transact apply fails stmts (Conn.closed db) = (true, Conn.closed db') := by
  cases began : (Conn.closed db).begin (!fails 0) with
  | none => exact .inl (by simp [transact, began])
  | some opened =>
    obtain ⟨-, -, rfl⟩ := Conn.begin_eq_some began
    replace began : (Conn.closed db).begin (!fails 0) = some ⟨db, some db⟩ := began
    -- the saved state is the one at BEGIN, so every later failure returns to it
    have spec := runStatements_spec apply fails 1 stmts ⟨db, some db⟩
    rcases outcome : runStatements apply fails 1 stmts ⟨db, some db⟩ with ⟨ok, c⟩
    rw [outcome] at spec
    obtain ⟨saved, effect⟩ := spec
    have undo : c.abandon = Conn.closed db := Conn.abandon_of_saved saved
    cases ok with
    | false =>
      left
      simp only [transact, began, outcome, undo]
    | true =>
      cases committed : c.commit (!fails (stmts.length + 1)) with
      | none =>
        left
        simp only [transact, began, outcome, committed, undo]
      | some c' =>
        right
        obtain ⟨-, -, -, rfl⟩ := Conn.commit_eq_some committed
        refine ⟨c.db, effect rfl, ?_⟩
        simp only [transact, began, outcome, committed]
        rfl

/-- When nothing fails from outside and no statement is refused, all run. -/
theorem runStatements_of_applyAll {fails : ℕ → Bool} (healthy : ∀ n, fails n = false) (n : ℕ)
    {stmts : List α} {c : Conn σ} {db : σ} (effect : applyAll apply stmts c.db = some db) :
    runStatements apply fails n stmts c = (true, ⟨db, c.saved⟩) := by
  induction stmts generalizing n c with
  | nil =>
    obtain rfl : c.db = db := Option.some.inj effect
    rfl
  | cons stmt rest ih =>
    -- a refused statement would have made the whole effect `none`
    cases took : apply stmt c.db with
    | none => simp [applyAll, took] at effect
    | some next =>
      have later : applyAll apply rest next = some db := by simpa [applyAll, took] using effect
      have ran : c.exec (apply stmt) (!fails n) = some ⟨next, c.saved⟩ := by
        simp [Conn.exec, healthy n, took]
      simpa only [runStatements, ran] using ih (n + 1) later

/-- A transaction fails only if a command fails or a statement is refused. -/
theorem transact_of_applyAll {fails : ℕ → Bool} (healthy : ∀ n, fails n = false)
    {stmts : List α} {db db' : σ} (effect : applyAll apply stmts db = some db') :
    transact apply fails stmts (Conn.closed db) = (true, Conn.closed db') := by
  have began : (Conn.closed db).begin (!fails 0) = some ⟨db, some db⟩ := by
    simp [Conn.begin, Conn.closed, healthy]
  have ran : runStatements apply fails 1 stmts ⟨db, some db⟩ = (true, ⟨db', some db⟩) :=
    runStatements_of_applyAll apply healthy 1 effect
  have committed : (⟨db', some db⟩ : Conn σ).commit (!fails (stmts.length + 1)) =
      some (Conn.closed db') := by
    simp [Conn.commit, healthy, Conn.closed]
  simp only [transact, began, ran, committed]

/-! ## The same transaction, one command at a time -/

/-- Where the procedure stands between two of its commands: not running, about to
BEGIN, inside the transaction with statements left (none left: about to COMMIT),
or about to ROLLBACK. -/
inductive Txn (α : Type*)
  | idle
  | starting (stmts : List α)
  | running (stmts : List α)
  | undoing
  deriving DecidableEq

/-- The statements still to be executed. -/
def Txn.stmts : Txn α → List α
  | .starting stmts | .running stmts => stmts
  | .idle | .undoing => []

/-- Issue the next command. A rollback is not retried. -/
def Txn.next (ok : Bool) : Conn σ → Txn α → Conn σ × Txn α
  | c, .idle => (c, .idle)
  | c, .starting stmts =>
    match c.begin ok with
    | none => (c, .idle)
    | some opened => (opened, .running stmts)
  | c, .running [] =>
    match c.commit ok with
    | none => (c, .undoing)
    | some committed => (committed, .idle)
  | c, .running (stmt :: rest) =>
    match c.exec (apply stmt) ok with
    | none => (c, .undoing)
    | some next => (next, .running rest)
  | c, .undoing => ((c.rollback ok).getD c, .idle)

/-- Issue commands one after the other, the rollback always succeeding. -/
def Txn.finish (fails : ℕ → Bool) : ℕ → ℕ → Conn σ → Txn α → Conn σ × Txn α
  | 0, _, c, t => (c, t)
  | fuel + 1, n, c, .undoing => Txn.finish fails fuel n c.abandon .idle
  | fuel + 1, n, c, t =>
    let next := Txn.next apply (!fails n) c t
    Txn.finish fails fuel (n + 1) next.1 next.2

theorem Txn.finish_idle (fails : ℕ → Bool) (fuel n : ℕ) (c : Conn σ) :
    Txn.finish apply fails fuel n c .idle = (c, .idle) := by
  induction fuel generalizing n with
  | zero => rfl
  | succ fuel ih => simpa [Txn.finish, Txn.next] using ih (n + 1)

theorem Txn.finish_undoing (fails : ℕ → Bool) (fuel n : ℕ) (c : Conn σ) :
    Txn.finish apply fails (fuel + 1) n c .undoing = (c.abandon, .idle) := by
  simp [Txn.finish, Txn.finish_idle]

/-- From inside the transaction, the commands left have the effect of running the
remaining statements and then committing or rolling back. -/
theorem Txn.finish_running (fails : ℕ → Bool) (n : ℕ) (stmts : List α) (c : Conn σ) :
    Txn.finish apply fails (stmts.length + 2) n c (.running stmts) =
      (match runStatements apply fails n stmts c with
        | (false, failed) => failed.abandon
        | (true, done) => (done.commit (!fails (n + stmts.length))).getD done.abandon, .idle) := by
  induction stmts generalizing n c with
  | nil =>
    cases committed : c.commit (!fails n) with
    | none => simp [Txn.finish, Txn.next, runStatements, committed]
    | some c' => simp [Txn.finish, Txn.next, runStatements, committed]
  | cons stmt rest ih =>
    cases ran : c.exec (apply stmt) (!fails n) with
    | none =>
      simp [Txn.finish, Txn.next, runStatements, ran, Txn.finish_undoing]
    | some next =>
      -- one command runs one statement
      have first :
          Txn.finish apply fails ((stmt :: rest).length + 2) n c (.running (stmt :: rest)) =
            Txn.finish apply fails (rest.length + 2) (n + 1) next (.running rest) := by
        rw [List.length_cons, Nat.add_right_comm, Txn.finish, Txn.next, ran]
        simp
      rw [first, ih (n + 1) next, runStatements, ran, List.length_cons, Nat.add_right_comm n 1,
        Nat.add_assoc]

/-- **The commands refine the transaction**: issued with nothing in between, they
leave the connection `transact` leaves. -/
theorem Txn.finish_starting (fails : ℕ → Bool) (stmts : List α) (c : Conn σ) :
    Txn.finish apply fails (stmts.length + 3) 0 c (.starting stmts) =
      ((transact apply fails stmts c).2, .idle) := by
  cases began : c.begin (!fails 0) with
  | none => simp [Txn.finish, Txn.next, transact, began, Txn.finish_idle]
  | some opened =>
    have first : Txn.finish apply fails (stmts.length + 3) 0 c (.starting stmts) =
        Txn.finish apply fails (stmts.length + 2) 1 opened (.running stmts) := by
      rw [Txn.finish, Txn.next, began]
      simp
    rcases outcome : runStatements apply fails 1 stmts opened with ⟨ok, done⟩
    rw [first, Txn.finish_running, outcome, Nat.add_comm 1 stmts.length]
    cases ok with
    | false => simp [transact, began, outcome]
    | true =>
      cases committed : done.commit (!fails (stmts.length + 1)) <;>
        simp [transact, began, outcome, committed]

end Statements

end Connection

/-
# Whether the responses are complete

The read methods loop while `StepRow` is true, which it is neither at the end of the rows
nor at an error, and return what they have read; where a statement cannot be prepared they
return nothing. The handlers send whatever they get.
-/

import CapacityAgent.Api.Responses
import CapacityAgent.Library.Cursor

namespace CapacityAgent

open Cursor KeyedTable Newest Select
open CJson (Item)

/-! ## Statements -/

/-- The statements of the read methods, with what is bound to them. -/
inductive ReadStmt
  | health (machineId : CStr)
  | catalog (machineId : CStr) (filter : CatalogFilter)
  | history (query : HistoryQuery)
  | system (machineId : CStr)
  | gpus (machineId : CStr)
  | ollama (machineId : CStr)

/-- The rows of a statement. -/
abbrev ReadStmt.Row : ReadStmt → Type
  | .health _ => CStr × CollectorRow
  | .catalog .. => CatalogRow
  | .history _ => HistoryRow
  | .system _ => SystemRow
  | .gpus _ => GpuSnapshotRow
  | .ollama _ => OllamaKey × OllamaRow

/-- All the rows that match, as the SQL orders and limits them. -/
def ReadStmt.Selects : (s : ReadStmt) → Database → List s.Row → Prop
  | .health machineId, db, rows => rows.Perm (queryCollectorHealth machineId db)
  | .catalog machineId filter, db, rows =>
    Answers catalogKey none (catalogMatches machineId filter db) rows
  | .history query, db, rows =>
    Answers historyKey (limitOf query.limit)
      (historyMatches query.sensorUid query.fromMs query.toMs db) rows
  | .system machineId, db, rows => rows.Perm (systemRows machineId db)
  | .gpus machineId, db, rows =>
    Answers GpuSnapshotRow.gpuIndex none
      ((newest StoredGpu.ts (machineGpus machineId db)).map StoredGpu.snapshotRow) rows
  | .ollama machineId, db, rows =>
    Answers (fun sample : OllamaKey × OllamaRow => -sample.1.tsUtcMs) (some 1)
      (db.ollamaRuntimeSamples.rows.filter fun sample => sample.1.machineId = machineId) rows

/-- How a statement fares: whether the database is open, the statement prepared and its
parameters bound, and after how many steps one fails, if ever. -/
structure Access where
  prepared : Bool
  failsIn : Option ℕ

/-- What the method reads of the rows; the Ollama statement is stepped once. -/
def ReadStmt.read (s : ReadStmt) (access : Access) (rows : List s.Row) : List s.Row :=
  if access.prepared then
    match s with
    | .ollama _ => readOnce rows access.failsIn
    | .health _ | .catalog .. | .history _ | .system _ | .gpus _ => readLoop rows access.failsIn
  else []

/-- Rows for every statement. -/
abbrev Reads := (s : ReadStmt) → List s.Row

/-- The Ollama fields for the row that is read. -/
def ollamaStatusOf : List (OllamaKey × OllamaRow) → OllamaStatus
  | [] => {}
  | (_, row) :: _ =>
    { reachable := true
      loadedModelCount := row.loadedModelCount.getD 0
      residentVramBytes := row.residentVramBytes }

/-- `QueryLatestSnapshot`, from the rows that are read. -/
def latestSnapshotOf (machineId : CStr) (reads : Reads) : LatestSnapshot where
  system := (reads (.system machineId)).foldl SystemMetrics.absorb {}
  gpus := reads (.gpus machineId)
  ollama := ollamaStatusOf (reads (.ollama machineId))

/-! ## Routes -/

inductive Route
  | status
  | catalog (filter : CatalogFilter)
  | history (request : HistoryRequest)
  | snapshot
  | readiness (requiredVramBytes : Option Bytes)

/-- The readings of the clock, and what `QueryMachineCatalog` returns. -/
structure RequestContext where
  nowUtcMs : ℤ
  ages : ℕ → ℤ
  readiness : ReadinessClock
  machine : Option MachineAnswer

section Routes

variable (machineId : CStr) (context : RequestContext)

/-- The handler, from the rows that the store reads. -/
def Route.reply (reads : Reads) : Route → Reply Item
  | .status =>
    .ok (statusResponse machineId context.nowUtcMs (reads (.health machineId)) context.machine)
  | .catalog filter => .ok (catalogResponse machineId (reads (.catalog machineId filter)))
  | .history request =>
    (historyQuery context.nowUtcMs request).map fun query =>
      historyResponse query (reads (.history query))
  | .snapshot =>
    .ok (snapshotResponse machineId context.nowUtcMs context.ages
      (latestSnapshotOf machineId reads) (reads (.health machineId)))
  | .readiness param =>
    readinessReply machineId (latestSnapshotOf machineId reads) (reads (.health machineId))
      context.readiness param

/-- The statements of `QueryLatestSnapshot` and `QueryCollectorHealth`. -/
def snapshotStatements : List ReadStmt :=
  [.system machineId, .gpus machineId, .ollama machineId, .health machineId]

/-- The statements that an endpoint runs; none when its parameters are not taken. -/
def Route.statements : Route → List ReadStmt
  | .status => [.health machineId]
  | .catalog filter => [.catalog machineId filter]
  | .history request =>
    match historyQuery context.nowUtcMs request with
    | .ok query => [.history query]
    | .badRequest _ | .escaped _ => []
  | .snapshot => snapshotStatements machineId
  | .readiness param =>
    match requiredVramBytes param with
    | .ok _ => snapshotStatements machineId
    | .badRequest _ | .escaped _ => []

end Routes

/-! ## Complete answers -/

/-- The rows that SQLite has for every statement on a database. -/
structure Selection (db : Database) where
  rows : Reads
  selects : ∀ s : ReadStmt, s.Selects db (rows s)

/-- A normal response is made from all the rows that match. -/
def PresentsAll (machineId : CStr) (context : RequestContext) (endpoint : Route)
    (db : Database) (reads : Reads) : Prop :=
  ∀ body, endpoint.reply machineId context reads = .ok body →
    ∀ s ∈ endpoint.statements machineId context, s.Selects db (reads s)

/-- The statement is prepared and no step fails before the last of its rows is read, or
there is none to read. -/
def Access.Clear {α : Type} (access : Access) (rows : List α) : Prop :=
  if access.prepared then Undisturbed access.failsIn rows else rows = []

/-- All answers of a statement have as many rows. -/
theorem ReadStmt.Selects.length_eq {s : ReadStmt} {db : Database} {rows rows' : List s.Row}
    (first : s.Selects db rows) (second : s.Selects db rows') : rows.length = rows'.length := by
  cases s with
  | health machineId => exact (first.trans second.symm).length_eq
  | system machineId => exact (first.trans second.symm).length_eq
  | catalog machineId filter => exact (Answers.length first).trans (Answers.length second).symm
  | history query => exact (Answers.length first).trans (Answers.length second).symm
  | gpus machineId => exact (Answers.length first).trans (Answers.length second).symm
  | ollama machineId => exact (Answers.length first).trans (Answers.length second).symm

/-- The first rows of an answer are an answer when they are all of it. -/
theorem ReadStmt.selects_take_iff {s : ReadStmt} {db : Database} {rows : List s.Row}
    (selects : s.Selects db rows) (n : ℕ) : s.Selects db (rows.take n) ↔ rows.length ≤ n := by
  constructor
  · intro taken
    have same := taken.length_eq selects
    rw [List.length_take] at same
    omega
  · intro all
    rwa [List.take_of_length_le all]

/-- What is read are the first rows, all of them when the access is clear. -/
theorem ReadStmt.read_eq_take {s : ReadStmt} {db : Database} {rows : List s.Row}
    (selects : s.Selects db rows) (access : Access) :
    ∃ n, s.read access rows = rows.take n ∧ (rows.length ≤ n ↔ access.Clear rows) := by
  unfold ReadStmt.read Access.Clear
  by_cases prepared : access.prepared = true
  · simp only [prepared, if_true]
    cases s with
    | ollama machineId =>
      have atMostOne : rows.length ≤ 1 := by
        rw [Answers.length selects]
        exact Nat.min_le_left 1 _
      exact readOnce_eq_take atMostOne access.failsIn
    | _ => exact readLoop_eq_take rows access.failsIn
  · simp only [prepared]
    exact ⟨0, by simp, by simp⟩

theorem ReadStmt.selects_read_iff {s : ReadStmt} {db : Database} {rows : List s.Row}
    (selects : s.Selects db rows) (access : Access) :
    s.Selects db (s.read access rows) ↔ access.Clear rows := by
  obtain ⟨n, same, all⟩ := s.read_eq_take selects access
  rw [same, ReadStmt.selects_take_iff selects, all]

/-- An endpoint that runs statements answers normally, whatever they return. -/
theorem Route.exists_reply_ok {machineId : CStr} {context : RequestContext} {endpoint : Route}
    {s : ReadStmt} (runs : s ∈ endpoint.statements machineId context) (reads : Reads) :
    ∃ body, endpoint.reply machineId context reads = .ok body := by
  cases endpoint with
  | status => exact ⟨_, rfl⟩
  | catalog filter => exact ⟨_, rfl⟩
  | snapshot => exact ⟨_, rfl⟩
  | history request =>
    rw [Route.statements] at runs
    rw [Route.reply]
    cases taken : historyQuery context.nowUtcMs request with
    | ok query => exact ⟨_, rfl⟩
    | badRequest error => simp [taken] at runs
    | escaped thrown => simp [taken] at runs
  | readiness param =>
    rw [Route.statements] at runs
    rw [Route.reply, readinessReply]
    cases taken : requiredVramBytes param with
    | ok required => exact ⟨_, rfl⟩
    | badRequest error => simp [taken] at runs
    | escaped thrown => simp [taken] at runs

/-- **When the responses are complete**: exactly when every statement of the endpoint is
prepared, or has no rows, and no step of it fails before the last of its rows is read. -/
theorem presentsAll_iff (machineId : CStr) (context : RequestContext) (endpoint : Route)
    {db : Database} (selection : Selection db) (access : ReadStmt → Access) :
    PresentsAll machineId context endpoint db (fun s => s.read (access s) (selection.rows s)) ↔
      ∀ s ∈ endpoint.statements machineId context, (access s).Clear (selection.rows s) := by
  constructor
  · intro presents s runs
    obtain ⟨body, normal⟩ := Route.exists_reply_ok runs
      fun s => s.read (access s) (selection.rows s)
    exact (s.selects_read_iff (selection.selects s) (access s)).mp (presents body normal s runs)
  · intro clear body normal s runs
    exact (s.selects_read_iff (selection.selects s) (access s)).mpr (clear s runs)

/-! ## A response that is not -/

/-- The rows in the order of storage where the SQL leaves it open. -/
def Selection.ofStorage (db : Database) : Selection db where
  rows
    | .health machineId => queryCollectorHealth machineId db
    | .catalog machineId filter => querySensorCatalog machineId filter db
    | .history query =>
      querySensorHistory query.sensorUid query.fromMs query.toMs query.limit db
    | .system machineId => systemRows machineId db
    | .gpus machineId =>
      select GpuSnapshotRow.gpuIndex none
        ((newest StoredGpu.ts (machineGpus machineId db)).map StoredGpu.snapshotRow)
    | .ollama machineId =>
      select (fun sample : OllamaKey × OllamaRow => -sample.1.tsUtcMs) (some 1)
        (db.ollamaRuntimeSamples.rows.filter fun sample => sample.1.machineId = machineId)
  selects
    | .health _ => List.Perm.refl _
    | .system _ => List.Perm.refl _
    | .catalog .. => answers_select _
    | .history _ => answers_select _
    | .gpus _ => answers_select _
    | .ollama _ => answers_select _

/-- Two samples of a sensor. -/
def twoSamples : Database :=
  let row : SampleRow := ⟨40, none, none, text "ok", text "librehw_bridge"⟩
  { Database.empty with
    sensorSamples :=
      (Database.empty.sensorSamples.put ⟨text "cpu", 1⟩ row).put ⟨text "cpu", 2⟩ row }

/-- A history whose second step fails is sent as one that ends there. -/
theorem responses_not_always_complete :
    ¬ ∀ machineId context endpoint db (selection : Selection db) (access : ReadStmt → Access),
      PresentsAll machineId context endpoint db
        fun s => s.read (access s) (selection.rows s) := by
  intro always
  have presents := always (text "host") ⟨10, fun _ => 10, ⟨10, 10, 10⟩, none⟩
    (.history ⟨some (text "cpu"), none, none, none⟩) twoSamples (.ofStorage twoSamples)
    fun _ => ⟨true, some 1⟩
  have whole := presents _ rfl (.history ⟨text "cpu", 0, 10, 500⟩) (List.mem_singleton.mpr rfl)
  have clear := (ReadStmt.selects_read_iff
    ((Selection.ofStorage twoSamples).selects (.history ⟨text "cpu", 0, 10, 500⟩)) _).mp whole
  have short : (querySensorHistory (text "cpu") 0 10 500 twoSamples).length ≤ 1 := clear 1 rfl
  exact absurd short (by decide +kernel)

end CapacityAgent

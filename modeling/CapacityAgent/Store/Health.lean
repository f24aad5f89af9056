/-
# What the machine and health rows mean after a run

Five calls write `machine_catalog` and `collector_health`: the four pipe methods
and `UpsertCollectorHealthDirect`. After any run of them a row summarises the
calls of its own key: some columns are joins of the times the calls carried,
others are those of the last call, of the last call that gave a value, or of the
first.
-/

import CapacityAgent.Store.Ingest
import Mathlib.Data.List.Induction

namespace CapacityAgent

open KeyedTable RunningMax Connection

/-! ## Calls -/

/-- The store calls that write machine or health rows. -/
inductive StoreCall
  | pipe (message : BridgeMessage)
  | direct (health : HealthDirect)
  deriving DecidableEq

namespace StoreCall

/-- What a call does when it succeeds. -/
def effect : StoreCall → Database → Database
  | .pipe message => message.effect
  | .direct health => upsertCollectorHealthDirect health

/-- The call on a connection; a health report is a single statement. -/
def execute (fails : ℕ → Bool) : StoreCall → Conn Database → Bool × Conn Database
  | .pipe message, c => persist fails message c
  | .direct health, c =>
    match c.exec (fun db => some (upsertCollectorHealthDirect health db)) (!fails 0) with
    | none => (false, c)
    | some next => (true, next)

theorem execute_closed (call : StoreCall) (fails : ℕ → Bool) (db : Database) :
    call.execute fails (Conn.closed db) = (false, Conn.closed db) ∨
      call.execute fails (Conn.closed db) = (true, Conn.closed (call.effect db)) := by
  cases call with
  | pipe message => exact persist_closed message fails db
  | direct health =>
    by_cases refused : fails 0
    · left
      simp [execute, Conn.exec, refused]
    · right
      simp [execute, Conn.exec, refused, effect, Conn.closed]

/-- The message of a pipe call. -/
def message? : StoreCall → Option BridgeMessage
  | .pipe message => some message
  | .direct _ => none

/-- The key of the health row a call updates. -/
def collectorId : StoreCall → CStr
  | .pipe message => message.collectorId
  | .direct health => health.collectorId

/-- The health columns a call sets. -/
def update : StoreCall → CollectorUpdate
  | .pipe message => message.collectorUpdate
  | .direct health => health.update

/-- The time of a hello. -/
def helloUtcMs : StoreCall → Option ℤ
  | .pipe (.hello message) => some message.envelope.sentAtUtcMs
  | _ => none

/-- The time of a sample batch or a direct report. -/
def sampleUtcMs : StoreCall → Option ℤ
  | .pipe (.sampleBatch message) => some message.sampleTimeUtcMs
  | .direct health => some health.nowUtcMs
  | _ => none

theorem update_lastHelloUtcMs (call : StoreCall) :
    call.update.lastHelloUtcMs = call.helloUtcMs := by
  cases call with
  | pipe message => cases message <;> rfl
  | direct health => rfl

theorem update_lastSampleUtcMs (call : StoreCall) :
    call.update.lastSampleUtcMs = call.sampleUtcMs := by
  cases call with
  | pipe message => cases message <;> rfl
  | direct health => rfl

end StoreCall

/-- The database after the calls, all successful, in order. -/
def afterCalls (calls : List StoreCall) : Database :=
  calls.foldl (fun db call => call.effect db) Database.empty

/-- The messages of a machine. -/
def messagesOf (machineId : CStr) (calls : List StoreCall) : List BridgeMessage :=
  (calls.filterMap StoreCall.message?).filter fun message => message.envelope.machineId = machineId

/-- The calls of a collector. -/
def callsOf (id : CStr) (calls : List StoreCall) : List StoreCall :=
  calls.filter fun call => call.collectorId = id

/-! ## Rows as folds over their own calls -/

theorem foldl_upsertCatalogSensor_tables (envelope : MessageEnvelope)
    (sensors : List CatalogSensor) (db : Database) :
    (sensors.foldl (fun db sensor => upsertCatalogSensor envelope sensor db) db).machineCatalog =
        db.machineCatalog ∧
      (sensors.foldl (fun db sensor => upsertCatalogSensor envelope sensor db) db).collectorHealth =
        db.collectorHealth := by
  induction sensors generalizing db with
  | nil => exact ⟨rfl, rfl⟩
  | cons sensor rest ih => exact ih (upsertCatalogSensor envelope sensor db)

theorem foldl_storeSample_tables (batch : SampleBatchMessage) (samples : List SensorSample)
    (db : Database) :
    (samples.foldl (fun db sample => storeSample batch sample db) db).machineCatalog =
        db.machineCatalog ∧
      (samples.foldl (fun db sample => storeSample batch sample db) db).collectorHealth =
        db.collectorHealth := by
  induction samples generalizing db with
  | nil => exact ⟨rfl, rfl⟩
  | cons sample rest ih =>
    have kept : (storeSample batch sample db).machineCatalog = db.machineCatalog ∧
        (storeSample batch sample db).collectorHealth = db.collectorHealth := by
      unfold storeSample
      split_ifs <;> exact ⟨rfl, rfl⟩
    rw [List.foldl_cons, (ih _).1, (ih _).2]
    exact kept

/-- The elements of a message touch neither table. -/
theorem elementsEffect_tables (message : BridgeMessage) (db : Database) :
    (message.elementsEffect db).machineCatalog = db.machineCatalog ∧
      (message.elementsEffect db).collectorHealth = db.collectorHealth := by
  cases message with
  | hello message => exact ⟨rfl, rfl⟩
  | heartbeat message => exact ⟨rfl, rfl⟩
  | catalogSnapshot message => exact foldl_upsertCatalogSensor_tables ..
  | sampleBatch message => exact foldl_storeSample_tables ..

theorem effect_machineCatalog (message : BridgeMessage) (db : Database) :
    (message.effect db).machineCatalog =
      db.machineCatalog.upsert message.envelope.machineId message.machineUpdate.fresh
        message.machineUpdate.merge :=
  (elementsEffect_tables message _).1

theorem effect_collectorHealth (message : BridgeMessage) (db : Database) :
    (message.effect db).collectorHealth =
      db.collectorHealth.upsert message.collectorId message.collectorUpdate.fresh
        message.collectorUpdate.merge :=
  (elementsEffect_tables message _).2

theorem StoreCall.effect_collectorHealth (call : StoreCall) (db : Database) :
    (call.effect db).collectorHealth =
      db.collectorHealth.upsert call.collectorId call.update.fresh call.update.merge := by
  cases call with
  | pipe message => exact CapacityAgent.effect_collectorHealth message db
  | direct health => rfl

/-- The machine row the messages of one machine produce. -/
def machineRow (messages : List BridgeMessage) : Option MachineRow :=
  messages.foldl (Table.absorb (fun message => message.machineUpdate.fresh)
    fun message => message.machineUpdate.merge) none

/-- The health row the calls of one collector produce. -/
def collectorRow (calls : List StoreCall) : Option CollectorRow :=
  calls.foldl (Table.absorb (fun call => call.update.fresh) fun call => call.update.merge) none

theorem lookup_machineCatalog (machineId : CStr) (calls : List StoreCall) :
    (afterCalls calls).machineCatalog.lookup machineId =
      machineRow (messagesOf machineId calls) := by
  -- health reports leave the machines alone, so only the messages count
  have table : ∀ db : Database,
      (calls.foldl (fun db call => call.effect db) db).machineCatalog =
        (calls.filterMap StoreCall.message?).foldl (fun t message =>
          t.upsert message.envelope.machineId message.machineUpdate.fresh
            message.machineUpdate.merge) db.machineCatalog := by
    induction calls with
    | nil => exact fun _ => rfl
    | cons call rest ih =>
      intro db
      cases call with
      | pipe message =>
        have step : ((StoreCall.pipe message).effect db).machineCatalog = _ :=
          effect_machineCatalog message db
        rw [List.foldl_cons, ih, step]
        rfl
      | direct health =>
        rw [List.foldl_cons, ih]
        rfl
  rw [afterCalls, table, Table.lookup_foldl_upsert]
  rfl

theorem lookup_collectorHealth (id : CStr) (calls : List StoreCall) :
    (afterCalls calls).collectorHealth.lookup id = collectorRow (callsOf id calls) := by
  have table : ∀ db : Database,
      (calls.foldl (fun db call => call.effect db) db).collectorHealth =
        calls.foldl (fun t call => t.upsert call.collectorId call.update.fresh call.update.merge)
          db.collectorHealth := by
    induction calls with
    | nil => exact fun _ => rfl
    | cons call rest ih =>
      intro db
      rw [List.foldl_cons, List.foldl_cons, ih, call.effect_collectorHealth]
  rw [afterCalls, table, Table.lookup_foldl_upsert]
  rfl

/-! ## Summaries -/

/-- What the columns of a machine row say about the messages of the machine. -/
structure MachineSummary (messages : List BridgeMessage) (row : MachineRow) : Prop where
  lastSeen : some row.lastSeenUtcMs =
    runningMax (fun message : BridgeMessage => some message.seenUtcMs) messages
  firstSeen : some row.firstSeenUtcMs = messages.head?.map BridgeMessage.seenUtcMs
  hostname : row.hostname = (messages.filterMap BridgeMessage.hostname).getLast?
  displayName : row.displayName = (messages.filterMap BridgeMessage.hostname).getLast?

/-- What the columns of a health row say about the calls of the collector. -/
structure CollectorSummary (calls : List StoreCall) (row : CollectorRow) : Prop where
  lastHello : row.lastHelloUtcMs = runningMax StoreCall.helloUtcMs calls
  lastSample : row.lastSampleUtcMs = runningMax StoreCall.sampleUtcMs calls
  status : some row.status = calls.getLast?.map (·.update.status)
  collectorType : some row.collectorType = calls.getLast?.map (·.update.collectorType)
  lastError : some row.lastError = calls.getLast?.map (·.update.lastError)
  updated : some row.updatedUtcMs = calls.getLast?.map (·.update.updatedUtcMs)
  extraJson : row.extraJson = (calls.filterMap (·.update.extraJson)).getLast?

/-- The last value given, with one more element that may give one. -/
theorem getLast?_filterMap_concat {α β : Type*} (f : α → Option β) (xs : List α) (x : α) :
    ((xs ++ [x]).filterMap f).getLast? = coalesce (f x) (xs.filterMap f).getLast? := by
  cases given : f x <;> simp [given, coalesce]

theorem machineRow_concat (messages : List BridgeMessage) (message : BridgeMessage) :
    machineRow (messages ++ [message]) = some ((machineRow messages).elim
      message.machineUpdate.fresh message.machineUpdate.merge) := by
  simp [machineRow, Table.absorb]

theorem collectorRow_concat (calls : List StoreCall) (call : StoreCall) :
    collectorRow (calls ++ [call]) =
      some ((collectorRow calls).elim call.update.fresh call.update.merge) := by
  simp [collectorRow, Table.absorb]

/-- A first message summarises itself. -/
theorem MachineSummary.fresh (message : BridgeMessage) :
    MachineSummary [message] message.machineUpdate.fresh where
  lastSeen := by simp [MachineUpdate.fresh, BridgeMessage.machineUpdate]
  firstSeen := rfl
  hostname := by
    rw [← List.nil_append [message], getLast?_filterMap_concat]
    simp [coalesce, MachineUpdate.fresh, BridgeMessage.machineUpdate]
  displayName := by
    rw [← List.nil_append [message], getLast?_filterMap_concat]
    simp [coalesce, MachineUpdate.fresh, BridgeMessage.machineUpdate]

/-- One more message keeps the summary. -/
theorem MachineSummary.merge {messages : List BridgeMessage} {row : MachineRow}
    (summary : MachineSummary messages row) (message : BridgeMessage) :
    MachineSummary (messages ++ [message]) (message.machineUpdate.merge row) where
  lastSeen := by
    rw [runningMax_concat, ← summary.lastSeen, join_some_some, ← later_eq_max]
    rfl
  firstSeen := by
    cases messages with
    -- a row has a first time, so it has a first message
    | nil => exact absurd summary.firstSeen (by simp)
    | cons first rest => exact summary.firstSeen
  hostname := by
    rw [getLast?_filterMap_concat, ← summary.hostname]
    rfl
  displayName := by
    rw [getLast?_filterMap_concat, ← summary.displayName]
    rfl

/-- A machine row exists once a message of the machine was applied, and then
summarises all of them. -/
theorem machineRow_summary (messages : List BridgeMessage) :
    (messages = [] ∧ machineRow messages = none) ∨
      ∃ row, machineRow messages = some row ∧ MachineSummary messages row := by
  induction messages using List.reverseRecOn with
  | nil => exact .inl ⟨rfl, rfl⟩
  | append_singleton messages message ih =>
    -- the last message makes the row or merges into it
    right
    refine ⟨_, machineRow_concat messages message, ?_⟩
    rcases ih with ⟨rfl, absent⟩ | ⟨row, found, summary⟩
    · rw [absent]
      exact .fresh message
    · rw [found]
      exact summary.merge message

/-- A first call summarises itself. -/
theorem CollectorSummary.fresh (call : StoreCall) :
    CollectorSummary [call] call.update.fresh where
  lastHello := by
    rw [runningMax_singleton, ← call.update_lastHelloUtcMs]
    rfl
  lastSample := by
    rw [runningMax_singleton, ← call.update_lastSampleUtcMs]
    rfl
  status := rfl
  collectorType := rfl
  lastError := rfl
  updated := rfl
  extraJson := by
    rw [← List.nil_append [call], getLast?_filterMap_concat]
    simp [coalesce, CollectorUpdate.fresh]

/-- One more call keeps the summary. -/
theorem CollectorSummary.merge {calls : List StoreCall} {row : CollectorRow}
    (summary : CollectorSummary calls row) (call : StoreCall) :
    CollectorSummary (calls ++ [call]) (call.update.merge row) where
  lastHello := by
    rw [runningMax_concat, ← summary.lastHello, ← laterNullable_eq_join,
      ← call.update_lastHelloUtcMs]
    rfl
  lastSample := by
    rw [runningMax_concat, ← summary.lastSample, ← laterNullable_eq_join,
      ← call.update_lastSampleUtcMs]
    rfl
  status := by simp [CollectorUpdate.merge]
  collectorType := by simp [CollectorUpdate.merge]
  lastError := by simp [CollectorUpdate.merge]
  updated := by simp [CollectorUpdate.merge]
  extraJson := by
    rw [getLast?_filterMap_concat, ← summary.extraJson]
    rfl

/-- A health row exists once a call of the collector succeeded, and then
summarises all of them. -/
theorem collectorRow_summary (calls : List StoreCall) :
    (calls = [] ∧ collectorRow calls = none) ∨
      ∃ row, collectorRow calls = some row ∧ CollectorSummary calls row := by
  induction calls using List.reverseRecOn with
  | nil => exact .inl ⟨rfl, rfl⟩
  | append_singleton calls call ih =>
    -- the last call makes the row or merges into it
    right
    refine ⟨_, collectorRow_concat calls call, ?_⟩
    rcases ih with ⟨rfl, absent⟩ | ⟨row, found, summary⟩
    · rw [absent]
      exact .fresh call
    · rw [found]
      exact summary.merge call

/-! ## After any run -/

/-- The machine row after a run, with what it says. -/
theorem machine_after (machineId : CStr) (calls : List StoreCall) :
    (messagesOf machineId calls = [] ∧
        (afterCalls calls).machineCatalog.lookup machineId = none) ∨
      ∃ row, (afterCalls calls).machineCatalog.lookup machineId = some row ∧
        MachineSummary (messagesOf machineId calls) row := by
  rw [lookup_machineCatalog]
  exact machineRow_summary _

/-- The health row after a run, with what it says. -/
theorem collector_after (id : CStr) (calls : List StoreCall) :
    (callsOf id calls = [] ∧ (afterCalls calls).collectorHealth.lookup id = none) ∨
      ∃ row, (afterCalls calls).collectorHealth.lookup id = some row ∧
        CollectorSummary (callsOf id calls) row := by
  rw [lookup_collectorHealth]
  exact collectorRow_summary _

/-- The time a machine was last seen, absent while it has no row. -/
def lastSeen (machineId : CStr) (calls : List StoreCall) : Option ℤ :=
  ((afterCalls calls).machineCatalog.lookup machineId).map MachineRow.lastSeenUtcMs

/-- The last hello time of a collector, absent without row or value. -/
def lastHello (id : CStr) (calls : List StoreCall) : Option ℤ :=
  ((afterCalls calls).collectorHealth.lookup id).bind CollectorRow.lastHelloUtcMs

/-- The last sample time of a collector, absent without row or value. -/
def lastSample (id : CStr) (calls : List StoreCall) : Option ℤ :=
  ((afterCalls calls).collectorHealth.lookup id).bind CollectorRow.lastSampleUtcMs

theorem lastSeen_eq (machineId : CStr) (calls : List StoreCall) :
    lastSeen machineId calls =
      runningMax (fun message : BridgeMessage => some message.seenUtcMs)
        (messagesOf machineId calls) := by
  rcases machine_after machineId calls with ⟨no, absent⟩ | ⟨row, found, summary⟩
  · rw [lastSeen, absent, no]
    rfl
  · rw [lastSeen, found, ← summary.lastSeen]
    rfl

theorem lastHello_eq (id : CStr) (calls : List StoreCall) :
    lastHello id calls = runningMax StoreCall.helloUtcMs (callsOf id calls) := by
  rcases collector_after id calls with ⟨no, absent⟩ | ⟨row, found, summary⟩
  · rw [lastHello, absent, no]
    rfl
  · rw [lastHello, found, ← summary.lastHello]
    rfl

theorem lastSample_eq (id : CStr) (calls : List StoreCall) :
    lastSample id calls = runningMax StoreCall.sampleUtcMs (callsOf id calls) := by
  rcases collector_after id calls with ⟨no, absent⟩ | ⟨row, found, summary⟩
  · rw [lastSample, absent, no]
    rfl
  · rw [lastSample, found, ← summary.lastSample]
    rfl

theorem messagesOf_append (machineId : CStr) (calls more : List StoreCall) :
    messagesOf machineId (calls ++ more) =
      messagesOf machineId calls ++ messagesOf machineId more := by
  simp [messagesOf]

theorem callsOf_append (id : CStr) (calls more : List StoreCall) :
    callsOf id (calls ++ more) = callsOf id calls ++ callsOf id more := by
  simp [callsOf]

/-- **The machine and health rows summarise every run.** Whatever calls fail, the
database is what the successful ones leave; a machine row exists once a message of
the machine was applied and a health row once a call of the collector succeeded,
and they summarise these; the three join columns depend on the calls alone, not on
their order, and never decrease. -/
theorem health_rows_summarise_runs :
    (∀ attempts : List ((ℕ → Bool) × StoreCall),
      (serve (fun attempt => attempt.2.execute attempt.1) attempts
          (Conn.closed Database.empty)).2 =
        Conn.closed (afterCalls ((serve (fun attempt => attempt.2.execute attempt.1) attempts
          (Conn.closed Database.empty)).1.map Prod.snd))) ∧
    ∀ calls : List StoreCall,
      (∀ machineId, (messagesOf machineId calls = [] ∧
          (afterCalls calls).machineCatalog.lookup machineId = none) ∨
        ∃ row, (afterCalls calls).machineCatalog.lookup machineId = some row ∧
          MachineSummary (messagesOf machineId calls) row) ∧
      (∀ id, (callsOf id calls = [] ∧ (afterCalls calls).collectorHealth.lookup id = none) ∨
        ∃ row, (afterCalls calls).collectorHealth.lookup id = some row ∧
          CollectorSummary (callsOf id calls) row) ∧
      (∀ other, calls.Perm other → ∀ key, lastSeen key calls = lastSeen key other ∧
        lastHello key calls = lastHello key other ∧
        lastSample key calls = lastSample key other) ∧
      ∀ more key t,
        (lastSeen key calls = some t → ∃ t', lastSeen key (calls ++ more) = some t' ∧ t ≤ t') ∧
        (lastHello key calls = some t →
          ∃ t', lastHello key (calls ++ more) = some t' ∧ t ≤ t') ∧
        (lastSample key calls = some t →
          ∃ t', lastSample key (calls ++ more) = some t' ∧ t ≤ t') := by
  refine ⟨fun attempts => ?_, fun calls => ⟨fun id => machine_after id calls,
    fun id => collector_after id calls, fun other permuted key => ?_, fun more key t => ?_⟩⟩
  -- failed calls change nothing
  · rw [serve_closed _ (fun attempt : (ℕ → Bool) × StoreCall => attempt.2.effect)
      fun attempt db => attempt.2.execute_closed attempt.1 db, afterCalls, List.foldl_map]
  · simp only [lastSeen_eq, lastHello_eq, lastSample_eq]
    -- the calls of a key are permuted with the others
    exact ⟨runningMax_perm ((permuted.filterMap _).filter _),
      runningMax_perm (permuted.filter _), runningMax_perm (permuted.filter _)⟩
  · simp only [lastSeen_eq, lastHello_eq, lastSample_eq, messagesOf_append, callsOf_append]
    exact ⟨fun reached => runningMax_mono reached _, fun reached => runningMax_mono reached _,
      fun reached => runningMax_mono reached _⟩

end CapacityAgent

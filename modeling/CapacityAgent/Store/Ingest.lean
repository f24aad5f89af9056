/-
# Pipe ingestion

The four methods that apply a bridge message. Each runs its statements in one
transaction: the machine upsert, the collector upsert, then one statement for
every element of the message. `persist` dispatches on the kind of message, as
`Service::HandlePipeMessage` does after parsing.

The effect of a message is defined on its own, as the upserts in order; a method
that returns true has had exactly that effect, and one that returns false none.
-/

import CapacityAgent.Store.Statements
import CapacityAgent.Library.Connection

namespace CapacityAgent

open Connection

/-! ## The methods -/

/-- The statements of `UpsertHello`. -/
def helloStatements (message : HelloMessage) : List PipeStmt :=
  let envelope := message.envelope
  [.machine envelope.machineId
      { hostname := some message.hostname
        displayName := some message.hostname
        seenUtcMs := envelope.sentAtUtcMs
        extraJson := some (buildMachineExtraJson message) },
    .collector (collectorId envelope.machineId envelope.source)
      { machineId := envelope.machineId
        source := envelope.source
        collectorType := text "bridge"
        status := text "ok"
        lastHelloUtcMs := some envelope.sentAtUtcMs
        lastSampleUtcMs := none
        lastError := none
        updatedUtcMs := envelope.sentAtUtcMs
        extraJson := some (buildHelloExtraJson message) }]

/-- The statements of `UpsertCatalogSnapshot`. -/
def catalogStatements (message : CatalogSnapshotMessage) : List PipeStmt :=
  let envelope := message.envelope
  [.machine envelope.machineId
      { hostname := none
        displayName := none
        seenUtcMs := envelope.sentAtUtcMs
        extraJson := none },
    .collector (collectorId envelope.machineId envelope.source)
      { machineId := envelope.machineId
        source := envelope.source
        collectorType := text "sensor_stream"
        status := text "ok"
        lastHelloUtcMs := none
        lastSampleUtcMs := none
        lastError := none
        updatedUtcMs := envelope.sentAtUtcMs
        extraJson := some (buildCatalogExtraJson message.sensors.length) }] ++
    message.sensors.map (.catalogSensor envelope)

/-- The statements of `InsertSampleBatch`; the machine is seen at the sample time,
the collector is updated at the send time. -/
def batchStatements (message : SampleBatchMessage) : List PipeStmt :=
  let envelope := message.envelope
  [.machine envelope.machineId
      { hostname := none
        displayName := none
        seenUtcMs := message.sampleTimeUtcMs
        extraJson := none },
    .collector (collectorId envelope.machineId envelope.source)
      { machineId := envelope.machineId
        source := envelope.source
        collectorType := text "sensor_stream"
        status := text "ok"
        lastHelloUtcMs := none
        lastSampleUtcMs := some message.sampleTimeUtcMs
        lastError := none
        updatedUtcMs := envelope.sentAtUtcMs
        extraJson := some (buildSampleExtraJson message.samples.length) }] ++
    message.samples.map (.sensorSample message)

/-- The statements of `UpsertHeartbeat`. -/
def heartbeatStatements (message : HeartbeatMessage) : List PipeStmt :=
  let envelope := message.envelope
  [.machine envelope.machineId
      { hostname := none
        displayName := none
        seenUtcMs := envelope.sentAtUtcMs
        extraJson := none },
    .collector (collectorId envelope.machineId envelope.source)
      { machineId := envelope.machineId
        source := envelope.source
        collectorType := text "bridge"
        status := message.status
        lastHelloUtcMs := none
        lastSampleUtcMs := none
        lastError := none
        updatedUtcMs := envelope.sentAtUtcMs
        extraJson := some (buildHeartbeatExtraJson message) }]

/-- The statements a message is applied by. -/
def BridgeMessage.statements : BridgeMessage → List PipeStmt
  | .hello message => helloStatements message
  | .catalogSnapshot message => catalogStatements message
  | .sampleBatch message => batchStatements message
  | .heartbeat message => heartbeatStatements message

section Methods

variable (fails : ℕ → Bool)

/-- `SqliteStore::UpsertHello`. -/
def upsertHello (message : HelloMessage) : Conn Database → Bool × Conn Database :=
  transact PipeStmt.apply fails (helloStatements message)

/-- `SqliteStore::UpsertCatalogSnapshot`. -/
def upsertCatalogSnapshot (message : CatalogSnapshotMessage) :
    Conn Database → Bool × Conn Database :=
  transact PipeStmt.apply fails (catalogStatements message)

/-- `SqliteStore::InsertSampleBatch`. -/
def insertSampleBatch (message : SampleBatchMessage) : Conn Database → Bool × Conn Database :=
  transact PipeStmt.apply fails (batchStatements message)

/-- `SqliteStore::UpsertHeartbeat`. -/
def upsertHeartbeat (message : HeartbeatMessage) : Conn Database → Bool × Conn Database :=
  transact PipeStmt.apply fails (heartbeatStatements message)

/-- The dispatch of `Service::HandlePipeMessage`. -/
def persist : BridgeMessage → Conn Database → Bool × Conn Database
  | .hello message => upsertHello fails message
  | .catalogSnapshot message => upsertCatalogSnapshot fails message
  | .sampleBatch message => insertSampleBatch fails message
  | .heartbeat message => upsertHeartbeat fails message

theorem persist_eq_transact (message : BridgeMessage) (c : Conn Database) :
    persist fails message c = transact PipeStmt.apply fails message.statements c := by
  cases message <;> rfl

end Methods

/-! ## What a message does -/

/-- The time a message reports about its machine. -/
def BridgeMessage.seenUtcMs : BridgeMessage → ℤ
  | .sampleBatch message => message.sampleTimeUtcMs
  | message => message.envelope.sentAtUtcMs

/-- The host name a message gives its machine; only a hello does. -/
def BridgeMessage.hostname : BridgeMessage → Option CStr
  | .hello message => some message.hostname
  | _ => none

/-- The machine columns a message sets. -/
def BridgeMessage.machineUpdate (message : BridgeMessage) : MachineUpdate where
  hostname := message.hostname
  displayName := message.hostname
  seenUtcMs := message.seenUtcMs
  extraJson :=
    match message with
    | .hello greeting => some (buildMachineExtraJson greeting)
    | _ => none

/-- The collector columns a message sets. -/
def BridgeMessage.collectorUpdate (message : BridgeMessage) : CollectorUpdate where
  machineId := message.envelope.machineId
  source := message.envelope.source
  collectorType :=
    match message with
    | .hello _ | .heartbeat _ => text "bridge"
    | .catalogSnapshot _ | .sampleBatch _ => text "sensor_stream"
  status :=
    match message with
    | .heartbeat beat => beat.status
    | _ => text "ok"
  lastHelloUtcMs :=
    match message with
    | .hello greeting => some greeting.envelope.sentAtUtcMs
    | _ => none
  lastSampleUtcMs :=
    match message with
    | .sampleBatch batch => some batch.sampleTimeUtcMs
    | _ => none
  lastError := none
  updatedUtcMs := message.envelope.sentAtUtcMs
  extraJson :=
    match message with
    | .hello greeting => some (buildHelloExtraJson greeting)
    | .catalogSnapshot snapshot => some (buildCatalogExtraJson snapshot.sensors.length)
    | .sampleBatch batch => some (buildSampleExtraJson batch.samples.length)
    | .heartbeat beat => some (buildHeartbeatExtraJson beat)

/-- The key of the health row a message updates. -/
def BridgeMessage.collectorId (message : BridgeMessage) : CStr :=
  CapacityAgent.collectorId message.envelope.machineId message.envelope.source

/-- The catalog upserts or sample inserts of a message, in list order. -/
def BridgeMessage.elementsEffect (message : BridgeMessage) (db : Database) : Database :=
  match message with
  | .catalogSnapshot snapshot =>
    snapshot.sensors.foldl (fun db sensor => upsertCatalogSensor snapshot.envelope sensor db) db
  | .sampleBatch batch => batch.samples.foldl (fun db sample => storeSample batch sample db) db
  | .hello _ | .heartbeat _ => db

/-- The machine upsert, the collector upsert, then every element in order. -/
def BridgeMessage.effect (message : BridgeMessage) (db : Database) : Database :=
  message.elementsEffect
    (upsertCollector message.collectorId message.collectorUpdate
      (upsertMachine message.envelope.machineId message.machineUpdate db))

/-- Executing the statements of a message has its effect; none is ever refused. -/
theorem applyAll_statements (message : BridgeMessage) (db : Database) :
    applyAll PipeStmt.apply message.statements db = some (message.effect db) := by
  rw [applyAll_eq_foldl PipeStmt.apply PipeStmt.effect message.statements
    fun stmt _ db => stmt.apply_eq db]
  cases message with
  | hello message => rfl
  | heartbeat message => rfl
  | catalogSnapshot message =>
    simp only [BridgeMessage.statements, catalogStatements, List.foldl_append, List.foldl_map,
      List.foldl_cons, List.foldl_nil, PipeStmt.effect]
    rfl
  | sampleBatch message =>
    simp only [BridgeMessage.statements, batchStatements, List.foldl_append, List.foldl_map,
      List.foldl_cons, List.foldl_nil, PipeStmt.effect]
    rfl

/-- The two outcomes of a message on a connection without an open transaction. -/
theorem persist_closed (message : BridgeMessage) (fails : ℕ → Bool) (db : Database) :
    persist fails message (Conn.closed db) = (false, Conn.closed db) ∨
      persist fails message (Conn.closed db) = (true, Conn.closed (message.effect db)) := by
  rw [persist_eq_transact]
  rcases transact_atomic PipeStmt.apply fails message.statements db with
    failed | ⟨db', effect, succeeded⟩
  · exact .inl failed
  · rw [applyAll_statements] at effect
    obtain rfl := Option.some.inj effect
    exact .inr succeeded

/-- No message fails on its own account. -/
theorem persist_of_healthy (message : BridgeMessage) {fails : ℕ → Bool}
    (healthy : ∀ n, fails n = false) (db : Database) :
    persist fails message (Conn.closed db) = (true, Conn.closed (message.effect db)) := by
  rw [persist_eq_transact]
  exact transact_of_applyAll PipeStmt.apply healthy (applyAll_statements message db)

/-- **A message is applied all or nothing.** On a connection without an open
transaction, whichever commands fail, a message reported as failed leaves the
database as it was and one reported as applied has its whole effect; either way
no transaction stays open. -/
theorem persist_all_or_nothing (message : BridgeMessage) (fails : ℕ → Bool) (db : Database) :
    ((persist fails message (Conn.closed db)).1 = false →
        (persist fails message (Conn.closed db)).2 = Conn.closed db) ∧
      ((persist fails message (Conn.closed db)).1 = true →
        (persist fails message (Conn.closed db)).2 = Conn.closed (message.effect db)) := by
  rcases persist_closed message fails db with failed | succeeded
  · rw [failed]
    exact ⟨fun _ => rfl, fun reported => Bool.noConfusion reported⟩
  · rw [succeeded]
    exact ⟨fun reported => Bool.noConfusion reported, fun _ => rfl⟩

/-! ## Runs of messages -/

/-- The effects of messages in order. -/
def replay (messages : List BridgeMessage) (db : Database) : Database :=
  messages.foldl (fun db message => message.effect db) db

theorem replay_concat (messages : List BridgeMessage) (message : BridgeMessage) (db : Database) :
    replay (messages ++ [message]) db = message.effect (replay messages db) := by
  simp [replay]

/-- A message with the pattern of failing commands it meets. -/
abbrev Attempt := (ℕ → Bool) × BridgeMessage

/-- `HandlePipeMessage` on one message after the other. -/
def ingest (attempts : List Attempt) (c : Conn Database) : List Attempt × Conn Database :=
  serve (fun attempt => persist attempt.1 attempt.2) attempts c

/-- The messages a run from the empty database reported as applied. -/
def appliedMessages (attempts : List Attempt) : List BridgeMessage :=
  (ingest attempts (Conn.closed Database.empty)).1.map Prod.snd

/-- The database after a run from the empty one. -/
def storeAfter (attempts : List Attempt) : Database :=
  (ingest attempts (Conn.closed Database.empty)).2.db

/-- A run leaves the database the applied messages alone would have left. -/
theorem storeAfter_eq (attempts : List Attempt) :
    storeAfter attempts = replay (appliedMessages attempts) Database.empty := by
  have run := serve_closed (fun attempt : Attempt => persist attempt.1 attempt.2)
    (fun attempt => attempt.2.effect)
    (fun attempt db => persist_closed attempt.2 attempt.1 db) attempts Database.empty
  rw [storeAfter, ingest, run, appliedMessages, ingest, replay, List.foldl_map]
  rfl

end CapacityAgent

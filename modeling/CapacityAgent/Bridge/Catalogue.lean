/-
# Catalog and batches of a connection

The catalog of a connection is collected before it is made and sent once; every batch
traverses the tree of its own turn. The batches of a run are catalogued exactly when no
delivered turn reads a sensor that the tree of its connection did not have, and the host
then stores every sample it is sent.
-/

import CapacityAgent.Bridge.Agreement
import CapacityAgent.Store.Samples

namespace CapacityAgent.LibreHwBridge

open CJson (itemOf)
open Json (Encoder)
open NetString (literal)

/-! ## Sensors of trees -/

/-- Every sensor with a value in the second tree is one of the first, by its identifier. -/
def Lists (catalogued computer : Computer) : Prop :=
  ∀ visited ∈ sensorsOfEach computer, visited.2.value.isSome →
    ∃ listed ∈ sensorsOfEach catalogued, listed.2.identifier = visited.2.identifier

theorem mem_collectSamples {computer : Computer} {sample : SensorSample} :
    sample ∈ collectSamples computer ↔
      ∃ visited ∈ sensorsOfEach computer, sensorSample visited.2 = some sample := by
  rw [collectSamples_eq, List.mem_filterMap]

theorem sensorUid_of_sensorSample {sensor : ISensor} {sample : SensorSample}
    (taken : sensorSample sensor = some sample) :
    sample.sensorUid = sensorUid sensor ∧ sensor.value.isSome := by
  obtain ⟨value, here, rfl⟩ := Option.map_eq_some_iff.mp taken
  exact ⟨rfl, by rw [here]; rfl⟩

/-- The catalog of a tree names a sensor when the tree has one of its identifier. -/
theorem exists_mem_buildCatalog {computer : Computer} {sensor : ISensor} :
    (∃ entry ∈ buildCatalog computer, entry.sensorUid = sensorUid sensor) ↔
      ∃ listed ∈ sensorsOfEach computer, listed.2.identifier = sensor.identifier := by
  rw [buildCatalog_eq]
  constructor
  · rintro ⟨entry, member, same⟩
    obtain ⟨listed, inTree, rfl⟩ := List.mem_map.mp member
    exact ⟨listed, inTree, NetString.append_left_cancel same⟩
  · rintro ⟨listed, inTree, same⟩
    exact ⟨_, List.mem_map_of_mem inTree, congrArg (literal "librehw:" ++ ·) same⟩

/-- The samples of a tree are named by the catalog of another when it lists their sensors. -/
theorem lists_iff {catalogued computer : Computer} :
    Lists catalogued computer ↔
      ∀ sample ∈ collectSamples computer,
        ∃ entry ∈ buildCatalog catalogued, entry.sensorUid = sample.sensorUid := by
  constructor
  · intro lists sample member
    obtain ⟨visited, inTree, taken⟩ := mem_collectSamples.mp member
    obtain ⟨same, hasValue⟩ := sensorUid_of_sensorSample taken
    rw [same]
    exact exists_mem_buildCatalog.mpr (lists visited inTree hasValue)
  · intro named visited inTree hasValue
    obtain ⟨value, here⟩ := Option.isSome_iff_exists.mp hasValue
    obtain ⟨sample, taken⟩ : ∃ sample, sensorSample visited.2 = some sample := by
      rw [sensorSample, here]
      exact ⟨_, rfl⟩
    have entry := named _ (mem_collectSamples.mpr ⟨visited, inTree, taken⟩)
    rw [(sensorUid_of_sensorSample taken).1] at entry
    exact exists_mem_buildCatalog.mp entry

/-! ## Delivered turns -/

/-- The readings of the turn can be written and the pipe takes its batch. -/
def Turn.delivers (turn : Turn) : Bool :=
  (collectSamples turn.computer).all (·.json.isSome) && turn.batchWritten

/-- The turns whose batch is delivered, up to the first delivery that fails. -/
def deliveredTurns (nextHeartbeat : ℤ) : List Turn → List Turn
  | [] => []
  | turn :: rest =>
    if turn.delivers then
      turn ::
        if nextHeartbeat ≤ turn.now.ticks then
          if turn.heartbeatWritten then
            deliveredTurns (turn.now.ticks + heartbeatPeriod) rest
          else []
        else deliveredTurns nextHeartbeat rest
    else []

/-- The delivered turns of a connection. -/
def Session.delivered (session : Session) : List Turn :=
  if session.connects && session.helloWritten && session.catalogWritten then
    deliveredTurns (session.heartbeatStart.ticks + heartbeatPeriod) session.turns
  else []

theorem isSome_mapM_json (samples : List SensorSample) :
    (samples.mapM SensorSample.json).isSome = samples.all (·.json.isSome) := by
  induction samples with
  | nil => rfl
  | cons sample rest ih =>
    rw [List.mapM_cons, List.all_cons, ← ih]
    cases sample.json with
    | none => rfl
    | some value => cases rest.mapM SensorSample.json <;> rfl

theorem SampleBatchMessage.isSome_json (message : SampleBatchMessage) :
    message.json.isSome = message.samples.all (·.json.isSome) := by
  rw [← isSome_mapM_json, SampleBatchMessage.json]
  cases message.samples.mapM SensorSample.json <;> rfl

/-! ## What is sent on a connection -/

/-- The `Send` of the turn's batch. -/
def Turn.batchCall (turn : Turn) : Call := .sampleBatch turn.computer turn.now turn.batchUtcNow

section Run

variable (environment : Environment) (options : BridgeOptions) (startedAt : DateTimeOffset)

theorem succeeds_batchCall (turn : Turn) :
    Sending.succeeds environment options ⟨turn.batchCall, turn.batchWritten⟩ = turn.delivers :=
  congrArg (· && turn.batchWritten) (SampleBatchMessage.isSome_json _)

/-- The calls of the inner loop that are sent. -/
def sentBy (count : Int32) (nextHeartbeat : ℤ) (turns : List Turn) : List Call :=
  ((Session.innerLoop startedAt count nextHeartbeat turns).takeWhile
    (Sending.succeeds environment options)).map Sending.call

theorem sentBy_cons (count : Int32) (nextHeartbeat : ℤ) (turn : Turn) (rest : List Turn) :
    sentBy environment options startedAt count nextHeartbeat (turn :: rest) =
      if turn.delivers then
        turn.batchCall ::
          if nextHeartbeat ≤ turn.now.ticks then
            if turn.heartbeatWritten then
              .heartbeat startedAt count turn.heartbeatUtcNow turn.uptimeUtcNow ::
                sentBy environment options startedAt count (turn.now.ticks + heartbeatPeriod) rest
            else []
          else sentBy environment options startedAt count nextHeartbeat rest
      else [] := by
  have beats : ∀ utcNow later written, Sending.succeeds environment options
      ⟨.heartbeat startedAt count utcNow later, written⟩ = written :=
    fun utcNow later written => Bool.true_and written
  have batch := succeeds_batchCall environment options turn
  simp only [Turn.batchCall] at batch ⊢
  simp only [sentBy, Session.innerLoop, List.takeWhile_cons, batch]
  split_ifs with delivers due written
  · simp only [List.takeWhile_cons, beats, written, if_true, List.map_cons]
  · simp only [List.takeWhile_cons, beats, if_neg written, List.map_cons, List.map_nil]
  · rfl
  · rfl

/-- The loop sends the batches of the delivered turns, and heartbeats. -/
theorem mem_sentBy {count : Int32} {nextHeartbeat : ℤ} {turns : List Turn} {call : Call}
    (sent : call ∈ sentBy environment options startedAt count nextHeartbeat turns) :
    (∃ turn ∈ deliveredTurns nextHeartbeat turns, turn.batchCall = call) ∨
      ∃ utcNow later, call = .heartbeat startedAt count utcNow later := by
  induction turns generalizing nextHeartbeat with
  | nil => exact absurd sent List.not_mem_nil
  | cons turn rest ih =>
    rw [sentBy_cons] at sent
    -- by what the turn's batch and heartbeat came to
    rw [deliveredTurns]
    split_ifs at sent ⊢ with delivers due written
    · rcases List.mem_cons.mp sent with rfl | sent
      · exact .inl ⟨turn, List.mem_cons_self, rfl⟩
      rcases List.mem_cons.mp sent with rfl | sent
      · exact .inr ⟨_, _, rfl⟩
      exact (ih sent).imp_left fun ⟨later, member, same⟩ =>
        ⟨later, List.mem_cons_of_mem turn member, same⟩
    · obtain rfl := List.mem_singleton.mp sent
      exact .inl ⟨turn, List.mem_cons_self, rfl⟩
    · rcases List.mem_cons.mp sent with rfl | sent
      · exact .inl ⟨turn, List.mem_cons_self, rfl⟩
      exact (ih sent).imp_left fun ⟨later, member, same⟩ =>
        ⟨later, List.mem_cons_of_mem turn member, same⟩
    · exact absurd sent List.not_mem_nil

theorem batchCall_mem_sentBy {count : Int32} {nextHeartbeat : ℤ} {turns : List Turn}
    {turn : Turn} (delivered : turn ∈ deliveredTurns nextHeartbeat turns) :
    turn.batchCall ∈ sentBy environment options startedAt count nextHeartbeat turns := by
  induction turns generalizing nextHeartbeat with
  | nil => exact absurd delivered List.not_mem_nil
  | cons first rest ih =>
    rw [deliveredTurns] at delivered
    rw [sentBy_cons]
    split_ifs at delivered ⊢ with delivers due written
    · rcases List.mem_cons.mp delivered with rfl | later
      · exact List.mem_cons_self
      · exact List.mem_cons_of_mem _ (List.mem_cons_of_mem _ (ih later))
    · obtain rfl := List.mem_singleton.mp delivered
      exact List.mem_cons_self
    · rcases List.mem_cons.mp delivered with rfl | later
      · exact List.mem_cons_self
      · exact List.mem_cons_of_mem _ (ih later)
    · exact absurd delivered List.not_mem_nil

/-- The catalog of a connection is sent before anything but the hello, and only once. -/
theorem sent_eq {session : Session}
    (opened : (session.connects && session.helloWritten && session.catalogWritten) = true) :
    session.sent environment options startedAt =
      .hello (buildCatalog session.computer) session.helloUtcNow ::
        .catalogSnapshot (buildCatalog session.computer) session.catalogUtcNow ::
          sentBy environment options startedAt
            (Int32.ofNat (buildCatalog session.computer).length)
            (session.heartbeatStart.ticks + heartbeatPeriod) session.turns := by
  simp only [Bool.and_eq_true] at opened
  obtain ⟨⟨connects, hello⟩, catalog⟩ := opened
  have helloSent : Sending.succeeds environment options
      ⟨.hello (buildCatalog session.computer) session.helloUtcNow, session.helloWritten⟩ = true :=
    hello
  have catalogSent : Sending.succeeds environment options
      ⟨.catalogSnapshot (buildCatalog session.computer) session.catalogUtcNow,
        session.catalogWritten⟩ = true := catalog
  rw [Session.sent, if_pos connects, Session.sendings]
  simp only [List.takeWhile_cons, helloSent, catalogSent, if_true, List.map_cons]
  rfl

/-- A connection on which the catalog is not sent carries no batch. -/
theorem eq_hello_of_mem_sent {session : Session}
    (failed : (session.connects && session.helloWritten && session.catalogWritten) = false)
    {call : Call} (sent : call ∈ session.sent environment options startedAt) :
    call = .hello (buildCatalog session.computer) session.helloUtcNow := by
  have helloSent : Sending.succeeds environment options
      ⟨.hello (buildCatalog session.computer) session.helloUtcNow, session.helloWritten⟩ =
        session.helloWritten := Bool.true_and _
  have catalogSent : Sending.succeeds environment options
      ⟨.catalogSnapshot (buildCatalog session.computer) session.catalogUtcNow,
        session.catalogWritten⟩ = session.catalogWritten := Bool.true_and _
  rw [Session.sent] at sent
  split_ifs at sent with connects
  · simp only [Session.sendings, List.takeWhile_cons, helloSent, catalogSent] at sent
    -- the successful sends stop before the catalog
    cases hello : session.helloWritten with
    | false => simp [hello] at sent
    | true =>
      have catalog : session.catalogWritten = false := by simpa [connects, hello] using failed
      simpa [hello, catalog] using sent
  · exact absurd sent List.not_mem_nil

/-- What a connection can carry. -/
theorem mem_sent {session : Session} {call : Call}
    (sent : call ∈ session.sent environment options startedAt) :
    (∃ catalog utcNow, call = .hello catalog utcNow) ∨
      (∃ utcNow, call = .catalogSnapshot (buildCatalog session.computer) utcNow) ∨
      (∃ turn ∈ session.delivered, turn.batchCall = call) ∨
      ∃ count utcNow later, call = .heartbeat startedAt count utcNow later := by
  cases opened : session.connects && session.helloWritten && session.catalogWritten with
  | false => exact .inl ⟨_, _, eq_hello_of_mem_sent environment options startedAt opened sent⟩
  | true =>
    rw [sent_eq environment options startedAt opened] at sent
    rcases List.mem_cons.mp sent with rfl | sent
    · exact .inl ⟨_, _, rfl⟩
    rcases List.mem_cons.mp sent with rfl | sent
    · exact .inr (.inl ⟨_, rfl⟩)
    rw [Session.delivered, if_pos opened]
    exact .inr (.inr ((mem_sentBy environment options startedAt sent).imp_right fun beat =>
      ⟨_, beat⟩))

/-! ## Batches and their catalog -/

/-- Every sensor of a batch sent on the connection is in a catalog sent on it before. -/
def Session.BatchesCatalogued (session : Session) : Prop :=
  ∀ before batch after,
    session.messages environment options startedAt = before ++ .sampleBatch batch :: after →
      ∀ sample ∈ batch.samples, ∃ snapshot, .catalogSnapshot snapshot ∈ before ∧
        ∃ entry ∈ snapshot.sensors, entry.sensorUid = sample.sensorUid

/-- Two messages that are no batches come before any batch. -/
theorem eq_append_of_notBatch {first second : Message} {rest before after : List Message}
    {batch : SampleBatchMessage} (notFirst : ∀ other, first ≠ .sampleBatch other)
    (notSecond : ∀ other, second ≠ .sampleBatch other)
    (split : first :: second :: rest = before ++ .sampleBatch batch :: after) :
    second ∈ before ∧ .sampleBatch batch ∈ rest := by
  rcases before with _ | ⟨head, _ | ⟨next, tail⟩⟩
  · exact absurd (List.cons.inj split).1 (notFirst batch)
  · exact absurd (List.cons.inj (List.cons.inj split).2).1 (notSecond batch)
  · obtain ⟨-, rfl, rfl⟩ : first = head ∧ second = next ∧
        rest = tail ++ .sampleBatch batch :: after := by simpa using split
    simp

/-- **When the batches of a connection are catalogued**: no delivered turn reads a sensor
that the tree of the connection's catalog did not have. -/
theorem batchesCatalogued_iff (session : Session) :
    session.BatchesCatalogued environment options startedAt ↔
      ∀ turn ∈ session.delivered, Lists session.computer turn.computer := by
  unfold Session.BatchesCatalogued Session.messages Session.delivered
  cases opened : session.connects && session.helloWritten && session.catalogWritten with
  | false =>
    -- no catalog, so no batch either
    refine iff_of_true (fun before batch after split => ?_) (by simp)
    have member : Message.sampleBatch batch ∈ (session.sent environment options startedAt).map
        (Call.message environment options) := split ▸ by simp
    obtain ⟨call, sent, same⟩ := List.mem_map.mp member
    rw [eq_hello_of_mem_sent environment options startedAt opened sent] at same
    cases same
  | true =>
    rw [sent_eq environment options startedAt opened, if_pos rfl]
    constructor
    · intro catalogued turn delivered
      -- the catalog sent first is the only one before the turn's batch
      obtain ⟨earlier, later, split⟩ := List.append_of_mem
        (batchCall_mem_sentBy environment options startedAt delivered)
      rw [lists_iff]
      intro sample member
      obtain ⟨snapshot, sentBefore, entry, listed, same⟩ := catalogued
        (.hello _ :: .catalogSnapshot _ :: earlier.map (Call.message environment options)) _
        (later.map (Call.message environment options))
        (by rw [split, List.map_cons, List.map_cons, List.map_append, List.map_cons]; rfl)
        sample member
      rcases List.mem_cons.mp sentBefore with isHello | sentBefore
      · cases isHello
      rcases List.mem_cons.mp sentBefore with isFirst | sentBefore
      · obtain rfl := Message.catalogSnapshot.inj isFirst
        exact ⟨entry, listed, same⟩
      · obtain ⟨call, inEarlier, isCatalog⟩ := List.mem_map.mp sentBefore
        have sent : call ∈ earlier ++ turn.batchCall :: later := List.mem_append_left _ inEarlier
        rcases mem_sentBy environment options startedAt (split ▸ sent) with
          ⟨turn', -, rfl⟩ | ⟨utcNow, later', rfl⟩
        · cases isCatalog
        · cases isCatalog
    · intro lists before batch after split sample member
      -- a batch comes from the inner loop, after the catalog
      obtain ⟨catalogFirst, inLoop⟩ := eq_append_of_notBatch
        (by rintro other ⟨⟩) (by rintro other ⟨⟩) split
      obtain ⟨call, sent, same⟩ := List.mem_map.mp inLoop
      rcases mem_sentBy environment options startedAt sent with
        ⟨turn, delivered, rfl⟩ | ⟨utcNow, later, rfl⟩
      · obtain rfl := Message.sampleBatch.inj same
        obtain ⟨entry, listed, named⟩ := lists_iff.mp (lists turn delivered) sample member
        exact ⟨_, catalogFirst, entry, listed, named⟩
      · cases same

end Run

/-! ## What the host stores -/

theorem SensorSample.isFinite_of_isSome_json {sample : SensorSample}
    (written : sample.json.isSome) : sample.IsFinite := by
  have single : ∀ {reading : Single}, reading.json.isSome → reading.IsFinite := by
    rintro (_ | _ | _) some
    · trivial
    · cases some
    · cases some
  have optional : ∀ {reading : Option Single}, (singleJson reading).isSome →
      ∀ value ∈ reading, value.IsFinite := by
    rintro (_ | reading) some value member
    · cases member
    · obtain rfl := Option.some.inj member
      exact single some
  rw [SensorSample.json] at written
  cases value : sample.value.json with
  | none => simp [value] at written
  | some valueJson =>
    cases min : singleJson sample.min with
    | none => simp [value, min] at written
    | some minJson =>
      cases max : singleJson sample.max with
      | none => simp [value, min, max] at written
      | some maxJson =>
        exact ⟨single (by rw [value]; rfl), optional (by rw [min]; rfl),
          optional (by rw [max]; rfl)⟩

theorem Message.isFinite_of_isSome_json {message : Message} (written : message.json.isSome) :
    message.IsFinite := by
  cases message with
  | hello message => trivial
  | catalogSnapshot message => trivial
  | heartbeat message => trivial
  | sampleBatch message =>
    have each : message.samples.all (·.json.isSome) = true :=
      message.isSome_json.symm.trans written
    exact fun sample member =>
      SensorSample.isFinite_of_isSome_json (List.all_eq_true.mp each sample member)

section Host

variable (encoder : Encoder) (formatDouble : Double → Bytes)
variable (environment : Environment) (options : BridgeOptions) (startedAt : DateTimeOffset)

/-- The lines of calls of `Send`. -/
def lines (calls : List Call) : Bytes :=
  calls.flatMap fun call => (send encoder (call.message environment options)).getD []

/-- The bytes sent on a connection; a line the pipe did not take whole is left out. -/
def Session.stream (session : Session) : Bytes :=
  lines encoder environment options (session.sent environment options startedAt)

/-- The messages the host reads from a byte stream. -/
def hostMessages (stream : Bytes) : List BridgeMessage :=
  (NamedPipeServer.messages stream).filterMap fun line =>
    (parseBridgeMessage formatDouble line).toOption

theorem hostMessages_lines {calls : List Call}
    (writable : ∀ call ∈ calls, (call.message environment options).json.isSome) :
    hostMessages formatDouble (lines encoder environment options calls) =
      calls.map (Call.received environment options) := by
  induction calls with
  | nil => rfl
  | cons call rest ih =>
    obtain ⟨value, written, reads⟩ := call.readAs environment options
      (Message.isFinite_of_isSome_json (writable call List.mem_cons_self))
    obtain ⟨-, delivered, parsed⟩ := reads.line encoder formatDouble
    have first : lines encoder environment options (call :: rest) =
        value.text encoder ++ lineBreak ++ lines encoder environment options rest := by
      rw [lines, List.flatMap_cons, send, written]
      rfl
    have later := ih fun other member => writable other (List.mem_cons_of_mem call member)
    rw [hostMessages] at later ⊢
    -- the first line is cut off and parsed, the rest is read as before
    rw [first, delivered, List.filterMap_cons, parsed, later]
    rfl

/-- The host reads the messages of a connection in the order sent. -/
theorem hostMessages_stream (session : Session) :
    hostMessages formatDouble (session.stream encoder environment options startedAt) =
      (session.sent environment options startedAt).map (Call.received environment options) := by
  refine hostMessages_lines encoder formatDouble environment options fun call sent => ?_
  rw [Session.sent] at sent
  split_ifs at sent with connects
  · obtain ⟨sending, taken, rfl⟩ := List.mem_map.mp sent
    have succeeds := List.mem_takeWhile_imp taken
    rw [Sending.succeeds, Bool.and_eq_true] at succeeds
    exact succeeds.1
  · exact absurd sent List.not_mem_nil

/-- A batch the host reads is one of a delivered turn, and the catalog it reads on the
connection names the sensors of its samples. -/
theorem exists_catalogued {session : Session}
    (lists : ∀ turn ∈ session.delivered, Lists session.computer turn.computer)
    {batch : CapacityAgent.SampleBatchMessage} {snapshot : CapacityAgent.CatalogSnapshotMessage}
    (batchRead : .sampleBatch batch ∈ hostMessages formatDouble
      (session.stream encoder environment options startedAt))
    (snapshotRead : .catalogSnapshot snapshot ∈ hostMessages formatDouble
      (session.stream encoder environment options startedAt)) :
    ∀ sample ∈ batch.samples, ∃ sensor ∈ snapshot.sensors,
      sensor.sensorUid = sample.sensorUid := by
  rw [hostMessages_stream] at batchRead snapshotRead
  obtain ⟨batchCall, batchSent, batchSame⟩ := List.mem_map.mp batchRead
  obtain ⟨catalogCall, catalogSent, catalogSame⟩ := List.mem_map.mp snapshotRead
  rcases mem_sent environment options startedAt batchSent with
    ⟨_, _, rfl⟩ | ⟨_, rfl⟩ | ⟨turn, delivered, rfl⟩ | ⟨_, _, _, rfl⟩ <;> cases batchSame
  rcases mem_sent environment options startedAt catalogSent with
    ⟨_, _, rfl⟩ | ⟨_, rfl⟩ | ⟨turn', -, rfl⟩ | ⟨_, _, _, rfl⟩ <;> cases catalogSame
  intro sample member
  obtain ⟨written, inTree, rfl⟩ := List.mem_map.mp member
  obtain ⟨entry, listed, same⟩ := lists_iff.mp (lists turn delivered) written inTree
  exact ⟨entry.received, List.mem_map_of_mem listed, congrArg NetString.utf8 same⟩

/-- **When no sample is dropped.** In any run of the connection loop the sensors of every
batch are catalogued before on its connection exactly when no delivered turn reads a sensor
that the tree of its connection's catalog did not have. The host then stores every sample of
a batch it applies after a catalog of the same connection. -/
theorem batches_catalogued (sessions : List Session) :
    ((∀ session ∈ sessions, session.BatchesCatalogued environment options startedAt) ↔
      ∀ session ∈ sessions, ∀ turn ∈ session.delivered,
        Lists session.computer turn.computer) ∧
    ∀ session ∈ sessions,
      (∀ turn ∈ session.delivered, Lists session.computer turn.computer) →
        ∀ attempts earlier batch later snapshot,
          appliedMessages attempts = earlier ++ .sampleBatch batch :: later →
            .catalogSnapshot snapshot ∈ earlier →
              .sampleBatch batch ∈ hostMessages formatDouble
                (session.stream encoder environment options startedAt) →
                .catalogSnapshot snapshot ∈ hostMessages formatDouble
                  (session.stream encoder environment options startedAt) →
                  ∀ sample ∈ batch.samples, ⟨sample.sensorUid, batch.sampleTimeUtcMs⟩ ∈
                    (storeAfter attempts).sensorSamples := by
  constructor
  · exact forall₂_congr fun session _ => batchesCatalogued_iff environment options startedAt session
  · intro session _ lists attempts earlier batch later snapshot applied before batchRead
      snapshotRead sample member
    obtain ⟨sensor, listed, same⟩ := exists_catalogued encoder formatDouble environment options
      startedAt lists batchRead snapshotRead sample member
    exact (mem_storeAfter attempts _ _).mpr ⟨earlier, batch, later, applied, rfl,
      ⟨sample, member, rfl⟩, _, before, sensor, listed, same⟩

end Host

/-- One turn that reads the processor, on a connection whose writes all succeed. -/
def readingTurn : Turn where
  computer := [processor]
  now := firstReading
  batchUtcNow := firstReading
  batchWritten := true
  heartbeatUtcNow := firstReading
  uptimeUtcNow := firstReading
  heartbeatWritten := true

def readingSession (computer : Computer) : Session where
  computer := computer
  connects := true
  helloUtcNow := firstReading
  helloWritten := true
  catalogUtcNow := firstReading
  catalogWritten := true
  heartbeatStart := firstReading
  turns := [readingTurn]

/-- The messages of a connection, each applied without a failure. -/
def readingAttempts (computer : Computer) : List Attempt :=
  ((readingSession computer).sent hostEnvironment hostOptions firstReading).map fun call =>
    (fun _ => false, call.received hostEnvironment hostOptions)

theorem delivered_readingSession (computer : Computer) :
    (readingSession computer).delivered = [readingTurn] := by
  have delivers : readingTurn.delivers = true := rfl
  have opened : ((readingSession computer).connects && (readingSession computer).helloWritten &&
      (readingSession computer).catalogWritten) = true := rfl
  have turns : (readingSession computer).turns = [readingTurn] := rfl
  rw [Session.delivered, if_pos opened, turns, deliveredTurns, if_pos delivers]
  split_ifs <;> rfl

/-- The processor is there when the catalog is collected, and its sample is stored. -/
theorem batches_catalogued_processor :
    (readingSession [processor]).BatchesCatalogued hostEnvironment hostOptions firstReading ∧
      ⟨text "librehw:/amdcpu/0/temperature/0", 1774695721123⟩ ∈
        (storeAfter (readingAttempts [processor])).sensorSamples := by
  have lists : ∀ session ∈ [readingSession [processor]], ∀ turn ∈ session.delivered,
      Lists session.computer turn.computer := by
    intro session member turn delivered
    obtain rfl := List.mem_singleton.mp member
    rw [delivered_readingSession] at delivered
    obtain rfl := List.mem_singleton.mp delivered
    exact fun visited inTree _ => ⟨visited, inTree, rfl⟩
  let catalog := (buildCatalogSnapshot hostOptions (buildCatalog [processor])
    firstReading).received firstReading
  let batch := (buildSampleBatch hostOptions [processor] firstReading firstReading).received
    firstReading firstReading
  have applied : appliedMessages (readingAttempts [processor]) =
      [(Call.hello (buildCatalog [processor]) firstReading).received hostEnvironment hostOptions,
        .catalogSnapshot catalog] ++ .sampleBatch batch :: [] := by decide +kernel
  have run := batches_catalogued defaultEncoder (fun _ => []) hostEnvironment hostOptions
    firstReading [readingSession [processor]]
  refine ⟨run.1.mpr lists _ List.mem_cons_self, ?_⟩
  have stored := run.2 _ List.mem_cons_self (lists _ List.mem_cons_self) _ _ batch [] catalog
    applied (by simp) (by rw [hostMessages_stream]; decide +kernel)
    (by rw [hostMessages_stream]; decide +kernel)
  have samples : batch.samples =
      [⟨text "librehw:/amdcpu/0/temperature/0", 125 / 2, none, some 71, text "ok"⟩] := by
    decide +kernel
  have time : batch.sampleTimeUtcMs = 1774695721123 := by decide +kernel
  have first := stored _ (samples ▸ List.mem_cons_self)
  rwa [time] at first

/-- The processor appears after the catalog is collected: its sample is sent without a
catalog entry, and the host applies the batch without storing it. -/
theorem batches_not_always_catalogued :
    ¬(readingSession []).BatchesCatalogued hostEnvironment hostOptions firstReading ∧
      (appliedMessages (readingAttempts [])).length = 3 ∧
      ⟨text "librehw:/amdcpu/0/temperature/0", 1774695721123⟩ ∉
        (storeAfter (readingAttempts [])).sensorSamples := by
  refine ⟨fun catalogued => ?_, by decide +kernel, by decide +kernel⟩
  have lists := (batchesCatalogued_iff hostEnvironment hostOptions firstReading _).mp catalogued
    readingTurn (delivered_readingSession [] ▸ List.mem_cons_self)
  obtain ⟨listed, inTree, -⟩ := lists _ List.mem_cons_self rfl
  exact absurd inTree List.not_mem_nil

end CapacityAgent.LibreHwBridge

/-
# The bridge

The messages `Program.cs` builds and its connection loop. The clock, the hardware tree
after each update, and which writes the pipe takes are the environment's; an exception,
from the pipe or from the serializer, ends the connection and the loop makes another.
-/

import CapacityAgent.Bridge.Hardware
import CapacityAgent.Bridge.Time
import CapacityAgent.Ipc.NamedPipe

namespace CapacityAgent.LibreHwBridge

open NetString (literal)

/-! ## Messages -/

structure BridgeOptions where
  machineId : NetString
  sampleIntervalMs : Int32
  source : NetString
  bridgeVersion : NetString

/-- What the bridge reads of its process; strings are ordered by the current culture. -/
structure Environment where
  machineName : NetString
  processId : Int32
  stringOrder : NetString → NetString → Bool

/-- `SchemaVersion`. -/
def schemaVersion : Int32 := 1

/-- `Distinct().Order().ToArray()`. -/
def distinctOrdered (order : NetString → NetString → Bool) (names : List NetString) :
    List NetString :=
  names.eraseDups.mergeSort order

/-- `BuildHello`, with the time `UtcNow` returns. -/
def buildHello (environment : Environment) (options : BridgeOptions)
    (catalog : List CatalogSensor) (utcNow : DateTimeOffset) : HelloMessage where
  type := literal "hello"
  schemaVersion := schemaVersion
  source := options.source
  machineId := options.machineId
  sentAtUtc := utcNow.toRoundTrip
  bridgeVersion := options.bridgeVersion
  hostname := environment.machineName
  pid := environment.processId
  sampleIntervalMs := options.sampleIntervalMs
  capabilities :=
    { hardwareTypes := distinctOrdered environment.stringOrder (catalog.map (·.hardwareType))
      sensorTypes := distinctOrdered environment.stringOrder (catalog.map (·.sensorType)) }

/-- `BuildCatalogSnapshot`. -/
def buildCatalogSnapshot (options : BridgeOptions) (catalog : List CatalogSensor)
    (utcNow : DateTimeOffset) : CatalogSnapshotMessage where
  type := literal "catalog_snapshot"
  schemaVersion := schemaVersion
  source := options.source
  machineId := options.machineId
  sentAtUtc := utcNow.toRoundTrip
  sensors := catalog

/-- `BuildSampleBatch`. -/
def buildSampleBatch (options : BridgeOptions) (computer : Computer)
    (sampleTime utcNow : DateTimeOffset) : SampleBatchMessage where
  type := literal "sample_batch"
  schemaVersion := schemaVersion
  source := options.source
  machineId := options.machineId
  sentAtUtc := utcNow.toRoundTrip
  sampleTimeUtc := sampleTime.toRoundTrip
  samples := collectSamples computer

/-- The whole seconds between two times. -/
def totalSeconds (startedAt utcNow : DateTimeOffset) : ℤ :=
  (utcNow.ticks - startedAt.ticks).tdiv 10000000

/-- `BuildHeartbeat`; the uptime is taken from a later reading of the clock. -/
def buildHeartbeat (options : BridgeOptions) (startedAt : DateTimeOffset) (catalogCount : Int32)
    (utcNow later : DateTimeOffset) : HeartbeatMessage where
  type := literal "heartbeat"
  schemaVersion := schemaVersion
  source := options.source
  machineId := options.machineId
  sentAtUtc := utcNow.toRoundTrip
  status := literal "ok"
  uptimeSeconds := Int64.ofInt (totalSeconds startedAt later)
  catalogCount := catalogCount

/-- The uptime is exact, and a `double` holds it. -/
theorem uptimeSeconds_eq (options : BridgeOptions) (startedAt : DateTimeOffset)
    (catalogCount : Int32) (utcNow later : DateTimeOffset) :
    (buildHeartbeat options startedAt catalogCount utcNow later).uptimeSeconds.toInt =
        totalSeconds startedAt later ∧
      (totalSeconds startedAt later).natAbs < 2 ^ 53 := by
  have start := startedAt.natAbs_ticks_lt
  have stop := later.natAbs_ticks_lt
  have small : (totalSeconds startedAt later).natAbs < 2 ^ 53 := by
    rw [totalSeconds, Int.natAbs_tdiv]
    change (later.ticks - startedAt.ticks).natAbs / 10000000 < 2 ^ 53
    omega
  exact ⟨Int64.toInt_ofInt_of_le (by omega) (by omega), small⟩

/-! ## Sending -/

/-- The characters the serializer's default encoder writes by a letter. -/
def defaultShortEscapes : List (Char × Char) :=
  [('\\', '\\'), ('\x08', 'b'), ('\x0c', 'f'), ('\n', 'n'), ('\r', 'r'), ('\t', 't')]

/-- The visible ASCII characters it writes by their code. -/
def defaultBlocked : List Char := ['"', '&', '\'', '+', '<', '>', '`']

/-- The serializer's default encoder. -/
def defaultEscape (c : Char) : List UInt8 :=
  match defaultShortEscapes.find? fun entry => entry.1 = c with
  | some entry => [byte '\\', byte entry.2]
  | none =>
    if 32 ≤ c.toNat ∧ c.toNat < 127 ∧ c ∉ defaultBlocked then String.utf8EncodeChar c
    else if c.toNat < 0x10000 then Json.unicodeEscape true c.toNat
    else
      Json.unicodeEscape true (0xD800 + (c.toNat - 0x10000) / 0x400) ++
        Json.unicodeEscape true (0xDC00 + (c.toNat - 0x10000) % 0x400)

def defaultEncoder : Json.Encoder where
  escape := defaultEscape
  legal c := by
    unfold defaultEscape
    cases found : defaultShortEscapes.find? fun entry => entry.1 = c with
    | some entry =>
      have listed : ∀ entry ∈ defaultShortEscapes, entry ∈ Json.shortEscapes := by decide
      have same : entry.1 = c := by simpa using List.find?_some found
      exact .short entry.2 (same ▸ listed entry (List.mem_of_find?_eq_some found))
    | none =>
      have notBackslash : c ≠ '\\' := by
        rintro rfl
        exact absurd found (by decide)
      dsimp only
      split_ifs with plain narrow
      · refine .raw plain.1 ?_ notBackslash
        rintro rfl
        exact absurd plain.2.2 (by decide)
      · exact .basic true narrow
      · exact .surrogates true (Nat.le_of_not_lt narrow)

/-- What `WriteLine` adds. -/
def lineBreak : Bytes := [NamedPipeServer.carriageReturn, NamedPipeServer.newline]

/-- The bytes `Send` writes; none when the serializer throws. -/
def send (encoder : Json.Encoder) (message : Message) : Option Bytes :=
  message.json.map fun value => value.text encoder ++ lineBreak

/-- The message of a `Send` in `Main`, by the values it is built from. -/
inductive Call
  | hello (catalog : List CatalogSensor) (utcNow : DateTimeOffset)
  | catalogSnapshot (catalog : List CatalogSensor) (utcNow : DateTimeOffset)
  | sampleBatch (computer : Computer) (sampleTime utcNow : DateTimeOffset)
  | heartbeat (startedAt : DateTimeOffset) (catalogCount : Int32) (utcNow later : DateTimeOffset)

/-- The message built. -/
def Call.message (environment : Environment) (options : BridgeOptions) : Call → Message
  | .hello catalog utcNow => .hello (buildHello environment options catalog utcNow)
  | .catalogSnapshot catalog utcNow =>
    .catalogSnapshot (buildCatalogSnapshot options catalog utcNow)
  | .sampleBatch computer sampleTime utcNow =>
    .sampleBatch (buildSampleBatch options computer sampleTime utcNow)
  | .heartbeat startedAt catalogCount utcNow later =>
    .heartbeat (buildHeartbeat options startedAt catalogCount utcNow later)

/-! ## The connection loop -/

/-- A `Send` of the loop and whether the pipe takes the line. -/
structure Sending where
  call : Call
  written : Bool

/-- One turn of the inner loop: the tree after the update, the times read, and the
outcome of the writes. -/
structure Turn where
  computer : Computer
  now : DateTimeOffset
  batchUtcNow : DateTimeOffset
  batchWritten : Bool
  heartbeatUtcNow : DateTimeOffset
  uptimeUtcNow : DateTimeOffset
  heartbeatWritten : Bool

/-- One turn of the outer loop. The turns of the inner one end when the pipe is found
disconnected or the bridge is cancelled. -/
structure Session where
  computer : Computer
  connects : Bool
  helloUtcNow : DateTimeOffset
  helloWritten : Bool
  catalogUtcNow : DateTimeOffset
  catalogWritten : Bool
  heartbeatStart : DateTimeOffset
  turns : List Turn

/-- `AddSeconds(30)`, in ticks. -/
def heartbeatPeriod : ℤ := 30 * 10000000

/-- The inner loop, as long as no `Send` throws. -/
def Session.innerLoop (startedAt : DateTimeOffset) (catalogCount : Int32) (nextHeartbeat : ℤ) :
    List Turn → List Sending
  | [] => []
  | turn :: rest =>
    ⟨.sampleBatch turn.computer turn.now turn.batchUtcNow, turn.batchWritten⟩ ::
      -- `nextHeartbeat` moves only when a heartbeat was due
      if nextHeartbeat ≤ turn.now.ticks then
        ⟨.heartbeat startedAt catalogCount turn.heartbeatUtcNow turn.uptimeUtcNow,
            turn.heartbeatWritten⟩ ::
          innerLoop startedAt catalogCount (turn.now.ticks + heartbeatPeriod) rest
      else innerLoop startedAt catalogCount nextHeartbeat rest

/-- The sends of a connection, as long as none throws. -/
def Session.sendings (startedAt : DateTimeOffset) (session : Session) : List Sending :=
  let catalog := buildCatalog session.computer
  ⟨.hello catalog session.helloUtcNow, session.helloWritten⟩ ::
    ⟨.catalogSnapshot catalog session.catalogUtcNow, session.catalogWritten⟩ ::
      Session.innerLoop startedAt (Int32.ofNat catalog.length)
        (session.heartbeatStart.ticks + heartbeatPeriod) session.turns

section Run

variable (environment : Environment) (options : BridgeOptions) (startedAt : DateTimeOffset)

/-- Neither the serializer nor the pipe throws. -/
def Sending.succeeds (sending : Sending) : Bool :=
  (sending.call.message environment options).json.isSome && sending.written

/-- The calls whose lines are sent on a connection; the first that throws ends it. -/
def Session.sent (session : Session) : List Call :=
  if session.connects then
    ((session.sendings startedAt).takeWhile (Sending.succeeds environment options)).map
      Sending.call
  else []

/-- The messages sent on a connection. -/
def Session.messages (session : Session) : List Message :=
  (session.sent environment options startedAt).map (Call.message environment options)

end Run

end CapacityAgent.LibreHwBridge

/-
# Readings that cannot be written

The serializer throws on a NaN or an infinity. One such reading anywhere in the tree takes
the whole batch with it and ends the connection, and the next connection meets it again.
Cycles and writes are those of the pipe: what it takes is the environment's.
-/

import CapacityAgent.Bridge.Catalogue

namespace CapacityAgent.LibreHwBridge

open NetString (literal)

/-! ## Cycles -/

/-- What the bridge samples of the tree can all be written. -/
def FiniteReadings (computer : Computer) : Prop :=
  ∀ sample ∈ collectSamples computer, sample.IsFinite

/-- The calls of a connection up to the first write that the pipe refuses. -/
def Session.taken (startedAt : DateTimeOffset) (session : Session) : List Call :=
  if session.connects then
    ((session.sendings startedAt).takeWhile (·.written)).map Sending.call
  else []

section Run

variable (environment : Environment) (options : BridgeOptions) (startedAt : DateTimeOffset)

/-- No reading silences the others: every cycle that the pipe lets through sends its batch,
with every sensor whose reading is finite, and only the pipe ends the connection. -/
structure Session.KeepsSending (session : Session) : Prop where
  connected : session.sent environment options startedAt = session.taken startedAt
  complete : ∀ turn ∈ session.turns, turn.batchCall ∈ session.taken startedAt →
    ∃ batch, .sampleBatch batch ∈ session.messages environment options startedAt ∧
      turn.batchCall.message environment options = .sampleBatch batch ∧
      ∀ visited ∈ sensorsOfEach turn.computer, ∀ sample ∈ sensorSample visited.2,
        sample.IsFinite → sample ∈ batch.samples

/-- Of the calls that the pipe lets through, the batches can all be written. -/
def Session.AllFinite (session : Session) : Prop :=
  ∀ computer sampleTime utcNow,
    .sampleBatch computer sampleTime utcNow ∈ session.taken startedAt → FiniteReadings computer

/-! ## What can be written -/

theorem SensorSample.isSome_json_iff (sample : SensorSample) :
    sample.json.isSome = true ↔ sample.IsFinite := by
  refine ⟨SensorSample.isFinite_of_isSome_json, fun finite => ?_⟩
  obtain ⟨value, written, -⟩ := sample.exists_json finite
  rw [written]
  rfl

/-- Only a batch can fail to be written, by a reading that is not finite. -/
theorem Call.isSome_json_iff (call : Call) :
    (call.message environment options).json.isSome = true ↔
      ∀ computer sampleTime utcNow, call = .sampleBatch computer sampleTime utcNow →
        FiniteReadings computer := by
  cases call with
  | hello catalog utcNow => exact iff_of_true rfl nofun
  | catalogSnapshot catalog utcNow => exact iff_of_true rfl nofun
  | heartbeat startedAt count utcNow later => exact iff_of_true rfl nofun
  | sampleBatch computer sampleTime utcNow =>
    have each : (Message.sampleBatch (buildSampleBatch options computer sampleTime
        utcNow)).json.isSome = true ↔ FiniteReadings computer := by
      rw [Message.json, SampleBatchMessage.isSome_json, List.all_eq_true]
      exact forall₂_congr fun sample _ => sample.isSome_json_iff
    rw [Call.message, each]
    constructor
    · rintro finite _ _ _ ⟨⟩
      exact finite
    · exact fun finite => finite _ _ _ rfl

/-- The calls sent are those taken, up to the first that cannot be written. -/
theorem sent_eq_takeWhile (session : Session) :
    session.sent environment options startedAt =
      (session.taken startedAt).takeWhile fun call =>
        (call.message environment options).json.isSome := by
  unfold Session.sent Session.taken
  by_cases connects : session.connects = true
  · rw [if_pos connects, if_pos connects, List.takeWhile_map, List.takeWhile_takeWhile]
    have both : Sending.succeeds environment options = fun sending =>
        decide (((sending.call.message environment options).json.isSome = true) ∧
          sending.written = true) := by
      funext sending
      rw [Sending.succeeds, Bool.decide_and, Bool.decide_eq_true, Bool.decide_eq_true]
    rw [both]
    rfl
  · rw [if_neg connects, if_neg connects]
    rfl

/-- **When no reading silences the others**: in a run of the connection loop, exactly when
every batch that the pipe lets through has finite readings only. -/
theorem keepsSending_iff (sessions : List Session) :
    (∀ session ∈ sessions, session.KeepsSending environment options startedAt) ↔
      ∀ session ∈ sessions, session.AllFinite startedAt := by
  refine forall₂_congr fun session _ => ?_
  have stays : session.sent environment options startedAt = session.taken startedAt ↔
      session.AllFinite startedAt := by
    rw [sent_eq_takeWhile, List.takeWhile_eq_self_iff]
    simp only [Call.isSome_json_iff]
    constructor
    · exact fun each computer sampleTime utcNow taken => each _ taken _ _ _ rfl
    · rintro finite _ taken computer sampleTime utcNow rfl
      exact finite computer sampleTime utcNow taken
  refine ⟨fun keeps => stays.mp keeps.connected, fun finite => ⟨stays.mpr finite, ?_⟩⟩
  intro turn _ taken
  refine ⟨_, ?_, rfl, fun visited inTree sample taken _ => ?_⟩
  · rw [Session.messages, stays.mpr finite]
    exact List.mem_map.mpr ⟨_, taken, rfl⟩
  · exact mem_collectSamples.mpr ⟨visited, inTree, taken⟩

theorem mem_turns_of_mem_deliveredTurns {nextHeartbeat : ℤ} {turns : List Turn} {turn : Turn}
    (delivered : turn ∈ deliveredTurns nextHeartbeat turns) : turn ∈ turns := by
  induction turns generalizing nextHeartbeat with
  | nil => exact delivered
  | cons first rest ih =>
    rw [deliveredTurns] at delivered
    split_ifs at delivered with delivers due written
    · exact List.mem_cons.mpr ((List.mem_cons.mp delivered).imp_right ih)
    · exact List.mem_cons.mpr ((List.mem_cons.mp delivered).imp_right fun later =>
        absurd later List.not_mem_nil)
    · exact List.mem_cons.mpr ((List.mem_cons.mp delivered).imp_right ih)
    · exact absurd delivered List.not_mem_nil

/-- While a reading that cannot be written persists, no batch is sent at all: every
connection ends at its first cycle. -/
theorem not_batch_of_mem_sent {session : Session}
    (persists : ∀ turn ∈ session.turns, ¬ FiniteReadings turn.computer)
    (computer : Computer) (sampleTime utcNow : DateTimeOffset) :
    .sampleBatch computer sampleTime utcNow ∉ session.sent environment options startedAt := by
  intro sent
  rcases mem_sent environment options startedAt sent with
    ⟨_, _, isHello⟩ | ⟨_, isCatalog⟩ | ⟨turn, delivered, same⟩ | ⟨_, _, _, isBeat⟩
  · cases isHello
  · cases isCatalog
  · -- the batch was written, but its turn has such a reading
    have inLoop : turn ∈ session.turns := by
      rw [Session.delivered] at delivered
      split_ifs at delivered
      · exact mem_turns_of_mem_deliveredTurns delivered
      · exact absurd delivered List.not_mem_nil
    rw [← same, sent_eq_takeWhile] at sent
    have written := List.mem_takeWhile_imp sent
    exact persists turn inLoop ((Call.isSome_json_iff _ _ _).mp written _ _ _ rfl)
  · cases isBeat

end Run

/-- The processor whose fan reads no number. -/
def unreadableFan : ISensor where
  identifier := literal "/amdcpu/0/fan/0"
  name := literal "CPU Fan"
  sensorType := .fan
  index := 0
  isDefaultHidden := false
  value := some .nan
  min := none
  max := none

def unreadable : Computer :=
  [.mk ⟨literal "/amdcpu/0", literal "AMD Ryzen 7 7800X3D", literal "Cpu", []⟩
    [unreadableFan, packageTemperature] []]

/-- A connection that the pipe serves, on which one cycle reads the processor. -/
def unreadableSession : Session :=
  { readingSession unreadable with turns := [{ readingTurn with computer := unreadable }] }

/-- The temperature is not sent, because the fan has no speed. -/
theorem not_always_keepsSending :
    ¬ ∀ (environment : Environment) (options : BridgeOptions) (startedAt : DateTimeOffset)
      (sessions : List Session),
      ∀ session ∈ sessions, session.KeepsSending environment options startedAt := by
  intro always
  have keeps := always hostEnvironment hostOptions firstReading [unreadableSession] _
    List.mem_cons_self
  have sent : (unreadableSession.sent hostEnvironment hostOptions firstReading).length = 2 := by
    decide +kernel
  have taken : (unreadableSession.taken firstReading).length = 3 := by decide +kernel
  rw [keeps.connected, taken] at sent
  exact absurd sent (by decide)

end CapacityAgent.LibreHwBridge

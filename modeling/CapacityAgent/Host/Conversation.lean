/-
# The order of a connection

What the host reads of a connection is the beginning of a conversation: a hello, the
catalog, then batches, all from one speaker. A heartbeat comes behind a batch that is half a
minute later than the one before the last heartbeat, and behind every such batch.
-/

import CapacityAgent.Host.Pipeline
import CapacityAgent.Library.Transitions

namespace CapacityAgent

open Transitions

/-! ## Conversations -/

/-- What the host has learned of a connection. -/
structure Speaker where
  source : CStr
  machineId : CStr
  deriving DecidableEq

def MessageEnvelope.speaker (envelope : MessageEnvelope) : Speaker :=
  ⟨envelope.source, envelope.machineId⟩

/-- The number of sensors in the catalog, and the time of the batch that the last heartbeat
came with. -/
structure Dialogue where
  speaker : Speaker
  sensorCount : ℤ
  heartbeat : Option ℤ
  deriving DecidableEq

/-- How far the conversation is; in `sampled` the last message was a batch of that time. -/
inductive Talk
  | connected
  | greeted (speaker : Speaker)
  | listed (dialogue : Dialogue)
  | sampled (dialogue : Dialogue) (time : ℤ)
  deriving DecidableEq

/-- A heartbeat may come behind a batch of the time. -/
def Dialogue.Due (dialogue : Dialogue) (time : ℤ) : Prop :=
  ∀ last ∈ dialogue.heartbeat, last + 30000 ≤ time

/-- A heartbeat has to. -/
def Dialogue.Overdue (dialogue : Dialogue) (time : ℤ) : Prop :=
  ∃ last ∈ dialogue.heartbeat, last + 30000 < time

instance (dialogue : Dialogue) (time : ℤ) : Decidable (dialogue.Due time) :=
  inferInstanceAs (Decidable (∀ last ∈ dialogue.heartbeat, last + 30000 ≤ time))

instance (dialogue : Dialogue) (time : ℤ) : Decidable (dialogue.Overdue time) :=
  inferInstanceAs (Decidable (∃ last ∈ dialogue.heartbeat, last + 30000 < time))

/-- The next message of a conversation. -/
def Talk.hear : Talk → BridgeMessage → Option Talk
  | .connected, .hello message => some (.greeted message.envelope.speaker)
  | .greeted speaker, .catalogSnapshot message =>
    if message.envelope.speaker = speaker then
      some (.listed ⟨speaker, (Int32.ofNat message.sensors.length).toInt, none⟩)
    else none
  | .listed dialogue, .sampleBatch message =>
    if message.envelope.speaker = dialogue.speaker then
      some (.sampled dialogue message.sampleTimeUtcMs)
    else none
  | .sampled dialogue time, .sampleBatch message =>
    if message.envelope.speaker = dialogue.speaker ∧ ¬ dialogue.Overdue time then
      some (.sampled dialogue message.sampleTimeUtcMs)
    else none
  | .sampled dialogue time, .heartbeat message =>
    if message.envelope.speaker = dialogue.speaker ∧ dialogue.Due time ∧
        message.catalogCount = dialogue.sensorCount then
      some (.listed { dialogue with heartbeat := some time })
    else none
  | _, _ => none

/-- The messages are the beginning of a conversation. -/
def Converses (messages : List BridgeMessage) : Prop :=
  (exec Talk.hear .connected messages).isSome = true

theorem Converses.of_prefix {first messages : List BridgeMessage} (talk : Converses messages)
    (within : first <+: messages) : Converses first := by
  obtain ⟨rest, rfl⟩ := within
  rw [Converses, exec_append] at talk
  cases heard : exec Talk.hear .connected first with
  | none =>
    rw [heard] at talk
    exact absurd talk (by simp)
  | some state => rw [Converses, heard]; rfl

/-! ## The bridge's side -/

namespace LibreHwBridge

section Bridge

variable {environment : Environment} {options : BridgeOptions} {startedAt : DateTimeOffset}

/-- What the bridge says in its envelopes. -/
def BridgeOptions.speaker (options : BridgeOptions) : Speaker :=
  ⟨options.source.utf8, options.machineId.utf8⟩

/-- The next heartbeat is due half a minute after the turn of the last. -/
def Scheduled (heartbeat : Option ℤ) (nextHeartbeat : ℤ) : Prop :=
  ∀ last ∈ heartbeat, ∃ turn : DateTimeOffset,
    turn.unixMs = last ∧ nextHeartbeat = turn.ticks + heartbeatPeriod

/-- Where the conversation is between two turns. -/
def BetweenTurns (options : BridgeOptions) (catalogCount : Int32) (nextHeartbeat : ℤ)
    (talk : Talk) : Prop :=
  ∃ heartbeat, Scheduled heartbeat nextHeartbeat ∧
    (talk = .listed ⟨options.speaker, catalogCount.toInt, heartbeat⟩ ∨
      ∃ time, talk = .sampled ⟨options.speaker, catalogCount.toInt, heartbeat⟩ time ∧
        ¬ Dialogue.Overdue ⟨options.speaker, catalogCount.toInt, heartbeat⟩ time)

section Turn

variable {heartbeat : Option ℤ} {nextHeartbeat : ℤ} (scheduled : Scheduled heartbeat nextHeartbeat)
variable {speaker : Speaker} {sensorCount : ℤ} {now : DateTimeOffset}

include scheduled

theorem Scheduled.due (late : nextHeartbeat ≤ now.ticks) :
    Dialogue.Due ⟨speaker, sensorCount, heartbeat⟩ now.unixMs := by
  intro last here
  obtain ⟨turn, rfl, next⟩ := scheduled last here
  rw [next, heartbeatPeriod] at late
  rw [DateTimeOffset.unixMs, DateTimeOffset.unixMs]
  omega

theorem Scheduled.not_overdue (early : now.ticks < nextHeartbeat) :
    ¬ Dialogue.Overdue ⟨speaker, sensorCount, heartbeat⟩ now.unixMs := by
  rintro ⟨last, here, late⟩
  obtain ⟨turn, rfl, next⟩ := scheduled last here
  rw [next, heartbeatPeriod] at early
  rw [DateTimeOffset.unixMs, DateTimeOffset.unixMs] at late
  omega

end Turn

theorem scheduled_turn (now : DateTimeOffset) :
    Scheduled (some now.unixMs) (now.ticks + heartbeatPeriod) := by
  rintro _ ⟨⟩
  exact ⟨now, rfl, rfl⟩

variable (environment) in
/-- The batch of a turn is heard. -/
theorem BetweenTurns.hear_sampleBatch {catalogCount : Int32} {nextHeartbeat : ℤ} {talk : Talk}
    (between : BetweenTurns options catalogCount nextHeartbeat talk) (computer : Computer)
    (now utcNow : DateTimeOffset) : ∃ heartbeat, Scheduled heartbeat nextHeartbeat ∧
      talk.hear (Call.received environment options (.sampleBatch computer now utcNow)) =
        some (.sampled ⟨options.speaker, catalogCount.toInt, heartbeat⟩ now.unixMs) := by
  obtain ⟨heartbeat, scheduled, rfl | ⟨time, rfl, early⟩⟩ := between
  · exact ⟨heartbeat, scheduled, if_pos rfl⟩
  · exact ⟨heartbeat, scheduled, if_pos ⟨rfl, early⟩⟩

/-- The sends of the inner loop. -/
theorem isSome_exec_innerLoop {catalogCount : Int32} {nextHeartbeat : ℤ} {talk : Talk}
    (between : BetweenTurns options catalogCount nextHeartbeat talk) (turns : List Turn) :
    (exec Talk.hear talk ((Session.innerLoop startedAt catalogCount nextHeartbeat turns).map
      fun sending => sending.call.received environment options)).isSome = true := by
  induction turns generalizing nextHeartbeat talk with
  | nil => rfl
  | cons turn rest ih =>
    obtain ⟨heartbeat, scheduled, heard⟩ := between.hear_sampleBatch environment turn.computer
      turn.now turn.batchUtcNow
    rw [Session.innerLoop, List.map_cons, exec_cons, heard, Option.bind_some]
    split_ifs with late
    · have beat : Talk.hear
          (.sampled ⟨options.speaker, catalogCount.toInt, heartbeat⟩ turn.now.unixMs)
          (Call.received environment options
            (.heartbeat startedAt catalogCount turn.heartbeatUtcNow turn.uptimeUtcNow)) =
          some (.listed ⟨options.speaker, catalogCount.toInt, some turn.now.unixMs⟩) :=
        if_pos ⟨rfl, scheduled.due late, rfl⟩
      rw [List.map_cons, exec_cons, beat, Option.bind_some]
      exact ih ⟨_, scheduled_turn turn.now, .inl rfl⟩
    · exact ih ⟨heartbeat, scheduled, .inr ⟨_, rfl, scheduled.not_overdue (not_le.mp late)⟩⟩

variable (environment options startedAt) in
/-- What a connection sends is a conversation. -/
theorem converses_sendings (session : Session) :
    Converses ((session.sendings startedAt).map
      fun sending => sending.call.received environment options) := by
  have unscheduled (next : ℤ) : Scheduled none next := fun _ absent => absurd absent (by simp)
  have listed : Talk.hear (.greeted options.speaker) (Call.received environment options
      (.catalogSnapshot (buildCatalog session.computer) session.catalogUtcNow)) =
      some (.listed ⟨options.speaker,
        (Int32.ofNat (buildCatalog session.computer).length).toInt, none⟩) := by
    have count : ((buildCatalogSnapshot options (buildCatalog session.computer)
        session.catalogUtcNow).received session.catalogUtcNow).sensors.length =
          (buildCatalog session.computer).length := List.length_map _
    rw [← count]
    exact if_pos rfl
  have greeted : Talk.hear .connected (Call.received environment options
      (.hello (buildCatalog session.computer) session.helloUtcNow)) =
      some (.greeted options.speaker) := rfl
  rw [Converses, Session.sendings, List.map_cons, List.map_cons, exec_cons, greeted,
    Option.bind_some, exec_cons, listed, Option.bind_some]
  exact isSome_exec_innerLoop ⟨none, unscheduled _, .inl rfl⟩ session.turns

theorem offeredBy_prefix (sendings : List Sending) :
    offeredBy environment options sendings <+: sendings.map Sending.call := by
  induction sendings with
  | nil => exact List.prefix_rfl
  | cons sending rest ih =>
    rw [offeredBy, List.map_cons]
    split_ifs
    · exact (List.prefix_cons_inj sending.call).mpr ih
    · exact (List.prefix_cons_inj sending.call).mpr List.nil_prefix
    · exact List.nil_prefix

/-- **Every connection is a conversation.** Whatever the hardware does, wherever a line
cannot be written or a connection breaks, and in whatever chunks it arrives, what the host
reads of a connection of the bridge is the beginning of a conversation. -/
theorem converses_of_delivery {encoder : Json.Encoder} (formatDouble : Double → Bytes)
    (delivery : Delivery encoder environment options startedAt) :
    Converses (parsedMessages formatDouble (NamedPipeServer.serveConnection delivery.chunks)) := by
  obtain ⟨read, readAs, same⟩ := delivery.exists_read formatDouble
  have offered : read <+: (delivery.session.sendings startedAt).map Sending.call := by
    refine readAs.beginning.trans ?_
    unfold Session.offered
    split_ifs
    · exact offeredBy_prefix _
    · exact List.nil_prefix
  have whole := converses_sendings environment options startedAt delivery.session
  have heard := offered.map (Call.received environment options)
  rw [List.map_map] at heard
  rw [same]
  exact whole.of_prefix heard

end Bridge

end LibreHwBridge

end CapacityAgent

/-
# A connection that breaks

At the end of a connection the pipe server hands over what is pending, also when a line
was cut off there. The handler rejects what is left of the bridge's line, since no
proper prefix of an object's text is accepted, and the store stays as the last complete
line left it.
-/

import CapacityAgent.Bridge.Catalogue
import CapacityAgent.CJson.Cut

namespace CapacityAgent

open Connection

section Handler

variable (formatDouble : Double → Bytes)

/-- `Service::HandlePipeMessage`; a string that is no message is discarded. -/
def handlePipeMessage (fails : ℕ → Bool) (message : Bytes) (c : Conn Database) : Conn Database :=
  match parseBridgeMessage formatDouble message with
  | .error _ => c
  | .ok parsed => (persist fails parsed c).2

/-- The handler on one string after the other; `fails` says which commands fail for
which. -/
def handleAll (fails : ℕ → ℕ → Bool) (messages : List Bytes) (c : Conn Database) :
    Conn Database :=
  messages.zipIdx.foldl
    (fun c message => handlePipeMessage formatDouble (fails message.2) message.1 c) c

/-- Strings that are no messages change nothing at the end. -/
theorem handleAll_append_of_rejected {fails : ℕ → ℕ → Bool} {messages rejected : List Bytes}
    (invalid : ∀ message ∈ rejected, ∃ error,
      parseBridgeMessage formatDouble message = .error error)
    (c : Conn Database) :
    handleAll formatDouble fails (messages ++ rejected) c =
      handleAll formatDouble fails messages c := by
  have discarded : ∀ (start : ℕ) (c : Conn Database), (rejected.zipIdx start).foldl
      (fun c message => handlePipeMessage formatDouble (fails message.2) message.1 c) c = c := by
    induction rejected with
    | nil => exact fun _ _ => rfl
    | cons message rest ih =>
      intro start c
      obtain ⟨error, fails⟩ := invalid message List.mem_cons_self
      rw [List.zipIdx_cons, List.foldl_cons, handlePipeMessage, fails]
      exact ih (fun later member => invalid later (List.mem_cons_of_mem message member)) _ c
  rw [handleAll, List.zipIdx_append, List.foldl_append, discarded, handleAll]

end Handler

/-! ## Streams that end inside a line -/

namespace NamedPipeServer

open Lines

/-- Complete lines. -/
def completeLines (before : List Bytes) : Bytes := before.flatMap (· ++ [newline])

theorem unfinished_completeLines (before : List Bytes) :
    unfinished newline (completeLines before) = [] := by
  induction before using List.reverseRecOn with
  | nil => rfl
  | append_singleton before line ih =>
    have last : completeLines (before ++ [line]) = completeLines before ++ line ++ [newline] := by
      simp [completeLines]
    have ends : unfinished newline
        (unfinished newline (completeLines before ++ line) ++ [newline]) =
        unfinished newline [] := unfinished_cons (notMem_unfinished _) []
    rw [last, unfinished_append, ends]
    rfl

/-- Behind complete lines, however they arrive, the loop ends with the beginning of the
next one pending. -/
theorem readLoop_cut {before chunks : List Bytes} {cut : Bytes} (free : newline ∉ cut)
    (nonempty : ∀ chunk ∈ chunks, chunk ≠ [])
    (delivered : chunks.flatten = completeLines before ++ cut) :
    readLoop [] chunks = (messages (completeLines before), cut) := by
  have loop : readLoop [] chunks = (lines (complete newline chunks.flatten),
      unfinished newline chunks.flatten) := readLoop_eq List.not_mem_nil nonempty
  have whole : messages (completeLines before) =
      lines (complete newline (completeLines before)) := by
    rw [messages, ← complete_append_unfinished, lines_append, unfinished_completeLines, lines_cons]
    simp [trimCarriageReturn, lines]
  rw [loop, delivered, complete_append, unfinished_append, unfinished_completeLines,
    List.nil_append, complete_of_notMem free, unfinished_of_notMem free, List.append_nil, whole]

/-- What is flushed of bytes without a carriage return. -/
theorem mem_flush {pending message : Bytes} (free : carriageReturn ∉ pending)
    (flushed : message ∈ flush pending) : message = pending := by
  have kept : trimCarriageReturn pending = pending :=
    if_neg fun last => free (List.mem_of_getLast? last)
  rw [flush_eq, lines_cons, kept] at flushed
  split_ifs at flushed with empty
  · exact absurd flushed (by simp [lines])
  · simpa [lines] using flushed

end NamedPipeServer

/-! ## Cut messages -/

namespace LibreHwBridge

open CJson (Fits)
open Json (Encoder Value)

/-- Every message is written as an object. -/
theorem Message.exists_object {message : Message} {value : Value}
    (written : message.json = some value) : ∃ members, value = .object members := by
  cases message with
  | hello message => exact ⟨_, (Option.some.inj written).symm⟩
  | catalogSnapshot message => exact ⟨_, (Option.some.inj written).symm⟩
  | heartbeat message => exact ⟨_, (Option.some.inj written).symm⟩
  | sampleBatch message =>
    obtain ⟨samples, -, built⟩ := Option.bind_eq_some_iff.mp written
    exact ⟨_, (Option.some.inj built).symm⟩

/-- The line of a call is the text of an object the host's parser has room for. -/
theorem Call.exists_object {encoder : Encoder} {environment : Environment}
    {options : BridgeOptions} {call : Call} {body : Bytes}
    (sent : send encoder (call.message environment options) = some (body ++ lineBreak)) :
    ∃ members, body = (Value.object members).text encoder ∧ Fits (.object members) ∧
      (Value.object members).depth ≤ CJson.nestingLimit := by
  obtain ⟨value, written, line⟩ := Option.map_eq_some_iff.mp sent
  have finite := Message.isFinite_of_isSome_json (Option.isSome_of_eq_some written)
  obtain ⟨value', written', reads⟩ := call.readAs environment options finite
  obtain rfl := Option.some.inj (written.symm.trans written')
  obtain ⟨members, rfl⟩ := Message.exists_object written
  exact ⟨members, (List.append_cancel_right line).symm, reads.fits, reads.shallow⟩

/-- The host rejects the line of a call that is cut before its end. -/
theorem Call.parseBridgeMessage_cut {encoder : Encoder} {environment : Environment}
    {options : BridgeOptions} {call : Call} {cut rest : Bytes}
    (sent : send encoder (call.message environment options) = some (cut ++ rest ++ lineBreak))
    (proper : rest ≠ []) (formatDouble : Double → Bytes) :
    parseBridgeMessage formatDouble cut = .error (text "Invalid JSON payload") := by
  obtain ⟨members, within, fits, shallow⟩ := Call.exists_object sent
  have noNul : (0 : UInt8) ∉ cut := by
    intro zero
    refine CJson.nul_notMem_text encoder (.object members) ?_
    rw [← within]
    exact List.mem_append_left rest zero
  have bytes : (CStr.ofBytes cut).bytes = cut :=
    congrArg CStr.bytes (CStr.ofBytes_bytes ⟨cut, noNul⟩)
  have rejected : CJson.parse (CStr.ofBytes cut) = none :=
    CJson.parse_prefix fits shallow (by rw [bytes]; exact within) proper
  rw [parseBridgeMessage, rejected]

/-- **A message cut off by a disconnect is never applied.** Where the connection breaks
inside the text of a message, however the bytes before that arrive, the server flushes
nothing or the cut text, the host rejects it, and the store is as the complete lines
left it. -/
theorem cut_message_not_applied (encoder : Encoder) (formatDouble : Double → Bytes)
    (environment : Environment) (options : BridgeOptions) (call : Call) {cut rest : Bytes}
    (sent : send encoder (call.message environment options) = some (cut ++ rest ++ lineBreak))
    (proper : rest ≠ []) {before chunks : List Bytes} (nonempty : ∀ chunk ∈ chunks, chunk ≠ [])
    (delivered : chunks.flatten = NamedPipeServer.completeLines before ++ cut) :
    NamedPipeServer.readLoop [] chunks =
        (NamedPipeServer.messages (NamedPipeServer.completeLines before), cut) ∧
      (∀ message ∈ NamedPipeServer.flush cut, message = cut ∧
        parseBridgeMessage formatDouble message = .error (text "Invalid JSON payload")) ∧
      ∀ fails c, handleAll formatDouble fails (NamedPipeServer.serveConnection chunks) c =
        handleAll formatDouble fails
          (NamedPipeServer.messages (NamedPipeServer.completeLines before)) c := by
  obtain ⟨members, within, -, -⟩ := Call.exists_object sent
  -- the text has no control character, so neither has what is left of it
  have free : ∀ b : UInt8, b.toNat < 32 → b ∉ cut := by
    intro b control member
    have printable := (Value.object members).printable_text encoder
    rw [← within] at printable
    exact absurd (printable b (List.mem_append_left rest member)) (Nat.not_le.mpr control)
  have loop := NamedPipeServer.readLoop_cut (free _ (by decide)) nonempty delivered
  have rejected : ∀ message ∈ NamedPipeServer.flush cut, message = cut ∧
      parseBridgeMessage formatDouble message = .error (text "Invalid JSON payload") := by
    intro message flushed
    obtain rfl := NamedPipeServer.mem_flush (free _ (by decide)) flushed
    exact ⟨rfl, Call.parseBridgeMessage_cut sent proper formatDouble⟩
  refine ⟨loop, rejected, fun fails c => ?_⟩
  rw [NamedPipeServer.serveConnection, loop]
  exact handleAll_append_of_rejected formatDouble
    (fun message flushed => ⟨_, (rejected message flushed).2⟩) c

/-- A heartbeat cut inside its first member, behind a line that is no message. -/
theorem cut_message_not_applied_heartbeat :
    NamedPipeServer.readLoop [] [lit "ab\n\x7b\"ty", lit "pe\":"] =
        ([lit "ab"], lit "\x7b\"type\":") ∧
      handleAll (fun _ => []) (fun _ _ => false)
          (NamedPipeServer.serveConnection [lit "ab\n\x7b\"ty", lit "pe\":"]) ⟨.empty, none⟩ =
        handleAll (fun _ => []) (fun _ _ => false) [lit "ab"] ⟨.empty, none⟩ := by
  let call : Call := .heartbeat firstReading 3 firstReading firstReading
  let body : Bytes := Value.text defaultEncoder
    (buildHeartbeat hostOptions firstReading 3 firstReading firstReading).json
  have start : body.take 8 = lit "\x7b\"type\":" := by decide +kernel
  have sent : send defaultEncoder (call.message hostEnvironment hostOptions) =
      some (lit "\x7b\"type\":" ++ body.drop 8 ++ lineBreak) := by
    rw [← start, List.take_append_drop]
    rfl
  have lines : NamedPipeServer.messages (NamedPipeServer.completeLines [lit "ab"]) =
      [lit "ab"] := by decide
  have delivered : [lit "ab\n\x7b\"ty", lit "pe\":"].flatten =
      NamedPipeServer.completeLines [lit "ab"] ++ lit "\x7b\"type\":" := by decide
  obtain ⟨loop, -, applied⟩ := cut_message_not_applied defaultEncoder (fun _ => [])
    hostEnvironment hostOptions call sent (by decide +kernel) (by decide) delivered
  rw [lines] at loop applied
  exact ⟨loop, applied _ _⟩

end LibreHwBridge

end CapacityAgent

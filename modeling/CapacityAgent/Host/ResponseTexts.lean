/-
# Responses of a running agent

The driver, the bridge and the configuration send texts in UTF-8, and the threads store them
in any order, with failing commands, rollbacks and restarts in between. Whatever statements a
request then runs, and wherever these fail, the server sends JSON.
-/

import CapacityAgent.Api.ResponseTexts
import CapacityAgent.Host.Keeping

namespace CapacityAgent

open CJson (Item)
open Json (Denotes)
open KeyedTable SharedConnection Transitions
open Utf8 (Encoded)

/-! ## Runs -/

/-- What comes from outside is in UTF-8: the lines of the bridge, the warnings and names of
the driver, the configured URL. -/
def HostEvent.Textual : HostEvent → Prop
  | .message parsed =>
    ∃ line, Encoded line ∧ parseBridgeMessage CJson.formatDouble line = .ok parsed
  | .gpuInit failure => ∀ warning ∈ failure, warning.IsUtf8
  | .gpuPoll names _ => ∀ name ∈ names, name.IsUtf8
  | .ollamaPoll (.models row) => row.baseUrl.IsUtf8
  | .ollamaPoll .connectionFailed | .ollamaPoll (.httpError _) | .ollamaPoll .invalidJson => True
  | .tick _ | .command _ | .gpuCall _ | .ollamaInit _ | .ollamaCall _ => True
  | .restart | .readGpus | .readHealth | .answered => True

/-- A state that an agent started on a new database reaches. -/
def ReachedInUtf8 (machineId : CStr) (now : ℤ) : Host → Prop :=
  Reaches (Host.step machineId) (fun _ e => e.Textual) (Host.start now)

/-- The visible database, what a rollback brings back, the statements of the transaction
and the calls of the collectors. -/
structure Host.Textual (s : Host) : Prop where
  store : Keeps Database.Textual PipeStmt.Textual s.store
  gpu : ∀ call ∈ s.gpu.calls, call.Textual
  ollama : ∀ call ∈ s.ollama.calls, call.Textual

/-! ## Calls of the collectors -/

section Calls

variable {machineId : CStr} (machine : machineId.IsUtf8)

include machine

theorem textual_healthDirect {source collectorType status : CStr} (nowMs : ℤ)
    {lastError : Option CStr} (sourceUtf8 : source.IsUtf8) (type : collectorType.IsUtf8)
    (statusUtf8 : status.IsUtf8) (error : OptionalUtf8 lastError) :
    (CollectorCall.healthDirect
      ⟨machineId, source, collectorType, status, nowMs, lastError⟩).Textual where
  key := isUtf8_collectorId machine sourceUtf8
  machineId := machine
  source := sourceUtf8
  collectorType := type
  status := statusUtf8
  lastError := error
  extraJson _ absent := absurd absent (by simp [CollectorUpdate.fresh, HealthDirect.update])

theorem textual_gpuHealth {status : CStr} (nowMs : ℤ) {lastError : Option CStr}
    (utf8 : status.IsUtf8) (error : OptionalUtf8 lastError) :
    (gpuHealth machineId status nowMs lastError).Textual :=
  textual_healthDirect machine nowMs (isUtf8_text (by decide)) (isUtf8_text (by decide)) utf8
    error

theorem textual_ollamaHealth {status : CStr} (nowMs : ℤ) {lastError : Option CStr}
    (utf8 : status.IsUtf8) (error : OptionalUtf8 lastError) :
    (ollamaHealth machineId status nowMs lastError).Textual :=
  textual_healthDirect machine nowMs (isUtf8_text (by decide)) (isUtf8_text (by decide)) utf8
    error

omit machine in
theorem optionalUtf8_none : OptionalUtf8 none := fun _ absent => absurd absent (by simp)

theorem textual_gpuInitCalls {warning : CStr} (utf8 : warning.IsUtf8) (nowMs : ℤ) :
    ∀ call ∈ gpuInitCalls machineId warning nowMs, call.Textual :=
  List.forall_mem_singleton.mpr (textual_gpuHealth machine nowMs (isUtf8_text (by decide))
    (optionalUtf8_some ((isUtf8_text (by decide)).append utf8)))

theorem textual_gpuPollCalls {names : List CStr} (utf8 : ∀ name ∈ names, name.IsUtf8) (nowMs : ℤ)
    (snapshots : List GpuSnapshot) :
    ∀ call ∈ gpuPollCalls machineId names nowMs snapshots, call.Textual := by
  refine List.forall_mem_append.mpr ⟨List.forall_mem_map.mpr ?_, List.forall_mem_singleton.mpr
    (textual_gpuHealth machine nowMs (isUtf8_text (by decide)) optionalUtf8_none)⟩
  refine List.forall_mem_map.mpr fun snap _ => ?_
  have named : (gpuName names snap).IsUtf8 := by
    unfold gpuName
    split_ifs
    · exact isUtf8_text (by decide)
    · rw [List.getD_eq_getElem?_getD]
      cases found : names[snap.gpuIndex.toNat]? with
      | none => exact isUtf8_text (by decide)
      | some name => exact utf8 name (List.mem_of_getElem? found)
  refine ⟨machine, (isUtf8_text (by decide)).append (isUtf8_decimalText _), ?_,
    isUtf8_text (by decide)⟩
  unfold gpuRow
  dsimp only
  split_ifs
  · exact optionalUtf8_none
  · exact optionalUtf8_some named

theorem textual_ollamaPollCalls {reply : OllamaReply} (utf8 : (HostEvent.ollamaPoll reply).Textual)
    (nowMs : ℤ) : ∀ call ∈ ollamaPollCalls machineId nowMs reply, call.Textual := by
  have unreachable {error : CStr} (own : error.IsUtf8) :
      (ollamaHealth machineId (text "unreachable") nowMs (some error)).Textual :=
    textual_ollamaHealth machine nowMs (isUtf8_text (by decide)) (optionalUtf8_some own)
  cases reply with
  | connectionFailed => exact List.forall_mem_singleton.mpr (unreachable (isUtf8_text (by decide)))
  | httpError status =>
    exact List.forall_mem_singleton.mpr
      (unreachable ((isUtf8_text (by decide)).append (isUtf8_decimalText _)))
  | invalidJson =>
    exact List.forall_mem_singleton.mpr (textual_ollamaHealth machine nowMs
      (isUtf8_text (by decide)) (optionalUtf8_some (isUtf8_text (by decide))))
  | models row =>
    exact List.forall_mem_cons.mpr ⟨⟨machine, utf8⟩, List.forall_mem_singleton.mpr
      (textual_ollamaHealth machine nowMs (isUtf8_text (by decide)) optionalUtf8_none)⟩

end Calls

/-! ## Steps -/

section Steps

variable {machineId : CStr} {s : Host}

theorem stable_textual : Stable Database.Textual PipeStmt.Textual CollectorCall.Textual where
  empty := textual_empty
  stmt _ _ own stored := own.effect stored
  call _ _ own stored := own.effect stored

/-- Texts in UTF-8 lead to texts in UTF-8. -/
theorem HostEvent.Textual.brings (machine : machineId.IsUtf8) {e : HostEvent} (utf8 : e.Textual)
    (nowMs : ℤ) : e.Brings machineId PipeStmt.Textual CollectorCall.Textual nowMs := by
  cases e with
  | message message =>
    obtain ⟨line, encoded, parsed⟩ := utf8
    exact textual_statements (textual_of_parseBridgeMessage encoded parsed)
  | gpuInit failure =>
    exact fun warning failed => textual_gpuInitCalls machine (utf8 warning failed) nowMs
  | gpuPoll names snapshots => exact textual_gpuPollCalls machine utf8 nowMs snapshots
  | ollamaPoll reply => exact textual_ollamaPollCalls machine utf8 nowMs
  | _ => trivial

theorem ReachedInUtf8.textual (machine : machineId.IsUtf8) {now : ℤ}
    (reached : ReachedInUtf8 machineId now s) : s.Textual := by
  have holds := Host.holds_of_reaches stable_textual
    (fun s _ utf8 => HostEvent.Textual.brings machine utf8 s.clock) reached
  exact ⟨holds.store, holds.gpu, holds.ollama⟩

end Steps

/-! ## What is stored -/

/-- **The text columns.** However the threads interleave, commands fail and the process is
restarted, every text column is in UTF-8 and every JSON column holds a JSON text, in the
database that is seen and in the one a rollback brings back. -/
theorem database_textual {machineId : CStr} (machine : machineId.IsUtf8) {now : ℤ} {s : Host}
    (reached : ReachedInUtf8 machineId now s) :
    s.store.conn.db.Textual ∧ s.store.conn.base.Textual :=
  ⟨(reached.textual machine).store.visible, (reached.textual machine).store.base⟩

/-- A hello whose host name is not ASCII. -/
def greetingLine : Bytes :=
  Utf8.encode ("\x7b\"type\":\"hello\",\"schema_version\":1,".toList ++
    "\"source\":\"librehw_bridge\",".toList ++
    "\"machine_id\":\"host\",\"sent_at_utc\":\"2026-01-01T00:00:00Z\",".toList ++
    "\"bridge_version\":\"1.0\",\"hostname\":\"b\u00fcro\",\"pid\":7,".toList ++
    "\"sample_interval_ms\":1000,\"capabilities\":\x7b\"cpu\":true\x7d\x7d".toList)

/-- What it is parsed to. -/
def greeting : BridgeMessage :=
  .hello
    { envelope := ⟨1, text "librehw_bridge", text "host", 1767225600000⟩
      bridgeVersion := text "1.0"
      hostname := CStr.ofBytes (Utf8.encode "b\u00fcro".toList)
      pid := 7
      sampleIntervalMs := 1000
      capabilitiesJson := text "\x7b\"cpu\":true\x7d" }

/-- The hello is stored. -/
def greetingRun : List HostEvent :=
  [.message greeting, .command true, .command true, .command true, .command true]

theorem database_textual_greeting :
    ∃ s, exec (Host.step (text "host")) (Host.start 0) greetingRun = some s ∧
      s.store.conn.db.Textual ∧ s.store.conn.base.Textual := by
  have parsed : parseBridgeMessage CJson.formatDouble greetingLine = .ok greeting := by
    decide +kernel
  have ran : exec (Host.step (text "host")) (Host.start 0) greetingRun = some _ := rfl
  refine ⟨_, ran, database_textual (isUtf8_text (by decide)) (Reaches.of_exec ran ?_)⟩
  exact ⟨⟨greetingLine, ⟨_, rfl⟩, parsed⟩, trivial, trivial, trivial, trivial, trivial⟩

/-! ## Answers -/

/-- The statements of one request read states of the run, each its own, and each as far as
it gets. -/
def ReadsReached (machineId : CStr) (now : ℤ) (reads : Reads) : Prop :=
  ∀ s : ReadStmt, ∃ host, ReachedInUtf8 machineId now host ∧
    ∃ rows access, s.Selects host.store.conn.db rows ∧ reads s = s.read access rows

/-- The statements read one reached state, and nothing fails. -/
theorem ReachedInUtf8.reads {machineId : CStr} {now : ℤ} {host : Host}
    (reached : ReachedInUtf8 machineId now host) :
    ReadsReached machineId now fun s =>
      s.read ⟨true, none⟩ ((Selection.ofStorage host.store.conn.db).rows s) :=
  fun s => ⟨host, reached, _, ⟨true, none⟩, (Selection.ofStorage _).selects s, rfl⟩

/-- What the server sends with status 200 or 400; an exception sends nothing of its own. -/
def Reply.sent : Reply Item → Option CStr
  | .ok body => some (CJson.printUnformatted CJson.formatDouble body)
  | .badRequest error => some error
  | .escaped _ => none

/-- What the answer says. -/
def Reply.said : Reply Item → Option Json.Datum
  | .ok body => some body.shown
  | .badRequest _ =>
    some (.object [(lit "error", .string (lit "sensor_uid parameter is required"))])
  | .escaped _ => none

theorem ReadsReached.textual {machineId : CStr} (machine : machineId.IsUtf8) {now : ℤ}
    {reads : Reads} (read : ReadsReached machineId now reads) : reads.Textual := by
  intro s row member
  obtain ⟨host, reached, rows, access, selects, same⟩ := read s
  obtain ⟨n, taken, -⟩ := s.read_eq_take selects access
  rw [same, taken] at member
  have stored := (reached.textual machine).store.visible
  exact ReadStmt.Selects.textual stored selects row (List.mem_of_mem_take member)

/-- The body of a request that is not refused says the response. -/
theorem ReadsReached.denotes_body {machineId : CStr} (machine : machineId.IsUtf8) {now : ℤ}
    {context : RequestContext}
    (known : ∀ answer ∈ context.machine, ∃ host, ReachedInUtf8 machineId now host ∧
      queryMachineCatalog machineId host.store.conn.db = some answer)
    {reads : Reads} (read : ReadsReached machineId now reads) {endpoint : Route}
    (asked : endpoint.Textual) {body : Item}
    (replied : endpoint.reply machineId context reads = .ok body) :
    Denotes (CJson.printUnformatted CJson.formatDouble body).bytes body.shown := by
  have answers : ∀ answer ∈ context.machine, answer.Textual := by
    intro answer answered
    obtain ⟨host, reached, found⟩ := known answer answered
    exact textual_queryMachineCatalog (reached.textual machine).store.visible answer found
  exact CJson.denotes_printUnformatted
    (Route.textual_reply machine answers (read.textual machine) asked replied)

end CapacityAgent

/-
# From the bridge to the tables

The whole way of a reading: what the bridge sends on a connection, the part of it that
arrives, in chunks, the strings of the pipe server, and what the handler makes of them. A
connection can break inside a line; what the host reads of it is a beginning of what was
sent.
-/

import CapacityAgent.Bridge.Disconnect

namespace CapacityAgent

open Connection

/-! ## The handler over a run -/

section Handler

variable (formatDouble : Double → Bytes)

/-- The messages among strings. -/
def parsedMessages (strings : List Bytes) : List BridgeMessage :=
  strings.filterMap fun string => (parseBridgeMessage formatDouble string).toOption

/-- Whichever commands fail, the handler applies some of the messages, each as a whole, in
order and once, and all of them when none fails. -/
theorem handleAll_closed (fails : ℕ → ℕ → Bool) (strings : List Bytes) (db : Database) :
    ∃ applied : List BridgeMessage, applied.Sublist (parsedMessages formatDouble strings) ∧
      handleAll formatDouble fails strings (Conn.closed db) = Conn.closed (replay applied db) ∧
      ((∀ i n, fails i n = false) → applied = parsedMessages formatDouble strings) := by
  suffices from_ : ∀ (start : ℕ) (db : Database), ∃ applied : List BridgeMessage,
      applied.Sublist (parsedMessages formatDouble strings) ∧
      (strings.zipIdx start).foldl (fun c message =>
        handlePipeMessage formatDouble (fails message.2) message.1 c) (Conn.closed db) =
          Conn.closed (replay applied db) ∧
      ((∀ i n, fails i n = false) → applied = parsedMessages formatDouble strings) from
    from_ 0 db
  induction strings with
  | nil => exact fun start db => ⟨[], List.Sublist.refl _, rfl, fun _ => rfl⟩
  | cons string rest ih =>
    intro start db
    rw [List.zipIdx_cons, List.foldl_cons, handlePipeMessage, parsedMessages,
      List.filterMap_cons]
    cases parsed : parseBridgeMessage formatDouble string with
    | error reason => exact ih (start + 1) db
    | ok message =>
      have own := persist_all_or_nothing message (fails start) db
      cases stored : (persist (fails start) message (Conn.closed db)).1 with
      | false =>
        obtain ⟨applied, within, ended, -⟩ := ih (start + 1) db
        refine ⟨applied, within.cons message, ?_, fun healthy => ?_⟩
        · dsimp only
          rw [own.1 stored]
          exact ended
        · rw [persist_of_healthy message (healthy start)] at stored
          exact absurd stored (by simp)
      | true =>
        obtain ⟨applied, within, ended, all⟩ := ih (start + 1) (message.effect db)
        refine ⟨message :: applied, within.cons_cons message, ?_, fun healthy => ?_⟩
        · dsimp only
          rw [own.2 stored]
          exact ended
        · exact congrArg (message :: ·) (all healthy)

end Handler

namespace LibreHwBridge

open Json (Encoder)
open NamedPipeServer (newline carriageReturn)

/-! ## What can be in the pipe -/

section Pipe

variable (encoder : Encoder) (formatDouble : Double → Bytes)
variable (environment : Environment) (options : BridgeOptions) (startedAt : DateTimeOffset)

/-- The calls up to the first that throws; where the pipe refuses a line, some of it may have
been written. -/
def offeredBy : List Sending → List Call
  | [] => []
  | sending :: rest =>
    if (sending.call.message environment options).json.isSome then
      sending.call :: if sending.written then offeredBy rest else []
    else []

/-- The calls of a connection whose lines are written, the last perhaps in part. -/
def Session.offered (session : Session) : List Call :=
  if session.connects then offeredBy environment options (session.sendings startedAt) else []

theorem writable_of_mem_offeredBy {sendings : List Sending} {call : Call}
    (offered : call ∈ offeredBy environment options sendings) :
    (call.message environment options).json.isSome = true := by
  induction sendings with
  | nil => exact absurd offered List.not_mem_nil
  | cons sending rest ih =>
    rw [offeredBy] at offered
    split at offered
    · next writable =>
      rcases List.mem_cons.mp offered with rfl | later
      · exact writable
      · split at later
        · exact ih later
        · exact absurd later List.not_mem_nil
    · exact absurd offered List.not_mem_nil

theorem sent_prefix_offeredBy (sendings : List Sending) :
    (sendings.takeWhile (Sending.succeeds environment options)).map Sending.call <+:
      offeredBy environment options sendings := by
  induction sendings with
  | nil => exact List.prefix_rfl
  | cons sending rest ih =>
    rw [List.takeWhile_cons, offeredBy, Sending.succeeds]
    cases (sending.call.message environment options).json.isSome with
    | false => exact List.nil_prefix
    | true =>
      cases sending.written with
      | false => exact List.nil_prefix
      | true => exact (List.prefix_cons_inj sending.call).mpr ih

theorem Session.sent_prefix_offered (session : Session) :
    session.sent environment options startedAt <+:
      session.offered environment options startedAt := by
  unfold Session.sent Session.offered
  split
  · exact sent_prefix_offeredBy environment options _
  · exact List.nil_prefix

/-! ## What arrives -/

/-- The line of a call that can be written, and how the host reads it. -/
structure Call.Line (call : Call) (body : Bytes) : Prop where
  sent : send encoder (call.message environment options) = some (body ++ lineBreak)
  newlineFree : newline ∉ body
  returnFree : carriageReturn ∉ body
  nonempty : body ≠ []
  delivered : ∀ rest, NamedPipeServer.messages (body ++ lineBreak ++ rest) =
    body :: NamedPipeServer.messages rest
  parsed : parseBridgeMessage formatDouble body = .ok (call.received environment options)

theorem Call.exists_line {call : Call}
    (writable : (call.message environment options).json.isSome = true) :
    ∃ body, call.Line encoder formatDouble environment options body := by
  obtain ⟨body, sent, ⟨newlineFree, returnFree⟩, delivered, parsed, -⟩ :=
    send_received encoder formatDouble environment options call
      (Message.isFinite_of_isSome_json writable)
  refine ⟨body, sent, newlineFree, returnFree, ?_, delivered, parsed⟩
  rintro rfl
  -- the empty string is no message
  have rejected : parseBridgeMessage formatDouble [] = .error (text "Invalid JSON payload") := rfl
  exact absurd (rejected.symm.trans parsed) (by simp)

theorem messages_of_free {piece : Bytes} (free : newline ∉ piece) :
    NamedPipeServer.messages piece = NamedPipeServer.lines [piece] := by
  rw [NamedPipeServer.messages, List.splitOn_eq_singleton free]

/-- A line without its end is read, or it is rejected when some of its text is missing. -/
theorem hostMessages_cut {call : Call} {body cut : Bytes}
    (line : call.Line encoder formatDouble environment options body)
    (within : cut <+: body ++ [carriageReturn]) :
    hostMessages formatDouble cut = [] ∨
      hostMessages formatDouble cut = [call.received environment options] := by
  obtain ⟨sent, newlineFree, returnFree, nonempty, -, parsed⟩ := line
  have free : newline ∉ cut := by
    intro member
    rcases List.mem_append.mp (within.subset member) with inBody | atEnd
    · exact newlineFree inBody
    · exact absurd (List.mem_singleton.mp atEnd) (by decide)
  have whole : NamedPipeServer.lines [body] = [body] := by
    have kept : NamedPipeServer.trimCarriageReturn body = body :=
      if_neg fun last => returnFree (List.mem_of_getLast? last)
    rw [NamedPipeServer.lines_cons, kept, if_neg (by simpa using nonempty)]
    rfl
  have whole' : NamedPipeServer.lines [body ++ [carriageReturn]] = [body] := by
    have kept : NamedPipeServer.trimCarriageReturn (body ++ [carriageReturn]) = body := by
      rw [NamedPipeServer.trimCarriageReturn, List.getLast?_concat, if_pos rfl,
        List.dropLast_concat]
    rw [NamedPipeServer.lines_cons, kept, if_neg (by simpa using nonempty)]
    rfl
  have read : [body].filterMap (fun line => (parseBridgeMessage formatDouble line).toOption) =
      [call.received environment options] := by
    rw [List.filterMap_cons, parsed]
    rfl
  rcases List.prefix_concat_iff.mp within with rfl | inBody
  · right
    rw [hostMessages, messages_of_free free, whole', read]
  · obtain ⟨rest, rfl⟩ := inBody
    cases rest with
    | nil =>
      right
      rw [List.append_nil] at whole read
      rw [hostMessages, messages_of_free free, whole, read]
    | cons b rest =>
      left
      have rejected := call.parseBridgeMessage_cut sent (List.cons_ne_nil b rest) formatDouble
      have kept : NamedPipeServer.trimCarriageReturn cut = cut :=
        if_neg fun last => returnFree (List.mem_append_left _ (List.mem_of_getLast? last))
      rw [hostMessages, messages_of_free free, NamedPipeServer.lines_cons, kept]
      split
      · rfl
      · rw [List.filterMap_cons, rejected]
        rfl

theorem lines_cons (call : Call) (rest : List Call) :
    lines encoder environment options (call :: rest) =
      (send encoder (call.message environment options)).getD [] ++
        lines encoder environment options rest := rfl

theorem lines_append (first second : List Call) :
    lines encoder environment options (first ++ second) =
      lines encoder environment options first ++ lines encoder environment options second :=
  List.flatMap_append

/-- **What arrives of a stream is read as a beginning of what was sent**, with every call
whose line arrived. -/
theorem exists_hostMessages_prefix {calls : List Call}
    (writable : ∀ call ∈ calls, (call.message environment options).json.isSome = true)
    {arrived : Bytes} (within : arrived <+: lines encoder environment options calls) :
    ∃ read, read <+: calls ∧
      hostMessages formatDouble arrived = read.map (Call.received environment options) ∧
      ∀ whole, whole <+: calls → lines encoder environment options whole <+: arrived →
        whole <+: read := by
  induction calls generalizing arrived with
  | nil =>
    obtain rfl := List.prefix_nil.mp within
    exact ⟨[], List.prefix_rfl, rfl, fun whole here _ => here⟩
  | cons call rest ih =>
    obtain ⟨body, line⟩ :=
      call.exists_line encoder formatDouble environment options (writable call List.mem_cons_self)
    have begins (more : List Call) : lines encoder environment options (call :: more) =
        (body ++ lineBreak) ++ lines encoder environment options more := by
      rw [lines_cons, line.sent]
      rfl
    -- the first line has arrived, or what has arrived is a part of it
    have cases_ : arrived <+: body ++ [carriageReturn] ∨ body ++ lineBreak <+: arrived := by
      rw [begins] at within
      rcases List.prefix_or_prefix_of_prefix within (List.prefix_append _ _) with cut | whole
      · have last : body ++ lineBreak = (body ++ [carriageReturn]) ++ [newline] := by
          simp [lineBreak]
        rw [last, List.prefix_concat_iff] at cut
        rcases cut with all | cut
        · exact .inr (all ▸ last ▸ List.prefix_rfl)
        · exact .inl cut
      · exact .inr whole
    rcases cases_ with cut | ⟨more, rfl⟩
    · have covers : ∀ whole, whole <+: call :: rest →
          lines encoder environment options whole <+: arrived → whole = [] := by
        intro whole beginning here
        cases whole with
        | nil => rfl
        | cons first others =>
          obtain ⟨rfl, -⟩ := List.cons_prefix_cons.mp beginning
          have long := (here.trans cut).length_le
          rw [begins, List.length_append, List.length_append, List.length_append] at long
          have two : lineBreak.length = 2 := rfl
          have one : [carriageReturn].length = 1 := rfl
          omega
      rcases hostMessages_cut encoder formatDouble environment options line cut with none_ | one
      · refine ⟨[], List.nil_prefix, none_, fun whole beginning here => ?_⟩
        exact covers whole beginning here ▸ List.prefix_rfl
      · refine ⟨[call], ?_, one, fun whole beginning here => ?_⟩
        · exact List.cons_prefix_cons.mpr ⟨rfl, List.nil_prefix⟩
        · exact covers whole beginning here ▸ List.nil_prefix
    · rw [begins, List.prefix_append_right_inj] at within
      obtain ⟨read, beginning, same, covers⟩ :=
        ih (fun other member => writable other (List.mem_cons_of_mem call member)) within
      refine ⟨call :: read, List.cons_prefix_cons.mpr ⟨rfl, beginning⟩, ?_, ?_⟩
      · rw [hostMessages] at same ⊢
        rw [line.delivered, List.filterMap_cons, line.parsed, same]
        rfl
      · intro whole here all
        cases whole with
        | nil => exact List.nil_prefix
        | cons first others =>
          obtain ⟨rfl, beginningOthers⟩ := List.cons_prefix_cons.mp here
          rw [begins, List.prefix_append_right_inj] at all
          exact List.cons_prefix_cons.mpr ⟨rfl, covers others beginningOthers all⟩

/-! ## Runs -/

/-- A connection of the bridge, and what the server reads of it. -/
structure Delivery where
  session : Session
  chunks : List Bytes
  nonempty : ∀ chunk ∈ chunks, chunk ≠ []
  within : chunks.flatten <+:
    lines encoder environment options (session.offered environment options startedAt)

/-- The calls the host reads of a connection: a beginning of them, with all those whose lines
arrive. -/
structure Session.ReadAs (session : Session) (arrived : Bytes) (read : List Call) : Prop where
  beginning : read <+: session.offered environment options startedAt
  covers : ∀ whole, whole <+: session.offered environment options startedAt →
    lines encoder environment options whole <+: arrived → whole <+: read

variable {encoder environment options startedAt}

/-- Where the whole stream arrives, everything sent is read. -/
theorem Session.ReadAs.sent_prefix {session : Session} {arrived : Bytes} {read : List Call}
    (reads : session.ReadAs encoder environment options startedAt arrived read)
    (all : session.stream encoder environment options startedAt <+: arrived) :
    session.sent environment options startedAt <+: read :=
  reads.covers _ (Session.sent_prefix_offered environment options startedAt session) all

theorem Delivery.exists_read (delivery : Delivery encoder environment options startedAt) :
    ∃ read, delivery.session.ReadAs encoder environment options startedAt
        delivery.chunks.flatten read ∧
      parsedMessages formatDouble (NamedPipeServer.serveConnection delivery.chunks) =
        read.map (Call.received environment options) := by
  have writable : ∀ call ∈ delivery.session.offered environment options startedAt,
      (call.message environment options).json.isSome = true := by
    intro call member
    unfold Session.offered at member
    split at member
    · exact writable_of_mem_offeredBy environment options member
    · exact absurd member List.not_mem_nil
  obtain ⟨read, beginning, same, covers⟩ := exists_hostMessages_prefix encoder formatDouble
    environment options writable delivery.within
  refine ⟨read, ⟨beginning, covers⟩, ?_⟩
  rw [NamedPipeServer.serveConnection_eq delivery.nonempty]
  exact same

/-- What the host reads of a run, connection by connection. -/
def ReadFrom (deliveries : List (Delivery encoder environment options startedAt))
    (read : List (List Call)) : Prop :=
  List.Forall₂ (fun delivery calls => delivery.session.ReadAs encoder environment options
    startedAt delivery.chunks.flatten calls) deliveries read

theorem exists_readFrom (deliveries : List (Delivery encoder environment options startedAt)) :
    ∃ read, ReadFrom deliveries read ∧
      parsedMessages formatDouble (NamedPipeServer.run (deliveries.map Delivery.chunks)) =
        read.flatten.map (Call.received environment options) := by
  induction deliveries with
  | nil => exact ⟨[], .nil, rfl⟩
  | cons delivery rest ih =>
    obtain ⟨calls, reads, first⟩ := delivery.exists_read formatDouble
    obtain ⟨read, later, same⟩ := ih
    refine ⟨calls :: read, .cons reads later, ?_⟩
    rw [parsedMessages] at first same ⊢
    rw [List.map_cons, NamedPipeServer.run, List.flatMap_cons, List.filterMap_append, first,
      List.flatten_cons, List.map_append, ← same, NamedPipeServer.run]

/-- **Nothing is applied that was not sent, and nothing twice, in part or out of order.**
However the bytes of each connection are cut up, wherever it breaks and whichever commands
fail, the host reads of each connection a beginning of what the bridge sent, and applies
messages of these in order, all of them when no command fails. -/
theorem deliveries_applied (deliveries : List (Delivery encoder environment options startedAt))
    (fails : ℕ → ℕ → Bool) (db : Database) :
    ∃ read, ReadFrom deliveries read ∧
      ∃ applied, applied.Sublist (read.flatten.map (Call.received environment options)) ∧
        handleAll formatDouble fails (NamedPipeServer.run (deliveries.map Delivery.chunks))
            (Conn.closed db) = Conn.closed (replay applied db) ∧
        ((∀ i n, fails i n = false) →
          applied = read.flatten.map (Call.received environment options)) := by
  obtain ⟨read, reads, same⟩ := exists_readFrom formatDouble deliveries
  obtain ⟨applied, within, ended, all⟩ := handleAll_closed formatDouble fails
    (NamedPipeServer.run (deliveries.map Delivery.chunks)) db
  rw [same] at within all
  exact ⟨read, reads, applied, within, ended, all⟩

end Pipe

end LibreHwBridge

end CapacityAgent

/-
# One object per line

`ParseBridgeMessage` copies the line, parses what is seen of it as a C string and does not
ask where the value ended. The values it accepts are those that decode to a message, and a
line it accepts is one JSON object exactly when nothing of the line was passed over or left
that is not white space and every token that was read is one of JSON.
-/

import CapacityAgent.CJson.Grammar
import CapacityAgent.Parser.Outputs

namespace CapacityAgent

open CJson (Item)
open Json (Lexis)
open Checks Parsing

/-! ## Accepted values -/

theorem check_assign_eq_ok_iff {α : Type} {part : Except CStr α} {message : α → BridgeMessage}
    {out : Outputs} :
    ((check part >>= fun value => assign (message value)) out).1 = .ok () ↔
      ∃ value, part = .ok value := by
  cases part with
  | error e => exact iff_of_false (fun failed => nomatch failed) fun ⟨_, read⟩ => nomatch read
  | ok value => exact iff_of_true rfl ⟨value, rfl⟩

theorem parseListMessage_eq_ok_iff {α β : Type} {head : Except CStr (β × List Item)}
    {missing : CStr} {parse : Item → Except CStr α} {message : β → List α → BridgeMessage}
    {out : Outputs} :
    (parseListMessage head missing parse message out).1 = .ok () ↔
      ∃ fields items, head = .ok (fields, items) ∧ 0 ≤ getArraySize items ∧
        ∀ item ∈ items.take (getArraySize items).toNat, ∃ entry, parse item = .ok entry := by
  cases head with
  | error e =>
    rw [parseListMessage_error]
    exact iff_of_false (fun failed => nomatch failed) fun ⟨_, _, read, _⟩ => nomatch read
  | ok parts =>
    obtain ⟨fields, items⟩ := parts
    rw [parseListMessage_ok, parseItems_eq]
    split_ifs with negative
    · -- a negative count ends in an exception
      refine iff_of_false (fun failed => nomatch failed) ?_
      rintro ⟨_, _, ⟨⟩, counted, -⟩
      exact absurd counted (not_le.mpr negative)
    · rw [check_assign_eq_ok_iff, exists_mapM_eq_ok_iff]
      constructor
      · exact fun each => ⟨fields, items, rfl, not_lt.mp negative, each⟩
      · rintro ⟨_, _, ⟨⟩, -, each⟩
        exact each

variable (formatDouble : Double → Bytes)

/-- The value decodes to a message, of whose array the elements counted by an `int` are
looked at. -/
inductive Accepted (root : Item) : Prop
  | hello {message : HelloMessage} (type : HasString root (text "type") (text "hello"))
      (body : DecodesHello formatDouble root message)
  | catalogSnapshot {envelope : MessageEnvelope} {items : List Item}
      (type : HasString root (text "type") (text "catalog_snapshot"))
      (envelope : DecodesEnvelope root envelope) (array : HasArray root (text "sensors") items)
      (counted : 0 ≤ getArraySize items)
      (each : ∀ item ∈ items.take (getArraySize items).toNat,
        ∃ sensor, DecodesSensor formatDouble item sensor)
  | sampleBatch {envelope : MessageEnvelope} {ms : ℤ} {items : List Item}
      (type : HasString root (text "type") (text "sample_batch"))
      (envelope : DecodesEnvelope root envelope)
      (sampleTime : HasTimestamp root (text "sample_time_utc") ms)
      (array : HasArray root (text "samples") items) (counted : 0 ≤ getArraySize items)
      (each : ∀ item ∈ items.take (getArraySize items).toNat, ∃ sample, DecodesSample item sample)
  | heartbeat {message : HeartbeatMessage} (type : HasString root (text "type") (text "heartbeat"))
      (body : DecodesHeartbeat root message)

section Values

variable {root : Item} {out : Outputs}

theorem parseCatalogSnapshotInto_eq_ok_iff :
    (parseCatalogSnapshotInto formatDouble root out).1 = .ok () ↔
      ∃ envelope items, (DecodesEnvelope root envelope ∧ HasArray root (text "sensors") items) ∧
        0 ≤ getArraySize items ∧ ∀ item ∈ items.take (getArraySize items).toNat,
          ∃ sensor, DecodesSensor formatDouble item sensor := by
  simp only [parseCatalogSnapshotInto, parseListMessage_eq_ok_iff, catalogHead_eq_ok_iff,
    parseCatalogSensor_eq_ok_iff]

theorem parseSampleBatchInto_eq_ok_iff :
    (parseSampleBatchInto root out).1 = .ok () ↔
      ∃ envelope ms items, (DecodesEnvelope root envelope ∧
          HasTimestamp root (text "sample_time_utc") ms ∧ HasArray root (text "samples") items) ∧
        0 ≤ getArraySize items ∧ ∀ item ∈ items.take (getArraySize items).toNat,
          ∃ sample, DecodesSample item sample := by
  simp only [parseSampleBatchInto, parseListMessage_eq_ok_iff, Prod.exists, batchHead_eq_ok_iff,
    parseSensorSample_eq_ok_iff]

theorem accepted_of_parsePayloadInto
    (accepted : (parsePayloadInto formatDouble (some root) out).1 = .ok ()) :
    Accepted formatDouble root := by
  rw [parsePayloadInto] at accepted
  cases readType : getRequiredString root (text "type") with
  | error e =>
    rw [readType, check_error_bind] at accepted
    exact absurd accepted (fail_ne_ok e out ())
  | ok type =>
    have has := getRequiredString_eq_ok_iff.mp readType
    rw [readType, check_ok_bind] at accepted
    split_ifs at accepted with hello catalog batch heartbeat
    · subst hello
      obtain ⟨message, read⟩ := check_assign_eq_ok_iff.mp accepted
      exact .hello has ((parseHello_eq_ok_iff formatDouble).mp read)
    · subst catalog
      obtain ⟨envelope, items, ⟨decodes, array⟩, counted, each⟩ :=
        (parseCatalogSnapshotInto_eq_ok_iff formatDouble).mp accepted
      exact .catalogSnapshot has decodes array counted each
    · subst batch
      obtain ⟨envelope, ms, items, ⟨decodes, sampleTime, array⟩, counted, each⟩ :=
        parseSampleBatchInto_eq_ok_iff.mp accepted
      exact .sampleBatch has decodes sampleTime array counted each
    · subst heartbeat
      obtain ⟨message, read⟩ := check_assign_eq_ok_iff.mp accepted
      exact .heartbeat has (parseHeartbeat_eq_ok_iff.mp read)
    · exact absurd accepted (fail_ne_ok _ out ())

theorem Accepted.parsePayloadInto_ok (accepted : Accepted formatDouble root) (out : Outputs) :
    (parsePayloadInto formatDouble (some root) out).1 = .ok () := by
  have reads : ∀ {type}, HasString root (text "type") type →
      getRequiredString root (text "type") = .ok type := getRequiredString_eq_ok_iff.mpr
  cases accepted with
  | hello type body =>
    rw [parsePayloadInto, reads type, check_ok_bind, if_pos rfl]
    exact check_assign_eq_ok_iff.mpr ⟨_, (parseHello_eq_ok_iff formatDouble).mpr body⟩
  | catalogSnapshot type decodes array counted each =>
    have kind : text "catalog_snapshot" ≠ text "hello" := by decide
    rw [parsePayloadInto, reads type, check_ok_bind, if_neg kind, if_pos rfl]
    exact (parseCatalogSnapshotInto_eq_ok_iff formatDouble).mpr
      ⟨_, _, ⟨decodes, array⟩, counted, each⟩
  | sampleBatch type decodes sampleTime array counted each =>
    have kind : text "sample_batch" ≠ text "hello" := by decide
    have kind' : text "sample_batch" ≠ text "catalog_snapshot" := by decide
    rw [parsePayloadInto, reads type, check_ok_bind, if_neg kind, if_neg kind', if_pos rfl]
    exact parseSampleBatchInto_eq_ok_iff.mpr
      ⟨_, _, _, ⟨decodes, sampleTime, array⟩, counted, each⟩
  | heartbeat type body =>
    have kind : text "heartbeat" ≠ text "hello" := by decide
    have kind' : text "heartbeat" ≠ text "catalog_snapshot" := by decide
    have kind'' : text "heartbeat" ≠ text "sample_batch" := by decide
    rw [parsePayloadInto, reads type, check_ok_bind, if_neg kind, if_neg kind', if_neg kind'',
      if_pos rfl]
    exact check_assign_eq_ok_iff.mpr ⟨_, parseHeartbeat_eq_ok_iff.mpr body⟩

/-- The values that are accepted, whatever the outputs held before. -/
theorem parsePayloadInto_eq_ok_iff :
    (parsePayloadInto formatDouble (some root) out).1 = .ok () ↔ Accepted formatDouble root :=
  ⟨accepted_of_parsePayloadInto formatDouble, fun accepted => accepted.parsePayloadInto_ok _ out⟩

theorem Accepted.isObject (accepted : Accepted formatDouble root) :
    ∃ children, root = .object children := by
  have has : ∃ type, HasString root (text "type") type := by
    cases accepted with
    | hello type | catalogSnapshot type | sampleBatch type | heartbeat type => exact ⟨_, type⟩
  obtain ⟨type, has⟩ := has
  cases root with
  | object children => exact ⟨children, rfl⟩
  | null | bool | number | string | array => exact nomatch has

end Values

/-! ## Accepted lines -/

/-- A line for which the call returns true is the text of one object, with white space around
it. -/
def AcceptsOneObject (line : Bytes) : Prop :=
  ∀ out, (parseBridgeMessageInto formatDouble line out).1 = .ok () → Json.OneObject line

/-- Of the line nothing is lost behind a NUL, what is passed over before the value and left
behind it is white space, and the tokens of the value are tokens of JSON. -/
structure OnlyJson (line before text after : Bytes) : Prop where
  nulFree : (0 : UInt8) ∉ line
  before : Lexis.json.Gap before
  tokens : ∀ token ∈ Json.tokens text, Lexis.json.Allows token
  after : Lexis.json.Gap after

variable {formatDouble}

theorem exists_reads_of_accepted {line : Bytes} {out : Outputs}
    (accepted : (parseBridgeMessageInto formatDouble line out).1 = .ok ()) :
    ∃ root before text after, CJson.Reads (CStr.ofBytes line) root before text after ∧
      Accepted formatDouble root := by
  rw [parseBridgeMessageInto] at accepted
  cases read : CJson.parse (CStr.ofBytes line) with
  | none =>
    rw [read] at accepted
    exact nomatch accepted
  | some root =>
    rw [read, parsePayloadInto_eq_ok_iff] at accepted
    obtain ⟨before, text, after, reads⟩ := CJson.parse_eq_some_iff.mp read
    exact ⟨root, before, text, after, reads, accepted⟩

/-- **When an accepted line is one JSON object**: exactly when the line of a value that is
accepted has no NUL, only white space around the value, and only tokens of JSON in it. -/
theorem acceptsOneObject_iff (line : Bytes) :
    AcceptsOneObject formatDouble line ↔
      ∀ root before text after, CJson.Reads (CStr.ofBytes line) root before text after →
        Accepted formatDouble root → OnlyJson line before text after := by
  constructor
  · intro accepts root before text after reads accepted
    have returned : ∀ out, (parseBridgeMessageInto formatDouble line out).1 = .ok () := by
      intro out
      rw [parseBridgeMessageInto, CJson.parse_eq_some_iff.mpr ⟨before, text, after, reads⟩]
      exact (parsePayloadInto_eq_ok_iff formatDouble).mpr accepted
    -- the line is an object, so cJSON has read that object and all of it
    have one := accepts Classical.ofNonempty (returned _)
    have whole := CStr.ofBytes_bytes_of_notMem one.zero_notMem
    obtain ⟨children, rfl⟩ := accepted.isObject
    obtain ⟨before', text', after', blank, object, blank', splits⟩ := one
    obtain ⟨rfl, rfl, rfl⟩ := reads.unique blank object (whole.trans splits)
    exact
      { nulFree := Json.OneObject.zero_notMem ⟨before, text, after, blank, object, blank', splits⟩
        before := blank
        tokens := (object.1.of_other_iff .json).mp object.1
        after := blank' }
  · intro only out returned
    obtain ⟨root, before, text, after, reads, accepted⟩ := exists_reads_of_accepted returned
    obtain ⟨nulFree, blank, tokens, blank'⟩ := only root before text after reads accepted
    obtain ⟨children, rfl⟩ := accepted.isObject
    -- what was read is an object but for its tokens, and these are tokens of JSON
    obtain ⟨loose, head⟩ := reads.isObject
    have splits := reads.splits
    rw [CStr.ofBytes_bytes_of_notMem nulFree] at splits
    have object : Json.IsObject .json text := ⟨(loose.of_other_iff .json).mpr tokens, head⟩
    exact ⟨before, text, after, blank, object, blank', splits⟩

/-- A heartbeat with a byte behind it that is no white space. -/
def trailedHeartbeat : Bytes :=
  lit "\x7b\"type\":\"heartbeat\",\"schema_version\":1,\"source\":\"librehw_bridge\"," ++
    (lit "\"machine_id\":\"pc\",\"sent_at_utc\":\"2026-01-01T00:00:00Z\",\"status\":\"ok\"," ++
      lit "\"uptime_s\":60,\"catalog_count\":3\x7d#")

/-- The heartbeat is parsed and what is behind it is not looked at. -/
theorem accepted_line_not_always_one_object :
    ¬ ∀ formatDouble line, AcceptsOneObject formatDouble line := by
  intro always
  have one := always (fun _ => []) trailedHeartbeat
    ⟨.catalogSnapshot ⟨⟨0, text "", text "", 0⟩, []⟩, text ""⟩ (by decide +kernel)
  obtain ⟨b, last, ends⟩ := one.getLast?
  have behind : trailedHeartbeat.getLast? = some (byte '#') := by decide +kernel
  obtain rfl := Option.some.inj (behind.symm.trans last)
  exact absurd ends (by decide)

end CapacityAgent

/-
# The outputs of the parser

`ParseBridgeMessage` with its output pointers: every check that fails writes a text to
`*out_error`, and each kind of message writes to `*out_message` at its end. The arrays
are counted by `cJSON_GetArraySize`, which returns an `int`.
-/

import CapacityAgent.Parser.Decoding

namespace CapacityAgent

open CJson (Item)
open Checks

/-! ## Statements on the outputs -/

/-- `*out_message` and `*out_error`. -/
structure Outputs where
  message : BridgeMessage
  error : CStr

/-- How a function ends early. -/
inductive Exit
  | returnedFalse
  | threw
  deriving DecidableEq

/-- A part of the parser: what it yields or how it ends, and the outputs it leaves. -/
def Parsing (α : Type) : Type := Outputs → Except Exit α × Outputs

namespace Parsing

variable {α β : Type}

protected def pure (value : α) : Parsing α := fun out => (.ok value, out)

protected def bind (part : Parsing α) (next : α → Parsing β) : Parsing β := fun out =>
  match part out with
  | (.ok value, out') => next value out'
  | (.error exit, out') => (.error exit, out')

instance : Monad Parsing where
  pure := Parsing.pure
  bind := Parsing.bind

/-- `*out_error = error; return false`. -/
def fail (error : CStr) : Parsing α := fun out =>
  (.error .returnedFalse, { out with error := error })

/-- A check whose failure sets the error. -/
def check : Except CStr α → Parsing α
  | .ok value => pure value
  | .error error => fail error

/-- An exception passes through. -/
def throwException : Parsing α := fun out => (.error .threw, out)

/-- `*out_message = std::move(message)`. -/
def assign (message : BridgeMessage) : Parsing Unit := fun out =>
  (.ok (), { out with message := message })

theorem check_ok_bind (value : α) (next : α → Parsing β) :
    (check (.ok value) >>= next) = next value :=
  rfl

theorem check_error_bind (error : CStr) (next : α → Parsing β) :
    (check (.error error) >>= next) = fail error := rfl

theorem fail_ne_ok (error : CStr) (out : Outputs) (value : α) :
    (fail error out).1 ≠ .ok value := by
  simp [fail]

end Parsing

open Parsing

/-! ## Arrays -/

/-- The greatest `int`. -/
def intMax : ℕ := 2147483647

/-- `cJSON_GetArraySize`, which casts the size to `int`: the number of 32 bits with the
same lower bits. -/
def getArraySize (items : List Item) : ℤ := (items.length : ℤ).bmod 4294967296

/-- The rounds of the loop over the elements, from index `i` on. `cJSON_GetArrayItem`
finds no item beyond the end, and `RequireObject` refuses that. -/
def elementLoop {α : Type} (missing : CStr) (parse : Item → Except CStr α) (items : List Item) :
    ℕ → ℕ → List α → Parsing (List α)
  | 0, _, elements => pure elements
  | rounds + 1, i, elements => do
    let item ← check (items[i]?.elim (.error missing) .ok)
    let element ← check (parse item)
    elementLoop missing parse items rounds (i + 1) (elements ++ [element])

/-- Count the items and decode them one by one. -/
def parseItems {α : Type} (missing : CStr) (parse : Item → Except CStr α) (items : List Item) :
    Parsing (List α) :=
  -- a negative count is too great a size for `reserve`
  if getArraySize items < 0 then throwException
  else elementLoop missing parse items (getArraySize items).toNat 0 []

/-- A message with a list: its other fields and its array, the elements, the message. -/
def parseListMessage {α β : Type} (head : Except CStr (β × List Item)) (missing : CStr)
    (parse : Item → Except CStr α) (message : β → List α → BridgeMessage) : Parsing Unit := do
  let (fields, items) ← check head
  let elements ← parseItems missing parse items
  assign (message fields elements)

/-- The checks of `ParseCatalogSnapshot` before its loop. -/
def catalogHead (root : Item) : Except CStr (MessageEnvelope × List Item) := do
  let envelope ← parseEnvelope root
  let items ← getRequiredArray root (text "sensors")
  return (envelope, items)

/-- The checks of `ParseSampleBatch` before its loop. -/
def batchHead (root : Item) : Except CStr ((MessageEnvelope × ℤ) × List Item) := do
  let envelope ← parseEnvelope root
  let sampleTimeUtcMs ← getRequiredTimestamp root (text "sample_time_utc")
  let items ← getRequiredArray root (text "samples")
  return ((envelope, sampleTimeUtcMs), items)

/-! ## The kinds of message -/

variable (formatDouble : Double → Bytes)

/-- `ParseHello`. -/
def parseHelloInto (root : Item) : Parsing Unit := do
  let message ← check (parseHello formatDouble root)
  assign (.hello message)

/-- `ParseCatalogSnapshot`. -/
def parseCatalogSnapshotInto (root : Item) : Parsing Unit :=
  parseListMessage (catalogHead root) (text "Invalid sensor entry in catalog_snapshot")
    (parseCatalogSensor formatDouble) fun envelope sensors => .catalogSnapshot ⟨envelope, sensors⟩

/-- `ParseSampleBatch`. -/
def parseSampleBatchInto (root : Item) : Parsing Unit :=
  parseListMessage (batchHead root) (text "Invalid sample entry in sample_batch")
    parseSensorSample fun (envelope, sampleTimeUtcMs) samples =>
      .sampleBatch ⟨envelope, sampleTimeUtcMs, samples⟩

/-- `ParseHeartbeat`. -/
def parseHeartbeatInto (root : Item) : Parsing Unit := do
  let message ← check (parseHeartbeat root)
  assign (.heartbeat message)

/-- `ParseBridgeMessage` after `cJSON_Parse`, which may have found no value. -/
def parsePayloadInto : Option Item → Parsing Unit
  | none => fail (text "Invalid JSON payload")
  | some root => do
    let type ← check (getRequiredString root (text "type"))
    if type = text "hello" then parseHelloInto formatDouble root
    else if type = text "catalog_snapshot" then parseCatalogSnapshotInto formatDouble root
    else if type = text "sample_batch" then parseSampleBatchInto root
    else if type = text "heartbeat" then parseHeartbeatInto root
    else fail (text "Unsupported message type: " ++ type)

/-- `ParseBridgeMessage`. -/
def parseBridgeMessageInto (jsonLine : Bytes) : Parsing Unit :=
  parsePayloadInto formatDouble (CJson.parse (CStr.ofBytes jsonLine))

/-- A list message whose other fields are there. -/
theorem parseListMessage_ok {α β : Type} (fields : β) (items : List Item) (missing : CStr)
    (parse : Item → Except CStr α) (message : β → List α → BridgeMessage) :
    parseListMessage (.ok (fields, items)) missing parse message =
      parseItems missing parse items >>= fun entries => assign (message fields entries) := by
  rw [parseListMessage, check_ok_bind]

theorem parseListMessage_error {α β : Type} (error : CStr) (missing : CStr)
    (parse : Item → Except CStr α) (message : β → List α → BridgeMessage) :
    parseListMessage (.error error) missing parse message = fail error := by
  rw [parseListMessage, check_error_bind]

/-! ## Counting -/

theorem bmod_bounds (n : ℕ) :
    (n : ℤ).bmod 4294967296 ≤ n ∧ ((n : ℤ).bmod 4294967296 = n ↔ n ≤ 2147483647) := by
  rw [Int.bmod_def]
  split_ifs <;> omega

theorem getArraySize_bounds (items : List Item) :
    getArraySize items ≤ items.length ∧
      (getArraySize items = items.length ↔ items.length ≤ intMax) := bmod_bounds items.length

theorem elementLoop_eq {α : Type} (missing : CStr) (parse : Item → Except CStr α)
    (items : List Item) {rounds i : ℕ} (inside : i + rounds ≤ items.length) (elements : List α) :
    elementLoop missing parse items rounds i elements =
      check ((((items.drop i).take rounds).mapM parse).map (elements ++ ·)) := by
  induction rounds generalizing i elements with
  | zero =>
    rw [List.take_zero, List.mapM_nil]
    exact congrArg (fun elements => check (Except.ok elements)) (List.append_nil elements).symm
  | succ rounds ih =>
    have here : i < items.length := by omega
    have later := ih (show i + 1 + rounds ≤ items.length by omega)
    rw [elementLoop, List.getElem?_eq_getElem here, Option.elim_some, check_ok_bind,
      List.drop_eq_getElem_cons here, List.take_succ_cons, List.mapM_cons]
    cases parse items[i] with
    | error e => rfl
    | ok element =>
      rw [check_ok_bind, later]
      cases ((items.drop (i + 1)).take rounds).mapM parse with
      | error e => rfl
      | ok others =>
        exact congrArg (fun elements => check (Except.ok elements))
          (List.append_assoc elements [element] others)

/-- The elements up to the count, by their own checks. -/
theorem parseItems_eq {α : Type} (missing : CStr) (parse : Item → Except CStr α)
    (items : List Item) :
    parseItems missing parse items =
      if getArraySize items < 0 then throwException
      else check ((items.take (getArraySize items).toNat).mapM parse) := by
  unfold parseItems
  split_ifs with negative
  · rfl
  · have few := (getArraySize_bounds items).1
    rw [elementLoop_eq missing parse items (by omega), List.drop_zero]
    cases (items.take (getArraySize items).toNat).mapM parse <;> rfl

/-! ## Payloads with small arrays -/

section Small

variable {root : Item}

/-- Every array of the value has at most `INT_MAX` elements. -/
def SmallArrays (root : Item) : Prop :=
  ∀ key items, HasArray root key items → items.length ≤ intMax

theorem parseItems_of_small {α : Type} (missing : CStr) (parse : Item → Except CStr α)
    {items : List Item} (small : items.length ≤ intMax) :
    parseItems missing parse items = check (items.mapM parse) := by
  have exact := (getArraySize_bounds items).2.mpr small
  rw [parseItems_eq, if_neg (by omega), List.take_of_length_le (by omega)]

theorem parseCatalogSnapshotInto_of_small (small : SmallArrays root) :
    parseCatalogSnapshotInto formatDouble root =
      check (parseCatalogSnapshot formatDouble root) >>= fun message =>
        assign (.catalogSnapshot message) := by
  unfold parseCatalogSnapshotInto parseCatalogSnapshot catalogHead
  cases parseEnvelope root with
  | error e => exact parseListMessage_error ..
  | ok envelope =>
    cases found : getRequiredArray root (text "sensors") with
    | error e => exact parseListMessage_error ..
    | ok items =>
      have few := small _ _ (getRequiredArray_eq_ok_iff.mp found)
      refine (parseListMessage_ok ..).trans ?_
      rw [parseItems_of_small _ _ few]
      change _ = check (items.mapM (parseCatalogSensor formatDouble) >>= fun sensors =>
        .ok (⟨envelope, sensors⟩ : CatalogSnapshotMessage)) >>= _
      cases items.mapM (parseCatalogSensor formatDouble) <;> rfl

theorem parseSampleBatchInto_of_small (small : SmallArrays root) :
    parseSampleBatchInto root =
      check (parseSampleBatch root) >>= fun message => assign (.sampleBatch message) := by
  unfold parseSampleBatchInto parseSampleBatch batchHead
  cases parseEnvelope root with
  | error e => exact parseListMessage_error ..
  | ok envelope =>
    cases getRequiredTimestamp root (text "sample_time_utc") with
    | error e => exact parseListMessage_error ..
    | ok ms =>
      cases found : getRequiredArray root (text "samples") with
      | error e => exact parseListMessage_error ..
      | ok items =>
        have few := small _ _ (getRequiredArray_eq_ok_iff.mp found)
        refine (parseListMessage_ok ..).trans ?_
        rw [parseItems_of_small _ _ few]
        change _ = check (items.mapM parseSensorSample >>= fun samples =>
          .ok (⟨envelope, ms, samples⟩ : SampleBatchMessage)) >>= _
        cases items.mapM parseSensorSample <;> rfl

/-- With the arrays counted right, the outputs are those of `parseRoot`. -/
theorem parsePayloadInto_of_small (small : SmallArrays root) :
    parsePayloadInto formatDouble (some root) =
      check (parseRoot formatDouble root) >>= assign := by
  rw [parsePayloadInto, parseRoot]
  cases getRequiredString root (text "type") with
  | error e => rfl
  | ok type =>
    rw [check_ok_bind]
    simp only [bind, Except.bind]
    split_ifs
    · cases read : parseHello formatDouble root <;> simp only [parseHelloInto, read] <;> rfl
    · rw [parseCatalogSnapshotInto_of_small formatDouble small]
      cases parseCatalogSnapshot formatDouble root <;> rfl
    · rw [parseSampleBatchInto_of_small small]
      cases parseSampleBatch root <;> rfl
    · cases read : parseHeartbeat root <;> simp only [parseHeartbeatInto, read] <;> rfl
    · rfl

end Small

/-! ## All or nothing -/

/-- What a call has returned and left in the outputs, for a value that decodes to some
messages and may have a bad element in its array. -/
structure AllOrNothing (Decoded : BridgeMessage → Prop) (HasBad : Prop) (out : Outputs)
    (result : Except Exit Unit × Outputs) : Prop where
  unchanged : result.1 = .error .returnedFalse →
    result.2.message = out.message ∧ result.2.error.bytes ≠ []
  decoded : result.1 = .ok () → Decoded result.2.message
  rejected : HasBad → result.1 = .error .returnedFalse

/-- The count of the array makes no difference: it is the number of the elements, or one
of the elements counted is bad, or all are good and the count is refused. -/
def Counted (Good : Item → Prop) (items : List Item) : Prop :=
  items.length ≤ intMax ∨
    (0 ≤ getArraySize items ∧ ∃ item ∈ items.take (getArraySize items).toNat, ¬ Good item) ∨
      (getArraySize items < 0 ∧ ∀ item ∈ items, Good item)

variable {Decoded : BridgeMessage → Prop} {HasBad : Prop}

theorem AllOrNothing.fail {error : CStr} (nonempty : error.bytes ≠ []) (out : Outputs) :
    AllOrNothing Decoded HasBad out (fail error out) where
  unchanged _ := ⟨rfl, nonempty⟩
  decoded returned := nomatch returned
  rejected _ := rfl

/-- A kind of message without a list. -/
theorem AllOrNothing.check_assign {α : Type} {parse : Except CStr α} {message : α → BridgeMessage}
    (explained : Explained parse) (decodes : ∀ a, parse = .ok a → Decoded (message a))
    (noBad : ¬ HasBad) (out : Outputs) :
    AllOrNothing Decoded HasBad out ((check parse >>= fun a => assign (message a)) out) := by
  cases parse with
  | error e => exact AllOrNothing.fail (explained e rfl) out
  | ok a =>
    exact { unchanged := fun returned => nomatch returned
            decoded := fun _ => decodes a rfl
            rejected := fun bad => absurd bad noBad }

section Counts

variable {α β : Type} {parse : Item → Except CStr α} {items : List Item}
  (bad : HasBad ↔ ∃ item ∈ items, ¬ ∃ entry, parse item = .ok entry) {out : Outputs}

include bad

/-- A count that is refused ends in an exception, which is no rejection. -/
theorem allOrNothing_threw_iff (negative : getArraySize items < 0) :
    AllOrNothing Decoded HasBad out (.error .threw, out) ↔
      Counted (fun item => ∃ entry, parse item = .ok entry) items := by
  have many : ¬ items.length ≤ intMax := fun few => by
    have same := (getArraySize_bounds items).2.mpr few
    omega
  constructor
  · intro result
    refine .inr (.inr ⟨negative, fun item member => ?_⟩)
    by_contra wrong
    exact nomatch result.rejected (bad.mpr ⟨item, member, wrong⟩)
  · rintro (few | ⟨nonneg, -⟩ | ⟨-, good⟩)
    · exact absurd few many
    · exact absurd negative (not_lt.mpr nonneg)
    · refine ⟨(nomatch ·), (nomatch ·), fun wrong => ?_⟩
      obtain ⟨item, member, wrong⟩ := bad.mp wrong
      exact absurd (good item member) wrong

/-- The elements that are counted are read: they must be all. -/
theorem allOrNothing_read_iff {message : BridgeMessage} {entries : List α}
    (decodes : Decoded message ↔
      List.Forall₂ (fun item entry => parse item = .ok entry) items entries)
    (nonneg : 0 ≤ getArraySize items)
    (read : (items.take (getArraySize items).toNat).mapM parse = .ok entries) :
    AllOrNothing Decoded HasBad out (assign message out) ↔
      Counted (fun item => ∃ entry, parse item = .ok entry) items := by
  obtain ⟨atMost, exact⟩ := getArraySize_bounds items
  have good := exists_mapM_eq_ok_iff.mp ⟨entries, read⟩
  have decoded := mapM_eq_ok_iff.mp read
  constructor
  · intro result
    -- as many entries as elements, so none is left uncounted
    have all := decodes.mp (result.decoded rfl)
    have length := decoded.length_eq.trans all.length_eq.symm
    rw [List.length_take] at length
    exact .inl (exact.mp (by omega))
  · rintro (few | ⟨-, item, member, wrong⟩ | ⟨below, -⟩)
    · have whole : items.take (getArraySize items).toNat = items :=
        List.take_of_length_le (by have same := exact.mpr few; omega)
      rw [whole] at good decoded
      refine ⟨(nomatch ·), fun _ => decodes.mpr decoded, fun wrong => ?_⟩
      obtain ⟨item, member, wrong⟩ := bad.mp wrong
      exact absurd (good item member) wrong
    · exact absurd (good item member) wrong
    · exact absurd below (not_lt.mpr nonneg)

/-- A kind of message with a list, from its array on. -/
theorem allOrNothing_items_iff {missing : CStr} {fields : β} {message : β → List α → BridgeMessage}
    (explained : ∀ item, Explained (parse item))
    (decodes : ∀ entries, Decoded (message fields entries) ↔
      List.Forall₂ (fun item entry => parse item = .ok entry) items entries) :
    AllOrNothing Decoded HasBad out
        (parseListMessage (.ok (fields, items)) missing parse message out) ↔
      Counted (fun item => ∃ entry, parse item = .ok entry) items := by
  rw [parseListMessage_ok, parseItems_eq]
  by_cases negative : getArraySize items < 0
  · rw [if_pos negative]
    exact allOrNothing_threw_iff bad negative
  · rw [if_neg negative]
    have nonneg := not_lt.mp negative
    cases read : (items.take (getArraySize items).toNat).mapM parse with
    | error e =>
      -- a bad element among those counted
      have wrong : ∃ item ∈ items.take (getArraySize items).toNat,
          ¬ ∃ entry, parse item = .ok entry := by
        by_contra none
        push Not at none
        obtain ⟨entries, succeeded⟩ := exists_mapM_eq_ok_iff.mpr none
        exact nomatch read.symm.trans succeeded
      refine iff_of_true ?_ (.inr (.inl ⟨nonneg, wrong⟩))
      exact AllOrNothing.fail (FailsWith.mapM explained _ e read) out
    | ok entries => exact allOrNothing_read_iff bad (decodes entries) nonneg read

end Counts

/-- A kind of message with a list: when its other fields are there, the array decides. -/
theorem allOrNothing_list_iff {α β : Type} {head : Except CStr (β × List Item)} {missing : CStr}
    {parse : Item → Except CStr α} {message : β → List α → BridgeMessage}
    (explainedHead : Explained head) (explained : ∀ item, Explained (parse item))
    (decodes : ∀ fields items, head = .ok (fields, items) → ∀ entries,
      Decoded (message fields entries) ↔
        List.Forall₂ (fun item entry => parse item = .ok entry) items entries)
    (bad : ∀ fields items, head = .ok (fields, items) →
      (HasBad ↔ ∃ item ∈ items, ¬ ∃ entry, parse item = .ok entry)) (out : Outputs) :
    AllOrNothing Decoded HasBad out (parseListMessage head missing parse message out) ↔
      ∀ fields items, head = .ok (fields, items) →
        Counted (fun item => ∃ entry, parse item = .ok entry) items := by
  cases head with
  | error e =>
    rw [parseListMessage_error]
    exact iff_of_true (AllOrNothing.fail (explainedHead e rfl) out) fun _ _ read => nomatch read
  | ok parts =>
    obtain ⟨fields, items⟩ := parts
    refine (allOrNothing_items_iff (bad fields items rfl) explained
      (decodes fields items rfl)).trans ?_
    constructor
    · rintro counted _ _ ⟨⟩
      exact counted
    · exact fun counted => counted fields items rfl

/-! ## Bad elements and counted arrays -/

/-- The array of the message has an element that is none. -/
inductive HasBadElement (root : Item) : Prop
  | sensor {items : List Item} {item : Item}
      (type : HasString root (text "type") (text "catalog_snapshot"))
      (array : HasArray root (text "sensors") items) (member : item ∈ items)
      (wrong : ¬ ∃ sensor, DecodesSensor formatDouble item sensor)
  | sample {items : List Item} {item : Item}
      (type : HasString root (text "type") (text "sample_batch"))
      (array : HasArray root (text "samples") items) (member : item ∈ items)
      (wrong : ¬ ∃ sample, DecodesSample item sample)

/-- The array that is reached, after the fields before it, is counted right. -/
structure ArraysCounted (root : Item) : Prop where
  sensors : ∀ envelope items, HasString root (text "type") (text "catalog_snapshot") →
    DecodesEnvelope root envelope → HasArray root (text "sensors") items →
      Counted (fun item => ∃ sensor, DecodesSensor formatDouble item sensor) items
  samples : ∀ envelope ms items, HasString root (text "type") (text "sample_batch") →
    DecodesEnvelope root envelope → HasTimestamp root (text "sample_time_utc") ms →
      HasArray root (text "samples") items →
        Counted (fun item => ∃ sample, DecodesSample item sample) items

theorem HasString.unique {object : Item} {key value value' : CStr}
    (has : HasString object key value) (has' : HasString object key value') : value = value' :=
  Item.string.inj (Option.some.inj (has.symm.trans has'))

theorem HasArray.unique {object : Item} {key : CStr} {items items' : List Item}
    (has : HasArray object key items) (has' : HasArray object key items') : items = items' :=
  Item.array.inj (Option.some.inj (has.symm.trans has'))

theorem catalogHead_eq_ok_iff {root : Item} {envelope : MessageEnvelope} {items : List Item} :
    catalogHead root = .ok (envelope, items) ↔
      DecodesEnvelope root envelope ∧ HasArray root (text "sensors") items := by
  simp only [catalogHead, bind_eq_ok_iff, parseEnvelope_eq_ok_iff, getRequiredArray_eq_ok_iff]
  constructor
  · rintro ⟨_, decodes, _, array, ⟨⟩⟩
    exact ⟨decodes, array⟩
  · rintro ⟨decodes, array⟩
    exact ⟨_, decodes, _, array, rfl⟩

theorem batchHead_eq_ok_iff {root : Item} {envelope : MessageEnvelope} {ms : ℤ}
    {items : List Item} :
    batchHead root = .ok ((envelope, ms), items) ↔
      DecodesEnvelope root envelope ∧ HasTimestamp root (text "sample_time_utc") ms ∧
        HasArray root (text "samples") items := by
  simp only [batchHead, bind_eq_ok_iff, parseEnvelope_eq_ok_iff, getRequiredTimestamp_eq_ok_iff,
    getRequiredArray_eq_ok_iff]
  constructor
  · rintro ⟨_, decodes, _, sampleTime, _, array, ⟨⟩⟩
    exact ⟨decodes, sampleTime, array⟩
  · rintro ⟨decodes, sampleTime, array⟩
    exact ⟨_, decodes, _, sampleTime, _, array, rfl⟩

theorem explained_catalogHead (root : Item) : Explained (catalogHead root) := by
  refine (explained_parseEnvelope root).bind fun envelope => ?_
  refine (explained_getRequiredArray root _).bind fun items => ?_
  exact failsWith_ok _

theorem explained_batchHead (root : Item) : Explained (batchHead root) := by
  refine (explained_parseEnvelope root).bind fun envelope => ?_
  refine (explained_getRequiredTimestamp root _).bind fun sampleTimeUtcMs => ?_
  refine (explained_getRequiredArray root _).bind fun items => ?_
  exact failsWith_ok _

section Kinds

variable {root : Item}

/-- A call on a catalog snapshot. -/
theorem allOrNothing_catalogSnapshot_iff
    (type : HasString root (text "type") (text "catalog_snapshot")) (out : Outputs) :
    AllOrNothing (Decodes formatDouble root) (HasBadElement formatDouble root) out
        (parseCatalogSnapshotInto formatDouble root out) ↔ ArraysCounted formatDouble root := by
  have kinds : text "catalog_snapshot" ≠ text "sample_batch" := by decide
  have decodes : ∀ envelope items, catalogHead root = .ok (envelope, items) → ∀ entries,
      Decodes formatDouble root (.catalogSnapshot ⟨envelope, entries⟩) ↔
        List.Forall₂ (fun item entry => parseCatalogSensor formatDouble item = .ok entry) items
          entries := by
    intro envelope items head entries
    obtain ⟨decodesEnvelope, array⟩ := catalogHead_eq_ok_iff.mp head
    simp only [parseCatalogSensor_eq_ok_iff]
    constructor
    · rintro (_ | ⟨-, -, items', array', each⟩)
      rwa [array.unique array']
    · exact fun each => .catalogSnapshot type ⟨decodesEnvelope, items, array, each⟩
  have bad : ∀ envelope items, catalogHead root = .ok (envelope, items) →
      (HasBadElement formatDouble root ↔
        ∃ item ∈ items, ¬ ∃ entry, parseCatalogSensor formatDouble item = .ok entry) := by
    intro envelope items head
    obtain ⟨-, array⟩ := catalogHead_eq_ok_iff.mp head
    simp only [parseCatalogSensor_eq_ok_iff]
    constructor
    · rintro (⟨-, array', member, wrong⟩ | ⟨other, -, -, -⟩)
      · exact ⟨_, array'.unique array ▸ member, wrong⟩
      · exact absurd (type.unique other) kinds
    · rintro ⟨item, member, wrong⟩
      exact .sensor type array member wrong
  -- the array that is reached is the one of the sensors
  refine (allOrNothing_list_iff (explained_catalogHead root)
    (explained_parseCatalogSensor formatDouble) decodes bad out).trans ?_
  simp only [catalogHead_eq_ok_iff, parseCatalogSensor_eq_ok_iff]
  constructor
  · refine fun counted => ⟨fun envelope items _ decodes array =>
      counted envelope items ⟨decodes, array⟩, ?_⟩
    exact fun _ _ _ other => absurd (type.unique other) kinds
  · exact fun counted envelope items ⟨decodes, array⟩ =>
      counted.sensors envelope items type decodes array

/-- A call on a sample batch. -/
theorem allOrNothing_sampleBatch_iff
    (type : HasString root (text "type") (text "sample_batch")) (out : Outputs) :
    AllOrNothing (Decodes formatDouble root) (HasBadElement formatDouble root) out
        (parseSampleBatchInto root out) ↔ ArraysCounted formatDouble root := by
  have kinds : text "sample_batch" ≠ text "catalog_snapshot" := by decide
  have decodes : ∀ fields items, batchHead root = .ok (fields, items) → ∀ entries,
      Decodes formatDouble root (.sampleBatch ⟨fields.1, fields.2, entries⟩) ↔
        List.Forall₂ (fun item entry => parseSensorSample item = .ok entry) items entries := by
    intro fields items head entries
    obtain ⟨decodesEnvelope, sampleTime, array⟩ := batchHead_eq_ok_iff.mp head
    simp only [parseSensorSample_eq_ok_iff]
    constructor
    · rintro (_ | _ | ⟨-, -, -, items', array', each⟩)
      rwa [array.unique array']
    · exact fun each => .sampleBatch type ⟨decodesEnvelope, sampleTime, items, array, each⟩
  have bad : ∀ fields items, batchHead root = .ok (fields, items) →
      (HasBadElement formatDouble root ↔
        ∃ item ∈ items, ¬ ∃ entry, parseSensorSample item = .ok entry) := by
    intro fields items head
    obtain ⟨-, -, array⟩ := batchHead_eq_ok_iff.mp head
    simp only [parseSensorSample_eq_ok_iff]
    constructor
    · rintro (⟨other, -, -, -⟩ | ⟨-, array', member, wrong⟩)
      · exact absurd (type.unique other) kinds
      · exact ⟨_, array'.unique array ▸ member, wrong⟩
    · rintro ⟨item, member, wrong⟩
      exact .sample type array member wrong
  -- the array that is reached is the one of the samples
  refine (allOrNothing_list_iff (explained_batchHead root) explained_parseSensorSample decodes bad
    out).trans ?_
  simp only [Prod.forall, batchHead_eq_ok_iff, parseSensorSample_eq_ok_iff]
  constructor
  · refine fun counted => ⟨?_, fun envelope ms items _ decodes sampleTime array =>
      counted envelope ms items ⟨decodes, sampleTime, array⟩⟩
    exact fun _ _ other => absurd (type.unique other) kinds
  · exact fun counted envelope ms items ⟨decodes, sampleTime, array⟩ =>
      counted.samples envelope ms items type decodes sampleTime array

/-- A value of another type has no array to count. -/
theorem arraysCounted_of_other {type : CStr} (has : HasString root (text "type") type)
    (noCatalog : type ≠ text "catalog_snapshot") (noBatch : type ≠ text "sample_batch") :
    ArraysCounted formatDouble root where
  sensors _ _ catalog := absurd (has.unique catalog) noCatalog
  samples _ _ _ batch := absurd (has.unique batch) noBatch

theorem not_hasBadElement_of_other {type : CStr} (has : HasString root (text "type") type)
    (noCatalog : type ≠ text "catalog_snapshot") (noBatch : type ≠ text "sample_batch") :
    ¬ HasBadElement formatDouble root := by
  rintro (⟨catalog, -, -, -⟩ | ⟨batch, -, -, -⟩)
  · exact noCatalog (has.unique catalog)
  · exact noBatch (has.unique batch)

end Kinds

/-- Whatever `*out_message` and `*out_error` held before, parsing the value is all or
nothing and keeps every element. -/
def ParsesWhole (payload : Option Item) : Prop :=
  ∀ out, AllOrNothing (fun message => ∃ root ∈ payload, Decodes formatDouble root message)
    (∃ root ∈ payload, HasBadElement formatDouble root) out
    (parsePayloadInto formatDouble payload out)

instance : Nonempty Outputs :=
  ⟨.catalogSnapshot ⟨⟨0, text "", text "", 0⟩, []⟩, text ""⟩

/-- **When parsing is all or nothing and keeps every element**: exactly when the array
that is reached is counted right, which every array of at most `INT_MAX` elements is. -/
theorem parsesWhole_iff (payload : Option Item) :
    ParsesWhole formatDouble payload ↔ ∀ root ∈ payload, ArraysCounted formatDouble root := by
  cases payload with
  | none =>
    refine iff_of_true (fun out => AllOrNothing.fail (by decide) out) ?_
    exact fun root none => nomatch none
  | some root =>
    simp only [ParsesWhole, Option.mem_some_iff, forall_eq', exists_eq_left']
    cases readType : getRequiredString root (text "type") with
    | error e =>
      have none : ∀ type, ¬ HasString root (text "type") type := fun type has =>
        nomatch readType.symm.trans (getRequiredString_eq_ok_iff.mpr has)
      refine iff_of_true (fun out => ?_) ⟨fun _ _ has => absurd has (none _),
        fun _ _ _ has => absurd has (none _)⟩
      rw [parsePayloadInto, readType, check_error_bind]
      exact AllOrNothing.fail (explained_getRequiredString root _ e readType) out
    | ok type =>
      have has := getRequiredString_eq_ok_iff.mp readType
      rw [parsePayloadInto, readType, check_ok_bind]
      split_ifs with hello catalog batch heartbeat
      · subst hello
        refine iff_of_true (fun out => ?_) (arraysCounted_of_other formatDouble has (by decide)
          (by decide))
        exact AllOrNothing.check_assign (explained_parseHello formatDouble root)
          (fun message read => .hello has ((parseHello_eq_ok_iff formatDouble).mp read))
          (not_hasBadElement_of_other formatDouble has (by decide) (by decide)) out
      · subst catalog
        simp only [allOrNothing_catalogSnapshot_iff formatDouble has, forall_const]
      · subst batch
        simp only [allOrNothing_sampleBatch_iff formatDouble has, forall_const]
      · subst heartbeat
        refine iff_of_true (fun out => ?_) (arraysCounted_of_other formatDouble has (by decide)
          (by decide))
        exact AllOrNothing.check_assign (explained_parseHeartbeat root)
          (fun message read => .heartbeat has (parseHeartbeat_eq_ok_iff.mp read))
          (not_hasBadElement_of_other formatDouble has (by decide) (by decide)) out
      · refine iff_of_true (fun out => ?_) (arraysCounted_of_other formatDouble has catalog batch)
        exact AllOrNothing.fail (bytes_append_ne_nil (by decide) type) out

theorem parseListMessage_of_none_counted {α β : Type} {fields : β} {items : List Item}
    {missing : CStr} {parse : Item → Except CStr α} {message : β → List α → BridgeMessage}
    (count : getArraySize items = 0) :
    parseListMessage (.ok (fields, items)) missing parse message = assign (message fields []) := by
  have counted : items.take (getArraySize items).toNat = [] := by
    rw [count]
    exact List.take_zero
  rw [parseListMessage_ok, parseItems_eq, if_neg (by omega), counted, List.mapM_nil]
  exact check_ok_bind _ _

/-- A catalog snapshot without a fault but in its elements. -/
def catalogOf (items : List Item) : Item :=
  .object
    [(text "type", .string (text "catalog_snapshot")), (text "schema_version", .number 1),
      (text "source", .string (text "librehw_bridge")), (text "machine_id", .string (text "pc")),
      (text "sent_at_utc", .string (text "2026-01-01T00:00:00Z")), (text "sensors", .array items)]

/-- As many elements as `int` has values, none of them a sensor, are counted as none. -/
theorem payloads_not_always_parsed_whole :
    ¬ ∀ formatDouble payload, ParsesWhole formatDouble payload := by
  intro always
  obtain ⟨items, many, wrong⟩ : ∃ items : List Item, items.length = 4294967296 ∧
      ∀ item ∈ items, item = .null :=
    ⟨List.replicate 4294967296 .null, List.length_replicate, fun _ => List.eq_of_mem_replicate⟩
  have count : getArraySize items = 0 :=
    (congrArg (fun n : ℕ => (n : ℤ).bmod 4294967296) many).trans Int.bmod_self
  let root := catalogOf items
  have type : HasString root (text "type") (text "catalog_snapshot") := rfl
  have envelope : DecodesEnvelope root ⟨1, text "librehw_bridge", text "pc", 1767225600000⟩ :=
    ⟨⟨1, rfl, by decide +kernel⟩, rfl, rfl, ⟨text "2026-01-01T00:00:00Z", rfl, by decide⟩⟩
  obtain ⟨item, member⟩ := List.exists_mem_of_length_pos (show 0 < items.length by omega)
  have bad : HasBadElement (fun _ => []) root := by
    refine .sensor type rfl member fun ⟨sensor, decodes⟩ => ?_
    obtain ⟨children, object⟩ := decodes.object
    exact nomatch (wrong item member).symm.trans object
  have rejected := (always (fun _ => []) (some root)
    ⟨.catalogSnapshot ⟨⟨0, text "", text "", 0⟩, []⟩, text ""⟩).rejected ⟨root, rfl, bad⟩
  have kind : text "catalog_snapshot" ≠ text "hello" := by decide
  have head := catalogHead_eq_ok_iff.mpr ⟨envelope, (rfl : HasArray root (text "sensors") items)⟩
  rw [parsePayloadInto, getRequiredString_eq_ok_iff.mpr type, check_ok_bind, if_neg kind,
    if_pos rfl, parseCatalogSnapshotInto, head, parseListMessage_of_none_counted count] at rejected
  exact nomatch rejected

end CapacityAgent

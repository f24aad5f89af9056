/-
# Messages in UTF-8

What a line in UTF-8 is parsed to holds UTF-8 strings only, and the JSON it carries on is
JSON: the texts that the parser prints again of `capabilities` and `properties`.
-/

import CapacityAgent.CJson.ParsedText

namespace CapacityAgent

open CJson (Item getObjectItemCaseSensitive)
open Json (Denotes)
open Utf8 (Encoded)

/-! ## Texts -/

/-- The string is UTF-8. -/
def CStr.IsUtf8 (s : CStr) : Prop := Encoded s.bytes

/-- The string is a JSON text. -/
def CStr.IsJson (s : CStr) : Prop := ∃ said, Denotes s.bytes said

theorem encoded_of_ascii {s : Bytes} (ascii : ∀ b ∈ s, b.toNat < 128) : Encoded s := by
  induction s with
  | nil => exact Utf8.encoded_nil
  | cons b rest ih =>
    obtain ⟨first, later⟩ := List.forall_mem_cons.mp ascii
    have char : String.utf8EncodeChar (Char.ofNat b.toNat) = [b] := by
      have code : (Char.ofNat b.toNat).toNat = b.toNat := by
        rw [Char.ofNat, dif_pos (.inl (by omega))]
        rfl
      rw [Utf8.encodeChar_of_ascii (code.trans_lt first), Utf8.byte, code]
      simp
    have whole : b :: rest = String.utf8EncodeChar (Char.ofNat b.toNat) ++ rest := by rw [char]; rfl
    exact whole ▸ (Utf8.encoded_char _).append (ih later)

/-- The string is ASCII. -/
def CStr.isAscii (s : CStr) : Bool := s.bytes.all fun b => b.toNat < 128

/-- A text of the source is ASCII. -/
theorem isUtf8_text {s : String} (ascii : (text s).isAscii = true) : (text s).IsUtf8 :=
  encoded_of_ascii fun b member => of_decide_eq_true (List.all_eq_true.mp ascii b member)

theorem CStr.IsUtf8.append {s t : CStr} (first : s.IsUtf8) (second : t.IsUtf8) :
    (s ++ t).IsUtf8 :=
  Encoded.append first second

/-- The text of an integer is ASCII. -/
theorem isUtf8_decimalText (n : ℤ) : (decimalText n).IsUtf8 := by
  have ascii : ∀ b ∈ decimal n, b.toNat < 128 := by
    rw [decimal_eq_text]
    refine (Json.Number.ofInt n).forall_mem_text (fun d => ?_) (by decide +kernel)
    revert d
    decide
  exact encoded_of_ascii fun b member => ascii b ((List.takeWhile_sublist _).subset member)

/-! ## Messages -/

structure MessageEnvelope.Textual (envelope : MessageEnvelope) : Prop where
  source : envelope.source.IsUtf8
  machineId : envelope.machineId.IsUtf8

structure HelloMessage.Textual (message : HelloMessage) : Prop where
  envelope : message.envelope.Textual
  bridgeVersion : message.bridgeVersion.IsUtf8
  hostname : message.hostname.IsUtf8
  capabilities : message.capabilitiesJson.bytes = [] ∨ message.capabilitiesJson.IsJson

structure CatalogSensor.Textual (sensor : CatalogSensor) : Prop where
  sensorUid : sensor.sensorUid.IsUtf8
  hardwareUid : sensor.hardwareUid.IsUtf8
  hardwarePath : sensor.hardwarePath.IsUtf8
  hardwareName : sensor.hardwareName.IsUtf8
  hardwareType : sensor.hardwareType.IsUtf8
  sensorPath : sensor.sensorPath.IsUtf8
  sensorName : sensor.sensorName.IsUtf8
  sensorType : sensor.sensorType.IsUtf8
  unit : sensor.unit.IsUtf8
  properties : sensor.propertiesJson.bytes = [] ∨ sensor.propertiesJson.IsJson

structure SensorSample.Textual (sample : SensorSample) : Prop where
  sensorUid : sample.sensorUid.IsUtf8
  quality : sample.quality.IsUtf8

/-- The strings of a message are UTF-8, and its JSON is JSON. -/
inductive BridgeMessage.Textual : BridgeMessage → Prop
  | hello {message : HelloMessage} (body : message.Textual) : Textual (.hello message)
  | catalogSnapshot {message : CatalogSnapshotMessage} (envelope : message.envelope.Textual)
      (sensors : ∀ sensor ∈ message.sensors, sensor.Textual) : Textual (.catalogSnapshot message)
  | sampleBatch {message : SampleBatchMessage} (envelope : message.envelope.Textual)
      (samples : ∀ sample ∈ message.samples, sample.Textual) : Textual (.sampleBatch message)
  | heartbeat {message : HeartbeatMessage} (envelope : message.envelope.Textual)
      (status : message.status.IsUtf8) : Textual (.heartbeat message)

theorem BridgeMessage.Textual.envelope {message : BridgeMessage} (textual : message.Textual) :
    message.envelope.Textual := by
  cases textual with
  | hello body => exact body.envelope
  | catalogSnapshot envelope => exact envelope
  | sampleBatch envelope => exact envelope
  | heartbeat envelope => exact envelope

/-! ## Parsing -/

section Fields

variable {root : Item}

theorem HasString.isUtf8 {key value : CStr} (textual : root.Textual)
    (has : HasString root key value) : value.IsUtf8 :=
  CJson.textual_of_getObjectItem textual has

/-- What is printed again of a value that was read. -/
theorem isJson_getCompactString (textual : root.Textual) (key : CStr) :
    (getCompactString CJson.formatDouble root key).bytes = [] ∨
      (getCompactString CJson.formatDouble root key).IsJson := by
  unfold getCompactString
  cases found : getObjectItemCaseSensitive root key with
  | none => exact .inl rfl
  | some item =>
    have printed := CJson.denotes_printUnformatted (CJson.textual_of_getObjectItem textual found)
    exact .inr ⟨item.shown, printed⟩

theorem textual_of_hasArray {key : CStr} {items : List Item} (textual : root.Textual)
    (has : HasArray root key items) : ∀ item ∈ items, item.Textual :=
  CJson.elementsTextual_iff.mp (CJson.textual_of_getObjectItem textual has)

theorem DecodesEnvelope.textual {envelope : MessageEnvelope} (textual : root.Textual)
    (decodes : DecodesEnvelope root envelope) : envelope.Textual where
  source := decodes.source.isUtf8 textual
  machineId := decodes.machineId.isUtf8 textual

theorem DecodesHello.textual {message : HelloMessage} (textual : root.Textual)
    (decodes : DecodesHello CJson.formatDouble root message) : message.Textual where
  envelope := decodes.envelope.textual textual
  bridgeVersion := decodes.bridgeVersion.isUtf8 textual
  hostname := decodes.hostname.isUtf8 textual
  capabilities := by
    rw [decodes.capabilitiesJson]
    exact isJson_getCompactString textual _

theorem DecodesSensor.textual {sensor : CatalogSensor} (textual : root.Textual)
    (decodes : DecodesSensor CJson.formatDouble root sensor) : sensor.Textual where
  sensorUid := decodes.sensorUid.isUtf8 textual
  hardwareUid := decodes.hardwareUid.isUtf8 textual
  hardwarePath := decodes.hardwarePath.isUtf8 textual
  hardwareName := decodes.hardwareName.isUtf8 textual
  hardwareType := decodes.hardwareType.isUtf8 textual
  sensorPath := decodes.sensorPath.isUtf8 textual
  sensorName := decodes.sensorName.isUtf8 textual
  sensorType := decodes.sensorType.isUtf8 textual
  unit := decodes.unit.isUtf8 textual
  properties := by
    rw [decodes.propertiesJson]
    exact isJson_getCompactString textual _

theorem DecodesSample.textual {sample : SensorSample} (textual : root.Textual)
    (decodes : DecodesSample root sample) : sample.Textual where
  sensorUid := decodes.sensorUid.isUtf8 textual
  quality := decodes.quality.isUtf8 textual

/-- The elements of an array that are parsed one by one. -/
theorem forall_of_mapM {β : Type} {P : β → Prop} {check : Item → Except CStr β}
    {items : List Item} {entries : List β} (textual : ∀ item ∈ items, item.Textual)
    (each : ∀ {item : Item} {entry}, item.Textual → check item = .ok entry → P entry)
    (parsed : items.mapM check = .ok entries) : ∀ entry ∈ entries, P entry := by
  have pairs := Checks.mapM_eq_ok_iff.mp parsed
  clear parsed
  induction pairs with
  | nil => exact List.forall_mem_nil _
  | cons first _ ih =>
    obtain ⟨here, there⟩ := List.forall_mem_cons.mp textual
    exact List.forall_mem_cons.mpr ⟨each here first, ih there⟩

theorem textual_of_parseRoot {message : BridgeMessage} (textual : root.Textual)
    (parsed : parseRoot CJson.formatDouble root = .ok message) : message.Textual := by
  rw [parseRoot] at parsed
  obtain ⟨type, -, parsed⟩ := Checks.bind_eq_ok_iff.mp parsed
  split_ifs at parsed
  · obtain ⟨hello, decoded, rfl⟩ := Checks.map_eq_ok_iff.mp parsed
    exact .hello (((parseHello_eq_ok_iff _).mp decoded).textual textual)
  · obtain ⟨catalog, decoded, rfl⟩ := Checks.map_eq_ok_iff.mp parsed
    simp only [parseCatalogSnapshot, Checks.bind_eq_ok_iff, parseEnvelope_eq_ok_iff,
      getRequiredArray_eq_ok_iff] at decoded
    obtain ⟨envelope, decodes, items, array, sensors, each, ⟨⟩⟩ := decoded
    refine .catalogSnapshot (decodes.textual textual) ?_
    exact forall_of_mapM (textual_of_hasArray textual array)
      (fun here one => ((parseCatalogSensor_eq_ok_iff _).mp one).textual here) each
  · obtain ⟨batch, decoded, rfl⟩ := Checks.map_eq_ok_iff.mp parsed
    simp only [parseSampleBatch, Checks.bind_eq_ok_iff, parseEnvelope_eq_ok_iff,
      getRequiredArray_eq_ok_iff] at decoded
    obtain ⟨envelope, decodes, time, -, items, array, samples, each, ⟨⟩⟩ := decoded
    refine .sampleBatch (decodes.textual textual) ?_
    exact forall_of_mapM (textual_of_hasArray textual array)
      (fun here one => (parseSensorSample_eq_ok_iff.mp one).textual here) each
  · obtain ⟨beat, decoded, rfl⟩ := Checks.map_eq_ok_iff.mp parsed
    have decodes := parseHeartbeat_eq_ok_iff.mp decoded
    exact .heartbeat (decodes.envelope.textual textual) (decodes.status.isUtf8 textual)

end Fields

/-- **What is parsed of a line in UTF-8 is UTF-8, and its JSON is JSON.** -/
theorem textual_of_parseBridgeMessage {line : Bytes} {message : BridgeMessage}
    (encoded : Encoded line)
    (parsed : parseBridgeMessage CJson.formatDouble line = .ok message) : message.Textual := by
  rw [parseBridgeMessage] at parsed
  cases read : CJson.parse (CStr.ofBytes line) with
  | none =>
    rw [read] at parsed
    exact absurd parsed (by simp)
  | some root =>
    rw [read] at parsed
    exact textual_of_parseRoot (CJson.textual_of_parse encoded read) parsed

end CapacityAgent

/-
# The stored JSON of a hello message

The texts `sqlite_store.cpp` writes by hand for a hello message are JSON objects that say what
the message says. The escaper writes every byte as cJSON's printer does, so its strings
are strings of the JSON grammar as long as the bytes are in UTF-8.
-/

import CapacityAgent.CJson.Encoded
import CapacityAgent.CJson.Print
import CapacityAgent.Library.JsonScalars
import CapacityAgent.Parser.Decoding
import CapacityAgent.Store.ExtraJson

namespace CapacityAgent

open CJson (Item getObjectItemCaseSensitive printUnformatted)
open Json (Datum Denotes IsObject Member Number stringText)
open Utf8 (Encoded)

/-! ## The escaper -/

/-- `JsonEscape` writes a byte as `print_string_ptr` does. -/
theorem jsonEscapeByte_eq_escapeByte (ch : UInt8) : jsonEscapeByte ch = CJson.escapeByte ch := by
  have all : ∀ n : Fin 256, jsonEscapeByte (UInt8.ofNat n) = CJson.escapeByte (UInt8.ofNat n) := by
    decide +kernel
  simpa using all ⟨ch.toNat, ch.toNat_lt⟩

theorem jsonString_encode (chars : List Char) :
    jsonString (Utf8.encode chars) = stringText CJson.encoder chars := by
  rw [jsonString, jsonEscape, List.flatMap_congr fun ch _ => jsonEscapeByte_eq_escapeByte ch,
    stringText, Utf8.encode, List.flatMap_assoc]
  rfl

/-- A string written by hand says its bytes. -/
theorem denotes_jsonString {s : Bytes} (encoded : Encoded s) :
    Denotes (jsonString s) (.string s) := by
  obtain ⟨chars, rfl⟩ := encoded
  rw [jsonString_encode]
  exact Json.denotes_stringText CJson.encoder chars

/-! ## Integers -/

theorem map_digitByte_decimalDigits (n : ℕ) :
    (decimalDigits n).map digitByte = Json.digitsText (Json.natDigits n) := by
  unfold decimalDigits Json.natDigits
  split_ifs with zero
  · rfl
  · rw [Json.digitsText, List.map_reverse, List.map_reverse, List.map_map]
    congr 1
    refine List.map_congr_left fun d member => ?_
    have small : d < 10 := Nat.digits_lt_base (by omega) member
    rw [Function.comp_apply, Json.Digit.toByte, digitByte]
    exact congrArg (fun k => (48 + k).toUInt8) (Nat.mod_eq_of_lt small).symm

theorem decimal_eq_text (n : ℤ) : decimal n = (Number.ofInt n).text := by
  cases n with
  | ofNat n =>
    have digits := map_digitByte_decimalDigits n
    have positive : ¬ (n : ℤ) < 0 := not_lt.mpr (Int.natCast_nonneg n)
    simpa [decimal, Number.text, Number.signText, Number.fractionText, Number.exponentText,
      Number.ofInt, positive] using digits
  | negSucc n =>
    have digits := map_digitByte_decimalDigits (n + 1)
    have negative : Int.negSucc n < 0 := Int.negSucc_lt_zero n
    simpa [decimal, Number.text, Number.signText, Number.fractionText, Number.exponentText,
      Number.ofInt, negative] using digits

/-- The text of an integer says the integer. -/
theorem denotes_decimal (n : ℤ) : Denotes (decimal n) (.number n) := by
  have denotes := Json.denotes_number (Number.ofInt n)
  rwa [← decimal_eq_text, Number.value_ofInt] at denotes

/-! ## Parsed values -/

mutual

/-- What an item of cJSON stands for. -/
def datumOf : Item → Datum
  | .null => .null
  | .bool value => .bool value
  | .number valuedouble => .number valuedouble
  | .string valuestring => .string valuestring.bytes
  | .array children => .array (datumsOf children)
  | .object children => .object (membersDatum children)

def datumsOf : List Item → List Datum
  | [] => []
  | item :: rest => datumOf item :: datumsOf rest

def membersDatum : List (CStr × Item) → List (Bytes × Datum)
  | [] => []
  | (name, item) :: rest => (name.bytes, datumOf item) :: membersDatum rest

end

/-! ## Members -/

/-- There is nothing to escape in the key, so that the source writes it as it is. -/
def IsKey (key : String) : Prop :=
  key.toList.flatMap CJson.encoder.escape = lit key ∧ Utf8.encode key.toList = lit key

instance : DecidablePred IsKey := fun key =>
  inferInstanceAs (Decidable (key.toList.flatMap CJson.encoder.escape = lit key ∧
    Utf8.encode key.toList = lit key))

/-- The member with a text for its value. -/
def memberOf (key : String) (text : Bytes) (said : Datum) : Member where
  body := lit key
  text := text
  name := lit key
  datum := said

theorem IsKey.sound {key : String} (isKey : IsKey key) {text : Bytes} {said : Datum}
    (denotes : Denotes text said) : (memberOf key text said).Sound where
  string := by
    have string := Json.stringBody_text CJson.encoder key.toList
    rwa [isKey.1] at string
  named := by
    have decoded := Json.decodeBody_text CJson.encoder key.toList
    rwa [isKey.1, isKey.2] at decoded
  denotes := denotes

/-- A stored text is one JSON object of exactly these members. -/
structure Stores (stored : CStr) (members : List (Bytes × Datum)) : Prop where
  object : IsObject .json stored.bytes
  denotes : Denotes stored.bytes (.object members)

theorem stores_objectText {first : Member} {rest : List Member} (sound : first.Sound)
    (sounds : ∀ m ∈ rest, m.Sound) :
    Stores (CStr.ofBytes (Json.objectText first rest)) ((first :: rest).map Member.said) := by
  have denotes := Json.denotes_objectText sound sounds
  -- a JSON text holds no NUL, so the C string is all of it
  have whole := CStr.ofBytes_bytes_of_notMem denotes.valid.zero_notMem
  exact ⟨whole.symm ▸ Json.objectText_isObject sound sounds, whole.symm ▸ denotes⟩

/-! ## Hello messages -/

section Hello

variable (message : HelloMessage)

/-- The members of the machine row. -/
def machineMembers : List (Bytes × Datum) :=
  [(lit "bridge_source", .string message.envelope.source.bytes),
    (lit "bridge_version", .string message.bridgeVersion.bytes)]

/-- The members of the hello row but for the capabilities. -/
def helloMembers : List (Bytes × Datum) :=
  [(lit "hostname", .string message.hostname.bytes),
    (lit "bridge_version", .string message.bridgeVersion.bytes), (lit "pid", .number message.pid),
    (lit "sample_interval_ms", .number message.sampleIntervalMs)]

variable {message}

theorem stores_buildMachineExtraJson (source : Encoded message.envelope.source.bytes)
    (version : Encoded message.bridgeVersion.bytes) :
    Stores (buildMachineExtraJson message) (machineMembers message) := by
  have sourceKey : IsKey "bridge_source" := by decide +kernel
  have versionKey : IsKey "bridge_version" := by decide +kernel
  have stores := stores_objectText (sourceKey.sound (denotes_jsonString source))
    (List.forall_mem_singleton.mpr (versionKey.sound (denotes_jsonString version)))
  have start : lit "\x7b\"bridge_source\":" =
      byte '{' :: (Json.quoted (lit "bridge_source") ++ [byte ':']) := by decide +kernel
  have later : lit ",\"bridge_version\":" =
      byte ',' :: (Json.quoted (lit "bridge_version") ++ [byte ':']) := by decide +kernel
  have ending : lit "\x7d" = [byte '}'] := by decide +kernel
  simpa [buildMachineExtraJson, start, later, ending, Json.objectText, Json.joinMembers,
    Member.written, Member.said, memberOf, machineMembers] using stores

/-- The hello row, with the capabilities where there are any. -/
theorem stores_buildHelloExtraJson (hostname : Encoded message.hostname.bytes)
    (version : Encoded message.bridgeVersion.bytes) {capabilities : Option Datum}
    (absent : capabilities = none → message.capabilitiesJson.bytes = [])
    (denotes : ∀ said ∈ capabilities, Denotes message.capabilitiesJson.bytes said) :
    Stores (buildHelloExtraJson message)
      (helloMembers message ++ capabilities.toList.map fun said => (lit "capabilities", said)) := by
  have hostnameKey : IsKey "hostname" := by decide +kernel
  have versionKey : IsKey "bridge_version" := by decide +kernel
  have pidKey : IsKey "pid" := by decide +kernel
  have intervalKey : IsKey "sample_interval_ms" := by decide +kernel
  have capabilitiesKey : IsKey "capabilities" := by decide +kernel
  have start : lit "\x7b\"hostname\":" =
      byte '{' :: (Json.quoted (lit "hostname") ++ [byte ':']) := by decide +kernel
  have atVersion : lit ",\"bridge_version\":" =
      byte ',' :: (Json.quoted (lit "bridge_version") ++ [byte ':']) := by decide +kernel
  have atPid : lit ",\"pid\":" = byte ',' :: (Json.quoted (lit "pid") ++ [byte ':']) := by
    decide +kernel
  have atInterval : lit ",\"sample_interval_ms\":" =
      byte ',' :: (Json.quoted (lit "sample_interval_ms") ++ [byte ':']) := by decide +kernel
  have atCapabilities : lit ",\"capabilities\":" =
      byte ',' :: (Json.quoted (lit "capabilities") ++ [byte ':']) := by decide +kernel
  have ending : lit "\x7d" = [byte '}'] := by decide +kernel
  have first := hostnameKey.sound (denotes_jsonString hostname)
  have others : ∀ m ∈ [memberOf "bridge_version" (jsonString message.bridgeVersion.bytes)
        (.string message.bridgeVersion.bytes), memberOf "pid" (decimal message.pid)
        (.number message.pid), memberOf "sample_interval_ms" (decimal message.sampleIntervalMs)
        (.number message.sampleIntervalMs)], m.Sound := by
    simp only [List.forall_mem_cons]
    exact ⟨versionKey.sound (denotes_jsonString version), pidKey.sound (denotes_decimal _),
      intervalKey.sound (denotes_decimal _), List.forall_mem_nil _⟩
  cases capabilities with
  | none =>
    have empty := absent rfl
    have stores := stores_objectText first others
    simpa [buildHelloExtraJson, empty, start, atVersion, atPid, atInterval, ending,
      Json.objectText, Json.joinMembers, Member.written, Member.said, memberOf, helloMembers]
      using stores
  | some said =>
    have denotes := denotes said rfl
    have present : message.capabilitiesJson.bytes ≠ [] := by
      intro empty
      rw [empty] at denotes
      have nothing : Json.decode [] = none := rfl
      exact absurd (nothing.symm.trans denotes.decodes) (by simp)
    have last := capabilitiesKey.sound denotes
    have stores := stores_objectText first
      (List.forall_mem_append.mpr ⟨others, List.forall_mem_singleton.mpr last⟩)
    simpa [buildHelloExtraJson, present, start, atVersion, atPid, atInterval, atCapabilities,
      ending, Json.objectText, Json.joinMembers, Member.written, Member.said, memberOf,
      helloMembers] using stores

end Hello

/-! ## Lines -/

section Lines

variable {formatDouble : Double → Bytes}

theorem decodesHello_of_parseBridgeMessage {line : Bytes} {message : HelloMessage} {root : Item}
    (parsed : CJson.parse (CStr.ofBytes line) = some root)
    (produced : parseBridgeMessage formatDouble line = .ok (.hello message)) :
    DecodesHello formatDouble root message := by
  rw [parseBridgeMessage, parsed] at produced
  obtain ⟨type, -, produced⟩ := Checks.bind_eq_ok_iff.mp produced
  split_ifs at produced
  · obtain ⟨message', decoded, same⟩ := Checks.map_eq_ok_iff.mp produced
    obtain rfl := BridgeMessage.hello.inj same
    exact (parseHello_eq_ok_iff formatDouble).mp decoded
  · obtain ⟨_, -, same⟩ := Checks.map_eq_ok_iff.mp produced
    exact nomatch same
  · obtain ⟨_, -, same⟩ := Checks.map_eq_ok_iff.mp produced
    exact nomatch same
  · obtain ⟨_, -, same⟩ := Checks.map_eq_ok_iff.mp produced
    exact nomatch same

/-- **Stored JSON is well formed and faithful**: the texts for the hello message of a line in
UTF-8 are objects with the fields of the message, and with the value parsed from `capabilities`
where the line has it, if `cJSON_PrintUnformatted` prints that value. -/
theorem extraJson_faithful {line : Bytes} {message : HelloMessage} {root : Item}
    (encoded : Encoded line) (parsed : CJson.parse (CStr.ofBytes line) = some root)
    (produced : parseBridgeMessage formatDouble line = .ok (.hello message))
    (prints : ∀ item ∈ getObjectItemCaseSensitive root (text "capabilities"),
      Denotes (printUnformatted formatDouble item).bytes (datumOf item)) :
    Stores (buildMachineExtraJson message) (machineMembers message) ∧
      Stores (buildHelloExtraJson message) (helloMembers message ++
        (getObjectItemCaseSensitive root (text "capabilities")).toList.map fun item =>
          (lit "capabilities", datumOf item)) := by
  have decodes := decodesHello_of_parseBridgeMessage parsed produced
  have utf8 : ∀ {key value}, HasString root key value → Encoded value.bytes :=
    CJson.encoded_of_getObjectItem encoded parsed
  have version := utf8 decodes.bridgeVersion
  have capabilities := decodes.capabilitiesJson
  refine ⟨stores_buildMachineExtraJson (utf8 decodes.envelope.source) version, ?_⟩
  rw [getCompactString] at capabilities
  cases found : getObjectItemCaseSensitive root (text "capabilities") with
  | none =>
    rw [found] at capabilities
    have noText : (none : Option Datum) = none → message.capabilitiesJson.bytes = [] := fun _ => by
      rw [capabilities]
      rfl
    exact stores_buildHelloExtraJson (utf8 decodes.hostname) version noText nofun
  | some item =>
    rw [found] at capabilities prints
    have printed : ∀ said ∈ some (datumOf item), Denotes message.capabilitiesJson.bytes said := by
      rintro _ ⟨⟩
      rw [capabilities]
      exact prints item rfl
    have present : some (datumOf item) = none → message.capabilitiesJson.bytes = [] := nofun
    exact stores_buildHelloExtraJson (utf8 decodes.hostname) version present printed

/-- A hello whose source holds a quote and whose version holds a backslash and a line feed. -/
def quotedHello : Json.Value :=
  .object [("type".toList, .string "hello".toList),
    ("schema_version".toList, .number (Number.ofInt 1)),
    ("source".toList, .string "librehw \"bridge\"".toList),
    ("machine_id".toList, .string "pc".toList),
    ("sent_at_utc".toList, .string "2026-01-01T00:00:00Z".toList),
    ("bridge_version".toList, .string "1\\2\n3".toList),
    ("hostname".toList, .string "bureau-é".toList), ("pid".toList, .number (Number.ofInt 42)),
    ("sample_interval_ms".toList, .number (Number.ofInt 1000)),
    ("capabilities".toList, .object [("fan".toList, .bool true)])]

/-- The characters of its text. -/
def quotedHelloLine : List Char :=
  ["\x7b\"type\":\"hello\",\"schema_version\":1,", "\"source\":\"librehw \\\"bridge\\\"\",",
    "\"machine_id\":\"pc\",", "\"sent_at_utc\":\"2026-01-01T00:00:00Z\",",
    "\"bridge_version\":\"1\\\\2\\n3\",", "\"hostname\":\"bureau-é\",\"pid\":42,",
    "\"sample_interval_ms\":1000,", "\"capabilities\":\x7b\"fan\":true\x7d\x7d"].flatMap
    String.toList

def quotedHelloMessage : HelloMessage where
  envelope := ⟨1, text "librehw \"bridge\"", text "pc", 1767225600000⟩
  bridgeVersion := text "1\\2\n3"
  hostname := CStr.ofBytes (Utf8.encode "bureau-é".toList)
  pid := 42
  sampleIntervalMs := 1000
  capabilitiesJson := text "\x7b\"fan\":true\x7d"

theorem extraJson_faithful_quoted :
    Stores (buildMachineExtraJson quotedHelloMessage) (machineMembers quotedHelloMessage) ∧
      Stores (buildHelloExtraJson quotedHelloMessage) (helloMembers quotedHelloMessage ++
        [(lit "capabilities", .object [(lit "fan", .bool true)])]) := by
  have short : ∀ n : ℤ, n.natAbs < 10 ^ 4 → (Number.ofInt n).text.length ≤ 63 := fun n small =>
    (Number.length_text_ofInt_le (by decide) small).trans (by decide)
  have fits : CJson.Fits quotedHello :=
    ⟨trivial, short 1 (by decide), trivial, trivial, trivial, trivial, trivial,
      short 42 (by decide), short 1000 (by decide), ⟨trivial, trivial⟩, trivial⟩
  have parsed := CJson.parse_document CJson.encoder fits (by decide +kernel)
  rw [← CStr.ofBytes_bytes (CJson.document CJson.encoder quotedHello)] at parsed
  have produced : parseBridgeMessage (fun _ => [])
      (CJson.document CJson.encoder quotedHello).bytes = .ok (.hello quotedHelloMessage) := by
    rw [parseBridgeMessage, parsed]
    exact congrArg Except.ok (by decide +kernel)
  have encoded : Encoded (CJson.document CJson.encoder quotedHello).bytes :=
    ⟨quotedHelloLine, by decide +kernel⟩
  have found : getObjectItemCaseSensitive (CJson.itemOf quotedHello) (text "capabilities") =
      some (.object [(text "fan", .bool true)]) := rfl
  have fan : (memberOf "fan" (lit "true") (.bool true)).Sound :=
    IsKey.sound (by decide +kernel) (Json.denotes_word (.inl (by decide)) rfl)
  have prints : Denotes (printUnformatted (fun _ => []) (.object [(text "fan", .bool true)])).bytes
      (datumOf (.object [(text "fan", .bool true)])) :=
    Json.denotes_objectText fan (List.forall_mem_nil _)
  have stores := extraJson_faithful encoded parsed produced (by
    rw [found]
    rintro _ ⟨⟩
    exact prints)
  rwa [found] at stores

end Lines

end CapacityAgent

/-
# The fields of a message

What `ParseBridgeMessage` makes of a line is decided by the fields it asks for: not by the
layout of the line, the escapes of its strings, the order of the members or members it does
not know.
-/

import CapacityAgent.CJson.Reading
import CapacityAgent.Library.JsonCompact
import CapacityAgent.Parser.BridgeMessage

namespace CapacityAgent

open CJson (Item LineDenotes childrenOfData getObjectItemCaseSensitive itemOfDatum itemsOfData)
open Json (Datum)

/-! ## Fields -/

/-- The first member of that name; cJSON sees a name up to its first NUL. -/
def named (key : CStr) : Datum → Option Datum
  | .object members => (members.find? fun member => CStr.ofBytes member.1 = key).map Prod.snd
  | _ => none

def isObject : Datum → Bool
  | .object _ => true
  | _ => false

/-- The fields that a message, a sensor and a sample are asked for, the lists apart. -/
def messageFields : List String :=
  ["type", "schema_version", "source", "machine_id", "sent_at_utc", "bridge_version", "hostname",
    "pid", "sample_interval_ms", "capabilities", "sample_time_utc", "status", "uptime_s",
    "catalog_count"]

def sensorFields : List String :=
  ["sensor_uid", "hardware_uid", "hardware_path", "hardware_name", "hardware_type", "sensor_path",
    "sensor_name", "sensor_type", "sensor_index", "unit", "is_default_hidden", "properties"]

def sampleFields : List String := ["sensor_uid", "quality", "value", "min", "max"]

/-- These fields are the same. -/
def SameFields (fields : List String) (d d' : Datum) : Prop :=
  ∀ field ∈ fields, named (text field) d = named (text field) d'

/-- Two elements of a list have the same fields, or both are no objects. -/
def SameEntry (fields : List String) (d d' : Datum) : Prop :=
  isObject d = isObject d' ∧ SameFields fields d d'

/-- Two lists have the same entries, or neither is a list. -/
inductive SameEntries (fields : List String) : Option Datum → Option Datum → Prop
  | arrays {items items' : List Datum} (each : List.Forall₂ (SameEntry fields) items items') :
      SameEntries fields (some (.array items)) (some (.array items'))
  | others {d d' : Option Datum} (noArray : ∀ items, d ≠ some (.array items))
      (noArray' : ∀ items, d' ≠ some (.array items)) : SameEntries fields d d'

/-- The same message, as far as the parser asks. -/
structure Alike (d d' : Datum) : Prop where
  fields : SameFields messageFields d d'
  sensors : SameEntries sensorFields (named (text "sensors") d) (named (text "sensors") d')
  samples : SameEntries sampleFields (named (text "samples") d) (named (text "samples") d')

/-! ## Lookups -/

theorem getObjectItemCaseSensitive_itemOfDatum (d : Datum) (key : CStr) :
    getObjectItemCaseSensitive (itemOfDatum d) key = (named key d).map itemOfDatum := by
  cases d with
  | object members =>
    rw [itemOfDatum, getObjectItemCaseSensitive, named]
    induction members with
    | nil => rfl
    | cons member rest ih =>
      rw [childrenOfData, List.find?_cons, List.find?_cons]
      by_cases own : CStr.ofBytes member.1 = key
      · simp [own]
      · simpa [own] using ih
  | _ => rfl

theorem SameFields.lookups {fields : List String} {d d' : Datum} (same : SameFields fields d d') :
    ∀ field ∈ fields, getObjectItemCaseSensitive (itemOfDatum d) (text field) =
      getObjectItemCaseSensitive (itemOfDatum d') (text field) := by
  intro field asked
  rw [getObjectItemCaseSensitive_itemOfDatum, getObjectItemCaseSensitive_itemOfDatum,
    same field asked]

theorem requireObject_itemOfDatum (error : CStr) (d : Datum) :
    requireObject error (itemOfDatum d) = if isObject d then .ok () else .error error := by
  cases d <;> rfl

theorem mapM_itemsOfData {α : Type} {fields : List String} {parse : Item → Except CStr α}
    (decided : ∀ d d', SameEntry fields d d' → parse (itemOfDatum d) = parse (itemOfDatum d'))
    {items items' : List Datum} (each : List.Forall₂ (SameEntry fields) items items') :
    (itemsOfData items).mapM parse = (itemsOfData items').mapM parse := by
  induction each with
  | nil => rfl
  | cons first rest ih =>
    rw [itemsOfData, itemsOfData, List.mapM_cons, List.mapM_cons, decided _ _ first, ih]

theorem getRequiredArray_of_array {d : Datum} {key : CStr} {items : List Datum}
    (found : named key d = some (.array items)) :
    getRequiredArray (itemOfDatum d) key = .ok (itemsOfData items) := by
  rw [getRequiredArray, getObjectItemCaseSensitive_itemOfDatum, found]
  rfl

theorem getRequiredArray_of_other {d : Datum} {key : CStr}
    (noArray : ∀ items, named key d ≠ some (.array items)) :
    getRequiredArray (itemOfDatum d) key =
      .error (text "Missing or invalid array field: " ++ key) := by
  rw [getRequiredArray, getObjectItemCaseSensitive_itemOfDatum]
  cases found : named key d with
  | none => rfl
  | some other =>
    cases other with
    | array items => exact absurd found (noArray items)
    | _ => rfl

/-- A list of entries that are parsed alike. -/
theorem getRequiredArray_bind {α β : Type} {fields : List String} {parse : Item → Except CStr α}
    (decided : ∀ d d', SameEntry fields d d' → parse (itemOfDatum d) = parse (itemOfDatum d'))
    {d d' : Datum} {key : CStr} (same : SameEntries fields (named key d) (named key d'))
    (whole : List α → Except CStr β) :
    (getRequiredArray (itemOfDatum d) key >>= fun items => items.mapM parse >>= whole) =
      getRequiredArray (itemOfDatum d') key >>= fun items => items.mapM parse >>= whole := by
  generalize found : named key d = entries at same
  generalize found' : named key d' = entries' at same
  cases same with
  | arrays each =>
    rw [getRequiredArray_of_array found, getRequiredArray_of_array found']
    exact congrArg (· >>= whole) (mapM_itemsOfData decided each)
  | others noArray noArray' =>
    rw [getRequiredArray_of_other (found ▸ noArray), getRequiredArray_of_other (found' ▸ noArray')]

/-! ## Messages -/

section Messages

variable (formatDouble : Double → Bytes) {d d' : Datum}

theorem parseCatalogSensor_of_same (same : SameEntry sensorFields d d') :
    parseCatalogSensor formatDouble (itemOfDatum d) =
      parseCatalogSensor formatDouble (itemOfDatum d') := by
  obtain ⟨kind, fields⟩ := same
  have lookup := fields.lookups
  simp only [sensorFields, List.forall_mem_cons] at lookup
  simp only [parseCatalogSensor, requireObject_itemOfDatum, kind, getRequiredString,
    getRequiredInt, getRequiredNumber, getFlag, getCompactString, lookup]

theorem parseSensorSample_of_same (same : SameEntry sampleFields d d') :
    parseSensorSample (itemOfDatum d) = parseSensorSample (itemOfDatum d') := by
  obtain ⟨kind, fields⟩ := same
  have lookup := fields.lookups
  simp only [sampleFields, List.forall_mem_cons] at lookup
  simp only [parseSensorSample, requireObject_itemOfDatum, kind, getRequiredString,
    getRequiredNumber, getOptionalNumber, lookup]

theorem Alike.parseRoot_eq (alike : Alike d d') :
    parseRoot formatDouble (itemOfDatum d) = parseRoot formatDouble (itemOfDatum d') := by
  obtain ⟨fields, sensors, samples⟩ := alike
  have lookup := fields.lookups
  simp only [messageFields, List.forall_mem_cons] at lookup
  have envelope : parseEnvelope (itemOfDatum d) = parseEnvelope (itemOfDatum d') := by
    simp only [parseEnvelope, getRequiredTimestamp, getRequiredString, getRequiredInt,
      getRequiredNumber, lookup]
  have type : getRequiredString (itemOfDatum d) (text "type") =
      getRequiredString (itemOfDatum d') (text "type") := by
    simp only [getRequiredString, lookup]
  have hello : parseHello formatDouble (itemOfDatum d) =
      parseHello formatDouble (itemOfDatum d') := by
    simp only [parseHello, envelope, getRequiredString, getRequiredInt, getRequiredNumber,
      getCompactString, lookup]
  have catalog : parseCatalogSnapshot formatDouble (itemOfDatum d) =
      parseCatalogSnapshot formatDouble (itemOfDatum d') := by
    rw [parseCatalogSnapshot, parseCatalogSnapshot, envelope]
    exact congrArg _ (funext fun envelope =>
      getRequiredArray_bind (fun _ _ => parseCatalogSensor_of_same formatDouble) sensors _)
  have batch : parseSampleBatch (itemOfDatum d) = parseSampleBatch (itemOfDatum d') := by
    have time : getRequiredTimestamp (itemOfDatum d) (text "sample_time_utc") =
        getRequiredTimestamp (itemOfDatum d') (text "sample_time_utc") := by
      simp only [getRequiredTimestamp, getRequiredString, lookup]
    rw [parseSampleBatch, parseSampleBatch, envelope, time]
    exact congrArg _ (funext fun envelope => congrArg _ (funext fun time =>
      getRequiredArray_bind (fun _ _ => parseSensorSample_of_same) samples _))
  have heartbeat : parseHeartbeat (itemOfDatum d) = parseHeartbeat (itemOfDatum d') := by
    simp only [parseHeartbeat, envelope, getRequiredString, getRequiredInt, getRequiredInt64,
      getRequiredNumber, lookup]
  rw [parseRoot, parseRoot, type, hello, catalog, batch, heartbeat]

/-- **A line is read by its fields.** JSON lines that have the same fields are the same
message, or fail with the same error. -/
theorem parseBridgeMessage_of_alike {line line' : Bytes} (denotes : LineDenotes line d)
    (denotes' : LineDenotes line' d') (alike : Alike d d') :
    parseBridgeMessage formatDouble line = parseBridgeMessage formatDouble line' := by
  obtain ⟨rest, reads⟩ := denotes.parseValue_eq
  obtain ⟨rest', reads'⟩ := denotes'.parseValue_eq
  rw [parseBridgeMessage, parseBridgeMessage, CJson.parse, CJson.parse, reads, reads']
  exact alike.parseRoot_eq formatDouble

end Messages

/-! ## New members -/

theorem SameEntries.refl (fields : List String) (entries : Option Datum) :
    SameEntries fields entries entries := by
  by_cases list : ∃ items, entries = some (.array items)
  · obtain ⟨items, rfl⟩ := list
    exact .arrays (List.forall₂_same.mpr fun _ _ => ⟨rfl, fun _ _ => rfl⟩)
  · exact .others (fun items same => list ⟨items, same⟩) fun items same => list ⟨items, same⟩

/-- A member that the parser does not know is no part of the message. -/
theorem alike_cons {name : Bytes} (d : Datum) {members : List (Bytes × Datum)}
    (unknown : ∀ field ∈ "sensors" :: "samples" :: messageFields, CStr.ofBytes name ≠ text field) :
    Alike (.object ((name, d) :: members)) (.object members) := by
  have same : ∀ field ∈ "sensors" :: "samples" :: messageFields,
      named (text field) (.object ((name, d) :: members)) =
        named (text field) (.object members) := by
    intro field asked
    rw [named, List.find?_cons_of_neg (by simpa using unknown field asked), named]
  rw [List.forall_mem_cons, List.forall_mem_cons] at same
  obtain ⟨sensors, samples, fields⟩ := same
  exact ⟨fields, sensors ▸ .refl _ _, samples ▸ .refl _ _⟩

/-- A heartbeat. -/
def beatMembers : List (List Char × Json.Value) :=
  [("type".toList, .string "heartbeat".toList), ("schema_version".toList, .number (.ofInt 1)),
    ("source".toList, .string "librehw_bridge".toList),
    ("machine_id".toList, .string "host".toList),
    ("sent_at_utc".toList, .string "2026-01-01T00:00:00Z".toList),
    ("status".toList, .string "ok".toList), ("uptime_s".toList, .number (.ofInt 60)),
    ("catalog_count".toList, .number (.ofInt 3))]

theorem lineDenotes_members (members : List (List Char × Json.Value))
    (short : ∀ token ∈ Json.tokens ((Json.Value.object members).text CJson.encoder),
      token.behindFirst < 63)
    (shallow : (Json.Value.object members).said.depth ≤ CJson.nestingLimit) :
    LineDenotes ((Json.Value.object members).text CJson.encoder)
      (Json.Value.object members).said where
  exists_text := by
    refine ⟨[], _, [], by simp, List.forall_mem_nil _, List.forall_mem_nil _,
      Json.denotes_text CJson.encoder _, fun word member => ?_⟩
    have room : word.length - 1 < 63 := short _ member
    omega
  shallow := shallow

/-- The heartbeat with a note in front is read as the one without. -/
theorem parseBridgeMessage_of_alike_note :
    parseBridgeMessage (fun _ => [])
        ((Json.Value.object (("note".toList, .null) :: beatMembers)).text CJson.encoder) =
      parseBridgeMessage (fun _ => []) ((Json.Value.object beatMembers).text CJson.encoder) := by
  have unknown : ∀ field ∈ "sensors" :: "samples" :: messageFields,
      CStr.ofBytes (Utf8.encode "note".toList) ≠ text field := by decide +kernel
  exact parseBridgeMessage_of_alike _
    (lineDenotes_members _ (by decide +kernel) (by decide +kernel))
    (lineDenotes_members _ (by decide +kernel) (by decide +kernel)) (alike_cons .null unknown)

end CapacityAgent

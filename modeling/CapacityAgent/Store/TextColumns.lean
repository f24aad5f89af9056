/-
# The text columns

In a database that messages and collector calls in UTF-8 have made, every text column is
UTF-8, and every JSON column holds a JSON text: the hand-written `extra_json` of the upserts,
and the properties printed again by the parser.
-/

import CapacityAgent.Host.Agent
import CapacityAgent.Parser.TextualMessages

namespace CapacityAgent

open Json (Datum Denotes)
open KeyedTable

/-! ## Rows -/

/-- A nullable text column. -/
def OptionalUtf8 (s : Option CStr) : Prop := ∀ value ∈ s, value.IsUtf8

/-- A nullable JSON column. -/
def OptionalJson (s : Option CStr) : Prop := ∀ value ∈ s, value.IsJson

structure MachineRow.Textual (machineId : CStr) (row : MachineRow) : Prop where
  key : machineId.IsUtf8
  hostname : OptionalUtf8 row.hostname
  displayName : OptionalUtf8 row.displayName
  extraJson : OptionalJson row.extraJson

structure CollectorRow.Textual (collectorId : CStr) (row : CollectorRow) : Prop where
  key : collectorId.IsUtf8
  machineId : row.machineId.IsUtf8
  source : row.source.IsUtf8
  collectorType : row.collectorType.IsUtf8
  status : row.status.IsUtf8
  lastError : OptionalUtf8 row.lastError
  extraJson : OptionalJson row.extraJson

structure SensorRow.Textual (sensorUid : CStr) (row : SensorRow) : Prop where
  key : sensorUid.IsUtf8
  machineId : row.machineId.IsUtf8
  source : row.source.IsUtf8
  hardwareUid : row.hardwareUid.IsUtf8
  hardwarePath : row.hardwarePath.IsUtf8
  hardwareName : row.hardwareName.IsUtf8
  hardwareType : row.hardwareType.IsUtf8
  sensorPath : row.sensorPath.IsUtf8
  sensorName : row.sensorName.IsUtf8
  sensorType : row.sensorType.IsUtf8
  unit : row.unit.IsUtf8
  propertiesJson : OptionalJson row.propertiesJson

structure SampleRow.Textual (key : SampleKey) (row : SampleRow) : Prop where
  sensorUid : key.sensorUid.IsUtf8
  quality : row.quality.IsUtf8
  source : row.source.IsUtf8

structure GpuRow.Textual (key : GpuKey) (row : GpuRow) : Prop where
  machineId : key.machineId.IsUtf8
  gpuUid : key.gpuUid.IsUtf8
  gpuName : OptionalUtf8 row.gpuName
  backend : row.backend.IsUtf8

structure OllamaRow.Textual (key : OllamaKey) (row : OllamaRow) : Prop where
  machineId : key.machineId.IsUtf8
  baseUrl : row.baseUrl.IsUtf8

/-- Every text column is UTF-8 and every JSON column JSON. -/
structure Database.Textual (db : Database) : Prop where
  machineCatalog : Table.All MachineRow.Textual db.machineCatalog
  collectorHealth : Table.All CollectorRow.Textual db.collectorHealth
  sensorCatalog : Table.All SensorRow.Textual db.sensorCatalog
  sensorSamples : Table.All SampleRow.Textual db.sensorSamples
  gpuSamples : Table.All GpuRow.Textual db.gpuSamples
  ollamaRuntimeSamples : Table.All OllamaRow.Textual db.ollamaRuntimeSamples

theorem textual_empty : Database.empty.Textual where
  machineCatalog := Table.all_empty
  collectorHealth := Table.all_empty
  sensorCatalog := Table.all_empty
  sensorSamples := Table.all_empty
  gpuSamples := Table.all_empty
  ollamaRuntimeSamples := Table.all_empty

/-! ## Columns -/

theorem optionalUtf8_some {s : CStr} (utf8 : s.IsUtf8) : OptionalUtf8 (some s) := by
  rintro _ ⟨⟩
  exact utf8

theorem optionalJson_some {s : CStr} (json : s.IsJson) : OptionalJson (some s) := by
  rintro _ ⟨⟩
  exact json

theorem forall_coalesce {P : CStr → Prop} {new old : Option CStr} (first : ∀ s ∈ new, P s)
    (second : ∀ s ∈ old, P s) : ∀ s ∈ coalesce new old, P s := by
  cases new with
  | none => exact second
  | some value => exact first

/-- The text of an object of numbers, as the upserts write it. -/
theorem isJson_objectText {first : Json.Member} {rest : List Json.Member} (sound : first.Sound)
    (sounds : ∀ m ∈ rest, m.Sound) : (CStr.ofBytes (Json.objectText first rest)).IsJson :=
  ⟨_, (stores_objectText sound sounds).denotes⟩

theorem isJson_count {key : String} (isKey : IsKey key) {start : Bytes}
    (begins : start = byte '{' :: (Json.quoted (lit key) ++ [byte ':'])) (n : ℤ) :
    (CStr.ofBytes (start ++ decimal n ++ lit "\x7d")).IsJson := by
  have json := isJson_objectText (isKey.sound (denotes_decimal n)) (List.forall_mem_nil _)
  have ending : lit "\x7d" = [byte '}'] := by decide +kernel
  simpa [begins, ending, Json.objectText, Json.joinMembers, Json.Member.written, memberOf]
    using json

theorem isJson_buildCatalogExtraJson (n : ℕ) : (buildCatalogExtraJson n).IsJson :=
  isJson_count (show IsKey "sensor_count" by decide +kernel) (by decide +kernel) n

theorem isJson_buildSampleExtraJson (n : ℕ) : (buildSampleExtraJson n).IsJson :=
  isJson_count (show IsKey "sample_count" by decide +kernel) (by decide +kernel) n

theorem isJson_buildHeartbeatExtraJson (message : HeartbeatMessage) :
    (buildHeartbeatExtraJson message).IsJson := by
  have uptimeKey : IsKey "uptime_s" := by decide +kernel
  have countKey : IsKey "catalog_count" := by decide +kernel
  have json := isJson_objectText (uptimeKey.sound (denotes_decimal message.uptimeSeconds))
    (List.forall_mem_singleton.mpr (countKey.sound (denotes_decimal message.catalogCount)))
  have start : lit "\x7b\"uptime_s\":" =
      byte '{' :: (Json.quoted (lit "uptime_s") ++ [byte ':']) := by decide +kernel
  have next : lit ",\"catalog_count\":" =
      byte ',' :: (Json.quoted (lit "catalog_count") ++ [byte ':']) := by decide +kernel
  have ending : lit "\x7d" = [byte '}'] := by decide +kernel
  simpa [buildHeartbeatExtraJson, start, next, ending, Json.objectText, Json.joinMembers,
    Json.Member.written, memberOf] using json

section Hello

variable {message : HelloMessage}

theorem isJson_buildMachineExtraJson (textual : message.Textual) :
    (buildMachineExtraJson message).IsJson :=
  ⟨_, (stores_buildMachineExtraJson textual.envelope.source textual.bridgeVersion).denotes⟩

theorem isJson_buildHelloExtraJson (textual : message.Textual) :
    (buildHelloExtraJson message).IsJson := by
  rcases textual.capabilities with absent | ⟨said, denotes⟩
  · have stores := stores_buildHelloExtraJson textual.hostname textual.bridgeVersion
      (show (none : Option Datum) = none → _ from fun _ => absent) (by simp)
    exact ⟨_, stores.denotes⟩
  · have printed : ∀ said' ∈ some said, Denotes message.capabilitiesJson.bytes said' := by
      rintro _ ⟨⟩
      exact denotes
    have stores := stores_buildHelloExtraJson textual.hostname textual.bridgeVersion (by simp)
      printed
    exact ⟨_, stores.denotes⟩

end Hello

/-! ## Statements -/

/-- The texts that the statement binds are UTF-8, or JSON for the JSON columns. -/
def PipeStmt.Textual : PipeStmt → Prop
  | .machine machineId new => new.fresh.Textual machineId
  | .collector id new => new.fresh.Textual id
  | .catalogSensor envelope sensor => envelope.Textual ∧ sensor.Textual
  | .sensorSample message sample => message.envelope.Textual ∧ sample.Textual

/-- The same for the calls of the collectors. -/
def CollectorCall.Textual : CollectorCall → Prop
  | .gpuSample key row => row.Textual key
  | .ollamaSample key row => row.Textual key
  | .healthDirect health => health.update.fresh.Textual health.collectorId

theorem MachineUpdate.textual_merge {machineId : CStr} {new : MachineUpdate}
    (fresh : new.fresh.Textual machineId) (old : MachineRow) (stored : old.Textual machineId) :
    (new.merge old).Textual machineId where
  key := fresh.key
  hostname := forall_coalesce fresh.hostname stored.hostname
  displayName := forall_coalesce fresh.displayName stored.displayName
  extraJson := forall_coalesce fresh.extraJson stored.extraJson

theorem CollectorUpdate.textual_merge {id : CStr} {new : CollectorUpdate}
    (fresh : new.fresh.Textual id) (old : CollectorRow) (stored : old.Textual id) :
    (new.merge old).Textual id where
  key := fresh.key
  machineId := fresh.machineId
  source := fresh.source
  collectorType := fresh.collectorType
  status := fresh.status
  lastError := fresh.lastError
  extraJson := forall_coalesce fresh.extraJson stored.extraJson

section Effects

variable {db : Database}

theorem Database.Textual.upsertCollector (textual : db.Textual) {id : CStr}
    {new : CollectorUpdate} (fresh : new.fresh.Textual id) :
    (CapacityAgent.upsertCollector id new db).Textual :=
  { textual with
    collectorHealth := textual.collectorHealth.upsert fresh fun old stored =>
      CollectorUpdate.textual_merge fresh old stored }

theorem Database.Textual.upsertCatalogSensor (textual : db.Textual) {envelope : MessageEnvelope}
    {sensor : CatalogSensor} (sent : envelope.Textual) (listed : sensor.Textual) :
    (CapacityAgent.upsertCatalogSensor envelope sensor db).Textual := by
  have properties : OptionalJson (if sensor.propertiesJson.bytes.isEmpty then none
      else some sensor.propertiesJson) := by
    split_ifs with empty
    · exact fun _ none_ => absurd none_ (by simp)
    · refine optionalJson_some (listed.properties.resolve_left fun nil => ?_)
      exact empty (List.isEmpty_iff.mpr nil)
  refine { textual with sensorCatalog := textual.sensorCatalog.upsert ?_ fun old stored => ?_ }
  · exact ⟨listed.sensorUid, sent.machineId, sent.source, listed.hardwareUid, listed.hardwarePath,
      listed.hardwareName, listed.hardwareType, listed.sensorPath, listed.sensorName,
      listed.sensorType, listed.unit, properties⟩
  · exact ⟨listed.sensorUid, sent.machineId, sent.source, listed.hardwareUid, listed.hardwarePath,
      listed.hardwareName, listed.hardwareType, listed.sensorPath, listed.sensorName,
      listed.sensorType, listed.unit, forall_coalesce properties stored.propertiesJson⟩

theorem Database.Textual.storeSample (textual : db.Textual) {message : SampleBatchMessage}
    {sample : SensorSample} (sent : message.envelope.Textual) (listed : sample.Textual) :
    (CapacityAgent.storeSample message sample db).Textual := by
  unfold CapacityAgent.storeSample
  split_ifs
  · exact { textual with
      sensorSamples := textual.sensorSamples.put ⟨listed.sensorUid, listed.quality, sent.source⟩ }
  · exact textual

theorem PipeStmt.Textual.effect {stmt : PipeStmt} (own : stmt.Textual) (textual : db.Textual) :
    (stmt.effect db).Textual := by
  cases stmt with
  | machine machineId new =>
    exact { textual with
      machineCatalog := textual.machineCatalog.upsert own fun old stored =>
        MachineUpdate.textual_merge own old stored }
  | collector id new => exact textual.upsertCollector own
  | catalogSensor envelope sensor => exact textual.upsertCatalogSensor own.1 own.2
  | sensorSample message sample => exact textual.storeSample own.1 own.2

theorem CollectorCall.Textual.effect {call : CollectorCall} (own : call.Textual)
    (textual : db.Textual) : (call.effect db).Textual := by
  cases call with
  | gpuSample key row => exact { textual with gpuSamples := textual.gpuSamples.put own }
  | ollamaSample key row =>
    exact { textual with ollamaRuntimeSamples := textual.ollamaRuntimeSamples.put own }
  | healthDirect health => exact textual.upsertCollector own

end Effects

/-! ## Messages -/

theorem isUtf8_collectorId {machineId source : CStr} (machine : machineId.IsUtf8)
    (utf8 : source.IsUtf8) : (collectorId machineId source).IsUtf8 :=
  (machine.append (isUtf8_text (by decide))).append utf8

section Messages

variable {envelope : MessageEnvelope} (sent : envelope.Textual)

include sent

theorem textual_machineSeen (seenUtcMs : ℤ) :
    (PipeStmt.machine envelope.machineId ⟨none, none, seenUtcMs, none⟩).Textual where
  key := sent.machineId
  hostname _ none_ := absurd none_ (by simp [MachineUpdate.fresh])
  displayName _ none_ := absurd none_ (by simp [MachineUpdate.fresh])
  extraJson _ none_ := absurd none_ (by simp [MachineUpdate.fresh])

theorem textual_collector {new : CollectorUpdate} (machine : new.machineId = envelope.machineId)
    (source : new.source = envelope.source) (collectorType : new.collectorType.IsUtf8)
    (status : new.status.IsUtf8) (noError : new.lastError = none)
    (extraJson : OptionalJson new.extraJson) :
    (PipeStmt.collector (collectorId envelope.machineId envelope.source) new).Textual where
  key := isUtf8_collectorId sent.machineId sent.source
  machineId := by
    have own := sent.machineId
    rwa [← machine] at own
  source := by
    have own := sent.source
    rwa [← source] at own
  collectorType := collectorType
  status := status
  lastError _ member := absurd member (by simp [CollectorUpdate.fresh, noError])
  extraJson := extraJson

end Messages

/-- The statements of a message bind its own texts, constants and JSON. -/
theorem textual_statements {message : BridgeMessage} (textual : message.Textual) :
    ∀ stmt ∈ message.statements, stmt.Textual := by
  have bridge : (text "bridge").IsUtf8 := isUtf8_text (by decide)
  have stream : (text "sensor_stream").IsUtf8 := isUtf8_text (by decide)
  have fine : (text "ok").IsUtf8 := isUtf8_text (by decide)
  cases textual with
  | @hello message body =>
    refine List.forall_mem_cons.mpr ⟨⟨body.envelope.machineId, ?_, ?_, ?_⟩,
      List.forall_mem_singleton.mpr ?_⟩
    · exact optionalUtf8_some body.hostname
    · exact optionalUtf8_some body.hostname
    · exact optionalJson_some (isJson_buildMachineExtraJson body)
    · exact textual_collector body.envelope rfl rfl bridge fine rfl
        (optionalJson_some (isJson_buildHelloExtraJson body))
  | @catalogSnapshot message envelope sensors =>
    refine List.forall_mem_append.mpr ⟨?_, List.forall_mem_map.mpr fun sensor listed =>
      ⟨envelope, sensors sensor listed⟩⟩
    exact List.forall_mem_cons.mpr ⟨textual_machineSeen envelope _,
      List.forall_mem_singleton.mpr (textual_collector envelope rfl rfl stream fine rfl
        (optionalJson_some (isJson_buildCatalogExtraJson _)))⟩
  | @sampleBatch message envelope samples =>
    refine List.forall_mem_append.mpr ⟨?_, List.forall_mem_map.mpr fun sample listed =>
      ⟨envelope, samples sample listed⟩⟩
    exact List.forall_mem_cons.mpr ⟨textual_machineSeen envelope _,
      List.forall_mem_singleton.mpr (textual_collector envelope rfl rfl stream fine rfl
        (optionalJson_some (isJson_buildSampleExtraJson _)))⟩
  | @heartbeat message envelope status =>
    exact List.forall_mem_cons.mpr ⟨textual_machineSeen envelope _,
      List.forall_mem_singleton.mpr (textual_collector envelope rfl rfl bridge status rfl
        (optionalJson_some (isJson_buildHeartbeatExtraJson message)))⟩

end CapacityAgent

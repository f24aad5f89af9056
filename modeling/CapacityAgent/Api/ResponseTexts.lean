/-
# Responses in UTF-8

The handlers put texts of the rows, of the request and of the source into their responses.
Where the database and the request are in UTF-8, so is every string of a response, and what
is sent is a JSON text that says the response.
-/

import CapacityAgent.Api.Completeness
import CapacityAgent.Store.TextColumns

namespace CapacityAgent

open CJson (Item entriesTextual_iff elementsTextual_iff)
open Json (Denotes)
open KeyedTable Newest Select

/-! ## Items -/

section Items

variable {s : CStr}

theorem textual_string (utf8 : s.IsUtf8) : (Item.string s).Textual := utf8

theorem textual_int64Item (value : ℤ) : (int64Item value).Textual := trivial

theorem textual_optionalInt64Item (value : Option ℤ) : (optionalInt64Item value).Textual := by
  cases value <;> trivial

theorem textual_optionalDoubleItem (value : Option Double) :
    (optionalDoubleItem value).Textual := by
  cases value <;> trivial

theorem textual_optionalStringItem {value : Option CStr} (utf8 : OptionalUtf8 value) :
    (optionalStringItem value).Textual := by
  cases value with
  | none => trivial
  | some value => exact utf8 value rfl

/-- The members of an object are in UTF-8. -/
def MembersTextual (children : List (CStr × Item)) : Prop :=
  ∀ child ∈ children, child.1.IsUtf8 ∧ child.2.Textual

theorem textual_object {children : List (CStr × Item)} (each : MembersTextual children) :
    (Item.object children).Textual :=
  entriesTextual_iff.mpr each

theorem MembersTextual.nil : MembersTextual [] := List.forall_mem_nil _

/-- A member that the source names, in ASCII. -/
theorem MembersTextual.cons {name : String} {item : Item} {rest : List (CStr × Item)}
    (ascii : (text name).isAscii = true) (textual : item.Textual)
    (later : MembersTextual rest) :
    MembersTextual ((text name, item) :: rest) :=
  List.forall_mem_cons.mpr ⟨⟨isUtf8_text ascii, textual⟩, later⟩

theorem MembersTextual.append {first second : List (CStr × Item)}
    (here : MembersTextual first) (there : MembersTextual second) :
    MembersTextual (first ++ second) :=
  List.forall_mem_append.mpr ⟨here, there⟩

theorem textual_array {α : Type} {rows : List α} {item : α → Item}
    (each : ∀ row ∈ rows, (item row).Textual) : (Item.array (rows.map item)).Textual :=
  elementsTextual_iff.mpr (List.forall_mem_map.mpr each)

end Items

/-! ## Rows -/

/-- The texts of a row of the sensor catalog are in UTF-8. -/
structure CatalogRow.Textual (row : CatalogRow) : Prop where
  sensorUid : row.sensorUid.IsUtf8
  hardwareName : row.hardwareName.IsUtf8
  hardwareType : row.hardwareType.IsUtf8
  sensorName : row.sensorName.IsUtf8
  sensorType : row.sensorType.IsUtf8
  unit : row.unit.IsUtf8

/-- The texts of a row that is read are in UTF-8. -/
def ReadStmt.RowTextual : (s : ReadStmt) → s.Row → Prop
  | .health _, collector => collector.2.Textual collector.1
  | .catalog .., row => row.Textual
  | .history _, row => row.quality.IsUtf8
  | .gpus _, row => row.gpuName.IsUtf8
  | .system _, _ | .ollama _, _ => True

/-- The texts of the answer of `QueryMachineCatalog` are. -/
structure MachineAnswer.Textual (machine : MachineAnswer) : Prop where
  hostname : machine.hostname.IsUtf8
  displayName : machine.displayName.IsUtf8

theorem isUtf8_getD {value : Option CStr} (utf8 : OptionalUtf8 value) :
    (value.getD (text "")).IsUtf8 := by
  cases value with
  | none => exact isUtf8_text (by decide)
  | some value => exact utf8 value rfl

section Selected

variable {db : Database} (utf8 : db.Textual)

include utf8

theorem textual_of_mem_health {machineId : CStr} {collector : CStr × CollectorRow}
    (member : collector ∈ queryCollectorHealth machineId db) :
    collector.2.Textual collector.1 :=
  utf8.collectorHealth _ _ (mem_queryCollectorHealth.mp member).1

theorem textual_of_mem_catalogMatches {machineId : CStr} {filter : CatalogFilter}
    {row : CatalogRow} (member : row ∈ catalogMatches machineId filter db) : row.Textual := by
  obtain ⟨sensor, stored, rfl⟩ := List.mem_map.mp member
  have own := utf8.sensorCatalog _ _ (Table.mem_rows.mp (List.mem_filter.mp stored).1)
  exact ⟨own.key, own.hardwareName, own.hardwareType, own.sensorName, own.sensorType, own.unit⟩

theorem isUtf8_of_mem_historyMatches {sensorUid : CStr} {fromMs toMs : ℤ} {row : HistoryRow}
    (member : row ∈ historyMatches sensorUid fromMs toMs db) : row.quality.IsUtf8 := by
  obtain ⟨sample, stored, rfl⟩ := List.mem_map.mp member
  exact (utf8.sensorSamples _ _ (Table.mem_rows.mp (List.mem_filter.mp stored).1)).quality

theorem isUtf8_of_mem_newestGpus {machineId : CStr} {row : GpuSnapshotRow}
    (member : row ∈ (newest StoredGpu.ts (machineGpus machineId db)).map StoredGpu.snapshotRow) :
    row.gpuName.IsUtf8 := by
  obtain ⟨gpu, selected, rfl⟩ := List.mem_map.mp member
  have listed := (mem_newest.mp selected).1
  have stored := utf8.gpuSamples _ _ (Table.mem_rows.mp (List.mem_filter.mp listed).1)
  exact isUtf8_getD stored.gpuName

/-- Whatever rows a statement selects of such a database. -/
theorem ReadStmt.Selects.textual {s : ReadStmt} {rows : List s.Row} (selects : s.Selects db rows) :
    ∀ row ∈ rows, s.RowTextual row := by
  intro row member
  cases s with
  | health machineId => exact textual_of_mem_health utf8 (selects.mem_iff.mp member)
  | catalog machineId filter =>
    exact textual_of_mem_catalogMatches utf8 (Answers.subset selects member)
  | history query => exact isUtf8_of_mem_historyMatches utf8 (Answers.subset selects member)
  | gpus machineId => exact isUtf8_of_mem_newestGpus utf8 (Answers.subset selects member)
  | system machineId => trivial
  | ollama machineId => trivial

theorem textual_queryMachineCatalog {machineId : CStr} :
    ∀ machine ∈ queryMachineCatalog machineId db, machine.Textual := by
  intro machine answered
  obtain ⟨row, found, rfl⟩ := Option.map_eq_some_iff.mp answered
  have stored := utf8.machineCatalog _ _ found
  exact ⟨isUtf8_getD stored.hostname, isUtf8_getD stored.displayName⟩

end Selected

/-! ## Responses -/

section Responses

theorem textual_statusEntry {collector : CStr × CollectorRow}
    (own : collector.2.Textual collector.1) : (statusEntry collector).2.Textual :=
  textual_object <| .cons rfl (textual_string own.status) <|
    .cons rfl (textual_optionalInt64Item _) <| .cons rfl (textual_optionalInt64Item _) <|
    .cons rfl (textual_optionalStringItem own.lastError) <| .cons rfl (textual_int64Item _) .nil

theorem textual_catalogEntry {sensor : CatalogRow} (own : sensor.Textual) :
    (catalogEntry sensor).Textual :=
  textual_object <| .cons rfl (textual_string own.sensorUid) <|
    .cons rfl (textual_string own.hardwareName) <| .cons rfl (textual_string own.hardwareType) <|
    .cons rfl (textual_string own.sensorName) <| .cons rfl (textual_string own.sensorType) <|
    .cons rfl (textual_string own.unit) <| .cons rfl trivial <| .cons rfl trivial .nil

theorem textual_historyEntry {sample : HistoryRow} (quality : sample.quality.IsUtf8) :
    (historyEntry sample).Textual :=
  textual_object <| .cons rfl (textual_int64Item _) <| .cons rfl trivial <|
    .cons rfl (textual_optionalDoubleItem _) <| .cons rfl (textual_optionalDoubleItem _) <|
    .cons rfl (textual_string quality) .nil

theorem textual_gpuEntry {gpu : GpuSnapshotRow} (name : gpu.gpuName.IsUtf8) :
    (gpuEntry gpu).Textual :=
  textual_object <| .cons rfl trivial <| .cons rfl (textual_string name) <|
    .cons rfl (textual_optionalDoubleItem _) <| .cons rfl (textual_optionalDoubleItem _) <|
    .cons rfl (textual_optionalDoubleItem _) <| .cons rfl (textual_optionalInt64Item _) <|
    .cons rfl (textual_optionalInt64Item _) <| .cons rfl (textual_optionalDoubleItem _) .nil

theorem textual_ageEntry (nowUtcMs : ℕ → ℤ) (i : ℕ) {collector : CStr × CollectorRow}
    (own : collector.2.Textual collector.1) : (ageEntry nowUtcMs i collector).2.Textual :=
  textual_object <| .cons rfl (textual_string own.status) <| .cons rfl (textual_int64Item _) .nil

theorem textual_ollamaSection (status : OllamaStatus) : (ollamaSection status).Textual :=
  textual_object <| .cons rfl trivial <| .cons rfl trivial <|
    .cons rfl (textual_optionalInt64Item _) .nil

theorem textual_gpuSummary (gpus : List GpuSnapshotRow) : (gpuSummary gpus).Textual := by
  refine textual_object (.cons rfl trivial ?_)
  split_ifs
  · exact .nil
  · exact .cons rfl trivial <| .cons rfl trivial <| .cons rfl trivial <|
      .cons rfl (textual_int64Item _) <| .cons rfl (textual_int64Item _) .nil

theorem isUtf8_verdictText (verdict : Verdict) : verdict.text.IsUtf8 := by
  cases verdict <;> exact isUtf8_text (by decide)

theorem isUtf8_loadReasons (required : ℤ) (gpus : List GpuSnapshotRow) :
    ∀ reason ∈ (loadVerdict required gpus).reasons, reason.IsUtf8 := by
  have ending (s : String) (n : ℤ) (ascii : (text s).isAscii = true) {before : CStr}
      (utf8 : before.IsUtf8) : (before ++ decimalText n ++ text s).IsUtf8 :=
    (utf8.append (isUtf8_decimalText n)).append (isUtf8_text ascii)
  unfold loadVerdict
  split_ifs
  · exact List.forall_mem_singleton.mpr (isUtf8_text (by decide))
  · exact List.forall_mem_singleton.mpr (ending _ _ (by decide)
      (ending _ _ (by decide) (isUtf8_text (by decide))))
  · exact List.forall_mem_nil _
  · exact List.forall_mem_nil _
  · exact List.forall_mem_singleton.mpr (ending _ _ (by decide) (isUtf8_text (by decide)))

theorem isUtf8_reasons (required : ℤ) (gpus : List GpuSnapshotRow)
    (collectors : List (CStr × CollectorRow)) (nowDirect nowBridge : ℤ) :
    ∀ reason ∈ (readiness required gpus collectors nowDirect nowBridge).reasons,
      reason.IsUtf8 := by
  unfold readiness
  dsimp only
  split_ifs
  · cases lastSampleOf (text "librehw_bridge") collectors with
    | none => exact List.forall_mem_singleton.mpr (isUtf8_text (by decide))
    | some lastSample =>
      dsimp only
      split_ifs
      · exact List.forall_mem_singleton.mpr (isUtf8_text (by decide))
      · exact List.forall_mem_singleton.mpr (isUtf8_text (by decide))
  · exact List.forall_mem_singleton.mpr (isUtf8_text (by decide))
  · exact isUtf8_loadReasons required gpus

theorem textual_historyResponse {query : HistoryQuery} (sensor : query.sensorUid.IsUtf8)
    {samples : List HistoryRow} (read : ∀ sample ∈ samples, sample.quality.IsUtf8) :
    (historyResponse query samples).Textual := by
  have entries := textual_array fun sample member => textual_historyEntry (read sample member)
  exact textual_object <| .cons rfl (textual_string sensor) <| .cons rfl (textual_int64Item _) <|
    .cons rfl (textual_int64Item _) <| .cons rfl trivial <| .cons rfl entries .nil

variable {machineId : CStr} (machine : machineId.IsUtf8)

include machine

theorem textual_statusResponse (nowUtcMs : ℤ) {collectors : List (CStr × CollectorRow)}
    (read : ∀ collector ∈ collectors, collector.2.Textual collector.1)
    {answer : Option MachineAnswer} (answered : ∀ machine ∈ answer, machine.Textual) :
    (statusResponse machineId nowUtcMs collectors answer).Textual := by
  have entries : MembersTextual (collectors.map statusEntry) := List.forall_mem_map.mpr
    fun collector member => ⟨(read collector member).source,
      textual_statusEntry (read collector member)⟩
  refine textual_object (.append ?_ ?_)
  · exact .cons rfl (textual_string machine) <| .cons rfl (textual_int64Item _) <|
      .cons rfl (textual_string (isUtf8_text (by decide))) <|
      .cons rfl (textual_object entries) .nil
  · cases answer with
    | none => exact .nil
    | some answer =>
      have own := answered answer rfl
      exact .cons rfl (textual_string own.hostname) <| .cons rfl (textual_string own.displayName) <|
        .cons rfl (textual_int64Item _) <| .cons rfl (textual_int64Item _) .nil

theorem textual_catalogResponse {sensors : List CatalogRow}
    (read : ∀ sensor ∈ sensors, sensor.Textual) :
    (catalogResponse machineId sensors).Textual := by
  have entries := textual_array fun sensor member => textual_catalogEntry (read sensor member)
  exact textual_object <| .cons rfl (textual_string machine) <| .cons rfl trivial <|
    .cons rfl entries .nil

theorem textual_snapshotResponse (generatedUtcMs : ℤ) (nowUtcMs : ℕ → ℤ)
    {snapshot : LatestSnapshot} (gpus : ∀ gpu ∈ snapshot.gpus, gpu.gpuName.IsUtf8)
    {collectors : List (CStr × CollectorRow)}
    (read : ∀ collector ∈ collectors, collector.2.Textual collector.1) :
    (snapshotResponse machineId generatedUtcMs nowUtcMs snapshot collectors).Textual := by
  have entries := textual_array fun gpu member => textual_gpuEntry (gpus gpu member)
  have ages : MembersTextual (collectors.mapIdx (ageEntry nowUtcMs)) := by
    intro child member
    obtain ⟨i, bound, rfl⟩ := List.mem_mapIdx.mp member
    have own := read _ (List.getElem_mem bound)
    exact ⟨own.source, textual_ageEntry nowUtcMs i own⟩
  refine textual_object <| .cons rfl (textual_string machine) <| .cons rfl (textual_int64Item _) <|
    .cons rfl (textual_object ?_) <| .cons rfl entries <| .cons rfl (textual_ollamaSection _) <|
    .cons rfl (textual_object ages) .nil
  exact .cons rfl (textual_optionalDoubleItem _) <| .cons rfl (textual_optionalDoubleItem _) <|
    .cons rfl (textual_optionalInt64Item _) <| .cons rfl trivial .nil

theorem textual_readinessResponse (snapshot : LatestSnapshot)
    (collectors : List (CStr × CollectorRow)) (clock : ReadinessClock) (required : ℤ) :
    (readinessResponse machineId snapshot collectors clock required).Textual := by
  have reasons := textual_array fun reason member => textual_string
    (isUtf8_reasons required snapshot.gpus collectors clock.nowDirect clock.nowBridge reason member)
  exact textual_object <| .cons rfl (textual_string machine) <|
    .cons rfl (textual_string (isUtf8_verdictText _)) <| .cons rfl (textual_int64Item _) <|
    .cons rfl (textual_gpuSummary _) <| .cons rfl (textual_ollamaSection _) <|
    .cons rfl reasons .nil

end Responses

/-! ## Routes -/

/-- The request's text that a response repeats is in UTF-8. -/
def Route.Textual : Route → Prop
  | .history request => ∀ sensorUid ∈ request.sensorUid, sensorUid.IsUtf8
  | .status | .catalog _ | .snapshot | .readiness _ => True

/-- What the handlers read is in UTF-8. -/
def Reads.Textual (reads : Reads) : Prop := ∀ s, ∀ row ∈ reads s, s.RowTextual row

theorem Reply.map_eq_ok {α β : Type} {f : α → β} {reply : Reply α} {body : β}
    (normal : reply.map f = .ok body) : ∃ value, reply = .ok value ∧ f value = body := by
  cases reply with
  | ok value => exact ⟨value, rfl, Reply.ok.inj normal⟩
  | badRequest error => exact absurd normal (by simp [Reply.map])
  | escaped thrown => exact absurd normal (by simp [Reply.map])

theorem sensorUid_of_historyQuery {nowUtcMs : ℤ} {request : HistoryRequest} {query : HistoryQuery}
    (taken : historyQuery nowUtcMs request = .ok query) :
    request.sensorUid = some query.sensorUid := by
  unfold historyQuery at taken
  cases named : request.sensorUid with
  | none => exact absurd taken (by simp [named])
  | some sensorUid =>
    rw [named] at taken
    dsimp only at taken
    generalize conversion : (do
      let fromMs ← numericParam 64 0 request.fromMs
      let toMs ← numericParam 64 nowUtcMs request.toMs
      let limit ← limitParam request.limit
      return (⟨sensorUid, fromMs, toMs, limit⟩ : HistoryQuery)) = converted at taken
    cases converted with
    | error thrown => exact absurd taken (by simp [Reply.ofConversion])
    | ok query' =>
      obtain rfl := Reply.ok.inj taken
      obtain ⟨_, -, rest⟩ := Checks.bind_eq_ok_iff.mp conversion
      obtain ⟨_, -, rest⟩ := Checks.bind_eq_ok_iff.mp rest
      obtain ⟨_, -, built⟩ := Checks.bind_eq_ok_iff.mp rest
      obtain rfl := Except.ok.inj built
      rfl

/-- The response to a request is UTF-8 when what is read for it is. -/
theorem Route.textual_reply {machineId : CStr} (machine : machineId.IsUtf8)
    {context : RequestContext} (known : ∀ answer ∈ context.machine, answer.Textual)
    {reads : Reads} (read : reads.Textual) {endpoint : Route} (asked : endpoint.Textual)
    {body : Item} (normal : endpoint.reply machineId context reads = .ok body) :
    body.Textual := by
  cases endpoint with
  | status =>
    obtain rfl := Reply.ok.inj normal
    exact textual_statusResponse machine _ (read (.health machineId)) known
  | catalog filter =>
    obtain rfl := Reply.ok.inj normal
    exact textual_catalogResponse machine (read (.catalog machineId filter))
  | history request =>
    obtain ⟨query, taken, rfl⟩ := Reply.map_eq_ok normal
    have sensor := asked _ (sensorUid_of_historyQuery taken)
    exact textual_historyResponse sensor (read (.history query))
  | snapshot =>
    obtain rfl := Reply.ok.inj normal
    exact textual_snapshotResponse machine _ _ (read (.gpus machineId)) (read (.health machineId))
  | readiness param =>
    obtain ⟨required, -, rfl⟩ := Reply.map_eq_ok normal
    exact textual_readinessResponse machine _ _ _ _

end CapacityAgent

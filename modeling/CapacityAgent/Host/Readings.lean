/-
# What the history shows of the readings

The readings of the bridge as they should be stored: a value for every catalogued sensor
that has one, at the time of its update. After any run they are the rows of
`sensor_samples`, and `/v1/history` answers from them.
-/

import CapacityAgent.Host.Pipeline
import CapacityAgent.Api.HistoryPaging

namespace CapacityAgent

open Connection KeyedTable Select

/-! ## The history of a sensor -/

/-- The rows of the history of a sensor, newest first: the last entry under each key in the
range, and all of them up to the limit. -/
structure IsHistory (entries : List (SampleKey × SampleRow)) (sensorUid : CStr)
    (fromMs toMs limit : ℤ) (rows : List HistoryRow) : Prop where
  newestFirst : rows.Pairwise fun newer older => older.tsUtcMs < newer.tsUtcMs
  stored : ∀ row ∈ rows, fromMs ≤ row.tsUtcMs ∧ row.tsUtcMs ≤ toMs ∧
    ∃ sample, Table.LastEntry entries ⟨sensorUid, row.tsUtcMs⟩ sample ∧
      StoredSample.historyRow (⟨sensorUid, row.tsUtcMs⟩, sample) = row
  complete : ∀ t sample, fromMs ≤ t → t ≤ toMs → Table.LastEntry entries ⟨sensorUid, t⟩ sample →
    StoredSample.historyRow (⟨sensorUid, t⟩, sample) ∈ rows ∨
      limitOf limit = some rows.length ∧ ∀ row ∈ rows, t < row.tsUtcMs

theorem mem_historyMatches {sensorUid : CStr} {fromMs toMs : ℤ} {db : Database}
    {row : HistoryRow} :
    row ∈ historyMatches sensorUid fromMs toMs db ↔ fromMs ≤ row.tsUtcMs ∧ row.tsUtcMs ≤ toMs ∧
      ∃ sample, db.sensorSamples.lookup ⟨sensorUid, row.tsUtcMs⟩ = some sample ∧
        StoredSample.historyRow (⟨sensorUid, row.tsUtcMs⟩, sample) = row := by
  constructor
  · intro member
    obtain ⟨⟨⟨uid, t⟩, sample⟩, kept, rfl⟩ := List.mem_map.mp member
    obtain ⟨listed, inRange⟩ := List.mem_filter.mp kept
    obtain ⟨rfl, after, before⟩ : uid = sensorUid ∧ fromMs ≤ t ∧ t ≤ toMs := by simpa using inRange
    exact ⟨after, before, sample, Table.mem_rows.mp listed, rfl⟩
  · rintro ⟨after, before, sample, found, same⟩
    refine List.mem_map.mpr ⟨(⟨sensorUid, row.tsUtcMs⟩, sample), ?_, same⟩
    exact List.mem_filter.mpr ⟨Table.mem_rows.mpr found, by simpa using ⟨after, before⟩⟩

/-- Every answer of `QuerySensorHistory` on a table that was put together from entries. -/
theorem isHistory_of_returns {entries : List (SampleKey × SampleRow)} {db : Database}
    (stored : db.sensorSamples = (∅ : Table SampleKey SampleRow).putAll entries)
    {sensorUid : CStr} {fromMs toMs limit : ℤ} {rows : List HistoryRow}
    (returned : (Query.history sensorUid fromMs toMs limit).Returns db (.history rows)) :
    IsHistory entries sensorUid fromMs toMs limit rows := by
  have last (key : SampleKey) (sample : SampleRow) :
      db.sensorSamples.lookup key = some sample ↔ Table.LastEntry entries key sample := by
    rw [stored, Table.lookup_putAll]
    simp
  have answers : Answers historyKey (limitOf limit) (historyMatches sensorUid fromMs toMs db)
      rows := returned
  have distinct {row other : HistoryRow}
      (first : row ∈ historyMatches sensorUid fromMs toMs db)
      (second : other ∈ historyMatches sensorUid fromMs toMs db)
      (same : row.tsUtcMs = other.tsUtcMs) : row = other :=
    List.inj_on_of_nodup_map nodup_historyMatches first second (congrArg Neg.neg same)
  refine ⟨?_, fun row member => ?_, fun t sample after before recorded => ?_⟩
  · have ordered := answers.pairwise
    have nodup := answers.nodup (List.Nodup.of_map historyKey nodup_historyMatches)
    refine (ordered.and nodup).imp_of_mem fun {newer older} inFirst inSecond both => ?_
    have notLater : older.tsUtcMs ≤ newer.tsUtcMs := by
      have keys := both.1
      rw [historyKey, historyKey] at keys
      omega
    refine lt_of_le_of_ne notLater fun same => both.2 ?_
    exact distinct (answers.subset inFirst) (answers.subset inSecond) same.symm
  · obtain ⟨after, before, sample, found, same⟩ := mem_historyMatches.mp (answers.subset member)
    exact ⟨after, before, sample, (last _ sample).mp found, same⟩
  · have member : StoredSample.historyRow (⟨sensorUid, t⟩, sample) ∈
        historyMatches sensorUid fromMs toMs db :=
      mem_historyMatches.mpr ⟨after, before, sample, (last _ sample).mpr recorded, rfl⟩
    rcases answers.mem_or member with listed | ⟨full, behind⟩
    · exact .inl listed
    · by_cases listed : StoredSample.historyRow (⟨sensorUid, t⟩, sample) ∈ rows
      · exact .inl listed
      · refine .inr ⟨full, fun row here => ?_⟩
        have notLater : t ≤ row.tsUtcMs := by
          have keys := behind row here
          have own : historyKey (StoredSample.historyRow (⟨sensorUid, t⟩, sample)) = -t := rfl
          rw [own, historyKey] at keys
          omega
        refine lt_of_le_of_ne notLater fun same => listed ?_
        exact distinct member (answers.subset here) same ▸ here

/-! ## The readings of the bridge -/

namespace LibreHwBridge

open NetString (literal)

theorem utf8_injective : Function.Injective NetString.utf8 := by
  intro s t same
  have chars := Utf8.encode_injective (congrArg CStr.bytes same)
  cases s
  cases t
  exact NetString.mk.injEq .. ▸ chars

/-- What is read of a sensor at a time. -/
def reading (source : NetString) (time : DateTimeOffset) (sensor : ISensor) :
    Option (SampleKey × SampleRow) :=
  sensor.value.map fun value =>
    (⟨(sensorUid sensor).utf8, time.unixMs⟩,
      { value := value.value
        minValue := sensor.min.map Single.value
        maxValue := sensor.max.map Single.value
        quality := text "ok"
        source := source.utf8 })

/-- What is read in a run of calls of the sensors that are catalogued by then. -/
def readings (source : NetString) : List NetString → List Call → List (SampleKey × SampleRow)
  | _, [] => []
  | catalogued, .hello _ _ :: rest => readings source catalogued rest
  | catalogued, .catalogSnapshot catalog _ :: rest =>
    readings source (catalogued ++ catalog.map CatalogSensor.sensorUid) rest
  | catalogued, .sampleBatch computer time _ :: rest =>
    ((sensorsOfEach computer).filter fun visited =>
      sensorUid visited.2 ∈ catalogued).filterMap (fun visited => reading source time visited.2) ++
      readings source catalogued rest
  | catalogued, .heartbeat _ _ _ _ :: rest => readings source catalogued rest

section Run

variable {environment : Environment} {options : BridgeOptions} {startedAt : DateTimeOffset}

variable (options) in
/-- A sample of the batch is one that was read. -/
theorem entry_received (computer : Computer) (time utcNow : DateTimeOffset) (sensor : ISensor) :
    (sensorSample sensor).map (fun sample =>
        (((buildSampleBatch options computer time utcNow).received time utcNow).entry
          sample.received)) = reading options.source time sensor := by
  cases value : sensor.value with
  | none => simp [sensorSample, reading, value]
  | some v =>
    rw [sensorSample, reading, value]
    rfl

/-- The samples that the host accepts of a batch. -/
theorem accepted_received {earlier : List BridgeMessage} {catalogued : List NetString}
    (known : ∀ uid : NetString, Catalogued earlier uid.utf8 ↔ uid ∈ catalogued)
    (computer : Computer) (time utcNow : DateTimeOffset) :
    BridgeMessage.accepted earlier
        (Call.received environment options (.sampleBatch computer time utcNow)) =
      ((sensorsOfEach computer).filter fun visited =>
        sensorUid visited.2 ∈ catalogued).filterMap
          (fun visited => reading options.source time visited.2) := by
  have samples : ((buildSampleBatch options computer time utcNow).received time utcNow).samples =
      (collectSamples computer).map SensorSample.received := rfl
  rw [Call.received, BridgeMessage.accepted, samples, collectSamples, collectSamplesEach_eq,
    List.nil_append]
  induction sensorsOfEach computer with
  | nil => rfl
  | cons visited rest ih =>
    have own := entry_received options computer time utcNow visited.2
    cases taken : sensorSample visited.2 with
    | none =>
      rw [taken] at own
      rw [List.filterMap_cons_none (by exact taken), ih]
      by_cases listed : sensorUid visited.2 ∈ catalogued
      · rw [List.filter_cons_of_pos (by simpa using listed), List.filterMap_cons, ← own]
        rfl
      · rw [List.filter_cons_of_neg (by simpa using listed)]
    | some sample =>
      rw [taken] at own
      have uid : sample.received.sensorUid = (sensorUid visited.2).utf8 :=
        congrArg NetString.utf8 (sensorUid_of_sensorSample taken).1
      rw [List.filterMap_cons_some (by exact taken), List.map_cons]
      by_cases listed : sensorUid visited.2 ∈ catalogued
      · have accepts : Catalogued earlier sample.received.sensorUid := uid ▸ (known _).mpr listed
        rw [List.filter_cons_of_pos (by simpa using accepts),
          List.filter_cons_of_pos (by simpa using listed), List.filterMap_cons, ← own,
          List.map_cons, ih]
        rfl
      · have refused : ¬ Catalogued earlier sample.received.sensorUid :=
          fun there => listed ((known _).mp (uid ▸ there))
        rw [List.filter_cons_of_neg (by simpa using refused),
          List.filter_cons_of_neg (by simpa using listed), ih]

theorem catalogues_received (call : Call) (uid : NetString) :
    (call.received environment options).Catalogues uid.utf8 ↔
      ∃ catalog utcNow, call = .catalogSnapshot catalog utcNow ∧
        uid ∈ catalog.map CatalogSensor.sensorUid := by
  cases call with
  | hello catalog utcNow => simp [Call.received, BridgeMessage.Catalogues]
  | sampleBatch computer time utcNow => simp [Call.received, BridgeMessage.Catalogues]
  | heartbeat startedAt count utcNow later => simp [Call.received, BridgeMessage.Catalogues]
  | catalogSnapshot catalog utcNow =>
    constructor
    · rintro ⟨sensor, listed, same⟩
      obtain ⟨entry, member, rfl⟩ := List.mem_map.mp listed
      exact ⟨catalog, utcNow, rfl, List.mem_map.mpr ⟨entry, member, utf8_injective same⟩⟩
    · rintro ⟨catalog, utcNow, same, listed⟩
      obtain ⟨rfl, rfl⟩ := Call.catalogSnapshot.inj same
      obtain ⟨entry, member, rfl⟩ := List.mem_map.mp listed
      exact ⟨entry.received, List.mem_map_of_mem member, rfl⟩

/-- The host accepts the readings, and nothing else. -/
theorem acceptedSamples_received {earlier : List BridgeMessage} {catalogued : List NetString}
    (known : ∀ uid : NetString, Catalogued earlier uid.utf8 ↔ uid ∈ catalogued)
    (calls : List Call) :
    acceptedSamples earlier (calls.map (Call.received environment options)) =
      readings options.source catalogued calls := by
  induction calls generalizing earlier catalogued with
  | nil => rfl
  | cons call rest ih =>
    have next (uid : NetString) (more : List NetString)
        (adds : (call.received environment options).Catalogues uid.utf8 ↔ uid ∈ more) :
        Catalogued (earlier ++ [call.received environment options]) uid.utf8 ↔
          uid ∈ catalogued ++ more := by
      rw [catalogued_append, catalogued_singleton, known, adds, List.mem_append]
    have same (uid : NetString)
        (adds : ¬ (call.received environment options).Catalogues uid.utf8) :
        Catalogued (earlier ++ [call.received environment options]) uid.utf8 ↔
          uid ∈ catalogued := by
      rw [catalogued_append, catalogued_singleton, known, or_iff_left adds]
    rw [List.map_cons, acceptedSamples]
    cases call with
    | hello catalog utcNow =>
      exact ih fun uid => same uid (by simp [Call.received, BridgeMessage.Catalogues])
    | heartbeat startedAt count utcNow later =>
      exact ih fun uid => same uid (by simp [Call.received, BridgeMessage.Catalogues])
    | sampleBatch computer time utcNow =>
      rw [accepted_received known, readings]
      rw [ih fun uid => same uid (by simp [Call.received, BridgeMessage.Catalogues])]
    | catalogSnapshot catalog utcNow =>
      refine ih fun uid => next uid _ ?_
      rw [catalogues_received]
      simp

end Run

/-! ## What the history answers -/

section Deliveries

variable {encoder : Json.Encoder} (formatDouble : Double → Bytes)
variable {environment : Environment} {options : BridgeOptions} {startedAt : DateTimeOffset}

/-- A run in which no command fails stores the readings that it reads. -/
theorem sensorSamples_of_readFrom (read : List (List Call)) :
    (replay (read.flatten.map (Call.received environment options))
        Database.empty).sensorSamples =
      (∅ : Table SampleKey SampleRow).putAll (readings options.source [] read.flatten) := by
  have none_ (uid : NetString) : Catalogued [] uid.utf8 ↔ uid ∈ ([] : List NetString) := by
    simp [Catalogued]
  rw [replay_sensorSamples _ [] Database.empty catalogued_empty, acceptedSamples_received none_]
  rfl

/-- **`/v1/history` shows the readings of the sensors.** Start the host on an empty database
and let no command fail: of each connection it reads a beginning of what the bridge sent, and
from then on the history of a sensor lists the readings of it that were read once it was
catalogued, the last for each time, newest first. -/
theorem history_of_deliveries
    (deliveries : List (Delivery encoder environment options startedAt)) :
    ∃ read, ReadFrom deliveries read ∧
      ∀ sensorUid fromMs toMs limit rows,
        (Query.history sensorUid fromMs toMs limit).Returns
          (handleAll formatDouble (fun _ _ => false)
            (NamedPipeServer.run (deliveries.map Delivery.chunks))
            (Conn.closed Database.empty)).db (.history rows) →
        IsHistory (readings options.source [] read.flatten) sensorUid fromMs toMs limit rows := by
  obtain ⟨read, reads, same⟩ := exists_readFrom formatDouble deliveries
  refine ⟨read, reads, fun sensorUid fromMs toMs limit rows returned => ?_⟩
  obtain ⟨applied, -, ended, all⟩ := handleAll_closed formatDouble (fun _ _ => false)
    (NamedPipeServer.run (deliveries.map Delivery.chunks)) Database.empty
  rw [ended, all fun _ _ => rfl, same] at returned
  exact isHistory_of_returns (sensorSamples_of_readFrom read) returned

end Deliveries

end LibreHwBridge

end CapacityAgent

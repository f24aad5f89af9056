/-
# What the sample tables mean after a run

`sensor_catalog` holds the sensors some applied catalog named, and
`sensor_samples` the last accepted sample for every sensor and time, where a
sample is accepted when a catalog applied before its batch named the sensor. The
view `latest_sensor_samples` then has one row for every sensor with samples.
-/

import CapacityAgent.Store.Ingest
import CapacityAgent.Library.Newest

namespace CapacityAgent

open KeyedTable Newest Connection

/-! ## Catalogued sensors -/

/-- The message is a catalog that names the sensor. -/
def BridgeMessage.Catalogues : BridgeMessage → CStr → Prop
  | .catalogSnapshot snapshot, uid => ∃ sensor ∈ snapshot.sensors, sensor.sensorUid = uid
  | _, _ => False

instance (message : BridgeMessage) (uid : CStr) : Decidable (message.Catalogues uid) :=
  match message with
  | .catalogSnapshot snapshot =>
    inferInstanceAs (Decidable (∃ sensor ∈ snapshot.sensors, sensor.sensorUid = uid))
  | .hello _ | .sampleBatch _ | .heartbeat _ => inferInstanceAs (Decidable False)

/-- One of the messages is a catalog that names the sensor. -/
def Catalogued (messages : List BridgeMessage) (uid : CStr) : Prop :=
  ∃ message ∈ messages, message.Catalogues uid

instance (messages : List BridgeMessage) (uid : CStr) : Decidable (Catalogued messages uid) :=
  inferInstanceAs (Decidable (∃ message ∈ messages, message.Catalogues uid))

theorem catalogued_append (first second : List BridgeMessage) (uid : CStr) :
    Catalogued (first ++ second) uid ↔ Catalogued first uid ∨ Catalogued second uid := by
  simp only [Catalogued, List.mem_append, or_and_right, exists_or]

theorem catalogued_singleton (message : BridgeMessage) (uid : CStr) :
    Catalogued [message] uid ↔ message.Catalogues uid := by
  simp [Catalogued]

theorem mem_foldl_upsertCatalogSensor (envelope : MessageEnvelope) (sensors : List CatalogSensor)
    (uid : CStr) (db : Database) :
    uid ∈ (sensors.foldl (fun db sensor => upsertCatalogSensor envelope sensor db)
        db).sensorCatalog ↔
      (∃ sensor ∈ sensors, sensor.sensorUid = uid) ∨ uid ∈ db.sensorCatalog := by
  induction sensors generalizing db with
  | nil => simp
  | cons sensor rest ih =>
    have first : uid ∈ (upsertCatalogSensor envelope sensor db).sensorCatalog ↔
        uid = sensor.sensorUid ∨ uid ∈ db.sensorCatalog := Table.mem_upsert ..
    rw [List.foldl_cons, ih, first, List.exists_mem_cons_iff, eq_comm, or_left_comm, or_assoc]

theorem foldl_upsertCatalogSensor_samples (envelope : MessageEnvelope)
    (sensors : List CatalogSensor) (db : Database) :
    (sensors.foldl (fun db sensor => upsertCatalogSensor envelope sensor db) db).sensorSamples =
      db.sensorSamples := by
  induction sensors generalizing db with
  | nil => rfl
  | cons sensor rest ih => exact ih _

theorem foldl_storeSample_catalog (batch : SampleBatchMessage) (samples : List SensorSample)
    (db : Database) :
    (samples.foldl (fun db sample => storeSample batch sample db) db).sensorCatalog =
      db.sensorCatalog := by
  induction samples generalizing db with
  | nil => rfl
  | cons sample rest ih => rw [List.foldl_cons, ih, storeSample_sensorCatalog]

/-- A message catalogues the sensors of a catalog and no others. -/
theorem mem_effect_sensorCatalog (message : BridgeMessage) (uid : CStr) (db : Database) :
    uid ∈ (message.effect db).sensorCatalog ↔
      message.Catalogues uid ∨ uid ∈ db.sensorCatalog := by
  cases message with
  | hello message => simp [BridgeMessage.effect, BridgeMessage.Catalogues]; rfl
  | heartbeat message => simp [BridgeMessage.effect, BridgeMessage.Catalogues]; rfl
  | catalogSnapshot message => exact mem_foldl_upsertCatalogSensor ..
  | sampleBatch message =>
    simp [BridgeMessage.effect, BridgeMessage.Catalogues, BridgeMessage.elementsEffect,
      foldl_storeSample_catalog]
    rfl

/-- After a run, the catalog holds what the run catalogued and what was there. -/
theorem mem_replay_sensorCatalog (messages : List BridgeMessage) (uid : CStr) (db : Database) :
    uid ∈ (replay messages db).sensorCatalog ↔
      Catalogued messages uid ∨ uid ∈ db.sensorCatalog := by
  induction messages generalizing db with
  | nil => simp [replay, Catalogued]
  | cons message rest ih =>
    have next : replay (message :: rest) db = replay rest (message.effect db) := rfl
    rw [next, ih, mem_effect_sensorCatalog, Catalogued, Catalogued, List.exists_mem_cons_iff,
      or_left_comm, or_assoc]

/-! ## Accepted samples -/

/-- The key and row a sample of a batch is stored as. -/
def SampleBatchMessage.entry (batch : SampleBatchMessage) (sample : SensorSample) :
    SampleKey × SampleRow :=
  (⟨sample.sensorUid, batch.sampleTimeUtcMs⟩, batch.row sample)

/-- The samples a message contributes when `earlier` has been applied before it. -/
def BridgeMessage.accepted (earlier : List BridgeMessage) :
    BridgeMessage → List (SampleKey × SampleRow)
  | .sampleBatch batch =>
    (batch.samples.filter fun sample => Catalogued earlier sample.sensorUid).map batch.entry
  | _ => []

/-- The samples a run contributes, in order of application. -/
def acceptedSamples : List BridgeMessage → List BridgeMessage → List (SampleKey × SampleRow)
  | _, [] => []
  | earlier, message :: rest =>
    message.accepted earlier ++ acceptedSamples (earlier ++ [message]) rest

/-- A batch puts its accepted samples. -/
theorem foldl_storeSample_samples (batch : SampleBatchMessage) (earlier : List BridgeMessage)
    (samples : List SensorSample) (db : Database)
    (catalog : ∀ uid, uid ∈ db.sensorCatalog ↔ Catalogued earlier uid) :
    (samples.foldl (fun db sample => storeSample batch sample db) db).sensorSamples =
      db.sensorSamples.putAll
        ((samples.filter fun sample => Catalogued earlier sample.sensorUid).map batch.entry) := by
  induction samples generalizing db with
  | nil => rfl
  | cons sample rest ih =>
    have next : ∀ uid, uid ∈ (storeSample batch sample db).sensorCatalog ↔
        Catalogued earlier uid := fun uid => by rw [storeSample_sensorCatalog, catalog]
    rw [List.foldl_cons, ih _ next, storeSample_sensorSamples]
    -- `WHERE EXISTS` keeps the sample or drops it, as the filter does
    by_cases known : Catalogued earlier sample.sensorUid
    · rw [if_pos ((catalog _).mpr known), List.filter_cons_of_pos (by simpa using known)]
      rfl
    · rw [if_neg fun here => known ((catalog _).mp here),
        List.filter_cons_of_neg (by simpa using known)]

theorem effect_sensorSamples (message : BridgeMessage) (earlier : List BridgeMessage)
    (db : Database) (catalog : ∀ uid, uid ∈ db.sensorCatalog ↔ Catalogued earlier uid) :
    (message.effect db).sensorSamples = db.sensorSamples.putAll (message.accepted earlier) := by
  cases message with
  | hello message => rfl
  | heartbeat message => rfl
  | catalogSnapshot message => exact foldl_upsertCatalogSensor_samples ..
  | sampleBatch message => exact foldl_storeSample_samples message earlier message.samples _ catalog

/-- A run puts its accepted samples in order. -/
theorem replay_sensorSamples (messages earlier : List BridgeMessage) (db : Database)
    (catalog : ∀ uid, uid ∈ db.sensorCatalog ↔ Catalogued earlier uid) :
    (replay messages db).sensorSamples =
      db.sensorSamples.putAll (acceptedSamples earlier messages) := by
  induction messages generalizing earlier db with
  | nil => rfl
  | cons message rest ih =>
    -- the invariant: the catalog holds exactly what has been catalogued so far
    have next : ∀ uid, uid ∈ (message.effect db).sensorCatalog ↔
        Catalogued (earlier ++ [message]) uid := fun uid => by
      rw [mem_effect_sensorCatalog, catalog, catalogued_append, catalogued_singleton, or_comm]
    have step : replay (message :: rest) db = replay rest (message.effect db) := rfl
    rw [step, ih (earlier ++ [message]) _ next, effect_sensorSamples message earlier db catalog,
      acceptedSamples, Table.putAll_append]

/-- Where an accepted sample comes from. -/
theorem mem_acceptedSamples (messages earlier : List BridgeMessage)
    (entry : SampleKey × SampleRow) :
    entry ∈ acceptedSamples earlier messages ↔
      ∃ before batch after, messages = before ++ .sampleBatch batch :: after ∧
        ∃ sample ∈ batch.samples, Catalogued (earlier ++ before) sample.sensorUid ∧
          batch.entry sample = entry := by
  induction messages generalizing earlier with
  | nil =>
    refine ⟨fun here => absurd here List.not_mem_nil, ?_⟩
    rintro ⟨before, batch, after, split, -⟩
    simp at split
  | cons message rest ih =>
    rw [acceptedSamples, List.mem_append, ih]
    constructor
    -- the sample is of the first message, with nothing before it, or of a later one
    · rintro (here | ⟨before, batch, after, rfl, sample, member, known, same⟩)
      · cases message with
        | sampleBatch batch =>
          obtain ⟨sample, kept, same⟩ := List.mem_map.mp here
          obtain ⟨member, known⟩ := List.mem_filter.mp kept
          refine ⟨[], batch, rest, rfl, sample, member, ?_, same⟩
          simpa using known
        | hello _ => exact absurd here List.not_mem_nil
        | catalogSnapshot _ => exact absurd here List.not_mem_nil
        | heartbeat _ => exact absurd here List.not_mem_nil
      · refine ⟨message :: before, batch, after, rfl, sample, member, ?_, same⟩
        simpa using known
    · rintro ⟨before, batch, after, split, sample, member, known, same⟩
      cases before with
      | nil =>
        obtain ⟨rfl, rfl⟩ := List.cons.inj split
        refine .inl (List.mem_map.mpr ⟨sample, List.mem_filter.mpr ⟨member, ?_⟩, same⟩)
        simpa using known
      | cons first before =>
        obtain ⟨rfl, rfl⟩ := List.cons.inj split
        refine .inr ⟨before, batch, after, rfl, sample, member, ?_, same⟩
        simpa using known

theorem catalogued_empty (uid : CStr) :
    uid ∈ Database.empty.sensorCatalog ↔ Catalogued [] uid := by
  simp [Database.empty, Catalogued]

/-- The sample table after a run holds the accepted samples, each key under the last
sample accepted for it. -/
theorem storeAfter_sensorSamples (attempts : List Attempt) :
    (storeAfter attempts).sensorSamples =
      (∅ : Table SampleKey SampleRow).putAll (acceptedSamples [] (appliedMessages attempts)) := by
  rw [storeAfter_eq, replay_sensorSamples _ [] _ catalogued_empty]
  rfl

theorem lookup_storeAfter (attempts : List Attempt) (key : SampleKey)
    (row : SampleRow) :
    (storeAfter attempts).sensorSamples.lookup key = some row ↔
      Table.LastEntry (acceptedSamples [] (appliedMessages attempts)) key row := by
  rw [storeAfter_sensorSamples, Table.lookup_putAll]
  simp

/-- A row exists exactly when a batch sampled the sensor after a catalog named it. -/
theorem mem_storeAfter (attempts : List Attempt) (uid : CStr) (t : ℤ) :
    ⟨uid, t⟩ ∈ (storeAfter attempts).sensorSamples ↔
      ∃ before batch after, appliedMessages attempts = before ++ .sampleBatch batch :: after ∧
        batch.sampleTimeUtcMs = t ∧ (∃ sample ∈ batch.samples, sample.sensorUid = uid) ∧
        Catalogued before uid := by
  rw [storeAfter_sensorSamples, Table.mem_putAll]
  constructor
  · rintro (⟨entry, member, same⟩ | impossible)
    · obtain ⟨before, batch, after, split, sample, inBatch, known, rfl⟩ :=
        (mem_acceptedSamples _ [] entry).mp member
      obtain ⟨rfl, rfl⟩ := SampleKey.mk.inj same
      exact ⟨before, batch, after, split, rfl, ⟨sample, inBatch, rfl⟩, known⟩
    · exact absurd impossible (AList.notMem_empty _)
  · rintro ⟨before, batch, after, split, rfl, ⟨sample, inBatch, rfl⟩, known⟩
    refine .inl ⟨batch.entry sample, ?_, rfl⟩
    exact (mem_acceptedSamples _ [] _).mpr
      ⟨before, batch, after, split, sample, inBatch, known, rfl⟩

/-- Every sampled sensor is catalogued. -/
theorem mem_sensorCatalog_of_mem_storeAfter (attempts : List Attempt)
    {key : SampleKey} (stored : key ∈ (storeAfter attempts).sensorSamples) :
    key.sensorUid ∈ (storeAfter attempts).sensorCatalog := by
  obtain ⟨before, batch, after, split, -, -, known⟩ := (mem_storeAfter attempts _ _).mp stored
  rw [storeAfter_eq, mem_replay_sensorCatalog, split, catalogued_append]
  exact .inl (.inl known)

/-! ## The view -/

/-- A stored sample with its key. -/
abbrev StoredSample := SampleKey × SampleRow

def StoredSample.uid (sample : StoredSample) : CStr := sample.1.sensorUid

def StoredSample.ts (sample : StoredSample) : ℤ := sample.1.tsUtcMs

/-- `latest_sensor_samples`. -/
def latestSensorSamples (db : Database) : List StoredSample :=
  joinNewest StoredSample.uid StoredSample.ts db.sensorSamples.rows

/-- The rows of a sensor in the view. -/
def latestOf (db : Database) (uid : CStr) : List StoredSample :=
  (latestSensorSamples db).filter fun sample => sample.uid = uid

theorem latestOf_eq (db : Database) (uid : CStr) :
    latestOf db uid =
      newest StoredSample.ts (members StoredSample.uid db.sensorSamples.rows uid) :=
  members_joinNewest _ uid

/-- The stored samples of a sensor. -/
theorem mem_members_rows {db : Database} {uid : CStr} {sample : StoredSample} :
    sample ∈ members StoredSample.uid db.sensorSamples.rows uid ↔
      db.sensorSamples.lookup sample.1 = some sample.2 ∧ sample.1.sensorUid = uid :=
  mem_members.trans (and_congr_left' Table.mem_rows)

/-- Within a sensor the time is the rest of the primary key. -/
theorem eq_of_ts_eq {db : Database} {uid : CStr} {sample other : StoredSample}
    (first : sample ∈ members StoredSample.uid db.sensorSamples.rows uid)
    (second : other ∈ members StoredSample.uid db.sensorSamples.rows uid)
    (same : sample.ts = other.ts) : sample = other := by
  obtain ⟨firstListed, firstUid⟩ := mem_members.mp first
  obtain ⟨secondListed, secondUid⟩ := mem_members.mp second
  have key : sample.1 = other.1 := SampleKey.ext (firstUid.trans secondUid.symm) same
  exact Table.eq_of_mem_rows firstListed secondListed key

/-- A sensor with a stored sample has one row in the view, its newest sample. -/
theorem latestOf_eq_singleton (db : Database) {uid : CStr} {t₀ : ℤ}
    (stored : ⟨uid, t₀⟩ ∈ db.sensorSamples) :
    ∃ t row, latestOf db uid = [(⟨uid, t⟩, row)] ∧
      db.sensorSamples.lookup ⟨uid, t⟩ = some row ∧
      ∀ t', ⟨uid, t'⟩ ∈ db.sensorSamples → t' ≤ t := by
  obtain ⟨row₀, found⟩ := Table.mem_iff_exists_lookup.mp stored
  have member : (⟨uid, t₀⟩, row₀) ∈ members StoredSample.uid db.sensorSamples.rows uid :=
    mem_members_rows.mpr ⟨found, rfl⟩
  obtain ⟨⟨⟨uid', t⟩, row⟩, top, only, largest⟩ :=
    -- the times of one sensor's rows tell them apart, so one of them is newest
    exists_newest_eq_singleton (db.sensorSamples.nodup_rows.filter _)
      (fun _ first _ second => eq_of_ts_eq first second) member
  obtain ⟨here, same⟩ := mem_members_rows.mp top
  obtain rfl : uid' = uid := same
  refine ⟨t, row, (latestOf_eq db uid').trans only, here, fun t' stored' => ?_⟩
  obtain ⟨row', found'⟩ := Table.mem_iff_exists_lookup.mp stored'
  exact largest (⟨uid', t'⟩, row') (mem_members_rows.mpr ⟨found', rfl⟩)

/-- A sensor without samples has no row in the view. -/
theorem latestOf_eq_nil (db : Database) {uid : CStr}
    (absent : ∀ t, ⟨uid, t⟩ ∉ db.sensorSamples) : latestOf db uid = [] := by
  rw [latestOf_eq, List.eq_nil_iff_forall_not_mem]
  rintro ⟨⟨uid', t⟩, row⟩ here
  obtain ⟨found, same⟩ := mem_members_rows.mp (mem_newest.mp here).1
  obtain rfl : uid' = uid := same
  exact absent t (Table.mem_iff_exists_lookup.mpr ⟨row, found⟩)

/-- **The meaning of the sample store after any run.** A row exists exactly for the
samples taken of a sensor an earlier catalog named; there is one row for a key and
it is that of the last such sample; sampled sensors are catalogued; no batch is
refused for the sensors it names; and the view has, for a sensor with samples, its
newest row alone. -/
theorem sampleStore_meaning (attempts : List Attempt) :
    (∀ uid t, ⟨uid, t⟩ ∈ (storeAfter attempts).sensorSamples ↔
      ∃ before batch after, appliedMessages attempts = before ++ .sampleBatch batch :: after ∧
        batch.sampleTimeUtcMs = t ∧ (∃ sample ∈ batch.samples, sample.sensorUid = uid) ∧
        Catalogued before uid) ∧
    (∀ key row, (storeAfter attempts).sensorSamples.lookup key = some row ↔
      Table.LastEntry (acceptedSamples [] (appliedMessages attempts)) key row) ∧
    ((storeAfter attempts).sensorSamples.rows.map Prod.fst).Nodup ∧
    (∀ key ∈ (storeAfter attempts).sensorSamples,
      key.sensorUid ∈ (storeAfter attempts).sensorCatalog) ∧
    (∀ batch fails, (∀ n, fails n = false) →
      (persist fails (.sampleBatch batch) (Conn.closed (storeAfter attempts))).1 = true) ∧
    (∀ uid, (∀ t, ⟨uid, t⟩ ∉ (storeAfter attempts).sensorSamples) →
      latestOf (storeAfter attempts) uid = []) ∧
    ∀ uid t₀, ⟨uid, t₀⟩ ∈ (storeAfter attempts).sensorSamples →
      ∃ t row, latestOf (storeAfter attempts) uid = [(⟨uid, t⟩, row)] ∧
        (storeAfter attempts).sensorSamples.lookup ⟨uid, t⟩ = some row ∧
        ∀ t', ⟨uid, t'⟩ ∈ (storeAfter attempts).sensorSamples → t' ≤ t := by
  refine ⟨mem_storeAfter attempts, lookup_storeAfter attempts, Table.nodup_keys_rows _,
    fun key => mem_sensorCatalog_of_mem_storeAfter attempts, fun batch fails healthy => ?_,
    fun uid => latestOf_eq_nil _, fun uid t₀ => latestOf_eq_singleton _⟩
  rw [persist_of_healthy _ healthy]

end CapacityAgent

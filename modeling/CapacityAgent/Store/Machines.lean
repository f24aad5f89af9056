/-
# Machines and each other's rows

Every query filters by `machine_id`, but the rows are written by other keys: a sensor
by its `sensor_uid`, a health row by `machine_id` and `source` run together. A message
of one machine leaves what is answered about another one exactly when it meets none of
that machine's rows, or only samples that show no difference.
-/

import CapacityAgent.Store.SystemSection
import CapacityAgent.Store.Health
import CapacityAgent.Store.Isolation

namespace CapacityAgent

open KeyedTable Newest Reordering Select

/-! ## What a sensor shows -/

/-- The newest value stored of a sensor. -/
def newestValue (db : Database) (uid : CStr) : Option Double :=
  (latestOf db uid).head?.map fun sample => sample.2.value

theorem newestValue_eq_some_iff {db : Database} {uid : CStr} {value : Double} :
    newestValue db uid = some value ↔
      ∃ t row, db.sensorSamples.lookup ⟨uid, t⟩ = some row ∧
        (∀ t', ⟨uid, t'⟩ ∈ db.sensorSamples → t' ≤ t) ∧ row.value = value := by
  unfold newestValue
  constructor
  · intro shown
    obtain ⟨⟨⟨uid', t⟩, row⟩, first, rfl⟩ := Option.map_eq_some_iff.mp shown
    have listed := List.mem_of_head? first
    rw [latestOf_eq] at listed
    obtain ⟨member, largest⟩ := mem_newest.mp listed
    obtain ⟨found, same⟩ := mem_members_rows.mp member
    obtain rfl : uid' = uid := same
    refine ⟨t, row, found, fun t' stored => ?_, rfl⟩
    obtain ⟨row', found'⟩ := Table.mem_iff_exists_lookup.mp stored
    exact largest (⟨uid', t'⟩, row') (mem_members_rows.mpr ⟨found', rfl⟩)
  · rintro ⟨t, row, found, largest, rfl⟩
    have stored : ⟨uid, t⟩ ∈ db.sensorSamples := Table.mem_iff_exists_lookup.mpr ⟨row, found⟩
    obtain ⟨top, topRow, only, topFound, topLargest⟩ := latestOf_eq_singleton db stored
    have topStored : ⟨uid, top⟩ ∈ db.sensorSamples :=
      Table.mem_iff_exists_lookup.mpr ⟨topRow, topFound⟩
    obtain rfl := le_antisymm (largest top topStored) (topLargest t stored)
    obtain rfl := Option.some.inj (topFound.symm.trans found)
    rw [only]
    rfl

/-- The row of the system statement for a sensor with a value. -/
def SensorRow.systemRow (sensor : SensorRow) (value : Double) : SystemRow :=
  ⟨sensor.sensorName, sensor.sensorType, sensor.hardwareType, value⟩

theorem mem_latestSensorSamples {db : Database} {sample : StoredSample} :
    sample ∈ latestSensorSamples db ↔ sample ∈ latestOf db sample.uid := by
  rw [latestOf, List.mem_filter]
  exact (and_iff_left (by simp)).symm

theorem mem_systemRows {machineId : CStr} {db : Database} {row : SystemRow} :
    row ∈ systemRows machineId db ↔
      ∃ uid sensor value, db.sensorCatalog.lookup uid = some sensor ∧
        (sensor.machineId = machineId ∧ sensor.hardwareType ∈ [text "Cpu", text "Memory"] ∧
          sensor.sensorType ∈ [text "Temperature", text "Load", text "Data"]) ∧
        newestValue db uid = some value ∧ row = sensor.systemRow value := by
  unfold systemRows
  rw [List.mem_filterMap]
  constructor
  · rintro ⟨sample, listed, joined⟩
    cases found : db.sensorCatalog.lookup sample.uid with
    | none =>
      rw [found] at joined
      exact absurd joined (by simp)
    | some sensor =>
      rw [found] at joined
      dsimp only at joined
      split_ifs at joined with own
      have top := mem_latestSensorSamples.mp listed
      rw [latestOf_eq] at top
      obtain ⟨member, largest⟩ := mem_newest.mp top
      refine ⟨sample.uid, sensor, sample.2.value, found, own, ?_, (Option.some.inj joined).symm⟩
      refine newestValue_eq_some_iff.mpr
        ⟨sample.ts, sample.2, (mem_members_rows.mp member).1, fun t' stored => ?_, rfl⟩
      obtain ⟨row', found'⟩ := Table.mem_iff_exists_lookup.mp stored
      exact largest (⟨sample.uid, t'⟩, row') (mem_members_rows.mpr ⟨found', rfl⟩)
  · rintro ⟨uid, sensor, value, found, own, shown, rfl⟩
    obtain ⟨t, row, stored, largest, rfl⟩ := newestValue_eq_some_iff.mp shown
    refine ⟨(⟨uid, t⟩, row), mem_latestSensorSamples.mpr ?_, ?_⟩
    · rw [latestOf_eq]
      refine mem_newest.mpr ⟨mem_members_rows.mpr ⟨stored, rfl⟩, fun other member => ?_⟩
      obtain ⟨otherFound, same⟩ := mem_members_rows.mp member
      have key : (⟨uid, other.1.tsUtcMs⟩ : SampleKey) = other.1 := SampleKey.ext same.symm rfl
      exact largest other.1.tsUtcMs
        (Table.mem_iff_exists_lookup.mpr ⟨other.2, by rw [key, otherFound]⟩)
    · have found' : db.sensorCatalog.lookup (StoredSample.uid (⟨uid, t⟩, row)) = some sensor :=
        found
      rw [found']
      exact if_pos own

/-- Some sensor of the machine has `x` selected, by the values the sensors have. -/
def Shows {β : Type} (select : SystemRow → Option β) (machineId : CStr) (db : Database)
    (values : CStr → Option Double) (x : β) : Prop :=
  ∃ uid sensor value, db.sensorCatalog.lookup uid = some sensor ∧ sensor.machineId = machineId ∧
    values uid = some value ∧ select (sensor.systemRow value) = some x

/-- The fields of the system section can be given the same values. -/
structure SameShown (machineId : CStr) (db db' : Database) (values values' : CStr → Option Double) :
    Prop where
  temperature : ∀ x, Shows SystemRow.cpuTemperature? machineId db values x ↔
    Shows SystemRow.cpuTemperature? machineId db' values' x
  load : ∀ x, Shows SystemRow.cpuTotalLoad? machineId db values x ↔
    Shows SystemRow.cpuTotalLoad? machineId db' values' x
  memory : ∀ x, Shows SystemRow.memoryUsed? machineId db values x ↔
    Shows SystemRow.memoryUsed? machineId db' values' x

/-! ## What a message writes -/

/-- A catalog takes over the sensors it names and no others. -/
theorem lookup_foldl_upsertCatalogSensor (envelope : MessageEnvelope)
    (sensors : List CatalogSensor) (db : Database) (uid : CStr) :
    ((∃ sensor ∈ sensors, sensor.sensorUid = uid) →
        ∃ row, (sensors.foldl (fun db sensor => upsertCatalogSensor envelope sensor db)
            db).sensorCatalog.lookup uid = some row ∧ row.machineId = envelope.machineId) ∧
      ((¬ ∃ sensor ∈ sensors, sensor.sensorUid = uid) →
        (sensors.foldl (fun db sensor => upsertCatalogSensor envelope sensor db)
          db).sensorCatalog.lookup uid = db.sensorCatalog.lookup uid) := by
  induction sensors using List.reverseRecOn with
  | nil => exact ⟨fun ⟨_, member, _⟩ => absurd member List.not_mem_nil, fun _ => rfl⟩
  | append_singleton earlier last ih =>
    obtain ⟨taken, kept⟩ := ih
    rw [List.foldl_append, List.foldl_cons, List.foldl_nil]
    generalize earlier.foldl (fun db sensor => upsertCatalogSensor envelope sensor db) db = db'
      at taken kept
    by_cases own : last.sensorUid = uid
    · subst own
      refine ⟨fun _ => ?_, fun others => absurd ⟨last, by simp, rfl⟩ others⟩
      refine ⟨_, Table.lookup_upsert_self _ _ _ _, ?_⟩
      cases db'.sensorCatalog.lookup last.sensorUid <;> rfl
    · have same : (upsertCatalogSensor envelope last db').sensorCatalog.lookup uid =
          db'.sensorCatalog.lookup uid := Table.lookup_upsert_of_ne _ _ _ (Ne.symm own)
      rw [same]
      simp only [List.mem_append, List.mem_singleton, or_and_right, exists_or, exists_eq_left, own,
        or_false]
      exact ⟨taken, kept⟩

/-- After a message, a sensor it catalogues belongs to its machine. -/
theorem lookup_effect_sensorCatalog (message : BridgeMessage) (db : Database) (uid : CStr) :
    (message.Catalogues uid →
        ∃ row, (message.effect db).sensorCatalog.lookup uid = some row ∧
          row.machineId = message.envelope.machineId) ∧
      (¬ message.Catalogues uid →
        (message.effect db).sensorCatalog.lookup uid = db.sensorCatalog.lookup uid) := by
  cases message with
  | hello message => exact ⟨fun none => none.elim, fun _ => rfl⟩
  | heartbeat message => exact ⟨fun none => none.elim, fun _ => rfl⟩
  | catalogSnapshot snapshot =>
    exact lookup_foldl_upsertCatalogSensor snapshot.envelope snapshot.sensors _ uid
  | sampleBatch batch =>
    refine ⟨fun none => none.elim, fun _ => ?_⟩
    exact congrArg (AList.lookup uid) (foldl_storeSample_catalog batch batch.samples _)

/-- The last sample of a batch for a sensor. -/
def SampleBatchMessage.lastOf (batch : SampleBatchMessage) (uid : CStr) : Option SensorSample :=
  (batch.samples.filter fun sample => sample.sensorUid = uid).getLast?

/-- A batch replaces the row of its time, for catalogued sensors it has a sample of. -/
theorem lookup_effect_sensorSamples (batch : SampleBatchMessage) (db : Database) (uid : CStr)
    (t : ℤ) :
    ((BridgeMessage.sampleBatch batch).effect db).sensorSamples.lookup ⟨uid, t⟩ =
      if t = batch.sampleTimeUtcMs ∧ uid ∈ db.sensorCatalog then
        ((batch.lastOf uid).map batch.row).or (db.sensorSamples.lookup ⟨uid, t⟩)
      else db.sensorSamples.lookup ⟨uid, t⟩ := by
  have run : ∀ (samples : List SensorSample) (db : Database),
      (samples.foldl (fun db sample => storeSample batch sample db) db).sensorSamples.lookup
          ⟨uid, t⟩ =
        if t = batch.sampleTimeUtcMs ∧ uid ∈ db.sensorCatalog then
          (((samples.filter fun sample => sample.sensorUid = uid).getLast?).map batch.row).or
            (db.sensorSamples.lookup ⟨uid, t⟩)
        else db.sensorSamples.lookup ⟨uid, t⟩ := by
    intro samples db
    induction samples using List.reverseRecOn with
    | nil => simp
    | append_singleton earlier last ih =>
      rw [List.foldl_append, List.foldl_cons, List.foldl_nil, storeSample_sensorSamples,
        foldl_storeSample_catalog]
      by_cases own : last.sensorUid = uid
      · subst own
        rw [List.filter_append, List.filter_cons_of_pos (by simp), List.filter_nil,
          List.getLast?_concat]
        by_cases known : last.sensorUid ∈ db.sensorCatalog
        · rw [if_pos known, Table.lookup_put]
          by_cases now : t = batch.sampleTimeUtcMs
          · subst now
            rw [if_pos rfl, if_pos ⟨rfl, known⟩]
            rfl
          · rw [if_neg (fun same => now (SampleKey.mk.inj same).2), if_neg fun both => now both.1,
              ih, if_neg fun both => now both.1]
        · rw [if_neg known, if_neg fun both => known both.2, ih, if_neg fun both => known both.2]
      · rw [List.filter_append, List.filter_cons_of_neg (by simpa using own), List.filter_nil,
          List.append_nil, ← ih]
        split_ifs
        · exact Table.lookup_put_of_ne _ _ fun same => own (SampleKey.mk.inj same).1.symm
        · rfl
  exact run batch.samples _

/-- The values the sensors show after a batch: where its time is not before a sample of
the sensor, the last value it has for it. -/
def SampleBatchMessage.updated (batch : SampleBatchMessage) (db : Database) (uid : CStr) :
    Option Double :=
  if ∀ key ∈ db.sensorSamples.keys, key.sensorUid = uid → key.tsUtcMs ≤ batch.sampleTimeUtcMs then
    ((batch.lastOf uid).map (·.value)).or (newestValue db uid)
  else newestValue db uid

theorem newestValue_congr {db db' : Database} {uid : CStr}
    (same : ∀ t, db'.sensorSamples.lookup ⟨uid, t⟩ = db.sensorSamples.lookup ⟨uid, t⟩) :
    newestValue db' uid = newestValue db uid := by
  ext value
  simp only [newestValue_eq_some_iff, Table.mem_iff_exists_lookup, same]

/-- The samples of the sensor are the same but for the row at one time. -/
structure RowSetAt (uid : CStr) (time : ℤ) (row : SampleRow) (db db' : Database) : Prop where
  here : db'.sensorSamples.lookup ⟨uid, time⟩ = some row
  others : ∀ t, t ≠ time → db'.sensorSamples.lookup ⟨uid, t⟩ = db.sensorSamples.lookup ⟨uid, t⟩

section RowSetAt

variable {uid : CStr} {time : ℤ} {row : SampleRow} {db db' : Database}

theorem RowSetAt.mem_iff (set : RowSetAt uid time row db db') (t : ℤ) :
    ⟨uid, t⟩ ∈ db'.sensorSamples ↔ t = time ∨ ⟨uid, t⟩ ∈ db.sensorSamples := by
  by_cases now : t = time
  · subst now
    exact iff_of_true (Table.mem_iff_exists_lookup.mpr ⟨row, set.here⟩) (.inl rfl)
  · simp only [Table.mem_iff_exists_lookup, set.others t now, now, false_or]

/-- The row is the newest one now. -/
theorem RowSetAt.newestValue_of_newest (set : RowSetAt uid time row db db')
    (newest : ∀ t, ⟨uid, t⟩ ∈ db.sensorSamples → t ≤ time) :
    newestValue db' uid = some row.value := by
  have only : ∀ t, ⟨uid, t⟩ ∈ db'.sensorSamples → t ≤ time := by
    intro t present
    rcases (set.mem_iff t).mp present with rfl | old
    · exact le_rfl
    · exact newest t old
  exact newestValue_eq_some_iff.mpr ⟨time, row, set.here, only, rfl⟩

/-- A newer row stays the newest. -/
theorem RowSetAt.newestValue_of_newer (set : RowSetAt uid time row db db') {newer : ℤ}
    (stored : ⟨uid, newer⟩ ∈ db.sensorSamples) (past : time < newer) :
    newestValue db' uid = newestValue db uid := by
  ext value
  simp only [newestValue_eq_some_iff]
  constructor
  · rintro ⟨t, row', found, largest, shown⟩
    have above : newer ≤ t := largest newer ((set.mem_iff newer).mpr (.inr stored))
    have other : t ≠ time := (past.trans_le above).ne'
    exact ⟨t, row', by rw [← found, set.others t other],
      fun t' old => largest t' ((set.mem_iff t').mpr (.inr old)), shown⟩
  · rintro ⟨t, row', found, largest, shown⟩
    have above : newer ≤ t := largest newer stored
    have other : t ≠ time := (past.trans_le above).ne'
    refine ⟨t, row', by rw [set.others t other, found], fun t' present => ?_, shown⟩
    rcases (set.mem_iff t').mp present with rfl | old
    · exact (past.trans_le above).le
    · exact largest t' old

end RowSetAt

theorem newestValue_effect (batch : SampleBatchMessage) {db : Database} {uid : CStr}
    (known : uid ∈ db.sensorCatalog) :
    newestValue ((BridgeMessage.sampleBatch batch).effect db) uid = batch.updated db uid := by
  have after := lookup_effect_sensorSamples batch db uid
  unfold SampleBatchMessage.updated
  cases last : batch.lastOf uid with
  | none =>
    -- the batch does not mention the sensor
    rw [Option.map_none, Option.none_or, ite_self]
    refine newestValue_congr fun t => ?_
    rw [after, last, Option.map_none, Option.none_or, ite_self]
  | some sample =>
    have set : RowSetAt uid batch.sampleTimeUtcMs (batch.row sample) db
        ((BridgeMessage.sampleBatch batch).effect db) := by
      refine ⟨?_, fun t other => by rw [after, if_neg fun both => other both.1]⟩
      rw [after, if_pos ⟨rfl, known⟩, last]
      rfl
    -- the batch's row is the newest one now, or a newer row stays the newest
    by_cases newest : ∀ key ∈ db.sensorSamples.keys, key.sensorUid = uid →
        key.tsUtcMs ≤ batch.sampleTimeUtcMs
    · rw [if_pos newest, set.newestValue_of_newest fun t old => newest ⟨uid, t⟩ old rfl]
      rfl
    · rw [if_neg newest]
      push Not at newest
      obtain ⟨⟨uid', newer⟩, stored, own, past⟩ := newest
      obtain rfl : uid' = uid := own
      exact set.newestValue_of_newer stored past

/-! ## The system section of a machine -/

/-- What is selected passes the conditions of the statement. -/
theorem SystemRow.listed_of_selected (row : SystemRow)
    (selected : row.cpuTemperature?.isSome ∨ row.cpuTotalLoad?.isSome ∨ row.memoryUsed?.isSome) :
    row.hardwareType ∈ [text "Cpu", text "Memory"] ∧
      row.sensorType ∈ [text "Temperature", text "Load", text "Data"] := by
  unfold cpuTemperature? cpuTotalLoad? memoryUsed? at selected
  rcases selected with temperature | load | memory
  · split_ifs at temperature with mine
    · simp [mine.1, mine.2]
    · exact absurd temperature Bool.false_ne_true
  · split_ifs at load with mine
    · simp [mine.1, mine.2.1]
    · exact absurd load Bool.false_ne_true
  · split_ifs at memory with mine
    · simp [mine.1, mine.2.1]
    · exact absurd memory Bool.false_ne_true

theorem exists_systemRow_iff {β : Type} {select : SystemRow → Option β}
    (listed : ∀ row x, select row = some x → row.hardwareType ∈ [text "Cpu", text "Memory"] ∧
      row.sensorType ∈ [text "Temperature", text "Load", text "Data"])
    (machineId : CStr) (db : Database) (x : β) :
    (∃ row ∈ systemRows machineId db, select row = some x) ↔
      Shows select machineId db (newestValue db) x := by
  constructor
  · rintro ⟨row, member, matched⟩
    obtain ⟨uid, sensor, value, found, own, shown, rfl⟩ := mem_systemRows.mp member
    exact ⟨uid, sensor, value, found, own.1, shown, matched⟩
  · rintro ⟨uid, sensor, value, found, own, shown, matched⟩
    have member := mem_systemRows.mpr
      ⟨uid, sensor, value, found, ⟨own, listed _ x matched⟩, shown, rfl⟩
    exact ⟨sensor.systemRow value, member, matched⟩

theorem exists_cpuTemperature_iff (machineId : CStr) (db : Database) (x : Double) :
    (∃ row ∈ systemRows machineId db, row.cpuTemperature? = some x) ↔
      Shows SystemRow.cpuTemperature? machineId db (newestValue db) x :=
  exists_systemRow_iff (fun row _ matched => row.listed_of_selected (.inl (by simp [matched])))
    machineId db x

theorem exists_cpuTotalLoad_iff (machineId : CStr) (db : Database) (x : Double) :
    (∃ row ∈ systemRows machineId db, row.cpuTotalLoad? = some x) ↔
      Shows SystemRow.cpuTotalLoad? machineId db (newestValue db) x :=
  exists_systemRow_iff
    (fun row _ matched => row.listed_of_selected (.inr (.inl (by simp [matched])))) machineId db x

theorem exists_memoryUsed_iff (machineId : CStr) (db : Database) (x : ℤ) :
    (∃ row ∈ systemRows machineId db, row.memoryUsed? = some x) ↔
      Shows SystemRow.memoryUsed? machineId db (newestValue db) x :=
  exists_systemRow_iff
    (fun row _ matched => row.listed_of_selected (.inr (.inr (by simp [matched])))) machineId db x

/-- Answers that are included in another database's are so field by field. -/
theorem selects_of_systemAnswers {machineId : CStr} {db db' : Database}
    (included : ∀ metrics, SystemAnswer machineId db metrics →
      SystemAnswer machineId db' metrics) :
    (∀ x, Selects SystemRow.cpuTemperature? (systemRows machineId db) x →
        Selects SystemRow.cpuTemperature? (systemRows machineId db') x) ∧
      (∀ x, Selects SystemRow.cpuTotalLoad? (systemRows machineId db) x →
          Selects SystemRow.cpuTotalLoad? (systemRows machineId db') x) ∧
        ∀ x, Selects SystemRow.memoryUsed? (systemRows machineId db) x →
          Selects SystemRow.memoryUsed? (systemRows machineId db') x := by
  -- the other fields are those of some answer
  obtain ⟨package, total, used⟩ := systemAnswer_iff.mp
    (⟨_, List.Perm.refl _, rfl⟩ : SystemAnswer machineId db (querySystem machineId db))
  refine ⟨fun x may => ?_, fun x may => ?_, fun x may => ?_⟩
  · have answer := included ⟨x, _, _⟩ (systemAnswer_iff.mpr ⟨may, total, used⟩)
    exact (systemAnswer_iff.mp answer).1
  · have answer := included ⟨_, x, _⟩ (systemAnswer_iff.mpr ⟨package, may, used⟩)
    exact (systemAnswer_iff.mp answer).2.1
  · have answer := included ⟨_, _, x⟩ (systemAnswer_iff.mpr ⟨package, total, may⟩)
    exact (systemAnswer_iff.mp answer).2.2

/-- Two databases have the same answers for the system section of a machine exactly when
its sensors show the same values. -/
theorem systemAnswers_iff (machineId : CStr) (db db' : Database) :
    (∀ metrics, SystemAnswer machineId db metrics ↔ SystemAnswer machineId db' metrics) ↔
      SameShown machineId db db' (newestValue db) (newestValue db') := by
  have fields : SameShown machineId db db' (newestValue db) (newestValue db') ↔
      (∀ x, Selects SystemRow.cpuTemperature? (systemRows machineId db) x ↔
          Selects SystemRow.cpuTemperature? (systemRows machineId db') x) ∧
        (∀ x, Selects SystemRow.cpuTotalLoad? (systemRows machineId db) x ↔
            Selects SystemRow.cpuTotalLoad? (systemRows machineId db') x) ∧
          ∀ x, Selects SystemRow.memoryUsed? (systemRows machineId db) x ↔
            Selects SystemRow.memoryUsed? (systemRows machineId db') x := by
    rw [forall_selects_iff, forall_selects_iff, forall_selects_iff]
    simp only [exists_cpuTemperature_iff, exists_cpuTotalLoad_iff, exists_memoryUsed_iff]
    exact ⟨fun same => ⟨same.temperature, same.load, same.memory⟩,
      fun ⟨temperature, load, memory⟩ => ⟨temperature, load, memory⟩⟩
  rw [fields]
  constructor
  · intro same
    obtain ⟨package, total, used⟩ := selects_of_systemAnswers fun metrics => (same metrics).mp
    obtain ⟨package', total', used'⟩ := selects_of_systemAnswers fun metrics => (same metrics).mpr
    exact ⟨fun x => ⟨package x, package' x⟩, fun x => ⟨total x, total' x⟩,
      fun x => ⟨used x, used' x⟩⟩
  · rintro ⟨package, total, used⟩ metrics
    rw [systemAnswer_iff, systemAnswer_iff, package, total, used]

/-! ## Undisturbed machines -/

/-- The queries about a machine. -/
def Query.About (machineId : CStr) : Query → Prop
  | .machine id | .health id | .catalog id _ | .snapshot id => id = machineId
  | .history .. => False

/-- A message leaves what may be answered about a machine. -/
def Undisturbed (machineId : CStr) (message : BridgeMessage) (db : Database) : Prop :=
  ∀ query : Query, query.About machineId → ∀ response,
    query.Returns (message.effect db) response ↔ query.Returns db response

/-- A message meets no row of a machine: the health row under its `collector_id` and the
sensors under its `sensor_uid`s are not the machine's, and its samples make none of the
machine's sensors show another value in the system section. -/
structure Separate (machineId : CStr) (message : BridgeMessage) (db : Database) : Prop where
  health : ∀ row, db.collectorHealth.lookup message.collectorId = some row →
    row.machineId ≠ machineId
  sensors : ∀ uid, message.Catalogues uid → ∀ row, db.sensorCatalog.lookup uid = some row →
    row.machineId ≠ machineId
  samples : ∀ batch, message = .sampleBatch batch →
    SameShown machineId db db (newestValue db) (batch.updated db)

/-! ## Messages of other machines -/

section Others

variable {machineId : CStr} {message : BridgeMessage} {db : Database}

/-- The sensors of a machine whose sensors the message does not name stay its sensors. -/
theorem lookup_sensor_iff_of_others (other : machineId ≠ message.envelope.machineId)
    (apart : ∀ uid, message.Catalogues uid → ∀ row, db.sensorCatalog.lookup uid = some row →
      row.machineId ≠ machineId) (uid : CStr) (row : SensorRow) :
    ((message.effect db).sensorCatalog.lookup uid = some row ∧ row.machineId = machineId) ↔
      db.sensorCatalog.lookup uid = some row ∧ row.machineId = machineId := by
  obtain ⟨taken, kept⟩ := lookup_effect_sensorCatalog message db uid
  by_cases named : message.Catalogues uid
  · refine iff_of_false ?_ fun ⟨found, own⟩ => apart uid named row found own
    rintro ⟨found, own⟩
    obtain ⟨row', found', theirs⟩ := taken named
    obtain rfl := Option.some.inj (found.symm.trans found')
    exact other (own.symm.trans theirs)
  · rw [kept named]

theorem queryMachineCatalog_effect (other : machineId ≠ message.envelope.machineId) :
    queryMachineCatalog machineId (message.effect db) = queryMachineCatalog machineId db := by
  unfold queryMachineCatalog
  rw [effect_machineCatalog, Table.lookup_upsert_of_ne _ _ _ other]

theorem queryCollectorHealth_effect (other : machineId ≠ message.envelope.machineId)
    (apart : ∀ row, db.collectorHealth.lookup message.collectorId = some row →
      row.machineId ≠ machineId) :
    (queryCollectorHealth machineId (message.effect db)).Perm
      (queryCollectorHealth machineId db) := by
  have unique : ∀ db, (queryCollectorHealth machineId db).Nodup :=
    fun db => (Table.nodup_rows _).filter _
  rw [List.perm_ext_iff_of_nodup (unique _) (unique _)]
  rintro ⟨id, row⟩
  rw [mem_queryCollectorHealth, mem_queryCollectorHealth, effect_collectorHealth]
  by_cases met : id = message.collectorId
  · -- the row under this key is the sender's now, and was not the machine's before
    subst met
    refine iff_of_false ?_ fun ⟨found, own⟩ => apart row found own
    rintro ⟨found, own⟩
    rw [Table.lookup_upsert_self] at found
    rw [← Option.some.inj found] at own
    refine other (own.symm.trans ?_)
    cases db.collectorHealth.lookup message.collectorId <;> rfl
  · rw [Table.lookup_upsert_of_ne _ _ _ met]

theorem catalogMatches_effect (other : machineId ≠ message.envelope.machineId)
    (apart : ∀ uid, message.Catalogues uid → ∀ row, db.sensorCatalog.lookup uid = some row →
      row.machineId ≠ machineId) (filter : CatalogFilter) :
    (catalogMatches machineId filter (message.effect db)).Perm
      (catalogMatches machineId filter db) := by
  have unique : ∀ (db : Database) (p : CStr × SensorRow → Bool),
      (db.sensorCatalog.rows.filter p).Nodup := fun db p => (Table.nodup_rows _).filter p
  refine List.Perm.map catalogRow ?_
  rw [List.perm_ext_iff_of_nodup (unique _ _) (unique _ _)]
  rintro ⟨uid, row⟩
  rw [List.mem_filter, List.mem_filter, Table.mem_rows, Table.mem_rows, decide_eq_true_iff]
  have same := lookup_sensor_iff_of_others other apart uid row
  constructor
  · rintro ⟨found, own, fits⟩
    exact ⟨(same.mp ⟨found, own⟩).1, own, fits⟩
  · rintro ⟨found, own, fits⟩
    exact ⟨(same.mpr ⟨found, own⟩).1, own, fits⟩

theorem effect_sensorSamples_of_not_batch (others : ∀ batch, message ≠ .sampleBatch batch) :
    (message.effect db).sensorSamples = db.sensorSamples := by
  cases message with
  | hello message => rfl
  | heartbeat message => rfl
  | catalogSnapshot snapshot =>
    exact foldl_upsertCatalogSensor_samples snapshot.envelope snapshot.sensors _
  | sampleBatch batch => exact absurd rfl (others batch)

/-- Sensors that stay the machine's show what their values show. -/
theorem Shows.congr {β : Type} {select : SystemRow → Option β} {db db' : Database}
    {values values' : CStr → Option Double}
    (sensors : ∀ uid row, (db.sensorCatalog.lookup uid = some row ∧ row.machineId = machineId) ↔
      db'.sensorCatalog.lookup uid = some row ∧ row.machineId = machineId)
    (same : ∀ uid ∈ db.sensorCatalog, values uid = values' uid) (x : β) :
    Shows select machineId db values x ↔ Shows select machineId db' values' x := by
  unfold Shows
  constructor
  · rintro ⟨uid, sensor, value, found, own, shown, matched⟩
    have here := (sensors uid sensor).mp ⟨found, own⟩
    have value' := same uid (Table.mem_iff_exists_lookup.mpr ⟨sensor, found⟩)
    exact ⟨uid, sensor, value, here.1, own, value'.symm.trans shown, matched⟩
  · rintro ⟨uid, sensor, value, found, own, shown, matched⟩
    have here := (sensors uid sensor).mpr ⟨found, own⟩
    have value' := same uid (Table.mem_iff_exists_lookup.mpr ⟨sensor, here.1⟩)
    exact ⟨uid, sensor, value, here.1, own, value'.trans shown, matched⟩

/-- What the sensors show after a batch is what its samples make them show. -/
theorem sameShown_effect_sampleBatch (machineId : CStr) (batch : SampleBatchMessage)
    (db : Database) :
    SameShown machineId db ((BridgeMessage.sampleBatch batch).effect db) (newestValue db)
        (newestValue ((BridgeMessage.sampleBatch batch).effect db)) ↔
      SameShown machineId db db (newestValue db) (batch.updated db) := by
  have catalog := fun uid => (lookup_effect_sensorCatalog (.sampleBatch batch) db uid).2 id
  have after : ∀ {β : Type} (select : SystemRow → Option β) (x : β),
      Shows select machineId db (batch.updated db) x ↔
        Shows select machineId ((BridgeMessage.sampleBatch batch).effect db)
          (newestValue ((BridgeMessage.sampleBatch batch).effect db)) x := by
    intro β select x
    refine Shows.congr (fun uid row => ?_) (fun uid known => ?_) x
    · rw [catalog]
    · exact (newestValue_effect batch known).symm
  constructor
  · intro same
    exact ⟨fun x => (same.temperature x).trans (after _ x).symm,
      fun x => (same.load x).trans (after _ x).symm,
      fun x => (same.memory x).trans (after _ x).symm⟩
  · intro same
    exact ⟨fun x => (same.temperature x).trans (after _ x),
      fun x => (same.load x).trans (after _ x), fun x => (same.memory x).trans (after _ x)⟩

/-- A message that names none of the machine's sensors leaves what they show, but for
the samples of a batch. -/
theorem Separate.sameShown (apart : Separate machineId message db)
    (other : machineId ≠ message.envelope.machineId) :
    SameShown machineId db (message.effect db) (newestValue db)
      (newestValue (message.effect db)) := by
  by_cases batches : ∃ batch, message = .sampleBatch batch
  · obtain ⟨batch, rfl⟩ := batches
    exact (sameShown_effect_sampleBatch machineId batch db).mpr (apart.samples batch rfl)
  · push Not at batches
    have samples : (message.effect db).sensorSamples = db.sensorSamples :=
      effect_sensorSamples_of_not_batch batches
    have values : ∀ uid, newestValue db uid = newestValue (message.effect db) uid :=
      fun uid => newestValue_congr fun t => by rw [samples]
    have sensors := fun uid row =>
      (lookup_sensor_iff_of_others other apart.sensors uid row).symm
    exact ⟨Shows.congr sensors fun uid _ => values uid, Shows.congr sensors fun uid _ => values uid,
      Shows.congr sensors fun uid _ => values uid⟩

theorem Separate.undisturbed (apart : Separate machineId message db)
    (other : machineId ≠ message.envelope.machineId) : Undisturbed machineId message db := by
  intro query about response
  cases query with
  | history sensorUid fromMs toMs limit => exact about.elim
  | catalog id filter =>
    obtain rfl : id = machineId := about
    have same := catalogMatches_effect other apart.sensors filter
    cases response with
    | catalog rows =>
      exact ⟨fun answer => answer.of_perm same, fun answer => answer.of_perm same.symm⟩
    | _ => exact Iff.rfl
  | machine id =>
    obtain rfl : id = machineId := about
    cases response with
    | machine row => exact iff_of_eq (congrArg (row = ·) (queryMachineCatalog_effect other))
    | _ => exact Iff.rfl
  | health id =>
    obtain rfl : id = machineId := about
    have same := queryCollectorHealth_effect other apart.health
    cases response with
    | health rows => exact ⟨fun answer => answer.trans same, fun answer => answer.trans same.symm⟩
    | _ => exact Iff.rfl
  | snapshot id =>
    obtain rfl : id = machineId := about
    obtain ⟨gpus, ollama⟩ := effect_sampleTables message db
    cases response with
    | snapshot latest =>
      have system := (systemAnswers_iff id db (message.effect db)).mpr (apart.sameShown other)
      refine and_congr (system latest.system).symm ?_
      rw [Isolation.queryGpus_congr gpus, Isolation.queryOllama_congr ollama]
    | _ => exact Iff.rfl

/-- A message that leaves the answers about a machine meets none of its rows. -/
theorem Undisturbed.separate (undisturbed : Undisturbed machineId message db)
    (other : machineId ≠ message.envelope.machineId) : Separate machineId message db where
  health := by
    intro row found own
    have before : (message.collectorId, row) ∈ queryCollectorHealth machineId db :=
      mem_queryCollectorHealth.mpr ⟨found, own⟩
    have same : (queryCollectorHealth machineId db).Perm
        (queryCollectorHealth machineId (message.effect db)) :=
      (undisturbed (.health machineId) rfl (.health _)).mpr (List.Perm.refl _)
    obtain ⟨found', own'⟩ := mem_queryCollectorHealth.mp (same.mem_iff.mp before)
    -- the upsert has given the row to the sender
    rw [effect_collectorHealth, Table.lookup_upsert_self, found] at found'
    rw [← Option.some.inj found'] at own'
    exact other own'.symm
  sensors := by
    intro uid named row found own
    have before : catalogRow (uid, row) ∈ catalogMatches machineId ⟨none, none⟩ db := by
      refine List.mem_map_of_mem (List.mem_filter.mpr ⟨Table.mem_rows.mpr found, ?_⟩)
      simpa using own
    have answer : Answers catalogKey none (catalogMatches machineId ⟨none, none⟩ db)
        (querySensorCatalog machineId ⟨none, none⟩ db) := answers_select _
    have answer' : Answers catalogKey none
        (catalogMatches machineId ⟨none, none⟩ (message.effect db))
        (querySensorCatalog machineId ⟨none, none⟩ db) :=
      (undisturbed (.catalog machineId ⟨none, none⟩) rfl (.catalog _)).mpr answer
    have after := (answer.perm.symm.trans answer'.perm).mem_iff.mp before
    obtain ⟨⟨uid', row'⟩, listed, same⟩ := List.mem_map.mp after
    obtain rfl : uid' = uid := congrArg CatalogRow.sensorUid same
    obtain ⟨found', own'⟩ := List.mem_filter.mp listed
    -- the catalog has given the sensor to the sender
    obtain ⟨taken, stored, theirs⟩ := (lookup_effect_sensorCatalog message db uid').1 named
    obtain rfl := Option.some.inj ((Table.mem_rows.mp found').symm.trans stored)
    exact other ((of_decide_eq_true own').1.symm.trans theirs)
  samples := by
    rintro batch rfl
    rw [← sameShown_effect_sampleBatch, ← systemAnswers_iff]
    intro metrics
    have same := undisturbed (.snapshot machineId) rfl
      (.snapshot ⟨metrics, queryGpus machineId db, queryOllama machineId db⟩)
    obtain ⟨gpus, ollama⟩ := effect_sampleTables (.sampleBatch batch) db
    have gpus := Isolation.queryGpus_congr gpus machineId
    have ollama := Isolation.queryOllama_congr ollama machineId
    exact ⟨fun answer => (same.mpr ⟨answer, rfl, rfl⟩).1,
      fun answer => (same.mp ⟨answer, gpus.symm, ollama.symm⟩).1⟩

end Others

/-- A message leaves what may be answered about every machine but its sender. -/
def MachinesApart (message : BridgeMessage) (db : Database) : Prop :=
  ∀ machineId, machineId ≠ message.envelope.machineId → Undisturbed machineId message db

/-- **When a message disturbs no other machine**: exactly when it meets no row of one,
by `collector_id` or `sensor_uid`, but for samples that show no difference. -/
theorem machinesApart_iff (message : BridgeMessage) (db : Database) :
    MachinesApart message db ↔
      ∀ machineId, machineId ≠ message.envelope.machineId → Separate machineId message db :=
  forall₂_congr fun _ other =>
    ⟨fun undisturbed => undisturbed.separate other, fun apart => apart.undisturbed other⟩

/-- The catalog of a machine whose processor is of a common make. -/
def twinCatalog (machineId : String) : BridgeMessage :=
  .catalogSnapshot
    { envelope :=
        { schemaVersion := 1, source := text "librehw_bridge", machineId := text machineId
          sentAtUtcMs := 1000 }
      sensors :=
        [{ sensorUid := text "librehw:/amdcpu/0/temperature/0"
           hardwareUid := text "librehw:/amdcpu/0", hardwarePath := text "/amdcpu/0"
           hardwareName := text "CPU", hardwareType := text "Cpu"
           sensorPath := text "/amdcpu/0/temperature/0", sensorName := text "Package"
           sensorType := text "Temperature", sensorIndex := 0, unit := text "C"
           isDefaultHidden := false, propertiesJson := text "" }] }

/-- The sensor of the first machine is the second one's afterwards. -/
theorem machines_not_always_apart : ¬ ∀ message db, MachinesApart message db := by
  intro always
  have undisturbed := always (twinCatalog "second") ((twinCatalog "first").effect Database.empty)
    (text "first") (by decide)
  have answer : Answers catalogKey none (catalogMatches (text "first") ⟨none, none⟩
      ((twinCatalog "first").effect Database.empty)) _ := answers_select _
  have answer' := (undisturbed (.catalog (text "first") ⟨none, none⟩) rfl (.catalog _)).mpr answer
  exact absurd (answer.perm.symm.trans answer'.perm).length_eq (by decide)

end CapacityAgent

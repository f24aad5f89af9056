/-
# Catalog and batch of one tree

`CollectCatalogRecursive` and `CollectSamplesRecursive` are two recursions over the same
tree. They visit the same sensors in the same order, so once the catalog of a tree is
applied the `EXISTS` filter of the host lets every sample of its batch through, whatever
else is written in between.
-/

import CapacityAgent.Bridge.Catalogue

namespace CapacityAgent

open Connection KeyedTable

/-! ## Batches of catalogued sensors -/

section Stored

variable {batch : SampleBatchMessage} {db : Database}

/-- Samples of catalogued sensors are all put, none is filtered out. -/
theorem foldl_storeSample_of_catalogued {samples : List SensorSample}
    (known : ∀ sample ∈ samples, sample.sensorUid ∈ db.sensorCatalog) :
    (samples.foldl (fun db sample => storeSample batch sample db) db).sensorSamples =
      db.sensorSamples.putAll (samples.map batch.entry) := by
  induction samples generalizing db with
  | nil => rfl
  | cons sample rest ih =>
    obtain ⟨first, others⟩ := List.forall_mem_cons.mp known
    have still : ∀ other ∈ rest,
        other.sensorUid ∈ (storeSample batch sample db).sensorCatalog := by
      intro other member
      rw [storeSample_sensorCatalog]
      exact others other member
    rw [List.foldl_cons, ih still, storeSample_sensorSamples, if_pos first, List.map_cons,
      Table.putAll_cons]
    rfl

/-- The batch puts a row for every one of its samples, in order. -/
def StoresAll (batch : SampleBatchMessage) (before after : Database) : Prop :=
  after.sensorSamples = before.sensorSamples.putAll (batch.samples.map batch.entry)

theorem storesAll_of_catalogued
    (known : ∀ sample ∈ batch.samples, sample.sensorUid ∈ db.sensorCatalog) :
    StoresAll batch db ((BridgeMessage.sampleBatch batch).effect db) :=
  foldl_storeSample_of_catalogued known

end Stored

/-! ## Writes in between -/

/-- A call of the store between two messages: another message, with the commands of it
that fail, or a write of a collector. -/
inductive OtherCall
  | message (attempt : Attempt)
  | collector (call : CollectorCall)

/-- The connection after the call. -/
def OtherCall.run (c : Conn Database) : OtherCall → Conn Database
  | .message attempt => (persist attempt.1 attempt.2 c).2
  | .collector call => { c with db := call.effect c.db }

/-- The connection after calls. -/
def runOthers (calls : List OtherCall) (c : Conn Database) : Conn Database :=
  calls.foldl OtherCall.run c

/-- No call leaves a transaction open or takes a sensor out of the catalog. -/
theorem OtherCall.run_closed (call : OtherCall) (db : Database) :
    ∃ db', call.run (Conn.closed db) = Conn.closed db' ∧
      ∀ uid, uid ∈ db.sensorCatalog → uid ∈ db'.sensorCatalog := by
  cases call with
  | message attempt =>
    rcases persist_closed attempt.2 attempt.1 db with failed | succeeded
    · exact ⟨db, congrArg Prod.snd failed, fun _ => id⟩
    · refine ⟨_, congrArg Prod.snd succeeded, fun uid member => ?_⟩
      exact (mem_effect_sensorCatalog _ _ _).mpr (.inr member)
  | collector call =>
    refine ⟨call.effect db, rfl, fun uid member => ?_⟩
    cases call <;> exact member

theorem runOthers_closed (calls : List OtherCall) (db : Database) :
    ∃ db', runOthers calls (Conn.closed db) = Conn.closed db' ∧
      ∀ uid, uid ∈ db.sensorCatalog → uid ∈ db'.sensorCatalog := by
  induction calls generalizing db with
  | nil => exact ⟨db, rfl, fun _ => id⟩
  | cons call rest ih =>
    obtain ⟨next, ran, kept⟩ := call.run_closed db
    obtain ⟨last, ranOn, keptOn⟩ := ih next
    refine ⟨last, ?_, fun uid member => keptOn uid (kept uid member)⟩
    rw [runOthers, List.foldl_cons, ran]
    exact ranOn

/-- Once a catalog is applied, a batch of its sensors is stored whole or not at all. -/
theorem storesAll_after {snapshot : CatalogSnapshotMessage} {batch : SampleBatchMessage}
    (names : ∀ sample ∈ batch.samples, ∃ sensor ∈ snapshot.sensors,
      sensor.sensorUid = sample.sensorUid)
    {db : Database} {fails fails' : ℕ → Bool}
    (applied : (upsertCatalogSnapshot fails snapshot (Conn.closed db)).1 = true)
    (calls : List OtherCall) :
    let later := runOthers calls (upsertCatalogSnapshot fails snapshot (Conn.closed db)).2
    (insertSampleBatch fails' batch later).1 = true →
      StoresAll batch later.db (insertSampleBatch fails' batch later).2.db := by
  intro later
  have upserted : (upsertCatalogSnapshot fails snapshot (Conn.closed db)).2 =
      Conn.closed ((BridgeMessage.catalogSnapshot snapshot).effect db) :=
    (persist_all_or_nothing (.catalogSnapshot snapshot) fails db).2 applied
  obtain ⟨last, ran, kept⟩ := runOthers_closed calls
    ((BridgeMessage.catalogSnapshot snapshot).effect db)
  have here : later = Conn.closed last := by
    rw [← ran, ← upserted]
  rw [here]
  intro stored
  have inserted : (insertSampleBatch fails' batch (Conn.closed last)).2 =
      Conn.closed ((BridgeMessage.sampleBatch batch).effect last) :=
    (persist_all_or_nothing (.sampleBatch batch) fails' last).2 stored
  rw [inserted]
  refine storesAll_of_catalogued fun sample member => kept _ ?_
  exact (mem_effect_sensorCatalog _ _ _).mpr (.inl (names sample member))

namespace LibreHwBridge

open Json (Encoder)
open NetString (literal)

/-! ## The two traversals -/

/-- The entries of the catalog whose sensor has a value; the catalog has one entry for
every sensor of the tree. -/
def catalogWithValue (computer : Computer) : List CatalogSensor :=
  (((buildCatalog computer).zip (sensorsOfEach computer)).filter fun entry =>
    entry.2.2.value.isSome).map Prod.fst

/-- The sample of a sensor is made with its uid, when the sensor has a value. -/
theorem sensorUid_sensorSample (sensor : ISensor) :
    (sensorSample sensor).map (·.sensorUid) =
      if sensor.value.isSome then some (sensorUid sensor) else none := by
  unfold sensorSample
  cases sensor.value <;> rfl

/-- The batch samples the catalogued sensors that have a value, in the catalog's order. -/
theorem sensorUids_collectSamples (computer : Computer) :
    (collectSamples computer).map (·.sensorUid) =
      (catalogWithValue computer).map (·.sensorUid) := by
  have aligned : (buildCatalog computer).zip (sensorsOfEach computer) =
      (sensorsOfEach computer).map fun visited =>
        (catalogSensor visited.1 visited.2, visited) := by
    rw [buildCatalog_eq]
    conv_lhs => rw [← List.map_id (sensorsOfEach computer), List.map_map]
    exact List.zip_map'
  rw [catalogWithValue, aligned, collectSamples_eq, List.filter_map, List.map_map, List.map_map,
    List.map_filterMap, ← List.filterMap_eq_map, List.filterMap_filter]
  exact List.filterMap_congr fun visited _ => sensorUid_sensorSample visited.2

/-! ## At the host -/

section Host

variable (encoder : Encoder) (formatDouble : Double → Bytes)
variable (environment : Environment) (options : BridgeOptions)

/-- The host reads the one message of a line that was sent. -/
theorem hostMessages_send {call : Call} {line : Bytes}
    (sent : send encoder (call.message environment options) = some line) :
    hostMessages formatDouble line = [call.received environment options] := by
  have single : lines encoder environment options [call] = line := by
    rw [lines, List.flatMap_singleton, sent]
    rfl
  have writable : ∀ other ∈ [call], (other.message environment options).json.isSome := by
    intro other member
    obtain rfl := List.mem_singleton.mp member
    obtain ⟨value, written, -⟩ := Option.map_eq_some_iff.mp sent
    rw [written]
    rfl
  rw [← single, hostMessages_lines encoder formatDouble environment options writable]
  rfl

/-- **Catalog and batch traverse the same sensors.** For every tree, the batch samples the
catalogued sensors that have a value, in order and with multiplicity. When the host has
applied the catalog of the tree, it stores every sample of a batch of the tree that it
applies, whatever the store was called for in between. -/
theorem catalog_covers_batch (computer : Computer)
    (catalogUtcNow sampleTime utcNow : DateTimeOffset) :
    (buildSampleBatch options computer sampleTime utcNow).samples.map (·.sensorUid) =
        (catalogWithValue computer).map (·.sensorUid) ∧
      ∀ catalogLine batchLine,
        send encoder ((Call.catalogSnapshot (buildCatalog computer) catalogUtcNow).message
          environment options) = some catalogLine →
        send encoder ((Call.sampleBatch computer sampleTime utcNow).message environment
          options) = some batchLine →
        ∃ snapshot batch, hostMessages formatDouble catalogLine = [.catalogSnapshot snapshot] ∧
          hostMessages formatDouble batchLine = [.sampleBatch batch] ∧
          ∀ (db : Database) (fails fails' : ℕ → Bool) (calls : List OtherCall),
            let applied := upsertCatalogSnapshot fails snapshot (Conn.closed db)
            let later := runOthers calls applied.2
            let inserted := insertSampleBatch fails' batch later
            applied.1 = true → inserted.1 = true → StoresAll batch later.db inserted.2.db := by
  refine ⟨sensorUids_collectSamples computer, fun catalogLine batchLine catalogSent batchSent => ?_⟩
  refine ⟨_, _, hostMessages_send encoder formatDouble environment options catalogSent,
    hostMessages_send encoder formatDouble environment options batchSent, ?_⟩
  intro db fails fails' calls _ _ _ applied
  refine storesAll_after (fun sample member => ?_) applied calls
  -- the sample is of a sensor of the tree, which has an entry in the catalog
  obtain ⟨written, inTree, rfl⟩ := List.mem_map.mp member
  have everySensor : Lists computer computer := fun visited listed _ => ⟨visited, listed, rfl⟩
  obtain ⟨entry, listed, same⟩ := lists_iff.mp everySensor written inTree
  exact ⟨entry.received, List.mem_map_of_mem listed, congrArg NetString.utf8 same⟩

end Host

/-- A fan that has no value yet. -/
def idleFan : ISensor where
  identifier := literal "/amdcpu/0/fan/0"
  name := literal "CPU Fan"
  sensorType := .fan
  index := 0
  isDefaultHidden := false
  value := none
  min := none
  max := none

/-- The processor with the fan, and no memory of its own. -/
def halfRead : Computer :=
  [.mk ⟨literal "/amdcpu/0", literal "AMD Ryzen 7 7800X3D", literal "Cpu", []⟩
    [idleFan, packageTemperature] []]

/-- The catalog names both sensors, the batch the second, and its sample is stored. -/
theorem catalog_covers_batch_halfRead :
    (catalogWithValue halfRead).map (·.sensorUid) =
        [literal "librehw:/amdcpu/0/temperature/0"] ∧
      ∃ snapshot batch, snapshot.sensors.length = 2 ∧ batch.samples.length = 1 ∧
        let applied := upsertCatalogSnapshot (fun _ => false) snapshot
          (Conn.closed Database.empty)
        StoresAll batch applied.2.db
          (insertSampleBatch (fun _ => false) batch applied.2).2.db := by
  obtain ⟨same, host⟩ := catalog_covers_batch defaultEncoder (fun _ => []) hostEnvironment
    hostOptions halfRead firstReading firstReading firstReading
  have catalogWritten : (send defaultEncoder ((Call.catalogSnapshot (buildCatalog halfRead)
    firstReading).message hostEnvironment hostOptions)).isSome = true := rfl
  have batchWritten : (send defaultEncoder ((Call.sampleBatch halfRead firstReading
    firstReading).message hostEnvironment hostOptions)).isSome = true := rfl
  obtain ⟨catalogLine, catalogSent⟩ := Option.isSome_iff_exists.mp catalogWritten
  obtain ⟨batchLine, batchSent⟩ := Option.isSome_iff_exists.mp batchWritten
  obtain ⟨snapshot, batch, catalogRead, batchRead, stores⟩ := host _ _ catalogSent batchSent
  rw [hostMessages_send defaultEncoder _ hostEnvironment hostOptions catalogSent] at catalogRead
  rw [hostMessages_send defaultEncoder _ hostEnvironment hostOptions batchSent] at batchRead
  have names : (catalogWithValue halfRead).map (·.sensorUid) =
      [literal "librehw:/amdcpu/0/temperature/0"] := same ▸ rfl
  refine ⟨names, snapshot, batch, ?_, ?_, ?_⟩
  · rw [← BridgeMessage.catalogSnapshot.inj (List.cons.inj catalogRead).1]
    rfl
  · rw [← BridgeMessage.sampleBatch.inj (List.cons.inj batchRead).1]
    rfl
  · -- neither message fails, and nothing comes between them
    have healthy : ∀ n : ℕ, (fun _ : ℕ => false) n = false := fun _ => rfl
    have upserted := persist_of_healthy (.catalogSnapshot snapshot) healthy Database.empty
    have inserted := persist_of_healthy (.sampleBatch batch) healthy
      ((BridgeMessage.catalogSnapshot snapshot).effect Database.empty)
    refine stores Database.empty _ _ [] (congrArg Prod.fst upserted) ?_
    change (persist _ (.sampleBatch batch) (persist _ (.catalogSnapshot snapshot) _).2).1 = true
    rw [upserted, inserted]

end LibreHwBridge

end CapacityAgent

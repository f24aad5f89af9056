/-
# The catalog as a log

What `sensor_catalog` holds of a sensor depends on the entries of applied catalog snapshots
that list it, and on nothing else: the last of them gives the columns, the first the time
the sensor was first seen, and the properties are the last that were given.
-/

import CapacityAgent.Store.ReadQueries

namespace CapacityAgent

open KeyedTable Select

/-! ## Listings -/

/-- An entry of a catalog snapshot, with the envelope it came in. -/
structure Listing where
  envelope : MessageEnvelope
  sensor : CatalogSensor
  deriving DecidableEq

namespace Listing

def uid (listing : Listing) : CStr := listing.sensor.sensorUid

/-- The properties that are given. -/
def properties (listing : Listing) : Option CStr :=
  if listing.sensor.propertiesJson.bytes.isEmpty then none else some listing.sensor.propertiesJson

/-- The row of a sensor that was not listed before. -/
def fresh (listing : Listing) : SensorRow where
  machineId := listing.envelope.machineId
  source := listing.envelope.source
  hardwareUid := listing.sensor.hardwareUid
  hardwarePath := listing.sensor.hardwarePath
  hardwareName := listing.sensor.hardwareName
  hardwareType := listing.sensor.hardwareType
  sensorPath := listing.sensor.sensorPath
  sensorName := listing.sensor.sensorName
  sensorType := listing.sensor.sensorType
  sensorIndex := listing.sensor.sensorIndex
  unit := listing.sensor.unit
  isDefaultHidden := listing.sensor.isDefaultHidden
  firstSeenUtcMs := listing.envelope.sentAtUtcMs
  lastSeenUtcMs := listing.envelope.sentAtUtcMs
  propertiesJson := listing.properties

/-- The row of one that was. -/
def merge (listing : Listing) (old : SensorRow) : SensorRow :=
  { listing.fresh with
    firstSeenUtcMs := old.firstSeenUtcMs
    propertiesJson := coalesce listing.properties old.propertiesJson }

/-- What `/v1/catalog` shows of it. -/
def shown (listing : Listing) : CatalogRow := catalogRow (listing.uid, listing.fresh)

end Listing

def BridgeMessage.listings : BridgeMessage → List Listing
  | .catalogSnapshot message => message.sensors.map (Listing.mk message.envelope)
  | .hello _ | .sampleBatch _ | .heartbeat _ => []

/-- All entries of all snapshots, in the order they were applied. -/
def catalogLog (messages : List BridgeMessage) : List Listing :=
  messages.flatMap BridgeMessage.listings

/-- The entries that list a sensor. -/
def listingsOf (log : List Listing) (uid : CStr) : List Listing :=
  log.filter fun listing => listing.uid = uid

/-- The row that the entries of a sensor leave. -/
def sensorRowOf (own : List Listing) : Option SensorRow :=
  own.getLast?.map fun last =>
    { last.fresh with
      firstSeenUtcMs := (own.headD last).envelope.sentAtUtcMs
      propertiesJson := (own.filterMap Listing.properties).getLast? }

/-! ## The table -/

/-- The upserts of a log. -/
def upsertListings (log : List Listing) (t : Table CStr SensorRow) : Table CStr SensorRow :=
  log.foldl (fun t listing => t.upsert listing.uid listing.fresh listing.merge) t

theorem foldl_upsertCatalogSensor_eq (envelope : MessageEnvelope) (sensors : List CatalogSensor)
    (db : Database) :
    (sensors.foldl (fun db sensor => upsertCatalogSensor envelope sensor db) db).sensorCatalog =
      upsertListings (sensors.map (Listing.mk envelope)) db.sensorCatalog := by
  induction sensors generalizing db with
  | nil => rfl
  | cons sensor rest ih => exact ih (upsertCatalogSensor envelope sensor db)

theorem effect_sensorCatalog (message : BridgeMessage) (db : Database) :
    (message.effect db).sensorCatalog = upsertListings message.listings db.sensorCatalog := by
  cases message with
  | hello message => rfl
  | heartbeat message => rfl
  | sampleBatch batch => exact foldl_storeSample_catalog batch batch.samples _
  | catalogSnapshot message => exact foldl_upsertCatalogSensor_eq _ _ _

theorem replay_sensorCatalog (messages : List BridgeMessage) (db : Database) :
    (replay messages db).sensorCatalog = upsertListings (catalogLog messages) db.sensorCatalog := by
  induction messages generalizing db with
  | nil => rfl
  | cons message rest ih =>
    have first := effect_sensorCatalog message db
    have log : catalogLog (message :: rest) = message.listings ++ catalogLog rest :=
      List.flatMap_cons
    calc (replay (message :: rest) db).sensorCatalog
        = upsertListings (catalogLog rest) (message.effect db).sensorCatalog := ih _
      _ = upsertListings (catalogLog (message :: rest)) db.sensorCatalog := by
          rw [first, log, upsertListings, upsertListings, upsertListings, List.foldl_append]

/-- The entries of a sensor are absorbed in order. -/
theorem foldl_absorb_listings (own : List Listing) :
    own.foldl (Table.absorb Listing.fresh Listing.merge) none = sensorRowOf own := by
  induction own using List.reverseRecOn with
  | nil => rfl
  | append_singleton earlier last ih =>
    rw [List.foldl_append, ih, List.foldl_cons, List.foldl_nil, Table.absorb]
    cases earlier with
    | nil =>
      have given : ([last].filterMap Listing.properties).getLast? = last.properties := by
        cases properties : last.properties <;> simp [properties]
      simp only [sensorRowOf, List.nil_append, List.getLast?_singleton, Option.map_some, given]
      rfl
    | cons first between =>
      obtain ⟨front, newest, same⟩ : ∃ front newest, first :: between = front ++ [newest] :=
        ⟨_, _, (List.dropLast_append_getLast (List.cons_ne_nil first between)).symm⟩
      have given : ((first :: between ++ [last]).filterMap Listing.properties).getLast? =
          coalesce last.properties
            ((first :: between).filterMap Listing.properties).getLast? := by
        rw [List.filterMap_append, List.getLast?_append]
        cases properties : last.properties <;> simp [properties, coalesce]
      have row : sensorRowOf (first :: between) = some
          { newest.fresh with
            firstSeenUtcMs := first.envelope.sentAtUtcMs
            propertiesJson := ((first :: between).filterMap Listing.properties).getLast? } := by
        rw [sensorRowOf, same, List.getLast?_concat, ← same]
        rfl
      rw [row, sensorRowOf, List.getLast?_concat, Option.map_some, given]
      rfl

/-- **What is stored of a sensor** after applied messages. -/
theorem lookup_replay_sensorCatalog (messages : List BridgeMessage) (uid : CStr) :
    (replay messages Database.empty).sensorCatalog.lookup uid =
      sensorRowOf (listingsOf (catalogLog messages) uid) := by
  have absent : Database.empty.sensorCatalog.lookup uid = none := rfl
  rw [replay_sensorCatalog, upsertListings, Table.lookup_foldl_upsert, absent]
  exact foldl_absorb_listings _

/-! ## The answer -/

/-- The filter of the request keeps the sensor. -/
def CatalogFilter.Keeps (filter : CatalogFilter) (row : CatalogRow) : Prop :=
  (∀ type ∈ filter.hardwareType, row.hardwareType = type) ∧
    ∀ type ∈ filter.sensorType, row.sensorType = type

/-- The catalog of a machine: of every sensor that its machine listed last what was listed
last, in the order of the types and names. -/
structure IsCatalog (log : List Listing) (machineId : CStr) (filter : CatalogFilter)
    (rows : List CatalogRow) : Prop where
  ordered : rows.Pairwise fun first second => catalogKey first ≤ catalogKey second
  distinct : (rows.map CatalogRow.sensorUid).Nodup
  listed : ∀ row, row ∈ rows ↔ filter.Keeps row ∧
    ∃ last, (listingsOf log row.sensorUid).getLast? = some last ∧
      last.envelope.machineId = machineId ∧ last.shown = row

theorem nodup_catalogMatches (machineId : CStr) (filter : CatalogFilter) (db : Database) :
    ((catalogMatches machineId filter db).map CatalogRow.sensorUid).Nodup := by
  have keys := db.sensorCatalog.nodup_keys_rows
  rw [catalogMatches, List.map_map]
  exact keys.sublist ((List.filter_sublist).map _)

theorem mem_catalogMatches {machineId : CStr} {filter : CatalogFilter} {db : Database}
    {row : CatalogRow} :
    row ∈ catalogMatches machineId filter db ↔ filter.Keeps row ∧
      ∃ stored, db.sensorCatalog.lookup row.sensorUid = some stored ∧
        stored.machineId = machineId ∧ catalogRow (row.sensorUid, stored) = row := by
  constructor
  · intro member
    obtain ⟨⟨uid, stored⟩, kept, rfl⟩ := List.mem_map.mp member
    obtain ⟨inTable, matching⟩ := List.mem_filter.mp kept
    obtain ⟨own, keeps⟩ := of_decide_eq_true matching
    exact ⟨keeps, stored, Table.mem_rows.mp inTable, own, rfl⟩
  · rintro ⟨keeps, stored, found, own, same⟩
    refine List.mem_map.mpr ⟨(row.sensorUid, stored), List.mem_filter.mpr
      ⟨Table.mem_rows.mpr found, decide_eq_true ⟨own, ?_⟩⟩, same⟩
    rw [← same] at keeps
    exact keeps

/-- The row keeps what is shown of the last entry. -/
theorem sensorRowOf_eq_some {own : List Listing} {stored : SensorRow}
    (row : sensorRowOf own = some stored) :
    ∃ last, own.getLast? = some last ∧ stored.machineId = last.envelope.machineId ∧
      ∀ uid, catalogRow (uid, stored) = catalogRow (uid, last.fresh) := by
  obtain ⟨last, isLast, rfl⟩ := Option.map_eq_some_iff.mp row
  exact ⟨last, isLast, rfl, fun _ => rfl⟩

theorem uid_of_getLast? {log : List Listing} {uid : CStr} {last : Listing}
    (isLast : (listingsOf log uid).getLast? = some last) : last.uid = uid := by
  have member := List.mem_of_getLast? isLast
  exact of_decide_eq_true (List.mem_filter.mp member).2

/-- Every answer of `QuerySensorCatalog` after applied messages. -/
theorem isCatalog_of_returns {messages : List BridgeMessage} {machineId : CStr}
    {filter : CatalogFilter} {rows : List CatalogRow}
    (returned : (Query.catalog machineId filter).Returns (replay messages Database.empty)
      (.catalog rows)) : IsCatalog (catalogLog messages) machineId filter rows := by
  have answers : Answers catalogKey none
      (catalogMatches machineId filter (replay messages Database.empty)) rows := returned
  have same := answers.perm
  refine ⟨answers.pairwise, ?_, fun row => ?_⟩
  · exact (same.map _).nodup_iff.mpr (nodup_catalogMatches machineId filter _)
  · rw [same.mem_iff, mem_catalogMatches]
    refine and_congr_right' ⟨?_, ?_⟩
    · rintro ⟨stored, found, own, shows⟩
      rw [lookup_replay_sensorCatalog] at found
      obtain ⟨last, isLast, sameMachine, columns⟩ := sensorRowOf_eq_some found
      refine ⟨last, isLast, sameMachine.symm.trans own, ?_⟩
      rw [Listing.shown, uid_of_getLast? isLast, ← columns, shows]
    · rintro ⟨last, isLast, own, shows⟩
      obtain ⟨stored, row'⟩ : ∃ stored, sensorRowOf
          (listingsOf (catalogLog messages) row.sensorUid) = some stored :=
        ⟨_, by rw [sensorRowOf, isLast, Option.map_some]⟩
      obtain ⟨last', isLast', sameMachine, columns⟩ := sensorRowOf_eq_some row'
      obtain rfl : last = last' := Option.some.inj (isLast.symm.trans isLast')
      refine ⟨stored, (lookup_replay_sensorCatalog _ _).trans row', sameMachine.trans own, ?_⟩
      rw [columns, ← uid_of_getLast? isLast]
      exact shows

end CapacityAgent

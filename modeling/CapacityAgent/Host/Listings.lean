/-
# What the catalog shows of the hardware

The bridge lists the sensors of the tree it found when it connected. After any run,
`/v1/catalog` shows of each sensor what the last catalog that was read says of it.
-/

import CapacityAgent.Host.Readings
import CapacityAgent.Store.CatalogLog

namespace CapacityAgent

open Connection KeyedTable Select

namespace LibreHwBridge

/-! ## The catalogs of a run -/

/-- The entries of the catalogs of a run, in order. -/
def announced : List Call → List CatalogSensor
  | [] => []
  | .catalogSnapshot catalog _ :: rest => catalog ++ announced rest
  | .hello _ _ :: rest | .sampleBatch _ _ _ :: rest | .heartbeat _ _ _ _ :: rest => announced rest

/-- What `/v1/catalog` shows of an entry. -/
def CatalogSensor.shown (sensor : CatalogSensor) : CatalogRow where
  sensorUid := sensor.sensorUid.utf8
  hardwareName := sensor.hardwareName.utf8
  hardwareType := sensor.hardwareType.utf8
  sensorName := sensor.sensorName.utf8
  sensorType := sensor.sensorType.utf8
  unit := sensor.unit.utf8
  sensorIndex := sensor.sensorIndex.toInt
  isDefaultHidden := sensor.isDefaultHidden

/-- The entry is the last for its sensor. -/
def IsLast (entries : List CatalogSensor) (last : CatalogSensor) : Prop :=
  (entries.filter fun sensor => sensor.sensorUid = last.sensorUid).getLast? = some last

/-- One row for every sensor that an entry lists and the filter keeps, as the last entry has
it, in the order of the types and names. -/
structure IsListing (entries : List CatalogSensor) (filter : CatalogFilter)
    (rows : List CatalogRow) : Prop where
  ordered : rows.Pairwise fun first second => catalogKey first ≤ catalogKey second
  distinct : (rows.map CatalogRow.sensorUid).Nodup
  listed : ∀ row, row ∈ rows ↔ filter.Keeps row ∧ ∃ last, IsLast entries last ∧ last.shown = row

section Run

variable {environment : Environment} {options : BridgeOptions} {startedAt : DateTimeOffset}

/-- The host's entry for one of the bridge. -/
def CatalogSensor.listing (options : BridgeOptions) (entry : CatalogSensor × DateTimeOffset) :
    Listing :=
  ⟨receivedEnvelope schemaVersion options.source options.machineId entry.2, entry.1.received⟩

/-- The entries with the times they were sent. -/
def announcedAt : List Call → List (CatalogSensor × DateTimeOffset)
  | [] => []
  | .catalogSnapshot catalog utcNow :: rest => catalog.map (·, utcNow) ++ announcedAt rest
  | .hello _ _ :: rest | .sampleBatch _ _ _ :: rest | .heartbeat _ _ _ _ :: rest =>
    announcedAt rest

theorem map_fst_announcedAt (calls : List Call) :
    (announcedAt calls).map Prod.fst = announced calls := by
  induction calls with
  | nil => rfl
  | cons call rest ih =>
    cases call with
    | catalogSnapshot catalog utcNow =>
      simp [announcedAt, announced, ih, Function.comp_def]
    | _ => exact ih

theorem catalogLog_received (calls : List Call) :
    catalogLog (calls.map (Call.received environment options)) =
      (announcedAt calls).map (CatalogSensor.listing options) := by
  induction calls with
  | nil => rfl
  | cons call rest ih =>
    have log : catalogLog ((call :: rest).map (Call.received environment options)) =
        (call.received environment options).listings ++
          catalogLog (rest.map (Call.received environment options)) := List.flatMap_cons
    rw [log, ih]
    cases call with
    | catalogSnapshot catalog utcNow =>
      rw [announcedAt, List.map_append, List.map_map]
      refine congrArg (· ++ _) ?_
      simp [Call.received, BridgeMessage.listings, CatalogSnapshotMessage.received,
        buildCatalogSnapshot, CatalogSensor.listing]
    | _ => rfl

/-- The entries of a sensor, as the host has them. -/
theorem listingsOf_map (entries : List (CatalogSensor × DateTimeOffset)) (uid : NetString) :
    listingsOf (entries.map (CatalogSensor.listing options)) uid.utf8 =
      (entries.filter fun entry => entry.1.sensorUid = uid).map
        (CatalogSensor.listing options) := by
  rw [listingsOf, List.filter_map]
  refine congrArg (List.map _) (List.filter_congr fun entry _ => ?_)
  exact decide_eq_decide.mpr utf8_injective.eq_iff

theorem isLast_iff {calls : List Call} {last : CatalogSensor} :
    IsLast (announced calls) last ↔
      ∃ utcNow, ((announcedAt calls).filter fun entry =>
        entry.1.sensorUid = last.sensorUid).getLast? = some (last, utcNow) := by
  rw [IsLast, ← map_fst_announcedAt, List.filter_map, List.getLast?_map, Option.map_eq_some_iff]
  constructor
  · rintro ⟨⟨_, utcNow⟩, isLast, rfl⟩
    exact ⟨utcNow, isLast⟩
  · rintro ⟨utcNow, isLast⟩
    exact ⟨_, isLast, rfl⟩

/-- What the host shows of the last entry of a sensor is what the bridge said in it. -/
theorem exists_listing_iff (calls : List Call) (row : CatalogRow) :
    (∃ last, (listingsOf (catalogLog (calls.map (Call.received environment options)))
          row.sensorUid).getLast? = some last ∧
        last.envelope.machineId = options.machineId.utf8 ∧ last.shown = row) ↔
      ∃ last, IsLast (announced calls) last ∧ last.shown = row := by
  rw [catalogLog_received]
  constructor
  · rintro ⟨listing, isLast, -, rfl⟩
    have member := (List.mem_filter.mp (List.mem_of_getLast? isLast)).1
    obtain ⟨entry, -, rfl⟩ := List.mem_map.mp member
    have uid : (CatalogSensor.listing options entry).shown.sensorUid = entry.1.sensorUid.utf8 :=
      rfl
    rw [uid, listingsOf_map, List.getLast?_map] at isLast
    obtain ⟨entry', isLast', same⟩ := Option.map_eq_some_iff.mp isLast
    have own : entry'.1.sensorUid = entry.1.sensorUid :=
      of_decide_eq_true (List.mem_filter.mp (List.mem_of_getLast? isLast')).2
    refine ⟨entry'.1, isLast_iff.mpr ⟨entry'.2, ?_⟩, congrArg Listing.shown same⟩
    rw [own]
    exact isLast'
  · rintro ⟨last, isLast, rfl⟩
    obtain ⟨utcNow, isLast'⟩ := isLast_iff.mp isLast
    have uid : last.shown.sensorUid = last.sensorUid.utf8 := rfl
    refine ⟨CatalogSensor.listing options (last, utcNow), ?_, rfl, rfl⟩
    rw [uid, listingsOf_map, List.getLast?_map, isLast', Option.map_some]

end Run

/-! ## The sensors that are listed -/

section Deliveries

variable {encoder : Json.Encoder} (formatDouble : Double → Bytes)
variable {environment : Environment} {options : BridgeOptions} {startedAt : DateTimeOffset}

theorem mem_offeredBy {sendings : List Sending} {call : Call}
    (offered : call ∈ offeredBy environment options sendings) :
    ∃ sending ∈ sendings, sending.call = call := by
  induction sendings with
  | nil => exact absurd offered List.not_mem_nil
  | cons sending rest ih =>
    rw [offeredBy] at offered
    split_ifs at offered with writable written
    · rcases List.mem_cons.mp offered with rfl | later
      · exact ⟨sending, List.mem_cons_self, rfl⟩
      · obtain ⟨other, member, same⟩ := ih later
        exact ⟨other, List.mem_cons_of_mem _ member, same⟩
    · exact ⟨sending, List.mem_cons_self, (List.mem_singleton.mp offered).symm⟩
    · exact absurd offered List.not_mem_nil

/-- The inner loop sends no catalog. -/
theorem catalogSnapshot_notMem_innerLoop {catalogCount : Int32} {nextHeartbeat : ℤ}
    {turns : List Turn} {sending : Sending}
    (member : sending ∈ Session.innerLoop startedAt catalogCount nextHeartbeat turns)
    (catalog : List CatalogSensor) (utcNow : DateTimeOffset) :
    sending.call ≠ .catalogSnapshot catalog utcNow := by
  induction turns generalizing nextHeartbeat with
  | nil => exact absurd member List.not_mem_nil
  | cons turn rest ih =>
    rw [Session.innerLoop] at member
    rcases List.mem_cons.mp member with rfl | later
    · simp
    · split_ifs at later
      · rcases List.mem_cons.mp later with rfl | other
        · simp
        · exact ih other
      · exact ih later

/-- The only catalog of a connection is that of the tree it began with. -/
theorem Session.catalog_of_mem_offered {session : Session} {catalog : List CatalogSensor}
    {utcNow : DateTimeOffset}
    (member : Call.catalogSnapshot catalog utcNow ∈
      session.offered environment options startedAt) :
    catalog = buildCatalog session.computer := by
  unfold Session.offered at member
  split_ifs at member with connects
  · obtain ⟨sending, sent, same⟩ := mem_offeredBy member
    rcases List.mem_cons.mp sent with rfl | sent
    · exact absurd same (by simp)
    · rcases List.mem_cons.mp sent with rfl | sent
      · exact (Call.catalogSnapshot.inj same).1.symm
      · exact absurd same (catalogSnapshot_notMem_innerLoop sent catalog utcNow)
  · exact absurd member List.not_mem_nil

theorem mem_announced {calls : List Call} {entry : CatalogSensor} :
    entry ∈ announced calls ↔
      ∃ catalog utcNow, Call.catalogSnapshot catalog utcNow ∈ calls ∧ entry ∈ catalog := by
  induction calls with
  | nil => simp [announced]
  | cons call rest ih =>
    cases call with
    | catalogSnapshot catalog utcNow =>
      rw [announced, List.mem_append, ih]
      constructor
      · rintro (here | ⟨other, at_, later, listed⟩)
        · exact ⟨catalog, utcNow, List.mem_cons_self, here⟩
        · exact ⟨other, at_, List.mem_cons_of_mem _ later, listed⟩
      · rintro ⟨other, at_, member, listed⟩
        rcases List.mem_cons.mp member with same | later
        · exact .inl ((Call.catalogSnapshot.inj same).1 ▸ listed)
        · exact .inr ⟨other, at_, later, listed⟩
    | _ => simp [announced, ih]

theorem ReadFrom.exists_delivery
    {deliveries : List (Delivery encoder environment options startedAt)}
    {read : List (List Call)} (reads : ReadFrom deliveries read) {calls : List Call}
    (among : calls ∈ read) : ∃ delivery ∈ deliveries,
      delivery.session.ReadAs encoder environment options startedAt
        delivery.chunks.flatten calls := by
  induction reads with
  | nil => exact absurd among List.not_mem_nil
  | @cons delivery _ rest _ first _ ih =>
    rcases List.mem_cons.mp among with rfl | later
    · exact ⟨delivery, List.mem_cons_self, first⟩
    · obtain ⟨other, run, readAs⟩ := ih later
      exact ⟨other, List.mem_cons_of_mem _ run, readAs⟩

/-- Every entry is one of a sensor in the tree of a connection. -/
theorem exists_visited_of_announced
    {deliveries : List (Delivery encoder environment options startedAt)}
    {read : List (List Call)} (reads : ReadFrom deliveries read) {entry : CatalogSensor}
    (listed : entry ∈ announced read.flatten) :
    ∃ delivery ∈ deliveries, ∃ visited ∈ sensorsOfEach delivery.session.computer,
      catalogSensor visited.1 visited.2 = entry := by
  obtain ⟨catalog, utcNow, member, inCatalog⟩ := mem_announced.mp listed
  obtain ⟨calls, among, here⟩ := List.mem_flatten.mp member
  obtain ⟨delivery, run, readAs⟩ := reads.exists_delivery among
  have own := Session.catalog_of_mem_offered (readAs.beginning.subset here)
  rw [own, buildCatalog_eq] at inCatalog
  obtain ⟨visited, inTree, same⟩ := List.mem_map.mp inCatalog
  exact ⟨delivery, run, visited, inTree, same⟩

/-- **`/v1/catalog` shows the sensors of the hardware.** Start the host on an empty database
and let no command fail: whatever arrives of the connections of a run, and in whatever
chunks, the catalog lists just the sensors of the catalogs that were read, each as the last
of these has it, and all of them are sensors of the trees the connections began with. -/
theorem catalog_of_deliveries
    (deliveries : List (Delivery encoder environment options startedAt)) :
    ∃ read, ReadFrom deliveries read ∧
      (∀ entry ∈ announced read.flatten, ∃ delivery ∈ deliveries,
        ∃ visited ∈ sensorsOfEach delivery.session.computer,
          catalogSensor visited.1 visited.2 = entry) ∧
      ∀ filter rows,
        (Query.catalog options.machineId.utf8 filter).Returns
          (handleAll formatDouble (fun _ _ => false)
            (NamedPipeServer.run (deliveries.map Delivery.chunks))
            (Conn.closed Database.empty)).db (.catalog rows) →
        IsListing (announced read.flatten) filter rows := by
  obtain ⟨read, reads, same⟩ := exists_readFrom formatDouble deliveries
  refine ⟨read, reads, fun entry => exists_visited_of_announced reads, ?_⟩
  intro filter rows returned
  obtain ⟨applied, -, ended, all⟩ := handleAll_closed formatDouble (fun _ _ => false)
    (NamedPipeServer.run (deliveries.map Delivery.chunks)) Database.empty
  rw [ended, all fun _ _ => rfl, same] at returned
  obtain ⟨ordered, distinct, listed⟩ := isCatalog_of_returns returned
  exact ⟨ordered, distinct, fun row =>
    (listed row).trans (and_congr_right' (exists_listing_iff read.flatten row))⟩

end Deliveries

end LibreHwBridge

end CapacityAgent

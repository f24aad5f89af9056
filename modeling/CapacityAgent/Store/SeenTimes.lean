/-
# First and last seen

`machine_catalog` and `sensor_catalog` carry the same pair of times. The machine
upsert joins the last time with the stored one; the sensor upsert replaces it, so
there the pair stays ordered exactly as long as no sensor is named by a catalog
that was sent before one already applied.
-/

import CapacityAgent.Store.Health
import CapacityAgent.Store.Samples

namespace CapacityAgent

open KeyedTable

/-- The two times of a row. -/
@[ext] structure SeenTimes where
  firstSeenUtcMs : ℤ
  lastSeenUtcMs : ℤ
  deriving DecidableEq

def MachineRow.seenTimes (row : MachineRow) : SeenTimes := ⟨row.firstSeenUtcMs, row.lastSeenUtcMs⟩

def SensorRow.seenTimes (row : SensorRow) : SeenTimes := ⟨row.firstSeenUtcMs, row.lastSeenUtcMs⟩

/-- The times a machine was first and last seen, absent while it has no row. -/
def machineTimes (db : Database) (machineId : CStr) : Option SeenTimes :=
  (db.machineCatalog.lookup machineId).map MachineRow.seenTimes

/-- The times a sensor was first and last seen, absent while it has no row. -/
def sensorTimes (db : Database) (uid : CStr) : Option SeenTimes :=
  (db.sensorCatalog.lookup uid).map SensorRow.seenTimes

/-! ## One message -/

/-- A message joins its time to those of its machine. -/
theorem machineTimes_effect (message : BridgeMessage) (db : Database) (machineId : CStr) :
    machineTimes (message.effect db) machineId =
      if machineId = message.envelope.machineId then
        some ((machineTimes db machineId).elim ⟨message.seenUtcMs, message.seenUtcMs⟩ fun old =>
          ⟨old.firstSeenUtcMs, max old.lastSeenUtcMs message.seenUtcMs⟩)
      else machineTimes db machineId := by
  unfold machineTimes
  rw [effect_machineCatalog, Table.lookup_upsert]
  by_cases own : machineId = message.envelope.machineId
  · rw [if_pos own, if_pos own, ← own]
    cases db.machineCatalog.lookup machineId with
    | none => rfl
    | some row =>
      simp only [Option.elim_some, Option.map_some, MachineRow.seenTimes, MachineUpdate.merge,
        later_eq_max]
      rfl
  · rw [if_neg own, if_neg own]

/-- A catalog entry gives its sensor a new last time, and a first one if it has none. -/
theorem sensorTimes_upsertCatalogSensor (envelope : MessageEnvelope) (sensor : CatalogSensor)
    (db : Database) (uid : CStr) :
    sensorTimes (upsertCatalogSensor envelope sensor db) uid =
      if sensor.sensorUid = uid then
        some ⟨(sensorTimes db uid).elim envelope.sentAtUtcMs (·.firstSeenUtcMs),
          envelope.sentAtUtcMs⟩
      else sensorTimes db uid := by
  unfold sensorTimes upsertCatalogSensor
  simp only [Table.lookup_upsert]
  by_cases own : sensor.sensorUid = uid
  · subst own
    rw [if_pos rfl, if_pos rfl]
    cases db.sensorCatalog.lookup sensor.sensorUid <;> rfl
  · rw [if_neg (Ne.symm own), if_neg own]

theorem sensorTimes_foldl (envelope : MessageEnvelope) (sensors : List CatalogSensor)
    (db : Database) (uid : CStr) :
    sensorTimes (sensors.foldl (fun db sensor => upsertCatalogSensor envelope sensor db) db) uid =
      if ∃ sensor ∈ sensors, sensor.sensorUid = uid then
        some ⟨(sensorTimes db uid).elim envelope.sentAtUtcMs (·.firstSeenUtcMs),
          envelope.sentAtUtcMs⟩
      else sensorTimes db uid := by
  induction sensors generalizing db with
  | nil => simp
  | cons sensor rest ih =>
    rw [List.foldl_cons, ih, sensorTimes_upsertCatalogSensor]
    -- of several entries for the sensor, the first may make the row and all set one time
    by_cases own : sensor.sensorUid = uid
    · by_cases again : ∃ other ∈ rest, other.sensorUid = uid
      · simp [own, again]
      · simp [own, again]
    · by_cases again : ∃ other ∈ rest, other.sensorUid = uid
      · simp [own, again]
      · simp [own, again]

/-- A message gives the sensors it catalogues its send time as their last. -/
theorem sensorTimes_effect (message : BridgeMessage) (db : Database) (uid : CStr) :
    sensorTimes (message.effect db) uid =
      if message.Catalogues uid then
        some ⟨(sensorTimes db uid).elim message.envelope.sentAtUtcMs (·.firstSeenUtcMs),
          message.envelope.sentAtUtcMs⟩
      else sensorTimes db uid := by
  cases message with
  | hello message => rfl
  | heartbeat message => rfl
  | catalogSnapshot snapshot => exact sensorTimes_foldl snapshot.envelope snapshot.sensors _ uid
  | sampleBatch batch =>
    have kept : ((BridgeMessage.sampleBatch batch).effect db).sensorCatalog = db.sensorCatalog :=
      foldl_storeSample_catalog batch batch.samples _
    rw [sensorTimes, kept]
    rfl

/-! ## Ordered and growing -/

/-- In every row of both tables the first time is not after the last. -/
structure SeenOrdered (db : Database) : Prop where
  machine : ∀ machineId row, db.machineCatalog.lookup machineId = some row →
    row.firstSeenUtcMs ≤ row.lastSeenUtcMs
  sensor : ∀ uid row, db.sensorCatalog.lookup uid = some row →
    row.firstSeenUtcMs ≤ row.lastSeenUtcMs

/-- Every row of both tables is still there, last seen no earlier. -/
structure SeenGrows (db db' : Database) : Prop where
  machine : ∀ machineId row, db.machineCatalog.lookup machineId = some row →
    ∃ row', db'.machineCatalog.lookup machineId = some row' ∧
      row.lastSeenUtcMs ≤ row'.lastSeenUtcMs
  sensor : ∀ uid row, db.sensorCatalog.lookup uid = some row →
    ∃ row', db'.sensorCatalog.lookup uid = some row' ∧ row.lastSeenUtcMs ≤ row'.lastSeenUtcMs

/-- While the messages are applied the times stay ordered, and between any two points
no last time decreases. -/
def SeenTimesKept (messages : List BridgeMessage) : Prop :=
  ∀ first second third, messages = first ++ second ++ third →
    SeenOrdered (replay first Database.empty) ∧
      SeenGrows (replay first Database.empty) (replay (first ++ second) Database.empty)

/-- A sensor both messages catalogue is catalogued later by the second. -/
def InOrder (earlier later : BridgeMessage) : Prop :=
  ∀ uid, earlier.Catalogues uid → later.Catalogues uid →
    earlier.envelope.sentAtUtcMs ≤ later.envelope.sentAtUtcMs

/-- What holds of the times after messages whose catalogs came in order: a sensor's
last time is that of a catalog that names it. -/
structure TimesSound (messages : List BridgeMessage) (db : Database) : Prop where
  machine : ∀ machineId times, machineTimes db machineId = some times →
    times.firstSeenUtcMs ≤ times.lastSeenUtcMs
  sensor : ∀ uid times, sensorTimes db uid = some times →
    times.firstSeenUtcMs ≤ times.lastSeenUtcMs
  attained : ∀ uid times, sensorTimes db uid = some times →
    ∃ message ∈ messages, message.Catalogues uid ∧
      message.envelope.sentAtUtcMs = times.lastSeenUtcMs

theorem TimesSound.empty : TimesSound [] Database.empty where
  machine := fun _ _ found => absurd found (by simp [machineTimes, Database.empty])
  sensor := fun _ _ found => absurd found (by simp [sensorTimes, Database.empty])
  attained := fun _ _ found => absurd found (by simp [sensorTimes, Database.empty])

/-- A catalog sent no earlier than those before it keeps the times sound. -/
theorem TimesSound.effect {messages : List BridgeMessage} {db : Database}
    (sound : TimesSound messages db) {message : BridgeMessage}
    (ordered : ∀ earlier ∈ messages, InOrder earlier message) :
    TimesSound (messages ++ [message]) (message.effect db) where
  machine := by
    intro machineId times found
    rw [machineTimes_effect] at found
    split_ifs at found with own
    · cases old : machineTimes db machineId with
      | none =>
        rw [old] at found
        obtain rfl := Option.some.inj found
        exact le_rfl
      | some before =>
        rw [old] at found
        obtain rfl := Option.some.inj found
        exact (sound.machine machineId before old).trans (le_max_left _ _)
    · exact sound.machine machineId times found
  sensor := by
    intro uid times found
    rw [sensorTimes_effect] at found
    split_ifs at found with named
    · cases old : sensorTimes db uid with
      | none =>
        rw [old] at found
        obtain rfl := Option.some.inj found
        exact le_rfl
      | some before =>
        rw [old] at found
        obtain rfl := Option.some.inj found
        -- the row's last time is that of an earlier catalog, which was sent no later
        obtain ⟨earlier, member, namedBefore, at_⟩ := sound.attained uid before old
        have sent := ordered earlier member uid namedBefore named
        rw [at_] at sent
        exact (sound.sensor uid before old).trans sent
    · exact sound.sensor uid times found
  attained := by
    intro uid times found
    rw [sensorTimes_effect] at found
    split_ifs at found with named
    · obtain rfl := Option.some.inj found
      exact ⟨message, List.mem_append_right _ List.mem_cons_self, named, rfl⟩
    · obtain ⟨earlier, member, rest⟩ := sound.attained uid times found
      exact ⟨earlier, List.mem_append_left _ member, rest⟩

theorem machineTimes_eq_some {db : Database} {machineId : CStr} {row : MachineRow}
    (found : db.machineCatalog.lookup machineId = some row) :
    machineTimes db machineId = some row.seenTimes := by
  rw [machineTimes, found]
  rfl

theorem sensorTimes_eq_some {db : Database} {uid : CStr} {row : SensorRow}
    (found : db.sensorCatalog.lookup uid = some row) :
    sensorTimes db uid = some row.seenTimes := by
  rw [sensorTimes, found]
  rfl

theorem TimesSound.seenOrdered {messages : List BridgeMessage} {db : Database}
    (sound : TimesSound messages db) : SeenOrdered db where
  machine := fun machineId _ found => sound.machine machineId _ (machineTimes_eq_some found)
  sensor := fun uid _ found => sound.sensor uid _ (sensorTimes_eq_some found)

theorem SeenGrows.refl (db : Database) : SeenGrows db db where
  machine := fun _ row found => ⟨row, found, le_rfl⟩
  sensor := fun _ row found => ⟨row, found, le_rfl⟩

theorem SeenGrows.trans {db db' db'' : Database} (first : SeenGrows db db')
    (second : SeenGrows db' db'') : SeenGrows db db'' where
  machine := by
    intro machineId row found
    obtain ⟨row', found', grown⟩ := first.machine machineId row found
    obtain ⟨row'', found'', grown'⟩ := second.machine machineId row' found'
    exact ⟨row'', found'', grown.trans grown'⟩
  sensor := by
    intro uid row found
    obtain ⟨row', found', grown⟩ := first.sensor uid row found
    obtain ⟨row'', found'', grown'⟩ := second.sensor uid row' found'
    exact ⟨row'', found'', grown.trans grown'⟩

/-- The row a message leaves of a sensor, and the last time in it. -/
theorem exists_sensorRow_effect {message : BridgeMessage} {db : Database} {uid : CStr}
    {times : SeenTimes} (found : sensorTimes (message.effect db) uid = some times) :
    ∃ row, (message.effect db).sensorCatalog.lookup uid = some row ∧
      row.lastSeenUtcMs = times.lastSeenUtcMs := by
  obtain ⟨row, stored, rfl⟩ := Option.map_eq_some_iff.mp found
  exact ⟨row, stored, rfl⟩

/-- Nor does any last time decrease then. -/
theorem TimesSound.seenGrows {messages : List BridgeMessage} {db : Database}
    (sound : TimesSound messages db) {message : BridgeMessage}
    (ordered : ∀ earlier ∈ messages, InOrder earlier message) :
    SeenGrows db (message.effect db) where
  machine := by
    intro machineId row found
    have after := machineTimes_effect message db machineId
    rw [machineTimes_eq_some found] at after
    by_cases own : machineId = message.envelope.machineId
    · rw [if_pos own] at after
      obtain ⟨row', stored, same⟩ := Option.map_eq_some_iff.mp after
      refine ⟨row', stored, ?_⟩
      have last : row'.lastSeenUtcMs = max row.lastSeenUtcMs message.seenUtcMs :=
        congrArg SeenTimes.lastSeenUtcMs same
      rw [last]
      exact le_max_left _ _
    · rw [if_neg own] at after
      obtain ⟨row', stored, same⟩ := Option.map_eq_some_iff.mp after
      exact ⟨row', stored, (congrArg SeenTimes.lastSeenUtcMs same).ge⟩
  sensor := by
    intro uid row found
    have after := sensorTimes_effect message db uid
    by_cases named : message.Catalogues uid
    · rw [if_pos named] at after
      obtain ⟨row', stored, last⟩ := exists_sensorRow_effect after
      obtain ⟨earlier, member, namedBefore, at_⟩ :=
        sound.attained uid _ (sensorTimes_eq_some found)
      have sent := ordered earlier member uid namedBefore named
      exact ⟨row', stored, by rw [last]; exact at_.ge.trans sent⟩
    · rw [if_neg named, sensorTimes_eq_some found] at after
      obtain ⟨row', stored, last⟩ := exists_sensorRow_effect after
      exact ⟨row', stored, last.ge⟩

/-! ## Runs -/

theorem timesSound_replay {messages : List BridgeMessage} (ordered : messages.Pairwise InOrder) :
    TimesSound messages (replay messages Database.empty) := by
  induction messages using List.reverseRecOn with
  | nil => exact .empty
  | append_singleton messages message ih =>
    obtain ⟨before, -, last⟩ := List.pairwise_append.mp ordered
    rw [replay_concat]
    exact (ih before).effect fun earlier member => last earlier member message List.mem_cons_self

theorem seenGrows_replay {first second : List BridgeMessage}
    (ordered : (first ++ second).Pairwise InOrder) :
    SeenGrows (replay first Database.empty) (replay (first ++ second) Database.empty) := by
  induction second using List.reverseRecOn with
  | nil =>
    rw [List.append_nil]
    exact .refl _
  | append_singleton second message ih =>
    rw [← List.append_assoc] at ordered ⊢
    obtain ⟨before, -, last⟩ := List.pairwise_append.mp ordered
    rw [replay_concat]
    exact (ih before).trans ((timesSound_replay before).seenGrows fun earlier member =>
      last earlier member message List.mem_cons_self)

/-- The last time a catalog leaves is its own. -/
theorem lookup_of_catalogues {message : BridgeMessage} {uid : CStr}
    (named : message.Catalogues uid) (db : Database) :
    ∃ row, (message.effect db).sensorCatalog.lookup uid = some row ∧
      row.lastSeenUtcMs = message.envelope.sentAtUtcMs := by
  have after := sensorTimes_effect message db uid
  rw [if_pos named] at after
  obtain ⟨row, stored, last⟩ := exists_sensorRow_effect after
  exact ⟨row, stored, last⟩

/-- **First and last seen** stay ordered and no last time decreases, in both tables
and at every point of a run, exactly when no applied catalog names a sensor that an
earlier one of a later send time named. -/
theorem seenTimesKept_iff (messages : List BridgeMessage) :
    SeenTimesKept messages ↔ messages.Pairwise InOrder := by
  constructor
  · intro kept
    induction messages using List.reverseRecOn with
    | nil => exact .nil
    | append_singleton messages message ih =>
      have shorter : SeenTimesKept messages := by
        intro first second third split
        exact kept first second (third ++ [message]) (by rw [split, List.append_assoc])
      refine List.pairwise_append.mpr ⟨ih shorter, List.pairwise_singleton _ _, ?_⟩
      intro earlier member last isLast uid namedBefore named
      obtain rfl := List.mem_singleton.mp isLast
      obtain ⟨before, between, rfl⟩ := List.append_of_mem member
      -- the two catalogs leave their own send times, one after the other
      have grows := (kept (before ++ [earlier]) (between ++ [last]) [] (by simp)).2
      rw [replay_concat, ← List.append_assoc, replay_concat] at grows
      obtain ⟨row, stored, at_⟩ := lookup_of_catalogues namedBefore (replay before Database.empty)
      obtain ⟨row', stored', grown⟩ := grows.sensor uid row stored
      obtain ⟨row'', stored'', at_'⟩ := lookup_of_catalogues named
        (replay (before ++ [earlier] ++ between) Database.empty)
      obtain rfl := Option.some.inj (stored'.symm.trans stored'')
      rwa [at_, at_'] at grown
  · intro ordered first second third split
    rw [split] at ordered
    have upTo : (first ++ second).Pairwise InOrder := (List.pairwise_append.mp ordered).1
    exact ⟨(timesSound_replay (List.pairwise_append.mp upTo).1).seenOrdered,
      seenGrows_replay upTo⟩

/-! ## A catalog that is overtaken -/

/-- A catalog of one sensor, sent at a time. -/
def catalogSentAt (sentAtUtcMs : ℤ) : BridgeMessage :=
  .catalogSnapshot
    { envelope := ⟨1, text "librehw_bridge", text "host", sentAtUtcMs⟩
      sensors :=
        [{ sensorUid := text "librehw:/amdcpu/0/temperature/0"
           hardwareUid := text "librehw:/amdcpu/0"
           hardwarePath := text "/amdcpu/0"
           hardwareName := text "CPU"
           hardwareType := text "Cpu"
           sensorPath := text "/amdcpu/0/temperature/0"
           sensorName := text "Package"
           sensorType := text "Temperature"
           sensorIndex := 0
           unit := text "C"
           isDefaultHidden := false
           propertiesJson := text "" }] }

/-- After a catalog of time 2000 and one of time 1000 the sensor was first seen after it
was last seen. -/
theorem seenTimes_not_always_kept : ¬ ∀ messages, SeenTimesKept messages := by
  intro kept
  have ordered := (kept [catalogSentAt 2000, catalogSentAt 1000]
    [catalogSentAt 2000, catalogSentAt 1000] [] [] rfl).1
  have row := ordered.sensor (text "librehw:/amdcpu/0/temperature/0") _ rfl
  exact absurd row (by decide)

end CapacityAgent

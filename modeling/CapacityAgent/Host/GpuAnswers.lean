/-
# From the GPUs to the API

However the threads interleave and whichever commands fail, the rows of the GPUs are snapshots
that were polled at their times, and what is sent about the GPUs are those of the newest time
that is stored, each with the values of its snapshot and nothing where there was no reading.
-/

import CapacityAgent.Host.OllamaAnswers

namespace CapacityAgent

open CJson (Item elementsShown getObjectItemCaseSensitive numberShown)
open Json (Datum Denotes)
open KeyedTable Newest Select SharedConnection Transitions

/-! ## Entries -/

/-- A number as cJSON writes it, null where there was no reading. -/
def readingSaid (present : Prop) [Decidable present] (value : ℚ) : Datum :=
  if present then numberShown value else .null

/-- What the API says about a GPU of which a poll read this snapshot. -/
def gpuSaid (name : CStr) (snap : GpuSnapshot) : Datum :=
  .object
    [(lit "gpu_index", numberShown snap.gpuIndex),
      (lit "gpu_name", .string name.bytes),
      (lit "core_c", readingSaid (snap.coreC ≠ 0) snap.coreC),
      (lit "hotspot_c", readingSaid (snap.hotspotC ≠ 0) snap.hotspotC),
      -- an idle GPU has a load of 0, which is a reading
      (lit "util_gpu_pct", readingSaid (0 ≤ snap.utilGpuPct) snap.utilGpuPct),
      -- the snapshot counts megabytes
      (lit "vram_used_bytes", readingSaid (0 < snap.vramUsedMb) (snap.vramUsedMb.toNat * 2 ^ 20)),
      (lit "vram_total_bytes",
        readingSaid (0 < snap.vramTotalMb) (snap.vramTotalMb.toNat * 2 ^ 20)),
      (lit "power_w", readingSaid (0 < snap.nvmlPowerMw) (snap.nvmlPowerMw.toNat / 1000))]

theorem shown_optionalDoubleItem (present : Prop) [Decidable present] (value : Double) :
    (optionalDoubleItem (if present then some value else none)).shown =
      readingSaid present value := by
  unfold readingSaid
  split_ifs <;> rfl

/-- The bytes of 32 bits of megabytes are held exactly. -/
theorem shown_optionalInt64Item (mb : UInt32) :
    (optionalInt64Item ((optInt64 mb).map (· * 1048576))).shown =
      readingSaid (0 < mb) (mb.toNat * 2 ^ 20) := by
  unfold readingSaid optInt64
  split_ifs with present
  · have small : |(mb.toNat : ℤ) * 1048576| ≤ 2 ^ 53 := by
      have lt := mb.toNat_lt
      rw [abs_of_nonneg (by omega)]
      omega
    have bytes : (((mb.toNat : ℤ) * 1048576 : ℤ) : ℚ) = mb.toNat * 2 ^ 20 := by norm_num
    rw [Option.map_some, optionalInt64Item, Option.elim_some, int64Item, CJson.Item.shown,
      Binary64.nearest_intCast small, bytes]
  · rfl

/-- An empty name is stored as NULL, which reads as empty. -/
theorem getD_boundName (name : CStr) :
    (if name.bytes.isEmpty then none else some name).getD (text "") = name := by
  split_ifs with empty
  · exact CStr.ext (List.isEmpty_iff.mp empty).symm
  · rfl

theorem shown_gpuEntry (key : GpuKey) (name : CStr) (snap : GpuSnapshot) :
    (gpuEntry (StoredGpu.snapshotRow (key, gpuRow name snap))).shown = gpuSaid name snap := by
  have index : (text "gpu_index").bytes = lit "gpu_index" := by decide
  have named : (text "gpu_name").bytes = lit "gpu_name" := by decide
  have core : (text "core_c").bytes = lit "core_c" := by decide
  have hotspot : (text "hotspot_c").bytes = lit "hotspot_c" := by decide
  have util : (text "util_gpu_pct").bytes = lit "util_gpu_pct" := by decide
  have used : (text "vram_used_bytes").bytes = lit "vram_used_bytes" := by decide
  have total : (text "vram_total_bytes").bytes = lit "vram_total_bytes" := by decide
  have power : (text "power_w").bytes = lit "power_w" := by decide
  simp only [gpuEntry, CJson.Item.shown, CJson.entriesShown, index, named, core, hotspot, util,
    used, total, power, StoredGpu.snapshotRow, gpuRow, getD_boundName, optDouble,
    shown_optionalDoubleItem, shown_optionalInt64Item, gpuSaid]

/-! ## Runs -/

section Runs

variable (polls : ℤ → List CStr → List GpuSnapshot → Prop)

/-- The polls of the GPUs are these, with the names of the GPUs and the snapshots. -/
def HostEvent.Polls (nowMs : ℤ) : HostEvent → Prop
  | .gpuPoll names snapshots => polls nowMs names snapshots
  | .tick _ | .message _ | .command _ | .gpuInit _ | .gpuCall _ | .ollamaPoll _ => True
  | .ollamaInit _ | .ollamaCall _ | .restart | .readGpus | .readHealth | .answered => True

/-- A state of an agent with these polls. -/
def PollsGpus (machineId : CStr) (now : ℤ) : Host → Prop :=
  Reaches (Host.step machineId) (fun s e => e.Polls polls s.clock) (Host.start now)

/-- The row holds a snapshot of a poll at its time, of the GPU of its key. -/
def PolledRow (key : GpuKey) (row : GpuRow) : Prop :=
  ∃ names snapshots, polls key.tsUtcMs names snapshots ∧ ∃ snap ∈ snapshots,
    key.gpuUid = gpuUid snap.gpuIndex ∧ row = gpuRow (gpuName names snap) snap

def CollectorCall.Polled : CollectorCall → Prop
  | .gpuSample key row => PolledRow polls key row
  | .ollamaSample .. | .healthDirect _ => True

/-- The rows of the database hold snapshots of polls. -/
def Database.Polled (db : Database) : Prop := db.gpuSamples.All (PolledRow polls)

variable {polls}

/-- Only the insert of a sample writes the table. -/
theorem stable_polled : Stable (Database.Polled polls) (fun _ => True)
    (CollectorCall.Polled polls) where
  empty := Table.all_empty
  stmt stmt db _ stored := by
    rw [Database.Polled, stmt.effect_gpuSamples]
    exact stored
  call call db own stored := by
    cases call with
    | gpuSample key row => exact Table.All.put stored own
    | healthDirect health => exact stored
    | ollamaSample key row => exact stored

/-- A poll stores its snapshots. -/
theorem HostEvent.Polls.brings {machineId : CStr} {nowMs : ℤ} {e : HostEvent}
    (known : e.Polls polls nowMs) :
    e.Brings machineId (fun _ => True) (CollectorCall.Polled polls) nowMs := by
  refine HostEvent.brings_of_inserts (fun _ => trivial) ?_ (fun _ _ => trivial)
  rintro names snapshots rfl
  exact List.forall_mem_map.mpr fun snap member =>
    ⟨names, snapshots, known, snap, member, rfl, rfl⟩

/-- Whatever happens, what is stored was polled. -/
theorem PollsGpus.polled {machineId : CStr} {now : ℤ} {host : Host}
    (reached : PollsGpus polls machineId now host) : host.store.conn.db.Polled polls :=
  (Host.holds_of_reaches stable_polled (fun _ _ known => known.brings) reached).store.visible

end Runs

/-! ## What is sent -/

/-- The key is stored, and none of the machine is newer. -/
def IsNewest (machineId : CStr) (db : Database) (key : GpuKey) : Prop :=
  key ∈ db.gpuSamples ∧ key.machineId = machineId ∧
    ∀ other ∈ db.gpuSamples, other.machineId = machineId → other.tsUtcMs ≤ key.tsUtcMs

/-- The entry says what a poll read of the GPU of the key, at its time. -/
def SaysGpu (polls : ℤ → List CStr → List GpuSnapshot → Prop) (key : GpuKey) (entry : Datum) :
    Prop :=
  ∃ names snapshots, polls key.tsUtcMs names snapshots ∧ ∃ snap ∈ snapshots,
    key.gpuUid = gpuUid snap.gpuIndex ∧ entry = gpuSaid (gpuName names snap) snap

/-- The entries are those of newest keys, one for each: for all of them after a complete read. -/
def SaysGpus (polls : ℤ → List CStr → List GpuSnapshot → Prop) (machineId : CStr) (db : Database)
    (complete : Prop) (entries : List Datum) : Prop :=
  ∃ keys : List GpuKey, keys.Nodup ∧ (∀ key ∈ keys, IsNewest machineId db key) ∧
    (complete → ∀ key, IsNewest machineId db key → key ∈ keys) ∧
      List.Forall₂ (SaysGpu polls) keys entries

/-- A list that is a permutation of images is the image of a permutation. -/
theorem exists_map_of_perm {α β : Type} {f : α → β} {ys : List β} {xs : List α}
    (perm : ys.Perm (xs.map f)) : ∃ zs : List α, zs.Perm xs ∧ ys = zs.map f := by
  have images : List.Forall₂ (fun y x => y = f x) (xs.map f) xs :=
    List.forall₂_map_left_iff.mpr (List.forall₂_same.mpr fun _ _ => rfl)
  -- the permutation of the images is one of what they are images of
  obtain ⟨zs, same, permuted⟩ := List.perm_comp_forall₂ perm images
  exact ⟨zs, permuted, List.forall₂_eq_eq_eq ▸ List.forall₂_map_right_iff.mpr same⟩

section Sent

variable {polls : ℤ → List CStr → List GpuSnapshot → Prop} {machineId : CStr}

theorem isNewest_iff {db : Database} {key : GpuKey} :
    IsNewest machineId db key ↔ ∃ row, (key, row) ∈ latestGpus machineId db := by
  simp only [mem_latestGpus]
  constructor
  · rintro ⟨stored, own, largest⟩
    obtain ⟨row, found⟩ := Table.mem_iff_exists_lookup.mp stored
    exact ⟨row, ⟨found, own⟩, largest⟩
  · rintro ⟨row, ⟨found, own⟩, largest⟩
    exact ⟨Table.mem_iff_exists_lookup.mpr ⟨row, found⟩, own, largest⟩

/-- No key is among the newest rows twice. -/
theorem nodup_keys_latestGpus (db : Database) :
    ((latestGpus machineId db).map Prod.fst).Nodup := by
  have rows : ((newest StoredGpu.ts (machineGpus machineId db)).map Prod.fst).Sublist
      (db.gpuSamples.rows.map Prod.fst) := (List.filter_sublist.trans List.filter_sublist).map _
  exact ((List.perm_insertionSort _ _).map _).nodup_iff.mpr
    (db.gpuSamples.nodup_keys_rows.sublist rows)

theorem saysGpus_of_selects {db : Database} (polled : db.Polled polls)
    {rows : List GpuSnapshotRow} (selects : (ReadStmt.gpus machineId).Selects db rows)
    (access : Access) :
    SaysGpus polls machineId db (access.Clear rows)
      (elementsShown (((ReadStmt.gpus machineId).read access rows).map gpuEntry)) := by
  obtain ⟨n, taken, complete⟩ := ReadStmt.read_eq_take selects access
  -- the answer has lost the keys of its rows; these are the stored rows it is made of
  obtain ⟨gpus, permuted, rfl⟩ := exists_map_of_perm (Answers.perm selects)
  have listed : gpus.Perm (latestGpus machineId db) :=
    permuted.trans (List.perm_insertionSort _ _).symm
  have distinct : (gpus.map Prod.fst).Nodup :=
    (listed.map _).nodup_iff.mpr (nodup_keys_latestGpus db)
  rw [taken, CJson.elementsShown_eq, ← List.map_take, List.map_map, List.map_map]
  refine ⟨(gpus.take n).map Prod.fst, distinct.sublist ((List.take_sublist n gpus).map _),
    List.forall_mem_map.mpr fun gpu member => ?_, fun clear key newest => ?_, ?_⟩
  · exact isNewest_iff.mpr ⟨gpu.2, listed.mem_iff.mp (List.mem_of_mem_take member)⟩
  · obtain ⟨row, member⟩ := isNewest_iff.mp newest
    have all := complete.mpr clear
    rw [List.length_map] at all
    rw [List.take_of_length_le all]
    exact List.mem_map.mpr ⟨(key, row), listed.mem_iff.mpr member, rfl⟩
  · refine List.forall₂_map_left_iff.mpr (List.forall₂_map_right_iff.mpr
      (List.forall₂_same.mpr fun gpu member => ?_))
    obtain ⟨⟨found, -⟩, -⟩ := mem_latestGpus.mp (listed.mem_iff.mp (List.mem_of_mem_take member))
    obtain ⟨names, snapshots, known, snap, read, uid, row⟩ := polled gpu.1 gpu.2 found
    refine ⟨names, snapshots, known, snap, read, uid, ?_⟩
    rw [← shown_gpuEntry gpu.1, ← row]
    rfl

/-- **What is sent about the GPUs.** However the threads interleave while a request is served,
the JSON that is sent has one entry for each GPU of the newest stored time, as far as the rows
are read, with what a poll at that time read of it. -/
theorem gpus_sent (machine : machineId.IsUtf8) {now : ℤ} {context : RequestContext}
    (known : ∀ answer ∈ context.machine, ∃ host, ReachedInUtf8 machineId now host ∧
      queryMachineCatalog machineId host.store.conn.db = some answer)
    {reads : Reads} (read : ReadsReached machineId now reads) {host : Host}
    (reached : PollsGpus polls machineId now host) {rows : List GpuSnapshotRow}
    (selects : (ReadStmt.gpus machineId).Selects host.store.conn.db rows) {access : Access}
    (same : reads (.gpus machineId) = (ReadStmt.gpus machineId).read access rows) :
    ∃ bytes ∈ (Route.snapshot.reply machineId context reads).sent,
      ∃ said, Denotes bytes.bytes said ∧
        ∃ entries, named (text "gpus") said = some (.array entries) ∧
          SaysGpus polls machineId host.store.conn.db (access.Clear rows) entries := by
  have told := saysGpus_of_selects reached.polled selects access
  rw [← same] at told
  have item : getObjectItemCaseSensitive (snapshotResponse machineId context.nowUtcMs context.ages
      (latestSnapshotOf machineId reads) (reads (.health machineId))) (text "gpus") =
      some (.array ((reads (.gpus machineId)).map gpuEntry)) := rfl
  refine ⟨_, rfl, _, read.denotes_body machine known
    (show Route.snapshot.Textual from trivial) rfl, _, ?_, told⟩
  rw [named_shown, item]
  rfl

end Sent

/-- A GPU with a name is polled and stored. -/
def namedPoll : List HostEvent :=
  [.gpuInit none, .gpuPoll [text "RTX"] [idleGpu], .gpuCall true, .gpuCall true]

/-- The only poll there is. -/
def OnlyNamedPoll (t : ℤ) (names : List CStr) (snapshots : List GpuSnapshot) : Prop :=
  t = 0 ∧ names = [text "RTX"] ∧ snapshots = [idleGpu]

theorem gpus_sent_namedPoll :
    ∃ host, exec (Host.step (text "host")) (Host.start 0) namedPoll = some host ∧
      let reads : Reads := fun s =>
        s.read ⟨true, none⟩ ((Selection.ofStorage host.store.conn.db).rows s)
      ∃ bytes ∈ (Route.snapshot.reply (text "host") ⟨0, fun _ => 0, ⟨0, 0, 0⟩, none⟩ reads).sent,
        ∃ said, Denotes bytes.bytes said ∧
          ∃ entries, named (text "gpus") said = some (.array entries) ∧
            SaysGpus OnlyNamedPoll (text "host") host.store.conn.db
              (Access.Clear ⟨true, none⟩
                ((Selection.ofStorage host.store.conn.db).rows (.gpus (text "host")))) entries := by
  have ran : exec (Host.step (text "host")) (Host.start 0) namedPoll = some _ := rfl
  have inUtf8 : ReachedInUtf8 (text "host") 0 _ := Reaches.of_exec ran
    ⟨nofun, List.forall_mem_singleton.mpr (isUtf8_text (by decide)), trivial, trivial, trivial⟩
  have reached : PollsGpus OnlyNamedPoll (text "host") 0 _ := Reaches.of_exec ran
    ⟨trivial, ⟨rfl, rfl, rfl⟩, trivial, trivial, trivial⟩
  refine ⟨_, ran, ?_⟩
  intro reads
  exact gpus_sent (isUtf8_text (by decide)) (fun answer known => absurd known (by simp))
    inUtf8.reads reached ((Selection.ofStorage _).selects (.gpus (text "host"))) rfl

end CapacityAgent

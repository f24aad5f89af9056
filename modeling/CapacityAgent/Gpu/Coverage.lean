/-
# Which GPUs a snapshot covers

The GPU query selects by the machine's greatest time stamp, not by that of each
GPU. It lists every stored GPU exactly when all of them have a row of that time,
which the poll loop, inserting one row after the other and ignoring failures, does
not see to: between two inserts of a poll, after a failed insert and after a GPU
is gone, a stored GPU is missing from the snapshot.
-/

import CapacityAgent.Store.Queries
import CapacityAgent.Gpu.Snapshot
import CapacityAgent.Library.Transitions

namespace CapacityAgent

open KeyedTable Newest Transitions

/-- The snapshot lists every GPU with a row once, with its newest row. -/
def CoversEveryGpu (machineId : CStr) (db : Database) : Prop :=
  ∀ uid ts₀, ⟨machineId, uid, ts₀⟩ ∈ db.gpuSamples →
    ∃ ts row, (latestGpus machineId db).filter (fun gpu => gpu.uid = uid) =
        [(⟨machineId, uid, ts⟩, row)] ∧
      db.gpuSamples.lookup ⟨machineId, uid, ts⟩ = some row ∧
      ∀ ts', ⟨machineId, uid, ts'⟩ ∈ db.gpuSamples → ts' ≤ ts

/-- Every GPU of the machine with a row has one that no row of the machine is newer
than. -/
def Aligned (machineId : CStr) (db : Database) : Prop :=
  ∀ uid ts₀, ⟨machineId, uid, ts₀⟩ ∈ db.gpuSamples →
    ∃ top, ⟨machineId, uid, top⟩ ∈ db.gpuSamples ∧
      ∀ key ∈ db.gpuSamples, key.machineId = machineId → key.tsUtcMs ≤ top

theorem coversEveryGpu_iff_aligned (machineId : CStr) (db : Database) :
    CoversEveryGpu machineId db ↔ Aligned machineId db := by
  constructor
  · intro covers uid ts₀ stored
    obtain ⟨ts, row, listed, found, -⟩ := covers uid ts₀ stored
    have selected : (⟨machineId, uid, ts⟩, row) ∈ latestGpus machineId db := by
      have member : (⟨machineId, uid, ts⟩, row) ∈
          (latestGpus machineId db).filter (fun gpu => gpu.uid = uid) := by simp [listed]
      exact List.mem_of_mem_filter member
    exact ⟨ts, Table.mem_iff_exists_lookup.mpr ⟨row, found⟩, (mem_latestGpus.mp selected).2⟩
  · intro aligned uid ts₀ stored
    obtain ⟨top, topStored, largest⟩ := aligned uid ts₀ stored
    obtain ⟨row, found⟩ := Table.mem_iff_exists_lookup.mp topStored
    have selected : (⟨machineId, uid, top⟩, row) ∈ latestGpus machineId db :=
      mem_latestGpus.mpr ⟨⟨found, rfl⟩, largest⟩
    refine ⟨top, row, ?_, found, fun ts' stored' => largest _ stored' rfl⟩
    refine eq_singleton_of_nodup ((nodup_latestGpus machineId db).filter _)
      (List.mem_filter.mpr ⟨selected, by simp [StoredGpu.uid]⟩) ?_
    -- another selected row of the GPU has the same time, hence the same key
    rintro ⟨⟨machineId', uid', ts'⟩, row'⟩ here
    obtain ⟨selected', sameUid⟩ := List.mem_filter.mp here
    obtain ⟨⟨found', sameMachine⟩, largest'⟩ := mem_latestGpus.mp selected'
    obtain rfl : machineId' = machineId := sameMachine
    obtain rfl : uid' = uid := of_decide_eq_true sameUid
    have stored' : ⟨machineId', uid', ts'⟩ ∈ db.gpuSamples :=
      Table.mem_iff_exists_lookup.mpr ⟨row', found'⟩
    obtain rfl : ts' = top :=
      le_antisymm (largest ⟨machineId', uid', ts'⟩ stored' rfl) (largest' _ topStored rfl)
    have sameRow : row' = row := Option.some.inj (found'.symm.trans found)
    rw [sameRow]

/-! ## Polls -/

/-- The table while the loop inserts: what is left of the poll, and how its last insert
went, absent before the first. -/
structure Polling where
  db : Database
  pending : List StoredGpu
  outcome : Option Bool

/-- The loop starts to insert the snapshots of a poll, or makes its next insert, which
may fail. -/
inductive PollEvent
  | poll (names : List CStr) (nowMs : ℤ) (snapshots : List GpuSnapshot)
  | insert (ok : Bool)

def Polling.step (machineId : CStr) (s : Polling) : PollEvent → Option Polling
  | .poll names nowMs snapshots =>
    match s.pending with
    | [] => some ⟨s.db, pollInserts machineId names nowMs snapshots, none⟩
    -- the loop inserts a whole poll before it starts another
    | _ :: _ => none
  | .insert ok =>
    match s.pending with
    | [] => none
    | gpu :: rest =>
      -- the result of an insert is ignored
      some ⟨if ok then insertGpuSample gpu.1 gpu.2 s.db else s.db, rest, some ok⟩

/-- A poll stamps no earlier than the stored rows and covers every GPU that has one, and
its inserts all go the same way. -/
def WholePolls (machineId : CStr) (s : Polling) : PollEvent → Prop
  | .poll _ nowMs snapshots =>
    ∀ key ∈ s.db.gpuSamples, key.machineId = machineId →
      key.tsUtcMs ≤ nowMs ∧ ∃ snap ∈ snapshots, gpuUid snap.gpuIndex = key.gpuUid
  | .insert ok => ∀ earlier, s.outcome = some earlier → ok = earlier

/-- The rows of a poll that is being stored: no stored row is newer, and every stored
GPU has its row or is still to get it. -/
structure Storing (machineId : CStr) (s : Polling) (nowMs : ℤ) : Prop where
  pending : ∀ gpu ∈ s.pending, gpu.1.machineId = machineId ∧ gpu.1.tsUtcMs = nowMs
  newest : ∀ key ∈ s.db.gpuSamples, key.machineId = machineId → key.tsUtcMs ≤ nowMs
  covered : ∀ key ∈ s.db.gpuSamples, key.machineId = machineId →
    ⟨machineId, key.gpuUid, nowMs⟩ ∈ s.db.gpuSamples ∨ ∃ gpu ∈ s.pending, gpu.uid = key.gpuUid

/-- Between polls the table is aligned; before the first insert and after failures it
still is, and after successes the rest of the poll will align it. -/
def PollInvariant (machineId : CStr) (s : Polling) : Prop :=
  match s.outcome with
  | none => Aligned machineId s.db ∧ (s.pending = [] ∨ ∃ nowMs, Storing machineId s nowMs)
  | some false => Aligned machineId s.db
  | some true => ∃ nowMs, Storing machineId s nowMs

theorem Storing.aligned {machineId : CStr} {s : Polling} {nowMs : ℤ}
    (storing : Storing machineId s nowMs) (finished : s.pending = []) :
    Aligned machineId s.db := by
  intro uid ts₀ stored
  rcases storing.covered _ stored rfl with here | ⟨gpu, member, -⟩
  · exact ⟨nowMs, here, storing.newest⟩
  · rw [finished] at member
    exact absurd member List.not_mem_nil

theorem PollInvariant.aligned {machineId : CStr} {s : Polling}
    (invariant : PollInvariant machineId s) (finished : s.pending = []) :
    Aligned machineId s.db := by
  unfold PollInvariant at invariant
  split at invariant
  · exact invariant.1
  · exact invariant
  · obtain ⟨nowMs, storing⟩ := invariant
    exact storing.aligned finished

/-- A successful insert brings the poll one row further. -/
theorem Storing.insert {machineId : CStr} {s : Polling} {nowMs : ℤ} {gpu : StoredGpu}
    {rest : List StoredGpu} {outcome : Option Bool} (storing : Storing machineId s nowMs)
    (next : s.pending = gpu :: rest) :
    Storing machineId ⟨insertGpuSample gpu.1 gpu.2 s.db, rest, outcome⟩ nowMs := by
  obtain ⟨⟨machineId', uid, ts⟩, row⟩ := gpu
  have first := storing.pending _ (next ▸ List.mem_cons_self)
  obtain ⟨rfl, rfl⟩ : machineId' = machineId ∧ ts = nowMs := first
  have stored : ∀ key, key ∈ (insertGpuSample ⟨machineId', uid, ts⟩ row s.db).gpuSamples ↔
      key = ⟨machineId', uid, ts⟩ ∨ key ∈ s.db.gpuSamples := fun key => Table.mem_put _ _ _ _
  refine ⟨fun gpu member => storing.pending gpu (next ▸ List.mem_cons_of_mem _ member), ?_, ?_⟩
  · intro key here own
    rcases (stored key).mp here with rfl | old
    · exact le_rfl
    · exact storing.newest key old own
  · intro key here own
    rcases (stored key).mp here with rfl | old
    · exact .inl ((stored _).mpr (.inl rfl))
    -- a GPU that waits for its row gets it now or still waits
    · rcases storing.covered key old own with done | ⟨other, member, same⟩
      · exact .inl ((stored _).mpr (.inr done))
      · rw [next] at member
        rcases List.mem_cons.mp member with rfl | later
        · left
          rw [← same]
          exact (stored _).mpr (.inl rfl)
        · exact .inr ⟨other, later, same⟩

/-- The polling step lemma. -/
theorem PollInvariant.step {machineId : CStr} {s t : Polling} {e : PollEvent}
    (invariant : PollInvariant machineId s) (whole : WholePolls machineId s e)
    (taken : s.step machineId e = some t) : PollInvariant machineId t := by
  cases e with
  | poll names nowMs snapshots =>
    cases pending : s.pending with
    | cons gpu rest => simp [Polling.step, pending] at taken
    | nil =>
      simp only [Polling.step, pending] at taken
      obtain rfl := Option.some.inj taken
      -- a poll starts from an aligned table and promises a row for every stored GPU
      refine ⟨invariant.aligned pending, .inr ⟨nowMs, ?_, fun key stored own => ?_,
        fun key stored own => ?_⟩⟩
      · intro gpu member
        obtain ⟨snap, -, rfl⟩ := List.mem_map.mp member
        exact ⟨rfl, rfl⟩
      · exact (whole key stored own).1
      · obtain ⟨snap, member, same⟩ := (whole key stored own).2
        exact .inr ⟨_, List.mem_map_of_mem member, same⟩
  | insert ok =>
    cases pending : s.pending with
    | nil => simp [Polling.step, pending] at taken
    | cons gpu rest =>
      simp only [Polling.step, pending] at taken
      obtain rfl := Option.some.inj taken
      have same : ∀ earlier, s.outcome = some earlier → ok = earlier := whole
      unfold PollInvariant at invariant
      cases outcome : s.outcome with
      | none =>
        rw [outcome] at invariant
        obtain ⟨aligned, idle | ⟨nowMs, storing⟩⟩ := invariant
        -- the first insert tells how the poll goes: failing throughout it changes nothing
        · exact absurd (pending.symm.trans idle) (by simp)
        · cases ok with
          | false => exact aligned
          | true => exact ⟨nowMs, storing.insert pending⟩
      | some earlier =>
        obtain rfl := same earlier outcome
        rw [outcome] at invariant
        cases ok with
        | false => exact invariant
        | true =>
          obtain ⟨nowMs, storing⟩ := invariant
          exact ⟨nowMs, storing.insert pending⟩

/-- **When a snapshot covers every GPU.** For every table, exactly when the stored GPUs
of the machine all have a row of the machine's newest time; and in every run from an
aligned table whose polls are whole, in every state between two polls. -/
theorem snapshot_covers_iff (machineId : CStr) :
    (∀ db, CoversEveryGpu machineId db ↔ Aligned machineId db) ∧
      ∀ db s, Aligned machineId db →
        Reaches (Polling.step machineId) (WholePolls machineId) ⟨db, [], none⟩ s →
          s.pending = [] → CoversEveryGpu machineId s.db := by
  refine ⟨coversEveryGpu_iff_aligned machineId, fun db s aligned run finished => ?_⟩
  have invariant : PollInvariant machineId s :=
    run.invariant (fun _ _ _ invariant whole taken => invariant.step whole taken)
      ⟨aligned, .inl rfl⟩
  exact (coversEveryGpu_iff_aligned machineId s.db).mpr (invariant.aligned finished)

/-! ## A snapshot with half a poll -/

/-- Two GPUs, polled twice; the second poll has inserted one row when a reader comes. -/
def halfPoll : List PollEvent :=
  [.poll [] 1000 [{ gpuIndex := 0 }, { gpuIndex := 1 }], .insert true, .insert true,
    .poll [] 1500 [{ gpuIndex := 0 }, { gpuIndex := 1 }], .insert true]

/-- A reader can see part of a poll. -/
theorem snapshot_not_always_covering :
    ¬ ∀ s, Reaches (Polling.step (text "host")) unguarded ⟨Database.empty, [], none⟩ s →
      CoversEveryGpu (text "host") s.db := by
  intro covers
  obtain ⟨s, ran, stored, missing⟩ : ∃ s,
      exec (Polling.step (text "host")) ⟨Database.empty, [], none⟩ halfPoll = some s ∧
        ⟨text "host", gpuUid 1, 1000⟩ ∈ s.db.gpuSamples ∧
        (latestGpus (text "host") s.db).filter (fun gpu => gpu.uid = gpuUid 1) = [] :=
    ⟨_, rfl, by decide, by decide⟩
  obtain ⟨ts, row, listed, -⟩ :=
    covers s (Reaches.of_exec ran (meets_unguarded _ _)) (gpuUid 1) 1000 stored
  exact absurd (listed.symm.trans missing) (List.cons_ne_nil _ _)

end CapacityAgent

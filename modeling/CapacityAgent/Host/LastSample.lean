/-
# What the last sample time says

`last_sample_utc_ms` of a health row, against the samples its collector has stored.
Every report of a collector sets it: also the one about a failed initialisation, about
an answer that never came, and the one after inserts whose results were ignored. And
two collectors whose ids read the same write one row. Where each report follows an
insert that was stored, and no row changes hands, the times are true in every run.
-/

import CapacityAgent.Host.Agent
import CapacityAgent.Store.Health
import CapacityAgent.Store.Redelivery

namespace CapacityAgent.LastSample

open KeyedTable Connection Transitions

/-! ## The writers -/

/-- The database and the two collector threads. For the statements only: the messages
applied so far, and whether an insert of each collector's present round was stored. -/
structure Agent where
  db : Database
  applied : List BridgeMessage
  gpu : Collector
  gpuStored : Bool
  ollama : Collector
  ollamaStored : Bool

/-- A new database. -/
def initial : Agent := ⟨Database.empty, [], Collector.initial, false, Collector.initial, false⟩

/-- A message with the commands that fail for it; what a collector does next, at the time
its clock shows; its next store call, which succeeds or fails; or a restart. -/
inductive Event
  | message (fails : ℕ → Bool) (message : BridgeMessage)
  | gpuInit (nowMs : ℤ) (failure : Option CStr)
  | gpuPoll (nowMs : ℤ) (names : List CStr) (snapshots : List GpuSnapshot)
  | gpuCall (ok : Bool)
  | ollamaInit (ok : Bool)
  | ollamaPoll (nowMs : ℤ) (reply : OllamaReply)
  | ollamaCall (ok : Bool)
  | restart

/-- What a store call leaves. -/
def callOutcome (call : CollectorCall) (ok : Bool) (db : Database) : Database :=
  if ok then call.effect db else db

/-- Whether a store call stores a sample: an insert that succeeds. -/
def storesSample (ok : Bool) : CollectorCall → Bool
  | .gpuSample .. | .ollamaSample .. => ok
  | .healthDirect _ => false

/-- One step; `none` when the event cannot happen now. -/
def Agent.step (machineId : CStr) (s : Agent) : Event → Option Agent
  | .message fails message =>
    let outcome := persist fails message (Conn.closed s.db)
    some
      { s with
        db := outcome.2.db
        applied := if outcome.1 then s.applied ++ [message] else s.applied }
  | .gpuInit _ none =>
    (s.gpu.begin .running []).map fun gpu => { s with gpu := gpu, gpuStored := false }
  | .gpuInit nowMs (some warning) =>
    (s.gpu.begin .down (gpuInitCalls machineId warning nowMs)).map fun gpu =>
      { s with gpu := gpu, gpuStored := false }
  | .gpuPoll nowMs names snapshots =>
    (s.gpu.poll (gpuPollCalls machineId names nowMs snapshots)).map fun gpu =>
      { s with gpu := gpu, gpuStored := false }
  | .gpuCall ok =>
    match s.gpu.calls with
    | [] => none
    | call :: rest =>
      some
        { s with
          gpu := { s.gpu with calls := rest }
          gpuStored := s.gpuStored || storesSample ok call
          db := callOutcome call ok s.db }
  | .ollamaInit ok =>
    (s.ollama.begin (if ok then .running else .down) []).map fun ollama =>
      { s with ollama := ollama, ollamaStored := false }
  | .ollamaPoll nowMs reply =>
    (s.ollama.poll (ollamaPollCalls machineId nowMs reply)).map fun ollama =>
      { s with ollama := ollama, ollamaStored := false }
  | .ollamaCall ok =>
    match s.ollama.calls with
    | [] => none
    | call :: rest =>
      some
        { s with
          ollama := { s.ollama with calls := rest }
          ollamaStored := s.ollamaStored || storesSample ok call
          db := callOutcome call ok s.db }
  | .restart =>
    some
      { s with
        gpu := Collector.initial
        gpuStored := false
        ollama := Collector.initial
        ollamaStored := false }

theorem Agent.gpuCall_eq_some {machineId : CStr} {s t : Agent} {ok : Bool}
    (taken : s.step machineId (.gpuCall ok) = some t) :
    ∃ call rest, s.gpu.calls = call :: rest ∧
      t = { s with
        gpu := { s.gpu with calls := rest }
        gpuStored := s.gpuStored || storesSample ok call
        db := callOutcome call ok s.db } := by
  simp only [Agent.step] at taken
  cases calls : s.gpu.calls with
  | nil => simp [calls] at taken
  | cons call rest =>
    rw [calls] at taken
    exact ⟨call, rest, rfl, (Option.some.inj taken).symm⟩

theorem Agent.ollamaCall_eq_some {machineId : CStr} {s t : Agent} {ok : Bool}
    (taken : s.step machineId (.ollamaCall ok) = some t) :
    ∃ call rest, s.ollama.calls = call :: rest ∧
      t = { s with
        ollama := { s.ollama with calls := rest }
        ollamaStored := s.ollamaStored || storesSample ok call
        db := callOutcome call ok s.db } := by
  simp only [Agent.step] at taken
  cases calls : s.ollama.calls with
  | nil => simp [calls] at taken
  | cons call rest =>
    rw [calls] at taken
    exact ⟨call, rest, rfl, (Option.some.inj taken).symm⟩

/-! ## Samples -/

/-- A collector has stored a sample of the time. -/
def Sampled (db : Database) (applied : List BridgeMessage) (machineId source : CStr) (t : ℤ) :
    Prop :=
  if source = text "direct_gpu" then
    ∃ key ∈ db.gpuSamples, key.machineId = machineId ∧ key.tsUtcMs = t
  else if source = text "ollama" then
    ∃ key ∈ db.ollamaRuntimeSamples, key.machineId = machineId ∧ key.tsUtcMs = t
  else
    ∃ batch, .sampleBatch batch ∈ applied ∧ batch.envelope.machineId = machineId ∧
      batch.envelope.source = source ∧ batch.sampleTimeUtcMs = t

/-- Every last sample time is that of a sample the row's collector has stored. -/
def LastSampleTrue (s : Agent) : Prop :=
  ∀ id row t, s.db.collectorHealth.lookup id = some row → row.lastSampleUtcMs = some t →
    Sampled s.db s.applied row.machineId row.source t

/-! ## The condition -/

/-- The row an upsert writes holds no last sample of another collector whose id reads the
same. -/
def Unshared (db : Database) (id : CStr) (new : CollectorUpdate) : Prop :=
  ∀ row ∈ db.collectorHealth.lookup id, row.lastSampleUtcMs ≠ none →
    row.machineId = new.machineId ∧ row.source = new.source

instance (db : Database) (id : CStr) (new : CollectorUpdate) : Decidable (Unshared db id new) :=
  inferInstanceAs (Decidable (∀ row ∈ db.collectorHealth.lookup id, _))

/-- A batch bears the name of a collector on the pipe, not of one in the agent. -/
def FromPipe : BridgeMessage → Prop
  | .sampleBatch batch =>
    batch.envelope.source ≠ text "direct_gpu" ∧ batch.envelope.source ≠ text "ollama"
  | .hello _ | .catalogSnapshot _ | .heartbeat _ => True

instance : DecidablePred FromPipe
  | .sampleBatch _ => inferInstanceAs (Decidable (_ ∧ _))
  | .hello _ | .catalogSnapshot _ | .heartbeat _ => .isTrue trivial

/-- A report follows an insert of its round that was stored, and has the row to itself. -/
def ReportBacked (db : Database) (stored : Bool) : CollectorCall → Prop
  | .healthDirect health => stored = true ∧ Unshared db health.collectorId health.update
  | .gpuSample .. | .ollamaSample .. => True

instance (db : Database) (stored : Bool) : DecidablePred (ReportBacked db stored)
  | .healthDirect _ => inferInstanceAs (Decidable (_ ∧ _))
  | .gpuSample .. | .ollamaSample .. => .isTrue trivial

/-- Every message that is applied comes from a collector on the pipe and writes its own row,
and every report that is stored follows an insert that was stored. A round whose
initialisation failed, whose answer has no models, that read no GPU or whose inserts all
failed has no such insert. -/
def Backed (s : Agent) : Event → Prop
  | .message fails message =>
    (persist fails message (Conn.closed s.db)).1 = true →
      FromPipe message ∧ Unshared s.db message.collectorId message.collectorUpdate
  | .gpuCall true => ∀ call ∈ s.gpu.calls.head?, ReportBacked s.db s.gpuStored call
  | .ollamaCall true => ∀ call ∈ s.ollama.calls.head?, ReportBacked s.db s.ollamaStored call
  | _ => True

instance (s : Agent) : DecidablePred (Backed s)
  | .message _ _ => inferInstanceAs (Decidable (_ → _))
  | .gpuCall true => inferInstanceAs (Decidable (∀ call ∈ s.gpu.calls.head?, _))
  | .ollamaCall true => inferInstanceAs (Decidable (∀ call ∈ s.ollama.calls.head?, _))
  | .gpuCall false | .ollamaCall false | .gpuInit _ _ | .gpuPoll _ _ _ | .ollamaInit _
  | .ollamaPoll _ _ | .restart => .isTrue trivial

/-! ## Rounds without a sample -/

/-- The report of an initialisation that failed is not backed. -/
theorem not_backed_of_gpuInit {machineId warning : CStr} {s t : Agent} {nowMs : ℤ}
    (taken : s.step machineId (.gpuInit nowMs (some warning)) = some t) :
    ¬ Backed t (.gpuCall true) := by
  obtain ⟨gpu, begun, rfl⟩ := Option.map_eq_some_iff.mp taken
  obtain rfl := Collector.begin_eq_some begun
  intro backed
  exact absurd (backed _ rfl).1 Bool.false_ne_true

/-- Nor is the report of an answer that never came, was not of status 200 or was no JSON. -/
theorem not_backed_of_ollamaPoll {machineId : CStr} {s t : Agent} {nowMs : ℤ}
    {reply : OllamaReply} (noModels : ∀ row, reply ≠ .models row)
    (taken : s.step machineId (.ollamaPoll nowMs reply) = some t) :
    ¬ Backed t (.ollamaCall true) := by
  obtain ⟨ollama, polled, rfl⟩ := Option.map_eq_some_iff.mp taken
  intro backed
  unfold Backed at backed
  rw [Collector.poll_eq_some polled] at backed
  cases reply with
  | models row => exact absurd rfl (noModels row)
  | _ => exact absurd (backed _ rfl).1 Bool.false_ne_true

/-- Inserts that fail leave the report without a sample. -/
theorem exec_failed_inserts (machineId : CStr) {report : HealthDirect}
    (inserts : List (GpuKey × GpuRow)) {s : Agent} (none : s.gpuStored = false)
    (calls : s.gpu.calls = inserts.map (fun insert => .gpuSample insert.1 insert.2) ++
      [.healthDirect report]) :
    ∃ t, exec (Agent.step machineId) s (List.replicate inserts.length (.gpuCall false)) = some t ∧
      t.gpu.calls = [.healthDirect report] ∧ t.gpuStored = false := by
  induction inserts generalizing s with
  | nil => exact ⟨s, rfl, calls, none⟩
  | cons insert rest ih =>
    let next : Agent :=
      { s with
        gpu := { s.gpu with
          calls := rest.map (fun insert => .gpuSample insert.1 insert.2) ++
            [.healthDirect report] } }
    have taken : s.step machineId (.gpuCall false) = some next := by
      simp [Agent.step, calls, storesSample, callOutcome, next]
    obtain ⟨t, ran, left, still⟩ := ih (s := next) none rfl
    exact ⟨t, exec_cons_eq_some.mpr ⟨next, taken, ran⟩, left, still⟩

/-- Nor is the report of a poll that read no GPU, or whose inserts all fail. -/
theorem not_backed_of_gpuPoll {machineId : CStr} {s t : Agent} {nowMs : ℤ} {names : List CStr}
    {snapshots : List GpuSnapshot}
    (taken : s.step machineId (.gpuPoll nowMs names snapshots) = some t) :
    ∃ u, exec (Agent.step machineId) t (List.replicate snapshots.length (.gpuCall false)) =
        some u ∧ ¬ Backed u (.gpuCall true) := by
  obtain ⟨gpu, polled, rfl⟩ := Option.map_eq_some_iff.mp taken
  -- the round is the inserts and then the report
  have calls := Collector.poll_eq_some polled
  obtain ⟨u, ran, left, none⟩ := exec_failed_inserts machineId
    (pollInserts machineId names nowMs snapshots) (s := { s with gpu := gpu, gpuStored := false })
    rfl calls
  rw [pollInserts, List.length_map] at ran
  refine ⟨u, ran, fun backed => ?_⟩
  have report := backed _ (by rw [left]; rfl)
  rw [none] at report
  exact absurd report.1 Bool.false_ne_true

/-! ## True writes -/

/-- The upsert puts a new last sample time into its row. -/
def Raises (db : Database) (id : CStr) (new : CollectorUpdate) (t : ℤ) : Prop :=
  new.lastSampleUtcMs = some t ∧
    ∀ row old, db.collectorHealth.lookup id = some row → row.lastSampleUtcMs = some old → old < t

/-- The upsert leaves a last sample time in its row and gives the row to another
collector. -/
def Relabels (db : Database) (id : CStr) (new : CollectorUpdate) (t : ℤ) : Prop :=
  ∃ row, db.collectorHealth.lookup id = some row ∧ row.lastSampleUtcMs = some t ∧
    (row.machineId ≠ new.machineId ∨ row.source ≠ new.source) ∧
      ∀ fresh, new.lastSampleUtcMs = some fresh → fresh ≤ t

/-- A time the upsert raises or relabels is that of a sample of its collector. -/
def Truthful (db : Database) (applied : List BridgeMessage) (id : CStr) (new : CollectorUpdate) :
    Prop :=
  ∀ t, Raises db id new t ∨ Relabels db id new t →
    Sampled db applied new.machineId new.source t

/-- A store call that succeeds reports truthfully. -/
def CallTruthful (s : Agent) (call : CollectorCall) : Prop :=
  match call with
  | .healthDirect health => Truthful s.db s.applied health.collectorId health.update
  | .gpuSample .. | .ollamaSample .. => True

/-- Every write of a health row, by a message that is applied (which may bring the sample
itself) or by a collector's report that is stored, is truthful. -/
def ReportsSamples (s : Agent) : Event → Prop
  | .message fails message =>
    (persist fails message (Conn.closed s.db)).1 = true →
      Truthful s.db (s.applied ++ [message]) message.collectorId message.collectorUpdate
  | .gpuCall true => ∀ call ∈ s.gpu.calls.head?, CallTruthful s call
  | .ollamaCall true => ∀ call ∈ s.ollama.calls.head?, CallTruthful s call
  | _ => True

/-! ## One write -/

/-- The stored samples of one state are stored in the other. -/
def Keeps (s t : Agent) : Prop :=
  ∀ machineId source u, Sampled s.db s.applied machineId source u →
    Sampled t.db t.applied machineId source u

theorem sampled_mono {db db' : Database} {applied applied' : List BridgeMessage}
    (gpus : ∀ key ∈ db.gpuSamples, key ∈ db'.gpuSamples)
    (ollama : ∀ key ∈ db.ollamaRuntimeSamples, key ∈ db'.ollamaRuntimeSamples)
    (messages : ∀ message ∈ applied, message ∈ applied') {machineId source : CStr} {u : ℤ}
    (sampled : Sampled db applied machineId source u) :
    Sampled db' applied' machineId source u := by
  unfold Sampled at sampled ⊢
  split_ifs with isGpu isOllama
  · rw [if_pos isGpu] at sampled
    obtain ⟨key, stored, rest⟩ := sampled
    exact ⟨key, gpus key stored, rest⟩
  · rw [if_neg isGpu, if_pos isOllama] at sampled
    obtain ⟨key, stored, rest⟩ := sampled
    exact ⟨key, ollama key stored, rest⟩
  · rw [if_neg isGpu, if_neg isOllama] at sampled
    obtain ⟨batch, member, rest⟩ := sampled
    exact ⟨batch, messages _ member, rest⟩

/-- The last sample time an upsert leaves. -/
theorem lastSample_upsert (new : CollectorUpdate) (old : Option CollectorRow) :
    (old.elim new.fresh new.merge).lastSampleUtcMs =
      laterNullable new.lastSampleUtcMs (old.bind (·.lastSampleUtcMs)) := by
  cases old with
  | none => cases given : new.lastSampleUtcMs <;> simp [CollectorUpdate.fresh, given, laterNullable]
  | some row => rfl

theorem labels_upsert (new : CollectorUpdate) (old : Option CollectorRow) :
    (old.elim new.fresh new.merge).machineId = new.machineId ∧
      (old.elim new.fresh new.merge).source = new.source := by
  cases old <;> exact ⟨rfl, rfl⟩

/-- A write that raises keeps its own time, one that does not the stored one. -/
theorem laterNullable_raises {new old : Option ℤ} {t : ℤ} (given : new = some t)
    (later : ∀ u, old = some u → u < t) : laterNullable new old = some t := by
  subst given
  cases old with
  | none => rfl
  | some u => simp [laterNullable, later u rfl]

theorem laterNullable_keeps {new old : Option ℤ} {t : ℤ} (stored : old = some t)
    (later : ∀ u, new = some u → u ≤ t) : laterNullable new old = some t := by
  subst stored
  cases new with
  | none => rfl
  | some u => simp [laterNullable, not_lt.mpr (later u rfl)]

/-- Of the time an upsert leaves: it is raised by the upsert, or was in the row. -/
theorem laterNullable_cases {new old : Option ℤ} {t : ℤ} (left : laterNullable new old = some t) :
    (new = some t ∧ ∀ u, old = some u → u < t) ∨
      old = some t ∧ ∀ u, new = some u → u ≤ t := by
  cases new with
  | none => exact .inr ⟨left, by simp⟩
  | some fresh =>
    cases old with
    | none => exact .inl ⟨left, by simp⟩
    | some stored =>
      simp only [laterNullable] at left
      split_ifs at left with newer
      · obtain rfl := Option.some.inj left
        exact .inl ⟨rfl, fun u same => by obtain rfl := Option.some.inj same; exact newer⟩
      · obtain rfl := Option.some.inj left
        exact .inr ⟨rfl, fun u same => by obtain rfl := Option.some.inj same; exact not_lt.mp newer⟩

/-- After the upsert of a health row the last sample times are true exactly when those it
raises or relabels are. -/
theorem lastSampleTrue_upsert_iff {s t : Agent} {id : CStr} {new : CollectorUpdate}
    (sound : LastSampleTrue s) (keeps : Keeps s t)
    (health : t.db.collectorHealth = s.db.collectorHealth.upsert id new.fresh new.merge) :
    LastSampleTrue t ↔ ∀ u, Raises s.db id new u ∨ Relabels s.db id new u →
      Sampled t.db t.applied new.machineId new.source u := by
  have row : t.db.collectorHealth.lookup id =
      some ((s.db.collectorHealth.lookup id).elim new.fresh new.merge) := by
    rw [health, Table.lookup_upsert_self]
  obtain ⟨machine, source⟩ := labels_upsert new (s.db.collectorHealth.lookup id)
  constructor
  · intro true_ u written
    have left : ((s.db.collectorHealth.lookup id).elim new.fresh new.merge).lastSampleUtcMs =
        some u := by
      rw [lastSample_upsert]
      rcases written with ⟨given, later⟩ | ⟨old, found, stored, -, later⟩
      · refine laterNullable_raises given fun v has => ?_
        obtain ⟨old, found, stored⟩ := Option.bind_eq_some_iff.mp has
        exact later old v found stored
      · exact laterNullable_keeps (by rw [found]; exact stored) later
    have sampled := true_ id _ u row left
    rwa [machine, source] at sampled
  · intro truthful id' row' u found has
    by_cases own : id' = id
    · subst own
      obtain rfl := Option.some.inj (row.symm.trans found)
      rw [machine, source]
      rw [lastSample_upsert] at has
      rcases laterNullable_cases has with ⟨given, later⟩ | ⟨stored, later⟩
      · refine truthful u (.inl ⟨given, fun old v found' stored => later v ?_⟩)
        rw [found']
        exact stored
      · obtain ⟨old, found', stored⟩ := Option.bind_eq_some_iff.mp stored
        -- a time that stays is true for the old labels already
        by_cases same : old.machineId = new.machineId ∧ old.source = new.source
        · rw [← same.1, ← same.2]
          exact keeps _ _ _ (sound id' old u found' stored)
        · refine truthful u (.inr ⟨old, found', stored, ?_, later⟩)
          by_cases machines : old.machineId = new.machineId
          · exact .inr fun sources => same ⟨machines, sources⟩
          · exact .inl machines
    · rw [health, Table.lookup_upsert_of_ne _ _ _ own] at found
      exact keeps _ _ _ (sound id' row' u found has)

/-- Where no health row is written, the times stay true. -/
theorem LastSampleTrue.of_keeps {s t : Agent} (sound : LastSampleTrue s) (keeps : Keeps s t)
    (health : t.db.collectorHealth = s.db.collectorHealth) : LastSampleTrue t := by
  intro id row u found has
  rw [health] at found
  exact keeps _ _ _ (sound id row u found has)

/-! ## One step -/

/-- Samples only depend on the two sample tables and the messages. -/
theorem sampled_congr {db db' : Database} (gpus : db'.gpuSamples = db.gpuSamples)
    (ollama : db'.ollamaRuntimeSamples = db.ollamaRuntimeSamples) (applied : List BridgeMessage)
    (machineId source : CStr) (u : ℤ) :
    Sampled db' applied machineId source u ↔ Sampled db applied machineId source u := by
  simp only [Sampled, gpus, ollama]

/-- A message that is applied stores no sample but its own. -/
theorem keeps_effect {s t : Agent} {message : BridgeMessage} (db : t.db = message.effect s.db)
    (applied : t.applied = s.applied ++ [message]) : Keeps s t := by
  obtain ⟨gpus, ollama⟩ := effect_sampleTables message s.db
  intro machineId source u sampled
  rw [db, applied]
  exact sampled_mono (by rw [gpus]; exact fun _ stored => stored)
    (by rw [ollama]; exact fun _ stored => stored)
    (fun _ member => List.mem_append_left _ member) sampled

/-- A store call of a collector keeps the samples, whatever it is and however it ends. -/
theorem keeps_call {s t : Agent} {call : CollectorCall} (ok : Bool)
    (applied : t.applied = s.applied) (left : t.db = callOutcome call ok s.db) : Keeps s t := by
  intro machineId source u sampled
  rw [applied, left]
  cases ok with
  | false => exact sampled
  | true =>
    cases call with
    | gpuSample key row =>
      refine sampled_mono ?_ ?_ ?_ sampled
      · exact fun other stored => (Table.mem_put _ key other row).mpr (.inr stored)
      · exact fun _ stored => stored
      · exact fun _ member => member
    | ollamaSample key row =>
      refine sampled_mono ?_ ?_ ?_ sampled
      · exact fun _ stored => stored
      · exact fun other stored => (Table.mem_put _ key other row).mpr (.inr stored)
      · exact fun _ member => member
    | healthDirect health => exact sampled

theorem keeps_message {s t : Agent} {machineId : CStr} {fails : ℕ → Bool} {message : BridgeMessage}
    (taken : s.step machineId (.message fails message) = some t) : Keeps s t := by
  obtain rfl := Option.some.inj taken
  rcases persist_closed message fails s.db with failed | succeeded
  · rw [failed]
    exact fun _ _ _ sampled => sampled
  · rw [succeeded]
    exact keeps_effect rfl rfl

theorem message_iff {s t : Agent} {machineId : CStr} {fails : ℕ → Bool} {message : BridgeMessage}
    (sound : LastSampleTrue s) (taken : s.step machineId (.message fails message) = some t) :
    LastSampleTrue t ↔ ReportsSamples s (.message fails message) := by
  have keeps := keeps_message taken
  obtain rfl := Option.some.inj taken
  rcases persist_closed message fails s.db with failed | succeeded
  · rw [failed]
    refine iff_of_true sound fun reported => ?_
    rw [failed] at reported
    exact absurd reported (by simp)
  · obtain ⟨gpus, ollama⟩ := effect_sampleTables message s.db
    rw [succeeded] at keeps ⊢
    refine (lastSampleTrue_upsert_iff sound keeps (effect_collectorHealth message s.db)).trans ?_
    simp only [ReportsSamples, succeeded, Truthful, true_implies]
    -- the collector's columns name the sender of the message
    exact forall₂_congr fun u _ => sampled_congr gpus ollama _ _ _ u

/-- A store call of a collector, for either thread. -/
theorem call_iff {s t : Agent} {call : CollectorCall} {ok : Bool} (sound : LastSampleTrue s)
    (applied : t.applied = s.applied) (left : t.db = callOutcome call ok s.db) :
    LastSampleTrue t ↔ (ok = true → CallTruthful s call) := by
  have keeps := keeps_call ok applied left
  cases ok with
  | false =>
    have same : t.db = s.db := left
    exact iff_of_true (sound.of_keeps keeps (by rw [same])) (by simp)
  | true =>
    have db : t.db = call.effect s.db := left
    simp only [true_implies]
    cases call with
    | gpuSample key row => exact iff_of_true (sound.of_keeps keeps (by rw [db]; rfl)) trivial
    | ollamaSample key row => exact iff_of_true (sound.of_keeps keeps (by rw [db]; rfl)) trivial
    | healthDirect health =>
      refine (lastSampleTrue_upsert_iff sound keeps (by rw [db]; rfl)).trans ?_
      rw [db, applied]
      exact Iff.rfl

/-- A step from a state with true times leaves true times exactly when its write is
truthful. -/
theorem step_iff {machineId : CStr} (s : Agent) (e : Event) (t : Agent) (sound : LastSampleTrue s)
    (taken : s.step machineId e = some t) : LastSampleTrue t ↔ ReportsSamples s e := by
  cases e with
  | message fails message => exact message_iff sound taken
  | gpuInit nowMs failure =>
    cases failure with
    | none =>
      obtain ⟨gpu, -, rfl⟩ := Option.map_eq_some_iff.mp taken
      exact iff_of_true sound trivial
    | some warning =>
      obtain ⟨gpu, -, rfl⟩ := Option.map_eq_some_iff.mp taken
      exact iff_of_true sound trivial
  | gpuPoll nowMs names snapshots =>
    obtain ⟨gpu, -, rfl⟩ := Option.map_eq_some_iff.mp taken
    exact iff_of_true sound trivial
  | gpuCall ok =>
    obtain ⟨call, rest, calls, rfl⟩ := Agent.gpuCall_eq_some taken
    refine (call_iff sound (by rfl) (by rfl)).trans ?_
    cases ok <;> simp [ReportsSamples, calls]
  | ollamaInit ok =>
    obtain ⟨ollama, -, rfl⟩ := Option.map_eq_some_iff.mp taken
    exact iff_of_true sound trivial
  | ollamaPoll nowMs reply =>
    obtain ⟨ollama, -, rfl⟩ := Option.map_eq_some_iff.mp taken
    exact iff_of_true sound trivial
  | ollamaCall ok =>
    obtain ⟨call, rest, calls, rfl⟩ := Agent.ollamaCall_eq_some taken
    refine (call_iff sound (by rfl) (by rfl)).trans ?_
    cases ok <;> simp [ReportsSamples, calls]
  | restart =>
    obtain rfl := Option.some.inj taken
    exact iff_of_true sound trivial

/-! ## Rounds -/

/-- A store call of a collector's round at the time: an insert into its own table, or a report
under its name. -/
def CallOf (machineId source : CStr) (now : ℤ) : CollectorCall → Prop
  | .gpuSample key _ =>
    source = text "direct_gpu" ∧ key.machineId = machineId ∧ key.tsUtcMs = now
  | .ollamaSample key _ => source = text "ollama" ∧ key.machineId = machineId ∧ key.tsUtcMs = now
  | .healthDirect health =>
    health.machineId = machineId ∧ health.source = source ∧ health.nowUtcMs = now

/-- The calls left of a round are of one time, and once an insert of it was stored there is a
sample of that time. -/
def RoundOf (machineId source : CStr) (calls : List CollectorCall) (stored : Bool) (s : Agent) :
    Prop :=
  ∃ now, (∀ call ∈ calls, CallOf machineId source now call) ∧
    (stored = true → Sampled s.db s.applied machineId source now)

/-- Both collectors are within such a round. -/
structure Rounds (machineId : CStr) (s : Agent) : Prop where
  gpu : RoundOf machineId (text "direct_gpu") s.gpu.calls s.gpuStored s
  ollama : RoundOf machineId (text "ollama") s.ollama.calls s.ollamaStored s

theorem gpuInitCalls_of (machineId warning : CStr) (nowMs : ℤ) :
    ∀ call ∈ gpuInitCalls machineId warning nowMs,
      CallOf machineId (text "direct_gpu") nowMs call := by
  intro call member
  obtain rfl := List.mem_singleton.mp member
  exact ⟨rfl, rfl, rfl⟩

theorem gpuPollCalls_of (machineId : CStr) (names : List CStr) (nowMs : ℤ)
    (snapshots : List GpuSnapshot) :
    ∀ call ∈ gpuPollCalls machineId names nowMs snapshots,
      CallOf machineId (text "direct_gpu") nowMs call := by
  intro call member
  rcases List.mem_append.mp member with insert | report
  · obtain ⟨pair, inserted, rfl⟩ := List.mem_map.mp insert
    obtain ⟨snap, -, rfl⟩ := List.mem_map.mp inserted
    exact ⟨rfl, rfl, rfl⟩
  · obtain rfl := List.mem_singleton.mp report
    exact ⟨rfl, rfl, rfl⟩

theorem ollamaPollCalls_of (machineId : CStr) (nowMs : ℤ) (reply : OllamaReply) :
    ∀ call ∈ ollamaPollCalls machineId nowMs reply,
      CallOf machineId (text "ollama") nowMs call := by
  cases reply with
  | models row =>
    intro call member
    rcases List.mem_pair.mp member with rfl | rfl <;> exact ⟨rfl, rfl, rfl⟩
  | _ =>
    intro call member
    obtain rfl := List.mem_singleton.mp member
    exact ⟨rfl, rfl, rfl⟩

/-- A round begins with none of its inserts stored. -/
theorem RoundOf.begin {machineId source : CStr} {calls : List CollectorCall} (now : ℤ)
    (of : ∀ call ∈ calls, CallOf machineId source now call) (s : Agent) :
    RoundOf machineId source calls false s :=
  ⟨now, of, by simp⟩

theorem RoundOf.idle (machineId source : CStr) (s : Agent) : RoundOf machineId source [] false s :=
  .begin 0 (by simp) s

/-- What another thread does leaves a round as it is. -/
theorem RoundOf.mono {machineId source : CStr} {calls : List CollectorCall} {stored : Bool}
    {s t : Agent} (round : RoundOf machineId source calls stored s) (keeps : Keeps s t) :
    RoundOf machineId source calls stored t := by
  obtain ⟨now, of, sampled⟩ := round
  exact ⟨now, of, fun held => keeps _ _ _ (sampled held)⟩

/-- An insert of the round that is stored is a sample of its time. -/
theorem sampled_of_call {machineId source : CStr} {now : ℤ} {call : CollectorCall} {ok : Bool}
    (of : CallOf machineId source now call) (stores : storesSample ok call = true) (db : Database)
    (applied : List BridgeMessage) :
    Sampled (callOutcome call ok db) applied machineId source now := by
  cases call with
  | gpuSample key row =>
    obtain rfl : ok = true := stores
    obtain ⟨rfl, machine, time⟩ := of
    rw [Sampled, if_pos rfl]
    exact ⟨key, (Table.mem_put _ key key row).mpr (.inl rfl), machine, time⟩
  | ollamaSample key row =>
    obtain rfl : ok = true := stores
    obtain ⟨rfl, machine, time⟩ := of
    rw [Sampled, if_neg (by decide +kernel), if_pos rfl]
    exact ⟨key, (Table.mem_put _ key key row).mpr (.inl rfl), machine, time⟩
  | healthDirect health => simp [storesSample] at stores

/-- The collector's own call takes its round one call further. -/
theorem RoundOf.call {machineId source : CStr} {call : CollectorCall} {rest : List CollectorCall}
    {stored ok : Bool} {s t : Agent} (round : RoundOf machineId source (call :: rest) stored s)
    (applied : t.applied = s.applied) (left : t.db = callOutcome call ok s.db) :
    RoundOf machineId source rest (stored || storesSample ok call) t := by
  obtain ⟨now, of, sampled⟩ := round
  refine ⟨now, fun other member => of other (List.mem_cons_of_mem call member), fun held => ?_⟩
  -- the sample was there before this call, or this call is its insert
  rcases Bool.or_eq_true_iff.mp held with before | present
  · exact keeps_call ok applied left _ _ _ (sampled before)
  · rw [left, applied]
    exact sampled_of_call (of call List.mem_cons_self) present s.db s.applied

/-- Every step keeps both rounds. -/
theorem rounds_step {machineId : CStr} (s : Agent) (e : Event) (t : Agent)
    (rounds : Rounds machineId s) (taken : s.step machineId e = some t) : Rounds machineId t := by
  obtain ⟨gpuRound, ollamaRound⟩ := rounds
  cases e with
  | message fails message =>
    have keeps := keeps_message taken
    obtain rfl := Option.some.inj taken
    exact ⟨gpuRound.mono keeps, ollamaRound.mono keeps⟩
  | gpuInit nowMs failure =>
    cases failure with
    | none =>
      obtain ⟨gpu, begun, rfl⟩ := Option.map_eq_some_iff.mp taken
      obtain rfl := Collector.begin_eq_some begun
      exact ⟨.idle _ _ _, ollamaRound⟩
    | some warning =>
      obtain ⟨gpu, begun, rfl⟩ := Option.map_eq_some_iff.mp taken
      obtain rfl := Collector.begin_eq_some begun
      exact ⟨.begin nowMs (gpuInitCalls_of machineId warning nowMs) _, ollamaRound⟩
  | gpuPoll nowMs names snapshots =>
    obtain ⟨gpu, polled, rfl⟩ := Option.map_eq_some_iff.mp taken
    refine ⟨.begin nowMs ?_ _, ollamaRound⟩
    rw [Collector.poll_eq_some polled]
    exact gpuPollCalls_of machineId names nowMs snapshots
  | gpuCall ok =>
    -- the other collector's round only sees more samples
    obtain ⟨call, rest, calls, rfl⟩ := Agent.gpuCall_eq_some taken
    rw [calls] at gpuRound
    exact ⟨gpuRound.call rfl rfl, ollamaRound.mono (keeps_call ok rfl rfl)⟩
  | ollamaInit ok =>
    obtain ⟨ollama, begun, rfl⟩ := Option.map_eq_some_iff.mp taken
    obtain rfl := Collector.begin_eq_some begun
    exact ⟨gpuRound, .idle _ _ _⟩
  | ollamaPoll nowMs reply =>
    obtain ⟨ollama, polled, rfl⟩ := Option.map_eq_some_iff.mp taken
    refine ⟨gpuRound, .begin nowMs ?_ _⟩
    rw [Collector.poll_eq_some polled]
    exact ollamaPollCalls_of machineId nowMs reply
  | ollamaCall ok =>
    obtain ⟨call, rest, calls, rfl⟩ := Agent.ollamaCall_eq_some taken
    rw [calls] at ollamaRound
    exact ⟨gpuRound.mono (keeps_call ok rfl rfl), ollamaRound.call rfl rfl⟩
  | restart =>
    obtain rfl := Option.some.inj taken
    exact ⟨.idle _ _ _, .idle _ _ _⟩

/-! ## Backed writes are true -/

/-- In a row of its own a write relabels nothing. -/
theorem Unshared.not_relabels {db : Database} {id : CStr} {new : CollectorUpdate}
    (unshared : Unshared db id new) (t : ℤ) : ¬ Relabels db id new t := by
  rintro ⟨row, found, has, labels, -⟩
  obtain ⟨machine, source⟩ := unshared row found (by rw [has]; exact Option.some_ne_none t)
  rcases labels with other | other
  · exact other machine
  · exact other source

/-- A batch from the pipe brings the sample it reports. -/
theorem truthful_of_message {db : Database} {applied : List BridgeMessage}
    {message : BridgeMessage} (pipe : FromPipe message)
    (unshared : Unshared db message.collectorId message.collectorUpdate) :
    Truthful db (applied ++ [message]) message.collectorId message.collectorUpdate := by
  rintro t (⟨given, -⟩ | relabels)
  · cases message with
    | sampleBatch batch =>
      -- the batch itself is the last message applied
      obtain ⟨notGpu, notOllama⟩ := pipe
      change Sampled db _ batch.envelope.machineId batch.envelope.source t
      rw [Sampled, if_neg notGpu, if_neg notOllama]
      exact ⟨batch, by simp, rfl, rfl, Option.some.inj given⟩
    | _ => simp [BridgeMessage.collectorUpdate] at given
  · exact absurd relabels (unshared.not_relabels t)

/-- A report after an insert that was stored gives the time of that sample. -/
theorem truthful_of_round {machineId source : CStr} {calls : List CollectorCall} {stored : Bool}
    {s : Agent} (round : RoundOf machineId source calls stored s)
    (backed : ∀ call ∈ calls.head?, ReportBacked s.db stored call) :
    ∀ call ∈ calls.head?, CallTruthful s call := by
  intro call next
  have report := backed call next
  obtain ⟨now, of, sampled⟩ := round
  have ofCall := of call (List.mem_of_mem_head? next)
  cases call with
  | healthDirect health =>
    obtain ⟨held, unshared⟩ := report
    -- the report bears the machine, the source and the time of its round
    obtain ⟨rfl, rfl, rfl⟩ := ofCall
    rintro t (⟨given, -⟩ | relabels)
    · obtain rfl : health.nowUtcMs = t := Option.some.inj given
      exact sampled held
    · exact absurd relabels (unshared.not_relabels t)
  | _ => trivial

theorem reportsSamples_of_backed {machineId : CStr} (s : Agent) (e : Event)
    (rounds : Rounds machineId s) (backed : Backed s e) : ReportsSamples s e := by
  cases e with
  | message fails message =>
    intro reported
    obtain ⟨pipe, unshared⟩ := backed reported
    exact truthful_of_message pipe unshared
  | gpuCall ok =>
    cases ok with
    | true => exact truthful_of_round rounds.gpu backed
    | false => trivial
  | ollamaCall ok =>
    cases ok with
    | true => exact truthful_of_round rounds.ollama backed
    | false => trivial
  | _ => trivial

/-! ## Runs -/

theorem lastSampleTrue_initial : LastSampleTrue initial := fun _ _ _ found _ =>
  absurd found (by simp [initial, Database.empty])

theorem rounds_initial (machineId : CStr) : Rounds machineId initial :=
  ⟨.idle _ _ _, .idle _ _ _⟩

/-- An event that cannot happen writes nothing. -/
theorem reportsSamples_of_idle {machineId : CStr} (s : Agent) (e : Event)
    (idle : s.step machineId e = none) : ReportsSamples s e := by
  cases e with
  | message fails message => exact absurd idle (by simp [Agent.step])
  | gpuCall ok =>
    cases ok with
    | false => trivial
    | true =>
      cases calls : s.gpu.calls with
      | nil => simp [ReportsSamples, calls]
      | cons call rest => exact absurd idle (by simp [Agent.step, calls])
  | ollamaCall ok =>
    cases ok with
    | false => trivial
    | true =>
      cases calls : s.ollama.calls with
      | nil => simp [ReportsSamples, calls]
      | cons call rest => exact absurd idle (by simp [Agent.step, calls])
  | _ => trivial

/-- The times are true throughout a run exactly when every write of it is truthful. -/
theorem throughout_iff_reportsSamples (machineId : CStr) (events : List Event) :
    Throughout (Agent.step machineId) LastSampleTrue initial events ↔
      Meets (Agent.step machineId) ReportsSamples initial events :=
  throughout_iff_meets step_iff reportsSamples_of_idle lastSampleTrue_initial events

/-- **When the last sample times are true**: throughout any run of messages, initialisations,
polls, store calls and restarts, each of which may fail, in which every report that is
stored follows an insert of its round that was stored, batches from the pipe bear names of
their own, and no row with a sample time goes to another collector. -/
theorem lastSamples_true_of_backed (machineId : CStr) (events : List Event)
    (backed : Meets (Agent.step machineId) Backed initial events) :
    Throughout (Agent.step machineId) LastSampleTrue initial events :=
  (throughout_iff_reportsSamples machineId events).mpr
    (backed.of_invariant rounds_step reportsSamples_of_backed (rounds_initial machineId))

/-- What Ollama answers when it has loaded nothing. -/
def idleOllama : OllamaRow := ⟨text "http://localhost:11434", none, none, some 0, some 0, some 0⟩

/-- A batch of the bridge. -/
def emptyBatch : BridgeMessage :=
  .sampleBatch ⟨⟨1, text "librehw_bridge", text "host", 1030⟩, 1030, []⟩

/-- Both collectors start and store what they poll, and a batch arrives on the pipe. -/
def backedRun : List Event :=
  [.gpuInit 1000 none, .gpuPoll 1010 [text "card"] [{}], .gpuCall true, .gpuCall true,
    .ollamaInit true, .ollamaPoll 1020 (.models idleOllama), .ollamaCall true, .ollamaCall true,
    .message (fun _ => false) emptyBatch]

theorem lastSamples_true_of_backed_run :
    Throughout (Agent.step (text "host")) LastSampleTrue initial backedRun :=
  lastSamples_true_of_backed (text "host") backedRun (by decide +kernel)

/-! ## A report without a sample -/

/-- The GPU library cannot be loaded, and the collector says so. -/
def failedInit : List Event := [.gpuInit 1000 (some (text "no driver")), .gpuCall true]

/-- After a failed initialisation the last sample time is that of the failure, and there is
no sample. -/
theorem lastSamples_not_always_true :
    ¬ ∀ machineId events, Throughout (Agent.step machineId) LastSampleTrue initial events := by
  intro always
  have last := (always (text "host") failedInit).2.2
  have sampled := last (collectorId (text "host") (text "direct_gpu")) _ 1000 rfl rfl
  obtain ⟨key, stored, -⟩ := sampled
  exact absurd stored (AList.notMem_empty key)

end CapacityAgent.LastSample

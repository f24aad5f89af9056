/-
# From Ollama's answers to the API's

However the threads interleave and whichever commands fail, what is stored about Ollama are
answers of Ollama, and what is sent about it is the summary of one: the newest that is stored.
-/

import CapacityAgent.Host.ResponseTexts
import CapacityAgent.Ollama.Answers
import CapacityAgent.Parser.Fields

namespace CapacityAgent

open CJson (Item LineDenotes getObjectItemCaseSensitive itemOfDatum numberShown)
open Json (Datum Denotes)
open KeyedTable Select SharedConnection Transitions

/-! ## Summaries -/

/-- What the API says about an answer. -/
def summary (said : Datum) : Datum :=
  .object
    [(lit "reachable", .bool true),
      (lit "loaded_model_count", .number (saidModels said).length),
      (lit "resident_vram_bytes", if 0 < saidVram said then .number (saidVram said) else .null)]

/-- What it says without one. -/
def noSummary : Datum :=
  .object
    [(lit "reachable", .bool false), (lit "loaded_model_count", .number 0),
      (lit "resident_vram_bytes", .null)]

/-- The section member by member. -/
theorem shown_ollamaSection (status : OllamaStatus) :
    (ollamaSection status).shown = .object
      [(lit "reachable", .bool status.reachable),
        (lit "loaded_model_count", numberShown status.loadedModelCount),
        (lit "resident_vram_bytes",
          status.residentVramBytes.elim .null fun bytes =>
            numberShown (Binary64.nearest bytes))] := by
  have reachable : (text "reachable").bytes = lit "reachable" := by decide
  have count : (text "loaded_model_count").bytes = lit "loaded_model_count" := by decide
  have vram : (text "resident_vram_bytes").bytes = lit "resident_vram_bytes" := by decide
  rw [ollamaSection, CJson.Item.shown, CJson.entriesShown, CJson.entriesShown, CJson.entriesShown,
    CJson.entriesShown, reachable, count, vram]
  cases status.residentVramBytes <;> rfl

section Sections

variable {baseUrl : CStr} {said : Datum}

theorem numberShown_totalVram (sizes : WholeSizes said) :
    numberShown (Binary64.nearest (totalVramBytes (modelItems (itemOfDatum said)))) =
      .number (saidVram said) := by
  have total := totalVramBytes_itemOfDatum sizes.held
  have nonneg : 0 ≤ saidVram said := List.sum_nonneg (List.forall_mem_map.mpr fun model member =>
    (sizes.whole model member).saidBytes_nonneg (by decide))
  have small := sizes.vram
  rw [← total] at nonneg small
  have digits : |totalVramBytes (modelItems (itemOfDatum said))| < 10 ^ 15 := by
    rw [abs_of_nonneg (by exact_mod_cast nonneg)]
    exact_mod_cast small
  rw [Binary64.nearest_intCast (digits.le.trans (by norm_num)), CJson.numberShown_intCast digits,
    total]

theorem numberShown_count (sizes : WholeSizes said) :
    numberShown (((modelItems (itemOfDatum said)).length : ℤ) : ℚ) =
      .number (saidModels said).length := by
  have few := sizes.few
  have count : (modelItems (itemOfDatum said)).length = (saidModels said).length := by
    rw [modelItems_itemOfDatum, List.length_map]
  rw [CJson.numberShown_intCast, count, Int.cast_natCast]
  rw [abs_of_nonneg (Int.natCast_nonneg _)]
  omega

variable (baseUrl) in
/-- The section for a row that holds an answer. -/
theorem shown_ollamaStatusOf_cons (sizes : WholeSizes said) (key : OllamaKey)
    (rest : List (OllamaKey × OllamaRow)) :
    (ollamaSection (ollamaStatusOf ((key, ollamaRow baseUrl (itemOfDatum said)) :: rest))).shown =
      summary said := by
  have total := totalVramBytes_itemOfDatum sizes.held
  have resident : ((ollamaRow baseUrl (itemOfDatum said)).residentVramBytes.elim Datum.null
      fun bytes => numberShown (Binary64.nearest bytes)) =
        if 0 < saidVram said then .number (saidVram said) else .null := by
    by_cases positive : 0 < totalVramBytes (modelItems (itemOfDatum said))
    · rw [if_pos (by rw [← total]; exact_mod_cast positive), ollamaRow, if_pos positive]
      rw [Option.elim_some, numberShown_totalVram sizes]
    · rw [if_neg (by rw [← total]; exact_mod_cast positive), ollamaRow, if_neg positive]
      rfl
  rw [shown_ollamaSection, ollamaStatusOf, resident, summary]
  dsimp only [ollamaRow, Option.getD_some]
  rw [numberShown_count sizes]

theorem shown_ollamaStatusOf_nil : (ollamaSection (ollamaStatusOf [])).shown = noSummary := by
  have absent : numberShown ((0 : ℤ) : ℚ) = .number 0 := by
    rw [CJson.numberShown_intCast (by decide), Int.cast_zero]
  rw [shown_ollamaSection, ollamaStatusOf, absent, noSummary]
  rfl

end Sections

/-! ## Runs -/

section Runs

variable (answers : ℤ → Datum → Prop) (baseUrl : CStr)

/-- A body that is read at all is one of Ollama's answers, in JSON and with whole sizes. -/
def HostEvent.Hears (nowMs : ℤ) : HostEvent → Prop
  | .ollamaPoll reply =>
    ∃ response, reply = ollamaReply baseUrl response ∧
      ∀ sent ∈ response, sent.status = 200 → (CJson.parse (CStr.ofBytes sent.body)).isSome →
        ∃ said, LineDenotes sent.body said ∧ WholeSizes said ∧ answers nowMs said
  | .tick _ | .message _ | .command _ | .gpuInit _ | .gpuPoll .. | .gpuCall _ => True
  | .ollamaInit _ | .ollamaCall _ | .restart | .readGpus | .readHealth | .answered => True

/-- A state of an agent that hears only these answers. -/
def Overhears (machineId : CStr) (now : ℤ) : Host → Prop :=
  Reaches (Host.step machineId) (fun s e => e.Hears answers baseUrl s.clock) (Host.start now)

/-- The row holds what Ollama answered at its time. -/
def OllamaRow.Heard (key : OllamaKey) (row : OllamaRow) : Prop :=
  ∃ said, answers key.tsUtcMs said ∧ WholeSizes said ∧ row = ollamaRow baseUrl (itemOfDatum said)

def CollectorCall.Heard : CollectorCall → Prop
  | .ollamaSample key row => OllamaRow.Heard answers baseUrl key row
  | .gpuSample .. | .healthDirect _ => True

/-- The rows of the database hold answers. -/
def Database.Heard (db : Database) : Prop :=
  db.ollamaRuntimeSamples.All (OllamaRow.Heard answers baseUrl)

variable {answers baseUrl}

/-- Only the insert of a sample writes the table. -/
theorem stable_heard : Stable (Database.Heard answers baseUrl) (fun _ => True)
    (CollectorCall.Heard answers baseUrl) where
  empty := Table.all_empty
  stmt stmt db _ stored := by
    rw [Database.Heard, stmt.effect_ollamaRuntimeSamples]
    exact stored
  call call db own stored := by
    cases call with
    | gpuSample key row => exact stored
    | healthDirect health => exact stored
    | ollamaSample key row => exact Table.All.put stored own

/-- A poll stores what it has heard. -/
theorem HostEvent.Hears.brings {machineId : CStr} {nowMs : ℤ} {e : HostEvent}
    (hears : e.Hears answers baseUrl nowMs) :
    e.Brings machineId (fun _ => True) (CollectorCall.Heard answers baseUrl) nowMs := by
  refine HostEvent.brings_of_inserts (fun _ => trivial) (fun _ _ _ _ _ => trivial) ?_
  rintro row rfl
  obtain ⟨response, reply, heard⟩ := hears
  obtain ⟨sent, answered, status, root, read, rfl⟩ := exists_of_ollamaReply reply.symm
  obtain ⟨said, denotes, sizes, known⟩ :=
    heard sent answered status (Option.isSome_iff_exists.mpr ⟨root, read⟩)
  -- what cJSON has read is what the JSON text says
  obtain ⟨rest, reads⟩ := denotes.parseValue_eq
  rw [CJson.parse, reads] at read
  obtain rfl := Option.some.inj read
  exact ⟨said, known, sizes, rfl⟩

/-- Whatever happens, what is stored are answers. -/
theorem Overhears.heard {machineId : CStr} {now : ℤ} {host : Host}
    (reached : Overhears answers baseUrl machineId now host) :
    host.store.conn.db.Heard answers baseUrl :=
  (Host.holds_of_reaches stable_heard (fun _ _ hears => hears.brings) reached).store.visible

end Runs

/-! ## What is sent -/

/-- The section is the summary of the newest answer that is stored for the machine; without one,
it says that there is none, which after a complete read means that nothing is stored. -/
def Tells (answers : ℤ → Datum → Prop) (machineId : CStr) (db : Database) (complete : Prop)
    (shown : Datum) : Prop :=
  (shown = noSummary ∧
    (complete → ∀ key ∈ db.ollamaRuntimeSamples, key.machineId ≠ machineId)) ∨
  ∃ key ∈ db.ollamaRuntimeSamples, key.machineId = machineId ∧
    (∀ other ∈ db.ollamaRuntimeSamples, other.machineId = machineId →
      other.tsUtcMs ≤ key.tsUtcMs) ∧
    ∃ said, answers key.tsUtcMs said ∧ shown = summary said

section Sent

variable {answers : ℤ → Datum → Prop} {baseUrl machineId : CStr}

theorem mem_machineSamples {db : Database} {sample : OllamaKey × OllamaRow} :
    sample ∈ db.ollamaRuntimeSamples.rows.filter (fun sample => sample.1.machineId = machineId) ↔
      db.ollamaRuntimeSamples.lookup sample.1 = some sample.2 ∧
        sample.1.machineId = machineId := by
  rw [List.mem_filter, decide_eq_true_iff]
  exact and_congr_left' Table.mem_rows

/-- The row that is read is the newest. -/
theorem tells_of_selects {db : Database} (heard : db.Heard answers baseUrl)
    {rows : List (OllamaKey × OllamaRow)} (selects : (ReadStmt.ollama machineId).Selects db rows)
    (access : Access) :
    Tells answers machineId db (access.Clear rows)
      (ollamaSection (ollamaStatusOf ((ReadStmt.ollama machineId).read access rows))).shown := by
  obtain ⟨n, taken, complete⟩ := ReadStmt.read_eq_take selects access
  rw [taken]
  have listed {key : OllamaKey} (stored : key ∈ db.ollamaRuntimeSamples)
      (own : key.machineId = machineId) : ∃ row, (key, row) ∈
        db.ollamaRuntimeSamples.rows.filter fun sample => sample.1.machineId = machineId := by
    obtain ⟨row, found⟩ := Table.mem_iff_exists_lookup.mp stored
    exact ⟨row, mem_machineSamples.mpr ⟨found, own⟩⟩
  cases first : rows.take n with
  | nil =>
    refine .inl ⟨shown_ollamaStatusOf_nil, fun clear key stored own => ?_⟩
    -- all rows are read, and they are none
    rw [List.take_of_length_le (complete.mpr clear)] at first
    subst first
    obtain ⟨row, member⟩ := listed stored own
    rcases Answers.mem_or selects member with here | ⟨limit, -⟩
    · exact absurd here List.not_mem_nil
    · exact absurd limit (by simp)
  | cons sample rest =>
    have read : sample ∈ rows := List.mem_of_mem_take (first ▸ List.mem_cons_self)
    obtain ⟨found, own⟩ := mem_machineSamples.mp (Answers.subset selects read)
    obtain ⟨said, answered, sizes, row⟩ := heard sample.1 sample.2 found
    refine .inr ⟨sample.1, Table.mem_iff_exists_lookup.mpr ⟨_, found⟩, own, ?_, said, answered, ?_⟩
    · intro other stored same
      obtain ⟨row, member⟩ := listed stored same
      rcases Answers.mem_or selects member with here | ⟨-, behind⟩
      · -- the only row that is read
        have single : rows.length ≤ 1 := by
          rw [Answers.length selects]
          exact Nat.min_le_left 1 _
        obtain ⟨i, inside, first⟩ := List.getElem_of_mem here
        obtain ⟨j, inside', second⟩ := List.getElem_of_mem read
        obtain rfl : i = j := by omega
        rw [← second, first]
      · exact neg_le_neg_iff.mp (behind sample read)
    · rw [← shown_ollamaStatusOf_cons baseUrl sizes sample.1 rest, ← row]

/-- What an item has under a name is what its text says there. -/
theorem named_shown (item : Item) (key : CStr) :
    named key item.shown = (getObjectItemCaseSensitive item key).map CJson.Item.shown := by
  cases item with
  | object children =>
    rw [CJson.Item.shown, named, getObjectItemCaseSensitive]
    induction children with
    | nil => rfl
    | cons child rest ih =>
      rw [CJson.entriesShown, List.find?_cons, List.find?_cons, CStr.ofBytes_bytes]
      by_cases own : child.1 = key
      · simp [own]
      · simpa [own] using ih
  | number valuedouble =>
    rw [CJson.Item.shown, numberShown]
    split_ifs <;> rfl
  | _ => rfl

/-- The endpoints that ask for Ollama show the section. -/
theorem getObjectItem_reply {context : RequestContext} {reads : Reads} {endpoint : Route}
    (asks : .ollama machineId ∈ endpoint.statements machineId context) {body : Item}
    (replied : endpoint.reply machineId context reads = .ok body) :
    getObjectItemCaseSensitive body (text "ollama") =
      some (ollamaSection (ollamaStatusOf (reads (.ollama machineId)))) := by
  cases endpoint with
  | status => simp [Route.statements] at asks
  | catalog filter => simp [Route.statements] at asks
  | history request =>
    rw [Route.statements] at asks
    split at asks <;> simp at asks
  | snapshot =>
    obtain rfl := Reply.ok.inj replied
    rfl
  | readiness param =>
    rw [Route.reply, readinessReply] at replied
    cases taken : requiredVramBytes param with
    | ok required =>
      rw [taken] at replied
      obtain rfl := Reply.ok.inj replied
      rfl
    | badRequest error => simp [taken, Reply.map] at replied
    | escaped thrown => simp [taken, Reply.map] at replied

/-- **What is sent about Ollama.** However the threads interleave while a request is served, the
JSON that is sent says of Ollama what its newest stored answer says: the models it has loaded
and the bytes they have in the VRAM. -/
theorem ollama_sent (machine : machineId.IsUtf8) {now : ℤ} {context : RequestContext}
    (known : ∀ answer ∈ context.machine, ∃ host, ReachedInUtf8 machineId now host ∧
      queryMachineCatalog machineId host.store.conn.db = some answer)
    {reads : Reads} (read : ReadsReached machineId now reads) {host : Host}
    (reached : Overhears answers baseUrl machineId now host)
    {rows : List (OllamaKey × OllamaRow)}
    (selects : (ReadStmt.ollama machineId).Selects host.store.conn.db rows) {access : Access}
    (same : reads (.ollama machineId) = (ReadStmt.ollama machineId).read access rows)
    {endpoint : Route} (asked : endpoint.Textual)
    (asks : .ollama machineId ∈ endpoint.statements machineId context) :
    ∃ bytes ∈ (endpoint.reply machineId context reads).sent, ∃ said, Denotes bytes.bytes said ∧
      ∃ shown ∈ named (text "ollama") said,
        Tells answers machineId host.store.conn.db (access.Clear rows) shown := by
  obtain ⟨body, replied⟩ := Route.exists_reply_ok asks reads
  have told := tells_of_selects reached.heard selects access
  rw [← same] at told
  refine ⟨_, by rw [replied]; rfl, body.shown,
    read.denotes_body machine known asked replied, _, ?_, told⟩
  rw [named_shown, getObjectItem_reply asks replied]
  rfl

end Sent

/-- The row for the answer with one model. -/
def oneModelRow : OllamaRow := ⟨text "http://ollama:11434", none, none, some 1, some 3, some 2⟩

theorem ollamaReply_oneModel :
    ollamaReply (text "http://ollama:11434") (some ⟨200, oneModel.text CJson.encoder⟩) =
      .models oneModelRow := by
  have row : ollamaRow (text "http://ollama:11434") (itemOfDatum oneModel.said) = oneModelRow := by
    decide +kernel
  rw [ollamaReply_of_denotes lineDenotes_oneModel, row]

/-- The answer is polled and stored. -/
def oneModelRun : List HostEvent :=
  [.ollamaInit true, .ollamaPoll (.models oneModelRow), .ollamaCall true, .ollamaCall true]

theorem ollama_sent_oneModel :
    ∃ host, exec (Host.step (text "host")) (Host.start 0) oneModelRun = some host ∧
      let reads : Reads := fun s =>
        s.read ⟨true, none⟩ ((Selection.ofStorage host.store.conn.db).rows s)
      ∃ bytes ∈ (Route.snapshot.reply (text "host") ⟨0, fun _ => 0, ⟨0, 0, 0⟩, none⟩ reads).sent,
        ∃ said, Denotes bytes.bytes said ∧ ∃ shown ∈ named (text "ollama") said,
          Tells (fun t answer => t = 0 ∧ answer = oneModel.said) (text "host") host.store.conn.db
            (Access.Clear ⟨true, none⟩
              ((Selection.ofStorage host.store.conn.db).rows (.ollama (text "host")))) shown := by
  have ran : exec (Host.step (text "host")) (Host.start 0) oneModelRun = some _ := rfl
  have heard : HostEvent.Hears (fun t answer => t = 0 ∧ answer = oneModel.said)
      (text "http://ollama:11434") 0 (.ollamaPoll (.models oneModelRow)) := by
    refine ⟨_, ollamaReply_oneModel.symm, fun sent answered _ _ => ?_⟩
    obtain rfl := Option.some.inj answered
    exact ⟨_, lineDenotes_oneModel, wholeSizes_oneModel, rfl, rfl⟩
  have inUtf8 : ReachedInUtf8 (text "host") 0 _ := Reaches.of_exec ran
    ⟨trivial, isUtf8_text (by decide), trivial, trivial, trivial⟩
  refine ⟨_, ran, ?_⟩
  intro reads
  exact ollama_sent (isUtf8_text (by decide)) (fun answer known => absurd known (by simp))
    inUtf8.reads
    (Reaches.of_exec ran ⟨trivial, heard, trivial, trivial, trivial⟩)
    ((Selection.ofStorage _).selects (.ollama (text "host"))) rfl trivial
    (by simp [Route.statements, snapshotStatements])

end CapacityAgent

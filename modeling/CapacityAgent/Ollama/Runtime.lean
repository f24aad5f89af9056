/-
# Polling Ollama

`OllamaRuntimeCollector::PollOnce` and the flag the API makes of its polls. A poll
that succeeds stores a row of `ollama_runtime_samples`; one that fails is recorded
in `collector_health`. `QueryLatestSnapshot` only asks for a row, of any age, so the
flag says whether a poll of the machine has ever been stored.
-/

import CapacityAgent.Api.JsonResponse
import CapacityAgent.Host.Agent

namespace CapacityAgent

open KeyedTable Newest

/-! ## The collector -/

/-- What follows the first `://`. -/
def afterScheme : Bytes → Option Bytes
  | [] => none
  | b :: rest =>
    if lit "://" <+: b :: rest then some ((b :: rest).drop 3) else afterScheme rest

/-- The host `ParseHostPort` finds in a URL, absent when it is empty. The port only
says whom to ask; one that is no number ends the process in `Initialize`. -/
def parseHost (url : Bytes) : Option Bytes :=
  let authority := (afterScheme url).getD url
  let trimmed := if authority.getLast? = some (byte '/') then authority.dropLast else authority
  let host :=
    if byte ':' ∈ trimmed then (trimmed.reverse.dropWhile (· != byte ':')).tail.reverse else trimmed
  if host.isEmpty then none else some host

/-- The answer to `GET /api/ps`. -/
structure HttpResponse where
  status : ℤ
  body : Bytes
  deriving DecidableEq

/-- `tolower`. -/
def toLower (b : UInt8) : UInt8 := if byte 'A' ≤ b ∧ b ≤ byte 'Z' then b + 32 else b

/-- `cJSON_GetObjectItem`, which compares names without case. -/
def getObjectItem : CJson.Item → CStr → Option CJson.Item
  | .object children, name =>
    (children.find? fun child => child.1.bytes.map toLower = name.bytes.map toLower).map Prod.snd
  | _, _ => none

/-- The integer a field holds, absent when it is no number. -/
def numberField (model : CJson.Item) (name : String) : Option ℤ :=
  match getObjectItem model (text name) with
  | some (.number value) => some (CJson.truncate value)
  | _ => none

/-- The elements of `models`; none when it is no array. -/
def modelItems (root : CJson.Item) : List CJson.Item :=
  match getObjectItem root (text "models") with
  | some (.array models) => models
  | _ => []

/-- `total_vram_bytes`. -/
def totalVramBytes (models : List CJson.Item) : ℤ :=
  (models.filterMap fun model => numberField model "size_vram").sum

/-- What a model adds to `total_ram_bytes`: the part of its size outside the VRAM. -/
def ramBytes (model : CJson.Item) : ℤ :=
  match numberField model "size" with
  | none => 0
  | some size =>
    let vram := (numberField model "size_vram").getD 0
    if vram < size then size - vram else 0

def totalRamBytes (models : List CJson.Item) : ℤ := (models.map ramBytes).sum

/-- The row a successful poll stores, where no cast and no sum leaves the 64 bits. -/
def ollamaRow (baseUrl : CStr) (root : CJson.Item) : OllamaRow where
  baseUrl := baseUrl
  activeRequestCount := none
  queuedRequestCount := none
  loadedModelCount := some (modelItems root).length
  residentVramBytes :=
    if 0 < totalVramBytes (modelItems root) then some (totalVramBytes (modelItems root)) else none
  residentRamBytes :=
    if 0 < totalRamBytes (modelItems root) then some (totalRamBytes (modelItems root)) else none

/-- What `PollOnce` makes of the answer; `none` is a connection that failed. -/
def ollamaReply (baseUrl : CStr) : Option HttpResponse → OllamaReply
  | none => .connectionFailed
  | some response =>
    if response.status ≠ 200 then .httpError response.status
    else
      match CJson.parse (CStr.ofBytes response.body) with
      | none => .invalidJson
      | some root => .models (ollamaRow baseUrl root)

/-- The polls that return true. -/
def OllamaReply.succeeded : OllamaReply → Bool
  | .models _ => true
  | .connectionFailed | .httpError _ | .invalidJson => false

/-- `PollOnce`: its result and its store calls, whose results it ignores. -/
def pollOnce (machineId baseUrl : CStr) (nowMs : ℤ) (answer : Option HttpResponse) :
    Bool × List CollectorCall :=
  match parseHost baseUrl.bytes with
  | none => (false, [])
  | some _ =>
    let reply := ollamaReply baseUrl answer
    (reply.succeeded, ollamaPollCalls machineId nowMs reply)

/-! ## The API section -/

/-- The `ollama` object of `/v1/snapshot` and `/v1/readiness`. -/
def ollamaSection (status : OllamaStatus) : CJson.Item :=
  .object
    [(text "reachable", .bool status.reachable),
      (text "loaded_model_count", .number status.loadedModelCount),
      (text "resident_vram_bytes", optionalInt64Item status.residentVramBytes)]

/-- What the API answers about Ollama being reachable. -/
def reportedReachable (machineId : CStr) (db : Database) : Option CJson.Item :=
  CJson.getObjectItemCaseSensitive (ollamaSection (queryOllama machineId db)) (text "reachable")

theorem reportedReachable_eq (machineId : CStr) (db : Database) :
    reportedReachable machineId db = some (.bool (queryOllama machineId db).reachable) := by
  simp [reportedReachable, ollamaSection, CJson.getObjectItemCaseSensitive]

/-- The machine has a row of `ollama_runtime_samples`. -/
def HasOllamaRow (machineId : CStr) (db : Database) : Prop :=
  ∃ key ∈ db.ollamaRuntimeSamples, key.machineId = machineId

/-- The flag is set exactly when the machine has a row. -/
theorem reachable_iff (machineId : CStr) (db : Database) :
    (queryOllama machineId db).reachable = true ↔
      HasOllamaRow machineId db := by
  have listed : ∀ sample : OllamaKey × OllamaRow,
      sample ∈ db.ollamaRuntimeSamples.rows.filter (fun sample => sample.1.machineId = machineId) ↔
        db.ollamaRuntimeSamples.lookup sample.1 = some sample.2 ∧
          sample.1.machineId = machineId := by
    intro sample
    rw [List.mem_filter, decide_eq_true_iff]
    exact and_congr_left' Table.mem_rows
  unfold queryOllama
  split
  next noRows =>
    -- a stored row would have a newest one beside it
    refine ⟨fun set => absurd set (by simp), fun ⟨key, stored, own⟩ => ?_⟩
    obtain ⟨row, found⟩ := Table.mem_iff_exists_lookup.mp stored
    obtain ⟨top, member, -, largest⟩ := exists_maxStamp_eq
      (fun sample : OllamaKey × OllamaRow => sample.1.tsUtcMs)
      ((listed (key, row)).mpr ⟨found, own⟩)
    have newestTop := mem_newest.mpr ⟨member, largest⟩
    rw [noRows] at newestTop
    exact absurd newestTop List.not_mem_nil
  next key row rest rows =>
    refine ⟨fun _ => ?_, fun _ => rfl⟩
    have first : (key, row) ∈ newest (fun sample : OllamaKey × OllamaRow => sample.1.tsUtcMs)
        (db.ollamaRuntimeSamples.rows.filter fun sample => sample.1.machineId = machineId) := by
      rw [rows]
      exact List.mem_cons_self
    obtain ⟨found, own⟩ := (listed (key, row)).mp (mem_newest.mp first).1
    exact ⟨key, Table.mem_iff_exists_lookup.mpr ⟨row, found⟩, own⟩

/-! ## Polls -/

/-- One poll: when, what was answered, and which of its store calls succeed. -/
structure OllamaPoll where
  nowMs : ℤ
  answer : Option HttpResponse
  insertOk : Bool
  healthOk : Bool

/-- Whether a store call of the poll succeeds. -/
def OllamaPoll.accepts (poll : OllamaPoll) : CollectorCall → Bool
  | .ollamaSample .. => poll.insertOk
  | .gpuSample .. | .healthDirect .. => poll.healthOk

section Polls

variable (machineId baseUrl : CStr)

/-- What the poll leaves of a database. -/
def OllamaPoll.run (db : Database) (poll : OllamaPoll) : Database :=
  ((pollOnce machineId baseUrl poll.nowMs poll.answer).2.filter poll.accepts).foldl
    (fun db call => call.effect db) db

/-- The poll returned true. -/
def OllamaPoll.succeeded (poll : OllamaPoll) : Bool :=
  (pollOnce machineId baseUrl poll.nowMs poll.answer).1

/-- The most recent poll returned true. -/
def lastPollSucceeded (polls : List OllamaPoll) : Bool :=
  polls.getLast?.elim false (·.succeeded machineId baseUrl)

/-- After the polls the API says that Ollama is reachable exactly when the last one
succeeded. -/
def ReachableFollows (db : Database) (polls : List OllamaPoll) : Prop :=
  reportedReachable machineId (polls.foldl (OllamaPoll.run machineId baseUrl) db) =
    some (.bool (lastPollSucceeded machineId baseUrl polls))

/-- The poll was answered with status 200 and a JSON text. -/
def OllamaPoll.Answered (poll : OllamaPoll) : Prop :=
  (parseHost baseUrl.bytes).isSome ∧
    ∃ response, poll.answer = some response ∧ response.status = 200 ∧
      (CJson.parse (CStr.ofBytes response.body)).isSome

/-- The reply of an answered poll, and of any other. -/
theorem ollamaReply_cases (answer : Option HttpResponse) :
    (∃ response root, answer = some response ∧ response.status = 200 ∧
        CJson.parse (CStr.ofBytes response.body) = some root ∧
        ollamaReply baseUrl answer = .models (ollamaRow baseUrl root)) ∨
      (ollamaReply baseUrl answer).succeeded = false ∧
        ∀ response, answer = some response → response.status = 200 →
          CJson.parse (CStr.ofBytes response.body) = none := by
  cases answer with
  | none => exact .inr ⟨rfl, by simp⟩
  | some response =>
    unfold ollamaReply
    by_cases found : response.status = 200
    · cases parsed : CJson.parse (CStr.ofBytes response.body) with
      | none =>
        right
        refine ⟨by simp [found, parsed, OllamaReply.succeeded], ?_⟩
        rintro other same -
        rw [← Option.some.inj same, parsed]
      | some root =>
        left
        exact ⟨response, root, rfl, found, parsed, by simp [found, parsed]⟩
    · right
      refine ⟨by simp [found, OllamaReply.succeeded], ?_⟩
      rintro other same answered
      rw [← Option.some.inj same] at answered
      exact absurd answered found

theorem OllamaPoll.succeeded_iff (poll : OllamaPoll) :
    poll.succeeded machineId baseUrl = true ↔ poll.Answered baseUrl := by
  unfold OllamaPoll.succeeded OllamaPoll.Answered pollOnce
  cases parseHost baseUrl.bytes with
  | none => simp
  | some host =>
    rcases ollamaReply_cases baseUrl poll.answer with
      ⟨response, root, answered, found, parsed, models⟩ | ⟨failed, unusable⟩
    · simp only [models, OllamaReply.succeeded, Option.isSome_some, true_and, true_iff]
      exact ⟨response, answered, found, by rw [parsed, Option.isSome_some]⟩
    · simp only [failed, Bool.false_eq_true, Option.isSome_some, true_and, false_iff]
      rintro ⟨response, answered, found, parsed⟩
      rw [unusable response answered found] at parsed
      exact absurd parsed (by simp)

theorem hasOllamaRow_insert (key : OllamaKey) (row : OllamaRow) (db : Database) :
    HasOllamaRow machineId (insertOllamaRuntimeSample key row db) ↔
      key.machineId = machineId ∨ HasOllamaRow machineId db := by
  unfold HasOllamaRow insertOllamaRuntimeSample
  simp only [Table.mem_put, or_and_right, exists_or, exists_eq_left]

theorem hasOllamaRow_health (health : HealthDirect) (db : Database) :
    HasOllamaRow machineId (upsertCollectorHealthDirect health db) ↔ HasOllamaRow machineId db :=
  Iff.rfl

/-- A poll without a success stores no row. -/
theorem hasOllamaRow_failed (accepts : CollectorCall → Bool) (nowMs : ℤ) {reply : OllamaReply}
    (failed : reply.succeeded = false) (db : Database) :
    HasOllamaRow machineId (((ollamaPollCalls machineId nowMs reply).filter accepts).foldl
      (fun db call => call.effect db) db) ↔ HasOllamaRow machineId db := by
  cases reply with
  | models row => exact absurd failed (by simp [OllamaReply.succeeded])
  | _ =>
    -- its one store call, if it succeeds, is the health report
    simp only [ollamaPollCalls, List.filter_cons, List.filter_nil]
    split_ifs <;> exact Iff.rfl

/-- A poll leaves a row when there was one, or when it was answered and its insert
succeeded. -/
theorem OllamaPoll.hasOllamaRow_run (poll : OllamaPoll) (db : Database) :
    HasOllamaRow machineId (poll.run machineId baseUrl db) ↔
      HasOllamaRow machineId db ∨ poll.Answered baseUrl ∧ poll.insertOk = true := by
  rw [← poll.succeeded_iff machineId]
  unfold OllamaPoll.run OllamaPoll.succeeded pollOnce
  cases parseHost baseUrl.bytes with
  | none => simp
  | some host =>
    rcases ollamaReply_cases baseUrl poll.answer with ⟨_, root, -, -, -, models⟩ | ⟨failed, -⟩
    · simp only [models, OllamaReply.succeeded, true_and]
      -- the insert and the report succeed or fail each on its own
      by_cases inserted : poll.insertOk = true
      · by_cases reported : poll.healthOk = true <;>
          simp [ollamaPollCalls, ollamaHealth, OllamaPoll.accepts, inserted, reported,
            CollectorCall.effect, hasOllamaRow_health, hasOllamaRow_insert]
      · by_cases reported : poll.healthOk = true <;>
          simp [ollamaPollCalls, ollamaHealth, OllamaPoll.accepts, inserted, reported,
            CollectorCall.effect, hasOllamaRow_health]
    · simp only [failed, Bool.false_eq_true, false_and, or_false]
      exact hasOllamaRow_failed machineId poll.accepts poll.nowMs failed db

/-- After polls there is a row when there was one or one of them stored one. -/
theorem hasOllamaRow_polls (polls : List OllamaPoll) (db : Database) :
    HasOllamaRow machineId (polls.foldl (OllamaPoll.run machineId baseUrl) db) ↔
      HasOllamaRow machineId db ∨
        ∃ poll ∈ polls, poll.Answered baseUrl ∧ poll.insertOk = true := by
  induction polls generalizing db with
  | nil => simp
  | cons poll rest ih =>
    rw [List.foldl_cons, ih, poll.hasOllamaRow_run, List.exists_mem_cons_iff, or_assoc]

/-- The last poll was answered with status 200 and a JSON text. -/
def LastAnswered (polls : List OllamaPoll) : Prop :=
  ∃ poll, polls.getLast? = some poll ∧ poll.Answered baseUrl

theorem lastPollSucceeded_iff (polls : List OllamaPoll) :
    lastPollSucceeded machineId baseUrl polls = true ↔ LastAnswered baseUrl polls := by
  unfold lastPollSucceeded LastAnswered
  cases polls.getLast? with
  | none => simp
  | some poll => simp [poll.succeeded_iff]

/-- **When the flag follows the polls**: from any database and for any polls, exactly
when an answered last poll has a row to show for it, its own or an earlier one, and
otherwise the machine had no row and every answered poll failed to store one. -/
theorem reachableFollows_iff (db : Database) (polls : List OllamaPoll) :
    ReachableFollows machineId baseUrl db polls ↔
      (LastAnswered baseUrl polls → HasOllamaRow machineId db ∨
        ∃ poll ∈ polls, poll.Answered baseUrl ∧ poll.insertOk = true) ∧
      (¬ LastAnswered baseUrl polls → ¬ HasOllamaRow machineId db ∧
        ∀ poll ∈ polls, poll.Answered baseUrl → poll.insertOk = false) := by
  have same : ReachableFollows machineId baseUrl db polls ↔
      ((HasOllamaRow machineId db ∨
        ∃ poll ∈ polls, poll.Answered baseUrl ∧ poll.insertOk = true) ↔
          LastAnswered baseUrl polls) := by
    rw [ReachableFollows, reportedReachable_eq, ← hasOllamaRow_polls machineId, ← reachable_iff,
      ← lastPollSucceeded_iff machineId, ← Bool.eq_iff_iff]
    simp
  rw [same]
  by_cases answered : LastAnswered baseUrl polls
  · simp only [answered, iff_true, true_implies, not_true_eq_false, false_implies, and_true]
  · simp only [answered, iff_false, false_implies, true_and, not_false_eq_true, true_implies,
      not_or, not_exists, not_and, Bool.not_eq_true]

end Polls

/-! ## Ollama going away -/

/-- A successful poll, and five seconds later one that finds nobody. -/
def lostOllama : List OllamaPoll :=
  [⟨1000, some ⟨200, lit "\x7b\"models\":[]\x7d"⟩, true, true⟩, ⟨6000, none, true, true⟩]

/-- The flag stays set when Ollama goes away: the row of the first poll is still there
after the second has failed. -/
theorem reachable_not_always_follows :
    ¬ ∀ machineId baseUrl polls, ReachableFollows machineId baseUrl Database.empty polls := by
  intro follows
  have last := follows (text "host") (text "http://127.0.0.1:11434") lostOllama
  rw [ReachableFollows, reportedReachable_eq] at last
  have failed : lastPollSucceeded (text "host") (text "http://127.0.0.1:11434") lostOllama =
      false := by
    decide +kernel
  rw [failed, Option.some.injEq, CJson.Item.bool.injEq] at last
  have set := (reachable_iff (text "host") _).mpr ((hasOllamaRow_polls (text "host")
    (text "http://127.0.0.1:11434") lostOllama Database.empty).mpr (.inr ⟨_, List.mem_cons_self,
      ⟨by decide +kernel, _, rfl, rfl, by decide +kernel⟩, rfl⟩))
  exact absurd (set.symm.trans last) (by simp)

end CapacityAgent

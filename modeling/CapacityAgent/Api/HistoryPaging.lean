/-
# Paging through the history

A client asks `/v1/history` for page after page: it repeats the request with `to` one below the
oldest timestamp of the page, as it reads that in the response, until a page is empty. The
limit is never below one and no two samples of a sensor have one timestamp, so the pages
are the history; but a timestamp is read right only where the printed number is that
timestamp.
-/

import CapacityAgent.Api.Responses
import CapacityAgent.CJson.PrintedNumber
import CapacityAgent.Library.Paging

namespace CapacityAgent

open CJson (Item getObjectItemCaseSensitive printedNumber)
open KeyedTable Paging Select Signed Strtol

/-! ## Server and client -/

/-- `/v1/history` answers the request with a page of rows, and sends them as the body. -/
def ServesPage (db : Database) (nowUtcMs : ℤ) (request : HistoryRequest) (page : List HistoryRow)
    (body : Item) : Prop :=
  ∃ query, historyQuery nowUtcMs request = .ok query ∧
    (Query.history query.sensorUid query.fromMs query.toMs query.limit).Returns db
      (.history page) ∧ body = historyResponse query page

/-- A request whose parameters are integers in decimal. -/
def pageRequest (sensorUid : CStr) (fromMs toMs : ℤ) (limit : Option ℤ) : HistoryRequest where
  sensorUid := some sensorUid
  fromMs := some (decimal fromMs)
  toMs := some (decimal toMs)
  limit := limit.map decimal

/-- The timestamp of an entry as it is printed. -/
def readTime (entry : Item) : Option ℚ :=
  match getObjectItemCaseSensitive entry (text "ts_utc_ms") with
  | some (.number valuedouble) => some (printedNumber valuedouble)
  | _ => none

/-- The timestamps of a response. -/
def readTimes (body : Item) : List ℚ :=
  match getObjectItemCaseSensitive body (text "samples") with
  | some (.array entries) => entries.filterMap readTime
  | _ => []

/-- The oldest of the timestamps. -/
structure IsOldest (times : List ℚ) (oldest : ℚ) : Prop where
  listed : oldest ∈ times
  least : ∀ time ∈ times, oldest ≤ time

section Client

variable (db : Database) (sensorUid : CStr) (fromMs toMs : ℤ) (limit : Option ℤ)

/-- The pages a client has read, and the `to` of its next request. -/
inductive PagesRead : List (List HistoryRow) → ℤ → Prop
  | start : PagesRead [] toMs
  | page {pages : List (List HistoryRow)} {next nowUtcMs next' : ℤ} {page : List HistoryRow}
      {body : Item} {oldest : ℚ} (earlier : PagesRead pages next)
      (served : ServesPage db nowUtcMs (pageRequest sensorUid fromMs next limit) page body)
      (least : IsOldest (readTimes body) oldest) (before : (next' : ℚ) = oldest - 1) :
      PagesRead (pages ++ [page]) next'

/-- The history of the sensor in the range. -/
abbrev history : List HistoryRow := historyMatches sensorUid fromMs toMs db

/-- Every request is answered and a page that is not empty is followed by another request, but
not for ever; the pages in front of an empty one are the history from the newest sample to the
oldest. -/
structure PagedExactly : Prop where
  answered : ∀ {pages next}, PagesRead db sensorUid fromMs toMs limit pages next →
    ∀ nowUtcMs, ∃ page body,
      ServesPage db nowUtcMs (pageRequest sensorUid fromMs next limit) page body
  continues : ∀ {pages next nowUtcMs page body},
    PagesRead db sensorUid fromMs toMs limit pages next →
    ServesPage db nowUtcMs (pageRequest sensorUid fromMs next limit) page body → page ≠ [] →
      ∃ next', PagesRead db sensorUid fromMs toMs limit (pages ++ [page]) next'
  ends : ∀ {pages next}, PagesRead db sensorUid fromMs toMs limit pages next →
    pages.length ≤ (history db sensorUid fromMs toMs).length
  finishes : ∀ nowUtcMs, ∃ pages next body,
    PagesRead db sensorUid fromMs toMs limit pages next ∧
      ServesPage db nowUtcMs (pageRequest sensorUid fromMs next limit) [] body
  complete : ∀ {pages next nowUtcMs body},
    PagesRead db sensorUid fromMs toMs limit pages next →
    ServesPage db nowUtcMs (pageRequest sensorUid fromMs next limit) [] body →
      pages.flatten.Perm (history db sensorUid fromMs toMs) ∧
        pages.flatten.Pairwise fun newer older => older.tsUtcMs < newer.tsUtcMs

end Client

/-- The timestamp of a row as the client reads it. -/
def HistoryRow.shownTime (row : HistoryRow) : ℚ := printedNumber (Binary64.nearest row.tsUtcMs)

theorem readTimes_historyResponse (query : HistoryQuery) (page : List HistoryRow) :
    readTimes (historyResponse query page) = page.map HistoryRow.shownTime := by
  have times : ∀ row, readTime (historyEntry row) = some row.shownTime := fun row => rfl
  have samples : readTimes (historyResponse query page) =
      (page.map historyEntry).filterMap readTime := rfl
  rw [samples, List.filterMap_map, ← List.filterMap_eq_map]
  exact List.filterMap_congr fun row _ => times row

/-- A timestamp of fifteen digits is read as it is. -/
theorem HistoryRow.shownTime_of_small {row : HistoryRow} (small : |row.tsUtcMs| < 10 ^ 15) :
    row.shownTime = row.tsUtcMs := by
  rw [HistoryRow.shownTime, Binary64.nearest_intCast (small.le.trans (by norm_num)),
    CJson.printedNumber_intCast small]

/-! ## Requests -/

theorem exact_decimal {bits : ℕ} {n : ℤ} (fits : Fits bits n) :
    exact bits (decimal n) = some n := by
  rw [exact, whole_decimal]
  exact Option.filter_some_pos (decide_eq_true fits)

/-- A page is never of no rows at all. -/
theorem limitOf_clampLimit (limit : ℤ) : ∃ n, 0 < n ∧ limitOf (clampLimit limit) = some n := by
  have bounds : 0 < clampLimit limit := by
    unfold clampLimit
    dsimp only
    split_ifs <;> omega
  refine ⟨(clampLimit limit).toNat, by omega, if_neg (by omega)⟩

/-- The limit of the query. -/
def queryLimit (limit : Option ℤ) : ℤ := limit.elim 500 clampLimit

theorem historyQuery_pageRequest {sensorUid : CStr} {fromMs toMs : ℤ} {limit : Option ℤ}
    (fromFits : Fits 64 fromMs) (toFits : Fits 64 toMs) (limitFits : ∀ n ∈ limit, Fits 32 n)
    (nowUtcMs : ℤ) :
    historyQuery nowUtcMs (pageRequest sensorUid fromMs toMs limit) =
      .ok ⟨sensorUid, fromMs, toMs, queryLimit limit⟩ := by
  have given : (pageRequest sensorUid fromMs toMs limit).sensorUid = some sensorUid := rfl
  have limits : exactLimit (limit.map decimal) = some (queryLimit limit) := by
    cases limit with
    | none => rfl
    | some n =>
      rw [Option.map_some, exactLimit, exact_decimal (limitFits n rfl)]
      rfl
  have denotes : (pageRequest sensorUid fromMs toMs limit).exactQuery nowUtcMs sensorUid =
      some ⟨sensorUid, fromMs, toMs, queryLimit limit⟩ := by
    simp only [HistoryRequest.exactQuery, pageRequest, exactParam, exact_decimal fromFits,
      exact_decimal toFits, limits]
    rfl
  rw [historyQuery_of_some given, conversions_of_exactQuery denotes]
  rfl

/-! ## Pages -/

section Pages

variable {db : Database} {sensorUid : CStr} {fromMs toMs : ℤ} {limit : Option ℤ}

/-- A smaller range holds the samples of the greater one that lie in it. -/
theorem historyMatches_of_le {bound : ℤ} (le : bound ≤ toMs) :
    historyMatches sensorUid fromMs bound db =
      (historyMatches sensorUid fromMs toMs db).filter fun row => row.tsUtcMs ≤ bound := by
  unfold historyMatches
  rw [List.filter_map, List.filter_filter]
  congr 1
  refine List.filter_congr fun sample _ => ?_
  rw [Function.comp_apply, ← Bool.decide_and]
  refine decide_eq_decide.mpr ⟨?_, ?_⟩
  · rintro ⟨sensor, after, upTo⟩
    exact ⟨upTo, sensor, after, upTo.trans le⟩
  · rintro ⟨upTo, sensor, after, -⟩
    exact ⟨sensor, after, upTo⟩

theorem mem_history_of_le {bound : ℤ} (le : bound ≤ toMs) {row : HistoryRow}
    (member : row ∈ historyMatches sensorUid fromMs bound db) :
    row ∈ historyMatches sensorUid fromMs toMs db := by
  rw [historyMatches_of_le le] at member
  exact List.mem_of_mem_filter member

/-- No two samples of a sensor have one timestamp. -/
theorem nodup_historyMatches :
    ((historyMatches sensorUid fromMs toMs db).map historyKey).Nodup := by
  rw [historyMatches, List.map_map]
  refine List.Nodup.map_on ?_ (db.sensorSamples.nodup_rows.filter _)
  intro first listed second listed' same
  obtain ⟨member, inRange⟩ := List.mem_filter.mp listed
  obtain ⟨member', inRange'⟩ := List.mem_filter.mp listed'
  have sensor := (of_decide_eq_true inRange).1.trans (of_decide_eq_true inRange').1.symm
  have time : first.1.tsUtcMs = second.1.tsUtcMs := neg_inj.mp same
  exact Table.eq_of_mem_rows member member' (SampleKey.ext sensor time)

theorem bounds_of_mem_historyMatches {row : HistoryRow}
    (member : row ∈ historyMatches sensorUid fromMs toMs db) :
    fromMs ≤ row.tsUtcMs ∧ row.tsUtcMs ≤ toMs := by
  obtain ⟨sample, listed, rfl⟩ := List.mem_map.mp member
  have inRange := of_decide_eq_true (List.mem_filter.mp listed).2
  exact inRange.2

theorem ServesPage.answers {nowUtcMs next : ℤ} {page : List HistoryRow} {body : Item}
    (fromFits : Fits 64 fromMs) (nextFits : Fits 64 next) (limitFits : ∀ n ∈ limit, Fits 32 n)
    (served : ServesPage db nowUtcMs (pageRequest sensorUid fromMs next limit) page body) :
    Answers historyKey (limitOf (queryLimit limit)) (historyMatches sensorUid fromMs next db) page ∧
      readTimes body = page.map HistoryRow.shownTime := by
  obtain ⟨query, taken, returns, rfl⟩ := served
  rw [historyQuery_pageRequest fromFits nextFits limitFits] at taken
  obtain rfl := Reply.ok.inj taken
  exact ⟨returns, readTimes_historyResponse _ page⟩

/-- Where a client stands: its next request is one the server takes, and the samples of that
range are what its pages have left of the history. -/
structure Standing (db : Database) (sensorUid : CStr) (fromMs toMs : ℤ)
    (pages : List (List HistoryRow)) (next : ℤ) : Prop where
  fits : Fits 64 next
  le : next ≤ toMs
  progress : Progress historyKey (historyMatches sensorUid fromMs toMs db) pages
    (historyMatches sensorUid fromMs next db)

/-- One page, of samples whose timestamps are read as they are. -/
theorem Standing.next {pages : List (List HistoryRow)} {page : List HistoryRow} {next next' : ℤ}
    (standing : Standing db sensorUid fromMs toMs pages next) (fromFits : Fits 64 fromMs)
    (shown : ∀ row ∈ historyMatches sensorUid fromMs toMs db, row.shownTime = row.tsUtcMs)
    (answers : Answers historyKey (limitOf (queryLimit limit))
      (historyMatches sensorUid fromMs next db) page) {oldest : ℚ}
    (least : IsOldest (page.map HistoryRow.shownTime) oldest) (before : (next' : ℚ) = oldest - 1) :
    Standing db sensorUid fromMs toMs (pages ++ [page]) next' := by
  have inHistory : ∀ row ∈ page, row ∈ historyMatches sensorUid fromMs toMs db :=
    fun row member => mem_history_of_le standing.le (answers.subset member)
  obtain ⟨last, member, rfl⟩ := List.mem_map.mp least.listed
  rw [shown last (inHistory last member)] at before
  obtain rfl : next' = last.tsUtcMs - 1 := by exact_mod_cast before
  have bounds := bounds_of_mem_historyMatches (answers.subset member)
  have greatest : ∀ row ∈ page, historyKey row ≤ historyKey last := by
    intro row here
    have atMost := least.least _ (List.mem_map_of_mem here)
    rw [shown row (inHistory row here), shown last (inHistory last member)] at atMost
    exact neg_le_neg (by exact_mod_cast atMost)
  have rest : historyMatches sensorUid fromMs (last.tsUtcMs - 1) db =
      (historyMatches sensorUid fromMs next db).filter (historyKey last < historyKey ·) := by
    rw [historyMatches_of_le (show last.tsUtcMs - 1 ≤ next by omega)]
    refine List.filter_congr fun row _ => decide_eq_decide.mpr ?_
    rw [historyKey, historyKey, neg_lt_neg_iff]
    exact Int.le_sub_one_iff
  constructor
  · -- the least integer of the type is not read as it is
    have positive : last.tsUtcMs ≠ -2 ^ 63 := by
      intro lowest
      have alike := shown last (inHistory last member)
      rw [HistoryRow.shownTime, lowest] at alike
      exact absurd alike (by decide +kernel)
    have low := fromFits.1
    have high := standing.fits.2
    simp only [Fits, Nat.add_one_sub_one] at low high ⊢
    omega
  · have le := standing.le
    omega
  · rw [rest]
    exact standing.progress.next nodup_historyMatches answers member greatest

variable (fromFits : Fits 64 fromMs) (toFits : Fits 64 toMs) (limitFits : ∀ n ∈ limit, Fits 32 n)
  (shown : ∀ row ∈ historyMatches sensorUid fromMs toMs db, row.shownTime = row.tsUtcMs)

include fromFits toFits limitFits shown

theorem standing_of_pagesRead {pages : List (List HistoryRow)} {next : ℤ}
    (read : PagesRead db sensorUid fromMs toMs limit pages next) :
    Standing db sensorUid fromMs toMs pages next := by
  induction read with
  | start => exact ⟨toFits, le_rfl, .start _⟩
  | page earlier served least before standing =>
    obtain ⟨answers, times⟩ := served.answers fromFits standing.fits limitFits
    exact standing.next fromFits shown answers (times ▸ least) before

/-- A page that is not empty has an oldest timestamp, so the client goes on. -/
theorem exists_pagesRead_append {pages : List (List HistoryRow)} {page : List HistoryRow}
    {next nowUtcMs : ℤ} {body : Item} (read : PagesRead db sensorUid fromMs toMs limit pages next)
    (served : ServesPage db nowUtcMs (pageRequest sensorUid fromMs next limit) page body)
    (filled : page ≠ []) :
    ∃ next', PagesRead db sensorUid fromMs toMs limit (pages ++ [page]) next' := by
  have standing := standing_of_pagesRead fromFits toFits limitFits shown read
  obtain ⟨answers, times⟩ := served.answers fromFits standing.fits limitFits
  obtain ⟨first, others, rfl⟩ := List.exists_cons_of_ne_nil filled
  obtain ⟨last, member, -, greatest⟩ := Newest.exists_maxStamp_eq historyKey
    (List.mem_cons_self (a := first) (l := others))
  have inHistory : ∀ row ∈ first :: others, row ∈ historyMatches sensorUid fromMs toMs db :=
    fun row here => mem_history_of_le standing.le (answers.subset here)
  have oldest : IsOldest (readTimes body) last.tsUtcMs := by
    rw [times]
    refine ⟨List.mem_map.mpr ⟨last, member, shown last (inHistory last member)⟩, ?_⟩
    intro time listed
    obtain ⟨row, here, rfl⟩ := List.mem_map.mp listed
    rw [shown row (inHistory row here)]
    exact_mod_cast neg_le_neg_iff.mp (greatest row here)
  exact ⟨last.tsUtcMs - 1, read.page served oldest (by push_cast; rfl)⟩

theorem length_le_of_pagesRead {pages : List (List HistoryRow)} {next : ℤ}
    (read : PagesRead db sensorUid fromMs toMs limit pages next) :
    pages.length ≤ (historyMatches sensorUid fromMs toMs db).length :=
  (standing_of_pagesRead fromFits toFits limitFits shown read).progress.length_le

omit toFits shown in
theorem exists_servesPage {next : ℤ} (nextFits : Fits 64 next) (nowUtcMs : ℤ) :
    ∃ page body, ServesPage db nowUtcMs (pageRequest sensorUid fromMs next limit) page body :=
  ⟨_, _, _, historyQuery_pageRequest fromFits nextFits limitFits nowUtcMs,
    Query.returns_run (.history sensorUid fromMs next (queryLimit limit)) db, rfl⟩

/-- The client comes to an empty page, for there are not more pages than samples. -/
theorem exists_finished (nowUtcMs : ℤ) : ∃ pages next body,
    PagesRead db sensorUid fromMs toMs limit pages next ∧
      ServesPage db nowUtcMs (pageRequest sensorUid fromMs next limit) [] body := by
  by_contra never
  push Not at never
  -- otherwise it goes on for any number of pages
  have goesOn : ∀ n : ℕ, ∃ pages next, PagesRead db sensorUid fromMs toMs limit pages next ∧
      pages.length = n := by
    intro n
    induction n with
    | zero => exact ⟨[], toMs, .start, rfl⟩
    | succ n ih =>
      obtain ⟨pages, next, read, rfl⟩ := ih
      have standing := standing_of_pagesRead fromFits toFits limitFits shown read
      obtain ⟨page, body, served⟩ := exists_servesPage fromFits limitFits standing.fits nowUtcMs
      have filled : page ≠ [] := by
        rintro rfl
        exact never pages next body read served
      obtain ⟨next', read'⟩ := exists_pagesRead_append fromFits toFits limitFits shown read served
        filled
      exact ⟨_, next', read', by simp⟩
  obtain ⟨pages, next, read, size⟩ :=
    goesOn ((historyMatches sensorUid fromMs toMs db).length + 1)
  have bound := length_le_of_pagesRead fromFits toFits limitFits shown read
  omega

end Pages

/-- **History can be paged without loss or duplication**: for every table whose timestamps in the
range are of fifteen digits, or else are printed as they are, every range of 64-bit
integers and every limit, absent or of 32 bits. -/
theorem history_pagedExactly {db : Database} {sensorUid : CStr} {fromMs toMs : ℤ}
    {limit : Option ℤ} (fromFits : Fits 64 fromMs) (toFits : Fits 64 toMs)
    (limitFits : ∀ n ∈ limit, Fits 32 n)
    (shown : ∀ row ∈ historyMatches sensorUid fromMs toMs db,
      |row.tsUtcMs| < 10 ^ 15 ∨ row.shownTime = row.tsUtcMs) :
    PagedExactly db sensorUid fromMs toMs limit := by
  have shown : ∀ row ∈ historyMatches sensorUid fromMs toMs db, row.shownTime = row.tsUtcMs :=
    fun row member => (shown row member).elim HistoryRow.shownTime_of_small id
  have standing : ∀ {pages next}, PagesRead db sensorUid fromMs toMs limit pages next →
      Standing db sensorUid fromMs toMs pages next :=
    standing_of_pagesRead fromFits toFits limitFits shown
  constructor
  · exact fun read => exists_servesPage fromFits limitFits (standing read).fits
  · exact exists_pagesRead_append fromFits toFits limitFits shown
  · exact length_le_of_pagesRead fromFits toFits limitFits shown
  · exact exists_finished fromFits toFits limitFits shown
  · intro pages next nowUtcMs body read served
    obtain ⟨answers, -⟩ := served.answers fromFits (standing read).fits limitFits
    obtain ⟨n, positive, limited⟩ : ∃ n, 0 < n ∧ limitOf (queryLimit limit) = some n := by
      cases limit with
      | none => exact ⟨500, by decide, rfl⟩
      | some given => exact limitOf_clampLimit given
    rw [limited] at answers
    refine ⟨(standing read).progress.complete positive answers, ?_⟩
    exact (standing read).progress.ordered.imp fun lt => neg_lt_neg_iff.mp lt

/-! ## Two tables -/

/-- Samples of one sensor at some times. -/
def samplesAt (times : List ℤ) : Database where
  __ := Database.empty
  sensorSamples := times.foldl
    (fun samples time => samples.put ⟨text "cpu", time⟩
      ⟨40, none, none, text "ok", text "librehw_bridge"⟩) ∅

theorem history_pagedExactly_small :
    PagedExactly (samplesAt [3, 1, 2]) (text "cpu") 0 10 (some 2) :=
  history_pagedExactly (by decide) (by decide) (by decide) (by decide +kernel)

/-- Two samples a millisecond apart, at times of sixteen digits. -/
def lateSamples : Database := samplesAt [4503599627370501, 4503599627370500]

/-- What the server sends for a request of one sample. -/
theorem servesPage_lateSamples (toMs : ℤ) (taken :
      historyQuery 0 (pageRequest (text "cpu") 0 toMs (some 1)) = .ok ⟨text "cpu", 0, toMs, 1⟩) :
    ServesPage lateSamples 0 (pageRequest (text "cpu") 0 toMs (some 1))
      (querySensorHistory (text "cpu") 0 toMs 1 lateSamples)
      (historyResponse ⟨text "cpu", 0, toMs, 1⟩
        (querySensorHistory (text "cpu") 0 toMs 1 lateSamples)) :=
  ⟨_, taken, Query.returns_run (.history (text "cpu") 0 toMs 1) lateSamples, rfl⟩

/-- The newer one is printed with the time of the older one, which is then left out. -/
theorem history_not_always_pagedExactly :
    ¬ ∀ (db : Database) (sensorUid : CStr) (fromMs toMs : ℤ) (limit : Option ℤ),
      Fits 64 fromMs → Fits 64 toMs → (∀ n ∈ limit, Fits 32 n) →
        PagedExactly db sensorUid fromMs toMs limit := by
  intro always
  have paged := always lateSamples (text "cpu") 0 4503599627370501 (some 1) (by decide) (by decide)
    (by decide)
  have newer : querySensorHistory (text "cpu") 0 4503599627370501 1 lateSamples =
      [⟨4503599627370501, 40, none, none, text "ok"⟩] := by decide +kernel
  have nothing : querySensorHistory (text "cpu") 0 4503599627370499 1 lateSamples = [] := by
    decide +kernel
  have first := servesPage_lateSamples 4503599627370501 (by decide +kernel)
  have second := servesPage_lateSamples 4503599627370499 (by decide +kernel)
  rw [newer] at first
  rw [nothing] at second
  have printed : HistoryRow.shownTime ⟨4503599627370501, 40, none, none, text "ok"⟩ =
      4503599627370500 := by decide +kernel
  have oldest : IsOldest (readTimes (historyResponse ⟨text "cpu", 0, 4503599627370501, 1⟩
      [⟨4503599627370501, 40, none, none, text "ok"⟩])) 4503599627370500 := by
    rw [readTimes_historyResponse, List.map_singleton, printed]
    exact ⟨List.mem_singleton.mpr rfl, fun time listed => (List.mem_singleton.mp listed).ge⟩
  have read : PagesRead lateSamples (text "cpu") 0 4503599627370501 (some 1)
      [[⟨4503599627370501, 40, none, none, text "ok"⟩]] 4503599627370499 :=
    PagesRead.start.page first oldest (by norm_num)
  have sizes := (paged.complete read second).1.length_eq
  exact absurd sizes (by decide +kernel)

end CapacityAgent

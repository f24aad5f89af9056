/-
# Reading a table page by page

Rows with distinct keys are read in pages: the least of the rows that are left, at most so
many of them, and then only rows with greater keys are left. The pages are the rows in the
order of their keys, however many go on a page, as long as an empty page means that nothing
is left.
-/

import CapacityAgent.Library.Select

namespace Paging

open Select

variable {α κ : Type*} [LinearOrder κ] {key : α → κ}

/-- Rows in order, of which no two have one key. -/
theorem pairwise_lt_of_nodup {rows : List α} (distinct : (rows.map key).Nodup)
    (ordered : rows.Pairwise (key · ≤ key ·)) : rows.Pairwise (key · < key ·) := by
  have differ : rows.Pairwise (key · ≠ key ·) := List.pairwise_map.mp distinct
  exact (ordered.and differ).imp fun both => lt_of_le_of_ne both.1 both.2

/-- A page and the rows with keys beyond its greatest are all the rows, in order. -/
theorem page_append_rest {rows page : List α} {limit : Option ℕ} (distinct : (rows.map key).Nodup)
    (answers : Answers key limit rows page) {last : α} (member : last ∈ page)
    (greatest : ∀ a ∈ page, key a ≤ key last) :
    (page ++ rows.filter (key last < key ·)).Perm rows ∧ page.Pairwise (key · < key ·) := by
  obtain ⟨sorted, permuted, ordered, rfl⟩ := answers
  have strict := pairwise_lt_of_nodup ((permuted.map key).nodup_iff.mpr distinct) ordered
  obtain ⟨behind, parts⟩ : ∃ behind, limited limit sorted ++ behind = sorted := by
    cases limit with
    | none => exact ⟨[], List.append_nil _⟩
    | some n => exact ⟨sorted.drop n, List.take_append_drop n sorted⟩
  rw [← parts, List.pairwise_append] at strict
  obtain ⟨pageStrict, -, across⟩ := strict
  have beyond : sorted.filter (key last < key ·) = behind := by
    rw [← parts, List.filter_append, List.filter_eq_nil_iff.mpr, List.filter_eq_self.mpr,
      List.nil_append]
    · exact fun b later => decide_eq_true (across last member b later)
    · exact fun a here => by simpa using greatest a here
  have left := (permuted.symm.filter (key last < key ·)).append_left (limited limit sorted)
  rw [beyond, parts] at left
  exact ⟨left.trans permuted, pageStrict⟩

/-- What pages have taken of the rows, and what is left. -/
structure Progress (key : α → κ) (rows : List α) (pages : List (List α)) (rest : List α) :
    Prop where
  perm : (pages.flatten ++ rest).Perm rows
  ordered : pages.flatten.Pairwise (key · < key ·)
  before : ∀ a ∈ pages.flatten, ∀ b ∈ rest, key a < key b
  filled : ∀ page ∈ pages, page ≠ []

theorem Progress.start (rows : List α) : Progress key rows [] rows where
  perm := List.Perm.refl rows
  ordered := .nil
  before := fun _ none => absurd none List.not_mem_nil
  filled := fun _ none => absurd none List.not_mem_nil

section Progress

variable {rows rest page : List α} {pages : List (List α)} {limit : Option ℕ}

/-- Every page takes a row at least. -/
theorem Progress.length_le (progress : Progress key rows pages rest) :
    pages.length ≤ rows.length := by
  have atLeast : pages.length ≤ pages.flatten.length := by
    have filled := progress.filled
    clear progress
    induction pages with
    | nil => exact le_rfl
    | cons page later ih =>
      obtain ⟨first, others⟩ := List.forall_mem_cons.mp filled
      have positive := List.length_pos_iff.mpr first
      have tail := ih others
      rw [List.length_cons, List.flatten_cons, List.length_append]
      omega
  have taken := progress.perm.length_eq
  rw [List.length_append] at taken
  omega

/-- **One more page**, and the rows beyond its greatest key are left. -/
theorem Progress.next (progress : Progress key rows pages rest)
    (distinct : (rows.map key).Nodup) (answers : Answers key limit rest page) {last : α}
    (member : last ∈ page) (greatest : ∀ a ∈ page, key a ≤ key last) :
    Progress key rows (pages ++ [page]) (rest.filter (key last < key ·)) := by
  have restDistinct : (rest.map key).Nodup := by
    have all := (progress.perm.map key).nodup_iff.mpr distinct
    rw [List.map_append] at all
    exact all.of_append_right
  obtain ⟨parts, strict⟩ := page_append_rest restDistinct answers member greatest
  have inRest : ∀ a ∈ page, a ∈ rest := fun a here =>
    parts.mem_iff.mp (List.mem_append_left _ here)
  have flat : (pages ++ [page]).flatten = pages.flatten ++ page := by simp
  constructor
  · rw [flat, List.append_assoc]
    exact (parts.append_left _).trans progress.perm
  · rw [flat, List.pairwise_append]
    exact ⟨progress.ordered, strict, fun a earlier b here =>
      progress.before a earlier b (inRest b here)⟩
  · intro a taken b later
    obtain ⟨inside, beyond⟩ := List.mem_filter.mp later
    rw [flat] at taken
    rcases List.mem_append.mp taken with earlier | here
    · exact progress.before a earlier b inside
    · exact lt_of_le_of_lt (greatest a here) (of_decide_eq_true beyond)
  · intro page' listed
    rcases List.mem_append.mp listed with earlier | new
    · exact progress.filled page' earlier
    · rw [List.mem_singleton.mp new]
      exact List.ne_nil_of_mem member

/-- **After an empty page** the pages are all the rows. -/
theorem Progress.complete (progress : Progress key rows pages rest) {n : ℕ} (positive : 0 < n)
    (answers : Answers key (some n) rest []) : pages.flatten.Perm rows := by
  have size := answers.length
  have none : rest = [] := by
    rw [← List.length_eq_zero_iff]
    simp only [List.length_nil, Option.elim_some] at size
    omega
  have perm := progress.perm
  rwa [none, List.append_nil] at perm

end Progress

end Paging

/-
# Searching a sequence

The place where a pattern first occurs and the place where an element last occurs, as
`find` and `rfind` of strings, and where they fall when a separator stands between two
parts: the first occurrence is the separator if the part before it lacks the pattern's
first element, the last one if the part after it lacks the element. And where a run of
elements that pass a test ends.
-/

import Mathlib.Data.List.Infix
import Mathlib.Data.List.TakeWhile
import Mathlib.Tactic.Common

namespace Search

variable {α : Type*} [DecidableEq α]

/-! ## The first occurrence of a pattern -/

/-- `find`. -/
def find (p : List α) : List α → Option ℕ
  | [] => if p = [] then some 0 else none
  | a :: s => if p <+: a :: s then some 0 else (find p s).map (· + 1)

theorem find_prefix (p s : List α) : find p (p ++ s) = some 0 := by
  cases joined : p ++ s with
  | nil => exact if_pos (List.append_eq_nil_iff.mp joined).1
  | cons a rest => exact if_pos (joined ▸ List.prefix_append p s)

/-- The first occurrence does not begin in a part without the pattern's first element. -/
theorem find_append_of_notMem {b : α} {before : List α} (absent : b ∉ before) (p s : List α) :
    find (b :: p) (before ++ s) = (find (b :: p) s).map (· + before.length) := by
  induction before with
  | nil => simp
  | cons a before ih =>
    have differs : b ≠ a := fun same => absent (same ▸ List.mem_cons_self)
    have noPrefix : ¬ b :: p <+: a :: (before ++ s) := fun starts =>
      differs (List.cons_prefix_cons.mp starts).1
    rw [List.cons_append, find, if_neg noPrefix,
      ih (fun member => absent (List.mem_cons_of_mem a member)), Option.map_map]
    exact congrArg (fun shift => (find (b :: p) s).map shift) (funext fun i => by
      simp only [Function.comp_apply, List.length_cons]
      omega)

theorem find_separator {b : α} {before : List α} (absent : b ∉ before) (p s : List α) :
    find (b :: p) (before ++ (b :: p ++ s)) = some before.length := by
  rw [find_append_of_notMem absent, find_prefix, Option.map_some, Nat.zero_add]

/-- The first occurrence, read off the sequence: the pattern stands there, and nowhere
before. -/
theorem find_eq_some_iff {p s : List α} {i : ℕ} :
    find p s = some i ↔ (∃ before after, s = before ++ p ++ after ∧ before.length = i) ∧
      ∀ before after, s = before ++ p ++ after → i ≤ before.length := by
  induction s generalizing i with
  | nil =>
    -- only the empty pattern occurs here
    rw [find, Option.ite_none_right_eq_some, Option.some.injEq]
    constructor
    · rintro ⟨rfl, rfl⟩
      exact ⟨⟨[], [], rfl, rfl⟩, fun before _ _ => Nat.zero_le before.length⟩
    · rintro ⟨⟨before, after, cut, rfl⟩, -⟩
      obtain ⟨rfl, rfl⟩ := List.append_eq_nil_iff.mp (List.append_eq_nil_iff.mp cut.symm).1
      exact ⟨rfl, rfl⟩
  | cons a s ih =>
    rw [find]
    by_cases starts : p <+: a :: s
    · obtain ⟨after, joined⟩ := starts
      rw [if_pos ⟨after, joined⟩, Option.some.injEq]
      constructor
      · rintro rfl
        exact ⟨⟨[], after, joined.symm, rfl⟩, fun before _ _ => Nat.zero_le before.length⟩
      · rintro ⟨-, least⟩
        exact (Nat.le_zero.mp (least [] after joined.symm)).symm
    · rw [if_neg starts, Option.map_eq_some_iff]
      -- an occurrence in the whole sequence is one in its tail
      have later : ∀ {before after}, a :: s = before ++ p ++ after →
          ∃ shorter, before = a :: shorter ∧ s = shorter ++ p ++ after := by
        intro before after cut
        cases before with
        | nil => exact absurd ⟨after, cut.symm⟩ starts
        | cons b shorter =>
          obtain ⟨rfl, tail⟩ := List.cons.inj cut
          exact ⟨shorter, rfl, tail⟩
      constructor
      · rintro ⟨k, found, rfl⟩
        obtain ⟨⟨before, after, cut, rfl⟩, least⟩ := ih.mp found
        refine ⟨⟨a :: before, after, congrArg (a :: ·) cut, rfl⟩, fun other rest cut' => ?_⟩
        obtain ⟨shorter, rfl, tail⟩ := later cut'
        exact Nat.succ_le_succ (least shorter rest tail)
      · rintro ⟨⟨before, after, cut, rfl⟩, least⟩
        obtain ⟨shorter, rfl, tail⟩ := later cut
        have least' : ∀ other rest, s = other ++ p ++ rest → shorter.length ≤ other.length :=
          fun other rest cut' =>
            Nat.le_of_succ_le_succ (least (a :: other) rest (congrArg (a :: ·) cut'))
        exact ⟨shorter.length, ih.mpr ⟨⟨shorter, after, tail, rfl⟩, least'⟩, rfl⟩

theorem find_eq_none_iff {p s : List α} : find p s = none ↔ ¬ p <:+: s := by
  induction s with
  | nil => simp [find, List.infix_nil]
  | cons a s ih =>
    rw [find, List.infix_cons_iff]
    by_cases starts : p <+: a :: s
    · simp [starts]
    · simp [starts, ih]

theorem find_eq_none_of_notMem {b : α} {s : List α} (absent : b ∉ s) (p : List α) :
    find (b :: p) s = none := by
  have skipped := find_append_of_notMem absent p []
  rw [List.append_nil] at skipped
  rw [skipped]
  rfl

/-! ## The last occurrence of an element -/

/-- `rfind` of one element. -/
def rfind (b : α) : List α → Option ℕ
  | [] => none
  | a :: s => (rfind b s).elim (if a = b then some 0 else none) fun i => some (i + 1)

theorem rfind_eq_none_iff {b : α} {s : List α} : rfind b s = none ↔ b ∉ s := by
  induction s with
  | nil => simp [rfind]
  | cons a s ih =>
    cases last : rfind b s with
    | none =>
      rw [rfind, last, Option.elim_none, List.mem_cons, not_or]
      by_cases same : a = b
      · simp [same]
      · simp [same, Ne.symm same, ih.mp last]
    | some i =>
      have later : b ∈ s := by
        by_contra absent
        exact absurd (ih.mpr absent) (by simp [last])
      simp [rfind, last, later]

theorem rfind_append (b : α) (s t : List α) :
    rfind b (s ++ t) = (rfind b t).elim (rfind b s) fun i => some (s.length + i) := by
  induction s with
  | nil => cases last : rfind b t <;> simp [last, rfind]
  | cons a s ih =>
    rw [List.cons_append, rfind, ih]
    cases rfind b t with
    | none => rfl
    | some i =>
      simp only [Option.elim_some, List.length_cons]
      congr 1
      omega

theorem rfind_separator {b : α} {after : List α} (absent : b ∉ after) (s : List α) :
    rfind b (s ++ b :: after) = some s.length := by
  have none : rfind b after = none := rfind_eq_none_iff.mpr absent
  rw [rfind_append, rfind, none]
  simp

/-- The last occurrence of an element cuts the sequence. -/
theorem exists_cut_of_rfind {b : α} {s : List α} {i : ℕ} (last : rfind b s = some i) :
    ∃ before after, s = before ++ b :: after ∧ before.length = i ∧ b ∉ after := by
  induction s generalizing i with
  | nil => exact nomatch last
  | cons a s ih =>
    rw [rfind] at last
    cases later : rfind b s with
    | none =>
      rw [later, Option.elim_none] at last
      split_ifs at last with same
      exact ⟨[], s, by rw [same, List.nil_append], Option.some.inj last,
        rfind_eq_none_iff.mp later⟩
    | some j =>
      rw [later, Option.elim_some] at last
      obtain ⟨before, after, rfl, length, absent⟩ := ih later
      exact ⟨a :: before, after, rfl, by rw [List.length_cons, length, Option.some.inj last],
        absent⟩

/-! ## Runs -/

section Stops

variable {β : Type*} {p : β → Bool} {b : β} (stops : p b = false) (s t : List β)

include stops

/-- A run ends in front of an element that does not pass at the latest. -/
theorem takeWhile_append_cons : (s ++ b :: t).takeWhile p = s.takeWhile p := by
  induction s with
  | nil => exact List.takeWhile_cons_of_neg (by simp [stops])
  | cons a s ih => rw [List.cons_append, List.takeWhile_cons, List.takeWhile_cons, ih]

theorem dropWhile_append_cons : (s ++ b :: t).dropWhile p = s.dropWhile p ++ b :: t := by
  induction s with
  | nil => exact List.dropWhile_cons_of_neg (by simp [stops])
  | cons a s ih =>
    rw [List.cons_append, List.dropWhile_cons, List.dropWhile_cons, ih]
    split_ifs <;> rfl

end Stops

/-- What stands before the first occurrence of an element. -/
theorem takeWhile_bne_append_cons (b : α) (s t : List α) :
    (s ++ b :: t).takeWhile (· != b) = s.takeWhile (· != b) :=
  takeWhile_append_cons (p := (· != b)) (bne_self_eq_false b) s t

theorem takeWhile_bne_of_notMem {b : α} {s : List α} (absent : b ∉ s) :
    s.takeWhile (· != b) = s :=
  List.takeWhile_eq_self_iff.mpr fun _ member =>
    bne_iff_ne.mpr (ne_of_mem_of_not_mem member absent)

/-- What stands before the first occurrence of an element, read off the sequence. -/
theorem takeWhile_bne_eq_iff {b : α} {s before : List α} :
    s.takeWhile (· != b) = before ↔ b ∉ before ∧ (s = before ∨ ∃ t, s = before ++ b :: t) := by
  constructor
  · rintro rfl
    have absent : b ∉ s.takeWhile (· != b) := fun member => by
      have differs := List.mem_takeWhile_imp (p := (· != b)) member
      simp at differs
    refine ⟨absent, ?_⟩
    by_cases occurs : b ∈ s
    · obtain ⟨first, after, rfl, absent'⟩ := List.eq_append_cons_of_mem occurs
      rw [takeWhile_bne_append_cons, takeWhile_bne_of_notMem absent']
      exact .inr ⟨after, rfl⟩
    · exact .inl (takeWhile_bne_of_notMem occurs).symm
  · rintro ⟨absent, rfl | ⟨t, rfl⟩⟩
    · exact takeWhile_bne_of_notMem absent
    · rw [takeWhile_bne_append_cons, takeWhile_bne_of_notMem absent]

section Runs

variable {β : Type*} {p : β → Bool} {run rest : List β} (passes : ∀ b ∈ run, p b = true)
  (ends : ∀ b ∈ rest.head?, p b = false)

include passes ends

/-- A run that ends in front of nothing, or of an element that does not pass. -/
theorem takeWhile_run : (run ++ rest).takeWhile p = run := by
  rw [List.takeWhile_append_of_pos passes]
  cases rest with
  | nil => rw [List.takeWhile_nil, List.append_nil]
  | cons b more => rw [List.takeWhile_cons_of_neg (by simp [ends b rfl]), List.append_nil]

/-- What follows such a run. -/
theorem dropWhile_run : (run ++ rest).dropWhile p = rest := by
  rw [List.dropWhile_append_of_pos passes]
  cases rest with
  | nil => rfl
  | cons b more => rw [List.dropWhile_cons_of_neg (by simp [ends b rfl])]

end Runs

end Search

/-
# Keyed tables

A table with a primary key is a finite map from keys to the remaining columns.
The carrier is Mathlib's `AList`; this module adds the insert-or-update operation
of such tables and the list of their rows. Rows are listed in storage order,
which no statement about a table's contents depends on.
-/

import Mathlib.Data.List.AList

namespace KeyedTable

/-- A table: at most one row for every key. -/
abbrev Table (κ ν : Type*) := AList fun _ : κ => ν

namespace Table

variable {κ ν : Type*} [DecidableEq κ]

/-- Insert `fresh` under a new key, or merge into the row that has the key. -/
def upsert (t : Table κ ν) (k : κ) (fresh : ν) (merge : ν → ν) : Table κ ν :=
  match t.lookup k with
  | none => t.insert k fresh
  | some old => t.insert k (merge old)

/-- Insert a row, replacing the row that has the key. -/
def put (t : Table κ ν) (k : κ) (row : ν) : Table κ ν := t.insert k row

/-- The stored rows with their keys. -/
def rows (t : Table κ ν) : List (κ × ν) := t.entries.map fun entry => (entry.1, entry.2)

@[simp] theorem lookup_upsert_self (t : Table κ ν) (k : κ) (fresh : ν) (merge : ν → ν) :
    (t.upsert k fresh merge).lookup k = some ((t.lookup k).elim fresh merge) := by
  unfold upsert
  cases found : t.lookup k <;> simp [AList.lookup_insert]

theorem lookup_upsert_of_ne (t : Table κ ν) {k k' : κ} (fresh : ν) (merge : ν → ν)
    (distinct : k' ≠ k) : (t.upsert k fresh merge).lookup k' = t.lookup k' := by
  unfold upsert
  cases t.lookup k <;> exact AList.lookup_insert_ne distinct

theorem lookup_upsert (t : Table κ ν) (k k' : κ) (fresh : ν) (merge : ν → ν) :
    (t.upsert k fresh merge).lookup k' =
      if k' = k then some ((t.lookup k).elim fresh merge) else t.lookup k' := by
  split_ifs with same
  · rw [same, lookup_upsert_self]
  · exact lookup_upsert_of_ne t fresh merge same

@[simp] theorem lookup_put_self (t : Table κ ν) (k : κ) (row : ν) :
    (t.put k row).lookup k = some row :=
  AList.lookup_insert t

theorem lookup_put_of_ne (t : Table κ ν) {k k' : κ} (row : ν) (distinct : k' ≠ k) :
    (t.put k row).lookup k' = t.lookup k' :=
  AList.lookup_insert_ne distinct

theorem lookup_put (t : Table κ ν) (k k' : κ) (row : ν) :
    (t.put k row).lookup k' = if k' = k then some row else t.lookup k' := by
  split_ifs with same
  · rw [same, lookup_put_self]
  · exact lookup_put_of_ne t row same

/-- A key stays present under an upsert. -/
theorem mem_upsert (t : Table κ ν) (k k' : κ) (fresh : ν) (merge : ν → ν) :
    k' ∈ t.upsert k fresh merge ↔ k' = k ∨ k' ∈ t := by
  unfold upsert
  cases t.lookup k <;> exact AList.mem_insert t

/-- A key stays present under a put. -/
theorem mem_put (t : Table κ ν) (k k' : κ) (row : ν) : k' ∈ t.put k row ↔ k' = k ∨ k' ∈ t :=
  AList.mem_insert t

theorem mem_iff_exists_lookup {t : Table κ ν} {k : κ} : k ∈ t ↔ ∃ row, t.lookup k = some row := by
  rw [← AList.lookup_isSome, Option.isSome_iff_exists]

/-- Put entries one after the other. -/
def putAll (t : Table κ ν) (entries : List (κ × ν)) : Table κ ν :=
  entries.foldl (fun t entry => t.put entry.1 entry.2) t

@[simp] theorem putAll_nil (t : Table κ ν) : t.putAll [] = t := rfl

@[simp] theorem putAll_cons (t : Table κ ν) (entry : κ × ν) (rest : List (κ × ν)) :
    t.putAll (entry :: rest) = (t.put entry.1 entry.2).putAll rest := rfl

theorem putAll_append (t : Table κ ν) (first second : List (κ × ν)) :
    t.putAll (first ++ second) = (t.putAll first).putAll second := List.foldl_append

theorem mem_putAll (t : Table κ ν) (entries : List (κ × ν)) (k : κ) :
    k ∈ t.putAll entries ↔ (∃ entry ∈ entries, entry.1 = k) ∨ k ∈ t := by
  induction entries generalizing t with
  | nil => simp
  | cons entry rest ih =>
    rw [putAll_cons, ih, mem_put, List.exists_mem_cons_iff, eq_comm (a := k), or_left_comm,
      or_assoc]

/-- `row` is the last entry for `k`. -/
def LastEntry (entries : List (κ × ν)) (k : κ) (row : ν) : Prop :=
  ∃ before after, entries = before ++ (k, row) :: after ∧ ∀ entry ∈ after, entry.1 ≠ k

omit [DecidableEq κ] in
theorem not_lastEntry_nil (k : κ) (row : ν) : ¬ LastEntry [] k row := by
  rintro ⟨before, after, split, -⟩
  exact List.append_ne_nil_of_right_ne_nil before (List.cons_ne_nil _ after) split.symm

omit [DecidableEq κ] in
theorem lastEntry_cons (entry : κ × ν) (rest : List (κ × ν)) (k : κ) (row : ν) :
    LastEntry (entry :: rest) k row ↔
      LastEntry rest k row ∨ (∀ later ∈ rest, later.1 ≠ k) ∧ entry = (k, row) := by
  constructor
  · rintro ⟨before, after, split, others⟩
    cases before with
    | nil =>
      obtain ⟨rfl, rfl⟩ := List.cons.inj split
      exact .inr ⟨others, rfl⟩
    | cons first before =>
      exact .inl ⟨before, after, (List.cons.inj split).2, others⟩
  · rintro (⟨before, after, rfl, others⟩ | ⟨others, rfl⟩)
    · exact ⟨entry :: before, after, rfl, others⟩
    · exact ⟨[], rest, rfl, others⟩

/-- **The last put wins.** -/
theorem lookup_putAll (t : Table κ ν) (entries : List (κ × ν)) (k : κ) (row : ν) :
    (t.putAll entries).lookup k = some row ↔
      LastEntry entries k row ∨ (∀ entry ∈ entries, entry.1 ≠ k) ∧ t.lookup k = some row := by
  induction entries generalizing t with
  | nil => simp [not_lastEntry_nil]
  | cons entry rest ih =>
    obtain ⟨k', row'⟩ := entry
    rw [putAll_cons, ih, lookup_put, lastEntry_cons, List.forall_mem_cons, Prod.mk.injEq]
    -- the first entry counts when no later one has its key
    by_cases same : k = k'
    · subst same
      simp
    · have other : k' ≠ k := Ne.symm same
      simp [same, other]

/-- An insert-or-update as a function of the row, absent or not. -/
def absorb {α : Type*} (fresh : α → ν) (merge : α → ν → ν) (row : Option ν) (x : α) : Option ν :=
  some (row.elim (fresh x) (merge x))

/-- After a run of upserts, a row has absorbed those of its own key in order. -/
theorem lookup_foldl_upsert {α : Type*} (key : α → κ) (fresh : α → ν) (merge : α → ν → ν)
    (upserts : List α) (t : Table κ ν) (k : κ) :
    (upserts.foldl (fun t x => t.upsert (key x) (fresh x) (merge x)) t).lookup k =
      (upserts.filter fun x => key x = k).foldl (absorb fresh merge) (t.lookup k) := by
  induction upserts generalizing t with
  | nil => rfl
  | cons x rest ih =>
    rw [List.foldl_cons, ih, lookup_upsert]
    by_cases own : key x = k
    · subst own
      rw [if_pos rfl, List.filter_cons_of_pos (by simp), List.foldl_cons]
      rfl
    · rw [if_neg (Ne.symm own), List.filter_cons_of_neg (by simpa using own)]

/-! ## Writes made again -/

theorem upsert_eq_insert (t : Table κ ν) (k : κ) (fresh : ν) (merge : ν → ν) :
    t.upsert k fresh merge = t.insert k ((t.lookup k).elim fresh merge) := by
  unfold upsert
  cases t.lookup k <;> rfl

/-- An insert makes an earlier one under its key irrelevant. -/
theorem insert_later (t : Table κ ν) (k k' : κ) (first between last : ν) :
    ((t.insert k first).insert k' between).insert k last = (t.insert k' between).insert k last := by
  by_cases same : k' = k
  · rw [same, AList.insert_insert, AList.insert_insert, AList.insert_insert]
  · have distinct : k ≠ k' := Ne.symm same
    apply AList.ext
    have kept : ∀ entries : List ((_ : κ) × ν),
        List.kerase k (⟨k', between⟩ :: entries) = ⟨k', between⟩ :: List.kerase k entries := by
      intro entries
      rw [List.kerase_cons_ne]
      exact distinct
    have gone : ∀ entries : List ((_ : κ) × ν),
        List.kerase k (⟨k, first⟩ :: entries) = entries := by
      intro entries
      rw [List.kerase_cons_eq]
      rfl
    -- the first insert only puts its key at the front, from where the last one removes it
    rw [AList.entries_insert, AList.entries_insert, AList.entries_insert, AList.entries_insert,
      AList.entries_insert, kept, kept, List.kerase_comm k' k, gone, List.kerase_comm k' k]

/-- A put made again changes nothing. -/
@[simp] theorem put_again (t : Table κ ν) (k : κ) (row : ν) :
    (t.put k row).put k row = t.put k row :=
  AList.insert_insert t

theorem put_later (t : Table κ ν) (k k' : κ) (row row' : ν) :
    ((t.put k row).put k' row').put k row = (t.put k' row').put k row :=
  insert_later t k k' row row' row

/-- An upsert made again changes nothing when its merge keeps what it has made. -/
theorem upsert_again (t : Table κ ν) (k : κ) {fresh : ν} {merge : ν → ν}
    (first : merge fresh = fresh) (again : ∀ row, merge (merge row) = merge row) :
    (t.upsert k fresh merge).upsert k fresh merge = t.upsert k fresh merge := by
  rw [upsert_eq_insert (t.upsert k fresh merge), lookup_upsert_self, upsert_eq_insert t,
    AList.insert_insert]
  cases t.lookup k with
  | none => simp [first]
  | some row => simp [again]

/-- An upsert makes the same upsert before another one irrelevant, when it does so for
the row the two may share. -/
theorem upsert_later (t : Table κ ν) (k k' : κ) {fresh fresh' : ν} {merge merge' : ν → ν}
    (first : merge fresh = fresh) (again : ∀ row, merge (merge row) = merge row)
    (own : k' = k → ∀ row : Option ν,
      merge (merge' (row.elim fresh merge)) = merge (row.elim fresh' merge')) :
    ((t.upsert k fresh merge).upsert k' fresh' merge').upsert k fresh merge =
      (t.upsert k' fresh' merge').upsert k fresh merge := by
  by_cases same : k' = k
  · subst same
    rw [upsert_eq_insert, upsert_eq_insert (t.upsert k' fresh' merge'), lookup_upsert_self,
      lookup_upsert_self, lookup_upsert_self, upsert_eq_insert (t.upsert k' fresh merge),
      upsert_eq_insert t, upsert_eq_insert t, insert_later]
    simp only [Option.elim_some]
    rw [own rfl, AList.insert_insert, AList.insert_insert]
  · have distinct : k ≠ k' := Ne.symm same
    rw [upsert_eq_insert, upsert_eq_insert (t.upsert k' fresh' merge'),
      lookup_upsert_of_ne _ _ _ distinct, lookup_upsert_of_ne _ _ _ distinct, lookup_upsert_self,
      upsert_eq_insert (t.upsert k fresh merge), lookup_upsert_of_ne _ _ _ same,
      upsert_eq_insert t k, upsert_eq_insert t k', insert_later]
    cases t.lookup k with
    | none => simp [first]
    | some row => simp [again]

/-- The listed rows are exactly the stored ones. -/
@[simp] theorem mem_rows {t : Table κ ν} {k : κ} {row : ν} :
    (k, row) ∈ t.rows ↔ t.lookup k = some row := by
  rw [← Option.mem_def, AList.mem_lookup_iff]
  constructor
  · intro listed
    obtain ⟨⟨k', row'⟩, stored, same⟩ := List.mem_map.mp listed
    obtain ⟨rfl, rfl⟩ := Prod.mk.inj same
    exact stored
  · intro stored
    exact List.mem_map.mpr ⟨⟨k, row⟩, stored, rfl⟩

/-- The key tells stored rows apart. -/
theorem eq_of_mem_rows {t : Table κ ν} {entry other : κ × ν} (first : entry ∈ t.rows)
    (second : other ∈ t.rows) (same : entry.1 = other.1) : entry = other := by
  obtain ⟨k, row⟩ := entry
  obtain ⟨k', row'⟩ := other
  obtain rfl : k = k' := same
  rw [mem_rows] at first second
  rw [Option.some.inj (first.symm.trans second)]

omit [DecidableEq κ] in
/-- No key is listed twice. -/
theorem nodup_keys_rows (t : Table κ ν) : (t.rows.map Prod.fst).Nodup := by
  have keys : t.rows.map Prod.fst = t.keys := by simp [rows, AList.keys, List.keys]
  rw [keys]
  exact t.keys_nodup

omit [DecidableEq κ] in
theorem nodup_rows (t : Table κ ν) : t.rows.Nodup :=
  List.Nodup.of_map Prod.fst t.nodup_keys_rows

/-! ## Properties of all rows -/

/-- Every row has the property. -/
def All (P : κ → ν → Prop) (t : Table κ ν) : Prop := ∀ k row, t.lookup k = some row → P k row

variable {P : κ → ν → Prop}

theorem all_empty : All P (∅ : Table κ ν) := fun k row found => absurd found (by simp)

theorem All.put {t : Table κ ν} (all : All P t) {k : κ} {row : ν} (own : P k row) :
    All P (t.put k row) := by
  intro k' row' found
  rw [lookup_put] at found
  split_ifs at found with same
  · rw [same, ← Option.some.inj found]
    exact own
  · exact all k' row' found

theorem All.upsert {t : Table κ ν} (all : All P t) {k : κ} {fresh : ν} {merge : ν → ν}
    (new : P k fresh) (again : ∀ old, P k old → P k (merge old)) :
    All P (t.upsert k fresh merge) := by
  intro k' row' found
  rw [lookup_upsert] at found
  split_ifs at found with same
  · rw [same, ← Option.some.inj found]
    cases stored : t.lookup k with
    | none => exact new
    | some old => exact again old (all k old stored)
  · exact all k' row' found

end Table

end KeyedTable

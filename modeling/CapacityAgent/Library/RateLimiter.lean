/-
# Keyed rate limiters

Every key has a timestamp and an interval. A call is admitted when its key is known
and the interval has passed since the key's timestamp, which then becomes the time of
the call. The timestamps are the times of the last admitted calls, so one key's calls
neither see nor delay another's.
-/

import Mathlib.Algebra.Order.Group.Defs
import Mathlib.Data.List.Induction
import Mathlib.Order.Basic
import Mathlib.Tactic.Common

namespace RateLimiter

variable {Key Time : Type*}

/-- A call and whether it was admitted. -/
structure Outcome (Key Time : Type*) where
  key : Key
  now : Time
  admitted : Bool
  deriving DecidableEq

variable [DecidableEq Key] [AddCommGroup Time] [LinearOrder Time] (known : Key → Bool)
  (interval : Key → Time)

/-- Whether a call is admitted at the timestamps. -/
def admits (last : Key → Time) (key : Key) (now : Time) : Bool :=
  known key && !decide (now - last key < interval key)

/-- The timestamps after a call. -/
def after (last : Key → Time) (key : Key) (now : Time) : Key → Time :=
  if admits known interval last key now then Function.update last key now else last

/-- The outcomes of the calls. -/
def outcomes : (Key → Time) → List (Key × Time) → List (Outcome Key Time)
  | _, [] => []
  | last, (key, now) :: calls =>
    ⟨key, now, admits known interval last key now⟩ ::
      outcomes (after known interval last key now) calls

/-- The timestamps after the calls. -/
def afterAll (last : Key → Time) (calls : List (Key × Time)) : Key → Time :=
  calls.foldl (fun last call => after known interval last call.1 call.2) last

/-- The calls of the key that were admitted. -/
def admittedOf (key : Key) (history : List (Outcome Key Time)) : List (Outcome Key Time) :=
  history.filter fun outcome => outcome.key = key ∧ outcome.admitted = true

/-- The time of the last admitted call of the key, the epoch if there was none. -/
def lastAdmitted (epoch : Time) (key : Key) (history : List (Outcome Key Time)) : Time :=
  ((admittedOf key history).getLast?).elim epoch Outcome.now

variable {known interval}

omit [DecidableEq Key] in
theorem admits_iff {last : Key → Time} {key : Key} {now : Time} :
    admits known interval last key now = true ↔
      known key = true ∧ interval key ≤ now - last key := by
  simp [admits]

theorem after_of_ne {last : Key → Time} {key other : Key} (different : other ≠ key) (now : Time) :
    after known interval last key now other = last other := by
  unfold after
  split_ifs
  · exact Function.update_of_ne different _ _
  · rfl

theorem outcomes_append (last : Key → Time) (first second : List (Key × Time)) :
    outcomes known interval last (first ++ second) =
      outcomes known interval last first ++
        outcomes known interval (afterAll known interval last first) second := by
  induction first generalizing last with
  | nil => rfl
  | cons call rest ih =>
    obtain ⟨key, now⟩ := call
    rw [List.cons_append, outcomes, outcomes, ih]
    rfl

theorem afterAll_append_singleton (last : Key → Time) (earlier : List (Key × Time)) (key : Key)
    (now : Time) :
    afterAll known interval last (earlier ++ [(key, now)]) =
      after known interval (afterAll known interval last earlier) key now := by
  rw [afterAll, List.foldl_append]
  rfl

omit [AddCommGroup Time] [LinearOrder Time] in
theorem lastAdmitted_append_singleton (epoch : Time) (key : Key)
    (history : List (Outcome Key Time)) (outcome : Outcome Key Time) :
    lastAdmitted epoch key (history ++ [outcome]) =
      if outcome.key = key ∧ outcome.admitted = true then outcome.now
      else lastAdmitted epoch key history := by
  rw [lastAdmitted, admittedOf, List.filter_append]
  split_ifs with last
  · rw [List.filter_cons_of_pos (by simpa using last), List.filter_nil, List.getLast?_concat]
    rfl
  · rw [List.filter_cons_of_neg (by simpa using last), List.filter_nil, List.append_nil]
    rfl

/-- The timestamps are the times of the last admitted calls. -/
theorem afterAll_eq (epoch : Time) (key : Key) (calls : List (Key × Time)) :
    afterAll known interval (fun _ => epoch) calls key =
      lastAdmitted epoch key (outcomes known interval (fun _ => epoch) calls) := by
  induction calls using List.reverseRecOn with
  | nil => rfl
  | append_singleton earlier call ih =>
    obtain ⟨own, now⟩ := call
    rw [outcomes_append, outcomes, outcomes, lastAdmitted_append_singleton,
      afterAll_append_singleton, after, ← ih]
    by_cases admitted : admits known interval (afterAll known interval (fun _ => epoch) earlier)
        own now = true
    · by_cases same : own = key
      · subst same
        rw [if_pos admitted, if_pos ⟨rfl, admitted⟩, Function.update_self]
      · rw [if_pos admitted, if_neg fun both => same both.1, Function.update_of_ne (Ne.symm same)]
    · rw [if_neg admitted, if_neg fun both => admitted both.2]

/-- Calls of other keys change nothing for a key. -/
theorem outcomes_filter (key : Key) (last other : Key → Time) (same : last key = other key)
    (calls : List (Key × Time)) :
    (outcomes known interval last calls).filter (·.key = key) =
      outcomes known interval other (calls.filter (·.1 = key)) := by
  induction calls generalizing last other with
  | nil => rfl
  | cons call rest ih =>
    obtain ⟨own, now⟩ := call
    by_cases mine : own = key
    · subst mine
      -- the verdict depends on the key's own timestamp only
      have verdict : admits known interval last own now = admits known interval other own now := by
        rw [admits, admits, same]
      rw [outcomes, List.filter_cons_of_pos (by simp), List.filter_cons_of_pos (by simp), outcomes,
        verdict]
      refine congrArg _ (ih _ _ ?_)
      rw [after, after, verdict]
      split_ifs
      · rw [Function.update_self, Function.update_self]
      · exact same
    · rw [outcomes, List.filter_cons_of_neg (by simpa using mine),
        List.filter_cons_of_neg (by simpa using mine)]
      refine ih _ _ ?_
      rw [after_of_ne (Ne.symm mine), same]

section Spacing

variable [IsOrderedAddMonoid Time]

/-- No call of a key is admitted before its timestamp and the interval. -/
theorem le_of_admitted (key : Key) (nonneg : 0 ≤ interval key) (last : Key → Time)
    (calls : List (Key × Time)) :
    ∀ outcome ∈ admittedOf key (outcomes known interval last calls),
      last key + interval key ≤ outcome.now := by
  induction calls generalizing last with
  | nil => exact fun _ none => absurd none List.not_mem_nil
  | cons call rest ih =>
    obtain ⟨own, now⟩ := call
    intro outcome member
    rw [outcomes, admittedOf, List.filter_cons] at member
    by_cases taken : own = key ∧ admits known interval last own now = true
    · obtain ⟨rfl, admitted⟩ := taken
      have passed : last own + interval own ≤ now := by
        rw [add_comm]
        exact le_sub_iff_add_le.mp (admits_iff.mp admitted).2
      rw [if_pos (by simpa using admitted)] at member
      rcases List.mem_cons.mp member with rfl | later
      · exact passed
      · -- the timestamp has moved on to this call
        have next := ih _ outcome later
        rw [after, if_pos admitted, Function.update_self] at next
        exact passed.trans ((le_add_of_nonneg_right nonneg).trans next)
    · rw [if_neg (by simpa using taken)] at member
      -- a call of another key, or a refused one, moves nothing of the key's
      have kept : after known interval last own now key = last key := by
        by_cases mine : own = key
        · rw [after, if_neg fun admitted => taken ⟨mine, admitted⟩]
        · exact after_of_ne (Ne.symm mine) now
      have next := ih _ outcome member
      rwa [kept] at next

/-- The admitted calls of a key keep the interval from one another. -/
theorem pairwise_admitted (key : Key) (nonneg : 0 ≤ interval key) (last : Key → Time)
    (calls : List (Key × Time)) :
    (admittedOf key (outcomes known interval last calls)).Pairwise fun first second =>
      first.now + interval key ≤ second.now := by
  induction calls generalizing last with
  | nil => exact List.Pairwise.nil
  | cons call rest ih =>
    obtain ⟨own, now⟩ := call
    rw [outcomes, admittedOf, List.filter_cons]
    by_cases taken : own = key ∧ admits known interval last own now = true
    · obtain ⟨rfl, admitted⟩ := taken
      rw [if_pos (by simpa using admitted)]
      refine List.Pairwise.cons (fun outcome later => ?_) (ih _)
      have next := le_of_admitted own nonneg _ rest outcome later
      rwa [after, if_pos admitted, Function.update_self] at next
    · rw [if_neg (by simpa using taken)]
      exact ih _

end Spacing

end RateLimiter

/-
# Delimited pieces of a stream

A stream cut at a delimiter is a list of complete pieces followed by an unfinished
one. Reading more of the stream only touches the unfinished piece, which is what
lets a reader keep nothing else between two reads.
-/

import Mathlib.Data.List.Basic
import Mathlib.Tactic.Common

namespace Lines

variable {α : Type*} [DecidableEq α] (delimiter : α)

/-- Induction over the pieces of a stream: one without the delimiter, or a piece, the
delimiter and the rest. -/
@[elab_as_elim] theorem induction_on_pieces {motive : List α → Prop} (stream : List α)
    (last : ∀ piece, delimiter ∉ piece → motive piece)
    (more : ∀ piece rest, delimiter ∉ piece → motive rest →
      motive (piece ++ delimiter :: rest)) : motive stream := by
  -- cut at the first delimiter; the rest is shorter
  by_cases cut : delimiter ∈ stream
  · obtain ⟨piece, rest, same, free⟩ := List.eq_append_cons_of_mem cut
    have shorter : rest.length < stream.length := by
      rw [same, List.length_append, List.length_cons]
      omega
    rw [same]
    exact more piece rest free (induction_on_pieces rest last more)
  · exact last stream cut
termination_by stream.length

/-- The pieces that end at a delimiter. -/
def complete (stream : List α) : List (List α) := (stream.splitOn delimiter).dropLast

/-- The piece after the last delimiter. -/
def unfinished (stream : List α) : List α :=
  (stream.splitOn delimiter).getLast (List.splitOn_ne_nil delimiter stream)

variable {delimiter}

theorem complete_append_unfinished (stream : List α) :
    complete delimiter stream ++ [unfinished delimiter stream] = stream.splitOn delimiter :=
  List.dropLast_append_getLast _

theorem complete_of_notMem {piece : List α} (free : delimiter ∉ piece) :
    complete delimiter piece = [] := by
  rw [complete, List.splitOn_eq_singleton free]
  rfl

theorem unfinished_of_notMem {piece : List α} (free : delimiter ∉ piece) :
    unfinished delimiter piece = piece := by
  simp only [unfinished, List.splitOn_eq_singleton free, List.getLast_singleton]

theorem complete_cons {piece : List α} (free : delimiter ∉ piece) (rest : List α) :
    complete delimiter (piece ++ delimiter :: rest) = piece :: complete delimiter rest := by
  rw [complete, List.splitOn_append_cons_self_of_not_mem free,
    List.dropLast_cons_of_ne_nil (List.splitOn_ne_nil delimiter rest), complete]

theorem unfinished_cons {piece : List α} (free : delimiter ∉ piece) (rest : List α) :
    unfinished delimiter (piece ++ delimiter :: rest) = unfinished delimiter rest := by
  simp only [unfinished, List.splitOn_append_cons_self_of_not_mem free,
    List.getLast_cons (List.splitOn_ne_nil delimiter rest)]

/-- The unfinished piece is free of the delimiter. -/
theorem notMem_unfinished (stream : List α) : delimiter ∉ unfinished delimiter stream := by
  induction stream using induction_on_pieces delimiter with
  | last piece free => rwa [unfinished_of_notMem free]
  | more piece rest free ih => rwa [unfinished_cons free]

/-- **More of the stream** completes pieces that start with the unfinished one. -/
theorem splitOn_append (stream more : List α) :
    (stream ++ more).splitOn delimiter =
      complete delimiter stream ++ (unfinished delimiter stream ++ more).splitOn delimiter := by
  induction stream using induction_on_pieces delimiter with
  | last piece free => rw [complete_of_notMem free, unfinished_of_notMem free, List.nil_append]
  | more piece rest free ih =>
    rw [complete_cons free, unfinished_cons free, List.append_assoc, List.cons_append,
      List.splitOn_append_cons_self_of_not_mem free, ih, List.cons_append]

theorem complete_append (stream more : List α) :
    complete delimiter (stream ++ more) =
      complete delimiter stream ++
        complete delimiter (unfinished delimiter stream ++ more) := by
  rw [complete, splitOn_append, List.dropLast_append_of_ne_nil (List.splitOn_ne_nil _ _), complete,
    complete]

theorem unfinished_append (stream more : List α) :
    unfinished delimiter (stream ++ more) =
      unfinished delimiter (unfinished delimiter stream ++ more) := by
  simp only [unfinished, splitOn_append stream more,
    List.getLast_append_of_ne_nil _ (List.splitOn_ne_nil _ _)]

end Lines

/-
# The pipe server

`NamedPipeServer::Run` on the bytes it reads. A connection is the list of chunks
`ReadFile` delivers before it fails or delivers nothing; the server is not stopped
meanwhile. `pending` is local to a connection.
-/

import CapacityAgent.Text
import CapacityAgent.Library.Lines

namespace CapacityAgent

namespace NamedPipeServer

open Lines

def newline : UInt8 := byte '\n'

def carriageReturn : UInt8 := byte '\r'

/-- A line without its trailing carriage return. -/
def trimCarriageReturn (line : Bytes) : Bytes :=
  if line.getLast? = some carriageReturn then line.dropLast else line

/-- `DispatchCompleteLines`: the lines handed to the handler and what is left of
`pending`. -/
def dispatchCompleteLines (pending : Bytes) : List Bytes × Bytes :=
  match found : pending.idxOf? newline with
  | none => ([], pending)
  | some position =>
    let line := trimCarriageReturn (pending.take position)
    let later := dispatchCompleteLines (pending.drop (position + 1))
    (if line.isEmpty then later.1 else line :: later.1, later.2)
termination_by pending.length
decreasing_by
  obtain ⟨inside, -, -⟩ := List.idxOf?_eq_some_iff.mp found
  rw [List.length_drop]
  omega

/-- The read loop of a connection; an empty read ends it like a failed one. -/
def readLoop (pending : Bytes) : List Bytes → List Bytes × Bytes
  | [] => ([], pending)
  | chunk :: rest =>
    if chunk.isEmpty then ([], pending)
    else
      let dispatched := dispatchCompleteLines (pending ++ chunk)
      let later := readLoop dispatched.2 rest
      (dispatched.1 ++ later.1, later.2)

/-- What the handler is given of `pending` after the loop. -/
def flush (pending : Bytes) : List Bytes :=
  if pending.isEmpty then []
  else
    let line := trimCarriageReturn pending
    if line.isEmpty then [] else [line]

/-- Everything the handler is given on a connection. -/
def serveConnection (chunks : List Bytes) : List Bytes :=
  let outcome := readLoop [] chunks
  outcome.1 ++ flush outcome.2

/-- `Run`, over the connections in order. -/
def run (connections : List (List Bytes)) : List Bytes := connections.flatMap serveConnection

/-! ## What the handler is given -/

/-- The strings of pieces of a stream: trailing carriage returns and then empty
strings are dropped. -/
def lines (pieces : List Bytes) : List Bytes :=
  (pieces.map trimCarriageReturn).filter fun line => !line.isEmpty

/-- The strings of a byte stream. -/
def messages (stream : Bytes) : List Bytes := lines (stream.splitOn newline)

theorem lines_cons (piece : Bytes) (rest : List Bytes) :
    lines (piece :: rest) =
      if (trimCarriageReturn piece).isEmpty then lines rest
      else trimCarriageReturn piece :: lines rest := by
  cases empty : (trimCarriageReturn piece).isEmpty <;> simp [lines, empty]

theorem lines_append (first second : List Bytes) :
    lines (first ++ second) = lines first ++ lines second := by
  simp [lines]

/-- Scanning finds the complete pieces and leaves the unfinished one. -/
theorem dispatchCompleteLines_eq (pending : Bytes) :
    dispatchCompleteLines pending =
      (lines (complete newline pending), unfinished newline pending) := by
  induction pending using induction_on_pieces newline with
  | last piece free =>
    have nowhere : piece.idxOf? newline = none := List.idxOf?_eq_none_iff.mpr free
    rw [dispatchCompleteLines, complete_of_notMem free, unfinished_of_notMem free]
    split
    · rfl
    · rename_i position found
      exact absurd (nowhere.symm.trans found) (by simp)
  | more piece rest free ih =>
    -- the piece is free of newlines, so the first one is right after it
    have here : (piece ++ newline :: rest).idxOf? newline = some piece.length := by
      rw [List.idxOf?_eq_some_iff]
      refine ⟨by simp, by simp, fun j before same => free ?_⟩
      rw [List.getElem_append_left before] at same
      exact same ▸ List.getElem_mem before
    rw [dispatchCompleteLines]
    split
    · rename_i found
      exact absurd (here.symm.trans found) (by simp)
    · rename_i position found
      obtain rfl : piece.length = position := Option.some.inj (here.symm.trans found)
      rw [List.take_left, List.drop_append, List.drop_of_length_le (Nat.le_succ _),
        Nat.add_sub_cancel_left, List.nil_append, List.drop_one, List.tail_cons, ih,
        complete_cons free, unfinished_cons free, lines_cons]

/-- **The loop invariant.** `pending` is free of newlines, and the loop hands over
the complete pieces of what is pending and still to come. -/
theorem readLoop_eq {pending : Bytes} (free : newline ∉ pending) {chunks : List Bytes}
    (nonempty : ∀ chunk ∈ chunks, chunk ≠ []) :
    readLoop pending chunks =
      (lines (complete newline (pending ++ chunks.flatten)),
        unfinished newline (pending ++ chunks.flatten)) := by
  induction chunks generalizing pending with
  | nil =>
    rw [List.flatten_nil, List.append_nil, complete_of_notMem free, unfinished_of_notMem free]
    rfl
  | cons chunk rest ih =>
    -- what is left pending is free of newlines again, which is the invariant
    have delivered : chunk.isEmpty = false := by
      simpa using nonempty chunk List.mem_cons_self
    have later := ih (notMem_unfinished (pending ++ chunk))
      fun chunk member => nonempty chunk (List.mem_cons_of_mem _ member)
    have joined : pending ++ (chunk :: rest).flatten = (pending ++ chunk) ++ rest.flatten := by
      rw [List.flatten_cons, List.append_assoc]
    simp only [readLoop, delivered, Bool.false_eq_true, if_false, dispatchCompleteLines_eq, later]
    rw [joined, complete_append (pending ++ chunk), unfinished_append (pending ++ chunk),
      lines_append]

/-- The flush treats the unfinished piece like any other. -/
theorem flush_eq (piece : Bytes) : flush piece = lines [piece] := by
  rw [lines_cons, flush]
  cases piece with
  | nil => rfl
  | cons b rest => rfl

/-- A connection delivers the strings of its byte stream, however it was cut. -/
theorem serveConnection_eq {chunks : List Bytes} (nonempty : ∀ chunk ∈ chunks, chunk ≠ []) :
    serveConnection chunks = messages chunks.flatten := by
  have loop : readLoop [] chunks = (lines (complete newline chunks.flatten),
      unfinished newline chunks.flatten) := readLoop_eq List.not_mem_nil nonempty
  simp only [serveConnection, loop]
  rw [flush_eq, ← lines_append, complete_append_unfinished, messages]

/-- A line that ends in CR LF is delivered without its ending. -/
theorem messages_line {body : Bytes} (nonempty : body ≠ []) (free : newline ∉ body) (rest : Bytes) :
    messages (body ++ carriageReturn :: newline :: rest) = body :: messages rest := by
  have whole : body ++ carriageReturn :: newline :: rest =
      (body ++ [carriageReturn]) ++ newline :: rest := by simp
  have freeWithReturn : newline ∉ body ++ [carriageReturn] := by
    simpa using ⟨free, by decide⟩
  have trimmed : trimCarriageReturn (body ++ [carriageReturn]) = body := by
    rw [trimCarriageReturn, List.getLast?_concat, if_pos rfl, List.dropLast_concat]
  have kept : body.isEmpty = false := by simpa using nonempty
  rw [messages, whole, List.splitOn_append_cons_self_of_not_mem freeWithReturn, lines_cons, trimmed,
    kept, if_neg Bool.false_ne_true, messages]

/-- **Framing does not depend on delivery.** Over any connections and any cuts of their
streams into nonempty reads, the handler is given the strings of each stream in order,
where the pieces that are cut out of a stream join back to it. -/
theorem framing_ignores_chunks (connections : List (List Bytes))
    (nonempty : ∀ chunks ∈ connections, ∀ chunk ∈ chunks, chunk ≠ []) :
    run connections = connections.flatMap (fun chunks => messages chunks.flatten) ∧
      ∀ chunks ∈ connections,
        [newline].intercalate (chunks.flatten.splitOn newline) = chunks.flatten := by
  refine ⟨List.flatMap_congr fun chunks member => serveConnection_eq (nonempty chunks member), ?_⟩
  exact fun chunks _ => List.intercalate_splitOn newline

/-- A line cut inside its CR LF, and an unterminated second connection. -/
theorem framing_ignores_chunks_cut :
    run [[lit "ab\r", lit "\nc"], [lit "d"]] = [lit "ab", lit "c", lit "d"] :=
  (framing_ignores_chunks [[lit "ab\r", lit "\nc"], [lit "d"]] (by decide)).1.trans (by decide)

end NamedPipeServer

end CapacityAgent

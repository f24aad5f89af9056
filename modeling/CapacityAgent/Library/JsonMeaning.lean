/-
# The meaning of JSON texts

The JSON grammar with the meaning of each part beside it: a derivation builds the text and
what it stands for together. The decoder on tokens finds nothing else, so facts about decoded
texts can be proved along the grammar.
-/

import CapacityAgent.Library.JsonDecode

namespace Json

open Utf8 (byte lit)

/-! ## Derivations with meanings -/

/-- What stands before a comma or the closing bracket: an element, or a member with its name. -/
def Entry : Bracket → Type
  | .square => Datum
  | .curly => List UInt8 × Datum

/-- The array or object of the entries. -/
def Bracket.datum : (bracket : Bracket) → List (Entry bracket) → Datum
  | .square => .array
  | .curly => .object

/-- What a part of a text can say. -/
def Said : Part → Type
  | .value => Datum
  | .entry bracket => Entry bracket
  | .entries bracket => List (Entry bracket)

/-- The part stands for this. -/
inductive Means (lexis : Lexis) : (part : Part) → List UInt8 → Said part → Prop
  | word {bytes : List UInt8} {d : Datum} (word : lexis.Word bytes)
      (decoded : decodeWord bytes = some d) : Means lexis .value bytes d
  | string {body bytes : List UInt8} (string : lexis.Body body)
      (decoded : decodeBody body = some bytes) :
      Means lexis .value (quoted body) (Datum.string bytes)
  | empty (bracket : Bracket) {gap : List UInt8} (blank : lexis.Gap gap) :
      Means lexis .value (bracket.opening :: (gap ++ [bracket.closing])) (bracket.datum [])
  | filled {bracket : Bracket} {inner : List UInt8} {said : List (Entry bracket)}
      (entries : Means lexis (.entries bracket) inner said) :
      Means lexis .value (bracket.opening :: (inner ++ [bracket.closing])) (bracket.datum said)
  | element {before value after : List UInt8} {d : Datum} (blank : lexis.Gap before)
      (means : Means lexis .value value d) (blank' : lexis.Gap after) :
      Means lexis (.entry .square) (before ++ (value ++ after)) d
  | member {before body after element name : List UInt8} {d : Datum} (blank : lexis.Gap before)
      (string : lexis.Body body) (decoded : decodeBody body = some name)
      (blank' : lexis.Gap after) (means : Means lexis (.entry .square) element d) :
      Means lexis (.entry .curly) (before ++ (quoted body ++ (after ++ byte ':' :: element)))
        (name, d)
  | last {bracket : Bracket} {entry : List UInt8} {said : Entry bracket}
      (means : Means lexis (.entry bracket) entry said) :
      Means lexis (.entries bracket) entry [said]
  | more {bracket : Bracket} {entry later : List UInt8} {said : Entry bracket}
      {others : List (Entry bracket)} (means : Means lexis (.entry bracket) entry said)
      (entries : Means lexis (.entries bracket) later others) :
      Means lexis (.entries bracket) (entry ++ byte ',' :: later) (said :: others)

/-! ## Depth -/

mutual

/-- How deeply arrays and objects are nested. -/
def Datum.depth : Datum → ℕ
  | .null | .bool _ | .number _ | .string _ => 0
  | .array items => Datum.itemsDepth items + 1
  | .object members => Datum.membersDepth members + 1

def Datum.itemsDepth : List Datum → ℕ
  | [] => 0
  | item :: rest => max item.depth (Datum.itemsDepth rest)

def Datum.membersDepth : List (List UInt8 × Datum) → ℕ
  | [] => 0
  | (_, item) :: rest => max item.depth (Datum.membersDepth rest)

end

def entryDepth : (bracket : Bracket) → Entry bracket → ℕ
  | .square, item => Datum.depth item
  | .curly, (_, item) => item.depth

def entriesDepth : (bracket : Bracket) → List (Entry bracket) → ℕ
  | .square => Datum.itemsDepth
  | .curly => Datum.membersDepth

theorem entriesDepth_cons (bracket : Bracket) (entry : Entry bracket)
    (rest : List (Entry bracket)) :
    entriesDepth bracket (entry :: rest) =
      max (entryDepth bracket entry) (entriesDepth bracket rest) := by
  cases bracket <;> rfl

theorem entriesDepth_nil (bracket : Bracket) : entriesDepth bracket [] = 0 := by
  cases bracket <;> rfl

theorem depth_datum (bracket : Bracket) (entries : List (Entry bracket)) :
    (bracket.datum entries).depth = entriesDepth bracket entries + 1 := by
  cases bracket <;> rfl

/-! ## The decoder by brackets -/

/-- The loop over the entries of a bracket. -/
def decodeEntries :
    (bracket : Bracket) → ℕ → List Token → Option (List (Entry bracket) × List Token)
  | .square => decodeElements
  | .curly => decodeMembers

/-- One entry, and what follows. -/
def decodeEntry : (bracket : Bracket) → ℕ → List Token → Option (Entry bracket × List Token)
  | .square, fuel, tokens => decodeValue fuel tokens
  | .curly, fuel, .string body :: tokens =>
    (decodeBody body).bind fun name =>
      (behindMark (byte ':') tokens).bind fun value =>
        (decodeValue fuel value).map fun item => ((name, item.1), item.2)
  | .curly, _, _ => none

theorem decodeValue_opening (bracket : Bracket) (fuel : ℕ) (rest : List Token) :
    decodeValue (fuel + 1) (.mark bracket.opening :: rest) =
      match behindMark bracket.closing rest with
      | some more => some (bracket.datum [], more)
      | none =>
        (decodeEntries bracket fuel rest).map fun found => (bracket.datum found.1, found.2) := by
  cases bracket <;> rfl

theorem decodeEntries_succ (bracket : Bracket) (fuel : ℕ) (tokens : List Token) :
    decodeEntries bracket (fuel + 1) tokens =
      (decodeEntry bracket fuel tokens).bind fun entry =>
        match behindMark bracket.closing entry.2 with
        | some more => some ([entry.1], more)
        | none =>
          (behindMark (byte ',') entry.2).bind fun more =>
            (decodeEntries bracket fuel more).map fun later =>
              (entry.1 :: later.1, later.2) := by
  cases bracket with
  | square => rfl
  | curly =>
    cases tokens with
    | nil => rfl
    | cons token tokens =>
      cases token with
      | mark b => rfl
      | word bytes => rfl
      | string body =>
        rw [decodeEntries, decodeMembers, decodeEntry, Option.bind_assoc]
        refine congrArg _ (funext fun name => ?_)
        rw [Option.bind_assoc]
        refine congrArg _ (funext fun value => ?_)
        rw [Option.bind_map]
        rfl

theorem decodeEntries_zero (bracket : Bracket) (tokens : List Token) :
    decodeEntries bracket 0 tokens = none := by
  cases bracket with
  | square => rfl
  | curly => cases tokens <;> rfl

/-! ## The decoder follows the grammar -/

/-- The tokens begin with something, and do not close a bracket. -/
def Opens (found : List Token) : Prop :=
  ∃ token later, found = token :: later ∧ ∀ bracket : Bracket, token ≠ .mark bracket.closing

theorem Opens.append {found : List Token} (opens : Opens found) (rest : List Token) :
    Opens (found ++ rest) := by
  obtain ⟨token, later, rfl, stays⟩ := opens
  exact ⟨token, later ++ rest, rfl, stays⟩

theorem Opens.behindMark {found : List Token} (opens : Opens found) (bracket : Bracket) :
    behindMark bracket.closing found = none := by
  obtain ⟨token, later, rfl, stays⟩ := opens
  cases token with
  | mark b => exact if_neg fun same => stays bracket (congrArg Token.mark same)
  | string body => rfl
  | word bytes => rfl

section Decoder

variable (lexis : Lexis)

/-- Whatever the decoder makes of the tokens of a part, the part stands for it; entries are
decoded up to the bracket that closes them. -/
def Understands : Part → List UInt8 → List Token → Prop
  | .value, text, found => ∀ fuel rest d left,
    decodeValue fuel (found ++ rest) = some (d, left) → left = rest ∧ Means lexis .value text d
  | .entry bracket, text, found => ∀ fuel rest said left,
    decodeEntry bracket fuel (found ++ rest) = some (said, left) →
      left = rest ∧ Means lexis (.entry bracket) text said
  | .entries bracket, text, found => ∀ fuel rest said left,
    decodeEntries bracket fuel (found ++ .mark bracket.closing :: rest) = some (said, left) →
      left = rest ∧ Means lexis (.entries bracket) text said

variable {lexis}

theorem understands_word {bytes : List UInt8} (word : lexis.Word bytes) :
    Understands lexis .value bytes [.word bytes] := by
  intro fuel rest d left decodes
  cases fuel with
  | zero => exact absurd decodes (by simp [decodeValue])
  | succ fuel =>
    obtain ⟨found, decoded, same⟩ := Option.map_eq_some_iff.mp decodes
    obtain ⟨rfl, rfl⟩ := Prod.mk.inj same
    exact ⟨rfl, .word word decoded⟩

theorem understands_string {body : List UInt8} (string : lexis.Body body) :
    Understands lexis .value (quoted body) [.string body] := by
  intro fuel rest d left decodes
  cases fuel with
  | zero => exact absurd decodes (by simp [decodeValue])
  | succ fuel =>
    obtain ⟨found, decoded, same⟩ := Option.map_eq_some_iff.mp decodes
    obtain ⟨rfl, rfl⟩ := Prod.mk.inj same
    exact ⟨rfl, .string string decoded⟩

theorem understands_empty (bracket : Bracket) {gap : List UInt8} (blank : lexis.Gap gap) :
    Understands lexis .value (bracket.opening :: (gap ++ [bracket.closing]))
      [.mark bracket.opening, .mark bracket.closing] := by
  intro fuel rest d left decodes
  cases fuel with
  | zero => exact absurd decodes (by simp [decodeValue])
  | succ fuel =>
    rw [List.cons_append, decodeValue_opening, List.cons_append, behindMark, if_pos rfl] at decodes
    obtain ⟨rfl, rfl⟩ := Prod.mk.inj (Option.some.inj decodes)
    exact ⟨rfl, .empty bracket blank⟩

theorem Understands.filled {bracket : Bracket} {inner : List UInt8} {found : List Token}
    (opens : Opens found) (entries : Understands lexis (.entries bracket) inner found) :
    Understands lexis .value (bracket.opening :: (inner ++ [bracket.closing]))
      (.mark bracket.opening :: (found ++ [.mark bracket.closing])) := by
  intro fuel rest d left decodes
  cases fuel with
  | zero => exact absurd decodes (by simp [decodeValue])
  | succ fuel =>
    rw [List.cons_append, List.append_assoc, decodeValue_opening,
      (opens.append _).behindMark] at decodes
    obtain ⟨⟨said, left'⟩, found', same⟩ := Option.map_eq_some_iff.mp decodes
    obtain ⟨rfl, rfl⟩ := Prod.mk.inj same
    obtain ⟨rfl, means⟩ := entries fuel rest said left' found'
    exact ⟨rfl, .filled means⟩

theorem Understands.element {before value after : List UInt8} {found : List Token}
    (blank : lexis.Gap before) (own : Understands lexis .value value found)
    (blank' : lexis.Gap after) :
    Understands lexis (.entry .square) (before ++ (value ++ after)) found := by
  intro fuel rest d left decodes
  obtain ⟨rfl, means⟩ := own fuel rest d left decodes
  exact ⟨rfl, .element blank means blank'⟩

theorem Understands.member {before body after element : List UInt8} {found : List Token}
    (blank : lexis.Gap before) (string : lexis.Body body) (blank' : lexis.Gap after)
    (own : Understands lexis (.entry .square) element found) :
    Understands lexis (.entry .curly) (before ++ (quoted body ++ (after ++ byte ':' :: element)))
      (.string body :: .mark (byte ':') :: found) := by
  intro fuel rest said left decodes
  obtain ⟨name, decoded, decodes⟩ := Option.bind_eq_some_iff.mp decodes
  obtain ⟨value, behind, decodes⟩ := Option.bind_eq_some_iff.mp decodes
  obtain rfl : found ++ rest = value := Option.some.inj behind
  obtain ⟨⟨d, left'⟩, found', same⟩ := Option.map_eq_some_iff.mp decodes
  obtain ⟨rfl, rfl⟩ := Prod.mk.inj same
  obtain ⟨rfl, means⟩ := own fuel rest d left' found'
  exact ⟨rfl, .member blank string decoded blank' means⟩

theorem Understands.last {bracket : Bracket} {entry : List UInt8} {found : List Token}
    (own : Understands lexis (.entry bracket) entry found) :
    Understands lexis (.entries bracket) entry found := by
  intro fuel rest said left decodes
  cases fuel with
  | zero => exact absurd decodes (by simp [decodeEntries_zero])
  | succ fuel =>
    rw [decodeEntries_succ] at decodes
    obtain ⟨⟨first, left'⟩, found', decodes⟩ := Option.bind_eq_some_iff.mp decodes
    obtain ⟨rfl, means⟩ := own fuel _ first left' found'
    rw [behindMark, if_pos rfl] at decodes
    obtain ⟨rfl, rfl⟩ := Prod.mk.inj (Option.some.inj decodes)
    exact ⟨rfl, .last means⟩

theorem Understands.more {bracket : Bracket} {entry later : List UInt8}
    {found others : List Token} (own : Understands lexis (.entry bracket) entry found)
    (entries : Understands lexis (.entries bracket) later others) :
    Understands lexis (.entries bracket) (entry ++ byte ',' :: later)
      (found ++ .mark (byte ',') :: others) := by
  intro fuel rest said left decodes
  cases fuel with
  | zero => exact absurd decodes (by simp [decodeEntries_zero])
  | succ fuel =>
    rw [decodeEntries_succ, List.append_assoc] at decodes
    obtain ⟨⟨first, left'⟩, found', decodes⟩ := Option.bind_eq_some_iff.mp decodes
    obtain ⟨rfl, means⟩ := own fuel _ first left' found'
    -- a comma closes nothing
    have goesOn : behindMark bracket.closing
        (.mark (byte ',') :: others ++ .mark bracket.closing :: rest) = none := by
      cases bracket <;> rfl
    rw [goesOn] at decodes
    obtain ⟨more, behind, decodes⟩ := Option.bind_eq_some_iff.mp decodes
    obtain rfl : others ++ .mark bracket.closing :: rest = more := Option.some.inj behind
    obtain ⟨⟨remaining, left'⟩, found', same⟩ := Option.map_eq_some_iff.mp decodes
    obtain ⟨rfl, rfl⟩ := Prod.mk.inj same
    obtain ⟨rfl, means'⟩ := entries fuel rest remaining left' found'
    exact ⟨rfl, .more means means'⟩

theorem filter_significant_bracket (bracket : Bracket) (found : List Token) :
    (Token.mark bracket.opening :: (found ++ [.mark bracket.closing])).filter Token.significant =
      .mark bracket.opening :: (found.filter Token.significant ++ [.mark bracket.closing]) := by
  have visible : ¬ IsWhitespace bracket.opening ∧ ¬ IsWhitespace bracket.closing := by
    cases bracket <;> decide
  rw [filter_significant_mark visible.1, List.filter_append,
    filter_significant_mark visible.2]
  rfl

theorem opens_opening (bracket : Bracket) (rest : List Token) :
    Opens (.mark bracket.opening :: rest) := by
  refine ⟨_, _, rfl, fun other same => ?_⟩
  have bytes : bracket.opening = other.closing := Token.mark.inj same
  cases bracket <;> cases other <;> exact absurd bytes (by decide)

variable (white : ∀ {b}, lexis.Blank b → IsWhitespace b)

include white

theorem filter_significant_gap {gap : List UInt8} (blank : lexis.Gap gap) :
    (gap.map Token.mark).filter Token.significant = [] := by
  rw [List.filter_eq_nil_iff]
  intro token member
  obtain ⟨b, inside, rfl⟩ := List.mem_map.mp member
  simpa [Token.significant] using white (blank b inside)

/-- The decoder on the tokens of a text. -/
theorem Text.exists_understands {part : Part} {text : List UInt8} (reads : Text lexis part text) :
    ∃ found, TokensOf lexis part text found ∧ Opens (found.filter Token.significant) ∧
      Understands lexis part text (found.filter Token.significant) := by
  -- over the grammar, as the tokens are put together
  induction reads with
  | word word =>
    exact ⟨_, tokensOf_word word, ⟨_, _, rfl, by simp⟩, understands_word word⟩
  | string string =>
    exact ⟨_, tokensOf_string string, ⟨_, _, rfl, by simp⟩, understands_string string⟩
  | empty bracket blank =>
    refine ⟨_, tokensOf_empty bracket blank, ?_⟩
    rw [filter_significant_bracket, filter_significant_gap white blank]
    exact ⟨opens_opening bracket _, understands_empty bracket blank⟩
  | filled entries ih =>
    obtain ⟨found, of, opens, own⟩ := ih
    refine ⟨_, of.filled, ?_⟩
    rw [filter_significant_bracket]
    exact ⟨opens_opening _ _, own.filled opens⟩
  | element blank text blank' ih =>
    obtain ⟨found, of, opens, own⟩ := ih
    refine ⟨_, .element blank of blank', ?_⟩
    rw [List.filter_append, List.filter_append, filter_significant_gap white blank,
      filter_significant_gap white blank', List.nil_append, List.append_nil]
    exact ⟨opens, own.element blank blank'⟩
  | member blank string blank' text ih =>
    obtain ⟨found, of, opens, own⟩ := ih
    refine ⟨_, .member blank string blank' of, ?_⟩
    rw [List.filter_append, filter_significant_gap white blank, List.nil_append,
      List.filter_cons_of_pos rfl, List.filter_append, filter_significant_gap white blank',
      List.nil_append, filter_significant_mark (by decide)]
    exact ⟨⟨_, _, rfl, by simp⟩, own.member blank string blank'⟩
  | last text ih =>
    obtain ⟨found, of, opens, own⟩ := ih
    exact ⟨found, of.last, opens, own.last⟩
  | more text entries ih ih' =>
    obtain ⟨found, of, opens, own⟩ := ih
    obtain ⟨others, of', -, own'⟩ := ih'
    refine ⟨_, of.more of', ?_⟩
    rw [List.filter_append, filter_significant_mark (by decide)]
    exact ⟨opens.append _, own.more own'⟩

/-- What a text is decoded to is what the grammar makes of it. -/
theorem Text.means {text : List UInt8} (reads : Text lexis .value text) {d : Datum}
    (decodes : decode text = some d) : Means lexis .value text d := by
  obtain ⟨found, of, -, own⟩ := reads.exists_understands white
  have whole : tokens text = found := by simpa [tokens, tokensFrom] using of.splits [] ends_nil
  rw [decode, significantTokens, whole] at decodes
  split at decodes
  next datum read =>
    obtain rfl := Option.some.inj decodes
    exact (own _ [] datum [] (by rw [List.append_nil]; exact read)).2
  next => exact absurd decodes (by simp)

end Decoder

end Json

/-
# The lexis of JSON

What the JSON grammar takes for white space, for the inside of a string and for a word,
and the loosest choice of all. One object per line is then a statement about the bytes of
the line.
-/

import CapacityAgent.Library.JsonText

namespace Json

open Utf8 (byte lit)

/-! ## The lexis -/

/-- Space, tab, line feed or carriage return. -/
def IsWhitespace (b : UInt8) : Prop := b = 0x20 ∨ b = 0x09 ∨ b = 0x0A ∨ b = 0x0D

instance : DecidablePred IsWhitespace := fun b =>
  inferInstanceAs (Decidable (b = 0x20 ∨ b = 0x09 ∨ b = 0x0A ∨ b = 0x0D))

/-- A hexadecimal digit in either case. -/
def IsHexDigit (b : UInt8) : Prop := ∃ upper, ∃ d : Fin 16, hexDigit upper d = b

/-- The inside of a string: characters in UTF-8 and escapes. -/
inductive StringBody : List UInt8 → Prop
  | nil : StringBody []
  | char {c : Char} {rest : List UInt8} (printable : 32 ≤ c.toNat) (notQuote : c ≠ '"')
      (notBackslash : c ≠ '\\') (later : StringBody rest) :
      StringBody (String.utf8EncodeChar c ++ rest)
  | short {letter : UInt8} {rest : List UInt8} (listed : letter ∈ lit "\"\\/bfnrt")
      (later : StringBody rest) : StringBody (byte '\\' :: letter :: rest)
  -- the grammar does not ask for pairs of surrogates
  | unicode {digits rest : List UInt8} (four : digits.length = 4)
      (hex : ∀ b ∈ digits, IsHexDigit b) (later : StringBody rest) :
      StringBody (byte '\\' :: byte 'u' :: (digits ++ rest))

/-- A literal or a number. -/
def IsValueWord (bytes : List UInt8) : Prop :=
  bytes ∈ [lit "null", lit "true", lit "false"] ∨ ∃ n : Number, n.text = bytes

theorem isHexDigit_plain {b : UInt8} (hex : IsHexDigit b) :
    b ≠ byte '"' ∧ b ≠ byte '\\' ∧ 32 ≤ b.toNat := by
  have all : ∀ upper, ∀ d : Fin 16, hexDigit upper d ≠ byte '"' ∧ hexDigit upper d ≠ byte '\\' ∧
      32 ≤ (hexDigit upper d).toNat := by decide
  obtain ⟨upper, d, rfl⟩ := hex
  exact all upper d

theorem StringBody.closed {body : List UInt8} (string : StringBody body) : Closed body := by
  induction string with
  | nil => exact .nil
  | char printable notQuote notBackslash _ ih =>
    -- the bytes of a character contain no quote but those of the quote
    exact (Closed.of_plain (Utf8.byte_notMem_encodeChar (by decide) notQuote)
      (Utf8.byte_notMem_encodeChar (by decide) notBackslash)).append ih
  | short listed _ ih => exact .escaped _ ih
  | unicode four hex _ ih =>
    have digits := Closed.of_plain (fun quote => (isHexDigit_plain (hex _ quote)).1 rfl)
      fun backslash => (isHexDigit_plain (hex _ backslash)).2.1 rfl
    exact .escaped _ (digits.append ih)

theorem StringBody.printable {body : List UInt8} (string : StringBody body) :
    Printable body := by
  induction string with
  | nil => exact .nil
  | char printable notQuote notBackslash _ ih =>
    exact .append (fun b member => Utf8.le_toNat_of_mem_encodeChar (by omega) printable member) ih
  | short listed _ ih =>
    have letters : Printable (lit "\"\\/bfnrt") := by decide
    exact (ih.cons (letters _ listed)).cons (by decide)
  | unicode four hex _ ih =>
    have digits : Printable _ := fun b member => (isHexDigit_plain (hex b member)).2.2
    exact ((digits.append ih).cons (by decide)).cons (by decide)

theorem IsValueWord.isWord {bytes : List UInt8} (word : IsValueWord bytes) : IsWord bytes := by
  rcases word with literal | ⟨n, rfl⟩
  · have literals : ∀ bytes ∈ [lit "null", lit "true", lit "false"],
        bytes ≠ [] ∧ ∀ b ∈ bytes, isMark b = false := by decide +kernel
    exact literals bytes literal
  · refine ⟨fun empty => ?_, n.forall_mem_text (by decide) (by decide +kernel)⟩
    have digits : digitsText n.whole = [] := by
      simp only [Number.text, List.append_eq_nil_iff] at empty
      exact empty.2.1
    exact n.nonempty (List.map_eq_nil_iff.mp digits)

theorem IsValueWord.printable {bytes : List UInt8} (word : IsValueWord bytes) :
    Printable bytes := by
  rcases word with literal | ⟨n, rfl⟩
  · have literals : ∀ bytes ∈ [lit "null", lit "true", lit "false"], Printable bytes := by decide
    exact literals bytes literal
  · exact n.printable_text

namespace Lexis

/-- The JSON grammar. -/
def json : Lexis where
  Blank := IsWhitespace
  Body := StringBody
  Word := IsValueWord
  blank_le := by
    rintro b (rfl | rfl | rfl | rfl) <;> decide
  closed := StringBody.closed
  isWord := IsValueWord.isWord

/-- Every choice is part of this one. -/
def loose : Lexis where
  Blank := (· ≤ 32)
  Body := Closed
  Word := IsWord
  blank_le := id
  closed := id
  isWord := id

end Lexis

/-! ## One object -/

/-- The line is the text of one object, with white space around it. -/
def OneObject (line : List UInt8) : Prop :=
  ∃ before text after, Lexis.json.Gap before ∧ IsObject .json text ∧ Lexis.json.Gap after ∧
    line = before ++ (text ++ after)

/-- What holds of every byte of every token holds of every byte of a text. -/
theorem Text.forall_mem {P : UInt8 → Prop} (mark : ∀ b ∈ marks, P b) {lexis : Lexis}
    (blank : ∀ b, lexis.Blank b → P b) (string : ∀ body, lexis.Body body → ∀ b ∈ body, P b)
    (word : ∀ bytes, lexis.Word bytes → ∀ b ∈ bytes, P b) {part : Part} {text : List UInt8}
    (reads : Text lexis part text) : ∀ b ∈ text, P b := by
  have quotes : ∀ body, lexis.Body body → ∀ b ∈ quoted body, P b := fun body legal =>
    List.forall_mem_cons.mpr ⟨mark _ (by decide), List.forall_mem_append.mpr
      ⟨string body legal, List.forall_mem_singleton.mpr (mark _ (by decide))⟩⟩
  have between : ∀ bracket : Bracket, ∀ inner : List UInt8, (∀ b ∈ inner, P b) →
      ∀ b ∈ bracket.opening :: (inner ++ [bracket.closing]), P b := by
    intro bracket inner each
    refine List.forall_mem_cons.mpr ⟨mark _ (by cases bracket <;> decide),
      List.forall_mem_append.mpr ⟨each, List.forall_mem_singleton.mpr (mark _ ?_)⟩⟩
    cases bracket <;> decide
  induction reads with
  | word legal => exact word _ legal
  | string legal => exact quotes _ legal
  | empty bracket gap => exact between bracket _ fun b member => blank b (gap b member)
  | filled _ ih => exact between _ _ ih
  | element gap _ gap' ih =>
    exact List.forall_mem_append.mpr ⟨fun b member => blank b (gap b member),
      List.forall_mem_append.mpr ⟨ih, fun b member => blank b (gap' b member)⟩⟩
  | member gap legal gap' _ ih =>
    exact List.forall_mem_append.mpr ⟨fun b member => blank b (gap b member),
      List.forall_mem_append.mpr ⟨quotes _ legal, List.forall_mem_append.mpr
        ⟨fun b member => blank b (gap' b member),
          List.forall_mem_cons.mpr ⟨mark _ (by decide), ih⟩⟩⟩⟩
  | last _ ih => exact ih
  | more _ _ ih ih' =>
    exact List.forall_mem_append.mpr ⟨ih, List.forall_mem_cons.mpr ⟨mark _ (by decide), ih'⟩⟩

theorem zero_notMem_gap {gap : List UInt8} (blank : Lexis.json.Gap gap) : (0 : UInt8) ∉ gap :=
  fun member => absurd (show IsWhitespace 0 from blank 0 member) (by decide)

theorem Text.zero_notMem {part : Part} {text : List UInt8} (reads : Text .json part text) :
    (0 : UInt8) ∉ text := by
  have positive : ∀ b ∈ text, b ≠ 0 := by
    refine reads.forall_mem (by decide +kernel) ?_ ?_ ?_
    · rintro b (rfl | rfl | rfl | rfl) <;> decide
    · rintro body legal _ member rfl
      exact absurd (StringBody.printable legal 0 member) (by decide)
    · rintro bytes legal _ member rfl
      exact absurd (IsValueWord.printable legal 0 member) (by decide)
  exact fun member => positive 0 member rfl

theorem OneObject.zero_notMem {line : List UInt8} (one : OneObject line) :
    (0 : UInt8) ∉ line := by
  obtain ⟨before, text, after, blank, object, blank', rfl⟩ := one
  simp only [List.mem_append, not_or]
  exact ⟨zero_notMem_gap blank, object.1.zero_notMem, zero_notMem_gap blank'⟩

/-- The last byte of such a line closes the object or is white space. -/
theorem OneObject.getLast? {line : List UInt8} (one : OneObject line) :
    ∃ b, line.getLast? = some b ∧ (b = byte '}' ∨ IsWhitespace b) := by
  obtain ⟨before, text, after, -, object, blank, rfl⟩ := one
  obtain ⟨inner, rfl, -⟩ := object.exists_inner
  -- the last byte is that of what follows the object, if there is any
  have bytes : before ++ (byte '{' :: (inner ++ [byte '}']) ++ after) =
      (before ++ byte '{' :: inner) ++ ([byte '}'] ++ after) := by simp
  rw [bytes, List.getLast?_append, List.getLast?_append]
  cases last : after.getLast? with
  | none => exact ⟨byte '}', rfl, .inl rfl⟩
  | some b => exact ⟨b, rfl, .inr (blank b (List.mem_of_getLast? last))⟩

end Json

/-
# What the compact text of a value says

The text of a value, by any encoder, says the value: its words, its numbers as decimals, its
strings in UTF-8, and its items and members in order.
-/

import CapacityAgent.Library.JsonScalars

namespace Json

open Utf8 (byte lit)

/-! ## Arrays -/

/-- A text with what it is to say. -/
structure Element where
  text : List UInt8
  datum : Datum

/-- The element says what it is to say. -/
def Element.Sound (e : Element) : Prop := Denotes e.text e.datum

/-- The elements with commas between them. -/
def joinElements (first : Element) : List Element → List UInt8
  | [] => first.text
  | next :: rest => first.text ++ byte ',' :: joinElements next rest

/-- All elements, up to the closing bracket. -/
theorem exists_tokens_joinElements {first : Element} {rest : List Element} (sound : first.Sound)
    (sounds : ∀ e ∈ rest, e.Sound) :
    Text .json (.entries .square) (joinElements first rest) ∧
      ∃ found, Splits (joinElements first rest) found ∧
        ∀ fuel ≥ 2 * (found.filter Token.significant).length + 2, ∀ behind,
          decodeElements fuel (found.filter Token.significant ++ .mark (byte ']') :: behind) =
            some ((first :: rest).map Element.datum, behind) := by
  obtain ⟨found, splits, decodes⟩ := sound.exists_tokens
  have noGap : Lexis.json.Gap [] := List.forall_mem_nil _
  have entry : Text .json (.entry .square) first.text := by
    simpa using Text.element noGap sound.valid noGap
  induction rest generalizing first found with
  | nil =>
    refine ⟨.last entry, found, splits, fun fuel room behind => ?_⟩
    obtain ⟨fuel, rfl⟩ := Nat.exists_eq_add_of_le' (show 1 ≤ fuel by omega)
    rw [decodeElements, decodes fuel (by omega), Option.bind_some]
    dsimp only
    rw [behindMark_self]
    rfl
  | cons next rest ih =>
    obtain ⟨nextSound, sounds⟩ := List.forall_mem_cons.mp sounds
    obtain ⟨nextFound, nextSplits, nextDecodes⟩ := nextSound.exists_tokens
    have nextEntry : Text .json (.entry .square) next.text := by
      simpa using Text.element noGap nextSound.valid noGap
    obtain ⟨entries, others, otherSplits, otherDecodes⟩ :=
      ih nextSound sounds nextFound nextSplits nextDecodes nextEntry
    refine ⟨.more entry entries, found ++ .mark (byte ',') :: others,
      splits.append (otherSplits.mark (by decide) (by decide)) fun _ _ => ends_cons (by decide) _,
      fun fuel room behind => ?_⟩
    obtain ⟨fuel, rfl⟩ := Nat.exists_eq_add_of_le' (show 1 ≤ fuel by omega)
    have comma : behindMark (byte ']') (Token.mark (byte ',') ::
        (others.filter Token.significant ++ .mark (byte ']') :: behind)) = none := rfl
    rw [List.filter_append, filter_significant_mark (by decide), List.length_append,
      List.length_cons] at room
    rw [List.filter_append, filter_significant_mark (by decide), List.append_assoc, decodeElements,
      decodes fuel (by omega), Option.bind_some, List.cons_append]
    dsimp only
    rw [comma, behindMark_self]
    dsimp only
    rw [Option.bind_some, otherDecodes fuel (by omega) behind]
    rfl

/-- Values do not begin with a closing bracket. -/
theorem behindMark_of_decodeElements {fuel : ℕ} {ts left : List Token} {items : List Datum}
    (read : decodeElements fuel ts = some (items, left)) :
    behindMark (byte ']') ts = none := by
  cases fuel with
  | zero => exact absurd read (by simp [decodeElements])
  | succ fuel =>
    rw [decodeElements] at read
    obtain ⟨item, value, -⟩ := Option.bind_eq_some_iff.mp read
    cases ts with
    | nil => rfl
    | cons token rest =>
      cases token with
      | string body => rfl
      | word bytes => rfl
      | mark b =>
        refine if_neg ?_
        rintro rfl
        cases fuel with
        | zero => exact absurd value (by simp [decodeValue])
        | succ fuel =>
          rw [decodeValue, if_neg (by decide), if_neg (by decide)] at value
          exact absurd value (by simp)

/-- The text put together from sound elements is the array of what they say. -/
theorem denotes_arrayText {first : Element} {rest : List Element} (sound : first.Sound)
    (sounds : ∀ e ∈ rest, e.Sound) :
    Denotes (byte '[' :: (joinElements first rest ++ [byte ']']))
      (.array ((first :: rest).map Element.datum)) := by
  obtain ⟨entries, found, splits, decodes⟩ := exists_tokens_joinElements sound sounds
  have closing : Splits [byte ']'] [.mark (byte ']')] := Bracket.splits_closing .square
  have inner : Splits (joinElements first rest ++ [byte ']']) (found ++ [.mark (byte ']')]) :=
    splits.append closing fun rest _ => Bracket.ends_closing .square rest
  have valid : Text .json .value (Bracket.square.opening ::
      (joinElements first rest ++ [Bracket.square.closing])) := .filled entries
  have tokens : (Token.mark (byte '[') :: (found ++ [.mark (byte ']')])).filter Token.significant =
      .mark (byte '[') :: (found.filter Token.significant ++ [.mark (byte ']')]) := by
    rw [filter_significant_mark (by decide), List.filter_append,
      filter_significant_mark (by decide)]
    rfl
  refine denotes_of_splits valid (inner.mark (by decide) (by decide)) ?_
  generalize room : (List.filter Token.significant _).length = n
  rw [tokens] at room ⊢
  have elements := decodes (2 * n) (by simp at room; omega) []
  rw [decodeValue, if_pos rfl, behindMark_of_decodeElements elements, elements]
  rfl

/-- An empty array or object. -/
theorem denotes_empty (bracket : Bracket) :
    Denotes [bracket.opening, bracket.closing]
      (bracket.rec (.array []) (.object [])) := by
  have noGap : Lexis.json.Gap [] := List.forall_mem_nil _
  have of : TokensOf Lexis.json .value [bracket.opening, bracket.closing]
      [.mark bracket.opening, .mark bracket.closing] := tokensOf_empty bracket noGap
  refine denotes_of_splits (.empty bracket noGap) of.splits ?_
  cases bracket with
  | square => rfl
  | curly => rfl

/-! ## Values -/

mutual

/-- What a value stands for. -/
def Value.said : Value → Datum
  | .null => .null
  | .bool value => .bool value
  | .number n => .number n.value
  | .string chars => .string (Utf8.encode chars)
  | .array items => .array (Value.itemsSaid items)
  | .object members => .object (Value.membersSaid members)

def Value.itemsSaid : List Value → List Datum
  | [] => []
  | item :: rest => item.said :: Value.itemsSaid rest

def Value.membersSaid : List (List Char × Value) → List (List UInt8 × Datum)
  | [] => []
  | (name, value) :: rest => (Utf8.encode name, value.said) :: Value.membersSaid rest

end

section Encoder

variable (encoder : Encoder)

/-- An item to be written. -/
def Value.element (item : Value) : Element := ⟨item.text encoder, item.said⟩

/-- A member to be written. -/
def Value.member (entry : List Char × Value) : Member where
  body := entry.1.flatMap encoder.escape
  text := entry.2.text encoder
  name := Utf8.encode entry.1
  datum := entry.2.said

theorem Value.itemsText_cons (first : Value) (rest : List Value) :
    Value.itemsText encoder (first :: rest) =
      joinElements (first.element encoder) (rest.map (Value.element encoder)) := by
  induction rest generalizing first with
  | nil => rfl
  | cons next rest ih =>
    rw [List.map_cons, joinElements, ← ih]
    rfl

theorem Value.membersText_cons (first : List Char × Value) (rest : List (List Char × Value)) :
    Value.membersText encoder (first :: rest) =
      joinMembers (Value.member encoder first) (rest.map (Value.member encoder)) := by
  induction rest generalizing first with
  | nil => rfl
  | cons next rest ih =>
    rw [List.map_cons, joinMembers, ← ih]
    simp [Value.membersText, Member.written, Value.member, stringText, quoted]

theorem Value.itemsSaid_eq (items : List Value) :
    Value.itemsSaid items = (items.map (Value.element encoder)).map Element.datum := by
  induction items with
  | nil => rfl
  | cons item rest ih => exact congrArg (item.said :: ·) ih

theorem Value.membersSaid_eq (members : List (List Char × Value)) :
    Value.membersSaid members = (members.map (Value.member encoder)).map Member.said := by
  induction members with
  | nil => rfl
  | cons entry rest ih => exact congrArg ((Utf8.encode entry.1, entry.2.said) :: ·) ih

theorem Value.member_sound {entry : List Char × Value}
    (denotes : Denotes (entry.2.text encoder) entry.2.said) :
    (Value.member encoder entry).Sound where
  string := stringBody_text encoder entry.1
  named := decodeBody_text encoder entry.1
  denotes := denotes

theorem denotes_items {items : List Value}
    (sounds : ∀ item ∈ items, Denotes (item.text encoder) item.said) :
    Denotes (byte '[' :: (Value.itemsText encoder items ++ [byte ']']))
      (.array (Value.itemsSaid items)) := by
  cases items with
  | nil => exact denotes_empty .square
  | cons first rest =>
    obtain ⟨denotes, sounds⟩ := List.forall_mem_cons.mp sounds
    have sound : (first.element encoder).Sound := denotes
    rw [Value.itemsText_cons, Value.itemsSaid_eq encoder]
    refine denotes_arrayText sound fun e member => ?_
    obtain ⟨item, listed, rfl⟩ := List.mem_map.mp member
    exact sounds item listed

theorem denotes_members {members : List (List Char × Value)}
    (sounds : ∀ entry ∈ members, Denotes (entry.2.text encoder) entry.2.said) :
    Denotes (byte '{' :: (Value.membersText encoder members ++ [byte '}']))
      (.object (Value.membersSaid members)) := by
  cases members with
  | nil => exact denotes_empty .curly
  | cons first rest =>
    obtain ⟨sound, sounds⟩ := List.forall_mem_cons.mp sounds
    rw [Value.membersText_cons, Value.membersSaid_eq encoder]
    refine denotes_objectText (Value.member_sound encoder sound) fun m member => ?_
    obtain ⟨entry, listed, rfl⟩ := List.mem_map.mp member
    exact Value.member_sound encoder (sounds entry listed)

/-- The words of the grammar. -/
theorem denotes_words : Denotes (lit "null") .null ∧ Denotes (lit "true") (.bool true) ∧
    Denotes (lit "false") (.bool false) := by
  refine ⟨denotes_word (.inl (by decide)) ?_, denotes_word (.inl (by decide)) ?_,
    denotes_word (.inl (by decide)) ?_⟩
  · rw [decodeWord, if_pos rfl]
  · rw [decodeWord, if_neg (by decide), if_pos rfl]
  · rw [decodeWord, if_neg (by decide), if_neg (by decide), if_pos rfl]

mutual

/-- **The compact text of a value says the value.** -/
theorem denotes_text : (v : Value) → Denotes (v.text encoder) v.said
  | .null => denotes_words.1
  | .bool true => denotes_words.2.1
  | .bool false => denotes_words.2.2
  | .number n => denotes_number n
  | .string chars => denotes_stringText encoder chars
  | .array items => denotes_items encoder (denotes_each items)
  | .object members => denotes_members encoder (denotes_eachMember members)

theorem denotes_each : (items : List Value) →
    ∀ item ∈ items, Denotes (item.text encoder) item.said
  | [] => List.forall_mem_nil _
  | item :: rest => List.forall_mem_cons.mpr ⟨denotes_text item, denotes_each rest⟩

theorem denotes_eachMember : (members : List (List Char × Value)) →
    ∀ entry ∈ members, Denotes (entry.2.text encoder) entry.2.said
  | [] => List.forall_mem_nil _
  | (_, value) :: rest => List.forall_mem_cons.mpr ⟨denotes_text value, denotes_eachMember rest⟩

end

end Encoder

end Json

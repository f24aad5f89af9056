/-
# JSON texts

The grammar of JSON with white space, over a choice of what writers and readers disagree
about: the bytes that are blank, the bodies of strings, the words that are values. A text
of one choice is a text of another exactly when its tokens are allowed there, and an
object ends at the same byte whatever the choice.
-/

import CapacityAgent.Library.Json
import CapacityAgent.Library.Search
import Mathlib.Data.List.TakeWhile

namespace Json

open Utf8 (byte lit)

/-! ## Tokens -/

/-- What stands between two quotes, a run of bytes that no mark interrupts, or a mark. -/
inductive Token
  | string (body : List UInt8)
  | word (bytes : List UInt8)
  | mark (b : UInt8)
  deriving DecidableEq

/-- The quote and the brackets. -/
def delimiters : List UInt8 := [byte '"', byte '[', byte ']', byte '{', byte '}']

/-- The bytes of the grammar itself. -/
def marks : List UInt8 := byte ':' :: byte ',' :: delimiters

/-- The bytes that end a word. -/
def isMark (b : UInt8) : Bool := b ≤ 32 || b ∈ marks

/-- A run of bytes that are no marks. -/
def IsWord (bytes : List UInt8) : Prop := bytes ≠ [] ∧ ∀ b ∈ bytes, isMark b = false

/-- The bytes contain no quote but behind a backslash. -/
inductive Closed : List UInt8 → Prop
  | nil : Closed []
  | plain {b : UInt8} {rest : List UInt8} (notQuote : b ≠ byte '"') (notBackslash : b ≠ byte '\\')
      (later : Closed rest) : Closed (b :: rest)
  | escaped (b : UInt8) {rest : List UInt8} (later : Closed rest) : Closed (byte '\\' :: b :: rest)

theorem Closed.append {first second : List UInt8} (closed : Closed first)
    (later : Closed second) : Closed (first ++ second) := by
  induction closed with
  | nil => exact later
  | plain notQuote notBackslash _ ih => exact .plain notQuote notBackslash ih
  | escaped b _ ih => exact .escaped b ih

theorem Closed.of_plain {bytes : List UInt8} (noQuote : byte '"' ∉ bytes)
    (noBackslash : byte '\\' ∉ bytes) : Closed bytes := by
  induction bytes with
  | nil => exact .nil
  | cons b rest ih =>
    obtain ⟨notQuote, noQuote⟩ := not_or.mp (mt List.mem_cons.mpr noQuote)
    obtain ⟨notBackslash, noBackslash⟩ := not_or.mp (mt List.mem_cons.mpr noBackslash)
    exact .plain (Ne.symm notQuote) (Ne.symm notBackslash) (ih noQuote noBackslash)

/-- The bytes between quotes. -/
def quoted (body : List UInt8) : List UInt8 := byte '"' :: (body ++ [byte '"'])

/-- The bytes up to the quote that closes a string. -/
def takeString : List UInt8 → Option (List UInt8)
  | [] => none
  | b :: rest =>
    if b = byte '"' then some []
    else if b = byte '\\' then
      match rest with
      | [] => none
      | escaped :: more => (takeString more).map (b :: escaped :: ·)
    else (takeString rest).map (b :: ·)

theorem takeString_append {body : List UInt8} (closed : Closed body) (rest : List UInt8) :
    takeString (body ++ byte '"' :: rest) = some body := by
  induction closed with
  | nil =>
    rw [List.nil_append, takeString.eq_def]
    rfl
  | plain notQuote notBackslash _ ih =>
    rw [List.cons_append, takeString.eq_def]
    simp only [notQuote, notBackslash, if_false, ih, Option.map_some]
  | escaped b _ ih =>
    rw [List.cons_append, List.cons_append, takeString.eq_def]
    exact congrArg (Option.map _) ih

/-- The token a text begins with, given its first byte. -/
def firstToken (b : UInt8) (rest : List UInt8) : Token :=
  if b = byte '"' then (takeString rest).elim (.mark b) .string
  else if isMark b then .mark b
  else .word ((b :: rest).takeWhile fun c => !isMark c)

/-- The number of bytes behind the first of the token. -/
def Token.behindFirst : Token → ℕ
  | .string body => body.length + 1
  | .word bytes => bytes.length - 1
  | .mark _ => 0

/-- The tokens of a text, after passing over some of its bytes. -/
def tokensFrom : ℕ → List UInt8 → List Token
  | _, [] => []
  | skip + 1, _ :: rest => tokensFrom skip rest
  -- the bytes of the token behind its first are passed over
  | 0, b :: rest => firstToken b rest :: tokensFrom (firstToken b rest).behindFirst rest

/-- The tokens of a text. -/
def tokens (text : List UInt8) : List Token := tokensFrom 0 text

example : tokens (lit "\x7b\"a\\\"\": -1.5e3, \"b\":true\x7d") =
    [.mark (byte '{'), .string (lit "a\\\""), .mark (byte ':'), .mark (byte ' '),
      .word (lit "-1.5e3"), .mark (byte ','), .mark (byte ' '), .string (lit "b"),
      .mark (byte ':'), .word (lit "true"), .mark (byte '}')] := by
  decide +kernel

theorem tokensFrom_length (skipped rest : List UInt8) :
    tokensFrom skipped.length (skipped ++ rest) = tokens rest := by
  induction skipped with
  | nil => rfl
  | cons b later ih => exact ih

/-- The token at the start and those behind it. -/
theorem tokens_cons {b : UInt8} {rest later more : List UInt8} {token : Token}
    (first : firstToken b rest = token) (splits : rest = later ++ more)
    (length : token.behindFirst = later.length) : tokens (b :: rest) = token :: tokens more := by
  have starts : tokens (b :: rest) =
      firstToken b rest :: tokensFrom (firstToken b rest).behindFirst rest := rfl
  rw [starts, first, length, splits, tokensFrom_length]

theorem tokens_quoted {body : List UInt8} (closed : Closed body) (rest : List UInt8) :
    tokens (quoted body ++ rest) = .string body :: tokens rest := by
  have first : firstToken (byte '"') (body ++ byte '"' :: rest) = .string body := by
    rw [firstToken, if_pos rfl, takeString_append closed]
    rfl
  have splits : body ++ byte '"' :: rest = (body ++ [byte '"']) ++ rest := by simp
  have bytes : quoted body ++ rest = byte '"' :: (body ++ byte '"' :: rest) := by simp [quoted]
  rw [bytes]
  exact tokens_cons first splits (by simp [Token.behindFirst])

theorem tokens_mark {b : UInt8} (mark : isMark b = true) (notQuote : b ≠ byte '"')
    (rest : List UInt8) : tokens (b :: rest) = .mark b :: tokens rest := by
  have first : firstToken b rest = .mark b := by rw [firstToken, if_neg notQuote, if_pos mark]
  exact tokens_cons first (List.nil_append rest).symm rfl

theorem isMark_of_le {b : UInt8} (blank : b ≤ 32) : isMark b = true := by simp [isMark, blank]

theorem ne_quote_of_le {b : UInt8} (blank : b ≤ 32) : b ≠ byte '"' := by
  rintro rfl
  exact absurd blank (by decide)

theorem tokens_blanks {gap : List UInt8} (blank : ∀ b ∈ gap, b ≤ 32) (rest : List UInt8) :
    tokens (gap ++ rest) = gap.map .mark ++ tokens rest := by
  induction gap with
  | nil => rfl
  | cons b later ih =>
    have here : b ≤ 32 := blank b List.mem_cons_self
    rw [List.cons_append, tokens_mark (isMark_of_le here) (ne_quote_of_le here),
      ih fun c member => blank c (List.mem_cons_of_mem b member)]
    rfl

/-- No word goes on with these bytes. -/
def Ends (rest : List UInt8) : Prop := ∀ b ∈ rest.head?, isMark b = true

theorem ends_nil : Ends [] := fun _ member => nomatch member

theorem ends_cons {b : UInt8} (mark : isMark b = true) (rest : List UInt8) : Ends (b :: rest) := by
  rintro _ ⟨⟩
  exact mark

theorem Ends.blanks {gap rest : List UInt8} (ends : Ends rest) (blank : ∀ b ∈ gap, b ≤ 32) :
    Ends (gap ++ rest) := by
  cases gap with
  | nil => exact ends
  | cons b later => exact ends_cons (isMark_of_le (blank b List.mem_cons_self)) _

theorem tokens_word {word : List UInt8} (isWord : IsWord word) {rest : List UInt8}
    (ends : Ends rest) : tokens (word ++ rest) = .word word :: tokens rest := by
  obtain ⟨b, later, rfl⟩ := List.exists_cons_of_ne_nil isWord.1
  have noMark : isMark b = false := isWord.2 b List.mem_cons_self
  have notQuote : b ≠ byte '"' := by
    rintro rfl
    exact absurd noMark (by decide)
  -- the run ends with the word, since what follows begins with a mark
  have run : (b :: later ++ rest).takeWhile (fun c => !isMark c) = b :: later :=
    Search.takeWhile_run (by simpa using isWord.2) fun c first => by simp [ends c first]
  have first : firstToken b (later ++ rest) = .word (b :: later) := by
    rw [firstToken, if_neg notQuote, if_neg (by simp [noMark]), ← List.cons_append, run]
  exact tokens_cons first rfl rfl

/-! ## Texts -/

/-- What is blank, what stands between quotes and which words are values. -/
structure Lexis where
  Blank : UInt8 → Prop
  Body : List UInt8 → Prop
  Word : List UInt8 → Prop
  blank_le : ∀ {b}, Blank b → b ≤ 32
  closed : ∀ {body}, Body body → Closed body
  isWord : ∀ {word}, Word word → IsWord word

/-- The bytes are blank. -/
def Lexis.Gap (lexis : Lexis) (gap : List UInt8) : Prop := ∀ b ∈ gap, lexis.Blank b

/-- A token of these texts; the marks that are not blank are all allowed. -/
def Lexis.Allows (lexis : Lexis) : Token → Prop
  | .string body => lexis.Body body
  | .word bytes => lexis.Word bytes
  | .mark b => b ≤ 32 → lexis.Blank b

/-- The two kinds of brackets. -/
inductive Bracket
  | square
  | curly

def Bracket.opening : Bracket → UInt8
  | .square => byte '['
  | .curly => byte '{'

def Bracket.closing : Bracket → UInt8
  | .square => byte ']'
  | .curly => byte '}'

/-- The parts of a text: a value, what stands before a comma or the closing bracket, all that
stands between two brackets that are not empty. -/
inductive Part
  | value
  | entry (bracket : Bracket)
  | entries (bracket : Bracket)

/-- The grammar. -/
inductive Text (lexis : Lexis) : Part → List UInt8 → Prop
  | word {bytes : List UInt8} (word : lexis.Word bytes) : Text lexis .value bytes
  | string {body : List UInt8} (string : lexis.Body body) : Text lexis .value (quoted body)
  | empty (bracket : Bracket) {gap : List UInt8} (blank : lexis.Gap gap) :
      Text lexis .value (bracket.opening :: (gap ++ [bracket.closing]))
  | filled {bracket : Bracket} {inner : List UInt8}
      (entries : Text lexis (.entries bracket) inner) :
      Text lexis .value (bracket.opening :: (inner ++ [bracket.closing]))
  | element {before value after : List UInt8} (blank : lexis.Gap before)
      (text : Text lexis .value value) (blank' : lexis.Gap after) :
      Text lexis (.entry .square) (before ++ (value ++ after))
  | member {before name after element : List UInt8} (blank : lexis.Gap before)
      (string : lexis.Body name) (blank' : lexis.Gap after)
      (text : Text lexis (.entry .square) element) :
      Text lexis (.entry .curly) (before ++ (quoted name ++ (after ++ byte ':' :: element)))
  | last {bracket : Bracket} {entry : List UInt8} (text : Text lexis (.entry bracket) entry) :
      Text lexis (.entries bracket) entry
  | more {bracket : Bracket} {entry later : List UInt8} (text : Text lexis (.entry bracket) entry)
      (entries : Text lexis (.entries bracket) later) :
      Text lexis (.entries bracket) (entry ++ byte ',' :: later)

/-- The text of an object. -/
def IsObject (lexis : Lexis) (text : List UInt8) : Prop :=
  Text lexis .value text ∧ text.head? = some (byte '{')

theorem Lexis.Gap.append {lexis : Lexis} {first second : List UInt8} (blank : lexis.Gap first)
    (blank' : lexis.Gap second) : lexis.Gap (first ++ second) :=
  List.forall_mem_append.mpr ⟨blank, blank'⟩

theorem Text.value_ne_nil {lexis : Lexis} {text : List UInt8} (reads : Text lexis .value text) :
    text ≠ [] := by
  cases reads with
  | word word => exact (lexis.isWord word).1
  | string | empty | filled => exact List.cons_ne_nil _ _

theorem Text.entry_blanks {lexis : Lexis} {gap entry : List UInt8} (blank : lexis.Gap gap)
    {bracket : Bracket} (reads : Text lexis (.entry bracket) entry) :
    Text lexis (.entry bracket) (gap ++ entry) := by
  cases reads with
  | element before text after =>
    rw [← List.append_assoc]
    exact .element (blank.append before) text after
  | member before string after text =>
    rw [← List.append_assoc]
    exact .member (blank.append before) string after text

/-- White space can be put in front of entries. -/
theorem Text.entries_blanks {lexis : Lexis} {gap inner : List UInt8} (blank : lexis.Gap gap)
    {bracket : Bracket} (reads : Text lexis (.entries bracket) inner) :
    Text lexis (.entries bracket) (gap ++ inner) := by
  cases reads with
  | last text => exact .last (text.entry_blanks blank)
  | more text entries =>
    rw [← List.append_assoc]
    exact .more (text.entry_blanks blank) entries

/-! ## The tokens of a text -/

section Tokens

variable {lexis : Lexis}

theorem Lexis.Gap.le {gap : List UInt8} (blank : lexis.Gap gap) : ∀ b ∈ gap, b ≤ 32 :=
  fun b member => lexis.blank_le (blank b member)

/-- In front of whatever ends it, the bytes have these tokens. -/
def Splits (text : List UInt8) (found : List Token) : Prop :=
  ∀ rest, Ends rest → tokens (text ++ rest) = found ++ tokens rest

theorem splits_nil : Splits [] [] := fun _ _ => rfl

theorem Splits.mark {b : UInt8} (mark : isMark b = true) (notQuote : b ≠ byte '"')
    {text : List UInt8} {found : List Token} (splits : Splits text found) :
    Splits (b :: text) (.mark b :: found) := by
  intro rest ends
  rw [List.cons_append, tokens_mark mark notQuote, splits rest ends]
  rfl

theorem Splits.blanks {gap : List UInt8} (blank : lexis.Gap gap) {text : List UInt8}
    {found : List Token} (splits : Splits text found) :
    Splits (gap ++ text) (gap.map .mark ++ found) := by
  intro rest ends
  rw [List.append_assoc, tokens_blanks blank.le, splits rest ends, List.append_assoc]

theorem Splits.quoted {body : List UInt8} (closed : Closed body) {text : List UInt8}
    {found : List Token} (splits : Splits text found) :
    Splits (quoted body ++ text) (.string body :: found) := by
  intro rest ends
  rw [List.append_assoc, tokens_quoted closed, splits rest ends]
  rfl

/-- A text in front of one that ends it. -/
theorem Splits.append {text later : List UInt8} {found others : List Token}
    (splits : Splits text found) (splits' : Splits later others)
    (ends : ∀ rest, Ends rest → Ends (later ++ rest)) :
    Splits (text ++ later) (found ++ others) := by
  intro rest stop
  rw [List.append_assoc, splits _ (ends rest stop), splits' rest stop, List.append_assoc]

theorem Bracket.splits_opening (bracket : Bracket) {text : List UInt8} {found : List Token}
    (splits : Splits text found) :
    Splits (bracket.opening :: text) (.mark bracket.opening :: found) := by
  cases bracket with
  | square => exact splits.mark (by decide) (by decide)
  | curly => exact splits.mark (by decide) (by decide)

theorem Bracket.splits_closing (bracket : Bracket) :
    Splits [bracket.closing] [.mark bracket.closing] := by
  cases bracket with
  | square => exact splits_nil.mark (by decide) (by decide)
  | curly => exact splits_nil.mark (by decide) (by decide)

theorem Bracket.ends_closing (bracket : Bracket) (rest : List UInt8) :
    Ends ([bracket.closing] ++ rest) := by
  cases bracket with
  | square => exact ends_cons (by decide) rest
  | curly => exact ends_cons (by decide) rest

theorem Lexis.allows_of_lt {b : UInt8} (visible : 32 < b) : lexis.Allows (.mark b) :=
  fun blank => absurd visible (UInt8.not_lt.mpr blank)

theorem Bracket.allows (bracket : Bracket) :
    lexis.Allows (.mark bracket.opening) ∧ lexis.Allows (.mark bracket.closing) := by
  cases bracket with
  | square => exact ⟨Lexis.allows_of_lt (by decide), Lexis.allows_of_lt (by decide)⟩
  | curly => exact ⟨Lexis.allows_of_lt (by decide), Lexis.allows_of_lt (by decide)⟩

theorem Lexis.Gap.allows {gap : List UInt8} (blank : lexis.Gap gap) :
    ∀ token ∈ gap.map Token.mark, lexis.Allows token := by
  intro token member
  obtain ⟨b, here, rfl⟩ := List.mem_map.mp member
  exact fun _ => blank b here

/-- A gap whose marks another choice allows is a gap there. -/
theorem Lexis.Gap.of_allows {gap : List UInt8} (blank : lexis.Gap gap) {other : Lexis}
    (allowed : ∀ token ∈ gap.map Token.mark, other.Allows token) : other.Gap gap :=
  fun b member => allowed (.mark b) (List.mem_map_of_mem member) (blank.le b member)

/-- The tokens of a text, in front of whatever ends it: they are allowed, and the text is one
of any choice that allows them. -/
structure TokensOf (lexis : Lexis) (part : Part) (text : List UInt8) (found : List Token) :
    Prop where
  splits : Splits text found
  allowed : ∀ token ∈ found, lexis.Allows token
  transfers : ∀ other : Lexis, (∀ token ∈ found, other.Allows token) → Text other part text

theorem tokensOf_word {bytes : List UInt8} (word : lexis.Word bytes) :
    TokensOf lexis .value bytes [.word bytes] where
  splits _ ends := tokens_word (lexis.isWord word) ends
  allowed := List.forall_mem_singleton.mpr word
  transfers _ allowed := .word (allowed (.word bytes) List.mem_cons_self)

theorem tokensOf_string {body : List UInt8} (string : lexis.Body body) :
    TokensOf lexis .value (quoted body) [.string body] where
  splits rest _ := tokens_quoted (lexis.closed string) rest
  allowed := List.forall_mem_singleton.mpr string
  transfers _ allowed := .string (allowed (.string body) List.mem_cons_self)

theorem tokensOf_empty (bracket : Bracket) {gap : List UInt8} (blank : lexis.Gap gap) :
    TokensOf lexis .value (bracket.opening :: (gap ++ [bracket.closing]))
      (.mark bracket.opening :: (gap.map .mark ++ [.mark bracket.closing])) where
  splits := bracket.splits_opening (.blanks blank bracket.splits_closing)
  allowed := List.forall_mem_cons.mpr ⟨bracket.allows.1,
    List.forall_mem_append.mpr ⟨blank.allows, List.forall_mem_singleton.mpr bracket.allows.2⟩⟩
  transfers other allowed := by
    obtain ⟨inside, -⟩ := List.forall_mem_append.mp (List.forall_mem_cons.mp allowed).2
    exact .empty bracket (blank.of_allows inside)

theorem TokensOf.filled {bracket : Bracket} {inner : List UInt8} {found : List Token}
    (of : TokensOf lexis (.entries bracket) inner found) :
    TokensOf lexis .value (bracket.opening :: (inner ++ [bracket.closing]))
      (.mark bracket.opening :: (found ++ [.mark bracket.closing])) where
  splits := bracket.splits_opening
    (of.splits.append bracket.splits_closing fun rest _ => bracket.ends_closing rest)
  allowed := List.forall_mem_cons.mpr ⟨bracket.allows.1,
    List.forall_mem_append.mpr ⟨of.allowed, List.forall_mem_singleton.mpr bracket.allows.2⟩⟩
  transfers other allowed := by
    obtain ⟨inside, -⟩ := List.forall_mem_append.mp (List.forall_mem_cons.mp allowed).2
    exact .filled (of.transfers other inside)

theorem TokensOf.element {before value after : List UInt8} {found : List Token}
    (blank : lexis.Gap before) (of : TokensOf lexis .value value found)
    (blank' : lexis.Gap after) :
    TokensOf lexis (.entry .square) (before ++ (value ++ after))
      (before.map .mark ++ (found ++ after.map .mark)) where
  splits := by
    have behind : Splits after (after.map .mark) := by simpa using splits_nil.blanks blank'
    exact .blanks blank (of.splits.append behind fun rest ends => ends.blanks blank'.le)
  allowed := List.forall_mem_append.mpr
    ⟨blank.allows, List.forall_mem_append.mpr ⟨of.allowed, blank'.allows⟩⟩
  transfers other allowed := by
    obtain ⟨here, later⟩ := List.forall_mem_append.mp allowed
    obtain ⟨inside, there⟩ := List.forall_mem_append.mp later
    exact .element (blank.of_allows here) (of.transfers other inside) (blank'.of_allows there)

theorem TokensOf.member {before name after element : List UInt8} {found : List Token}
    (blank : lexis.Gap before) (string : lexis.Body name) (blank' : lexis.Gap after)
    (of : TokensOf lexis (.entry .square) element found) :
    TokensOf lexis (.entry .curly) (before ++ (quoted name ++ (after ++ byte ':' :: element)))
      (before.map .mark ++ .string name :: (after.map .mark ++ .mark (byte ':') :: found)) where
  splits := .blanks blank (.quoted (lexis.closed string)
    (.blanks blank' (of.splits.mark (by decide) (by decide))))
  allowed := List.forall_mem_append.mpr ⟨blank.allows, List.forall_mem_cons.mpr
    ⟨(string : lexis.Allows (.string name)), List.forall_mem_append.mpr ⟨blank'.allows,
      List.forall_mem_cons.mpr ⟨Lexis.allows_of_lt (by decide), of.allowed⟩⟩⟩⟩
  transfers other allowed := by
    obtain ⟨here, later⟩ := List.forall_mem_append.mp allowed
    obtain ⟨named, later⟩ := List.forall_mem_cons.mp later
    obtain ⟨there, later⟩ := List.forall_mem_append.mp later
    exact .member (blank.of_allows here) named (blank'.of_allows there)
      (of.transfers other (List.forall_mem_cons.mp later).2)

theorem TokensOf.last {bracket : Bracket} {entry : List UInt8} {found : List Token}
    (of : TokensOf lexis (.entry bracket) entry found) :
    TokensOf lexis (.entries bracket) entry found where
  splits := of.splits
  allowed := of.allowed
  transfers other allowed := .last (of.transfers other allowed)

theorem TokensOf.more {bracket : Bracket} {entry later : List UInt8} {found others : List Token}
    (of : TokensOf lexis (.entry bracket) entry found)
    (of' : TokensOf lexis (.entries bracket) later others) :
    TokensOf lexis (.entries bracket) (entry ++ byte ',' :: later)
      (found ++ .mark (byte ',') :: others) where
  splits := of.splits.append (of'.splits.mark (by decide) (by decide)) fun _ _ =>
    ends_cons (by decide) _
  allowed := List.forall_mem_append.mpr
    ⟨of.allowed, List.forall_mem_cons.mpr ⟨Lexis.allows_of_lt (by decide), of'.allowed⟩⟩
  transfers other allowed := by
    obtain ⟨here, later⟩ := List.forall_mem_append.mp allowed
    exact .more (of.transfers other here)
      (of'.transfers other (List.forall_mem_cons.mp later).2)

theorem Text.exists_tokensOf {part : Part} {text : List UInt8} (reads : Text lexis part text) :
    ∃ found, TokensOf lexis part text found := by
  -- over the grammar, the tokens of the parts side by side
  induction reads with
  | word word => exact ⟨_, tokensOf_word word⟩
  | string string => exact ⟨_, tokensOf_string string⟩
  | empty bracket blank => exact ⟨_, tokensOf_empty bracket blank⟩
  | filled entries ih => exact ih.elim fun _ of => ⟨_, of.filled⟩
  | element blank text blank' ih => exact ih.elim fun _ of => ⟨_, .element blank of blank'⟩
  | member blank string blank' text ih =>
    exact ih.elim fun _ of => ⟨_, .member blank string blank' of⟩
  | last text ih => exact ih.imp fun _ of => of.last
  | more text entries ih ih' =>
    obtain ⟨found, of⟩ := ih
    obtain ⟨others, of'⟩ := ih'
    exact ⟨_, of.more of'⟩

/-- A text of one choice is a text of another exactly when its tokens are allowed there. -/
theorem Text.of_other_iff {part : Part} {text : List UInt8} (reads : Text lexis part text)
    (other : Lexis) : Text other part text ↔ ∀ token ∈ tokens text, other.Allows token := by
  have whole : ∀ {choice found}, TokensOf choice part text found → tokens text = found := by
    intro choice found of
    -- nothing follows, and nothing ends a word
    simpa [tokens, tokensFrom] using of.splits [] ends_nil
  constructor
  · intro reads'
    obtain ⟨found, of⟩ := reads'.exists_tokensOf
    exact (whole of).symm ▸ of.allowed
  · intro allowed
    obtain ⟨found, of⟩ := reads.exists_tokensOf
    exact of.transfers other (whole of ▸ allowed)

end Tokens

/-! ## Where an object ends -/

section Ends

variable {lexis : Lexis}

/-- What follows the bracket that closes, in or outside of a string and with some more
brackets open. -/
def behindBracket : Bool → ℕ → List UInt8 → Option (List UInt8)
  | _, _, [] => none
  | true, depth, b :: rest =>
    if b = byte '"' then behindBracket false depth rest
    else if b = byte '\\' then
      match rest with
      | [] => none
      | _ :: more => behindBracket true depth more
    else behindBracket true depth rest
  | false, depth, b :: rest =>
    if b = byte '"' then behindBracket true depth rest
    else if b = byte '[' ∨ b = byte '{' then behindBracket false (depth + 1) rest
    else if b = byte ']' ∨ b = byte '}' then
      match depth with
      -- the kinds of brackets are not told apart
      | 0 => some rest
      | depth + 1 => behindBracket false depth rest
    else behindBracket false depth rest

theorem behindBracket_body {body : List UInt8} (closed : Closed body) (depth : ℕ)
    (rest : List UInt8) :
    behindBracket true depth (body ++ byte '"' :: rest) = behindBracket false depth rest := by
  induction closed with
  | nil =>
    rw [List.nil_append, behindBracket.eq_def]
    rfl
  | plain notQuote notBackslash _ ih =>
    rw [List.cons_append, behindBracket.eq_def]
    simp only [notQuote, notBackslash, if_false, ih]
  | escaped b _ ih =>
    rw [List.cons_append, List.cons_append, behindBracket.eq_def]
    exact ih

theorem behindBracket_quoted {body : List UInt8} (closed : Closed body) (depth : ℕ)
    (rest : List UInt8) :
    behindBracket false depth (quoted body ++ rest) = behindBracket false depth rest := by
  have bytes : quoted body ++ rest = byte '"' :: (body ++ byte '"' :: rest) := by simp [quoted]
  rw [bytes, behindBracket.eq_def]
  exact behindBracket_body closed depth rest

/-- Neither a quote nor a bracket. -/
def Flat (bytes : List UInt8) : Prop := ∀ b ∈ bytes, b ∉ delimiters

instance : DecidablePred Flat := fun bytes =>
  List.decidableBAll (fun b : UInt8 => b ∉ delimiters) bytes

theorem behindBracket_flat {bytes : List UInt8} (flat : Flat bytes) (depth : ℕ)
    (rest : List UInt8) :
    behindBracket false depth (bytes ++ rest) = behindBracket false depth rest := by
  induction bytes with
  | nil => rfl
  | cons b later ih =>
    have other : b ∉ delimiters := flat b List.mem_cons_self
    simp only [delimiters, List.mem_cons, List.not_mem_nil, or_false, not_or] at other
    obtain ⟨notQuote, notOpen, notClose, notOpen', notClose'⟩ := other
    rw [List.cons_append, behindBracket.eq_def]
    simp only [notQuote, notOpen, notClose, notOpen', notClose', or_self, if_false]
    exact ih fun c member => flat c (List.mem_cons_of_mem b member)

theorem Lexis.Gap.flat {gap : List UInt8} (blank : lexis.Gap gap) : Flat gap := by
  intro b member bracket
  have visible : ∀ c ∈ delimiters, ¬ c ≤ 32 := by decide +kernel
  exact visible b bracket (blank.le b member)

theorem flat_of_isWord {bytes : List UInt8} (isWord : IsWord bytes) : Flat bytes := by
  intro b member bracket
  have marks : ∀ c ∈ delimiters, isMark c = true := by decide +kernel
  exact absurd (marks b bracket) (by simp [isWord.2 b member])

theorem Bracket.behindBracket_opening (bracket : Bracket) (depth : ℕ) (rest : List UInt8) :
    behindBracket false depth (bracket.opening :: rest) = behindBracket false (depth + 1) rest := by
  cases bracket <;> (rw [behindBracket.eq_def]; rfl)

theorem Bracket.behindBracket_closing (bracket : Bracket) (depth : ℕ) (rest : List UInt8) :
    behindBracket false (depth + 1) (bracket.closing :: rest) = behindBracket false depth rest := by
  cases bracket <;> (rw [behindBracket.eq_def]; rfl)

/-- A text closes every bracket that it opens. -/
theorem Text.behindBracket_append {part : Part} {text : List UInt8} (reads : Text lexis part text)
    (depth : ℕ) (rest : List UInt8) :
    behindBracket false depth (text ++ rest) = behindBracket false depth rest := by
  induction reads generalizing depth rest with
  | word word => exact behindBracket_flat (flat_of_isWord (lexis.isWord word)) depth rest
  | string string => exact behindBracket_quoted (lexis.closed string) depth rest
  | empty bracket blank =>
    rw [List.cons_append, bracket.behindBracket_opening, List.append_assoc,
      behindBracket_flat blank.flat]
    exact bracket.behindBracket_closing depth rest
  | @filled bracket inner entries ih =>
    rw [List.cons_append, bracket.behindBracket_opening, List.append_assoc, ih]
    exact bracket.behindBracket_closing depth rest
  | element blank text blank' ih =>
    rw [List.append_assoc, behindBracket_flat blank.flat, List.append_assoc, ih,
      behindBracket_flat blank'.flat]
  | @member before name after element blank string blank' text ih =>
    have colon : Flat [byte ':'] := by decide
    have bytes : before ++ (quoted name ++ (after ++ byte ':' :: element)) ++ rest =
        before ++ (quoted name ++ (after ++ ([byte ':'] ++ (element ++ rest)))) := by simp
    rw [bytes, behindBracket_flat blank.flat, behindBracket_quoted (lexis.closed string),
      behindBracket_flat blank'.flat, behindBracket_flat colon, ih]
  | last text ih => exact ih depth rest
  | @more bracket entry later text entries ih ih' =>
    have comma : Flat [byte ','] := by decide
    have bytes : entry ++ byte ',' :: later ++ rest = entry ++ ([byte ','] ++ (later ++ rest)) := by
      simp
    rw [bytes, ih, behindBracket_flat comma, ih']

theorem IsObject.exists_inner {text : List UInt8} (object : IsObject lexis text) :
    ∃ inner, text = byte '{' :: (inner ++ [byte '}']) ∧
      ∀ rest, behindBracket false 0 (inner ++ byte '}' :: rest) = some rest := by
  obtain ⟨reads, head⟩ := object
  -- only a text in curly brackets begins with a brace
  cases reads with
  | word word =>
    obtain ⟨b, later, rfl⟩ := List.exists_cons_of_ne_nil (lexis.isWord word).1
    obtain rfl : b = byte '{' := Option.some.inj head
    exact absurd ((lexis.isWord word).2 _ List.mem_cons_self) (by decide)
  | string string => exact absurd (Option.some.inj head) (by decide)
  | @empty bracket gap blank =>
    cases bracket with
    | square => exact absurd (Option.some.inj head) (by decide)
    | curly =>
      refine ⟨gap, rfl, fun rest => ?_⟩
      rw [behindBracket_flat blank.flat, behindBracket.eq_def]
      rfl
  | @filled bracket inner entries =>
    cases bracket with
    | square => exact absurd (Option.some.inj head) (by decide)
    | curly =>
      refine ⟨inner, rfl, fun rest => ?_⟩
      rw [entries.behindBracket_append, behindBracket.eq_def]
      rfl

/-- **Bytes begin with the text of at most one object.** -/
theorem IsObject.unique {lexis' : Lexis} {first second left left' : List UInt8}
    (object : IsObject lexis first) (object' : IsObject lexis' second)
    (same : first ++ left = second ++ left') : first = second ∧ left = left' := by
  obtain ⟨inner, rfl, ends⟩ := object.exists_inner
  obtain ⟨inner', rfl, ends'⟩ := object'.exists_inner
  have insides : inner ++ byte '}' :: left = inner' ++ byte '}' :: left' := by simpa using same
  -- both end where the first brace is closed
  have rests : left = left' := Option.some.inj ((ends left).symm.trans (insides ▸ ends' left'))
  subst rests
  exact ⟨List.append_cancel_right same, rfl⟩

end Ends

end Json

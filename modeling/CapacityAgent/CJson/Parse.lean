/-
# The cJSON parser

`cJSON_Parse` and the accessors the agent uses, on the bytes of a C string with its
terminator. The functions take the part of the buffer that is left, so a bounds
check is a question about its length. A number is what a `double` holds of the decimal
written.
-/

import CapacityAgent.Messages
import CapacityAgent.Library.Binary64
import CapacityAgent.Library.Json

namespace CapacityAgent.CJson

/-! ## Items -/

/-- A parsed value; the children of an object carry their names. -/
inductive Item
  | null
  | bool (value : Bool)
  | number (valuedouble : Double)
  | string (valuestring : CStr)
  | array (children : List Item)
  | object (children : List (CStr × Item))

/-- `cJSON_GetObjectItemCaseSensitive`. -/
def getObjectItemCaseSensitive : Item → CStr → Option Item
  | .object children, name => (children.find? fun child => child.1 = name).map Prod.snd
  | _, _ => none

/-- A `double` as an integer, truncated. -/
def truncate (value : Double) : ℤ := value.num.tdiv value.den

/-- `valueint`, which saturates. -/
def valueint (valuedouble : Double) : ℤ :=
  if valuedouble ≥ 2147483647 then 2147483647
  else if valuedouble ≤ -2147483648 then -2147483648
  else truncate valuedouble

/-! ## White space -/

/-- `buffer_skip_whitespace`; at the end of the buffer it steps back to the last byte. -/
def skipWhitespace (rest : Bytes) : Bytes :=
  match rest.dropWhile (· ≤ 32) with
  -- only white space is left
  | [] => rest.getLast?.toList
  | next :: more => next :: more

/-- `skip_utf8_bom`, at the start of the buffer. -/
def skipUtf8Bom (content : Bytes) : Bytes :=
  if 4 < content.length ∧ content.take 3 = [0xEF, 0xBB, 0xBF] then content.drop 3 else content

/-! ## Numbers -/

def isDigit (b : UInt8) : Bool := byte '0' ≤ b && b ≤ byte '9'

/-- The bytes `parse_number` copies for `strtod`. -/
def isNumberByte (b : UInt8) : Bool :=
  isDigit b || b == byte '+' || b == byte '-' || b == byte 'e' || b == byte 'E' || b == byte '.'

/-- The digits of digit bytes. -/
def digitsOf (bytes : Bytes) : List Json.Digit := bytes.map fun b => Fin.ofNat 10 (b.toNat - 48)

/-- An optional sign: whether it is a minus, and what follows. -/
def takeSign (s : Bytes) : Bool × Bytes :=
  match s with
  | b :: rest =>
    if b = byte '-' then (true, rest) else if b = byte '+' then (false, rest) else (false, s)
  | [] => (false, [])

/-- The digits after a decimal point, and what follows; the point may stand alone. -/
def takeFraction (s : Bytes) : Bytes × Bytes :=
  match s with
  | b :: rest => if b = byte '.' then (rest.takeWhile isDigit, rest.dropWhile isDigit) else ([], s)
  | [] => ([], [])

/-- The exponent, and what follows; without digits there is none. -/
def takeExponent (s : Bytes) : ℤ × Bytes :=
  match s with
  | b :: rest =>
    let signed := takeSign rest
    let digits := signed.2.takeWhile isDigit
    if (b = byte 'e' ∨ b = byte 'E') ∧ digits ≠ [] then
      let exponent : ℤ := Json.digitsValue (digitsOf digits)
      (if signed.1 then -exponent else exponent, signed.2.dropWhile isDigit)
    else (0, s)
  | [] => (0, [])

/-- `strtod` on the bytes of numbers: what a `double` holds of the longest prefix that is a
number, and what follows it. -/
def strtod (s : Bytes) : Option (Double × Bytes) :=
  let signed := takeSign s
  let whole := signed.2.takeWhile isDigit
  let point := takeFraction (signed.2.dropWhile isDigit)
  let power := takeExponent point.2
  if whole = [] ∧ point.1 = [] then none
  else
    let decimal := Json.Number.decimal signed.1 (digitsOf whole) (digitsOf point.1) power.1
    some (Binary64.held decimal, power.2)

/-- `parse_number`, which hands at most 63 bytes to `strtod`. -/
def parseNumber (rest : Bytes) : Option (Double × Bytes) :=
  -- the buffer of 64 bytes keeps one for the terminator
  let numberCString := (rest.take 63).takeWhile isNumberByte
  match strtod numberCString with
  | none => none
  | some (number, left) => some (number, rest.drop (numberCString.length - left.length))

/-! ## Strings -/

def hexValue (b : UInt8) : Option ℕ :=
  if byte '0' ≤ b ∧ b ≤ byte '9' then some (b.toNat - 48)
  else if byte 'A' ≤ b ∧ b ≤ byte 'F' then some (10 + b.toNat - 65)
  else if byte 'a' ≤ b ∧ b ≤ byte 'f' then some (10 + b.toNat - 97)
  else none

/-- `parse_hex4`; an invalid digit makes it 0. -/
def parseHex4 (input : Bytes) : ℕ :=
  match (input.take 4).mapM hexValue with
  | some digits => digits.foldl (fun h digit => (h <<< 4) + digit) 0
  | none => 0

/-- A byte after the first of a UTF-8 sequence. -/
def continuationByte (codepoint : ℕ) : UInt8 := ((codepoint ||| 0x80) &&& 0xBF).toUInt8

/-- The first byte of a UTF-8 sequence of several. -/
def leadingByte (codepoint firstByteMark : ℕ) : UInt8 :=
  ((codepoint ||| firstByteMark) &&& 0xFF).toUInt8

/-- The end of `utf16_literal_to_utf8`, where the code point is encoded. -/
def encodeAsUtf8 (codepoint : ℕ) : Option Bytes :=
  if codepoint < 0x80 then some [(codepoint &&& 0x7F).toUInt8]
  else if codepoint < 0x800 then
    some [leadingByte (codepoint >>> 6) 0xC0, continuationByte codepoint]
  else if codepoint < 0x10000 then
    some [leadingByte (codepoint >>> 6 >>> 6) 0xE0, continuationByte (codepoint >>> 6),
      continuationByte codepoint]
  else if codepoint ≤ 0x10FFFF then
    some [leadingByte (codepoint >>> 6 >>> 6 >>> 6) 0xF0, continuationByte (codepoint >>> 6 >>> 6),
      continuationByte (codepoint >>> 6), continuationByte codepoint]
  else none

/-- `utf16_literal_to_utf8` on what is left of the string's body: the bytes written
and the length of the sequence read. -/
def utf16LiteralToUtf8 (input : Bytes) : Option (Bytes × ℕ) :=
  if input.length < 6 then none
  else
    let firstCode := parseHex4 (input.drop 2)
    -- a low surrogate cannot come first, a high one cannot come alone
    if 0xDC00 ≤ firstCode ∧ firstCode ≤ 0xDFFF then none
    else if 0xD800 ≤ firstCode ∧ firstCode ≤ 0xDBFF then
      let secondSequence := input.drop 6
      if secondSequence.length < 6 then none
      else if secondSequence.take 2 ≠ [byte '\\', byte 'u'] then none
      else
        let secondCode := parseHex4 (secondSequence.drop 2)
        if secondCode < 0xDC00 ∨ 0xDFFF < secondCode then none
        else
          (encodeAsUtf8
            (0x10000 + (((firstCode &&& 0x3FF) <<< 10) ||| (secondCode &&& 0x3FF)))).map (·, 12)
    else (encodeAsUtf8 firstCode).map (·, 6)

/-- An escape sequence at the start of the input: the bytes written and its length. -/
def escapeSequence (input : Bytes) : Option (Bytes × ℕ) :=
  match input with
  | _ :: letter :: _ =>
    if letter = byte 'b' then some ([8], 2)
    else if letter = byte 'f' then some ([12], 2)
    else if letter = byte 'n' then some ([10], 2)
    else if letter = byte 'r' then some ([13], 2)
    else if letter = byte 't' then some ([9], 2)
    else if letter = byte '"' ∨ letter = byte '\\' ∨ letter = byte '/' then some ([letter], 2)
    else if letter = byte 'u' then utf16LiteralToUtf8 input
    else none
  | _ => none

/-- The loop of `parse_string` over the body, which first passes over the bytes an
escape sequence has read. -/
def unescapeFrom : ℕ → Bytes → Option Bytes
  | _, [] => some []
  | skip + 1, _ :: rest => unescapeFrom skip rest
  | 0, b :: rest =>
    if b ≠ byte '\\' then (unescapeFrom 0 rest).map (b :: ·)
    else
      match escapeSequence (b :: rest) with
      | none => none
      | some (bytes, length) => (unescapeFrom (length - 1) rest).map (bytes ++ ·)

/-- The body up to the closing quote, and what follows the quote. -/
def stringBody : Bytes → Option (Bytes × Bytes)
  | [] => none
  | b :: rest =>
    if b = byte '"' then some ([], rest)
    else if b = byte '\\' then
      match rest with
      | [] => none
      | escaped :: more => (stringBody more).map fun found => (b :: escaped :: found.1, found.2)
    else (stringBody rest).map fun found => (b :: found.1, found.2)

/-- `parse_string`; the output is a C string. -/
def parseString : Bytes → Option (CStr × Bytes)
  -- an escaped byte is passed over, so an escaped quote ends nothing
  | [] => none
  | b :: rest =>
    if b ≠ byte '"' then none
    else
      match stringBody rest with
      | none => none
      | some (body, left) =>
        match unescapeFrom 0 body with
        | none => none
        | some output => some (CStr.ofBytes output, left)

/-! ## Values -/

/-- `CJSON_NESTING_LIMIT`. -/
def nestingLimit : ℕ := 1000

mutual

/-- `parse_value`, at a nesting depth; the first argument bounds the recursion. -/
def parseValue : ℕ → ℕ → Bytes → Option (Item × Bytes)
  | 0, _, _ => none
  | fuel + 1, depth, rest =>
    -- the literals are compared as prefixes; what follows them is not looked at
    if rest.take 4 = lit "null" then some (.null, rest.drop 4)
    else if rest.take 5 = lit "false" then some (.bool false, rest.drop 5)
    else if rest.take 4 = lit "true" then some (.bool true, rest.drop 4)
    else
      match rest with
      | [] => none
      | first :: inner =>
        if first = byte '"' then
          (parseString (first :: inner)).map fun parsed => (.string parsed.1, parsed.2)
        else if first = byte '-' ∨ isDigit first then
          (parseNumber (first :: inner)).map fun parsed => (.number parsed.1, parsed.2)
        else if first = byte '[' then
          -- `parse_array`
          if nestingLimit ≤ depth then none
          else
            match skipWhitespace inner with
            | [] => none
            | next :: more =>
              if next = byte ']' then some (.array [], more)
              else
                (parseElements fuel (depth + 1) (next :: more)).map fun parsed =>
                  (.array parsed.1, parsed.2)
        else if first = byte '{' then
          -- `parse_object`
          if nestingLimit ≤ depth then none
          else
            match skipWhitespace inner with
            | [] => none
            | next :: more =>
              if next = byte '}' then some (.object [], more)
              else
                (parseMembers fuel (depth + 1) (next :: more)).map fun parsed =>
                  (.object parsed.1, parsed.2)
        else none

/-- The loop of `parse_array`, up to the closing bracket. -/
def parseElements : ℕ → ℕ → Bytes → Option (List Item × Bytes)
  | 0, _, _ => none
  | fuel + 1, depth, rest =>
    match parseValue fuel depth (skipWhitespace rest) with
    | none => none
    | some (item, after) =>
      match skipWhitespace after with
      | [] => none
      | next :: more =>
        if next = byte ',' then
          (parseElements fuel depth more).map fun parsed => (item :: parsed.1, parsed.2)
        else if next = byte ']' then some ([item], more)
        else none

/-- The loop of `parse_object`, up to the closing brace. -/
def parseMembers : ℕ → ℕ → Bytes → Option (List (CStr × Item) × Bytes)
  | 0, _, _ => none
  | fuel + 1, depth, rest =>
    match parseString (skipWhitespace rest) with
    | none => none
    | some (name, afterName) =>
      match skipWhitespace afterName with
      | [] => none
      | colon :: value =>
        if colon ≠ byte ':' then none
        else
          match parseValue fuel depth (skipWhitespace value) with
          | none => none
          | some (item, after) =>
            match skipWhitespace after with
            | [] => none
            | next :: more =>
              if next = byte ',' then
                (parseMembers fuel depth more).map fun parsed =>
                  ((name, item) :: parsed.1, parsed.2)
              else if next = byte '}' then some ([(name, item)], more)
              else none

end

/-- The buffer of a C string: its bytes and the terminator. -/
def content (value : CStr) : Bytes := value.bytes ++ [0]

/-- `cJSON_Parse`; what follows the value is not looked at. -/
def parse (value : CStr) : Option Item :=
  (parseValue (2 * (content value).length) 0 (skipWhitespace (skipUtf8Bom (content value)))).map
    Prod.fst

end CapacityAgent.CJson

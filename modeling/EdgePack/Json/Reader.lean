import EdgePack.Json.Value
import EdgePack.Float.Text
import EdgePack.Text.Quoted

/-!
# Reading JSON text

A reader walks the UTF-8 bytes of a JSON text once, left to right, and says
where it stopped when it fails: the line and the column, counted in bytes from
the start of the line. A syntax error found by looking at the next byte points
at that byte (`peekError`); one found after taking a byte points just past it
(`failAt`). An error about the data rather than the syntax (a missing field, a
value of the wrong kind) has no position of its own and takes the one where
the reader stands when it is reported (`fixPosition`).

Numbers follow the grammar of JSON. An integer that fits in 64 bits keeps its
kind; any other number becomes a double, from a significand of at most 64 bits
(further digits are dropped) scaled by a power of ten in double arithmetic.
Nesting deeper than 127 levels is refused.

* `Json.parse` reads a whole document as a `Json` value;
* the primitives (`readU64`, `readString`, `readBool`, `readSeq`, the map
  walkers) read typed data in the same pass, for decoders of fixed schemas.
-/

namespace EdgePack.Json

/-- Why a JSON text could not be read. -/
inductive ErrorCode where
  | eofWhileParsingList
  | eofWhileParsingObject
  | eofWhileParsingString
  | eofWhileParsingValue
  | expectedColon
  | expectedListCommaOrEnd
  | expectedObjectCommaOrEnd
  | expectedSomeIdent
  | expectedSomeValue
  | invalidEscape
  | invalidNumber
  | numberOutOfRange
  | invalidUnicodeCodePoint
  | controlCharacterWhileParsingString
  | keyMustBeAString
  | loneLeadingSurrogateInHexEscape
  | trailingComma
  | trailingCharacters
  | unexpectedEndOfHexEscape
  | recursionLimitExceeded
  /-- A complaint about the data, in words. -/
  | data (text : String)
  deriving Inhabited, DecidableEq

/-- The words for an error code. -/
def ErrorCode.text : ErrorCode → String
  | .eofWhileParsingList => "EOF while parsing a list"
  | .eofWhileParsingObject => "EOF while parsing an object"
  | .eofWhileParsingString => "EOF while parsing a string"
  | .eofWhileParsingValue => "EOF while parsing a value"
  | .expectedColon => "expected `:`"
  | .expectedListCommaOrEnd => "expected `,` or `]`"
  | .expectedObjectCommaOrEnd => "expected `,` or `\x7d`"
  | .expectedSomeIdent => "expected ident"
  | .expectedSomeValue => "expected value"
  | .invalidEscape => "invalid escape"
  | .invalidNumber => "invalid number"
  | .numberOutOfRange => "number out of range"
  | .invalidUnicodeCodePoint => "invalid unicode code point"
  | .controlCharacterWhileParsingString =>
    "control character (\\u0000-\\u001F) found while parsing a string"
  | .keyMustBeAString => "key must be a string"
  | .loneLeadingSurrogateInHexEscape => "lone leading surrogate in hex escape"
  | .trailingComma => "trailing comma"
  | .trailingCharacters => "trailing characters"
  | .unexpectedEndOfHexEscape => "unexpected end of hex escape"
  | .recursionLimitExceeded => "recursion limit exceeded"
  | .data t => t

/-- A reading error and, once known, its line and column. -/
structure Error where
  code : ErrorCode
  pos : Option (Nat × Nat) := none
  deriving Inhabited

/-- The text of an error: its words, then where it happened. -/
def Error.message (e : Error) : String :=
  match e.pos with
  | some (l, c) => e.code.text ++ s!" at line {l} column {c}"
  | none => e.code.text

/-- A reader: the text as bytes, the index of the next byte, and failure. -/
abbrev ReadM := ReaderT ByteArray (ExceptT Error (StateM Nat))

/-- The line and column of a byte index: lines from 1, columns as the bytes
    before the index on its line. -/
def positionOf (bytes : ByteArray) (i : Nat) : Nat × Nat :=
  let before := (bytes.extract 0 i).toList
  let lineStart := before.length - (before.reverse.takeWhile (· != 10)).length
  (1 + (before.take lineStart).count 10, i - lineStart)

/-- The next byte, left in place. -/
def peek? : ReadM (Option UInt8) := do
  let b ← read
  let i ← get
  pure (if h : i < b.size then some b[i] else none)

/-- Moves past one byte. -/
def eat : ReadM Unit := modify (· + 1)

/-- Takes the next byte. -/
def next? : ReadM (Option UInt8) := do
  let c ← peek?
  if c.isSome then eat
  pure c

/-- Fails with a position just past the bytes taken. -/
def failAt (code : ErrorCode) : ReadM α := do
  let b ← read
  let i ← get
  throw { code, pos := some (positionOf b i) }

/-- Fails with a position at the next byte. -/
def peekError (code : ErrorCode) : ReadM α := do
  let b ← read
  let i ← get
  throw { code, pos := some (positionOf b (min b.size (i + 1))) }

/-- Gives an error without a position the one where the reader stands. -/
def fixPosition (e : Error) : ReadM α := do
  match e.pos with
  | some _ => throw e
  | none =>
    let b ← read
    let i ← get
    throw { e with pos := some (positionOf b i) }

/-- Runs `x`, placing any error that has no position where the reader stands. -/
def fixing (x : ReadM α) : ReadM α := tryCatch x fixPosition

/-- A data error, without a position yet. -/
def dataError (text : String) : ReadM α := throw { code := .data text }

/-- Whether a byte is JSON whitespace. -/
def isBlank (c : UInt8) : Bool := c == 32 || c == 10 || c == 9 || c == 13

/-- Skips whitespace, at most `fuel` bytes, and looks at the byte after it. -/
def skipBlanks : Nat → ReadM (Option UInt8)
  | 0 => peek?
  | fuel + 1 => do
    match ← peek? with
    | some c => if isBlank c then do eat; skipBlanks fuel else pure (some c)
    | none => pure none

/-- Skips whitespace and looks at the next byte. -/
def blanks : ReadM (Option UInt8) := do skipBlanks (← read).size

/-- Takes the bytes of `word`, failing where they differ. -/
def expectWord : List UInt8 → ReadM Unit
  | [] => pure ()
  | c :: rest => do
    match ← next? with
    | none => failAt .eofWhileParsingValue
    | some d => if d == c then expectWord rest else failAt .expectedSomeIdent

/-! ## Numbers -/

/-- How a number was read. -/
inductive Parsed where
  | nat (n : Nat)
  | neg (n : Int)
  | float (x : Float)

/-- The double nearest to `10^k`. -/
def pow10 (k : Nat) : Float := Float.doubleOfDecimal false 1 k

/-- `significand · 10^exponent` computed in doubles: the significand rounded to a
    double, then multiplied or divided by the double nearest to a power of ten,
    dividing by `10^308` first while the exponent is below `-308`. -/
def fromParts (positive : Bool) (significand : Nat) (exponent : Int) : ReadM Float := do
  let f := Float.doubleOfNat significand
  let rec scale : Nat → Float → Int → ReadM Float
    | 0, f, _ => pure f
    | fuel + 1, f, exponent =>
      if exponent.natAbs ≤ 308 then
        if 0 ≤ exponent then
          let g := f * pow10 exponent.toNat
          if g.isInf then failAt .numberOutOfRange else pure g
        else pure (f / pow10 exponent.natAbs)
      else if f == 0 then pure f
      else if 0 ≤ exponent then failAt .numberOutOfRange
      else scale fuel (f / pow10 308) (exponent + 308)
  let g ← scale (exponent.natAbs / 308 + 2) f exponent
  pure (if positive then g else -g)

/-- The largest 64-bit natural number. -/
def u64Max : Nat := Nat.pow 2 64 - 1

/-- Whether `a * 10 + b` would exceed `limit`. -/
def overflows (a b limit : Nat) : Bool := a ≥ limit / 10 && (a > limit / 10 || b > limit % 10)

/-- Skips digits, at most `fuel` of them, counting them. -/
def skipDigits : Nat → Nat → ReadM Nat
  | 0, n => pure n
  | fuel + 1, n => do
    match ← peek? with
    | some c => if 48 ≤ c && c ≤ 57 then do eat; skipDigits fuel (n + 1) else pure n
    | none => pure n

/-- The digit a byte stands for, if any. -/
def digit? (c : Option UInt8) : Option Nat :=
  match c with
  | some c => if 48 ≤ c && c ≤ 57 then some (c - 48).toNat else none
  | none => none

/-- Reads an exponent after `e` and finishes the number. -/
def readExponent (positive : Bool) (significand : Nat) (start : Int) : ReadM Float := do
  eat
  let positiveExp ← match ← peek? with
    | some 43 => do eat; pure true
    | some 45 => do eat; pure false
    | _ => pure true
  match ← next? with
  | none => failAt .eofWhileParsingValue
  | some c =>
    match digit? (some c) with
    | none => failAt .invalidNumber
    | some d =>
      let rec more : Nat → Nat → ReadM (Option Nat)
        | 0, e => pure (some e)
        | fuel + 1, e => do
          match digit? (← peek?) with
          | some d =>
            eat
            if overflows e d (Nat.pow 2 31 - 1) then pure none else more fuel (e * 10 + d)
          | none => pure (some e)
      match ← more (← read).size d with
      | some e => fromParts positive significand (if positiveExp then start + e else start - e)
      | none =>
        if significand != 0 && positiveExp then failAt .numberOutOfRange
        else
          let _ ← skipDigits (← read).size 0
          pure (if positive then 0.0 else -0.0)

/-- Reads the digits after a decimal point and finishes the number. -/
def readFraction (positive : Bool) (significand : Nat) (before : Int) : ReadM Float := do
  eat
  let rec digits : Nat → Nat → Int → ReadM (Nat × Int × Bool)
    | 0, s, e => pure (s, e, false)
    | fuel + 1, s, e => do
      match digit? (← peek?) with
      | some d =>
        if overflows s d u64Max then pure (s, e, true)
        else do eat; digits fuel (s * 10 + d) (e - 1)
      | none => pure (s, e, false)
  let (s, after, overflowed) ← digits (← read).size significand 0
  if overflowed then
    let _ ← skipDigits (← read).size 0
    match ← peek? with
    | some 101 | some 69 => readExponent positive s (before + after)
    | _ => fromParts positive s (before + after)
  else if after == 0 then
    match ← peek? with
    | some _ => peekError .invalidNumber
    | none => peekError .eofWhileParsingValue
  else
    match ← peek? with
    | some 101 | some 69 => readExponent positive s (before + after)
    | _ => fromParts positive s (before + after)

/-- Finishes a number after its integer digits. -/
def readNumberTail (positive : Bool) (significand : Nat) : ReadM Parsed := do
  match ← peek? with
  | some 46 => return .float (← readFraction positive significand 0)
  | some 101 | some 69 => return .float (← readExponent positive significand 0)
  | _ =>
    if positive then return .nat significand
    else if significand == 0 || significand > Nat.pow 2 63 then
      return .float (-(Float.doubleOfNat significand))
    else return .neg (-(significand : Int))

/-- Reads a number whose sign has been taken. -/
def readInteger (positive : Bool) : ReadM Parsed := do
  match ← next? with
  | none => failAt .eofWhileParsingValue
  | some 48 =>
    match digit? (← peek?) with
    | some _ => peekError .invalidNumber
    | none => readNumberTail positive 0
  | some c =>
    match digit? (some c) with
    | none => failAt .invalidNumber
    | some d =>
      let rec loop : Nat → Nat → ReadM Parsed
        | 0, s => readNumberTail positive s
        | fuel + 1, s => do
          match digit? (← peek?) with
          | some d =>
            if overflows s d u64Max then do
              -- keep the first digits, count the rest as a power of ten
              let extra ← skipDigits (← read).size 0
              match ← peek? with
              | some 46 => return .float (← readFraction positive s extra)
              | some 101 | some 69 => return .float (← readExponent positive s extra)
              | _ => return .float (← fromParts positive s extra)
            else do eat; loop fuel (s * 10 + d)
          | none => readNumberTail positive s
      loop (← read).size d

/-- The number a parsed literal stands for. -/
def Parsed.toNumber : Parsed → Number
  | .nat n => .nat n
  | .neg n => .neg n
  | .float x => .float x

/-! ## Strings -/

/-- Four hex digits as a number. -/
def hexValue (cs : List UInt8) : Option Nat :=
  cs.foldl (fun acc c => acc.bind fun a =>
    if 48 ≤ c && c ≤ 57 then some (a * 16 + (c - 48).toNat)
    else if 97 ≤ c && c ≤ 102 then some (a * 16 + (c - 87).toNat)
    else if 65 ≤ c && c ≤ 70 then some (a * 16 + (c - 55).toNat)
    else none) (some 0)

/-- Reads the four hex digits of a `\u` escape. -/
def hexEscape : ReadM Nat := do
  let b ← read
  let i ← get
  if i + 4 ≤ b.size then
    set (i + 4)
    match hexValue (b.extract i (i + 4)).toList with
    | some v => pure v
    | none => failAt .invalidEscape
  else
    set b.size
    failAt .eofWhileParsingString

/-- The UTF-8 bytes of a code point. -/
def utf8Of (n : Nat) : List UInt8 := (String.singleton (Char.ofNat n)).toUTF8.toList

/-- Reads what follows `\u`, a surrogate pair as one character. -/
def unicodeEscape : ReadM (List UInt8) := do
  let n ← hexEscape
  if 0xDC00 ≤ n && n ≤ 0xDFFF then failAt .loneLeadingSurrogateInHexEscape
  else if n < 0xD800 || n > 0xDBFF then pure (utf8Of n)
  else
    match ← peek? with
    | none => failAt .eofWhileParsingString
    | some 92 =>
      eat
      match ← peek? with
      | none => failAt .eofWhileParsingString
      | some 117 =>
        eat
        let n2 ← hexEscape
        if n2 < 0xDC00 || n2 > 0xDFFF then failAt .loneLeadingSurrogateInHexEscape
        else pure (utf8Of ((n - 0xD800) * 1024 + (n2 - 0xDC00) + 0x10000))
      | some _ => do eat; failAt .unexpectedEndOfHexEscape
    | some _ => do eat; failAt .unexpectedEndOfHexEscape

/-- Reads what follows a backslash. -/
def escape : ReadM (List UInt8) := do
  match ← next? with
  | none => failAt .eofWhileParsingString
  | some c =>
    match c with
    | 34 => pure [34] | 92 => pure [92] | 47 => pure [47]
    | 98 => pure [8] | 102 => pure [12] | 110 => pure [10]
    | 114 => pure [13] | 116 => pure [9]
    | 117 => unicodeEscape
    | _ => failAt .invalidEscape

/-- Reads the rest of a string whose opening quote has been taken. -/
def readStringBody : ReadM String := do
  let rec loop : Nat → Array UInt8 → ReadM (Array UInt8)
    | 0, acc => pure acc
    | fuel + 1, acc => do
      match ← peek? with
      | none => failAt .eofWhileParsingString
      | some 34 => do eat; pure acc
      | some 92 => do eat; let bs ← escape; loop fuel (acc ++ bs.toArray)
      | some c =>
        if c < 32 then do eat; failAt .controlCharacterWhileParsingString
        else do eat; loop fuel (acc.push c)
  let bytes ← loop ((← read).size + 1) #[]
  match String.fromUTF8? (ByteArray.mk bytes) with
  | some s => pure s
  | none => failAt .invalidUnicodeCodePoint

/-! ## Values -/

/-- Inserts a member into an object kept in key order, replacing one of the same name. -/
def insertMember (k : String) (v : Json) : List (String × Json) → List (String × Json)
  | [] => [(k, v)]
  | (k', v') :: rest =>
    if k == k' then (k, v) :: rest
    else if k < k' then (k, v) :: (k', v') :: rest
    else (k', v') :: insertMember k v rest

/-- The end of an array: `]`, or an error. -/
def endSeq : ReadM Unit := do
  match ← blanks with
  | some 93 => eat
  | some 44 =>
    eat
    match ← blanks with
    | some 93 => peekError .trailingComma
    | _ => peekError .trailingCharacters
  | some _ => peekError .trailingCharacters
  | none => peekError .eofWhileParsingList

/-- The end of an object: `}`, or an error. -/
def endMap : ReadM Unit := do
  match ← blanks with
  | some 125 => eat
  | some 44 => peekError .trailingComma
  | some _ => peekError .trailingCharacters
  | none => peekError .eofWhileParsingObject

/-- What reading the end of an array consumes when the array is abandoned after
    an error: blanks, and a `]` or a `,` with the blanks after it. -/
def skipSeqEnd : ReadM Unit := do
  match ← blanks with
  | some 93 => eat
  | some 44 => do eat; let _ ← blanks
  | _ => pure ()

/-- What reading the end of an object consumes when the object is abandoned
    after an error: blanks, and a `}`. -/
def skipMapEnd : ReadM Unit := do
  match ← blanks with
  | some 125 => eat
  | _ => pure ()

/-- Looks for the next item of an array: `false` at its end. -/
def seqNext (first : Bool) : ReadM Bool := do
  let c ← match ← blanks with
    | some 93 => return false
    | some 44 => if first then peekError .expectedListCommaOrEnd else do eat; blanks
    | some c => if first then pure (some c) else peekError .expectedListCommaOrEnd
    | none => peekError .eofWhileParsingList
  match c with
  | some 93 => peekError .trailingComma
  | some _ => pure true
  | none => peekError .eofWhileParsingValue

/-- Reads the next key of an object, if any. -/
def mapNextKey (first : Bool) : ReadM (Option String) := do
  let c ← match ← blanks with
    | some 125 => return none
    | some 44 => if first then peekError .expectedObjectCommaOrEnd else do eat; blanks
    | some c => if first then pure (some c) else peekError .expectedObjectCommaOrEnd
    | none => peekError .eofWhileParsingObject
  match c with
  | some 34 => do eat; return some (← readStringBody)
  | some 125 => peekError .trailingComma
  | some _ => peekError .keyMustBeAString
  | none => peekError .eofWhileParsingValue

/-- Takes the colon after a key. -/
def mapColon : ReadM Unit := do
  match ← blanks with
  | some 58 => eat
  | some _ => peekError .expectedColon
  | none => peekError .eofWhileParsingObject

/-- Runs the items of an array, each read by `item`, at most `fuel` of them. -/
def seqItems (item : ReadM α) : Nat → Bool → List α → ReadM (List α)
  | 0, _, acc => pure acc.reverse
  | fuel + 1, first, acc => do
    if ← seqNext first then seqItems item fuel false ((← item) :: acc)
    else pure acc.reverse

/-- Reads a value of any kind, nesting at most `depth` more levels. -/
def readValue : Nat → ReadM Json
  | 0 => peekError .recursionLimitExceeded
  | depth + 1 => fixing do
    match ← blanks with
    | none => peekError .eofWhileParsingValue
    | some c =>
      match c with
      | 110 => do eat; expectWord [117, 108, 108]; pure .null
      | 116 => do eat; expectWord [114, 117, 101]; pure (.bool true)
      | 102 => do eat; expectWord [97, 108, 115, 101]; pure (.bool false)
      | 45 => do eat; pure (.num (← readInteger false).toNumber)
      | 34 => do eat; pure (.str (← readStringBody))
      | 91 =>
        if depth == 0 then peekError .recursionLimitExceeded
        eat
        let items ← tryCatch (seqItems (readValue depth) (← read).size true [])
          (fun e => do let _ ← tryCatch endSeq (fun _ => pure ()); throw e)
        endSeq
        pure (.arr items)
      | 123 =>
        if depth == 0 then peekError .recursionLimitExceeded
        eat
        let rec members : Nat → Bool → List (String × Json) → ReadM (List (String × Json))
          | 0, _, acc => pure acc
          | fuel + 1, first, acc => do
            match ← mapNextKey first with
            | none => pure acc
            | some k =>
              mapColon
              let v ← readValue depth
              members fuel false (insertMember k v acc)
        let ms ← tryCatch (members (← read).size true [])
          (fun e => do let _ ← tryCatch endMap (fun _ => pure ()); throw e)
        endMap
        pure (.obj ms)
      | _ =>
        if 48 ≤ c && c ≤ 57 then pure (.num (← readInteger true).toNumber)
        else peekError .expectedSomeValue

/-- Skips a value of any kind. -/
def ignoreValue : ReadM Unit := do let _ ← readValue 128

/-- Checks that only whitespace is left. -/
def readEnd : ReadM Unit := do
  match ← blanks with
  | some _ => peekError .trailingCharacters
  | none => pure ()

/-- Runs a reader over a whole text. -/
def run (x : ReadM α) (text : String) : Except Error α :=
  (Id.run (((do let a ← x; readEnd; pure a).run text.toUTF8).run.run 0)).1

/-- Reads a JSON document; an object keeps its members in key order, the last of
    a name winning. -/
def parse (text : String) : Except Error Json := run (readValue 128) text

/-! ## Typed reading -/

/-- The words for a value met where another kind was expected. -/
def unexpectedText : Json → String
  | .null => "null"
  | .bool b => s!"boolean `{b}`"
  | .num (.nat n) => s!"integer `{n}`"
  | .num (.neg n) => s!"integer `{n}`"
  | .num (.float x) => "floating point `" ++ (Float.Value.ofDouble x).write .binary64 (.data 16) ++ "`"
  | .num (.single x) => "floating point `" ++ (Float.Value.ofDouble (Float.doubleOfSingle x)).write .binary64 (.data 16) ++ "`"
  | .str s => "string " ++ Text.quoted s
  | .arr _ => "sequence"
  | .obj _ => "map"

/-- Reads the value where `expected` was wanted and fails: `invalid type` with
    the kind found, positioned after it (or at it, for an array or object). -/
def peekInvalidType (expected : String) : ReadM α := do
  let e ← match ← peek? with
    | some 110 => do eat; expectWord [117, 108, 108]; pure (unexpectedText .null)
    | some 116 => do eat; expectWord [114, 117, 101]; pure (unexpectedText (.bool true))
    | some 102 => do eat; expectWord [97, 108, 115, 101]; pure (unexpectedText (.bool false))
    | some 45 => do eat; pure (unexpectedText (.num (← readInteger false).toNumber))
    | some 34 => do eat; pure (unexpectedText (.str (← readStringBody)))
    | some 91 => pure "sequence"
    | some 123 => pure "map"
    | some c =>
      if 48 ≤ c && c ≤ 57 then pure (unexpectedText (.num (← readInteger true).toNumber))
      else peekError .expectedSomeValue
    | none => peekError .expectedSomeValue
  fixPosition { code := .data s!"invalid type: {e}, expected {expected}" }

/-- Reads a natural number below `2^64`. -/
def readU64 : ReadM Nat := fixing do
  match ← blanks with
  | none => peekError .eofWhileParsingValue
  | some 45 => do
    eat
    match ← readInteger false with
    | .neg n => dataError s!"invalid value: integer `{n}`, expected u64"
    | p => dataError s!"invalid type: {unexpectedText (.num p.toNumber)}, expected u64"
  | some c =>
    if 48 ≤ c && c ≤ 57 then
      match ← readInteger true with
      | .nat n => pure n
      | p => dataError s!"invalid type: {unexpectedText (.num p.toNumber)}, expected u64"
    else peekInvalidType "u64"

/-- Reads a string. -/
def readString : ReadM String := fixing do
  match ← blanks with
  | none => peekError .eofWhileParsingValue
  | some 34 => do eat; readStringBody
  | some _ => peekInvalidType "a string"

/-- Reads a boolean. -/
def readBool : ReadM Bool := fixing do
  match ← blanks with
  | none => peekError .eofWhileParsingValue
  | some 116 => do eat; expectWord [114, 117, 101]; pure true
  | some 102 => do eat; expectWord [97, 108, 115, 101]; pure false
  | some _ => peekInvalidType "a boolean"

/-- Reads an array whose items `item` reads. -/
def readSeq (item : ReadM α) : ReadM (List α) := fixing do
  match ← blanks with
  | none => peekError .eofWhileParsingValue
  | some 91 =>
    eat
    let r ← tryCatch (seqItems item (← read).size true [])
      (fun e => do skipSeqEnd; throw e)
    endSeq
    pure r
  | some _ => peekInvalidType "a sequence"

/-- How a struct is laid out in JSON: as an object, or as an array of its fields. -/
inductive StructForm where
  | object
  | array

/-- Reads a struct named `name`: `body` reads the members of an object or the
    items of an array, and the struct's end is read even when `body` fails. -/
def readStruct (name : String) (body : StructForm → ReadM α) : ReadM α := fixing do
  match ← blanks with
  | none => peekError .eofWhileParsingValue
  | some 91 =>
    eat
    let r ← tryCatch (body .array) (fun e => do skipSeqEnd; throw e)
    endSeq
    pure r
  | some 123 =>
    eat
    let r ← tryCatch (body .object) (fun e => do skipMapEnd; throw e)
    endMap
    pure r
  | some _ => peekInvalidType s!"struct {name}"

/-- Reads the members of an object into an accumulator: `step` knows some names,
    and reads the colon and the value of such a member itself (or refuses a name
    met twice before the colon); members of other names are skipped. -/
def readMembers (step : String → σ → Option (ReadM σ)) (init : σ) : ReadM σ := do
  go (← read).size true init
where
  go : Nat → Bool → σ → ReadM σ
    | 0, _, acc => pure acc
    | fuel + 1, first, acc => do
      match ← mapNextKey first with
      | none => pure acc
      | some k =>
        let acc ← match step k acc with
          | some r => r
          | none => do mapColon; ignoreValue; pure acc
        go fuel false acc

/-- The value of a member, after its colon. -/
def memberValue (r : ReadM α) : ReadM α := do mapColon; r

/-- The next item of an array read as a struct's field, if there is one. -/
def nextField (first : Bool) (r : ReadM α) : ReadM (Option α) := do
  if ← seqNext first then some <$> r else pure none

/-- The complaint about a field given twice. -/
def duplicateField (key : String) : ReadM α := dataError ("duplicate field `" ++ key ++ "`")

/-- The complaint about a field not given. -/
def missingField (key : String) : ReadM α := dataError ("missing field `" ++ key ++ "`")

/-- The complaint about a struct given as too short an array. -/
def shortStruct (n : Nat) (name : String) (fields : Nat) : ReadM α :=
  dataError s!"invalid length {n}, expected struct {name} with {fields} elements"

end EdgePack.Json

import EdgePack.Toml.Rule
import EdgePack.Toml.Value
import EdgePack.Text.Utf8
import EdgePack.Float.Literal

/-!
# The lexical grammar of TOML

Blanks, comments and line ends; keys, bare or quoted and joined by dots;
strings in their four forms; integers in four bases, floats, booleans and
date-times; arrays and inline tables. Each rule follows the TOML 1.0 grammar,
and its complaints name what it was reading: `invalid basic string`,
`invalid table header`, `expected newline, #`.

Arrays and inline tables hold values, so `value` takes the depth still allowed
and hands `value` at one less to the rules for the two containers; the depth
is the measure of that recursion.
-/

namespace EdgePack.Toml

open Serde (Span)
open Rule

/-- The byte of an ASCII character. -/
def asc (c : Char) : UInt8 := c.toUInt8

/-- The text of UTF-8 bytes. -/
def textOf (bs : List UInt8) : String := Utf8.decodeLossy ⟨bs.toArray⟩

/-- The UTF-8 bytes of a character. -/
def charBytes (c : Char) : List UInt8 := (String.singleton c).toUTF8.toList

/-! ## Blanks, comments and line ends -/

/-- A space or a tab. -/
def isBlank (b : UInt8) : Bool := b == 0x20 || b == 0x09

/-- A byte that may stand in a comment: a tab, printable ASCII or any byte of a
    longer UTF-8 sequence. -/
def isCommentByte (b : UInt8) : Bool := b == 0x09 || (0x20 ≤ b && b ≤ 0x7E) || 0x80 ≤ b

/-- Spaces and tabs. -/
def ws : Rule Unit := do let _ ← takeMany isBlank; pure ()

/-- A comment, up to the end of its line. -/
def comment : Rule Unit := do
  byte (asc '#')
  let _ ← takeMany isCommentByte
  pure ()

/-- A line feed, alone or after a carriage return. -/
def newline : Rule Unit := do
  let b ← anyByte
  if b == 0x0A then pure ()
  else if b == 0x0D then byte 0x0A
  else backtrack

/-- Spaces, tabs and line ends. -/
def wsNewline : Rule Unit := do
  let _ ← many (orElse newline (do let _ ← takeSome isBlank; pure ()))
  pure ()

/-- A line end, then spaces, tabs and line ends. -/
def wsNewlines : Rule Unit := do newline; wsNewline

/-- One round of blanks followed by a comment line or a line end; false when
    neither follows the blanks. -/
def blankLine : Rule Bool := do
  ws
  match ← peekByte? with
  | some b =>
    if b == asc '#' then do comment; newline; pure true
    else if b == 0x0A || b == 0x0D then do newline; pure true
    else pure false
  | none => pure false

/-- Rounds of `blankLine` while they read something, at most `fuel`. -/
def blankLines : Nat → Rule Unit
  | 0 => pure ()
  | fuel + 1 => fun c =>
    match blankLine c with
    | .ok true c' => if c'.pos = c.pos then .ok () c' else blankLines fuel c'
    | .ok false c' => .ok () c'
    | .fail e c' => .fail e c'

/-- Blanks, comments and line ends, as between the items of an array. -/
def wsCommentNewline : Rule Unit := fun c => blankLines (c.rest.length + 1) c

/-- A line end or the end of the document. -/
def lineEnding : Rule Unit := orElse newline eof

/-- What may follow a value or a header on its line: blanks, a comment, the line end. -/
def lineTrailing : Rule Unit := do
  ws
  let _ ← opt comment
  lineEnding

/-! ## Strings -/

/-- A byte that stands for itself in a basic string. -/
def isBasicByte (b : UInt8) : Bool :=
  isBlank b || b == 0x21 || (0x23 ≤ b && b ≤ 0x5B) || (0x5D ≤ b && b ≤ 0x7E) || 0x80 ≤ b

/-- A byte that may stand in a literal string. -/
def isLiteralByte (b : UInt8) : Bool := b == 0x09 || (0x20 ≤ b && b ≤ 0x26) || (0x28 ≤ b && b ≤ 0x7E) || 0x80 ≤ b

/-- A decimal digit. -/
def isDigit (b : UInt8) : Bool := 0x30 ≤ b && b ≤ 0x39

/-- A hexadecimal digit. -/
def isHexDigit (b : UInt8) : Bool :=
  isDigit b || (asc 'a' ≤ b && b ≤ asc 'f') || (asc 'A' ≤ b && b ≤ asc 'F')

/-- The value of a digit in base 16. -/
def hexValue (b : UInt8) : Nat :=
  if isDigit b then b.toNat - 0x30
  else if asc 'a' ≤ b && b ≤ asc 'f' then b.toNat - (asc 'a').toNat + 10
  else b.toNat - (asc 'A').toNat + 10

/-- The value of digits in a base. -/
def digitsIn (base : Nat) (ds : List UInt8) : Nat := ds.foldl (fun acc d => acc * base + hexValue d) 0

/-- Whether a number is a Unicode scalar value. -/
def isScalar (n : Nat) : Bool := n < 0xD800 || (0xDFFF < n && n ≤ 0x10FFFF)

/-- Exactly `n` hexadecimal digits naming a scalar value, as its UTF-8 bytes. -/
def hexEscape (n : Nat) : Rule (List UInt8) :=
  tryMap (verify (takeWhile isHexDigit 0 n) (·.length == n)) fun ds =>
    let v := digitsIn 16 ds
    if isScalar v then .ok (charBytes (Char.ofNat v)) else .error Clash.outOfRange.message

/-- Adds each of `xs` in turn to what `r` says it expected. -/
def expectAll (xs : List Expected) (r : Rule α) : Rule α := xs.foldl (fun r x => expect x r) r

/-- What the character `b` after a backslash stands for, as UTF-8 bytes. -/
def escapeOf (b : UInt8) : Rule (List UInt8) :=
  if b == asc 'b' then pure [0x08]
  else if b == asc 'f' then pure [0x0C]
  else if b == asc 'n' then pure [0x0A]
  else if b == asc 'r' then pure [0x0D]
  else if b == asc 't' then pure [0x09]
  else if b == asc 'u' then label "unicode 4-digit hex code" (cut (hexEscape 4))
  else if b == asc 'U' then label "unicode 8-digit hex code" (cut (hexEscape 8))
  else if b == asc '\\' then pure [0x5C]
  else if b == asc '"' then pure [0x22]
  else expectAll (['b', 'f', 'n', 'r', 't', 'u', 'U', '\\', '"'].map Expected.char)
    (label "escape sequence" (cut backtrack))

/-- The character after a backslash in a basic string, as UTF-8 bytes. -/
def escapeChar : Rule (List UInt8) := do
  let b ← anyByte
  escapeOf b

/-- A backslash and what it stands for. -/
def escaped : Rule (List UInt8) := do
  byte (asc '\\')
  escapeChar

/-- A run of plain bytes or one escape in a basic string. -/
def basicChars : Rule (List UInt8) := orElse (takeSome isBasicByte) escaped

/-- A basic string: between double quotes, with escapes. -/
def basicString : Rule String := do
  byte (asc '"')
  let parts ← many basicChars
  label "basic string" (cut (byte (asc '"')))
  pure (textOf parts.flatten)

/-- A literal string: between single quotes, taken as written. -/
def literalString : Rule String :=
  label "literal string" (do
    byte (asc '\'')
    let bs ← cut (takeMany isLiteralByte)
    cut (byte (asc '\''))
    pure (textOf bs))

/-- One or two quotes `q` that `term` follows. -/
def quotesBefore (q : UInt8) (term : Rule Unit) : Rule (List UInt8) := fun c =>
  match (do tag [q, q]; peek term) c with
  | .ok _ c' => .ok [q, q] c'
  | .fail e c' =>
    if e.cut then .fail e c'
    else (do byte q; peek term; pure [q]) c

/-- Any byte but `q`. -/
def noneOf (q : UInt8) : Rule Unit := do let _ ← byteIf (· != q); pure ()

/-- A byte that stands for itself in a multi-line basic string. -/
def isMlBasicByte (b : UInt8) : Bool := isBasicByte b

/-- A backslash at the end of a line, which swallows the blanks and line ends after it. -/
def escapedNewline : Rule Unit := do
  let _ ← many1 (do byte (asc '\\'); ws; wsNewlines)
  pure ()

/-- A piece of a multi-line basic string. -/
def mlBasicContent : Rule (List UInt8) :=
  orElse (takeSome isMlBasicByte)
    (orElse (do escapedNewline; pure [])
      (orElse escaped (do newline; pure [0x0A])))

/-- The pieces of a multi-line basic string: runs of one or two quotes followed
    by more content, at most `fuel` of them. A run followed by nothing that
    belongs to the string ends the body, the quotes unused. -/
def mlBasicRuns : Nat → List UInt8 → Rule (List UInt8)
  | 0, acc => pure acc
  | fuel + 1, acc => do
    match ← opt (quotesBefore 0x22 (noneOf 0x22)) with
    | none => pure acc
    | some q =>
      match ← opt mlBasicContent with
      | none => pure acc
      | some first =>
        let more ← many mlBasicContent
        mlBasicRuns fuel (acc ++ q ++ first ++ more.flatten)

/-- The body of a multi-line basic string. -/
def mlBasicBody : Rule (List UInt8) := fun c =>
  (do
    let start ← many mlBasicContent
    let body ← mlBasicRuns (c.rest.length + 1) start.flatten
    match ← opt (quotesBefore 0x22 (tag [0x22, 0x22, 0x22])) with
    | some q => pure (body ++ q)
    | none => pure body) c

/-- A multi-line basic string, between triple double quotes. -/
def mlBasicString : Rule String :=
  label "multiline basic string" (do
    tag [0x22, 0x22, 0x22]
    let _ ← opt newline
    let body ← cut mlBasicBody
    cut (tag [0x22, 0x22, 0x22])
    pure (textOf body))

/-- A byte that may stand in a multi-line literal string. -/
def isMlLiteralByte (b : UInt8) : Bool := isLiteralByte b

/-- A byte or a line end of a multi-line literal string. -/
def mlLiteralContent : Rule Unit := orElse (do let _ ← byteIf isMlLiteralByte; pure ()) newline

/-- Carriage returns before line feeds dropped. -/
def dropCarriage : List UInt8 → List UInt8
  | 0x0D :: 0x0A :: rest => 0x0A :: dropCarriage rest
  | b :: rest => b :: dropCarriage rest
  | [] => []

/-- The body of a multi-line literal string, as written. -/
def mlLiteralBody : Rule (List UInt8) := do
  let bs ← taken (do
    let _ ← many mlLiteralContent
    let _ ← many (do let _ ← quotesBefore 0x27 (noneOf 0x27); let _ ← many1 mlLiteralContent; pure ())
    let _ ← opt (quotesBefore 0x27 (tag [0x27, 0x27, 0x27]))
    pure ())
  pure (dropCarriage bs)

/-- A multi-line literal string, between triple single quotes. -/
def mlLiteralString : Rule String :=
  label "multiline literal string" (do
    tag [0x27, 0x27, 0x27]
    let _ ← opt newline
    let body ← cut mlLiteralBody
    cut (tag [0x27, 0x27, 0x27])
    pure (textOf body))

/-- A string in any of its four forms. -/
def string : Rule String :=
  orElse mlBasicString (orElse basicString (orElse mlLiteralString literalString))

/-! ## Keys -/

/-- A byte of a bare key. -/
def isBareKeyByte (b : UInt8) : Bool :=
  (asc 'A' ≤ b && b ≤ asc 'Z') || (asc 'a' ≤ b && b ≤ asc 'z') || isDigit b || b == asc '-' || b == asc '_'

/-- One key: bare, or a basic or literal string. -/
def simpleKey : Rule Key := do
  let (name, raw, span) ← withTaken (do
    let b ← peekByte
    if b == asc '"' then basicString
    else if b == asc '\'' then literalString
    else do let bs ← takeSome isBareKeyByte; pure (textOf bs))
  pure ⟨name, textOf raw, span⟩

/-- The most keys a dotted key may join. -/
def keyDepthLimit : Nat := 80

/-- A dotted key: keys joined by dots, blanks allowed around each. -/
def key : Rule (List Key) :=
  tryMap (label "key" (sepBy1 (do ws; let k ← simpleKey; ws; pure k) (byte (asc '.'))))
    fun ks => if ks.length < keyDepthLimit then .ok ks else .error Clash.tooDeep.message

/-! ## Numbers and booleans -/

/-- A digit of `isD`, then more, each one possibly after an underscore. -/
def digitRun (isD : UInt8 → Bool) : Rule Unit := do
  let _ ← byteIf isD
  let _ ← many (orElse (do let _ ← byteIf isD; pure ())
    (do byte (asc '_'); let _ ← expect (.words "digit") (cut (byteIf isD)); pure ()))
  pure ()

/-- A sign. -/
def isSign (b : UInt8) : Bool := b == asc '+' || b == asc '-'

/-- A decimal integer as written: an optional sign, then `0` or digits without a leading zero. -/
def decIntText : Rule (List UInt8) :=
  label "integer" (taken (do
    let _ ← opt (byteIf isSign)
    orElse (do
        let _ ← byteIf fun b => asc '1' ≤ b && b ≤ asc '9'
        let _ ← many (orElse (do let _ ← byteIf isDigit; pure ())
          (do byte (asc '_'); let _ ← expect (.words "digit") (cut (byteIf isDigit)); pure ()))
        pure ())
      (do let _ ← byteIf isDigit; pure ())))

/-- The least and greatest 64-bit integers. -/
def intMin : Int := -(Int.pow 2 63)
def intMax : Int := Int.pow 2 63 - 1

/-- A 64-bit integer from its value, or the complaint about its size. -/
def fitInt (v : Int) : Except String Int :=
  if v > intMax then .error "number too large to fit in target type"
  else if v < intMin then .error "number too small to fit in target type"
  else .ok v

/-- The value of a decimal integer's text, underscores dropped. -/
def decValue (bs : List UInt8) : Int :=
  let ds := bs.filter isDigit
  let n : Int := digitsIn 10 ds
  if bs.head? == some (asc '-') then -n else n

/-- Digits after a base prefix, labelled by the base's name. -/
def prefixedInt (pre : Char) (name : String) (isD : UInt8 → Bool) : Rule (List UInt8) :=
  label name (do
    tag [asc '0', asc pre]
    taken (cut (digitRun isD)))

/-- An integer: hexadecimal, octal or binary after `0x`, `0o` or `0b`, else decimal. -/
def integer : Rule Int := fun c =>
  let inBase (base : Nat) (pre : Char) (name : String) (isD : UInt8 → Bool) :=
    cut (tryMap (prefixedInt pre name isD) fun ds => fitInt (digitsIn base (ds.filter (· != asc '_'))))
  match c.rest with
  | 0x30 :: 0x78 :: _ => inBase 16 'x' "hexadecimal integer" isHexDigit c
  | 0x30 :: 0x6F :: _ => inBase 8 'o' "octal integer" (fun b => asc '0' ≤ b && b ≤ asc '7') c
  | 0x30 :: 0x62 :: _ => inBase 2 'b' "binary integer" (fun b => b == asc '0' || b == asc '1') c
  | _ => settle decIntText (fun bs => (fitInt (decValue bs)).mapError some) c

/-- A fraction: a point and digits. -/
def fraction : Rule Unit := do
  byte (asc '.')
  expect (.words "digit") (cut (digitRun isDigit))

/-- An exponent: `e`, an optional sign and digits. -/
def exponent : Rule Unit := do
  let _ ← byteIf fun b => b == asc 'e' || b == asc 'E'
  let _ ← opt (byteIf isSign)
  cut (digitRun isDigit)

/-- A float with a fraction, an exponent or both, as written. -/
def floatText : Rule (List UInt8) :=
  taken (do
    let _ ← decIntText
    orElse exponent (do fraction; let _ ← opt exponent; pure ()))

/-- The positive infinity. -/
def infinity : Float := Float.ofBits 0x7FF0000000000000

/-- The quiet NaN with its sign bit clear. -/
def notANumber : Float := Float.ofBits 0x7FF8000000000000

/-- The double nearest a float's text, underscores dropped. -/
def floatValue (bs : List UInt8) : Float :=
  match Float.Literal.parse? (textOf (bs.filter (· != asc '_'))) with
  | some lit => lit.toDouble
  | none => notANumber

/-- `inf` or `nan` with an optional sign. -/
def specialFloat : Rule Float := do
  let sign ← opt (byteIf isSign)
  let f ← orElse (do tag [asc 'i', asc 'n', asc 'f']; pure infinity)
    (do tag [asc 'n', asc 'a', asc 'n']; pure notANumber)
  pure (if sign == some (asc '-') then -f else f)

/-- A float; a text too large for a double is refused (only upwards: a negative
    one reads as the negative infinity). -/
def float : Rule Float :=
  label "floating-point number"
    (orElse (settle floatText fun bs =>
        let x := floatValue bs
        if x.toBits == infinity.toBits then .error none else .ok x)
      specialFloat)

/-! ## Dates and times -/

/-- Exactly `n` decimal digits, as a number. -/
def digitsExactly (n : Nat) : Rule Nat := do
  let ds ← takeWhile isDigit n n
  pure (digitsIn 10 ds)

/-- Exactly two digits with a value in `lo..hi`. -/
def twoDigitsIn (lo hi : Nat) : Rule Nat :=
  tryMap (digitsExactly 2) fun d => if lo ≤ d ∧ d ≤ hi then .ok d else .error Clash.outOfRange.message

/-- Days in a month of a year. -/
def daysIn (year month : Nat) : Nat :=
  let leap := year % 4 == 0 && (year % 100 != 0 || year % 400 == 0)
  if month == 2 then (if leap then 29 else 28)
  else if month == 4 || month == 6 || month == 9 || month == 11 then 30
  else 31

/-- A date `YYYY-MM-DD`. -/
def fullDate : Rule Unit := do
  let year ← digitsExactly 4
  byte (asc '-')
  let month ← cut (twoDigitsIn 1 12)
  cut (byte (asc '-'))
  let dayStart ← here
  let day ← cut (twoDigitsIn 1 31)
  if daysIn year month < day then
    failAt ⟨true, [], [], some Clash.outOfRange.message⟩ dayStart
  else pure ()

/-- A fraction of a second. -/
def secondFraction : Rule Unit := do
  byte (asc '.')
  let _ ← takeSome isDigit
  pure ()

/-- A time `hh:mm:ss` with an optional fraction of a second. -/
def partialTime : Rule Unit := do
  let _ ← twoDigitsIn 0 23
  byte (asc ':')
  cut (do
    let _ ← twoDigitsIn 0 59
    byte (asc ':')
    let _ ← twoDigitsIn 0 60
    let _ ← opt secondFraction
    pure ())

/-- A time offset: `Z`, or a sign, hours and minutes. -/
def timeOffset : Rule Unit :=
  label "time offset"
    (orElse (do let _ ← byteIf fun b => b == asc 'Z' || b == asc 'z'; pure ())
      (do
        let _ ← byteIf isSign
        cut (do let _ ← twoDigitsIn 0 23; byte (asc ':'); let _ ← twoDigitsIn 0 59; pure ())))

/-- A date with an optional time and offset, or a time alone, as written. -/
def dateTime : Rule String := do
  let bs ← taken (orElse
    (label "date-time" (do
      fullDate
      let _ ← opt (do
        let _ ← byteIf fun b => b == asc 'T' || b == asc 't' || b == asc ' '
        partialTime
        let _ ← opt timeOffset
        pure ())
      pure ()))
    (label "time" partialTime))
  pure (textOf bs)

/-! ## Values -/

/-- `r`, whose complaints say that a string was expected. -/
def asString (r : Rule α) : Rule α :=
  expect (.char '\'') (expect (.char '"') (label "string" r))

/-- An item of an array with the blanks, comments and line ends around it. -/
def arrayItem (item : Rule (Value × Span)) : Rule (Span × Value) := do
  wsCommentNewline
  let (v, sp) ← item
  wsCommentNewline
  pure (sp, v)

/-- The items of an array, an optional trailing comma and what follows it. -/
def arrayItems (item : Rule (Value × Span)) : Rule (List (Span × Value)) := do
  match ← peek (opt (byte (asc ']'))) with
  | some _ => pure []
  | none =>
    let xs ← sepBy (arrayItem item) (byte (asc ','))
    if !xs.isEmpty then
      let _ ← opt (byte (asc ','))
    wsCommentNewline
    pure xs

/-- An array of values read by `item`. -/
def array (item : Rule (Value × Span)) : Rule Value := do
  byte (asc '[')
  let xs ← cut (arrayItems item)
  expect (.char ']') (label "array" (cut (byte (asc ']'))))
  pure (.array xs)

/-- A key, `=` and a value read by `item`, inside an inline table. -/
def inlineEntry (item : Rule (Value × Span)) : Rule (List Key × Value × Span) := do
  let path ← key
  cut (do
    expect (.char '=') (expect (.char '.') (byte (asc '=')))
    ws
    let (v, sp) ← item
    ws
    pure (path, v, sp))

/-- The name of an entry among entries. -/
def findEntry (entries : List (Key × Option Span × Value)) (name : String) : Option Value :=
  (entries.find? fun e => e.1.name == name).map fun e => e.2.2

/-- Entries with the one named `name` replaced. -/
def replaceEntry (entries : List (Key × Option Span × Value)) (name : String) (v : Value) :
    List (Key × Option Span × Value) :=
  entries.map fun e => if e.1.name == name then (e.1, e.2.1, v) else e

/-- Adds the value `v` under `leaf` at the dotted path `path` to the entries of an
    inline table, making the tables the path runs through; `seen` holds the
    names of the path walked so far. -/
def insertInline (seen : List String) (leaf : Key) (sp : Span) (v : Value) :
    List Key → List (Key × Option Span × Value) → Except Clash (List (Key × Option Span × Value))
  | [], entries =>
    if (findEntry entries leaf.name).isSome then .error (.duplicateKey leaf.name none)
    else .ok (entries ++ [(leaf, some sp, v)])
  | k :: rest, entries =>
    match findEntry entries k.name with
    | none => do
      let inner ← insertInline (seen ++ [k.name]) leaf sp v rest []
      pure (entries ++ [(k, none, .inline inner true)])
    | some (.inline inner true) => do
      let inner' ← insertInline (seen ++ [k.name]) leaf sp v rest inner
      pure (replaceEntry entries k.name (.inline inner' true))
    | some (.inline _ false) => .error (.duplicateKey k.name none)
    | some other => .error (.extendsValue (seen ++ [k.name]) other.typeName)

/-- An inline table from its entries in order. -/
def inlineOf : List (List Key × Value × Span) → Except Clash (List (Key × Option Span × Value))
  | entries => entries.foldlM (fun acc (path, v, sp) =>
      match path.reverse with
      | leaf :: parents => insertInline [] leaf sp v parents.reverse acc
      | [] => .ok acc) []

/-- An inline table of values read by `item`. -/
def inlineTable (item : Rule (Value × Span)) : Rule Value := do
  byte (asc '{')
  let entries ← cut (tryMap (do
      let kvs ← sepBy (inlineEntry item) (byte (asc ','))
      ws
      pure kvs)
    fun kvs => (inlineOf kvs).mapError Clash.message)
  expect (.char '}') (label "inline table" (cut (byte (asc '}'))))
  pure (.inline entries false)

/-- How deep arrays and inline tables may nest. -/
def depthLimit : Nat := 80

/-- A value and its span, with `depth` more levels of nesting allowed. -/
def value : Nat → Rule (Value × Span)
  | 0 => refuse Clash.tooDeep.message
  | depth + 1 => withSpan (do
    let b ← peekByte
    if b == asc '"' || b == asc '\'' then Value.str <$> string
    else if b == asc '[' then array (value depth)
    else if b == asc '{' then inlineTable (value depth)
    else if isSign b || isDigit b then
      orElse (Value.datetime <$> dateTime) (orElse (Value.float <$> float) (Value.int <$> integer))
    else if b == asc '_' then expect (.words "leading digit") (Value.int <$> integer)
    else if b == asc '.' then expect (.words "leading digit") (Value.float <$> float)
    else if b == asc 't' then asString (do cut (tag (String.toUTF8 "true").toList); pure (.bool true))
    else if b == asc 'f' then asString (do cut (tag (String.toUTF8 "false").toList); pure (.bool false))
    else if b == asc 'i' then asString (do tag (String.toUTF8 "inf").toList; pure (.float infinity))
    else if b == asc 'n' then asString (do tag (String.toUTF8 "nan").toList; pure (.float notANumber))
    else asString backtrack)

end EdgePack.Toml

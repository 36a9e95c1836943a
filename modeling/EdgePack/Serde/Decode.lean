import EdgePack.Serde.Datum
import EdgePack.Text.Quoted

/-!
# Reading typed values from data

A `Decoder` reads a value of one type from a `Datum`, or says why it cannot,
in the words a reader of serialised data expects: `invalid type: string "x",
expected f32`, `invalid value: integer -1, expected usize`, `missing field`,
`unknown variant`.

A complaint raised while reading a datum that carries a span takes that span,
unless a datum inside it already gave one; so a bad number points at the
number, and a missing field at the table that lacks it.

Structs are read by name from a map or by position from a sequence. The
entries of a map are checked in the order the document gives them, so that of
two bad fields the first written is the one reported; fields that are missing
are reported afterwards, in the order the struct declares them.
-/

namespace EdgePack.Serde

/-- A complaint about a datum, with the span it points at when one is known. -/
structure DecodeError where
  text : String
  span : Option Span
  deriving Inhabited

/-- The result of reading a value. -/
abbrev Decoded := Except DecodeError

/-- A complaint without a span of its own. -/
def complain (text : String) : Decoded α := .error ⟨text, none⟩

/-- The words for a datum that is not what was wanted. -/
def Datum.describe (dl : Dialect) : Datum → String
  | .null => dl.nullText
  | .bool b => "boolean `" ++ toString b ++ "`"
  | .int i => "integer `" ++ toString i ++ "`"
  | .float x => "floating point `" ++ dl.floatText x ++ "`"
  | .str s => "string " ++ Text.quoted s
  | .seq _ => "sequence"
  | .map _ => "map"
  | .spanned _ d => describe dl d

/-- A datum of the wrong kind. -/
def invalidType (dl : Dialect) (d : Datum) (expected : String) : Decoded α :=
  complain ("invalid type: " ++ d.describe dl ++ ", expected " ++ expected)

/-- A datum of the right kind with a value out of range. -/
def invalidValue (found expected : String) : Decoded α :=
  complain ("invalid value: " ++ found ++ ", expected " ++ expected)

/-- A sequence of the wrong length. -/
def invalidLength (n : Nat) (expected : String) : Decoded α :=
  complain ("invalid length " ++ toString n ++ ", expected " ++ expected)

/-- A struct without a field it needs. -/
def missingField (key : String) : Decoded α :=
  complain ("missing field `" ++ key ++ "`")

/-- The names a choice offers, as a complaint lists them: one name, two joined by
    `or`, more after `one of`. -/
def oneOf : List String → String
  | [] => ""
  | [a] => "`" ++ a ++ "`"
  | [a, b] => "`" ++ a ++ "` or `" ++ b ++ "`"
  | names => "one of " ++ ", ".intercalate (names.map fun n => "`" ++ n ++ "`")

/-- A name that is none of the choices. -/
def unknownVariant (name : String) (names : List String) : Decoded α :=
  if names.isEmpty then complain ("unknown variant `" ++ name ++ "`, there are no variants")
  else complain ("unknown variant `" ++ name ++ "`, expected " ++ oneOf names)

/-- Refuses the items of a sequence beyond the `used` ones, as the dialect says. -/
def Dialect.checkSurplus (dl : Dialect) (used total : Nat) : Decoded Unit :=
  if used < total then
    match dl.surplus with
    | .refused what => invalidLength total what
    | .counted =>
      invalidLength total (if used = 1 then "1 element in sequence"
        else toString used ++ " elements in sequence")
    | .ignored => pure ()
  else pure ()

/-- A reader of values of `α` from data, in a dialect. -/
abbrev Decoder (α : Type) := Dialect → Datum → Decoded α

namespace Decoder

/-- Reads the datum without its span, and gives a complaint that has no span the
    datum's own. -/
def spanning (k : Dialect → Datum → Decoded α) : Decoder α := fun dl d =>
  match k dl d.bare with
  | .error e => .error (if e.span.isSome then e else { e with span := d.span? })
  | .ok a => .ok a

/-- Reads a value and forgets it: the check a struct runs on each entry. -/
def check (dec : Decoder α) : Decoder Unit := fun dl d => (dec dl d).map fun _ => ()

/-- A natural number up to `limit`, a word type named `name`. -/
def unsigned (name : String) (limit : Nat) : Decoder Nat := spanning fun dl d =>
  match d with
  | .int i =>
    if 0 ≤ i ∧ i.toNat ≤ limit then .ok i.toNat
    else invalidValue ("integer `" ++ toString i ++ "`") name
  | d => invalidType dl d name

/-- A size: a natural number below `2^64`. -/
def usize : Decoder Nat := unsigned "usize" (Nat.pow 2 64 - 1)

/-- A natural number below `2^64`. -/
def u64 : Decoder Nat := unsigned "u64" (Nat.pow 2 64 - 1)

/-- A natural number below `2^32`. -/
def u32 : Decoder Nat := unsigned "u32" (Nat.pow 2 32 - 1)

/-- A single-precision float: a number of either kind, rounded to the nearest. -/
def single : Decoder Float32 := spanning fun dl d =>
  match d with
  | .int i => .ok (Float.singleOfDecimal (decide (i < 0)) i.natAbs 0)
  | .float x => .ok (Float.singleOfDouble x)
  | d => invalidType dl d "f32"

/-- A boolean. -/
def bool : Decoder Bool := spanning fun dl d =>
  match d with
  | .bool b => .ok b
  | d => invalidType dl d "a boolean"

/-- A string, where the complaint calls what is wanted `expected`. -/
def text (expected : String) : Decoder String := spanning fun dl d =>
  match d with
  | .str s => .ok s
  | d => invalidType dl d expected

/-- A string. -/
def string : Decoder String := text "a string"

/-- A path, written as a string. -/
def path : Decoder String := text "path string"

/-- A value that may be absent: null is none. -/
def option (inner : Decoder α) : Decoder (Option α) := fun dl d =>
  match d.bare with
  | .null => .ok none
  | _ => (inner dl d).map some

/-- A sequence whose items `item` reads. -/
def seq (item : Decoder α) : Decoder (List α) := spanning fun dl d =>
  match d with
  | .seq xs => xs.mapM (item dl)
  | d => invalidType dl d "a sequence"

/-- A pair, written as a sequence of two items. -/
def pair (first : Decoder α) (second : Decoder β) : Decoder (α × β) := spanning fun dl d =>
  match d with
  | .seq xs => do
    let a ← match xs with
      | x :: _ => first dl x
      | [] => invalidLength 0 "a tuple of size 2"
    let b ← match xs with
      | _ :: y :: _ => second dl y
      | _ => invalidLength 1 "a tuple of size 2"
    dl.checkSurplus 2 xs.length
    pure (a, b)
  | d => invalidType dl d "a tuple of size 2"

/-- The unit that follows the name of a constant written as a map of one entry. -/
def unitAfterName : Decoder Unit := spanning fun dl d =>
  match dl.choices, d with
  | .keyed, .null => .ok ()
  | .keyed, d => invalidType dl d "unit"
  | .tabled, .seq [] => .ok ()
  | .tabled, .seq _ => complain "expected empty array"
  | .tabled, .map [] => .ok ()
  | .tabled, .map _ => complain "expected empty table"
  | .tabled, .int _ => complain "expected table, found integer"
  | .tabled, .float _ => complain "expected table, found float"
  | .tabled, .bool _ => complain "expected table, found boolean"
  | .tabled, _ => complain "expected table, found string"

/-- One of the named constants `choices`; a value may have several names, and a
    complaint lists them all in order. -/
def choice (choices : List (String × α)) : Decoder α := spanning fun dl d =>
  let named (s : String) : Decoded α :=
    match choices.lookup s with
    | some a => .ok a
    | none => unknownVariant s (choices.map Prod.fst)
  match dl.choices, d with
  | _, .str s => named s
  | .keyed, .map [(k, v)] => do
    let a ← named k
    unitAfterName dl v
    pure a
  | .keyed, .map _ => invalidValue "map" "map with a single key"
  | .keyed, d => invalidType dl d "string or map"
  | .tabled, .map [] => complain "wanted exactly 1 element, found 0 elements"
  | .tabled, .map [(k, v)] => do
    let a ← named k
    unitAfterName dl v
    pure a
  | .tabled, .map _ => complain "wanted exactly 1 element, more than 1 element"
  | .tabled, _ => complain "wanted string or table"

end Decoder

/-! ## Structs -/

/-- The fields of a struct as a datum gives them. -/
structure Fields where
  /-- The struct's name, for complaints. -/
  name : String
  /-- The names of its fields, in the order it declares them. -/
  order : List String
  /-- The entries found, by field name. -/
  entries : List (String × Datum)
  /-- Whether the fields came by position rather than by name. -/
  positional : Bool
  /-- The dialect they are read in. -/
  dialect : Dialect

namespace Fields

/-- The datum given for the field `key`. -/
def find? (fs : Fields) (key : String) : Option Datum := fs.entries.lookup key

/-- The complaint that the field `key` is missing: by name, or by its position
    when the fields came as a sequence too short to hold it. -/
def missing (fs : Fields) (key : String) : Decoded α :=
  if fs.positional then
    invalidLength (fs.order.idxOf key)
      ("struct " ++ fs.name ++ " with " ++ toString fs.order.length ++ " elements")
  else missingField key

/-- The field `key`, which must be present. -/
def need (fs : Fields) (key : String) (dec : Decoder α) : Decoded α :=
  match fs.find? key with
  | some d => dec fs.dialect d
  | none => fs.missing key

/-- The field `key`, or `dflt` when it is absent. -/
def getD (fs : Fields) (key : String) (dec : Decoder α) (dflt : α) : Decoded α :=
  match fs.find? key with
  | some d => dec fs.dialect d
  | none => .ok dflt

/-- An optional field `key`: absent from a map it is none; a sequence must still
    hold it. -/
def opt (fs : Fields) (key : String) (dec : Decoder α) : Decoded (Option α) :=
  match fs.find? key with
  | some d => Decoder.option dec fs.dialect d
  | none => if fs.positional then fs.missing key else .ok none

end Fields

/-- Checks the entries that name one of `checks`, in the order given. -/
def checkEntries (dl : Dialect) (checks : List (String × Decoder Unit)) :
    List (String × Datum) → Decoded Unit
  | [] => pure ()
  | (k, v) :: es => do
    match checks.lookup k with
    | some c => c dl v
    | none => pure ()
    checkEntries dl checks es

namespace Decoder

/-- A struct named `name` whose fields `checks` names and checks in declaration
    order, built by `build` once every entry given has passed its check. From a
    map, entries of other names are ignored; from a sequence, the items are the
    fields in order. -/
def record (name : String) (checks : List (String × Decoder Unit))
    (build : Fields → Decoded α) : Decoder α := spanning fun dl d =>
  let order := checks.map Prod.fst
  match d with
  | .map es => do
    checkEntries dl checks es
    build ⟨name, order, es, false, dl⟩
  | .seq xs => do
    let es := order.zip xs
    checkEntries dl checks es
    let a ← build ⟨name, order, es, true, dl⟩
    dl.checkSurplus order.length xs.length
    pure a
  | d => invalidType dl d ("struct " ++ name)

/-- A struct named `name` with its own fields `checks` and a struct flattened
    into it: the entries that none of its own fields names are gathered, without
    their spans, and read by `inner` as plain data. -/
def recordWith (name : String) (checks : List (String × Decoder Unit)) (inner : Decoder β)
    (build : Fields → β → Decoded α) : Decoder α := spanning fun dl d =>
  let order := checks.map Prod.fst
  match d with
  | .map es => do
    checkEntries dl checks es
    let rest := es.filter fun e => !order.contains e.1
    let b ← inner Dialect.gathered (Datum.map rest).strip
    build ⟨name, order, es, false, dl⟩ b
  | d => invalidType dl d ("struct " ++ name)

end Decoder

end EdgePack.Serde

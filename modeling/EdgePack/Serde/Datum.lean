import EdgePack.Json.Value
import EdgePack.Float.Text

/-!
# Documents as data

A configuration value read from a document, whatever its syntax: null,
booleans, integers, doubles, strings, sequences and maps with named entries.
A datum may carry the span of text it was read from, so that a complaint about
it can point there.

The two syntaxes word some complaints differently (`Dialect`): how a double
found in the wrong place is written, what a null is called, and whether a
sequence may hold more items than a struct has fields.
-/

namespace EdgePack.Serde

/-- A range of byte offsets in a source text. -/
structure Span where
  start : Nat
  stop : Nat
  deriving DecidableEq, Repr, Inhabited

/-- A value of a document. -/
inductive Datum where
  | null
  | bool (b : Bool)
  | int (i : Int)
  | float (x : Float)
  | str (s : String)
  | seq (items : List Datum)
  | map (entries : List (String × Datum))
  /-- A datum and the span of text it was read from. -/
  | spanned (span : Span) (d : Datum)
  deriving Inhabited

/-- What a syntax says of a sequence that holds more items than were read from it. -/
inductive Surplus where
  /-- Refused, naming what was expected instead (`fewer elements in array`). -/
  | refused (expected : String)
  /-- Refused, counting the items read (`2 elements in sequence`). -/
  | counted
  /-- Let pass. -/
  | ignored
  deriving Inhabited

/-- How a syntax writes a choice among named constants. -/
inductive ChoiceForm where
  /-- A string, or a map of one entry whose key is the name. -/
  | keyed
  /-- A string, or a table of one entry whose key is the name, as TOML writes it. -/
  | tabled
  deriving Inhabited

/-- How a syntax words its complaints. -/
structure Dialect where
  /-- The text of a double in a complaint. -/
  floatText : Float → String
  /-- The words for a null. -/
  nullText : String
  /-- Whether a struct or a tuple read from a sequence refuses items beyond its fields. -/
  surplus : Surplus
  /-- How a choice among named constants is written. -/
  choices : ChoiceForm

namespace Dialect

/-- The text of a double as a complaint about a configuration writes it:
    positional digits, with a `.0` on whole numbers. -/
def pointed (x : Float) : String :=
  let t := (Float.Value.ofDouble x).write .binary64 .plain
  if x.isNaN || x.isInf || t.contains '.' then t else t ++ ".0"

/-- JSON: doubles with their shortest digits, `null`, and no surplus items. -/
def json : Dialect :=
  ⟨fun x => (Float.Value.ofDouble x).write .binary64 (.data 16), "null",
    .refused "fewer elements in array", .keyed⟩

/-- TOML values: surplus items pass, and choices may be tables. -/
def toml : Dialect := ⟨pointed, "unit value", .ignored, .tabled⟩

/-- TOML values gathered for a struct flattened into another: read as plain data. -/
def gathered : Dialect := ⟨pointed, "unit value", .counted, .keyed⟩

end Dialect

namespace Datum

/-- The datum without its span. -/
def bare : Datum → Datum
  | .spanned _ d => bare d
  | d => d

/-- The span of a datum, when it has one. -/
def span? : Datum → Option Span
  | .spanned s _ => some s
  | _ => none

/-- The datum with every span removed, down to its leaves. -/
def strip : Datum → Datum
  | .spanned _ d => strip d
  | .seq xs => .seq (stripAll xs)
  | .map es => .map (stripEntries es)
  | d => d
where
  stripAll : List Datum → List Datum
    | [] => []
    | x :: xs => strip x :: stripAll xs
  stripEntries : List (String × Datum) → List (String × Datum)
    | [] => []
    | (k, v) :: es => (k, strip v) :: stripEntries es

/-- A JSON value as a datum. -/
def ofJson : Json → Datum
  | .null => .null
  | .bool b => .bool b
  | .num (.nat n) => .int n
  | .num (.neg n) => .int n
  | .num (.float x) => .float x
  | .num (.single x) => .float (Float.doubleOfSingle x)
  | .str s => .str s
  | .arr xs => .seq (ofJsonAll xs)
  | .obj ms => .map (ofJsonEntries ms)
where
  ofJsonAll : List Json → List Datum
    | [] => []
    | x :: xs => ofJson x :: ofJsonAll xs
  ofJsonEntries : List (String × Json) → List (String × Datum)
    | [] => []
    | (k, v) :: ms => (k, ofJson v) :: ofJsonEntries ms

/-- The datum as a JSON value, each double written by `float`. -/
def toJson (float : Float → Json) : Datum → Json
  | .null => .null
  | .bool b => .bool b
  | .int i => if 0 ≤ i then Json.num (.nat i.toNat) else Json.num (.neg i)
  | .float x => float x
  | .str s => .str s
  | .seq xs => .arr (toJsonAll float xs)
  | .map es => .obj (toJsonEntries float es)
  | .spanned _ d => toJson float d
where
  toJsonAll (float : Float → Json) : List Datum → List Json
    | [] => []
    | x :: xs => toJson float x :: toJsonAll float xs
  toJsonEntries (float : Float → Json) : List (String × Datum) → List (String × Json)
    | [] => []
    | (k, v) :: es => (k, toJson float v) :: toJsonEntries float es

end Datum

end EdgePack.Serde

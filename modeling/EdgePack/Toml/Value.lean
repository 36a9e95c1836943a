import EdgePack.Serde.Datum

/-!
# TOML keys and values

A key keeps its name, its text as written (quotes included) and its span; a
value is a string, an integer, a float, a boolean, a date-time, an array or an
inline table. Tables made by dotted keys inside an inline table are marked, so
that a later entry cannot redefine them.

`Clash` is what a well-formed piece of text can still get wrong against the
document built so far: a key defined twice, a dotted key running through a
value, a number out of range, or nesting too deep.
-/

namespace EdgePack.Toml

open Serde (Span Datum)

/-- A key as it stands in the document. -/
structure Key where
  /-- The name it denotes. -/
  name : String
  /-- Its text, quotes included. -/
  raw : String
  /-- Where it stands. -/
  span : Span
  deriving Inhabited

/-- A TOML value. -/
inductive Value where
  | str (s : String)
  | int (i : Int)
  | float (x : Float)
  | bool (b : Bool)
  /-- A date, a time or both, as written. -/
  | datetime (text : String)
  /-- An array: its items with their spans. -/
  | array (items : List (Span × Value))
  /-- An inline table: its entries, each with the span of the value when one was
      written, and whether a dotted key made the table. -/
  | inline (entries : List (Key × Option Span × Value)) (dotted : Bool)
  deriving Inhabited

namespace Value

/-- The kind of a value, as complaints name it. -/
def typeName : Value → String
  | .str _ => "string"
  | .int _ => "integer"
  | .float _ => "float"
  | .bool _ => "boolean"
  | .datetime _ => "datetime"
  | .array _ => "array"
  | .inline _ _ => "inline table"

/-- The key under which a date-time is handed over as a map of one entry. -/
def datetimeKey : String := "$__toml_private_datetime"

/-- The value as data, with the spans of the values inside it; an entry whose
    value has no span takes its key's. -/
def toDatum : Value → Datum
  | .str s => .str s
  | .int i => .int i
  | .float x => .float x
  | .bool b => .bool b
  | .datetime t => .map [(datetimeKey, .str t)]
  | .array items => .seq (items_ items)
  | .inline entries _ => .map (entries_ entries)
where
  items_ : List (Span × Value) → List Datum
    | [] => []
    | (sp, v) :: rest => .spanned sp (toDatum v) :: items_ rest
  entries_ : List (Key × Option Span × Value) → List (String × Datum)
    | [] => []
    | (k, sp, v) :: rest => (k.name, .spanned (sp.getD k.span) (toDatum v)) :: entries_ rest

end Value

/-- A conflict between a well-formed piece of text and the document so far. -/
inductive Clash where
  /-- A key defined twice, in the table at `table` when that is known
      (the empty path is the document root). -/
  | duplicateKey (key : String) (table : Option (List String))
  /-- A dotted key whose prefix `path` names a value of kind `actual`. -/
  | extendsValue (path : List String) (actual : String)
  /-- A number outside its range. -/
  | outOfRange
  /-- Arrays, inline tables or keys nested too deep. -/
  | tooDeep

/-- The words of a conflict. -/
def Clash.message : Clash → String
  | .duplicateKey key none => "duplicate key `" ++ key ++ "`"
  | .duplicateKey key (some []) => "duplicate key `" ++ key ++ "` in document root"
  | .duplicateKey key (some path) =>
    "duplicate key `" ++ key ++ "` in table `" ++ ".".intercalate path ++ "`"
  | .extendsValue path actual =>
    "dotted key `" ++ ".".intercalate path ++ "` attempted to extend non-table type (" ++ actual ++ ")"
  | .outOfRange => "value is out of range"
  | .tooDeep => "recursion limit exceeded"

end EdgePack.Toml

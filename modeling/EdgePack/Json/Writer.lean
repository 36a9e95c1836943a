import EdgePack.Json.Value
import EdgePack.Float.Text

/-!
# Writing JSON text

Two layouts: `Json.compact` writes no whitespace at all, and `Json.pretty`
puts each array item and object member on a line of its own, indented by two
spaces per level, with `": "` after a key; an empty array or object stays `[]`
or `{}`. Members are written in the order the object holds them.

A string escapes the quote, the backslash and the control characters (`\n`,
`\t`, `\r`, `\b`, `\f` by name, the others as `\u00xx` in lower-case hex);
everything else is written as it is. A number is written with its shortest
digits (`Notation.data`); a NaN or an infinity, which JSON cannot hold, is
written `null`.
-/

namespace EdgePack.Json

/-- A string as a JSON string literal. -/
def quote (s : String) : String :=
  let hex := "0123456789abcdef".toList
  "\"" ++ String.join (s.toList.map fun c =>
    match c with
    | '"' => "\\\""
    | '\\' => "\\\\"
    | '\n' => "\\n"
    | '\r' => "\\r"
    | '\t' => "\\t"
    | '\x08' => "\\b"
    | '\x0c' => "\\f"
    | c =>
      if c.toNat < 32 then
        "\\u00" ++ String.singleton (hex.getD (c.toNat / 16) '0') ++ String.singleton (hex.getD (c.toNat % 16) '0')
      else String.singleton c) ++ "\""

end EdgePack.Json

namespace EdgePack

/-- The text of a number. -/
def Number.text : Number → String
  | .nat n => toString n
  | .neg n => toString n
  | .float x => if x.isNaN || x.isInf then "null"
    else (Float.Value.ofDouble x).write .binary64 (.data 16)
  | .single x => if x.isNaN || x.isInf then "null"
    else (Float.Value.ofSingle x).write .binary32 (.data 13)

end EdgePack

namespace EdgePack.Json

mutual

/-- The text of a value with no whitespace. -/
def compact : Json → String
  | .null => "null"
  | .bool b => if b then "true" else "false"
  | .num n => n.text
  | .str s => quote s
  | .arr xs => "[" ++ ",".intercalate (compactItems xs) ++ "]"
  | .obj ms => "\x7b" ++ ",".intercalate (compactMembers ms) ++ "\x7d"

/-- The compact texts of array items. -/
def compactItems : List Json → List String
  | [] => []
  | x :: xs => compact x :: compactItems xs

/-- The compact texts of object members. -/
def compactMembers : List (String × Json) → List String
  | [] => []
  | (k, v) :: ms => (quote k ++ ":" ++ compact v) :: compactMembers ms

end

/-- `n` levels of two-space indentation. -/
def indent (n : Nat) : String := String.ofList (List.replicate (2 * n) ' ')

mutual

/-- The text of a value laid out over lines, nested `level` deep. -/
def prettyAt (level : Nat) : Json → String
  | .arr [] => "[]"
  | .obj [] => "\x7b\x7d"
  | .arr xs =>
    "[\n" ++ ",\n".intercalate (prettyItems (level + 1) xs) ++ "\n" ++ indent level ++ "]"
  | .obj ms =>
    "\x7b\n" ++ ",\n".intercalate (prettyMembers (level + 1) ms) ++ "\n" ++ indent level ++ "\x7d"
  | .null => "null"
  | .bool b => if b then "true" else "false"
  | .num n => n.text
  | .str s => quote s

/-- Array items, each on its own line at `level`. -/
def prettyItems (level : Nat) : List Json → List String
  | [] => []
  | x :: xs => (indent level ++ prettyAt level x) :: prettyItems level xs

/-- Object members, each on its own line at `level`. -/
def prettyMembers (level : Nat) : List (String × Json) → List String
  | [] => []
  | (k, v) :: ms => (indent level ++ quote k ++ ": " ++ prettyAt level v) :: prettyMembers level ms

end

/-- The text of a value laid out over lines. -/
def pretty (j : Json) : String := prettyAt 0 j

end EdgePack.Json

import EdgePack.Serde.Datum
import EdgePack.Float.Text

/-!
# Writing TOML documents

`Toml.print` writes data as a TOML document laid out for reading:

* the plain values of the root first, then every table under a header of its
  own (`[tools.ncc]`), in the order the data give them, a blank line before
  each header but the first thing written;
* a table whose entries are all tables gets no header of its own; one with no
  entries at all does;
* a sequence of maps is an array of tables, each under `[[name]]`;
* arrays of two or more items put each item on a line of its own, indented by
  four spaces and followed by a comma; shorter arrays stay on one line;
* absent values (null) are left out.

Strings take the first form that needs no escape: a basic string, a literal
string, then the multi-line forms; failing all, an escaped basic string.
Floats are written positionally with a `.0` on whole numbers; `nan`, `inf` and
a negative zero keep their sign.
-/

namespace EdgePack.Toml

open Serde (Datum)

/-! ## Strings -/

/-- What decides how a string is written: the longest runs of single and of
    double quotes, and whether it holds control characters, backslashes or
    line feeds. -/
structure StringShape where
  singles : Nat
  doubles : Nat
  controls : Bool
  backslash : Bool
  newline : Bool

/-- One byte of the shape of a string: the shape so far and the current runs
    of single and double quotes. -/
def shapeStep (acc : StringShape × Nat × Nat) (b : UInt8) : StringShape × Nat × Nat :=
  let (sh, runS, runD) := acc
  if b == 0x27 then (sh, runS + 1, runD)
  else if b == 0x22 then (sh, runS, runD + 1)
  else
    let sh := { sh with singles := max sh.singles runS, doubles := max sh.doubles runD }
    let sh :=
      if b == 0x5C then { sh with backslash := true }
      else if b == 0x09 then sh
      else if b == 0x0A then { sh with newline := true }
      else if b ≤ 0x1F || b == 0x7F then { sh with controls := true }
      else sh
    (sh, 0, 0)

/-- The shape of a string, byte by byte, with the current runs of quotes. -/
def shapeOf (s : String) : StringShape :=
  let (sh, runS, runD) := s.toUTF8.toList.foldl shapeStep (⟨0, 0, false, false, false⟩, 0, 0)
  { sh with singles := max sh.singles runS, doubles := max sh.doubles runD }

/-- Four uppercase hexadecimal digits of a byte. -/
def hex4 (b : UInt8) : String :=
  let d (n : Nat) : Char := if n < 10 then Char.ofNat (48 + n) else Char.ofNat (55 + n)
  String.ofList ['0', '0', d (b.toNat / 16), d (b.toNat % 16)]

/-- One character of a string with escapes for a basic string, after `run`
    double quotes written as they stand: in the multi-line form line feeds
    stay and runs of up to two double quotes do too. -/
def escapeStep (multiline : Bool) (acc : String × Nat) (c : Char) : String × Nat :=
  let most := if multiline then 2 else 0
  let (out, run) := acc
  if c == '"' then
    if run + 1 > most then (out ++ "\\\"", 0) else (out.push c, run + 1)
  else
    let out := if c == '\x08' then out ++ "\\b"
      else if c == '\t' then out ++ "\\t"
      else if c == '\n' then (if multiline then out.push c else out ++ "\\n")
      else if c == '\x0c' then out ++ "\\f"
      else if c == '\r' then out ++ "\\r"
      else if c == '\\' then out ++ "\\\\"
      else if c.toNat ≤ 0x1F || c.toNat == 0x7F then out ++ "\\u" ++ hex4 c.toNat.toUInt8
      else out.push c
    (out, 0)

/-- The characters of a string with escapes for a basic string. -/
def escapeBasic (multiline : Bool) (s : String) : String :=
  (s.toList.foldl (escapeStep multiline) ("", 0)).1

/-- A string as a TOML value, in the first form that suits it. -/
def quoteString (s : String) : String :=
  let sh := shapeOf s
  let lead := if sh.newline then "\n" else ""
  if !(sh.controls || sh.backslash || sh.doubles > 0 || sh.newline) then "\"" ++ s ++ "\""
  else if !(sh.controls || sh.singles > 0 || sh.newline) then "'" ++ s ++ "'"
  else if !(sh.controls || sh.backslash || sh.doubles > 2) then
    "\"\"\"" ++ lead ++ escapeBasic true s ++ "\"\"\""
  else if !(sh.controls || sh.singles > 2) then "'''" ++ lead ++ s ++ "'''"
  else if sh.newline then "\"\"\"" ++ lead ++ escapeBasic true s ++ "\"\"\""
  else "\"" ++ escapeBasic false s ++ "\""

/-- A byte of a bare key. -/
def isBareKeyChar (c : Char) : Bool := c.isAlphanum || c == '-' || c == '_'

/-- A key: bare when it can be, else quoted. -/
def keyText (k : String) : String :=
  if !k.isEmpty && k.toList.all isBareKeyChar then k
  else
    let sh := shapeOf k
    if !(sh.controls || sh.backslash || sh.doubles > 0 || sh.newline) then "\"" ++ k ++ "\""
    else if !(sh.controls || sh.singles > 0 || sh.newline) then "'" ++ k ++ "'"
    else "\"" ++ escapeBasic false k ++ "\""

/-- A double as a TOML value. -/
def doubleText (x : Float) : String := (Float.Value.ofDouble x).write .binary64 .config

/-! ## Values -/

/-- Whether a datum, spans aside, is a map. -/
def isMap : Datum → Bool
  | .spanned _ d => isMap d
  | .map _ => true
  | _ => false

/-- Whether a sequence is written as an array of tables: it holds maps only, and some. -/
def isTableArray (xs : List Datum) : Bool := !xs.isEmpty && xs.all isMap

/-- Whether a datum is null, spans aside. -/
def isNull : Datum → Bool
  | .spanned _ d => isNull d
  | .null => true
  | _ => false

/-- Whether an entry is written on a line of its table: neither null, nor a
    table, nor an array of tables. -/
def isLineEntry : Datum → Bool
  | .spanned _ d => isLineEntry d
  | .null => false
  | .map _ => false
  | .seq xs => !isTableArray xs
  | _ => true

/-- An array from the texts of its items: on one line for fewer than two, else
    one item a line. -/
def arrayText : List String → String
  | [] => "[]"
  | [x] => "[" ++ x ++ "]"
  | xs => "[" ++ String.join (xs.map fun x => "\n    " ++ x ++ ",") ++ "\n]"

/-- An inline table from the texts of its entries. -/
def inlineTableText : List String → String
  | [] => "\x7b\x7d"
  | parts => "\x7b " ++ ", ".intercalate parts ++ " \x7d"

/-- A datum as a TOML value on one line, or on several for arrays of two or more items. -/
def valueText : Datum → String
  | .null => ""
  | .bool b => if b then "true" else "false"
  | .int i => toString i
  | .float x => doubleText x
  | .str s => quoteString s
  | .seq xs => arrayText (itemsText xs)
  | .map es => inlineTableText (entriesText es)
  | .spanned _ d => valueText d
where
  itemsText : List Datum → List String
    | [] => []
    | x :: rest => valueText x :: itemsText rest
  entriesText : List (String × Datum) → List String
    | [] => []
    | (k, d) :: rest =>
      if isNull d then entriesText rest
      else (keyText k ++ " = " ++ valueText d) :: entriesText rest

/-! ## Documents -/

/-- A table as the document writes it: its path, its line entries, whether it
    is an item of an array of tables, and whether its header is left out. -/
structure Section where
  path : List String
  lines : List (String × Datum)
  inArray : Bool
  hidden : Bool

/-- The section of a table at `path` with entries `es`. -/
def sectionOf (path : List String) (inArray : Bool) (es : List (String × Datum)) : Section :=
  let present := es.filter fun e => !isNull e.2
  let lines := present.filter fun e => isLineEntry e.2
  ⟨path, lines, inArray, !inArray && !present.isEmpty && lines.isEmpty⟩

mutual

/-- The sections of the tables among entries, depth first. -/
def entrySections (path : List String) : List (String × Datum) → List Section
  | [] => []
  | (k, d) :: rest => datumSections (path ++ [k]) d ++ entrySections path rest

/-- The sections of a datum at `path`: a table and its own tables, or the
    tables of an array of tables. -/
def datumSections (path : List String) : Datum → List Section
  | .spanned _ d => datumSections path d
  | .map es => sectionOf path false es :: entrySections path es
  | .seq xs => if isTableArray xs then arraySections path xs else []
  | _ => []

/-- The sections of the tables of an array of tables. -/
def arraySections (path : List String) : List Datum → List Section
  | [] => []
  | d :: rest => itemSections path d ++ arraySections path rest

/-- The sections of one table of an array of tables. -/
def itemSections (path : List String) : Datum → List Section
  | .spanned _ d => itemSections path d
  | .map es => sectionOf path true es :: entrySections path es
  | _ => []

end

/-- A header naming a path. -/
def headerText (s : Section) : String :=
  let name := ".".intercalate (s.path.map keyText)
  if s.inArray then "[[" ++ name ++ "]]" else "[" ++ name ++ "]"

/-- The sections written in order; `first` tells whether nothing was written yet. -/
def sectionsText : Bool → List Section → String
  | _, [] => ""
  | first, s :: rest =>
    let body := String.join (s.lines.map fun e => keyText e.1 ++ " = " ++ valueText e.2 ++ "\n")
    if s.path.isEmpty then body ++ sectionsText (first && s.lines.isEmpty) rest
    else if s.hidden then body ++ sectionsText first rest
    else (if first then "" else "\n") ++ headerText s ++ "\n" ++ body ++ sectionsText false rest

/-- The entries of a root table as a TOML document. -/
def print (root : List (String × Datum)) : String :=
  sectionsText true (sectionOf [] false root :: entrySections [] root)

end EdgePack.Toml

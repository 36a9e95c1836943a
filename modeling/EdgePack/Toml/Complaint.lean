import EdgePack.Toml.Document
import EdgePack.Serde.Decode

/-!
# Complaints about TOML documents

A complaint about a document, whether its text is malformed or its data do not
fit what was asked of them, is shown with the line it points at:

```text
TOML parse error at line 2, column 8
  |
2 | root = 5
  |        ^
invalid type: integer `5`, expected path string
```

The column counts characters, except when the span starts inside a character
of several bytes, where it counts bytes. The carets cover the span, cut at the
end of the line, and there is always at least one. A complaint with no span is
its words alone.

`Toml.decode` reads a document and then its data with a decoder, and gives
either the value or the complaint, shown this way.
-/

namespace EdgePack.Toml

open Serde (Span Datum Decoder Dialect)

/-- The line (from 0) and column of byte `index` of a text's bytes. -/
def position (bytes : List UInt8) (index : Nat) : Nat × Nat :=
  if bytes.isEmpty then (0, index)
  else
    let safe := min index (bytes.length - 1)
    let beyond := index - safe
    let lineStart := match (bytes.take safe).reverse.findIdx? (· == 0x0A) with
      | some k => safe - k
      | none => 0
    let line := (bytes.take lineStart).count 0x0A
    let piece := (bytes.drop lineStart).take (safe - lineStart + 1)
    let column := match String.fromUTF8? ⟨piece.toArray⟩ with
      | some s => s.length - 1
      | none => safe - lineStart
    (line, column + beyond)

/-- `n` copies of a character. -/
def repeatChar (n : Nat) (c : Char) : String := String.ofList (List.replicate n c)

/-- A complaint about the text `text`, shown with the line its span points at. -/
def showComplaint (text : String) (message : String) : Option Span → String
  | none => message ++ "\n"
  | some sp =>
    let (line, column) := position text.toUTF8.toList sp.start
    let number := toString (line + 1)
    let content := (text.splitOn "\n").getD line ""
    let carets := min (sp.stop - sp.start) (content.utf8ByteSize - column)
    let gutter := repeatChar (number.length + 1) ' '
    "TOML parse error at line " ++ number ++ ", column " ++ toString (column + 1) ++ "\n" ++
      gutter ++ "|\n" ++
      number ++ " | " ++ content ++ "\n" ++
      gutter ++ "|" ++ repeatChar (column + 1) ' ' ++ "^" ++ repeatChar (carets - 1) '^' ++ "\n" ++
      message ++ "\n"

/-- The value that `dec` reads from the TOML text, or the complaint about the
    text or its data, shown with the line it points at. -/
def decode (dec : Decoder α) (text : String) : Except String α :=
  match read text with
  | .error (message, span) => .error (showComplaint text message span)
  | .ok d =>
    match dec Dialect.toml d with
    | .ok a => .ok a
    | .error e => .error (showComplaint text e.text e.span)

end EdgePack.Toml

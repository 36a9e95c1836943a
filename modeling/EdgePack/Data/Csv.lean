import EdgePack.Text.Utf8

/-!
# Comma-separated tables

A table is read as records of fields. Fields are separated by commas and
records end at a line feed, a carriage return or both; empty lines make no
record. A field that starts with a double quote runs to the next lone quote,
a doubled quote inside standing for one quote, and may then hold commas and
line breaks; text after the closing quote is kept as it comes. A byte-order
mark at the very start is skipped. Reading the bytes never fails; the checks
come after, record by record, in order:

* every record must have as many fields as the first;
* every field must be UTF-8.

Each record remembers where it starts: its number counted from zero, its line
counted from one, and its byte offset; a record starts where the one before it
stopped reading, which is just after the line feed or carriage return that
ended it, before any empty lines.
-/

namespace EdgePack.Csv

/-- Where a record starts. -/
structure Position where
  record : Nat
  line : Nat
  byte : Nat
  deriving DecidableEq, Repr, Inhabited

/-- A record as bytes, with where it starts. -/
structure RawRecord where
  fields : List ByteArray
  position : Position
  deriving Inhabited

/-- What the reader is inside of. -/
inductive State where
  | startRecord
  | startField
  | inField
  | inQuoted
  /-- Just after a quote inside a quoted field. -/
  | afterQuote
  deriving DecidableEq, Repr, Inhabited

/-- The reader's progress: state, bytes consumed, line feeds seen, the field
    and record being built, and the records finished. -/
structure Scan where
  state : State := .startRecord
  consumed : Nat := 0
  lines : Nat := 0
  field : ByteArray := .empty
  current : List ByteArray := []
  start : Position := ⟨0, 1, 0⟩
  finished : Array RawRecord := #[]

namespace Scan

/-- Whether a byte ends a record. -/
def isTerminator (b : UInt8) : Bool := b == 10 || b == 13

/-- The current field ends. -/
def endField (s : Scan) : Scan := { s with current := s.current ++ [s.field], field := .empty }

/-- The current record ends, after the byte just consumed. -/
def endRecord (s : Scan) : Scan :=
  let s := s.endField
  let r : RawRecord := ⟨s.current, s.start⟩
  { s with
    current := [], state := .startRecord, finished := s.finished.push r
    start := ⟨s.start.record + 1, s.lines + 1, s.consumed⟩ }

/-- One more byte. -/
def step (s : Scan) (b : UInt8) : Scan :=
  let s := { s with consumed := s.consumed + 1, lines := (if b == 10 then s.lines + 1 else s.lines) }
  match s.state with
  | .startRecord =>
    if isTerminator b then s else startField s b
  | .startField => startField s b
  | .inField =>
    if b == 44 then { s.endField with state := .startField }
    else if isTerminator b then s.endRecord
    else { s with field := s.field.push b }
  | .inQuoted =>
    if b == 34 then { s with state := .afterQuote } else { s with field := s.field.push b }
  | .afterQuote =>
    if b == 34 then { s with state := .inQuoted, field := s.field.push b }
    else if b == 44 then { s.endField with state := .startField }
    else if isTerminator b then s.endRecord
    else { s with state := .inField, field := s.field.push b }
where
  /-- The first byte of a field. -/
  startField (s : Scan) (b : UInt8) : Scan :=
    if b == 34 then { s with state := .inQuoted }
    else if b == 44 then { s.endField with state := .startField }
    else if isTerminator b then s.endRecord
    else { s with state := .inField, field := s.field.push b }

/-- The last record, if the input ended inside one. -/
def finish (s : Scan) : Array RawRecord :=
  if s.state == .startRecord then s.finished else s.endRecord.finished

end Scan

/-- The records of a table's bytes. -/
def records (data : ByteArray) : List RawRecord :=
  let bom := data.size ≥ 3 && data[0]? == some 0xEF && data[1]? == some 0xBB && data[2]? == some 0xBF
  let body := if bom then data.extract 3 data.size else data
  let s0 : Scan := if bom then { consumed := 3, start := ⟨0, 1, 3⟩ } else {}
  (body.foldl Scan.step s0).finish.toList

/-- Why a table cannot be read as text records. -/
inductive CsvError where
  /-- A record has another number of fields than the first. -/
  | unequalLengths (pos : Position) (expected found : Nat)
  /-- A field is not UTF-8: the field's number and the length of its valid start. -/
  | utf8 (pos : Position) (field validUpTo : Nat)
  deriving DecidableEq, Repr, Inhabited

/-- The words for a failure. -/
def CsvError.message : CsvError → String
  | .unequalLengths p e f =>
    s!"CSV error: record {p.record} (line: {p.line}, byte: {p.byte}): found record with {f} fields, but the previous record has {e} fields"
  | .utf8 p field upTo =>
    s!"CSV parse error: record {p.record} (line {p.line}, field: {field}, byte: {p.byte}): invalid utf-8: invalid UTF-8 in field {field} near byte index {upTo}"

/-- The length of the longest start of `data` that is UTF-8. -/
def validPrefix (data : ByteArray) : Nat :=
  go data.size data.toList 0
where
  go : Nat → List UInt8 → Nat → Nat
    | 0, _, n => n
    | fuel + 1, bs, n =>
      match bs with
      | [] => n
      | b :: rest =>
        if b < 0x80 then go fuel rest (n + 1)
        else
          match Utf8.lead b with
          | none => n
          | some (need, lo, hi) =>
            if Utf8.wellFormed lo hi need rest = need then go fuel (rest.drop need) (n + 1 + need)
            else n

/-- A record's fields as text, or where the first field that is not UTF-8 fails. -/
def RawRecord.text (r : RawRecord) : Except CsvError (List String) :=
  r.fields.zipIdx.mapM fun (f, i) =>
    match String.fromUTF8? f with
    | some s => .ok s
    | none => .error (.utf8 r.position i (validPrefix f))

/-- A table of text: its header and its other records, each record checked in
    order against the header's length and for UTF-8. The records are given as
    they are read, so a failure stops the table where it stands. -/
structure Table where
  header : List String
  rows : List (Except CsvError (List String))

/-- The header of a table and its rows, each row read when it is reached. -/
def Table.read (data : ByteArray) : Except CsvError Table :=
  match records data with
  | [] => .ok ⟨[], []⟩
  | h :: rest => do
    let header ← h.text
    let width := h.fields.length
    pure ⟨header, rest.map fun r =>
      if r.fields.length != width then .error (.unequalLengths r.position width r.fields.length)
      else r.text⟩

end EdgePack.Csv

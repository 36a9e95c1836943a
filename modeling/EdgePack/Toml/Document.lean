import EdgePack.Toml.Lexical

/-!
# TOML documents

A document is a table of entries in the order they were defined. An entry is
a value, a table, or an array of tables. Tables come from headers (`[a.b]`),
from headers of deeper tables, which leave their parents implicit, and from
dotted keys (`a.b = 1`).

`Builder` assembles a document line by line, as the reader meets key/value
lines and headers. A header first files the table read so far under its path,
then opens the next one; an implicit table may still be opened by a header of
its own, once. A key may be defined only once in a table, a dotted key may not
run through a value, and a table opened by a header may not be extended by a
dotted key from elsewhere: the `Clash` for each names the key as written.

`Toml.read` turns a text into data whose every table and value carries its
span: a table the span of its header (up to its last value), a value its own
text. A table without a header takes the span of its key, so that a complaint
about its contents can still point somewhere.
-/

namespace EdgePack.Toml

open Serde (Span Datum)
open Rule

/-- An entry of a table. -/
inductive Item where
  /-- A value and its span. -/
  | value (v : Value) (span : Span)
  /-- A table: its entries, whether only deeper headers or dotted keys made it
      (`implicit`), whether a dotted key made it, and its span when it has a header. -/
  | table (entries : List (Key × Item)) (implicit dotted : Bool) (span : Option Span)
  /-- An array of tables, each an `Item.table`, and its span. -/
  | tables (items : List Item) (span : Option Span)
  deriving Inhabited

/-- A table of the document, unpacked. -/
structure Table where
  entries : List (Key × Item)
  implicit : Bool
  dotted : Bool
  span : Option Span

namespace Table

/-- An explicit table without entries, with a span. -/
def opened (span : Option Span) : Table := ⟨[], false, false, span⟩

/-- The table as an entry. -/
def toItem (t : Table) : Item := .table t.entries t.implicit t.dotted t.span

/-- The entry named `name`. -/
def find? (t : Table) (name : String) : Option Item :=
  (t.entries.find? fun e => e.1.name == name).map Prod.snd

/-- The table with a new entry at its end. -/
def push (t : Table) (k : Key) (it : Item) : Table := { t with entries := t.entries ++ [(k, it)] }

/-- The table with the entry named `name` replaced where it stands. -/
def put (t : Table) (name : String) (it : Item) : Table :=
  { t with entries := t.entries.map fun e => if e.1.name == name then (e.1, it) else e }

/-- The table without the entry named `name`. -/
def erase (t : Table) (name : String) : Table :=
  { t with entries := t.entries.filter fun e => e.1.name != name }

/-- Walks down `path` from the table, through tables and into the last table of
    arrays of tables, making implicit tables (marked `dotted` as asked) where
    nothing stands yet; applies `k` to the table reached and puts the tables
    walked through back together. `walked` is the part of the path already
    walked. A dotted walk may not enter a table that a header opened. -/
def descend (dotted : Bool) (k : Table → Except Clash (Table × α)) (walked : List Key) :
    List Key → Table → Except Clash (Table × α)
  | [], t => k t
  | key :: rest, t =>
    match t.find? key.name with
    | none => do
      let (child, a) ← descend dotted k (walked ++ [key]) rest ⟨[], true, dotted, none⟩
      pure (t.push key child.toItem, a)
    | some (.tables items sp) => do
      let last : Table := match items.getLast? with
        | some (.table es imp dot s) => ⟨es, imp, dot, s⟩
        | _ => opened none
      let (child, a) ← descend dotted k (walked ++ [key]) rest last
      pure (t.put key.name (.tables (items.dropLast ++ [child.toItem]) sp), a)
    | some (.table es imp dot sp) =>
      if dotted && !imp then .error (.duplicateKey key.name none)
      else do
        let (child, a) ← descend dotted k (walked ++ [key]) rest ⟨es, imp, dot, sp⟩
        pure (t.put key.name child.toItem, a)
    | some (.value v _) => .error (.extendsValue ((walked ++ [key]).map (·.name)) v.typeName)

end Table

/-- The span of an array of tables: from its first table's to its last's. -/
def tablesSpan (items : List Item) : Option Span :=
  match items.head?, items.getLast? with
  | some (.table _ _ _ (some a)), some (.table _ _ _ (some b)) => some ⟨a.start, b.stop⟩
  | _, _ => none

/-- The complaint that the last key of `path` is already defined, naming it as
    written and the table it stands in. -/
def duplicateAt (path : List Key) : Clash :=
  match path.reverse with
  | last :: parents => .duplicateKey last.raw (some (parents.reverse.map (·.name)))
  | [] => .duplicateKey "" (some [])

/-- The state of a document being read: the tables filed so far, the table
    being filled, its path, and whether it belongs to an array of tables. -/
structure Builder where
  root : Table
  current : Table
  path : List Key
  isArray : Bool

namespace Builder

/-- Nothing read yet: the table being filled is the root, spanning nothing so far. -/
def initial : Builder := ⟨Table.opened none, Table.opened (some ⟨0, 0⟩), [], false⟩

/-- Adds `key = v` at the dotted path `path` of the table being filled; its span
    now reaches the end of `v`. -/
def addValue (b : Builder) (path : List Key) (key : Key) (v : Value) (sp : Span) :
    Except Clash Builder := do
  let cur := match b.current.span with
    | some s => { b.current with span := some ⟨s.start, sp.stop⟩ }
    | none => b.current
  let (cur', ()) ← cur.descend true (fun t =>
      if t.dotted == path.isEmpty then .error (.duplicateKey key.name none)
      else if (t.find? key.name).isSome then
        .error (.duplicateKey key.name (some (b.path.map (·.name))))
      else .ok (t.push key (.value v sp), ())) [] path
  pure { b with current := cur' }

/-- Files the table being filled under its path and starts afresh. -/
def file (b : Builder) : Except Clash Builder := do
  let fresh (root : Table) : Builder := ⟨root, Table.opened none, [], false⟩
  match b.path.reverse with
  | [] => pure (fresh b.current)
  | last :: parents =>
    let cur := b.current.toItem
    let (root, ()) ← b.root.descend false (fun parent =>
        match parent.find? last.name, b.isArray with
        | none, true => .ok (parent.push last (.tables [cur] (tablesSpan [cur])), ())
        | some (.tables items _), true =>
          .ok (parent.put last.name (.tables (items ++ [cur]) (tablesSpan (items ++ [cur]))), ())
        | none, false => .ok (parent.push last cur, ())
        | some (.table _ true _ _), false => .ok (parent.put last.name cur, ())
        | _, _ => .error (duplicateAt b.path)) [] parents.reverse
    pure (fresh root)

/-- Opens the table `[path]`, spanning its header: a new one, or an implicit one
    that deeper headers made. -/
def openTable (b : Builder) (path : List Key) (span : Span) : Except Clash Builder := do
  match path.reverse with
  | [] => pure b
  | last :: parents =>
    let (root, cur) ← b.root.descend false (fun parent =>
        match parent.find? last.name with
        | none => .ok (parent, Table.opened (some span))
        | some (.table es true false _) => .ok (parent.erase last.name, ⟨es, false, false, some span⟩)
        | some _ => .error (duplicateAt path)) [] parents.reverse
    pure ⟨root, cur, path, false⟩

/-- Opens the next table of the array of tables `[[path]]`, spanning its header. -/
def openArrayTable (b : Builder) (path : List Key) (span : Span) : Except Clash Builder := do
  match path.reverse with
  | [] => pure b
  | last :: parents =>
    let (root, ()) ← b.root.descend false (fun parent =>
        match parent.find? last.name with
        | none => .ok (parent.push last (.tables [] none), ())
        | some (.tables _ _) => .ok (parent, ())
        | some _ => .error (duplicateAt path)) [] parents.reverse
    pure ⟨root, Table.opened (some span), path, true⟩

/-- A header: files the table being filled, then opens the one named. -/
def header (b : Builder) (isArray : Bool) (path : List Key) (span : Span) : Except Clash Builder := do
  let b ← b.file
  if isArray then b.openArrayTable path span else b.openTable path span

end Builder

/-! ## Lines -/

/-- A header line, `[key]` or `[[key]]`, applied to the builder. -/
def headerLine (b : Builder) : Rule Builder :=
  label "table header" (fun c =>
    let (isArray, opening, closing) : Bool × List UInt8 × String :=
      match c.rest with
      | 0x5B :: 0x5B :: _ => (true, [0x5B, 0x5B], "]]")
      | _ => (false, [0x5B], "]")
    if c.rest.length < 2 then backtrack c
    else
      (tryMap (do
          let (path, span) ← withSpan (do
            tag opening
            let path ← cut key
            expect (.text closing) (expect (.char '.') (cut (tag closing.toUTF8.toList)))
            pure path)
          expect (.char '#') (expect (.char '\n') (cut lineTrailing))
          pure (path, span))
        fun (path, span) => (b.header isArray path span).mapError Clash.message) c)

/-- A key/value line, applied to the builder. -/
def keyvalLine (b : Builder) : Rule Builder :=
  tryMap (do
      let path ← key
      cut (do
        expect (.char '=') (expect (.char '.') (byte (asc '=')))
        ws
        let (v, sp) ← value depthLimit
        expect (.char '#') (expect (.char '\n') lineTrailing)
        pure (path, v, sp)))
    fun (path, v, sp) =>
      match path.reverse with
      | leaf :: parents => (b.addValue parents.reverse leaf v sp).mapError Clash.message
      | [] => .ok b

/-- One line of the document: a comment, a header, an empty line or a key/value line. -/
def line (b : Builder) : Rule Builder := do
  let x ← peekByte
  if x == asc '#' then cut (do comment; lineEnding; pure b)
  else if x == asc '[' then cut (headerLine b)
  else if x == 0x0A || x == 0x0D then do newline; pure b
  else cut (keyvalLine b)

/-- Lines with the blanks after them, up to the end of the document; at most `fuel` of them. -/
def lines : Nat → Builder → Rule Builder
  | 0, b => pure b
  | fuel + 1, b => fun c =>
    match c.rest with
    | [] => .ok b c
    | _ =>
      match (do let b' ← line b; ws; pure b') c with
      | .ok b' c' => if c'.pos = c.pos then .fail .silent c' else lines fuel b' c'
      | .fail e c' => if e.cut then .fail e c' else .fail .silent c

/-- Where a complaint at byte `pos` of a document of `size` bytes points: the
    byte there, or the empty span at the end. -/
def pointAt (pos size : Nat) : Span := if pos < size then ⟨pos, pos + 1⟩ else ⟨pos, pos⟩

/-- The document in a text, or the complaint about it and where it points. -/
def parseDocument (text : String) : Except (String × Option Span) Table :=
  let bytes := text.toUTF8.toList
  let start : Cursor :=
    if [0xEF, 0xBB, 0xBF].isPrefixOf bytes then ⟨bytes.drop 3, 3⟩ else ⟨bytes, 0⟩
  match (do ws; lines (bytes.length + 1) Builder.initial) start with
  | .ok b _ =>
    match b.file with
    | .ok done => .ok done.root
    | .error clash => .error (clash.message, none)
  | .fail e c => .error (e.message, some (pointAt c.pos bytes.length))

/-! ## Documents as data -/

/-- The datum with the span, when there is one. -/
def withSpan? : Option Span → Datum → Datum
  | some sp, d => .spanned sp d
  | none, d => d

/-- The datum, or the datum spanning `k` when it has no span of its own. -/
def keyed (k : Key) (d : Datum) : Datum :=
  match d.span? with
  | some _ => d
  | none => .spanned k.span d

/-- An entry as data: values and tables with their spans. -/
def Item.toDatum : Item → Datum
  | .value v sp => .spanned sp v.toDatum
  | .table es _ _ sp => withSpan? sp (.map (entries_ es))
  | .tables items sp => withSpan? sp (.seq (items_ items))
where
  entries_ : List (Key × Item) → List (String × Datum)
    | [] => []
    | (k, it) :: rest => (k.name, keyed k (Item.toDatum it)) :: entries_ rest
  items_ : List Item → List Datum
    | [] => []
    | it :: rest => Item.toDatum it :: items_ rest

/-- The data of a TOML text, or the complaint about it and where it points. -/
def read (text : String) : Except (String × Option Span) Datum :=
  (parseDocument text).map fun t => t.toItem.toDatum

end EdgePack.Toml

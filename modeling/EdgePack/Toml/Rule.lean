import EdgePack.Serde.Datum

/-!
# Grammar rules over the bytes of a TOML document

A `Rule` reads a prefix of the bytes still to be read and either yields a value
and the rest, or fails. A failure is either recoverable, so that an enclosing
choice tries its next alternative, or final (`cut`), once the text read so far
leaves no doubt about what was meant. A failure carries what it complains of:
the names of the constructs being read (`labels`, innermost first), what would
have been accepted (`expected`), and the reason a check failed (`cause`).

Where the reader stands when a failure reaches the top is where the complaint
points. Each combinator leaves the cursor as the grammar's reading does:

* `orElse` and `opt` go back to where they started before trying again;
* `peek` never moves;
* `tryMap` and `verify` go back to their start when their own check fails;
* a sequence that fails part-way stays where its failing part stopped.

Loops (`many`, `sepBy`) stop as soon as an iteration reads nothing, so each of
them runs at most once more than there are bytes left.
-/

namespace EdgePack.Toml

open Serde (Span)

/-- The bytes still to be read and the offset of the first of them. -/
structure Cursor where
  rest : List UInt8
  pos : Nat

/-- What would have been accepted where reading failed. -/
inductive Expected where
  /-- One character. -/
  | char (c : Char)
  /-- A fixed piece of text. -/
  | text (s : String)
  /-- A kind of thing, in words. -/
  | words (s : String)

/-- The words of a complaint for what was expected: a newline by name, a
    character or text between backquotes, a kind of thing as it is. -/
def Expected.render : Expected → String
  | .char '\n' => "newline"
  | .char c => "`" ++ c.toString ++ "`"
  | .text s => "`" ++ s ++ "`"
  | .words s => s

/-- A failure of a rule. -/
structure Failure where
  /-- Whether enclosing choices must give up rather than try their next alternative. -/
  cut : Bool
  /-- The names of the constructs being read, innermost first. -/
  labels : List String
  /-- What would have been accepted, innermost first. -/
  expected : List Expected
  /-- Why a check on what was read failed. -/
  cause : Option String

/-- A recoverable failure that says nothing. -/
def Failure.silent : Failure := ⟨false, [], [], none⟩

/-- The text of a complaint: `invalid <innermost label>`, then the list of what
    was expected, then the cause, each on a line of its own. -/
def Failure.message (f : Failure) : String :=
  let named := match f.labels.head? with
    | some l => ["invalid " ++ l]
    | none => []
  let wanted := if f.expected.isEmpty then []
    else ["expected " ++ ", ".intercalate (f.expected.map Expected.render)]
  let why := match f.cause with
    | some c => [c]
    | none => []
  "\n".intercalate (named ++ wanted ++ why)

/-- The outcome of a rule: a value and where reading goes on, or a failure and
    where the reader stood. -/
inductive Step (α : Type) where
  | ok (a : α) (c : Cursor)
  | fail (f : Failure) (c : Cursor)

/-- A grammar rule yielding values of `α`. -/
def Rule (α : Type) : Type := Cursor → Step α

instance : Monad Rule where
  pure a := fun c => .ok a c
  bind r f := fun c =>
    match r c with
    | .ok a c' => f a c'
    | .fail e c' => .fail e c'

namespace Rule

/-- Fails recoverably without reading. -/
def backtrack : Rule α := fun c => .fail .silent c

/-- Fails recoverably without reading, for a reason. -/
def refuse (cause : String) : Rule α := fun c => .fail { Failure.silent with cause := some cause } c

/-- Makes every failure of `r` final. -/
def cut (r : Rule α) : Rule α := fun c =>
  match r c with
  | .fail e c' => .fail { e with cut := true } c'
  | s => s

/-- Names what `r` reads, for its complaints. -/
def label (l : String) (r : Rule α) : Rule α := fun c =>
  match r c with
  | .fail e c' => .fail { e with labels := e.labels ++ [l] } c'
  | s => s

/-- Adds what would have been accepted to the complaints of `r`. -/
def expect (x : Expected) (r : Rule α) : Rule α := fun c =>
  match r c with
  | .fail e c' => .fail { e with expected := e.expected ++ [x] } c'
  | s => s

/-- `r`, or else `s` from the same place when `r` fails recoverably; a failure
    of both is the failure of `s`. -/
def orElse (r s : Rule α) : Rule α := fun c =>
  match r c with
  | .fail e c' => if e.cut then .fail e c' else s c
  | ok => ok

/-- `r` if it succeeds; none, without reading, when it fails recoverably. -/
def opt (r : Rule α) : Rule (Option α) := fun c =>
  match r c with
  | .ok a c' => .ok (some a) c'
  | .fail e c' => if e.cut then .fail e c' else .ok none c

/-- `r`, without reading. -/
def peek (r : Rule α) : Rule α := fun c =>
  match r c with
  | .ok a _ => .ok a c
  | .fail e _ => .fail e c

/-- The next byte, without reading it. -/
def peekByte : Rule UInt8 := fun c =>
  match c.rest with
  | b :: _ => .ok b c
  | [] => .fail .silent c

/-- The next byte, if any. -/
def peekByte? : Rule (Option UInt8) := fun c => .ok c.rest.head? c

/-- Reads one byte. -/
def anyByte : Rule UInt8 := fun c =>
  match c.rest with
  | b :: bs => .ok b ⟨bs, c.pos + 1⟩
  | [] => .fail .silent c

/-- Reads one byte that satisfies `p`. -/
def byteIf (p : UInt8 → Bool) : Rule UInt8 := fun c =>
  match c.rest with
  | b :: bs => if p b then .ok b ⟨bs, c.pos + 1⟩ else .fail .silent c
  | [] => .fail .silent c

/-- Reads the byte `b`. -/
def byte (b : UInt8) : Rule Unit := fun c =>
  match c.rest with
  | x :: bs => if x == b then .ok () ⟨bs, c.pos + 1⟩ else .fail .silent c
  | [] => .fail .silent c

/-- Reads exactly the bytes `bs`. -/
def tag (bs : List UInt8) : Rule Unit := fun c =>
  if bs.isPrefixOf c.rest then .ok () ⟨c.rest.drop bs.length, c.pos + bs.length⟩
  else .fail .silent c

/-- Reads at least `least` and at most `most` bytes satisfying `p`, as many as there are. -/
def takeWhile (p : UInt8 → Bool) (least most : Nat) : Rule (List UInt8) := fun c =>
  let taken := (c.rest.takeWhile p).take most
  if taken.length < least then .fail .silent c
  else .ok taken ⟨c.rest.drop taken.length, c.pos + taken.length⟩

/-- Any number of bytes satisfying `p`. -/
def takeMany (p : UInt8 → Bool) : Rule (List UInt8) := fun c =>
  let taken := c.rest.takeWhile p
  .ok taken ⟨c.rest.drop taken.length, c.pos + taken.length⟩

/-- One or more bytes satisfying `p`. -/
def takeSome (p : UInt8 → Bool) : Rule (List UInt8) := fun c =>
  match c.rest.takeWhile p with
  | [] => .fail .silent c
  | taken => .ok taken ⟨c.rest.drop taken.length, c.pos + taken.length⟩

/-- Where the reader stands. -/
def here : Rule Cursor := fun c => .ok c c

/-- Fails with `f`, the reader standing at `at_`. -/
def failAt (f : Failure) (at_ : Cursor) : Rule α := fun _ => .fail f at_

/-- Succeeds only at the end of the document. -/
def eof : Rule Unit := fun c =>
  match c.rest with
  | [] => .ok () c
  | _ => .fail .silent c

/-- `r`, with its value checked by `f`; when the check fails, the reader goes
    back to where `r` started and fails recoverably for the reason given. -/
def tryMap (r : Rule α) (f : α → Except String β) : Rule β := fun c =>
  match r c with
  | .ok a c' =>
    match f a with
    | .ok b => .ok b c'
    | .error why => .fail { Failure.silent with cause := some why } c
  | .fail e c' => .fail e c'

/-- `r`, provided its value satisfies `p`; otherwise the reader goes back to
    where `r` started and fails recoverably. -/
def verify (r : Rule α) (p : α → Bool) : Rule α := fun c =>
  match r c with
  | .ok a c' => if p a then .ok a c' else .fail .silent c
  | .fail e c' => .fail e c'

/-- `r`, with its value checked by `f` once `r` has read it; when the check
    fails, the reader goes back to where `r` started and fails finally, for the
    reason given if there is one. -/
def settle (r : Rule α) (f : α → Except (Option String) β) : Rule β := fun c =>
  match r c with
  | .ok a c' =>
    match f a with
    | .ok b => .ok b c'
    | .error why => .fail ⟨true, [], [], why⟩ c
  | .fail e c' => .fail e c'

/-- `r` and the span of bytes it read. -/
def withSpan (r : Rule α) : Rule (α × Span) := fun c =>
  match r c with
  | .ok a c' => .ok (a, ⟨c.pos, c'.pos⟩) c'
  | .fail e c' => .fail e c'

/-- The bytes that `r` read. -/
def taken (r : Rule α) : Rule (List UInt8) := fun c =>
  match r c with
  | .ok _ c' => .ok (c.rest.take (c'.pos - c.pos)) c'
  | .fail e c' => .fail e c'

/-- `r`, the bytes it read and their span. -/
def withTaken (r : Rule α) : Rule (α × List UInt8 × Span) := fun c =>
  match r c with
  | .ok a c' => .ok (a, c.rest.take (c'.pos - c.pos), ⟨c.pos, c'.pos⟩) c'
  | .fail e c' => .fail e c'

/-- `r` as often as it succeeds and reads something, at most `fuel` times. -/
def manyFrom (r : Rule α) : Nat → List α → Rule (List α)
  | 0, acc => fun c => .ok acc.reverse c
  | fuel + 1, acc => fun c =>
    match r c with
    | .ok a c' => if c'.pos = c.pos then .ok acc.reverse c else manyFrom r fuel (a :: acc) c'
    | .fail e c' => if e.cut then .fail e c' else .ok acc.reverse c

/-- `r` as often as it succeeds; a recoverable failure ends the loop where the
    failing attempt began. -/
def many (r : Rule α) : Rule (List α) := fun c => manyFrom r (c.rest.length + 1) [] c

/-- `r` at least once, then as often as it succeeds. -/
def many1 (r : Rule α) : Rule (List α) := do
  let a ← r
  let rest ← many r
  pure (a :: rest)

/-- Items read by `r` between separators read by `sep`, after a first item. A
    separator with no item after it is left unread. -/
def sepTail (r : Rule α) (sep : Rule Unit) : Nat → List α → Rule (List α)
  | 0, acc => fun c => .ok acc.reverse c
  | fuel + 1, acc => fun c =>
    match sep c with
    | .fail e c' => if e.cut then .fail e c' else .ok acc.reverse c
    | .ok () c' =>
      match r c' with
      | .ok a c'' => sepTail r sep fuel (a :: acc) c''
      | .fail e c'' => if e.cut then .fail e c'' else .ok acc.reverse c

/-- Zero or more items read by `r`, separated by what `sep` reads. -/
def sepBy (r : Rule α) (sep : Rule Unit) : Rule (List α) := fun c =>
  match r c with
  | .ok a c' => sepTail r sep (c'.rest.length + 1) [a] c'
  | .fail e c' => if e.cut then .fail e c' else .ok [] c

/-- One or more items read by `r`, separated by what `sep` reads. -/
def sepBy1 (r : Rule α) (sep : Rule Unit) : Rule (List α) := fun c =>
  match r c with
  | .ok a c' => sepTail r sep (c'.rest.length + 1) [a] c'
  | .fail e c' => .fail e c'

end Rule

end EdgePack.Toml

/-!
# `echo` and `printf`

The shell's own `echo` writes its arguments separated by blanks and followed
by a line end, which a first argument `-n` leaves out. Both it and the `%b`
conversion of `printf` read backslash escapes in their text: `\n`, `\t`,
`\\` and their kin, an octal byte `\0NNN` or `\NNN`, and `\c`, which ends
all output there.

`printf` writes its format, with the escapes of the format (the octal ones
without the leading zero) and with conversions `%s %b %c %d %i %u %o %x %X %%`,
each taking the next argument (an empty text, or zero, when they have run
out). Flags `- + space # 0`, a width and a precision may stand between `%`
and the letter, and `*` takes either from the arguments. The format is used
again while arguments are left and it took some. A number is read as the C
library reads one, in decimal, octal after `0` or hexadecimal after `0x`; a
quote before a character stands for its code.

Output is bytes, since an escape may write any byte.
-/

namespace EdgePack.Shell.Format

/-- The bytes of a character in UTF-8. -/
def charBytes (c : Char) : List UInt8 := (String.singleton c).toUTF8.toList

/-- Whether a character is an octal digit. -/
def isOctal (c : Char) : Bool := '0' ≤ c && c ≤ '7'

/-- Up to `n` octal digits read as a byte, and the characters after them. -/
def octal (n : Nat) (cs : List Char) : UInt8 × List Char :=
  let ds := (cs.take n).takeWhile isOctal
  let v := ds.foldl (fun acc d => acc * 8 + (d.toNat - '0'.toNat)) 0
  (UInt8.ofNat (v % 256), cs.drop ds.length)

/-- The byte a letter after a backslash stands for. -/
def letterEscape : Char → Option UInt8
  | '\\' => some 0x5C
  | 'a' => some 7
  | 'b' => some 8
  | 'f' => some 12
  | 'n' => some 10
  | 'r' => some 13
  | 't' => some 9
  | 'v' => some 11
  | _ => none

/-- The bytes of an escape in a format, from the characters after its
    backslash, and the characters after the escape. An unknown escape keeps
    its backslash. -/
def formatEscape (cs : List Char) : List UInt8 × List Char :=
  match cs with
  | c :: rest =>
    match letterEscape c with
    | some b => ([b], rest)
    | none =>
      if isOctal c then
        let (b, more) := octal 3 cs
        ([b], more)
      else ([0x5C], cs)
  | [] => ([0x5C], [])

/-- The bytes of a text with the escapes of `echo` and `%b`, and whether a
    `\c` ended all output. -/
def escapedText : Nat → List Char → List UInt8 × Bool
  | 0, _ => ([], false)
  | _ + 1, [] => ([], false)
  | fuel + 1, c :: rest =>
    if c == '\\' then
      match rest with
      | 'c' :: _ => ([], true)
      | '0' :: d :: more =>
        if isOctal d then
          let (b, after) := octal 3 (d :: more)
          let (bs, stop) := escapedText fuel after
          (b :: bs, stop)
        else
          let (bs, stop) := escapedText fuel (d :: more)
          (0 :: bs, stop)
      | _ =>
        let (bs, after) := formatEscape rest
        let (more, stop) := escapedText fuel after
        (bs ++ more, stop)
    else
      let (more, stop) := escapedText fuel rest
      (charBytes c ++ more, stop)

/-- What the shell's `echo` writes for its arguments. -/
def echo (args : List String) : List UInt8 :=
  let (newline, words) := match args with
    | "-n" :: rest => (false, rest)
    | _ => (true, args)
  let text := " ".intercalate words
  let (bs, stop) := escapedText (text.length + 1) text.toList
  if stop then bs else if newline then bs ++ [10] else bs

/-- A conversion's flags, width and precision. -/
structure Spec where
  left : Bool := false
  plus : Bool := false
  space : Bool := false
  alt : Bool := false
  zero : Bool := false
  width : Nat := 0
  precision : Option Nat := none

/-- The state of a `printf` run: the arguments left, whether one was taken,
    the complaints, and whether a `\c` stopped the output. -/
structure Run where
  args : List String
  took : Bool := false
  complaints : List String := []
  stopped : Bool := false

/-- Takes the next argument, the empty text when none is left. -/
def Run.next (r : Run) : String × Run :=
  match r.args with
  | a :: rest => (a, { r with args := rest, took := true })
  | [] => ("", r)

/-- The value of a hexadecimal, octal or decimal digit. -/
def digitIn (base : Nat) (c : Char) : Option Nat :=
  let v := if c.isDigit then some (c.toNat - '0'.toNat)
    else if 'a' ≤ c && c ≤ 'z' then some (c.toNat - 'a'.toNat + 10)
    else if 'A' ≤ c && c ≤ 'Z' then some (c.toNat - 'A'.toNat + 10)
    else none
  v.bind fun d => if d < base then some d else none

/-- The number at the front of a text as the C library reads one: blanks, a
    sign, then digits in the base the prefix names; with the count of
    characters read, none when no digit was. -/
def leadingNumber (s : String) : Int × Nat :=
  let cs := s.toList
  let blanks := (cs.takeWhile fun c => c == ' ' || c == '\t' || c == '\n').length
  let rest := cs.drop blanks
  let (neg, rest, signLen) := match rest with
    | '-' :: more => (true, more, 1)
    | '+' :: more => (false, more, 1)
    | more => (false, more, 0)
  let (base, body, prefixLen) := match rest with
    | '0' :: 'x' :: d :: more => if (digitIn 16 d).isSome then (16, d :: more, 2) else (8, rest, 0)
    | '0' :: 'X' :: d :: more => if (digitIn 16 d).isSome then (16, d :: more, 2) else (8, rest, 0)
    | '0' :: _ => (8, rest, 0)
    | _ => (10, rest, 0)
  let ds := body.takeWhile fun c => (digitIn base c).isSome
  if ds.isEmpty then (0, 0)
  else
    let v := ds.foldl (fun acc c => acc * base + (digitIn base c).getD 0) 0
    ((if neg then -(v : Int) else v), blanks + signLen + prefixLen + ds.length)

/-- An argument read as a number, with a complaint when it is not wholly one. -/
def numberArg (a : String) : Int × Option String :=
  match a.toList with
  | [] => (0, none)
  | q :: rest =>
    if q == '\'' || q == '"' then
      match rest with
      | c :: _ => (c.toNat, none)
      | [] => (0, none)
    else
      let (v, used) := leadingNumber a
      if used == a.length then (v, none)
      else if used == 0 then (0, some (a ++ ": expected numeric value"))
      else (v, some (a ++ ": not completely converted"))

/-- The digits of a natural number in a base, lowercase or uppercase. -/
def digits (base : Nat) (upper : Bool) (n : Nat) : List Char :=
  let ds := Nat.toDigits base n
  if upper then ds.map Char.toUpper else ds

/-- Bytes padded to the width, on the left or, for `-`, on the right. -/
def pad (sp : Spec) (fill : UInt8) (bs : List UInt8) : List UInt8 :=
  let gap := sp.width - bs.length
  if sp.left then bs ++ List.replicate gap 0x20 else List.replicate gap fill ++ bs

/-- A number written by an integer conversion. -/
def integerText (sp : Spec) (conv : Char) (v : Int) : List UInt8 :=
  let signed := conv == 'd' || conv == 'i'
  let mag : Nat := if signed then v.natAbs else (v % (Int.pow 2 64)).toNat
  let base := if conv == 'o' then 8 else if conv == 'x' || conv == 'X' then 16 else 10
  let body := if sp.precision == some 0 && mag == 0 then [] else digits base (conv == 'X') mag
  let body := match sp.precision with
    | some p => List.replicate (p - body.length) '0' ++ body
    | none => body
  let body := if sp.alt && conv == 'o' && body.head? != some '0' then '0' :: body else body
  let pre : List Char :=
    if signed && v < 0 then ['-']
    else if signed && sp.plus then ['+']
    else if signed && sp.space then [' ']
    else if sp.alt && mag != 0 && conv == 'x' then ['0', 'x']
    else if sp.alt && mag != 0 && conv == 'X' then ['0', 'X']
    else []
  let zeroFill := sp.zero && !sp.left && sp.precision.isNone
  if zeroFill then
    let gap := sp.width - (pre.length + body.length)
    (pre ++ List.replicate gap '0' ++ body).flatMap charBytes
  else pad sp 0x20 ((pre ++ body).flatMap charBytes)

/-- Reads a conversion's flags. -/
def flags : Nat → Spec → List Char → Spec × List Char
  | 0, sp, cs => (sp, cs)
  | fuel + 1, sp, c :: rest =>
    if c == '-' then flags fuel { sp with left := true } rest
    else if c == '+' then flags fuel { sp with plus := true } rest
    else if c == ' ' then flags fuel { sp with space := true } rest
    else if c == '#' then flags fuel { sp with alt := true } rest
    else if c == '0' then flags fuel { sp with zero := true } rest
    else (sp, c :: rest)
  | _ + 1, sp, [] => (sp, [])

/-- A width or precision: digits, or `*` for the next argument. -/
def amount (r : Run) (cs : List Char) : Option Nat × Run × List Char :=
  match cs with
  | '*' :: rest =>
    let (a, r) := r.next
    let (v, why) := numberArg a
    let r := match why with
      | some w => { r with complaints := r.complaints ++ [w] }
      | none => r
    (some v.toNat, r, rest)
  | _ =>
    let ds := cs.takeWhile Char.isDigit
    if ds.isEmpty then (none, r, cs)
    else (some (String.ofList ds).toNat!, r, cs.drop ds.length)

/-- One pass over the format: the bytes written, the run after it, and an
    invalid directive that ended it, if one did. -/
def pass : Nat → Run → List Char → List UInt8 × Run × Option String
  | 0, r, _ => ([], r, none)
  | _ + 1, r, [] => ([], r, none)
  | fuel + 1, r, c :: rest =>
    if c == '\\' then
      let (bs, after) := formatEscape rest
      let (more, r, bad) := pass fuel r after
      (bs ++ more, r, bad)
    else if c == '%' then
      match rest with
      | '%' :: after =>
        let (more, r, bad) := pass fuel r after
        (0x25 :: more, r, bad)
      | _ =>
        let (sp, after) := flags 8 {} rest
        let (w, r, after) := amount r after
        let (prec, r, after) := match after with
          | '.' :: more =>
            let (p, r, more) := amount r more
            (some (p.getD 0), r, more)
          | _ => (none, r, after)
        let sp := { sp with width := w.getD 0, precision := prec }
        match after with
        | conv :: more =>
          if conv == 's' then
            let (a, r) := r.next
            let bs := a.toUTF8.toList
            let bs := match sp.precision with
              | some p => bs.take p
              | none => bs
            let (tail, r, bad) := pass fuel r more
            (pad sp 0x20 bs ++ tail, r, bad)
          else if conv == 'b' then
            let (a, r) := r.next
            let (bs, stop) := escapedText (a.length + 1) a.toList
            let bs := match sp.precision with
              | some p => bs.take p
              | none => bs
            if stop then (pad sp 0x20 bs, { r with stopped := true }, none)
            else
              let (tail, r, bad) := pass fuel r more
              (pad sp 0x20 bs ++ tail, r, bad)
          else if conv == 'c' then
            let (a, r) := r.next
            let bs := match a.toList with
              | ch :: _ => charBytes ch
              | [] => [0]
            let (tail, r, bad) := pass fuel r more
            (pad sp 0x20 bs ++ tail, r, bad)
          else if "diouxX".toList.contains conv then
            let (a, r) := r.next
            let (v, why) := numberArg a
            let r := match why with
              | some w => { r with complaints := r.complaints ++ [w] }
              | none => r
            let (tail, r, bad) := pass fuel r more
            (integerText sp conv v ++ tail, r, bad)
          else
            let directive := String.ofList ('%' :: (rest.take (rest.length - more.length)))
            ([], r, some (directive ++ ": invalid directive"))
        | [] => ([], r, some ("%" ++ String.ofList rest ++ ": invalid directive"))
    else
      let (more, r, bad) := pass fuel r rest
      (charBytes c ++ more, r, bad)

/-- What `printf` writes for a format and arguments, its complaints (each
    without the command's name), and whether it failed. -/
def printf (format : String) (args : List String) : List UInt8 × List String × Bool :=
  let fs := format.toList
  let rec loop : Nat → Run → List UInt8 → List UInt8 × List String × Bool
    | 0, r, acc => (acc, r.complaints, !r.complaints.isEmpty)
    | fuel + 1, r, acc =>
      let (bs, r', bad) := pass (fs.length + 1) { r with took := false } fs
      let acc := acc ++ bs
      match bad with
      | some why => (acc, r'.complaints ++ [why], true)
      | none =>
        if r'.stopped || r'.args.isEmpty || !r'.took then
          (acc, r'.complaints, !r'.complaints.isEmpty)
        else loop fuel r' acc
  loop (args.length + 1) { args := args } []

end EdgePack.Shell.Format

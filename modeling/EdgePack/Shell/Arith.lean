/-!
# Shell arithmetic

The expressions of `$((…))`: integers in decimal, octal (`017`) or hexadecimal
(`0x1f`), variables by name, parentheses, the unary operators `+ - ! ~`, and
the binary operators of C from `||` (loosest) to `* / %` (tightest). A
variable's value is read as a number, the empty or unset one as zero. The
results are 64-bit signed integers; dividing by zero is an error.
-/

namespace EdgePack.Shell

/-- A token of an arithmetic expression. -/
inductive ArithToken where
  | num (n : Int)
  | name (s : String)
  | op (s : String)
  deriving Inhabited, BEq

namespace Arith

/-- The binary operators, longest first. -/
def operators : List String :=
  ["<<", ">>", "<=", ">=", "==", "!=", "&&", "||", "+", "-", "*", "/", "%", "<", ">", "&", "|", "^",
    "!", "~", "(", ")"]

/-- The value of a digit in bases up to 16. -/
def digitValue (c : Char) : Option Nat :=
  if c.isDigit then some (c.toNat - '0'.toNat)
  else if 'a' ≤ c && c ≤ 'f' then some (c.toNat - 'a'.toNat + 10)
  else if 'A' ≤ c && c ≤ 'F' then some (c.toNat - 'A'.toNat + 10)
  else none

/-- The number a text of digits stands for, in the base its prefix names. -/
def readNumber (s : String) : Option Int :=
  let cs := s.toList
  let (base, digits) := match cs with
    | '0' :: 'x' :: ds => (16, ds)
    | '0' :: 'X' :: ds => (16, ds)
    | '0' :: ds@(_ :: _) => (8, ds)
    | ds => (10, ds)
  if digits.isEmpty then none
  else
    digits.foldlM (fun (acc : Int) c =>
      match digitValue c with
      | some d => if d < base then some (acc * base + d) else none
      | none => none) 0

/-- The value of a variable's text as a number: blanks around it are ignored,
    a sign may lead, and the empty text is zero. -/
def readValue (s : String) : Option Int :=
  let t := s.trimAscii.toString
  if t.isEmpty then some 0
  else if t.startsWith "-" then (readNumber (t.drop 1).toString).map (- ·)
  else if t.startsWith "+" then readNumber (t.drop 1).toString
  else readNumber t

/-- The tokens of an expression, or the text that could not be read. -/
def tokenize : Nat → List ArithToken → List Char → Except String (List ArithToken)
  | 0, acc, _ => .ok acc.reverse
  | _ + 1, acc, [] => .ok acc.reverse
  | fuel + 1, acc, c :: cs =>
    if c == ' ' || c == '\t' || c == '\n' then tokenize fuel acc cs
    else if c.isDigit then
      let word := (c :: cs).takeWhile Char.isAlphanum
      match readNumber (String.ofList word) with
      | some n => tokenize fuel (.num n :: acc) ((c :: cs).drop word.length)
      | none => .error (String.ofList (c :: cs))
    else if c.isAlpha || c == '_' then
      let word := (c :: cs).takeWhile fun d => d.isAlphanum || d == '_'
      tokenize fuel (.name (String.ofList word) :: acc) ((c :: cs).drop word.length)
    else
      match operators.find? (fun o => o.toList.isPrefixOf (c :: cs)) with
      | some o => tokenize fuel (.op o :: acc) ((c :: cs).drop o.length)
      | none => .error (String.ofList (c :: cs))

/-- How tightly a binary operator binds; none for a token that is not one. -/
def precedence : ArithToken → Option Nat
  | .op "||" => some 1
  | .op "&&" => some 2
  | .op "|" => some 3
  | .op "^" => some 4
  | .op "&" => some 5
  | .op "==" => some 6
  | .op "!=" => some 6
  | .op "<" => some 7
  | .op "<=" => some 7
  | .op ">" => some 7
  | .op ">=" => some 7
  | .op "<<" => some 8
  | .op ">>" => some 8
  | .op "+" => some 9
  | .op "-" => some 9
  | .op "*" => some 10
  | .op "/" => some 10
  | .op "%" => some 10
  | _ => none

/-- A value cut to 64 bits, two's complement. -/
def wrap (n : Int) : Int := Int.bmod n (Nat.pow 2 64)

/-- Truth as a number. -/
def ofBool (b : Bool) : Int := if b then 1 else 0

/-- The bits of a value as a 64-bit word. -/
def bits (n : Int) : Nat := (n % (Int.pow 2 64)).toNat

/-- A binary operator applied, or the complaint about dividing by zero. -/
def apply (o : String) (a b : Int) : Except String Int :=
  match o with
  | "+" => .ok (wrap (a + b))
  | "-" => .ok (wrap (a - b))
  | "*" => .ok (wrap (a * b))
  | "/" => if b == 0 then .error "division by zero" else .ok (wrap (a.tdiv b))
  | "%" => if b == 0 then .error "division by zero" else .ok (a.tmod b)
  | "<<" => .ok (wrap (a * Int.pow 2 (bits b % 64)))
  | ">>" => .ok (a / Int.pow 2 (bits b % 64))
  | "<" => .ok (ofBool (a < b))
  | "<=" => .ok (ofBool (a ≤ b))
  | ">" => .ok (ofBool (a > b))
  | ">=" => .ok (ofBool (a ≥ b))
  | "==" => .ok (ofBool (a == b))
  | "!=" => .ok (ofBool (a != b))
  | "&" => .ok (wrap (Int.ofNat (bits a &&& bits b)))
  | "|" => .ok (wrap (Int.ofNat (bits a ||| bits b)))
  | "^" => .ok (wrap (Int.ofNat (bits a ^^^ bits b)))
  | "&&" => .ok (ofBool (a != 0 && b != 0))
  | "||" => .ok (ofBool (a != 0 || b != 0))
  | _ => .ok 0

mutual

/-- An operand: a number, a variable, a parenthesised expression, or a unary
    operator before an operand. -/
def operand (look : String → Except String Int) : Nat → List ArithToken → Except String (Int × List ArithToken)
  | 0, _ => .error "expecting primary"
  | fuel + 1, ts =>
    match ts with
    | .num n :: rest => .ok (n, rest)
    | .name s :: rest => do
      let v ← look s
      pure (v, rest)
    | .op "(" :: rest => do
      let (v, rest) ← binary look fuel 1 rest
      match rest with
      | .op ")" :: more => pure (v, more)
      | _ => throw "expecting ')'"
    | .op "-" :: rest => do
      let (v, rest) ← operand look fuel rest
      pure (wrap (-v), rest)
    | .op "+" :: rest => operand look fuel rest
    | .op "!" :: rest => do
      let (v, rest) ← operand look fuel rest
      pure (ofBool (v == 0), rest)
    | .op "~" :: rest => do
      let (v, rest) ← operand look fuel rest
      pure (wrap (-v - 1), rest)
    | _ => .error "expecting primary"

/-- An expression of operators that bind at least as tightly as `least`. -/
def binary (look : String → Except String Int) : Nat → Nat → List ArithToken → Except String (Int × List ArithToken)
  | 0, _, _ => .error "expecting primary"
  | fuel + 1, least, ts => do
    let (lhs, rest) ← operand look fuel ts
    climb look fuel least lhs rest

/-- The operators after a left operand, while they bind at least as tightly as `least`. -/
def climb (look : String → Except String Int) : Nat → Nat → Int → List ArithToken → Except String (Int × List ArithToken)
  | 0, _, lhs, ts => .ok (lhs, ts)
  | fuel + 1, least, lhs, ts =>
    match ts with
    | t :: rest =>
      match precedence t, t with
      | some p, .op o =>
        if p < least then .ok (lhs, ts)
        else do
          let (rhs, rest) ← binary look fuel (p + 1) rest
          let v ← apply o lhs rhs
          climb look fuel least v rest
      | _, _ => .ok (lhs, ts)
    | [] => .ok (lhs, [])

end

/-- The value of an expression, variables read with `look`, or the complaint. -/
def eval (look : String → Except String Int) (source : String) : Except String Int := do
  let ts ← match tokenize (source.length + 1) [] source.toList with
    | .ok ts => .ok ts
    | .error _ => .error ("arithmetic expression: expecting primary: \"" ++ source ++ "\"")
  if ts.isEmpty then return 0
  match binary look (4 * ts.length + 4) 1 ts with
  | .ok (v, []) => pure v
  | .ok (_, _) => .error ("arithmetic expression: expecting EOF: \"" ++ source ++ "\"")
  | .error "division by zero" => .error "arithmetic expression: division by zero"
  | .error e =>
    if e.startsWith "Illegal number" then .error e
    else .error ("arithmetic expression: " ++ e ++ ": \"" ++ source ++ "\"")

end Arith

end EdgePack.Shell

/-!
# Binary floating-point formats

An IEEE 754 binary interchange format stores a sign, a biased exponent and a
fraction. A finite value is `(-1)^s · m · 2^e` for a natural `m` below
`2^(p+1)`, where `p` is the number of fraction bits; a normal value has the
implicit leading bit set (`2^p ≤ m`), a subnormal one sits at the least
exponent.

* `Format.decode` reads a bit pattern as a `Value`;
* `Format.encode` writes a finite value back as bits;
* `Format.nearest` rounds a non-negative rational `a / b` to the nearest value
  of the format, a tie going to the even significand, as IEEE 754 rounds by
  default.
-/

namespace EdgePack.Float

/-- An IEEE 754 binary interchange format, given by the widths of its fields. -/
structure Format where
  /-- Bits of the stored fraction. -/
  fracBits : Nat
  /-- Bits of the biased exponent. -/
  expBits : Nat
  deriving Repr, DecidableEq

namespace Format

/-- Single precision: 23 fraction bits and 8 exponent bits. -/
def binary32 : Format := ⟨23, 8⟩

/-- Double precision: 52 fraction bits and 11 exponent bits. -/
def binary64 : Format := ⟨52, 11⟩

/-- The exponent bias, `2^(w-1) - 1`. -/
def bias (f : Format) : Nat := Nat.pow 2 (f.expBits - 1) - 1

/-- The largest biased exponent, reserved for infinities and NaNs. -/
def topBiased (f : Format) : Nat := Nat.pow 2 f.expBits - 1

/-- The exponent `e` of the subnormals and of the least normal binade, in
    `m · 2^e` with `m` an integer. -/
def minExp (f : Format) : Int := 1 - (f.bias : Int) - f.fracBits

/-- The exponent `e` of the greatest finite binade, in `m · 2^e`. -/
def maxExp (f : Format) : Int := (f.topBiased : Int) - 1 - f.bias - f.fracBits

/-- The width of a whole bit pattern. -/
def width (f : Format) : Nat := 1 + f.expBits + f.fracBits

end Format

/-- What a bit pattern of a binary format stands for. -/
inductive Value where
  /-- Not a number, with its sign bit; the payload carries no meaning here. -/
  | nan (neg : Bool)
  /-- An infinity of the given sign. -/
  | inf (neg : Bool)
  /-- The finite value `(-1)^neg · mant · 2^exp`. -/
  | finite (neg : Bool) (mant : Nat) (exp : Int)
  deriving Repr, DecidableEq

/-- The integer nearest a finite value, a half going away from zero; none for a
    NaN or an infinity. -/
def Value.roundAway : Value → Option Int
  | .finite neg m e =>
    let n : Nat := if 0 ≤ e then m * Nat.pow 2 e.toNat
      else (2 * m + Nat.pow 2 (-e).toNat) / (2 * Nat.pow 2 (-e).toNat)
    some (if neg then -(n : Int) else n)
  | _ => none

namespace Format

/-- Reads a bit pattern of the format. -/
def decode (f : Format) (bits : Nat) : Value :=
  let frac := bits % Nat.pow 2 f.fracBits
  let biased := (bits / Nat.pow 2 f.fracBits) % Nat.pow 2 f.expBits
  let neg := (bits / Nat.pow 2 (f.fracBits + f.expBits)) % 2 == 1
  if biased == f.topBiased then
    if frac == 0 then .inf neg else .nan neg
  else if biased == 0 then .finite neg frac f.minExp
  else .finite neg (frac + Nat.pow 2 f.fracBits) ((biased : Int) - f.bias - f.fracBits)

/-- The bits of the finite value `(-1)^neg · m · 2^e`, where `m < 2^(p+1)` and the
    value is normal (`2^p ≤ m`) or subnormal (`e` is `minExp`). -/
def encode (f : Format) (neg : Bool) (m : Nat) (e : Int) : Nat :=
  let sign := if neg then Nat.pow 2 (f.fracBits + f.expBits) else 0
  if m < Nat.pow 2 f.fracBits then sign + m
  else sign + (e - f.minExp + 1).toNat * Nat.pow 2 f.fracBits + (m - Nat.pow 2 f.fracBits)

/-- The bits of an infinity. -/
def infBits (f : Format) (neg : Bool) : Nat :=
  (if neg then Nat.pow 2 (f.fracBits + f.expBits) else 0) + f.topBiased * Nat.pow 2 f.fracBits

/-- `n / d` rounded to the nearest natural number, a tie going to the even one. -/
def roundHalfEven (n d : Nat) : Nat :=
  let q := n / d
  let r := n % d
  if 2 * r > d then q + 1
  else if 2 * r == d && q % 2 == 1 then q + 1
  else q

/-- `a / (b · 2^q)` rounded half to even, for an exponent `q` of either sign. -/
def scaledRound (a b : Nat) (q : Int) : Nat :=
  if 0 ≤ q then roundHalfEven a (b * Nat.pow 2 q.toNat) else roundHalfEven (a * Nat.pow 2 (-q).toNat) b

/-- `a / (b · 2^q)` rounded down. -/
def scaledFloor (a b : Nat) (q : Int) : Nat :=
  if 0 ≤ q then a / (b * Nat.pow 2 q.toNat) else a * Nat.pow 2 (-q).toNat / b

/-- The bits of the value of the format nearest to `(-1)^neg · a / b` (with `b > 0`),
    a tie going to the even significand; values beyond the greatest finite one
    round to an infinity. -/
def nearest (f : Format) (neg : Bool) (a b : Nat) : Nat :=
  if a == 0 then encode f neg 0 f.minExp
  else
    -- An exponent `q` with `2^p ≤ a / (b · 2^q) < 2^(p+1)`, then clamped to the subnormals.
    let q0 : Int := (Nat.log2 a : Int) - Nat.log2 b - f.fracBits
    let q1 := if scaledFloor a b q0 < Nat.pow 2 f.fracBits then q0 - 1 else q0
    let q := max q1 f.minExp
    let m := scaledRound a b q
    let (m, q) := if m == Nat.pow 2 (f.fracBits + 1) then (Nat.pow 2 f.fracBits, q + 1) else (m, q)
    if q > f.maxExp then infBits f neg else encode f neg m q

end Format

end EdgePack.Float

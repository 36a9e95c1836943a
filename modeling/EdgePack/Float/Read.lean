import EdgePack.Float.Binary

/-!
# Reading decimals as binary floats

A decimal `n · 10^k` is read as the nearest value of a binary format
(`Format.ofDecimal`), a tie going to the even significand. Exponents far
outside the range of the format are settled without arithmetic: a decimal
whose leading digit stands beyond `10^400` is infinite in every format here,
one whose leading digit stands below `10^-400` is zero.
-/

namespace EdgePack.Float

namespace Format

/-- The bits of the value of `f` nearest to `(-1)^neg · n · 10^k`. -/
def ofDecimal (f : Format) (neg : Bool) (n : Nat) (k : Int) : Nat :=
  let lead : Int := k + (Nat.toDigits 10 n).length
  if n == 0 then f.nearest neg 0 1
  else if lead > 400 then f.infBits neg
  else if lead < -400 then f.nearest neg 0 1
  else if 0 ≤ k then f.nearest neg (n * Nat.pow 10 k.toNat) 1
  else f.nearest neg n (Nat.pow 10 (-k).toNat)

end Format

/-- The double nearest to `(-1)^neg · n · 10^k`. -/
def doubleOfDecimal (neg : Bool) (n : Nat) (k : Int) : Float :=
  Float.ofBits (Format.binary64.ofDecimal neg n k).toUInt64

/-- The single nearest to `(-1)^neg · n · 10^k`. -/
def singleOfDecimal (neg : Bool) (n : Nat) (k : Int) : Float32 :=
  Float32.ofBits (Format.binary32.ofDecimal neg n k).toUInt32

/-- The double nearest to a natural number. -/
def doubleOfNat (n : Nat) : Float := doubleOfDecimal false n 0

/-- The value a double stands for. -/
def Value.ofDouble (x : Float) : Value := Format.binary64.decode x.toBits.toNat

/-- The value a single stands for. -/
def Value.ofSingle (x : Float32) : Value := Format.binary32.decode x.toBits.toNat

namespace Format

/-- The bits of the quiet NaN of the format with the given sign. -/
def nanBits (f : Format) (neg : Bool) : Nat := f.infBits neg + Nat.pow 2 (f.fracBits - 1)

/-- The bits of the value of `f` nearest to `v`: a finite value rounded as
    `nearest` rounds it, an infinity kept, a NaN the quiet NaN of its sign (its
    payload is not kept). -/
def ofValue (f : Format) : Value → Nat
  | .nan neg => f.nanBits neg
  | .inf neg => f.infBits neg
  | .finite neg m e =>
    if 0 ≤ e then f.nearest neg (m * Nat.pow 2 e.toNat) 1 else f.nearest neg m (Nat.pow 2 (-e).toNat)

end Format

/-- The double a single stands for: the same value, exactly. -/
def doubleOfSingle (x : Float32) : Float :=
  Float.ofBits (Format.binary64.ofValue (Value.ofSingle x)).toUInt64

/-- The single nearest to a double, a tie going to the even significand. -/
def singleOfDouble (x : Float) : Float32 :=
  Float32.ofBits (Format.binary32.ofValue (Value.ofDouble x)).toUInt32

end EdgePack.Float

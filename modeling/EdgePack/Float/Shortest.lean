import EdgePack.Float.Binary

/-!
# Shortest decimal digits

A finite binary value stands for every real number that rounds to it: the
interval between the midpoints to its two neighbours, ends included exactly
when its significand is even (a tie reads back as the even neighbour). The
shortest decimal text of the value is a number `d · 10^k` in that interval with
`k` as large as possible; of two such numbers the one nearer the value is
taken, and an exact tie goes to the even `d`.

The search runs down the decimal grids `10^k`, from the first grid whose unit
exceeds the interval, and stops at the first grid with a point in the
interval. All arithmetic is exact, on naturals scaled by a power of two.
-/

namespace EdgePack.Float

/-- The decimal number `digits · 10^exp10`. -/
structure Decimal where
  /-- The significant digits, as a natural number. -/
  digits : Nat
  /-- The power of ten that scales them. -/
  exp10 : Int
  deriving Repr, DecidableEq

/-- The number of decimal digits of `n` (none for zero). -/
def decimalLength (n : Nat) : Nat := (Nat.toDigits 10 n).length - (if n == 0 then 1 else 0)

/-- An interval of reals, scaled: `lo / den` to `hi / den` around `mid / den`. -/
structure Interval where
  lo : Nat
  mid : Nat
  hi : Nat
  den : Nat
  /-- Whether the ends belong to the interval. -/
  closed : Bool

namespace Interval

/-- The points `d` of the grid `10^k` with `d · 10^k` in the interval, as the least
    and greatest such `d` (the first exceeds the second when there is none). -/
def gridRange (iv : Interval) (k : Int) : Nat × Nat × Nat × Nat :=
  -- scale so that the grid points are the multiples of `den'`
  let (lo, mid, hi, den') :=
    if 0 ≤ k then (iv.lo, iv.mid, iv.hi, iv.den * Nat.pow 10 k.toNat)
    else (iv.lo * Nat.pow 10 (-k).toNat, iv.mid * Nat.pow 10 (-k).toNat, iv.hi * Nat.pow 10 (-k).toNat, iv.den)
  let dLo := if iv.closed then (lo + den' - 1) / den' else lo / den' + 1
  let dHi := if iv.closed then hi / den' else (hi + den' - 1) / den' - 1
  (dLo, dHi, mid, den')

/-- The point of the grid `10^k` nearest the middle among those in the interval,
    a tie going to the even one; `none` when the grid has no positive point there. -/
def pick (iv : Interval) (k : Int) : Option Nat :=
  let (dLo, dHi, mid, den') := iv.gridRange k
  if dLo ≤ dHi ∧ 0 < dHi then
    let c := mid / den'
    let below := if dLo ≤ c ∧ c ≤ dHi then some c else none
    let above := if dLo ≤ c + 1 ∧ c + 1 ≤ dHi then some (c + 1) else none
    match below, above with
    | some b, some a =>
      let db := mid - b * den'
      let da := a * den' - mid
      if db < da then some b else if da < db then some a
      else if b % 2 == 0 then some b else some a
    | some b, none => some b
    | none, some a => some a
    | none, none => some dLo
  else none

/-- Walks down the grids from `10^k`, at most `fuel` of them. -/
def search (iv : Interval) : Nat → Int → Decimal
  | 0, k => ⟨iv.mid / iv.den, k⟩
  | fuel + 1, k =>
    match iv.pick k with
    | some d => ⟨d, k⟩
    | none => search iv fuel (k - 1)

end Interval

/-- The interval of reals that round to the positive finite value `m · 2^e` of the
    format `f`. Below the least significand of a binade the gap to the lower
    neighbour is half as wide. -/
def roundingInterval (f : Format) (m : Nat) (e : Int) : Interval :=
  let narrow := m == Nat.pow 2 f.fracBits && e > f.minExp
  let s : Nat := if 2 ≤ e then 0 else (2 - e).toNat
  let scale := Nat.pow 2 (e - 2 + s).toNat
  { lo := (4 * m - (if narrow then 1 else 2)) * scale
    mid := 4 * m * scale
    hi := (4 * m + 2) * scale
    den := Nat.pow 2 s
    closed := m % 2 == 0 }

/-- The shortest decimal that reads back as the positive finite value `m · 2^e` of
    the format `f`, the nearest one of that length. -/
def shortest (f : Format) (m : Nat) (e : Int) : Decimal :=
  let iv := roundingInterval f m e
  let top : Int := decimalLength (iv.hi / iv.den)
  iv.search (top.toNat + 400) top

end EdgePack.Float

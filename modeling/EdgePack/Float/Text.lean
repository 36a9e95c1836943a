import EdgePack.Float.Shortest
import EdgePack.Float.Read

/-!
# Writing floats

Every float is written from its shortest decimal (`shortest`) or from its exact
value rounded to a number of places (`Value.fixed`). What differs between the
texts is a handful of choices, gathered in `Notation`: where positional
notation gives way to an exponent, whether a whole number keeps a `.0`, and
whether a positive exponent carries a `+`.

* `Notation.plain`: always positional, a whole number without a point
  (`0.0000001`, `340282350000000000000000000000000000000`, `-0`);
* `Notation.data`: the text of a float in a JSON document, positional for
  leading digits from `10^-5` up to `10^16` (`10^13` in single precision), with
  a `.0` on whole numbers and an exponent otherwise (`1.8446744073709552e+19`);
* `Notation.config`: positional with a `.0` on whole numbers, as in a TOML
  document (`0.00000010000000116860974`, `255.0`).
-/

namespace EdgePack.Float

/-- The choices that tell one text of a float from another. -/
structure Notation where
  /-- The greatest position of the leading digit (`10^(top-1)`) still written
      positionally; `none` when an exponent is never used. -/
  top : Option Int
  /-- The least such position: leading digits at `10^bottom` and below get an exponent. -/
  bottom : Int
  /-- Whether a whole number is written with a trailing `.0`. -/
  pointZero : Bool
  /-- Whether a non-negative exponent is written with a `+`. -/
  plusExponent : Bool
  /-- The texts of a NaN and of the positive infinity. -/
  nanText : String
  infText : String
  /-- Whether a NaN with its sign bit set is written with a `-`. -/
  signedNan : Bool

namespace Notation

/-- Positional digits without a point for whole numbers; NaN is `NaN`, infinity `inf`. -/
def plain : Notation := ⟨none, 0, false, false, "NaN", "inf", false⟩

/-- The text of a float in a JSON document, for a format whose positional range
    ends at `10^top`. -/
def data (top : Int) : Notation := ⟨some top, -5, true, true, "NaN", "inf", false⟩

/-- Positional digits with a `.0` on whole numbers, as in a TOML document. -/
def config : Notation := ⟨none, 0, true, false, "nan", "inf", true⟩

end Notation

/-- `n` zeros. -/
def zeros (n : Nat) : String := String.ofList (List.replicate n '0')

/-- The decimal text of a natural number. -/
def natText (n : Nat) : String := String.ofList (Nat.toDigits 10 n)

/-- The decimal `d` without an exponent: `digits` shifted by `exp10` places. -/
def Decimal.positional (d : Decimal) (pointZero : Bool) : String :=
  let s := natText d.digits
  if 0 ≤ d.exp10 then
    s ++ zeros d.exp10.toNat ++ (if pointZero then ".0" else "")
  else
    let shift := (-d.exp10).toNat
    if shift < s.length then
      String.ofList (s.toList.take (s.length - shift)) ++ "." ++
        String.ofList (s.toList.drop (s.length - shift))
    else "0." ++ zeros (shift - s.length) ++ s

/-- The decimal `d` as `d.ddde±x`: one digit before the point. -/
def Decimal.scientific (d : Decimal) (plus : Bool) : String :=
  let s := natText d.digits
  let e := d.exp10 + s.length - 1
  let mant := match s.toList with
    | c :: rest@(_ :: _) => String.singleton c ++ "." ++ String.ofList rest
    | cs => String.ofList cs
  let expText := if e < 0 then "-" ++ natText e.natAbs else (if plus then "+" else "") ++ natText e.toNat
  mant ++ "e" ++ expText

/-- The text of a positive finite decimal under a notation. -/
def Decimal.write (n : Notation) (d : Decimal) : String :=
  let lead : Int := d.exp10 + decimalLength d.digits
  match n.top with
  | some top =>
    if n.bottom < lead ∧ lead ≤ top then d.positional n.pointZero
    else d.scientific n.plusExponent
  | none => d.positional n.pointZero

/-- The text of a value of the format `f` under a notation: the shortest decimal
    that reads back, with its sign (a negative zero keeps its `-`). -/
def Value.write (f : Format) (n : Notation) : Value → String
  | .nan neg => (if neg && n.signedNan then "-" else "") ++ n.nanText
  | .inf neg => (if neg then "-" else "") ++ n.infText
  | .finite neg m e =>
    let body := if m == 0 then (if n.pointZero then "0.0" else "0") else (shortest f m e).write n
    (if neg then "-" else "") ++ body

/-- The exact value `m · 2^e` rounded to `places` decimal places, a tie going to
    the even last digit, with its sign (also when it rounds to zero). -/
def Value.fixed (places : Nat) : Value → String
  | .nan _ => "NaN"
  | .inf neg => (if neg then "-" else "") ++ "inf"
  | .finite neg m e =>
    let q := if 0 ≤ e then m * Nat.pow 2 e.toNat * Nat.pow 10 places
      else Format.roundHalfEven (m * Nat.pow 10 places) (Nat.pow 2 (-e).toNat)
    let s := natText q
    let s := if s.length ≤ places then zeros (places + 1 - s.length) ++ s else s
    let body := if places == 0 then s
      else String.ofList (s.toList.take (s.length - places)) ++ "." ++
        String.ofList (s.toList.drop (s.length - places))
    (if neg then "-" else "") ++ body

/-- The plain text of a single: shortest digits, positional, no point on whole numbers. -/
def showSingle (x : Float32) : String := (Value.ofSingle x).write .binary32 .plain

/-- The plain text of a double. -/
def showDouble (x : Float) : String := (Value.ofDouble x).write .binary64 .plain

/-- A single rounded to `places` decimal places. -/
def fixedSingle (places : Nat) (x : Float32) : String := (Value.ofSingle x).fixed places

/-- A double rounded to `places` decimal places. -/
def fixedDouble (places : Nat) (x : Float) : String := (Value.ofDouble x).fixed places

end EdgePack.Float

import EdgePack.Float.Read

/-!
# Float literals in text

The text of a float as a parser of decimal numbers accepts it: an optional
sign, then either `inf`, `infinity` or `nan` in any case, or digits with an
optional point, at least one digit before or after it, and an optional
exponent of `e` or `E`, an optional sign and at least one digit. Nothing else
may stand in the text, not even white space, and neither a hexadecimal form
nor digit separators are read.

* `Literal.parse?`: the literal a text is, if it is one;
* `Literal.toSingle`, `Literal.toDouble`: its nearest value in a format.
-/

namespace EdgePack.Float

/-- A float literal: a signed decimal `n · 10^k`, an infinity or a NaN. -/
inductive Literal where
  | finite (neg : Bool) (n : Nat) (k : Int)
  | infinite (neg : Bool)
  | nan
  deriving DecidableEq, Repr, Inhabited

namespace Literal

/-- The value of a list of decimal digits. -/
def digitsValue (ds : List Char) : Nat := ds.foldl (fun acc c => acc * 10 + (c.toNat - 48)) 0

/-- The literal without its sign. -/
def parseUnsigned (neg : Bool) (cs : List Char) : Option Literal :=
  let lower := String.ofList (cs.map Char.toLower)
  if lower == "inf" || lower == "infinity" then some (.infinite neg)
  else if lower == "nan" then some .nan
  else
    let whole := cs.takeWhile Char.isDigit
    let rest := cs.dropWhile Char.isDigit
    let (frac, rest) := match rest with
      | '.' :: r => (r.takeWhile Char.isDigit, r.dropWhile Char.isDigit)
      | r => ([], r)
    if whole.isEmpty && frac.isEmpty then none
    else
      let expo : Option Int := match rest with
        | [] => some 0
        | e :: r =>
          if e != 'e' && e != 'E' then none
          else
            let (eneg, ds) := match r with
              | '+' :: ds => (false, ds)
              | '-' :: ds => (true, ds)
              | ds => (false, ds)
            if ds.isEmpty || !ds.all Char.isDigit then none
            else
              let v : Int := digitsValue ds
              some (if eneg then -v else v)
      expo.map fun x => .finite neg (digitsValue (whole ++ frac)) (x - frac.length)

/-- The literal a text is, if it is one. -/
def parse? (s : String) : Option Literal :=
  match s.toList with
  | '+' :: cs => parseUnsigned false cs
  | '-' :: cs => parseUnsigned true cs
  | cs => parseUnsigned false cs

/-- The single nearest to the literal. -/
def toSingle : Literal → Float32
  | .finite neg n k => singleOfDecimal neg n k
  | .infinite neg => if neg then -(1.0 / 0.0 : Float32) else (1.0 / 0.0 : Float32)
  | .nan => (0.0 / 0.0 : Float32)

/-- The double nearest to the literal. -/
def toDouble : Literal → Float
  | .finite neg n k => doubleOfDecimal neg n k
  | .infinite neg => if neg then -(1.0 / 0.0 : Float) else (1.0 / 0.0 : Float)
  | .nan => (0.0 / 0.0 : Float)

end Literal

end EdgePack.Float

import EdgePack.Eval.Error

/-!
# Labels in sample names

A sample named `<id>_<label>.<ext>` carries its true class: the text after the
last `_` of the file stem, which must be ASCII digits forming a number below
`2^64`.
-/

namespace EdgePack

/-- The number a string of decimal digits spells, its first digit the most
    significant. -/
def decimalValue (digits : List Char) : Nat :=
  digits.foldl (fun acc c => acc * 10 + (c.toNat - '0'.toNat)) 0

/-- The label of a sample, from its file name. -/
def parseLabel (p : Path) : Except EvalError Nat :=
  let invalid : EvalError := .invalidLabelFormat p.fileName
  match p.stem? with
  | none => .error invalid
  | some stem =>
    match (stem.toList.splitOn '_').reverse with
    | label :: _ :: _ =>
      if label.isEmpty || !label.all Char.isDigit then .error invalid
      else
        let n := decimalValue label
        if n < wordModulus then .ok n else .error invalid
    | _ => .error invalid

end EdgePack

/-!
# Hexadecimal numerals

Natural numbers written in base sixteen, with upper- or lower-case digits,
with or without the `0x` mark: `0xD00000`, `0x3000`, `0x0`.
-/

namespace EdgePack.Text

/-- The hexadecimal digits of `n`, in upper case. -/
def hexUpper (n : Nat) : String := (String.ofList (Nat.toDigits 16 n)).toUpper

/-- The hexadecimal digits of `n`, in lower case. -/
def hexLower (n : Nat) : String := String.ofList (Nat.toDigits 16 n)

/-- `n` as `0x` and upper-case digits. -/
def hexMarked (n : Nat) : String := "0x" ++ hexUpper n

/-- `n` as `0x` and lower-case digits. -/
def hexMarkedLower (n : Nat) : String := "0x" ++ hexLower n

end EdgePack.Text

/-!
# Quoted text

A string written between double quotes so that a reader sees every character:
the quote, the backslash and the common controls get a backslash escape, the
other control characters their code point in hex (`\u{1b}`), and everything
else stands as it is. Complaints quote the strings they name this way.
-/

namespace EdgePack.Text

/-- The escape of one character inside a quoted string. -/
def escapeChar : Char → String
  | '"' => "\\\""
  | '\\' => "\\\\"
  | '\n' => "\\n"
  | '\r' => "\\r"
  | '\t' => "\\t"
  | '\x00' => "\\0"
  | c =>
    if c.toNat < 32 || (127 ≤ c.toNat && c.toNat < 160) then
      "\\u\x7b" ++ String.ofList (Nat.toDigits 16 c.toNat) ++ "\x7d"
    else String.singleton c

/-- A string between double quotes, every character escaped as `escapeChar` says. -/
def quoted (s : String) : String :=
  "\"" ++ String.join (s.toList.map escapeChar) ++ "\""

end EdgePack.Text

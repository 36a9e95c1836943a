/-!
# White space

The characters with the Unicode `White_Space` property: the ASCII tab, line
feed, vertical tab, form feed, carriage return and space, the next-line
control, the no-break space, the Ogham space mark, the spaces from en quad to
hair space, the line and paragraph separators, the narrow no-break space, the
medium mathematical space and the ideographic space.

* `isBlank`: whether a character is white space;
* `trimBlank`: a text without white space at either end.
-/

namespace EdgePack.Text

/-- Whether a character has the Unicode `White_Space` property. -/
def isBlank (c : Char) : Bool :=
  let n := c.toNat
  (0x09 ≤ n && n ≤ 0x0D) || n == 0x20 || n == 0x85 || n == 0xA0 || n == 0x1680 ||
    (0x2000 ≤ n && n ≤ 0x200A) || n == 0x2028 || n == 0x2029 || n == 0x202F ||
    n == 0x205F || n == 0x3000

/-- The text without white space at its start and end. -/
def trimBlank (s : String) : String :=
  String.ofList ((s.toList.dropWhile isBlank).reverse.dropWhile isBlank).reverse

theorem isBlank_of_isWhitespace (c : Char) (h : c.isWhitespace = true) : isBlank c = true := by
  simp only [Char.isWhitespace, Bool.or_eq_true, decide_eq_true_eq] at h
  simp only [isBlank, Bool.or_eq_true, Bool.and_eq_true, decide_eq_true_eq, beq_iff_eq]
  rcases h with ((h | h) | h) | h <;> subst h <;> decide

end EdgePack.Text

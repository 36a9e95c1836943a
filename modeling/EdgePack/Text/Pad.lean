/-!
# Padding

Text set in a column of a given width: filled with a character on the left
(numbers, right-aligned) or on the right (labels, left-aligned). Text wider
than the column is kept whole.
-/

namespace EdgePack.Text

/-- The text with `fill` added on the left up to `width` characters. -/
def padLeft (width : Nat) (fill : Char) (s : String) : String :=
  String.ofList (List.replicate (width - s.length) fill) ++ s

/-- The text with `fill` added on the right up to `width` characters. -/
def padRight (width : Nat) (fill : Char) (s : String) : String :=
  s ++ String.ofList (List.replicate (width - s.length) fill)

/-- A number in decimal with zeros on the left up to `width` digits. -/
def zeroPad (width n : Nat) : String := padLeft width '0' (toString n)

theorem length_padLeft (width : Nat) (fill : Char) (s : String) :
    (padLeft width fill s).length = max width s.length := by
  simp only [padLeft, String.length_append, String.length_ofList, List.length_replicate]
  omega

end EdgePack.Text

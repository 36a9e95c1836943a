/-!
# Chunks

A list cut into consecutive pieces of `n` items, the last piece holding what
is left. Joining the pieces gives the list back (`join_chunks`).
-/

namespace EdgePack

/-- The list cut into pieces of `n` items, the last one possibly shorter; a
    width of zero is taken as one. -/
def chunks (n : Nat) (xs : List α) : List (List α) :=
  if h : xs = [] then []
  else
    have : (xs.drop (max n 1)).length < xs.length := by
      cases xs with
      | nil => exact absurd rfl h
      | cons _ _ => simp only [List.length_drop, List.length_cons]; omega
    xs.take (max n 1) :: chunks n (xs.drop (max n 1))
termination_by xs.length

theorem join_chunks (n : Nat) (xs : List α) : (chunks n xs).flatten = xs := by
  induction xs using chunks.induct n with
  | case1 => simp [chunks]
  | case2 xs h _ ih =>
    rw [chunks, dif_neg h, List.flatten_cons, ih, List.take_append_drop]

end EdgePack

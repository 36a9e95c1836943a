/-!
# Jaro similarity

How alike two words are, between 0 and 1: the Jaro similarity. A character of
the first word *matches* the first unmatched equal character of the second
that lies within the *window* `max(|a|, |b|) / 2 - 1` of its position; with
`m` matches, of which `t` pairs stand in a different order (half the number
of positions where the matched characters, read in order, differ), the
similarity is

```text
(m / |a| + m / |b| + (m - t) / m) / 3
```

and 0 without matches (1 for two empty words). It is kept as an exact
fraction, so comparing two similarities, or one with a bound, is exact.

`similarNames` is how a misspelt name is answered: the names more than 0.7
alike, least alike first.
-/

namespace EdgePack.Text

/-- A similarity as a fraction `num / den`, with `den > 0`. -/
structure Likeness where
  num : Nat
  den : Nat

namespace Likeness

/-- Whether one similarity is at most another. -/
def le (x y : Likeness) : Bool := x.num * y.den ≤ y.num * x.den

/-- Whether the similarity exceeds `p / q`. -/
def exceeds (x : Likeness) (p q : Nat) : Bool := x.num * q > p * x.den

end Likeness

/-- The first position in `[lo, hi)` of `b` that holds `c` and is not yet used. -/
def firstFree (c : Char) (lo hi : Nat) (b : List Char) (used : List Bool) : Option Nat :=
  ((List.range b.length).filter fun j => lo ≤ j && j < hi).find? fun j =>
    b[j]? == some c && used[j]? == some false

/-- Which characters of `a` and of `b` are matched, each character of `a` in
    turn taking the first free equal character of `b` within `window`. -/
def matchFlags (window : Nat) (a b : List Char) : List Bool × List Bool :=
  let step (acc : List Bool × List Bool) (ic : Nat × Char) : List Bool × List Bool :=
    let (aFlags, bFlags) := acc
    let (i, c) := ic
    match firstFree c (i - window) (i + window + 1) b bFlags with
    | some j => (aFlags ++ [true], bFlags.set j true)
    | none => (aFlags ++ [false], bFlags)
  (a.zipIdx.map (fun (c, i) => (i, c))).foldl step ([], List.replicate b.length false)

/-- The characters of a word that are flagged, in order. -/
def flagged (cs : List Char) (flags : List Bool) : List Char :=
  (cs.zip flags).filterMap fun (c, f) => if f then some c else none

/-- The Jaro similarity of two words. -/
def jaro (x y : String) : Likeness :=
  let a := x.toList
  let b := y.toList
  if a.isEmpty && b.isEmpty then ⟨1, 1⟩
  else if a.isEmpty || b.isEmpty then ⟨0, 1⟩
  else
    let window := max a.length b.length / 2 - 1
    let (aFlags, bFlags) := matchFlags window a b
    let ma := flagged a aFlags
    let mb := flagged b bFlags
    let m := ma.length
    let t := ((ma.zip mb).filter fun (p, q) => p != q).length / 2
    if m == 0 then ⟨0, 1⟩
    else ⟨m * b.length * m + m * a.length * m + (m - t) * a.length * b.length,
      3 * a.length * b.length * m⟩

/-- The names more than 0.7 like `word`, least alike first (of equals, in the
    order given). -/
def similarNames (word : String) (names : List String) : List String :=
  let scored := (names.map fun n => (jaro word n, n)).filter fun (l, _) => l.exceeds 7 10
  (scored.mergeSort fun p q => p.1.le q.1).map (·.2)

end EdgePack.Text

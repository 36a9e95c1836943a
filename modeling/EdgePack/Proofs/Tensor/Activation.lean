import Mathlib
import EdgePack.Tensor.Activation
import EdgePack.Proofs.Float.Order

/-!
# What the activations compute

`argmax` scans the values once, keeping the best index and value so far; a
value replaces the best only when it is greater, and a NaN never does. Its
result is pinned down by the order of singles (`EdgePack.Proofs.Float.Order`):

* `argmax_eq_none_iff`: there is no index exactly when every value is a NaN
  (the empty list included);
* `argmax_eq_some_iff`: otherwise the index is that of the first greatest
  number (`FirstMax`): not a NaN, no number above it, every number before it
  below it. Comparisons are those of IEEE 754, so the two zeros tie and the
  infinities are ordinary values. `argmax_spec` puts the two together.

The scan is proved by one step lemma (`bestOf_argmaxStep`), carried over the
whole list by induction (`bestOf_foldl`).

The first value that is not finite is found by `firstNonFinite`
(`firstNonFinite_eq_some_iff`, `firstNonFinite_eq_none_iff`), and `softmax`
succeeds on every non-empty list of finite values, with one probability per
value (`softmax_eq_ok`).
-/

namespace EdgePack

/-! ## The first value that is not finite -/

/-- `v`, at index `i`, is the first element of `xs` that is not finite. -/
def FirstNonFinite (xs : List Float32) (i : Nat) (v : Float32) : Prop :=
  xs[i]? = some v ∧ v.isFinite = false ∧ ∀ x ∈ xs.take i, x.isFinite = true

theorem firstNonFinite_eq_none_iff {xs : List Float32} :
    firstNonFinite xs = none ↔ ∀ x ∈ xs, x.isFinite = true := by
  simp only [firstNonFinite, Option.map_eq_none_iff, List.find?_eq_none, Bool.not_eq_true',
    Bool.not_eq_false]
  constructor
  · intro h x hx
    obtain ⟨i, hi⟩ := List.mem_iff_getElem?.1 hx
    exact h (x, i) (List.mem_zipIdx_iff_getElem?.2 hi)
  · rintro h ⟨x, i⟩ hx
    exact h x (List.mem_of_getElem? (List.mem_zipIdx_iff_getElem?.1 hx))

theorem firstNonFinite_eq_some_iff {xs : List Float32} {i : Nat} {v : Float32} :
    firstNonFinite xs = some (i, v) ↔ FirstNonFinite xs i v := by
  have hfind : firstNonFinite xs = some (i, v) ↔
      (xs.zipIdx.find? fun p => !p.1.isFinite) = some (v, i) := by
    simp only [firstNonFinite, Option.map_eq_some_iff, Prod.exists, Prod.mk.injEq]
    constructor
    · rintro ⟨a, b, h, rfl, rfl⟩
      exact h
    · intro h
      exact ⟨v, i, h, rfl, rfl⟩
  rw [hfind, List.find?_eq_some_iff_getElem]
  simp only [List.getElem_zipIdx, List.length_zipIdx, Prod.mk.injEq, Nat.zero_add,
    Bool.not_not, Bool.not_eq_true']
  constructor
  · rintro ⟨hv, k, hk, ⟨rfl, rfl⟩, hbefore⟩
    refine ⟨List.getElem?_eq_getElem hk, hv, fun x hx => ?_⟩
    obtain ⟨j, hj, rfl⟩ := List.mem_take_iff_getElem.1 hx
    exact hbefore j (by omega)
  · rintro ⟨hv, hnf, hbefore⟩
    obtain ⟨hi, rfl⟩ := List.getElem?_eq_some_iff.1 hv
    exact ⟨hnf, i, hi, ⟨rfl, rfl⟩, fun j hj =>
      hbefore _ (List.mem_take_iff_getElem.2 ⟨j, by omega, rfl⟩)⟩

/-- On a non-empty list of finite values `softmax` succeeds, with one
    probability per value. -/
theorem softmax_eq_ok {xs : List Float32} (hne : xs ≠ []) (hfin : ∀ x ∈ xs, x.isFinite = true) :
    ∃ ps, softmax xs = .ok ps ∧ ps.length = xs.length := by
  have hnf := firstNonFinite_eq_none_iff.2 hfin
  simp only [softmax, softmaxInto, List.isEmpty_iff, hne, hnf, ne_eq, not_true_eq_false,
    ↓reduceIte]
  exact ⟨_, rfl, by simp⟩

/-! ## The first greatest number -/

/-- `b`, at index `i` of `v`, is the first greatest number of `v`: it is not a
    NaN, no number of `v` is greater, and every number before it is less. -/
def FirstMax (v : List Float32) (i : Nat) (b : Float32) : Prop :=
  v[i]? = some b ∧ b.isNaN = false ∧ (∀ x ∈ v, x.isNaN = false → x ≤ b) ∧
    ∀ x ∈ v.take i, x.isNaN = false → x < b

/-- A list has at most one first greatest number. -/
theorem FirstMax.unique {v : List Float32} {i j : Nat} {b c : Float32} (hb : FirstMax v i b)
    (hc : FirstMax v j c) : i = j := by
  -- the earlier of two candidates would be below the later one and not below it
  have key : ∀ {i j b c}, FirstMax v i b → FirstMax v j c → ¬ i < j := by
    intro i j b c hb hc hij
    have hmem : b ∈ v.take j := List.mem_of_getElem? (by rw [List.getElem?_take_of_lt hij]; exact hb.1)
    exact Float32.not_lt_of_le (hb.2.2.1 c (List.mem_of_getElem? hc.1) hc.2.1) (hc.2.2.2 b hmem hb.2.1)
  have h1 := key hb hc
  have h2 := key hc hb
  omega

/-- What the best so far of `argmax` holds after a prefix `xs`: nothing while
    `xs` has only NaNs, else the first greatest number of `xs` and its index. -/
def BestOf (xs : List Float32) : Option (Nat × Float32) → Prop
  | none => ∀ x ∈ xs, x.isNaN = true
  | some (j, b) => FirstMax xs j b

@[simp] theorem argmaxStep_none (x : Float32) (n : Nat) :
    argmaxStep none (x, n) = if x.isNaN then none else some (n, x) := rfl

@[simp] theorem argmaxStep_some (j : Nat) (b x : Float32) (n : Nat) :
    argmaxStep (some (j, b)) (x, n) = if x ≤ b || x.isNaN then some (j, b) else some (n, x) := rfl

/-- A number greater than every number of `xs` is the first greatest number of
    `xs ++ [x]`. -/
theorem firstMax_append_of_gt {xs : List Float32} {x : Float32} (hx : x.isNaN = false)
    (hgt : ∀ y ∈ xs, y.isNaN = false → y < x) : FirstMax (xs ++ [x]) xs.length x := by
  refine ⟨List.getElem?_concat_length .., hx, fun y hy hyn => ?_, fun y hy hyn => ?_⟩
  · rcases List.mem_append.1 hy with hy | hy
    · exact Float32.le_of_lt (hgt y hy hyn)
    · rw [List.mem_singleton.1 hy]
      exact Float32.le_refl_of_isNaN_eq_false hx
  · rw [List.take_left' rfl] at hy
    exact hgt y hy hyn

/-- The step of `argmax`: what the best so far holds is kept by one more value. -/
theorem bestOf_argmaxStep {xs : List Float32} {best : Option (Nat × Float32)} (x : Float32)
    (h : BestOf xs best) : BestOf (xs ++ [x]) (argmaxStep best (x, xs.length)) := by
  match best, h with
  | none, h =>
    rw [argmaxStep_none]
    split
    · -- one more NaN
      intro y hy
      rcases List.mem_append.1 hy with hy | hy
      · exact h y hy
      · rwa [List.mem_singleton.1 hy]
    · -- the first number seen
      rename_i hx
      exact firstMax_append_of_gt (Bool.eq_false_iff.2 hx) fun y hy hyn =>
        absurd hyn (by rw [h y hy]; decide)
  | some (j, b), ⟨hb, hbn, hle, hlt⟩ =>
    have hj : j < xs.length := (List.getElem?_eq_some_iff.1 hb).1
    rw [argmaxStep_some]
    split
    · -- the value is not greater, or is a NaN: the best stays
      rename_i hkeep
      refine ⟨by rw [List.getElem?_append_left hj]; exact hb, hbn, fun y hy hyn => ?_, ?_⟩
      · rcases List.mem_append.1 hy with hy | hy
        · exact hle y hy hyn
        · rw [List.mem_singleton.1 hy] at hyn ⊢
          simpa only [Bool.or_eq_true, decide_eq_true_eq, hyn, Bool.false_eq_true, or_false]
            using hkeep
      · rwa [List.take_append_of_le_length hj.le]
    · -- a greater number takes over
      rename_i hnew
      simp only [Bool.or_eq_true, decide_eq_true_eq, not_or, Bool.not_eq_true] at hnew
      have hbx : b < x := Float32.lt_of_not_le hnew.2 hbn hnew.1
      exact firstMax_append_of_gt hnew.2 fun y hy hyn => Float32.lt_of_le_of_lt (hle y hy hyn) hbx

/-- The run of `argmax`: after the whole list, the best so far is what `BestOf` says. -/
theorem bestOf_foldl (xs : List Float32) : BestOf xs (xs.zipIdx.foldl argmaxStep none) := by
  induction xs using List.reverseRecOn with
  | nil => intro x hx; simp at hx
  | append_singleton xs x ih =>
    rw [List.zipIdx_append, List.foldl_append, List.zipIdx_singleton, List.foldl_cons,
      List.foldl_nil, Nat.zero_add]
    exact bestOf_argmaxStep x ih

theorem argmax_eq_none_iff {v : List Float32} : argmax v = none ↔ ∀ x ∈ v, x.isNaN = true := by
  have hbest := bestOf_foldl v
  rw [argmax, Option.map_eq_none_iff]
  constructor
  · intro h
    rw [h] at hbest
    exact hbest
  · intro h
    cases hf : v.zipIdx.foldl argmaxStep none with
    | none => rfl
    | some p =>
      -- the best so far would be a number of `v`
      obtain ⟨j, b⟩ := p
      rw [hf] at hbest
      exact absurd (h b (List.mem_of_getElem? hbest.1)) (by rw [hbest.2.1]; decide)

theorem argmax_eq_some_iff {v : List Float32} {i : Nat} :
    argmax v = some i ↔ ∃ b, FirstMax v i b := by
  have hbest := bestOf_foldl v
  rw [argmax, Option.map_eq_some_iff]
  constructor
  · rintro ⟨⟨j, b⟩, hf, rfl⟩
    rw [hf] at hbest
    exact ⟨b, hbest⟩
  · rintro ⟨b, hb⟩
    cases hf : v.zipIdx.foldl argmaxStep none with
    | none =>
      rw [hf] at hbest
      exact absurd (hbest b (List.mem_of_getElem? hb.1)) (by rw [hb.2.1]; decide)
    | some p =>
      obtain ⟨j, c⟩ := p
      rw [hf] at hbest
      exact ⟨(j, c), rfl, hbest.unique hb⟩

theorem exists_firstMax_iff {v : List Float32} {i : Nat} :
    (∃ b, FirstMax v i b) ↔ ∃ h : i < v.length, v[i].isNaN = false ∧
      (∀ x ∈ v, x.isNaN = false → x ≤ v[i]) ∧ ∀ x ∈ v.take i, x.isNaN = false → x < v[i] := by
  constructor
  · rintro ⟨b, hb, hn, hle, hlt⟩
    obtain ⟨hi, rfl⟩ := List.getElem?_eq_some_iff.1 hb
    exact ⟨hi, hn, hle, hlt⟩
  · rintro ⟨hi, hn, hle, hlt⟩
    exact ⟨v[i], List.getElem?_eq_getElem hi, hn, hle, hlt⟩

/-- `argmax` gives no index exactly when every value is a NaN, and otherwise the
    index of the first greatest number: not a NaN, at least every number, and
    above every number before it. -/
theorem argmax_spec (v : List Float32) :
    (argmax v = none ↔ ∀ x ∈ v, x.isNaN = true) ∧
    ∀ i, argmax v = some i ↔ ∃ h : i < v.length, v[i].isNaN = false ∧
      (∀ x ∈ v, x.isNaN = false → x ≤ v[i]) ∧ ∀ x ∈ v.take i, x.isNaN = false → x < v[i] :=
  ⟨argmax_eq_none_iff, fun _ => argmax_eq_some_iff.trans exists_firstMax_iff⟩

end EdgePack

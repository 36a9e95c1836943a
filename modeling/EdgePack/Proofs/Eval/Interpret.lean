import Mathlib
import EdgePack.Eval.Interpret
import EdgePack.Proofs.Tensor.Activation

/-!
# Reading a prediction

`interpret` checks a model's raw outputs itself before it ranks them and
takes their softmax, and its checks are exactly what `argmax` and `softmax`
need: a non-empty list of finite values has a greatest number, and its softmax
succeeds. So the two failures inside it never happen, and

* `interpret_spec`: an empty output is refused as empty, one holding a NaN or
  an infinity names the first such value, and every other output is read:
  the predicted class is the first index of a greatest raw value, the
  probabilities are the softmax of the raw values, one per class, and the
  confidence is the predicted class's probability in percent.
-/

namespace EdgePack

theorem interpret_nil (expected : Nat) : interpret [] expected = .error .emptyOutput := rfl

theorem interpret_of_firstNonFinite {raw : List Float32} {i : Nat} {v : Float32} (expected : Nat)
    (h : firstNonFinite raw = some (i, v)) :
    interpret raw expected = .error (.nonFiniteOutput i v) := by
  have hne : raw ≠ [] := by
    rintro rfl
    cases h
  simp [interpret, hne, h]
  rfl

/-- A non-empty output of finite values is read: ranked by `argmax`, with the
    softmax as its probabilities. -/
theorem interpret_of_finite {raw : List Float32} (expected : Nat) (hne : raw ≠ [])
    (hfin : ∀ x ∈ raw, x.isFinite = true) :
    ∃ p ps, argmax raw = some p ∧ softmax raw = .ok ps ∧ ps.length = raw.length ∧
      interpret raw expected = .ok ⟨p, ps.getD p 0 * 100, p == expected, ps⟩ := by
  -- a finite value is a number, so the output has a greatest one
  obtain ⟨x, hx⟩ := List.exists_mem_of_ne_nil raw hne
  obtain ⟨p, hp⟩ := Option.ne_none_iff_exists'.1 fun h =>
    absurd (argmax_eq_none_iff.1 h x hx)
      (by rw [Float32.isNaN_eq_false_of_isFinite (hfin x hx)]; decide)
  obtain ⟨ps, hps, hlen⟩ := softmax_eq_ok hne hfin
  refine ⟨p, ps, hp, hps, hlen, ?_⟩
  simp [interpret, hne, firstNonFinite_eq_none_iff.2 hfin, hp, hps, Except.mapError]

/-- Every output is refused as empty, refused for a value that is not finite,
    or read. -/
theorem interpret_cases (raw : List Float32) (expected : Nat) :
    interpret raw expected = .error .emptyOutput ∧ raw = [] ∨
    (∃ i v, interpret raw expected = .error (.nonFiniteOutput i v)) ∧ raw ≠ [] ∨
    (∃ r, interpret raw expected = .ok r) ∧ raw ≠ [] := by
  by_cases hne : raw = []
  · exact .inl ⟨hne ▸ interpret_nil expected, hne⟩
  cases hf : firstNonFinite raw with
  | some p => exact .inr (.inl ⟨⟨p.1, p.2, interpret_of_firstNonFinite expected hf⟩, hne⟩)
  | none =>
    obtain ⟨_, _, -, -, -, hr⟩ := interpret_of_finite expected hne (firstNonFinite_eq_none_iff.1 hf)
    exact .inr (.inr ⟨⟨_, hr⟩, hne⟩)

/-- How a model's raw outputs are read, for every output and every label: an
    empty output is refused as empty, and only it; one holding a NaN or an
    infinity is refused naming the first such value; any other is read, with
    the first index of a greatest raw value as the prediction, the softmax of
    the raw values as the probabilities, one per class, and the predicted
    class's probability in percent as the confidence. The failure of the
    softmax inside never happens. -/
theorem interpret_spec (raw : List Float32) (expected : Nat) :
    (interpret raw expected = .error .emptyOutput ↔ raw = []) ∧
    (∀ i v, FirstNonFinite raw i v → interpret raw expected = .error (.nonFiniteOutput i v)) ∧
    (raw ≠ [] → (∀ x ∈ raw, x.isFinite = true) → ∃ r, interpret raw expected = .ok r ∧
      (∃ h : r.predicted < raw.length, (∀ x ∈ raw, x ≤ raw[r.predicted]) ∧
        ∀ i (hi : i < r.predicted), ¬ ∀ x ∈ raw, x ≤ raw[i]) ∧
      (r.correct = true ↔ r.predicted = expected) ∧
      softmax raw = .ok r.probabilities ∧ r.probabilities.length = raw.length ∧
      ∃ h : r.predicted < r.probabilities.length,
        r.confidencePct = r.probabilities[r.predicted] * 100) ∧
    ∀ e, interpret raw expected ≠ .error (.tensor e) := by
  refine ⟨⟨fun h => ?_, fun h => h ▸ interpret_nil expected⟩,
    fun i v h => interpret_of_firstNonFinite expected (firstNonFinite_eq_some_iff.2 h),
    fun hne hfin => ?_, fun e he => ?_⟩
  · rcases interpret_cases raw expected with ⟨-, h'⟩ | ⟨⟨i, v, h'⟩, -⟩ | ⟨⟨r, h'⟩, -⟩ <;>
      simp_all
  · obtain ⟨p, ps, hp, hps, hlen, hr⟩ := interpret_of_finite expected hne hfin
    obtain ⟨b, hb, hbn, hle, hlt⟩ := argmax_eq_some_iff.1 hp
    obtain ⟨hpl, rfl⟩ := List.getElem?_eq_some_iff.1 hb
    -- every value is finite, hence a number
    have hnum : ∀ x ∈ raw, x.isNaN = false := fun x hx => Float32.isNaN_eq_false_of_isFinite (hfin x hx)
    refine ⟨_, hr, ⟨hpl, fun x hx => hle x hx (hnum x hx), fun i hi hall => ?_⟩, beq_iff_eq, hps,
      hlen, hlen ▸ hpl, by simp [List.getElem?_eq_getElem (hlen ▸ hpl)]⟩
    -- an earlier value is below the prediction, so not at least every value
    change i < p at hi
    have hi' : i < raw.length := by omega
    have hmem : raw[i] ∈ raw.take p := List.mem_take_iff_getElem.2 ⟨i, by omega, rfl⟩
    exact Float32.not_lt_of_le (hall _ (List.getElem_mem hpl)) (hlt _ hmem (hnum _ (List.getElem_mem _)))
  · rcases interpret_cases raw expected with ⟨h', -⟩ | ⟨⟨i, v, h'⟩, -⟩ | ⟨⟨r, h'⟩, -⟩ <;>
      simp_all

end EdgePack

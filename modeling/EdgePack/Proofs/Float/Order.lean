import Mathlib

/-!
# The order of singles

Singles compare as IEEE 754 says: a NaN is unordered with everything, itself
included; the two zeros are equal; the infinities lie below and above every
other value. Lean's `Float32` compares through its logical model, which
unpacks a single into an infinity, a NaN, a zero, or a sign, a significand and
an exponent, and compares these.

Every value but a NaN has a rank in a lexicographic order
(`UnpackedFloat.rank`): its kind, from the negative infinity up to the
positive one, then for a finite value its exponent and its significand, both
negated when the value is negative. Then

* `Float32.le_iff`, `Float32.lt_iff`: `x ≤ y` and `x < y` hold exactly when
  neither is a NaN and the ranks are so ordered;
* among singles that are not NaNs, `≤` is therefore a total preorder with `<`
  its strict part (`Float32.le_trans`, `Float32.lt_of_not_le`, …), and a finite
  single is not a NaN (`Float32.isNaN_eq_false_of_isFinite`).
-/

open Float.Model (UnpackedFloat)

namespace Float.Model.UnpackedFloat

/-- The place of a value in the order of numbers, for all but a NaN: first its
    kind, from the negative infinity up to the positive one, then for a finite
    value its exponent and significand, both negated when it is negative. -/
def rank : UnpackedFloat → ℤ ×ₗ ℤ ×ₗ ℤ
  | .infinity .negative => toLex (-2, toLex (0, 0))
  | .finite .negative m e _ => toLex (-1, toLex (-e, -(m : ℤ)))
  | .zero _ | .notANumber => toLex (0, toLex (0, 0))
  | .finite .positive m e _ => toLex (1, toLex (e, m))
  | .infinity .positive => toLex (2, toLex (0, 0))

namespace Sign

@[simp] theorem compare_self (s : Sign) : compare s s = .eq := by cases s <;> rfl

@[simp] theorem compare_negative_positive : compare Sign.negative Sign.positive = .lt := rfl

@[simp] theorem compare_positive_negative : compare Sign.positive Sign.negative = .gt := rfl

end Sign

/-! ## Finite values of one sign compare lexicographically -/

section Lex

variable (e e' : ℤ) (m m' : ℕ)

theorem isLE_then_compare :
    ((compare e e').then (compare m m')).isLE ↔ e < e' ∨ e = e' ∧ m ≤ m' := by
  rw [Ordering.isLE_then_iff_or, Int.compare_eq_lt, Int.compare_eq_eq, Nat.isLE_compare]

theorem then_compare_eq_lt :
    (compare e e').then (compare m m') = .lt ↔ e < e' ∨ e = e' ∧ m < m' := by
  rw [Ordering.then_eq_lt, Int.compare_eq_lt, Int.compare_eq_eq, Nat.compare_eq_lt]

theorem then_compare_eq_gt :
    (compare e e').then (compare m m') = .gt ↔ e' < e ∨ e = e' ∧ m' < m := by
  rw [Ordering.then_eq_gt, Int.compare_eq_gt, Int.compare_eq_eq, Nat.compare_eq_gt]

end Lex

/-! ## Comparisons are the order of ranks -/

theorem eq_notANumber {a : UnpackedFloat} (h : a.isNaN = true) : a = .notANumber := by
  cases a <;> simp_all [isNaN]

@[simp] theorem le_notANumber (a : UnpackedFloat) : a.le .notANumber = false := by
  cases a <;> rfl

@[simp] theorem lt_notANumber (a : UnpackedFloat) : a.lt .notANumber = false := by
  cases a <;> rfl

theorem le_iff_rank {a b : UnpackedFloat} (ha : a.isNaN = false) (hb : b.isNaN = false) :
    a.le b = true ↔ a.rank ≤ b.rank := by
  -- the kinds decide every pair but two finite values of one sign
  rcases a with ⟨_ | _⟩ | _ | ⟨_ | _⟩ | ⟨_ | _, m, e, hm⟩ <;>
    rcases b with ⟨_ | _⟩ | _ | ⟨_ | _⟩ | ⟨_ | _, m', e', hm'⟩ <;>
    simp_all [isNaN, UnpackedFloat.le, UnpackedFloat.compare, rank, Prod.Lex.toLex_le_toLex,
      isLE_then_compare, Ordering.isGE_iff_ne_lt, then_compare_eq_lt]
  -- two negative values: the greater one has the lesser exponent and significand
  omega

theorem lt_iff_rank {a b : UnpackedFloat} (ha : a.isNaN = false) (hb : b.isNaN = false) :
    a.lt b = true ↔ a.rank < b.rank := by
  rcases a with ⟨_ | _⟩ | _ | ⟨_ | _⟩ | ⟨_ | _, m, e, hm⟩ <;>
    rcases b with ⟨_ | _⟩ | _ | ⟨_ | _⟩ | ⟨_ | _, m', e', hm'⟩ <;>
    simp_all [isNaN, UnpackedFloat.lt, UnpackedFloat.compare, rank, Prod.Lex.toLex_lt_toLex,
      Ordering.swap_eq_lt, then_compare_eq_lt, then_compare_eq_gt]

/-- `a ≤ b` holds exactly when neither is a NaN and the ranks are so ordered. -/
theorem le_iff {a b : UnpackedFloat} :
    a.le b = true ↔ a.isNaN = false ∧ b.isNaN = false ∧ a.rank ≤ b.rank := by
  cases ha : a.isNaN
  · cases hb : b.isNaN
    · simp [le_iff_rank ha hb]
    · simp [eq_notANumber hb]
  · simp [eq_notANumber ha, UnpackedFloat.le, UnpackedFloat.compare]

/-- `a < b` holds exactly when neither is a NaN and the ranks are so ordered. -/
theorem lt_iff {a b : UnpackedFloat} :
    a.lt b = true ↔ a.isNaN = false ∧ b.isNaN = false ∧ a.rank < b.rank := by
  cases ha : a.isNaN
  · cases hb : b.isNaN
    · simp [lt_iff_rank ha hb]
    · simp [eq_notANumber hb]
  · simp [eq_notANumber ha, UnpackedFloat.lt, UnpackedFloat.compare]

end Float.Model.UnpackedFloat

namespace Float32

/-- The rank of a single in the order of numbers (see `UnpackedFloat.rank`). -/
def rank (x : Float32) : ℤ ×ₗ ℤ ×ₗ ℤ := x.toModel.unpack.rank

theorem le_iff {x y : Float32} : x ≤ y ↔ x.isNaN = false ∧ y.isNaN = false ∧ x.rank ≤ y.rank := by
  change decide (x.toModel.unpack.le y.toModel.unpack = true) = true ↔ _
  rw [decide_eq_true_iff]
  exact UnpackedFloat.le_iff

theorem lt_iff {x y : Float32} : x < y ↔ x.isNaN = false ∧ y.isNaN = false ∧ x.rank < y.rank := by
  change decide (x.toModel.unpack.lt y.toModel.unpack = true) = true ↔ _
  rw [decide_eq_true_iff]
  exact UnpackedFloat.lt_iff

variable {x y z : Float32}

theorem le_refl_of_isNaN_eq_false (hx : x.isNaN = false) : x ≤ x :=
  le_iff.2 ⟨hx, hx, le_rfl⟩

theorem le_trans (hxy : x ≤ y) (hyz : y ≤ z) : x ≤ z := by
  rw [le_iff] at *
  exact ⟨hxy.1, hyz.2.1, hxy.2.2.trans hyz.2.2⟩

theorem le_of_lt (h : x < y) : x ≤ y := by
  rw [le_iff, lt_iff] at *
  exact ⟨h.1, h.2.1, h.2.2.le⟩

theorem lt_of_lt_of_le (hxy : x < y) (hyz : y ≤ z) : x < z := by
  rw [le_iff, lt_iff] at *
  exact ⟨hxy.1, hyz.2.1, hxy.2.2.trans_le hyz.2.2⟩

theorem lt_of_le_of_lt (hxy : x ≤ y) (hyz : y < z) : x < z := by
  rw [le_iff, lt_iff] at *
  exact ⟨hxy.1, hyz.2.1, hxy.2.2.trans_lt hyz.2.2⟩

theorem not_lt_of_le (h : x ≤ y) : ¬ y < x := by
  rw [le_iff, lt_iff] at *
  exact fun h' => absurd h.2.2 (not_le_of_gt h'.2.2)

/-- Of two singles that are not NaNs, one is at most the other. -/
theorem lt_of_not_le (hx : x.isNaN = false) (hy : y.isNaN = false) (h : ¬ x ≤ y) : y < x := by
  rw [le_iff, lt_iff] at *
  exact ⟨hy, hx, lt_of_not_ge fun h' => h ⟨hx, hy, h'⟩⟩

theorem isNaN_eq_false_of_isFinite (h : x.isFinite = true) : x.isNaN = false := by
  change x.toModel.unpack.isFinite = true at h
  change x.toModel.unpack.isNaN = false
  cases hu : x.toModel.unpack <;> simp_all [UnpackedFloat.isFinite, UnpackedFloat.isNaN]

end Float32

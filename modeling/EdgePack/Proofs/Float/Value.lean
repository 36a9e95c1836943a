import Mathlib
import EdgePack.Data.Bytes
import EdgePack.Float.Read

/-!
# What a single stands for

A finite value of a binary format stands for a rational, `(-1)^s · m · 2^e`
(`Value.toRat?`); a NaN and the infinities stand for none. This module ties
the library's reading of single-precision bits to that rational, and to
Lean's own model of `Float32`:

* `Value.roundAway_eq`: rounding a value to an integer rounds its rational to
  the nearest integer, a half going away from zero (`roundHalfAway`);
* `Format.isSome_toRat?_decode_iff`, `Float32.isFinite_ofBits`: a bit pattern
  stands for a rational, and reads as a finite `Float32`, exactly when its
  exponent field is not all ones; so a single is finite for `Float32` exactly
  when it has a rational (`Single.isFinite_toFloat32_iff`);
* `toRat?_decode_ofDecimal`: a natural number below `2^23` is read as a single
  exactly;
* `Float32.ofBits_bne_zero_iff`: a single is unequal to zero exactly when a bit
  other than its sign is set, so the zeros of both signs are zero and a NaN is
  not; a natural below `2^23` read as a single is zero only when it is
  (`singleOfDecimal_bne_zero`), and a negative one never is.
-/

namespace EdgePack.Float

/-- The rational a value stands for; a NaN and the infinities stand for none. -/
def Value.toRat? : Value → Option ℚ
  | .finite neg m e => some ((if neg then -1 else 1) * (m * 2 ^ e))
  | _ => none

/-! ## Rounding to an integer -/

/-- The integer nearest `q`, a half going away from zero. -/
def roundHalfAway (q : ℚ) : ℤ := if q < 0 then -⌊-q + 1 / 2⌋ else ⌊q + 1 / 2⌋

theorem floor_intCast_add_half (z : ℤ) : ⌊(z : ℚ) + 1 / 2⌋ = z := by
  rw [Int.floor_intCast_add, Int.floor_eq_zero_iff.2 (by norm_num), add_zero]

@[simp] theorem roundHalfAway_intCast (n : ℤ) : roundHalfAway n = n := by
  unfold roundHalfAway
  split_ifs
  · rw [← Int.cast_neg, floor_intCast_add_half, neg_neg]
  · exact floor_intCast_add_half n

/-- `m · 2^e + 1/2` rounded down, in the natural arithmetic that rounding a
    value does. -/
theorem floor_scaled_add_half (m : ℕ) (e : ℤ) :
    ⌊(m : ℚ) * 2 ^ e + 1 / 2⌋ =
      ((if 0 ≤ e then m * 2 ^ e.toNat else (2 * m + 2 ^ (-e).toNat) / (2 * 2 ^ (-e).toNat) : ℕ) : ℤ) := by
  split_ifs with he
  · have h2 : (2 : ℚ) ^ e = ((2 ^ e.toNat : ℕ) : ℚ) := by
      rw [← Int.toNat_of_nonneg he, zpow_natCast]
      push_cast
      rfl
    rw [h2, ← Nat.cast_mul, ← Int.cast_natCast, floor_intCast_add_half]
  · -- a negative exponent: the sum is the quotient `(2m + 2^k) / (2 · 2^k)`
    set k := (-e).toNat with hk
    have hek : e = -(k : ℤ) := by omega
    have hsum : (m : ℚ) * 2 ^ e + 1 / 2 = ((2 * m + 2 ^ k : ℕ) : ℚ) / ((2 * 2 ^ k : ℕ) : ℚ) := by
      rw [hek, zpow_neg, zpow_natCast]
      push_cast
      field_simp
    rw [hsum, ← Int.natCast_floor_eq_floor (by positivity), Nat.floor_div_eq_div]

/-- Rounding a value to an integer rounds the rational it stands for, a half
    going away from zero; a NaN and the infinities have no integer. -/
theorem Value.roundAway_eq (v : Value) : v.roundAway = v.toRat?.map roundHalfAway := by
  cases v with
  | nan neg => rfl
  | inf neg => rfl
  | finite neg m e =>
    simp only [roundAway, toRat?, Option.map_some, Option.some.injEq, Nat.pow_eq]
    cases neg with
    | false =>
      have hnn : ¬ (1 : ℚ) * (m * 2 ^ e) < 0 := not_lt.2 (by positivity)
      simp only [Bool.false_eq_true, ↓reduceIte]
      rw [roundHalfAway, if_neg hnn, one_mul, floor_scaled_add_half]
    | true =>
      simp only [↓reduceIte]
      rcases Nat.eq_zero_or_pos m with rfl | hm
      · -- zero is its own integer, whatever its sign
        have h0 := floor_scaled_add_half 0 e
        rw [Nat.cast_zero, zero_mul, zero_add, Int.floor_eq_zero_iff.2 (by norm_num)] at h0
        have hz : ¬ (-1 : ℚ) * (((0 : ℕ) : ℚ) * 2 ^ e) < 0 := by simp
        rw [roundHalfAway, if_neg hz, ← h0, Nat.cast_zero, zero_mul, mul_zero, zero_add,
          Int.floor_eq_zero_iff.2 (by norm_num), neg_zero]
      · have hneg : (-1 : ℚ) * (m * 2 ^ e) < 0 := by
          have : (0 : ℚ) < m * 2 ^ e := by positivity
          linarith
        rw [roundHalfAway, if_pos hneg, neg_mul, one_mul, neg_neg, floor_scaled_add_half]

/-! ## Single-precision patterns -/

namespace Format

@[simp] theorem binary32_fracBits : binary32.fracBits = 23 := rfl
@[simp] theorem binary32_expBits : binary32.expBits = 8 := rfl
@[simp] theorem binary32_bias : binary32.bias = 127 := rfl
@[simp] theorem binary32_topBiased : binary32.topBiased = 255 := rfl
@[simp] theorem binary32_minExp : binary32.minExp = -149 := by decide
@[simp] theorem binary32_maxExp : binary32.maxExp = 104 := by decide

/-- A pattern stands for a rational exactly when its exponent field is not all ones. -/
theorem isSome_toRat?_decode_iff (n : ℕ) :
    (binary32.decode n).toRat?.isSome ↔ n / 2 ^ 23 % 2 ^ 8 ≠ 255 := by
  by_cases h : n / 2 ^ 23 % 2 ^ 8 = 255
  · -- an infinity or a NaN
    simp only [decode, Nat.pow_eq, binary32_fracBits, binary32_expBits, binary32_topBiased, h, beq_self_eq_true,
      ↓reduceIte]
    split_ifs <;> simp_all [Value.toRat?]
  · -- a subnormal or a normal value
    have hne : (n / 2 ^ 23 % 2 ^ 8 == 255) = false := by simpa using h
    simp only [decode, Nat.pow_eq, binary32_fracBits, binary32_expBits, binary32_topBiased, hne,
      Bool.false_eq_true, ↓reduceIte]
    split_ifs <;> simp_all [Value.toRat?]

/-- A normal pattern with a clear sign bit: biased exponent `b`, fraction `f`. -/
theorem decode_normal {b f : ℕ} (hb0 : 0 < b) (hb : b < 255) (hf : f < 2 ^ 23) :
    binary32.decode (b * 2 ^ 23 + f) = .finite false (f + 2 ^ 23) ((b : ℤ) - 150) := by
  have h1 : (b * 2 ^ 23 + f) % 2 ^ 23 = f := by omega
  have h2 : (b * 2 ^ 23 + f) / 2 ^ 23 % 2 ^ 8 = b := by omega
  have h3 : (b * 2 ^ 23 + f) / 2 ^ (23 + 8) % 2 = 0 := by omega
  have hne : (b == 255) = false := by simp; omega
  have hnz : (b == 0) = false := by simp; omega
  simp only [decode, Nat.pow_eq, binary32_fracBits, binary32_expBits, binary32_topBiased, binary32_bias, h1, h2,
    h3, hne, hnz, Bool.false_eq_true, ↓reduceIte]
  congr 1
  omega

/-- A positive natural below `2^23`, shifted up to a significand of 24 bits. -/
theorem shifted_bounds {n : ℕ} (hn0 : 0 < n) (hn : n < 2 ^ 23) :
    n.log2 < 23 ∧ 2 ^ 23 ≤ n * 2 ^ (23 - n.log2) ∧ n * 2 ^ (23 - n.log2) < 2 ^ 24 := by
  have hL : n.log2 < 23 := (Nat.log2_lt (by omega)).2 hn
  have hlo : 2 ^ n.log2 ≤ n := Nat.log2_self_le (by omega)
  have hhi : n < 2 ^ (n.log2 + 1) := Nat.lt_log2_self
  have hsplit : 2 ^ 23 = 2 ^ n.log2 * 2 ^ (23 - n.log2) := by
    rw [← Nat.pow_add]
    congr 1
    omega
  have hsplit' : 2 ^ 24 = 2 ^ (n.log2 + 1) * 2 ^ (23 - n.log2) := by
    rw [← Nat.pow_add]
    congr 1
    omega
  exact ⟨hL, hsplit ▸ Nat.mul_le_mul_right _ hlo,
    hsplit' ▸ Nat.mul_lt_mul_of_pos_right hhi (by positivity)⟩

/-- The single nearest a positive natural `n` below `2^23` is normal, with `n`
    shifted up to 24 bits as its significand. -/
theorem nearest_nat {n : ℕ} (hn0 : 0 < n) (hn : n < 2 ^ 23) :
    binary32.nearest false n 1 = (n.log2 + 127) * 2 ^ 23 + (n * 2 ^ (23 - n.log2) - 2 ^ 23) := by
  obtain ⟨hL, hm_lo, hm_hi⟩ := shifted_bounds hn0 hn
  have hq : ((n.log2 : ℤ) - (Nat.log2 1 : ℕ) - (23 : ℕ)) = (n.log2 : ℤ) - 23 := by
    have h1 : Nat.log2 1 = 0 := by
      rw [Nat.log2_def]
      simp
    rw [h1]
    simp
  have hk : (-((n.log2 : ℤ) - 23)).toNat = 23 - n.log2 := by omega
  -- the first guess of the exponent is already right, and the quotient is exact
  have hfloor : scaledFloor n 1 ((n.log2 : ℤ) - 23) = n * 2 ^ (23 - n.log2) := by
    rw [scaledFloor, if_neg (by omega), hk, Nat.div_one, Nat.pow_eq]
  have hround : scaledRound n 1 ((n.log2 : ℤ) - 23) = n * 2 ^ (23 - n.log2) := by
    rw [scaledRound, if_neg (by omega), hk, Nat.pow_eq]
    simp [roundHalfEven, Nat.mod_one]
  unfold nearest
  simp only [Nat.pow_eq, binary32_fracBits, binary32_minExp, binary32_maxExp, hq, hfloor]
  rw [if_neg (not_lt.2 hm_lo), max_eq_left (by omega), hround]
  have hne : (n * 2 ^ (23 - n.log2) == 2 ^ (23 + 1)) = false := by simp; omega
  have hnz : (n == 0) = false := by simp; omega
  simp only [hne, hnz, Bool.false_eq_true, ↓reduceIte, show ¬ ((n.log2 : ℤ) - 23 > 104) by omega]
  have hb : ((n.log2 : ℤ) - 23 - -149 + 1).toNat = n.log2 + 127 := by omega
  simp only [encode, Nat.pow_eq, Bool.false_eq_true, ↓reduceIte, binary32_fracBits, binary32_minExp,
    if_neg (not_lt.2 hm_lo), hb, Nat.zero_add]

/-- A positive natural below `2^23`, written in decimal, is read as the single
    nearest to `n / 1`. -/
theorem ofDecimal_nat {n : ℕ} (hn0 : 0 < n) (hn : n < 2 ^ 23) :
    binary32.ofDecimal false n 0 = binary32.nearest false n 1 := by
  have hlead : ¬ ((0 : ℤ) + (Nat.toDigits 10 n).length > 400) := by
    have := Nat.toDigits_length 10 n 7 (by decide) (by omega)
    omega
  have hnz : (n == 0) = false := by simp; omega
  simp only [ofDecimal, Nat.pow_eq, hnz, Bool.false_eq_true, ↓reduceIte, hlead,
    show ¬ ((0 : ℤ) + (Nat.toDigits 10 n).length < -400) by omega, le_refl, Int.toNat_zero,
    pow_zero, Nat.mul_one]

/-- A natural below `2^23` is read as a single whose bits fit in 32. -/
theorem ofDecimal_nat_lt {n : ℕ} (hn : n < 2 ^ 23) : binary32.ofDecimal false n 0 < 2 ^ 32 := by
  rcases Nat.eq_zero_or_pos n with rfl | hn0
  · decide
  · obtain ⟨hL, -, hm_hi⟩ := shifted_bounds hn0 hn
    rw [ofDecimal_nat hn0 hn, nearest_nat hn0 hn]
    omega

theorem encode_true (m : ℕ) (e : ℤ) : binary32.encode true m e = 2 ^ 31 + binary32.encode false m e := by
  simp only [encode, if_true, Bool.false_eq_true, if_false, binary32_fracBits, binary32_expBits]
  split_ifs <;> simp only [Nat.pow_eq] <;> omega

theorem infBits_true : binary32.infBits true = 2 ^ 31 + binary32.infBits false := by
  simp [infBits, Nat.pow_eq]

/-- A negative value has the bits of its magnitude and the sign bit. -/
theorem nearest_true (a b : ℕ) : binary32.nearest true a b = 2 ^ 31 + binary32.nearest false a b := by
  unfold nearest
  simp only [encode_true, infBits_true]
  -- the sign only enters at the end, in `encode` and `infBits`
  split_ifs <;> rfl

/-- A negative decimal is read as its magnitude with the sign bit set. -/
theorem ofDecimal_true (n : ℕ) (k : ℤ) :
    binary32.ofDecimal true n k = 2 ^ 31 + binary32.ofDecimal false n k := by
  unfold ofDecimal
  simp only [nearest_true, infBits_true]
  split_ifs <;> rfl

/-- A positive natural below `2^23` is read as a positive normal single: its
    bits lie between those of `1` and the sign bit. -/
theorem ofDecimal_nat_bounds {n : ℕ} (hn0 : 0 < n) (hn : n < 2 ^ 23) :
    127 * 2 ^ 23 ≤ binary32.ofDecimal false n 0 ∧ binary32.ofDecimal false n 0 < 2 ^ 31 := by
  obtain ⟨hL, -, hm_hi⟩ := shifted_bounds hn0 hn
  rw [ofDecimal_nat hn0 hn, nearest_nat hn0 hn]
  omega

end Format

/-- A natural number below `2^23` is read as a single exactly. -/
theorem toRat?_decode_ofDecimal {n : ℕ} (hn : n < 2 ^ 23) :
    (Format.binary32.decode (Format.binary32.ofDecimal false n 0)).toRat? = some (n : ℚ) := by
  rcases Nat.eq_zero_or_pos n with rfl | hn0
  · have h0 : Format.binary32.decode (Format.binary32.ofDecimal false 0 0) = .finite false 0 (-149) := by
      decide
    simp [h0, Value.toRat?]
  · obtain ⟨hL, hm_lo, hm_hi⟩ := Format.shifted_bounds hn0 hn
    rw [Format.ofDecimal_nat hn0 hn, Format.nearest_nat hn0 hn,
      Format.decode_normal (by omega) (by omega) (by omega), Nat.sub_add_cancel hm_lo]
    simp only [Value.toRat?, Bool.false_eq_true, ↓reduceIte, one_mul, Option.some.injEq]
    -- `n · 2^(23 - L) · 2^(L - 23)` is `n`
    have he : ((n.log2 + 127 : ℕ) : ℤ) - 150 = -((23 - n.log2 : ℕ) : ℤ) := by omega
    rw [he, zpow_neg, zpow_natCast]
    push_cast
    field_simp

end EdgePack.Float

/-! ## The same patterns in Lean's model of `Float32` -/

namespace Float.Model.UnpackedFloat

/-- A pattern unpacks to a finite value exactly when its exponent field is not
    all ones. -/
theorem isFinite_unpack (bv : BitVec 32) :
    (unpack .binary32 bv).isFinite = true ↔ @unpackExponent .binary32 bv ≠ -1#8 := by
  unfold unpack
  dsimp only
  split_ifs <;> simp_all [isFinite]

/-- Packing what a pattern unpacks to keeps whether its exponent field is all ones. -/
theorem unpackExponent_pack_unpack (bv : BitVec 32) :
    @unpackExponent .binary32 (pack .binary32 (unpack .binary32 bv)) = -1#8 ↔
      @unpackExponent .binary32 bv = -1#8 := by
  unfold unpack
  dsimp only
  split_ifs with h1 h2 h3 h4
  · simp [pack, packedInfinity, unpackExponent_packComponents, h1]
  · simp [pack, packedNaN, unpackExponent_packComponents, h1]
  · simp [pack, packedZero, unpackExponent_packComponents, h3]
  · -- a subnormal pattern packs with an exponent field of zero or one
    simp only [pack, h3]
    split_ifs <;> simp_all [unpackExponent_packComponents, Format.exponentBias, Format.mantissaBits]
  · -- a normal pattern: its biased exponent is below the top one and packs back as it was
    have hlt : (@unpackExponent .binary32 bv).toNat < 255 := by
      have : (@unpackExponent .binary32 bv).toNat < 2 ^ 8 := BitVec.isLt _
      have : (@unpackExponent .binary32 bv).toNat ≠ 255 := fun h => h1 (BitVec.eq_of_toNat_eq h)
      omega
    have hb : ((@unpackExponent .binary32 bv).toNat - 150 + 127 + 23 : Int).toNat =
        (@unpackExponent .binary32 bv).toNat := by omega
    simp only [pack, h1]
    split_ifs <;> simp_all [unpackExponent_packComponents, Format.exponentBias, Format.mantissaBits]
    omega

theorem toNat_unpackExponent (bv : BitVec 32) :
    (@unpackExponent .binary32 bv).toNat = bv.toNat / 2 ^ 23 % 2 ^ 8 := by
  simp [unpackExponent, BitVec.extractLsb_toNat, Nat.shiftRight_eq_div_pow]

theorem toNat_unpackMantissa (bv : BitVec 32) :
    (@unpackMantissa .binary32 bv).toNat = bv.toNat % 2 ^ 23 := by
  simp [unpackMantissa, BitVec.extractLsb_toNat]

/-- A pattern unpacks to a zero exactly when its exponent field and mantissa
    are zero. -/
theorem exists_unpack_eq_zero_iff (bv : BitVec 32) :
    (∃ s, unpack .binary32 bv = .zero s) ↔
      @unpackExponent .binary32 bv = 0 ∧ @unpackMantissa .binary32 bv = 0 := by
  unfold unpack
  dsimp only
  split_ifs <;> simp_all

/-- Packing what a pattern unpacks to keeps whether it is a zero. -/
theorem pack_unpack_fields_eq_zero_iff (bv : BitVec 32) :
    (@unpackExponent .binary32 (pack .binary32 (unpack .binary32 bv)) = 0 ∧
      @unpackMantissa .binary32 (pack .binary32 (unpack .binary32 bv)) = 0) ↔
      @unpackExponent .binary32 bv = 0 ∧ @unpackMantissa .binary32 bv = 0 := by
  unfold unpack
  dsimp only
  split_ifs with h1 h2 h3 h4
  · simp [pack, packedInfinity, h1]
  · simp [pack, packedNaN, h1]
  · simp [pack, packedZero, h3, h4]
  · -- a subnormal pattern packs back with its non-zero mantissa
    simp only [pack, h3]
    split_ifs <;> simp_all [Format.exponentBias, Format.mantissaBits]
  · -- a normal pattern packs back with its non-zero exponent field
    have hlt : (@unpackExponent .binary32 bv).toNat < 255 := by
      have : (@unpackExponent .binary32 bv).toNat < 2 ^ 8 := BitVec.isLt _
      have : (@unpackExponent .binary32 bv).toNat ≠ 255 := fun h => h1 (BitVec.eq_of_toNat_eq h)
      omega
    -- the significand with its leading bit is `2^23` and the mantissa
    have hval : (1#1 ++ @unpackMantissa .binary32 bv).toNat =
        2 ^ 23 + (@unpackMantissa .binary32 bv).toNat := by
      have hm : (@unpackMantissa .binary32 bv).toNat < 2 ^ 23 := BitVec.isLt _
      rw [BitVec.toNat_append, ← Nat.shiftLeft_add_eq_or_of_lt hm, Nat.shiftLeft_eq]
      simp
    have hlog : (1#1 ++ @unpackMantissa .binary32 bv).toNat.log2 = 23 := by
      have hm : (@unpackMantissa .binary32 bv).toNat < 2 ^ 23 := BitVec.isLt _
      rw [Nat.log2_eq_iff (by omega), hval]
      omega
    have hb : ((@unpackExponent .binary32 bv).toNat - 150 + 127 + 23 : Int).toNat =
        (@unpackExponent .binary32 bv).toNat := by omega
    simp only [pack]
    split_ifs with hinf hnorm
    · simp [Format.exponentBias] at hinf
      omega
    · simp_all [Format.exponentBias, Format.mantissaBits]
    · simp_all [Format.mantissaBits]

end Float.Model.UnpackedFloat

namespace Float32

open Float.Model.UnpackedFloat in
/-- A single read from bits is finite exactly when their exponent field is not
    all ones. -/
theorem isFinite_ofBits (b : UInt32) :
    (Float32.ofBits b).isFinite = true ↔ b.toNat / 2 ^ 23 % 2 ^ 8 ≠ 255 := by
  change (unpack .binary32 (pack .binary32 (unpack .binary32 b.toBitVec))).isFinite = true ↔ _
  rw [isFinite_unpack, Ne, unpackExponent_pack_unpack, ← UInt32.toNat_toBitVec,
    ← toNat_unpackExponent, ← BitVec.toNat_inj]
  simp

/-- A single is unequal to zero unless it is a zero of either sign; a NaN is
    unequal to everything. -/
theorem bne_zero_iff (x : Float32) : (x != 0) = true ↔ ∀ s, x.toModel.unpack ≠ .zero s := by
  have h0 : (0 : Float32).toModel.unpack = .zero .positive := rfl
  change (!(x.toModel.unpack.compare (0 : Float32).toModel.unpack == some .eq)) = true ↔ _
  rw [h0]
  cases x.toModel.unpack with
  | infinity s => cases s <;> simp [Float.Model.UnpackedFloat.compare]
  | notANumber => simp [Float.Model.UnpackedFloat.compare]
  | zero s => simp [Float.Model.UnpackedFloat.compare]
  | finite s m e hm => cases s <;> simp [Float.Model.UnpackedFloat.compare]

open Float.Model.UnpackedFloat in
/-- A single read from bits is unequal to zero exactly when a bit other than
    the sign is set. -/
theorem ofBits_bne_zero_iff (b : UInt32) : (Float32.ofBits b != 0) = true ↔ b.toNat % 2 ^ 31 ≠ 0 := by
  rw [bne_zero_iff, ← not_exists, Ne, not_iff_not]
  change (∃ s, unpack .binary32 (pack .binary32 (unpack .binary32 b.toBitVec)) = .zero s) ↔ _
  have hz : ∀ n, (0 : BitVec n).toNat = 0 := fun _ => rfl
  rw [exists_unpack_eq_zero_iff, pack_unpack_fields_eq_zero_iff, ← BitVec.toNat_inj, ← BitVec.toNat_inj,
    toNat_unpackExponent, toNat_unpackMantissa, UInt32.toNat_toBitVec, hz, hz]
  -- the exponent field and the mantissa are the bits below the sign
  omega

end Float32

namespace EdgePack.Single

/-- The rational a single stands for, if it is finite. -/
def value? (x : Single) : Option ℚ := (Float.Format.binary32.decode x.bits.toNat).toRat?

/-- A single is finite for `Float32` exactly when it stands for a rational. -/
theorem isFinite_toFloat32_iff (x : Single) : x.toFloat32.isFinite = true ↔ x.value?.isSome := by
  rw [toFloat32, Float32.isFinite_ofBits, value?, Float.Format.isSome_toRat?_decode_iff]

/-- A single is unequal to zero for `Float32` exactly when a bit other than its
    sign is set: a zero of either sign is zero, a NaN is not. -/
theorem toFloat32_bne_zero_iff (x : Single) : (x.toFloat32 != 0) = true ↔ x.bits.toNat % 2 ^ 31 ≠ 0 :=
  Float32.ofBits_bne_zero_iff x.bits

end EdgePack.Single

namespace EdgePack.Float

/-- A natural below `2^23` read as a single is unequal to zero exactly when it
    is not zero. -/
theorem singleOfDecimal_bne_zero {n : ℕ} (hn : n < 2 ^ 23) :
    (singleOfDecimal false n 0 != 0) = (n != 0) := by
  rw [Bool.eq_iff_iff, singleOfDecimal, Float32.ofBits_bne_zero_iff, UInt32.toNat_ofNat', bne_iff_ne]
  rcases Nat.eq_zero_or_pos n with rfl | hn0
  · have h0 : Format.binary32.ofDecimal false 0 0 = 0 := by decide
    simp [h0]
  · obtain ⟨hlo, hhi⟩ := Format.ofDecimal_nat_bounds hn0 hn
    omega

/-- A negative integer above `-2^23` read as a single is unequal to zero. -/
theorem singleOfDecimal_true_bne_zero {n : ℕ} (hn0 : 0 < n) (hn : n < 2 ^ 23) :
    (singleOfDecimal true n 0 != 0) = true := by
  rw [singleOfDecimal, Float32.ofBits_bne_zero_iff, UInt32.toNat_ofNat', Format.ofDecimal_true]
  obtain ⟨hlo, hhi⟩ := Format.ofDecimal_nat_bounds hn0 hn
  -- the sign bit stands above the magnitude's bits
  omega

end EdgePack.Float

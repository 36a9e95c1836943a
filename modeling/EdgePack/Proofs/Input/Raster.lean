import Mathlib
import EdgePack.Proofs.Float.Value
import EdgePack.Proofs.Tensor.Activation
import EdgePack.Proofs.Tool.Singles
import EdgePack.Proofs.Input.Encode

/-!
# Encoding a raster

A raster from memory is encoded by four checks in a fixed order, and the
bytes that pass them always make a tensor:

* an element type without a cast rule (`f16`, `bf16`) is refused first;
* then a geometry other than the declared `[H, W, C]`, and then a number of
  values other than what that geometry holds;
* then, for the integer types, the first value that is not finite;
* otherwise the raster becomes the tensor of its values cast one by one
  (`CastsTo`): into `u8` rounded a half away from zero and clipped to
  `0 … 255`, into `i8` rounded and clipped to `-128 … 127` and written in two's
  complement, into `f32` as the single's four bytes, little-endian.

The tensor has the declared tensor shape, with or without the batch
dimension, and exactly the specification's bytes; the batch dimension changes
the shape only. `Raster.encode_spec` puts this together; `Raster.encode_cases`
is the one case analysis the rest is read from.
-/

open EdgePack.Float (roundHalfAway)

namespace EdgePack

/-! ## One intensity in an integer type -/

/-- An intensity with a value is rounded a half away from zero, clipped into
    `lo … hi`, and written as that integer modulo 256. -/
theorem castByte_toNat {x : Single} {q : ℚ} (hq : x.value? = some q) (lo hi : ℤ) :
    ((castByte lo hi x).toNat : ℤ) = max lo (min hi (roundHalfAway q)) % 256 := by
  have hround : (Float.Format.binary32.decode x.bits.toNat).roundAway = some (roundHalfAway q) := by
    rw [Float.Value.roundAway_eq, ← Single.value?, hq, Option.map_some]
  have h0 := Int.emod_nonneg (max lo (min hi (roundHalfAway q))) (by decide : (256 : ℤ) ≠ 0)
  have h1 := Int.emod_lt_of_pos (max lo (min hi (roundHalfAway q))) (by decide : (0 : ℤ) < 256)
  simp only [castByte, hround, Option.getD_some, Nat.toUInt8_eq, UInt8.toNat_ofNat']
  omega

/-- A byte read in two's complement. -/
theorem UInt8.toInt_toInt8 (b : UInt8) : b.toInt8.toInt = (b.toNat : ℤ).bmod 256 := by
  rw [← Int8.toInt_toBitVec, UInt8.toBitVec_toInt8, BitVec.toInt_eq_toNat_bmod]
  rfl

theorem castByte_u8 {x : Single} {q : ℚ} (hq : x.value? = some q) :
    ((castByte 0 255 x).toNat : ℤ) = max 0 (min 255 (roundHalfAway q)) := by
  rw [castByte_toNat hq]
  exact Int.emod_eq_of_lt (by omega) (by omega)

theorem castByte_i8 {x : Single} {q : ℚ} (hq : x.value? = some q) :
    (castByte (-128) 127 x).toInt8.toInt = max (-128) (min 127 (roundHalfAway q)) := by
  rw [UInt8.toInt_toInt8, castByte_toNat hq]
  exact (Int.emod_bmod _ 256).trans (Int.bmod_eq_of_le (by omega) (by omega))

/-! ## What an intensity becomes -/

/-- The bytes an intensity becomes in an element type: in `u8` the byte whose
    value is the intensity rounded a half away from zero and clipped to
    `0 … 255`; in `i8` the byte that, read in two's complement, is the
    intensity rounded and clipped to `-128 … 127`; in `f32` the single's four
    bytes, little-endian. An intensity without a value becomes no integer, and
    the half-precision types have no rule. -/
def CastsTo : DType → Single → List UInt8 → Prop
  | .u8, x, bs => ∃ q b, x.value? = some q ∧ bs = [b] ∧
      (b.toNat : ℤ) = max 0 (min 255 (roundHalfAway q))
  | .i8, x, bs => ∃ q b, x.value? = some q ∧ bs = [b] ∧
      b.toInt8.toInt = max (-128) (min 127 (roundHalfAway q))
  | .f32, x, bs => bs = Bytes.ofSingle x
  | .f16, _, _ | .bf16, _, _ => False

/-! ## Casting all the values -/

section Cast

variable {values : List Single} {dtype : DType} {origin : String}

/-- For an integer type, the first value that is not finite is refused, by
    its index. -/
theorem castValues_of_firstNonFinite {lo hi : ℤ} {i : Nat} {v : Float32}
    (hr : dtype.clipRange = some (lo, hi))
    (h : firstNonFinite (values.map Single.toFloat32) = some (i, v)) :
    castValues values dtype origin =
      .error (.sourceRead origin s!"non-finite value {Float.showSingle v} at element {i}") := by
  simp [castValues, hr, h]

/-- For an integer type, finite values are cast one byte each. -/
theorem castValues_of_finite {lo hi : ℤ} (hr : dtype.clipRange = some (lo, hi))
    (hfin : ∀ x ∈ values, x.toFloat32.isFinite = true) :
    castValues values dtype origin = .ok ⟨(values.map (castByte lo hi)).toArray⟩ := by
  have hnone : firstNonFinite (values.map Single.toFloat32) = none :=
    firstNonFinite_eq_none_iff.2 (by simpa using hfin)
  simp [castValues, hr, hnone]

/-- A value with a value, cast into an integer type, is one byte as `CastsTo`
    says. -/
theorem castsTo_castByte {lo hi : ℤ} (hr : dtype.clipRange = some (lo, hi)) {x : Single} {q : ℚ}
    (hq : x.value? = some q) : CastsTo dtype x [castByte lo hi x] := by
  cases dtype with
  | u8 =>
    cases hr
    exact ⟨q, _, hq, rfl, castByte_u8 hq⟩
  | i8 =>
    cases hr
    exact ⟨q, _, hq, rfl, castByte_i8 hq⟩
  | f32 | f16 | bf16 => cases hr

/-- Cast bytes are the values' bytes in their order, each as `CastsTo` says. -/
theorem castsTo_of_castValues {bytes : ByteArray} (h : castValues values dtype origin = .ok bytes) :
    ∃ parts, List.Forall₂ (CastsTo dtype) values parts ∧ bytes.data.toList = parts.flatten := by
  cases hr : dtype.clipRange with
  | some range =>
    obtain ⟨lo, hi⟩ := range
    -- a refused value gives no bytes, so every value is finite and has a value
    cases hf : firstNonFinite (values.map Single.toFloat32) with
    | some p => simp [castValues, hr, hf] at h
    | none =>
      simp only [castValues, hr, hf, Except.ok.injEq] at h
      subst h
      refine ⟨values.map fun x => [castByte lo hi x], ?_,
        by rw [← List.flatMap_def, ← List.map_eq_flatMap]⟩
      refine List.forall₂_map_right_iff.2 (List.forall₂_same.2 fun x hx => ?_)
      have hfin := firstNonFinite_eq_none_iff.1 hf _ (List.mem_map_of_mem hx)
      obtain ⟨q, hq⟩ := Option.isSome_iff_exists.1 ((Single.isFinite_toFloat32_iff x).1 hfin)
      exact castsTo_castByte hr hq
  | none =>
    -- without a range, only `f32` is cast
    by_cases hd : dtype = .f32
    · subst hd
      rw [castValues_f32] at h
      cases h
      refine ⟨values.map Bytes.ofSingle, ?_, by rw [Bytes.data_ofSingles, List.flatMap_def]⟩
      exact List.forall₂_map_right_iff.2 (List.forall₂_same.2 fun _ _ => rfl)
    · simp [castValues, hr, hd] at h

/-- Each value becomes as many bytes as its type is wide. -/
theorem size_of_castValues {bytes : ByteArray} (h : castValues values dtype origin = .ok bytes) :
    bytes.size = values.length * dtype.size := by
  obtain ⟨parts, hparts, hbytes⟩ := castsTo_of_castValues h
  have hlen : ∀ x bs, CastsTo dtype x bs → bs.length = dtype.size := by
    intro x bs hx
    cases dtype with
    | u8 | i8 =>
      obtain ⟨_, _, _, rfl, _⟩ := hx
      rfl
    | f32 => rw [hx, Bytes.length_ofSingle]; rfl
    | f16 | bf16 => exact hx.elim
  rw [ByteArray.size, ← Array.length_toList, hbytes, List.length_flatten]
  clear h hbytes
  induction hparts with
  | nil => simp
  | cons hx _ ih =>
    rw [List.map_cons, List.sum_cons, hlen _ _ hx, ih, List.length_cons, Nat.succ_mul, Nat.add_comm]

/-- The cast accepts any values into `f32`, and finite ones into the integer
    types. -/
theorem exists_castValues_ok (origin : String) (hd : dtype = .f32 ∨
      (dtype = .u8 ∨ dtype = .i8) ∧ ∀ x ∈ values, x.toFloat32.isFinite = true) :
    ∃ bytes, castValues values dtype origin = .ok bytes := by
  rcases hd with rfl | ⟨rfl | rfl, hfin⟩
  · exact ⟨_, castValues_f32 values origin⟩
  · exact ⟨_, castValues_of_finite rfl hfin⟩
  · exact ⟨_, castValues_of_finite rfl hfin⟩

/-- The cast never complains about a geometry or a tensor. -/
theorem castValues_cases :
    (∃ bytes, castValues values dtype origin = .ok bytes) ∨
    (∃ s, castValues values dtype origin = .error (.sourceRead origin s)) ∨
    dtype.hasCastRule = false ∧ castValues values dtype origin = .error (.unsupportedDtype dtype) := by
  cases dtype with
  | f32 => exact .inl ⟨_, castValues_f32 values origin⟩
  | f16 | bf16 => exact .inr (.inr ⟨rfl, rfl⟩)
  | u8 | i8 =>
    cases hf : firstNonFinite (values.map Single.toFloat32) with
    | some p => exact .inr (.inl ⟨_, castValues_of_firstNonFinite rfl hf⟩)
    | none => exact .inl ⟨_, castValues_of_finite rfl (by simpa using firstNonFinite_eq_none_iff.1 hf)⟩

end Cast

/-! ## Counts of the declared input -/

/-- The types without a cast rule are the half-precision ones. -/
theorem DType.hasCastRule_eq_false_iff (d : DType) :
    d.hasCastRule = false ↔ d = .f16 ∨ d = .bf16 := by
  cases d <;> simp [DType.hasCastRule]

namespace InputSpec

/-- The tensor shape is the image's, after a batch dimension of 1 if there is one. -/
theorem tensorShape_eq (t : InputSpec) :
    t.tensorShape = ⟨(if t.batchDim then [1] else []) ++ [t.height, t.width, t.channels]⟩ := by
  unfold tensorShape
  split <;> rfl

theorem numElements_withBatch (s : Shape) : s.withBatch.numElements = s.numElements := by
  rw [Shape.withBatch, Shape.numElements, List.foldl_cons, Nat.one_mul,
    Nat.mod_eq_of_lt (show 1 < wordModulus by decide)]
  rfl

/-- The batch dimension adds no element. -/
theorem numElements_tensorShape (t : InputSpec) :
    t.tensorShape.numElements = t.imageShape.numElements := by
  unfold tensorShape
  split
  · exact numElements_withBatch _
  · rfl

/-- The specification's bytes are its image's elements times their width, as
    long as that product fits in a word. -/
theorem sizeBytes_of_fit (t : InputSpec) {n : Nat} (hn : n = t.imageShape.numElements)
    (hfit : n * t.dtype.size < wordModulus) : t.sizeBytes = n * t.dtype.size := by
  rw [sizeBytes, Shape.sizeBytes, numElements_tensorShape, ← hn, Nat.mod_eq_of_lt hfit]

end InputSpec

/-! ## The checks of a raster -/

namespace Raster

section Checks

variable {r : Raster} {spec : InputSpec} {origin : String}

theorem encodeAs_of_shape_ne (h : r.shape ≠ spec.imageShape) :
    r.encodeAs spec origin = .error (.shapeMismatch origin spec.imageShape r.shape) := by
  simp [encodeAs, h]
  rfl

theorem encodeAs_of_length_ne (hs : r.shape = spec.imageShape)
    (hl : r.values.length ≠ spec.imageShape.numElements) :
    r.encodeAs spec origin =
      .error (.shapeMismatch origin spec.imageShape (.vector r.values.length)) := by
  simp [encodeAs, hs, hl]
  rfl

/-- Past the geometry, a failed cast is the encoding's failure. -/
theorem encodeAs_of_castValues_error {e : EncodeError} (hs : r.shape = spec.imageShape)
    (hl : r.values.length = spec.imageShape.numElements)
    (he : castValues r.values spec.dtype origin = .error e) : r.encodeAs spec origin = .error e := by
  simp [encodeAs, hs, hl, he]
  rfl

/-- Past the geometry, cast bytes that fit in a word always make a tensor: the
    count the geometry checked, the width of the cast and the tensor shape
    agree. -/
theorem encodeAs_of_castValues_ok {bytes : ByteArray} (hs : r.shape = spec.imageShape)
    (hl : r.values.length = spec.imageShape.numElements)
    (hfit : r.values.length * spec.dtype.size < wordModulus)
    (hb : castValues r.values spec.dtype origin = .ok bytes) :
    ∃ x, r.encodeAs spec origin = .ok x ∧ x.shape = spec.tensorShape ∧ x.dtype = spec.dtype ∧
      x.data = bytes := by
  have hsize : bytes.size = spec.tensorShape.sizeBytes spec.dtype := by
    rw [size_of_castValues hb]
    exact (spec.sizeBytes_of_fit hl hfit).symm
  refine ⟨⟨spec.tensorShape, spec.dtype, bytes, hsize⟩, ?_, rfl, rfl, rfl⟩
  simp only [encodeAs, hs, hl, ne_eq, not_true_eq_false, ↓reduceIte, hb, bind, Except.bind,
    RawTensor.ofBytes, dif_pos hsize]
  rfl

end Checks

section Encode

variable {r : Raster} {t : InputSpec}

theorem encode_of_hasCastRule (h : t.dtype.hasCastRule = true) :
    r.encode t = r.encodeAs t "<memory>" := by
  simp [encode, h]

theorem encode_of_hasCastRule_eq_false (h : t.dtype.hasCastRule = false) :
    r.encode t = .error (.unsupportedDtype t.dtype) := by
  simp [encode, h]

theorem shape_eq_iff : r.shape = t.imageShape ↔
    (r.height, r.width, r.channels) = (t.height, t.width, t.channels) := by
  simp [shape, InputSpec.imageShape, Shape.hwc]

/-- A raster from memory whose geometry passes becomes the tensor of its cast
    bytes, under the tensor shape. -/
theorem encode_of_castValues_ok {bytes : ByteArray} (hc : t.dtype.hasCastRule = true)
    (hs : r.shape = t.imageShape) (hl : r.values.length = t.imageShape.numElements)
    (hfit : r.values.length * t.dtype.size < wordModulus)
    (hb : castValues r.values t.dtype "<memory>" = .ok bytes) :
    ∃ x, r.encode t = .ok x ∧ x.shape = t.tensorShape ∧ x.dtype = t.dtype ∧ x.data = bytes := by
  rw [encode_of_hasCastRule hc]
  exact encodeAs_of_castValues_ok hs hl hfit hb

end Encode

/-- Every encoding of a raster from memory ends in one of five ways, in the
    order of its checks; the bytes never fail to make a tensor. -/
theorem encode_cases (r : Raster) (t : InputSpec)
    (hfit : r.values.length * t.dtype.size < wordModulus) :
    t.dtype.hasCastRule = false ∧ r.encode t = .error (.unsupportedDtype t.dtype) ∨
    t.dtype.hasCastRule = true ∧ r.shape ≠ t.imageShape ∧
      r.encode t = .error (.shapeMismatch "<memory>" t.imageShape r.shape) ∨
    t.dtype.hasCastRule = true ∧ r.shape = t.imageShape ∧
      r.values.length ≠ t.imageShape.numElements ∧
      r.encode t = .error (.shapeMismatch "<memory>" t.imageShape (.vector r.values.length)) ∨
    t.dtype.hasCastRule = true ∧ r.shape = t.imageShape ∧
      r.values.length = t.imageShape.numElements ∧
      (∃ s, r.encode t = .error (.sourceRead "<memory>" s)) ∨
    t.dtype.hasCastRule = true ∧ r.shape = t.imageShape ∧
      r.values.length = t.imageShape.numElements ∧ ∃ x, r.encode t = .ok x := by
  cases hc : t.dtype.hasCastRule with
  | false => exact .inl ⟨rfl, by simp [encode, hc]⟩
  | true =>
    rw [encode_of_hasCastRule hc]
    by_cases hs : r.shape = t.imageShape
    · by_cases hl : r.values.length = t.imageShape.numElements
      · rcases @castValues_cases r.values t.dtype "<memory>" with
          ⟨bytes, hb⟩ | ⟨s, he⟩ | ⟨hno, -⟩
        · obtain ⟨x, hx, -⟩ := encodeAs_of_castValues_ok hs hl hfit hb
          exact .inr (.inr (.inr (.inr ⟨rfl, hs, hl, x, hx⟩)))
        · exact .inr (.inr (.inr (.inl ⟨rfl, hs, hl, s, encodeAs_of_castValues_error hs hl he⟩)))
        · exact absurd hc (by simp [hno])
      · exact .inr (.inr (.inl ⟨rfl, hs, hl, encodeAs_of_length_ne hs hl⟩))
    · exact .inr (.inl ⟨rfl, hs, encodeAs_of_shape_ne hs⟩)

/-- How a raster from memory is encoded, for every raster and every
    specification whose bytes fit in a word. An element type without a cast
    rule is refused, and only it; a geometry or a number of values other than
    the declared one is refused, and only it, naming the declared shape and
    what was found; past these checks an integer type refuses the first value
    that is not finite, by its index; and otherwise the raster is the tensor of
    its values cast one by one, in the declared tensor shape and type, with
    exactly the specification's bytes, the same bytes with or without the
    batch dimension. The bytes never fail to make a tensor. -/
theorem encode_spec (r : Raster) (t : InputSpec)
    (hfit : r.values.length * t.dtype.size < wordModulus) :
    ((∃ d, r.encode t = .error (.unsupportedDtype d)) ↔ t.dtype = .f16 ∨ t.dtype = .bf16) ∧
    ((∃ o e a, r.encode t = .error (.shapeMismatch o e a)) ↔ t.dtype.hasCastRule = true ∧
      ((r.height, r.width, r.channels) ≠ (t.height, t.width, t.channels) ∨
        r.values.length ≠ (Shape.hwc t.height t.width t.channels).numElements)) ∧
    (t.dtype = .f16 ∨ t.dtype = .bf16 → r.encode t = .error (.unsupportedDtype t.dtype)) ∧
    (t.dtype.hasCastRule = true → (r.height, r.width, r.channels) ≠ (t.height, t.width, t.channels) →
      r.encode t = .error (.shapeMismatch "<memory>" t.imageShape r.shape)) ∧
    (t.dtype.hasCastRule = true → (r.height, r.width, r.channels) = (t.height, t.width, t.channels) →
      r.values.length ≠ (Shape.hwc t.height t.width t.channels).numElements →
      r.encode t = .error (.shapeMismatch "<memory>" t.imageShape (.vector r.values.length))) ∧
    ((r.height, r.width, r.channels) = (t.height, t.width, t.channels) →
      r.values.length = (Shape.hwc t.height t.width t.channels).numElements →
      (∀ i v, t.dtype = .u8 ∨ t.dtype = .i8 → FirstNonFinite (r.values.map Single.toFloat32) i v →
        r.encode t = .error
          (.sourceRead "<memory>" s!"non-finite value {Float.showSingle v} at element {i}")) ∧
      (t.dtype = .f32 ∨ (t.dtype = .u8 ∨ t.dtype = .i8) ∧ (∀ x ∈ r.values, x.toFloat32.isFinite = true) →
        ∃ x, r.encode t = .ok x ∧
          x.shape = ⟨(if t.batchDim then [1] else []) ++ [t.height, t.width, t.channels]⟩ ∧
          x.dtype = t.dtype ∧
          (∃ parts, List.Forall₂ (CastsTo t.dtype) r.values parts ∧ x.data.toList = parts.flatten) ∧
          x.size = t.sizeBytes ∧
          ∀ b, ∃ y, r.encode { t with batchDim := b } = .ok y ∧ y.data = x.data)) ∧
    ∀ e, r.encode t ≠ .error (.tensor e) := by
  have hcases := encode_cases r t hfit
  refine ⟨?_, ?_, fun hd => encode_of_hasCastRule_eq_false ((DType.hasCastRule_eq_false_iff _).2 hd),
    fun hc hs => encode_of_hasCastRule hc ▸ encodeAs_of_shape_ne (mt shape_eq_iff.1 hs),
    fun hc hs hl => encode_of_hasCastRule hc ▸ encodeAs_of_length_ne (shape_eq_iff.2 hs) hl,
    fun hs hl => ⟨fun i v hd hv => ?_, fun hd => ?_⟩, fun e he => ?_⟩
  · rcases hcases with ⟨hc, h⟩ | ⟨hc, -, h⟩ | ⟨hc, -, -, h⟩ | ⟨hc, -, -, s, h⟩ | ⟨hc, -, -, x, h⟩ <;>
      simp [h, ← DType.hasCastRule_eq_false_iff, hc]
  · rw [ne_eq, ← shape_eq_iff]
    change _ ↔ _ ∧ (¬r.shape = t.imageShape ∨ r.values.length ≠ t.imageShape.numElements)
    rcases hcases with ⟨hc, h⟩ | ⟨hc, hs, h⟩ | ⟨hc, hs, hl, h⟩ | ⟨-, hs, hl, s, h⟩ | ⟨-, hs, hl, x, h⟩
    · simp [h, hc]
    · simp [h, hc, hs]
    · simp [h, hc, hl]
    · simp [h, hs, hl]
    · simp [h, hs, hl]
  · -- the integer types have a range, and the first value that is not finite is refused
    have hr : ∃ lo hi, t.dtype.clipRange = some (lo, hi) := by
      rcases hd with hd | hd <;> simp [hd, DType.clipRange]
    obtain ⟨lo, hi, hr⟩ := hr
    have hc : t.dtype.hasCastRule = true := by rcases hd with hd | hd <;> simp [hd, DType.hasCastRule]
    rw [encode_of_hasCastRule hc]
    exact encodeAs_of_castValues_error (shape_eq_iff.2 hs) hl
      (castValues_of_firstNonFinite hr (firstNonFinite_eq_some_iff.2 hv))
  · -- every value has its bytes, and the bytes make the tensor
    have hc : t.dtype.hasCastRule = true := by
      rcases hd with hd | ⟨hd | hd, -⟩ <;> simp [hd, DType.hasCastRule]
    obtain ⟨bytes, hb⟩ := exists_castValues_ok "<memory>" hd
    obtain ⟨x, hx, hshape, hdtype, hdata⟩ := encode_of_castValues_ok hc (shape_eq_iff.2 hs) hl hfit hb
    obtain ⟨parts, hparts, hflat⟩ := castsTo_of_castValues hb
    refine ⟨x, hx, hshape.trans t.tensorShape_eq, hdtype,
      ⟨parts, hparts, by rw [ByteArray.toList_eq, hdata, hflat]⟩,
      size_of_encodeAs (encode_of_hasCastRule hc ▸ hx), fun b => ?_⟩
    -- the other specification differs in the batch dimension only, so it casts the same bytes
    obtain ⟨y, hy, -, -, hydata⟩ :=
      encode_of_castValues_ok (r := r) (t := { t with batchDim := b }) hc (shape_eq_iff.2 hs) hl hfit hb
    exact ⟨y, hy, hydata.trans hdata.symm⟩
  · rcases hcases with ⟨-, h⟩ | ⟨-, -, h⟩ | ⟨-, -, -, h⟩ | ⟨-, -, -, s, h⟩ | ⟨-, -, -, x, h⟩ <;>
      rw [h] at he <;> cases he

/-- A black one-by-two picture in three channels, encoded as bytes: its six
    bytes make a tensor. -/
theorem encode_black_pair :
    (List.replicate 6 (⟨0⟩ : Single)).length * DType.u8.size < wordModulus ∧
      ∀ e, (Raster.mk 1 2 3 (List.replicate 6 ⟨0⟩)).encode ⟨1, 2, 3, .u8, false⟩ ≠
        .error (.tensor e) :=
  ⟨by decide, (encode_spec _ ⟨1, 2, 3, .u8, false⟩ (by decide)).2.2.2.2.2.2⟩

end Raster

end EdgePack

import Mathlib
import EdgePack.Input.Stats
import EdgePack.Proofs.Tensor.Raw
import EdgePack.Proofs.Float.Value

/-!
# The text picture of a tensor

`asciiPreview t w c` cuts the elements of `t` into rows of `r` elements and
every row into pixels of `p = max c 1` elements, where the row length
`r = max w 1 · p` is a machine word: the product is taken modulo `2^64`. A
pixel is `o` when one of its elements is not zero, `.` otherwise, and every
row is a line.

* `chunks` cuts a list into `⌈n / k⌉` pieces, piece `i` holding the items
  from `i · k` on, `k` of them or what is left (`length_chunks`,
  `getElem_chunks`);
* `elementValues_bne_zero`: which elements count as not zero, read off the
  bytes: a byte, signed or not, when it is not zero; a single when a bit other
  than its sign is set, so a negative zero is zero and a NaN is not;
* `asciiPreview_spec`: the picture as lines and characters, said by element
  index; when the row length wraps to zero the program stops instead, and a
  tensor of half-precision elements has no picture.
-/

namespace EdgePack

section Chunks

variable {α : Type} {n : Nat}

theorem chunks_nil (n : Nat) : chunks n ([] : List α) = [] := by
  rw [chunks, dif_pos rfl]

theorem chunks_of_ne_nil {xs : List α} (h : xs ≠ []) :
    chunks n xs = xs.take (max n 1) :: chunks n (xs.drop (max n 1)) := by
  rw [chunks, dif_neg h]

/-- A list of `m` items is cut into `⌈m / n⌉` pieces. -/
theorem length_chunks (hn : 0 < n) (xs : List α) : (chunks n xs).length = (xs.length + n - 1) / n := by
  have hmax : max n 1 = n := by omega
  induction xs using chunks.induct n with
  | case1 =>
    simp only [chunks_nil, List.length_nil, Nat.zero_add]
    exact (Nat.div_eq_of_lt (by omega)).symm
  | case2 xs h _ ih =>
    have hlen : 0 < xs.length := List.length_pos_iff.2 h
    rw [chunks_of_ne_nil h, List.length_cons, ih, List.length_drop, hmax, ← Nat.add_div_right _ hn]
    rcases Nat.lt_or_ge xs.length n with hlt | hle
    · -- a list shorter than a piece is one piece
      rw [Nat.div_eq_of_lt_le (k := 1) (by omega) (by omega),
        Nat.div_eq_of_lt_le (k := 1) (by omega) (by omega)]
    · congr 1
      omega

/-- Piece `k` holds the `n` items from `k · n` on, or what is left of them. -/
theorem getElem_chunks (hn : 0 < n) (xs : List α) (k : Nat) (hk : k < (chunks n xs).length) :
    (chunks n xs)[k] = (xs.drop (k * n)).take n := by
  have hmax : max n 1 = n := by omega
  induction xs using chunks.induct n generalizing k with
  | case1 => simp [chunks_nil] at hk
  | case2 xs h _ ih =>
    rw [hmax] at ih
    simp only [chunks_of_ne_nil h, hmax] at hk ⊢
    cases k with
    | zero => simp
    | succ k =>
      rw [List.getElem_cons_succ, ih k (by simpa using hk), List.drop_drop, Nat.succ_mul, Nat.add_comm]

/-- An item of the `m` items from `a` on stands at an index in `[a, a + m)`. -/
theorem exists_mem_take_drop_iff (xs : List α) (a m : Nat) (P : α → Prop) :
    (∃ v ∈ (xs.drop a).take m, P v) ↔ ∃ i, ∃ hi : i < xs.length, a ≤ i ∧ i < a + m ∧ P xs[i] := by
  constructor
  · rintro ⟨v, hv, hP⟩
    obtain ⟨j, hj, rfl⟩ := List.getElem_of_mem hv
    rw [List.length_take, List.length_drop] at hj
    rw [List.getElem_take, List.getElem_drop] at hP
    exact ⟨a + j, by omega, by omega, by omega, hP⟩
  · rintro ⟨i, hi, hai, him, hP⟩
    have hj : i - a < ((xs.drop a).take m).length := by
      rw [List.length_take, List.length_drop]
      omega
    refine ⟨_, List.getElem_mem hj, ?_⟩
    simp only [List.getElem_take, List.getElem_drop, Nat.add_sub_cancel' hai]
    exact hP

/-- A piece of a piece: the `n` items from `b` on of the `m` items from `a` on. -/
theorem take_drop_take_drop (xs : List α) (a m b n : Nat) :
    (((xs.drop a).take m).drop b).take n = (xs.drop (a + b)).take (min n (m - b)) := by
  rw [List.drop_take, List.drop_drop, List.take_take]

end Chunks

/-- The elements of a tensor of bytes or singles: one for each byte, or for
    each four bytes. -/
theorem elementValues_ok (t : RawTensor) (h : t.dtype = .u8 ∨ t.dtype = .i8 ∨ t.dtype = .f32) :
    ∃ vs, elementValues t = .ok vs ∧ vs.length = t.size / t.dtype.size := by
  rcases h with h | h | h
  · exact ⟨_, by simp only [elementValues, h]; rfl, by simp [h, DType.size, RawTensor.size]⟩
  · exact ⟨_, by simp only [elementValues, h]; rfl, by simp [h, DType.size, RawTensor.size]⟩
  · have hs : t.singles = .ok (Bytes.singles t.data) := by simp [RawTensor.singles, h]
    refine ⟨_, by simp only [elementValues, h, hs, Except.map]; rfl, ?_⟩
    rw [List.length_map, RawTensor.length_singles hs, h, DType.size]

theorem byte_toNat_bne_zero (b : UInt8) : (b.toNat != 0) = (b != 0) := by
  rw [Bool.eq_iff_iff]
  simp [UInt8.ext_iff]

/-- A byte read as an unsigned integer, as a single, is unequal to zero exactly
    when the byte is. -/
theorem byte_single_bne_zero (b : UInt8) : (Float.singleOfDecimal false b.toNat 0 != 0) = (b != 0) := by
  have hb : b.toNat < 2 ^ 8 := b.toNat_lt
  rw [Float.singleOfDecimal_bne_zero (by omega), byte_toNat_bne_zero]

/-- Which elements are not zero, read off the bytes: an element of bytes,
    signed or not, when its byte is not zero; a single when a bit other than
    its sign is set, so a negative zero is zero and a NaN is not. -/
theorem elementValues_bne_zero {t : RawTensor} {vs : List Float32} (hvs : elementValues t = .ok vs) :
    vs.map (· != 0) =
      if t.dtype = .f32 then (Bytes.singles t.data).map fun x => x.bits.toNat % 2 ^ 31 != 0
      else t.data.toList.map (· != 0) := by
  unfold elementValues at hvs
  split at hvs
  · rename_i hd
    cases hvs
    rw [if_neg (by simp [hd]), List.map_map]
    exact List.map_congr_left fun b _ => byte_single_bne_zero b
  · rename_i hd
    cases hvs
    rw [if_neg (by simp [hd]), List.map_map]
    refine List.map_congr_left fun b _ => ?_
    simp only [Function.comp_apply]
    split
    · exact byte_single_bne_zero b
    · -- a byte from 128 on is a negative integer, never zero
      rename_i hneg
      have hb : b.toNat < 2 ^ 8 := b.toNat_lt
      rw [Float.singleOfDecimal_true_bne_zero (by omega) (by omega), ← byte_toNat_bne_zero]
      simp
      omega
  · rename_i hd
    have hs : t.singles = .ok (Bytes.singles t.data) := by simp [RawTensor.singles, hd]
    rw [hs] at hvs
    cases hvs
    rw [if_pos hd, List.map_map]
    refine List.map_congr_left fun x _ => ?_
    simp only [Function.comp_apply]
    rw [Bool.eq_iff_iff, Single.toFloat32_bne_zero_iff]
    simp
  · cases hvs

/-- A tensor of half-precision elements has no picture. -/
theorem asciiPreview_of_half (t : RawTensor) (w c : Nat) (h : t.dtype = .f16 ∨ t.dtype = .bf16) :
    asciiPreview t w c = .error (.tensor (.unsupportedDType "stats" t.dtype)) := by
  have he : elementValues t = .error (.unsupportedDType "stats" t.dtype) := by
    rcases h with h | h <;> simp only [elementValues, h]
  simp [asciiPreview, he, Except.mapError, bind, Except.bind]

/-- The picture of the elements `vs`: the program stops when the row length
    wraps to zero; otherwise the rows of `r` elements, each a line of its
    pixels of `p`. -/
theorem asciiPreview_eq {t : RawTensor} {vs : List Float32} (hvs : elementValues t = .ok vs) (w c : Nat) :
    asciiPreview t w c =
      if max w 1 * max c 1 % wordModulus = 0 then .error .divideByZero
      else .ok (String.join (((chunks (max w 1 * max c 1 % wordModulus) vs).map fun row =>
        (chunks (max c 1) row).map fun px => if px.any (fun v => v != 0) then 'o' else '.').map
          fun cs => String.ofList cs ++ "\n")) := by
  simp only [asciiPreview, hvs, Except.mapError]
  split_ifs
  · rfl
  · simp [bind, Except.bind, pure, Except.pure, List.map_map, Function.comp_def]

section Picture

variable {vs : List Float32} {r p : Nat}

/-- A pixel is `o` exactly when one of its elements is not zero, and `.` otherwise. -/
theorem pixel_eq_o_iff (px : List Float32) :
    (if px.any (fun v => v != 0) then 'o' else '.') = 'o' ↔ ∃ v ∈ px, (v != 0) = true := by
  rw [← List.any_eq_true]
  split <;> simp_all

/-- Row `k` of the picture, for rows of `r` elements and pixels of `p`: one
    pixel for each `p` of the `m` elements the row holds, and pixel `j` is `o`
    exactly when an element in `[k·r + j·p, k·r + (j+1)·p)`, within the row, is
    not zero. -/
theorem picture_row (hr : 0 < r) (hp : 0 < p) (k : Nat) (hk : k < (chunks r vs).length) :
    ((chunks p (chunks r vs)[k]).map fun px => if px.any (fun v => v != 0) then 'o' else '.').length =
        (min r (vs.length - k * r) + p - 1) / p ∧
      ∀ j (hj : j < ((chunks p (chunks r vs)[k]).map fun px =>
          if px.any (fun v => v != 0) then 'o' else '.').length),
        let pixel := ((chunks p (chunks r vs)[k]).map fun px =>
          if px.any (fun v => v != 0) then 'o' else '.')[j]
        (pixel = 'o' ∨ pixel = '.') ∧
        (pixel = 'o' ↔ ∃ i, ∃ hi : i < vs.length, k * r + j * p ≤ i ∧
          i < min (k * r + (j + 1) * p) (k * r + min r (vs.length - k * r)) ∧ (vs[i] != 0) = true) := by
  have hrow : (chunks r vs)[k] = (vs.drop (k * r)).take r := getElem_chunks hr vs k hk
  have hlen : ((vs.drop (k * r)).take r).length = min r (vs.length - k * r) := by
    rw [List.length_take, List.length_drop]
  refine ⟨by rw [List.length_map, hrow, length_chunks hp, hlen], fun j hj => ?_⟩
  rw [List.length_map] at hj
  have hpx : (chunks p (chunks r vs)[k])[j] = (((vs.drop (k * r)).take r).drop (j * p)).take p := by
    rw [getElem_chunks hp _ j hj, hrow]
  simp only [List.getElem_map, hpx]
  refine ⟨by split <;> simp, ?_⟩
  rw [pixel_eq_o_iff, take_drop_take_drop, exists_mem_take_drop_iff]
  -- the pixel's range, cut at the row's end, is the range the row gives it
  have hjp : (j + 1) * p = j * p + p := Nat.succ_mul j p
  constructor
  · rintro ⟨i, hi, hlo, hhi, hv⟩
    exact ⟨i, hi, hlo, by omega, hv⟩
  · rintro ⟨i, hi, hlo, hhi, hv⟩
    exact ⟨i, hi, hlo, by omega, hv⟩

/-- The picture of `H` rows of `W` pixels of `C` elements, in row-major order:
    `H` lines of `W` characters, the character of pixel `(k, j)` `o` exactly
    when one of its elements `(k·W + j)·C + ch`, `ch < C`, is not zero. -/
theorem picture_grid {H W C : Nat} (hW : 0 < W) (hC : 0 < C) (hn : vs.length = H * W * C) :
    ((chunks (W * C) vs).map fun row => (chunks C row).map fun px =>
        if px.any (fun v => v != 0) then 'o' else '.').length = H ∧
      ∀ k (hk : k < (chunks (W * C) vs).length),
        let row := (chunks C (chunks (W * C) vs)[k]).map fun px =>
          if px.any (fun v => v != 0) then 'o' else '.'
        row.length = W ∧ ∀ j (hj : j < row.length), (row[j] = 'o' ↔
          ∃ ch, ∃ hi : (k * W + j) * C + ch < vs.length, ch < C ∧
            (vs[(k * W + j) * C + ch] != 0) = true) := by
  have hR : 0 < W * C := Nat.mul_pos hW hC
  have hn' : vs.length = H * (W * C) := by rw [hn, Nat.mul_assoc]
  have hH : (vs.length + W * C - 1) / (W * C) = H := by
    have hsucc : (H + 1) * (W * C) = H * (W * C) + W * C := Nat.succ_mul H (W * C)
    have hlo : H * (W * C) ≤ vs.length + W * C - 1 := by omega
    have hhi : vs.length + W * C - 1 < (H + 1) * (W * C) := by omega
    exact Nat.div_eq_of_lt_le hlo hhi
  refine ⟨by rw [List.length_map, length_chunks hR, hH], fun k hk => ?_⟩
  obtain ⟨hlen, hpix⟩ := picture_row hR hC k hk
  -- every row is whole: the `k`-th starts at least a row before the end
  have hkH : (k + 1) * (W * C) ≤ H * (W * C) :=
    Nat.mul_le_mul_right _ (by rw [length_chunks hR, hH] at hk; omega)
  have hmin : min (W * C) (vs.length - k * (W * C)) = W * C := by
    have hsucc : (k + 1) * (W * C) = k * (W * C) + W * C := Nat.succ_mul k (W * C)
    omega
  have hwidth : (W * C + C - 1) / C = W := by
    have hsucc : (W + 1) * C = W * C + C := Nat.succ_mul W C
    have hlo : W * C ≤ W * C + C - 1 := by omega
    have hhi : W * C + C - 1 < (W + 1) * C := by omega
    exact Nat.div_eq_of_lt_le hlo hhi
  refine ⟨by rw [hlen, hmin, hwidth], fun j hj => ?_⟩
  rw [(hpix j hj).2]
  have hj' : j < W := by rw [hlen, hmin, hwidth] at hj; exact hj
  have hbase : k * (W * C) + j * C = (k * W + j) * C := by ring
  have hjC : (j + 1) * C ≤ W * C := Nat.mul_le_mul_right _ hj'
  have hjC' : (j + 1) * C = j * C + C := Nat.succ_mul j C
  constructor
  · rintro ⟨i, hi, hlo, hhi, hv⟩
    obtain ⟨ch, rfl⟩ : ∃ ch, i = (k * W + j) * C + ch := ⟨i - (k * W + j) * C, by omega⟩
    exact ⟨ch, hi, by omega, hv⟩
  · rintro ⟨ch, hi, hch, hv⟩
    exact ⟨_, hi, by omega, by omega, hv⟩

end Picture

/-- The text picture of a tensor. A tensor of half-precision elements has
    none. A tensor of bytes or singles has `n` elements, one for each byte or
    each four bytes; an element of bytes, signed or not, is zero when its byte
    is, and a single when no bit but its sign is set (a negative zero is zero,
    a NaN is not). With `p = max c 1` and the row length `r = max w 1 · p`
    taken modulo `2^64`, the program stops when `r` is zero. Otherwise the
    picture is `⌈n / r⌉` lines, each ending in a line break; line `k` has a
    character for each `p` of the `m = min r (n - k·r)` elements of its row,
    and character `j` is `o` when an element with index in
    `[k·r + j·p, min (k·r + (j+1)·p) (k·r + m))` is not zero, `.` otherwise.
    So when `n = H·w·c` for `w, c ≥ 1` whose product is below `2^64`, the
    picture is the grid of `H` lines of `w` pixels, in row-major order. -/
theorem asciiPreview_spec (t : RawTensor) (w c : Nat) :
    ((t.dtype = .f16 ∨ t.dtype = .bf16) →
      asciiPreview t w c = .error (.tensor (.unsupportedDType "stats" t.dtype))) ∧
    ((t.dtype = .u8 ∨ t.dtype = .i8 ∨ t.dtype = .f32) →
      ∃ vs : List Float32, elementValues t = .ok vs ∧ vs.length = t.size / t.dtype.size ∧
        vs.map (· != 0) =
          (if t.dtype = .f32 then (Bytes.singles t.data).map fun x => x.bits.toNat % 2 ^ 31 != 0
          else t.data.toList.map (· != 0)) ∧
        let p := max c 1
        let r := max w 1 * p % wordModulus
        (r = 0 → asciiPreview t w c = .error .divideByZero) ∧
        (0 < r → ∃ rows : List (List Char),
          asciiPreview t w c = .ok (String.join (rows.map fun cs => String.ofList cs ++ "\n")) ∧
          rows.length = (vs.length + r - 1) / r ∧
          (∀ k (hk : k < rows.length),
            rows[k].length = (min r (vs.length - k * r) + p - 1) / p ∧
            ∀ j (hj : j < rows[k].length),
              (rows[k][j] = 'o' ∨ rows[k][j] = '.') ∧
              (rows[k][j] = 'o' ↔ ∃ i, ∃ hi : i < vs.length, k * r + j * p ≤ i ∧
                i < min (k * r + (j + 1) * p) (k * r + min r (vs.length - k * r)) ∧
                (vs[i] != 0) = true)) ∧
          ∀ H, vs.length = H * w * c → 0 < w → 0 < c → w * c < wordModulus →
            rows.length = H ∧ ∀ k (hk : k < rows.length), rows[k].length = w ∧
              ∀ j (hj : j < rows[k].length), (rows[k][j] = 'o' ↔
                ∃ ch, ∃ hi : (k * w + j) * c + ch < vs.length, ch < c ∧
                  (vs[(k * w + j) * c + ch] != 0) = true))) := by
  refine ⟨asciiPreview_of_half t w c, fun hd => ?_⟩
  obtain ⟨vs, hvs, hn⟩ := elementValues_ok t hd
  refine ⟨vs, hvs, hn, elementValues_bne_zero hvs, fun h0 => by rw [asciiPreview_eq hvs, if_pos h0],
    fun hr => ?_⟩
  have hp : 0 < max c 1 := by omega
  refine ⟨_, by rw [asciiPreview_eq hvs, if_neg (by omega)], ?_, fun k hk => ?_, ?_⟩
  · rw [List.length_map, length_chunks hr]
  · rw [List.length_map] at hk
    simpa only [List.getElem_map] using picture_row hr hp k hk
  · -- rows of `w · c` elements and pixels of `c`: the row length does not wrap
    intro H hH hw hc hwc
    have hp : max c 1 = c := max_eq_left hc
    have hr : max w 1 * c % wordModulus = w * c := by
      rw [max_eq_left hw, Nat.mod_eq_of_lt hwc]
    simp only [hp, hr]
    obtain ⟨hrows, hgrid⟩ := picture_grid hw hc hH
    refine ⟨hrows, fun k hk => ?_⟩
    rw [List.length_map] at hk
    simpa only [List.getElem_map] using hgrid k hk

/-- Rows of `2^32` pixels of `2^32` elements are `2^64` elements long, a row
    length that wraps to zero: the program stops on a tensor of two bytes,
    where rows counted in natural numbers would give the one line `o`. -/
theorem asciiPreview_wraps_to_zero :
    ∃ t : RawTensor, t.dtype = .u8 ∧ t.data = ⟨#[0, 1]⟩ ∧
      asciiPreview t (2 ^ 32) (2 ^ 32) = .error .divideByZero := by
  let t : RawTensor := ⟨⟨[2]⟩, .u8, ⟨#[0, 1]⟩, by decide⟩
  have hvs : elementValues t = .ok (t.data.toList.map fun b => Float.singleOfDecimal false b.toNat 0) := rfl
  refine ⟨t, rfl, rfl, ?_⟩
  rw [asciiPreview_eq hvs, if_pos (by decide)]

end EdgePack

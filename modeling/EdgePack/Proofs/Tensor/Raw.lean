import Mathlib
import EdgePack.Tensor.Raw
import EdgePack.Proofs.Bytes

/-!
# Sizes of tensors, and singles in bytes

A shape counts its elements and its bytes in machine words: the product of its
dimensions, times the width of an element, taken modulo `2^64`
(`Shape.numElements_eq`, `Shape.sizeBytes_eq`). Every tensor holds exactly the
bytes its shape needs in its type, so

* `RawTensor.size_eq_prod`: a tensor has `∏ dims · width mod 2^64` bytes;
* `RawTensor.counts_exact_iff`: its byte count, and the number of singles it
  reads as, are the exact products precisely when these are below `2^64`;
* `RawTensor.ofBytes_wraps`: a shape of `2^32 × 2^32` bytes is accepted with no
  bytes at all.

Singles are written as their four bytes, little-endian, and read back bit for
bit, the payload of a NaN included (`Bytes.singles_ofSingles`); reading a byte
string of whole singles and writing the singles gives the bytes back
(`Bytes.ofSingles_singles`).
-/

namespace EdgePack

/-! ## Counts in machine words -/

namespace Shape

/-- A product taken step by step modulo the word size is the product modulo the
    word size. -/
theorem foldl_mul_mod (l : List Nat) {a : Nat} (ha : a < wordModulus) :
    l.foldl (fun acc d => acc * d % wordModulus) a = a * l.prod % wordModulus := by
  induction l generalizing a with
  | nil => simp [Nat.mod_eq_of_lt ha]
  | cons d l ih =>
    rw [List.foldl_cons, ih (Nat.mod_lt _ (by decide)), List.prod_cons, Nat.mod_mul_mod,
      Nat.mul_assoc]

theorem numElements_eq (s : Shape) : s.numElements = s.dims.prod % wordModulus := by
  rw [numElements, foldl_mul_mod _ (by decide), Nat.one_mul]

theorem sizeBytes_eq (s : Shape) (d : DType) :
    s.sizeBytes d = s.dims.prod * d.size % wordModulus := by
  rw [sizeBytes, numElements_eq, Nat.mod_mul_mod]

end Shape

/-- A count is its value modulo the word size exactly when it is below the word size. -/
theorem mod_wordModulus_eq_iff (n : Nat) : n % wordModulus = n ↔ n < wordModulus :=
  ⟨fun h => h ▸ Nat.mod_lt n (by decide), Nat.mod_eq_of_lt⟩

/-- A count of items `c` bytes wide, taken in bytes modulo the word size and
    divided back by `c`, is the count exactly when its bytes fit in a word. -/
theorem wrapped_div_eq_iff {x c : Nat} (hc : 0 < c) :
    x * c % wordModulus / c = x ↔ x * c < wordModulus := by
  constructor
  · intro h
    by_contra hlt
    -- past the word the remainder falls below the bytes, and so does its quotient
    have hr : x * c % wordModulus < x * c := by
      have := Nat.mod_lt (x * c) (show 0 < wordModulus by decide)
      omega
    have := (Nat.div_lt_iff_lt_mul hc).2 hr
    omega
  · intro h
    rw [Nat.mod_eq_of_lt h, Nat.mul_div_cancel _ hc]

namespace RawTensor

/-- What `ofBytes` builds: the bytes as given, under the shape and type given. -/
theorem ofBytes_eq_ok {s : Shape} {d : DType} {b : ByteArray} {t : RawTensor}
    (h : ofBytes s d b = .ok t) : t.shape = s ∧ t.dtype = d ∧ t.data = b := by
  unfold ofBytes at h
  split at h
  · cases h
    exact ⟨rfl, rfl, rfl⟩
  · cases h

/-- `ofBytes` accepts exactly the byte strings of the size the shape needs. -/
theorem ofBytes_isOk_iff {s : Shape} {d : DType} {b : ByteArray} :
    (∃ t, ofBytes s d b = .ok t) ↔ b.size = s.sizeBytes d := by
  unfold ofBytes
  constructor
  · rintro ⟨t, ht⟩
    split at ht
    · assumption
    · cases ht
  · intro hb
    exact ⟨_, dif_pos hb⟩

theorem size_eq_prod (t : RawTensor) :
    t.size = t.shape.dims.prod * t.dtype.size % wordModulus := by
  rw [size, t.size_eq, Shape.sizeBytes_eq]

/-- A tensor reads as one single for every four of its bytes. -/
theorem length_singles {t : RawTensor} {vs : List Single} (h : t.singles = .ok vs) :
    vs.length = t.size / 4 := by
  unfold singles at h
  split at h
  · cases h
    simp [Bytes.singles, size]
  · cases h

/-- A tensor only reads as singles when it holds singles. -/
theorem dtype_of_singles {t : RawTensor} {vs : List Single} (h : t.singles = .ok vs) :
    t.dtype = .f32 := by
  unfold singles at h
  split at h
  · simpa using ‹(t.dtype == .f32) = true›
  · cases h

/-- The counts of a tensor are machine words: its bytes are the product of its
    dimensions times the width of its type, modulo `2^64`, and this is the exact
    product precisely when the product is below `2^64`. A tensor of singles
    reads as exactly as many singles as its dimensions multiply to precisely
    when their bytes are fewer than `2^64`. -/
theorem counts_exact_iff (t : RawTensor) :
    t.size = t.shape.dims.prod * t.dtype.size % wordModulus ∧
    (t.size = t.shape.dims.prod * t.dtype.size ↔ t.shape.dims.prod * t.dtype.size < wordModulus) ∧
    ∀ vs, t.singles = .ok vs → (vs.length = t.shape.dims.prod ↔ t.shape.dims.prod * 4 < wordModulus) := by
  refine ⟨size_eq_prod t, by rw [size_eq_prod, mod_wordModulus_eq_iff], fun vs hvs => ?_⟩
  rw [length_singles hvs, size_eq_prod, dtype_of_singles hvs]
  exact wrapped_div_eq_iff (by decide)

/-- A shape of `2^32 × 2^32` bytes asks for `2^64` bytes, a count that wraps to
    zero: the empty byte string is accepted for it, and the tensor has no bytes. -/
theorem ofBytes_wraps : ∃ t, ofBytes ⟨[2 ^ 32, 2 ^ 32]⟩ .u8 .empty = .ok t ∧
    t.size = 0 ∧ t.shape.dims.prod * t.dtype.size = 2 ^ 64 := by
  obtain ⟨t, ht⟩ := (ofBytes_isOk_iff (s := ⟨[2 ^ 32, 2 ^ 32]⟩) (d := .u8) (b := .empty)).2
    (by decide)
  obtain ⟨hs, hd, hb⟩ := ofBytes_eq_ok ht
  refine ⟨t, ht, ?_, ?_⟩
  · rw [size, hb]
    rfl
  · rw [hs, hd]
    decide

end RawTensor

/-! ## Singles in bytes -/

section Blocks

variable {α β : Type} {n : Nat}

/-- Block `i` of a concatenation of blocks of `n` items each starts `i · n` items in. -/
theorem take_drop_flatMap {f : α → List β} (hf : ∀ x, (f x).length = n) :
    ∀ (xs : List α) (i : Nat) (hi : i < xs.length), ((xs.flatMap f).drop (i * n)).take n = f xs[i]
  | [], _, hi => absurd hi (Nat.not_lt_zero _)
  | x :: xs, 0, _ => by simp [hf x]
  | x :: xs, i + 1, hi => by
    rw [List.flatMap_cons, Nat.succ_mul, Nat.add_comm (i * n) n, ← List.drop_drop,
      List.drop_left' (hf x), take_drop_flatMap hf xs i (by simpa using hi)]
    rfl

/-- A list of `k` blocks of `n` items is the concatenation of its blocks. -/
theorem flatMap_blocks : ∀ (k : Nat) (l : List α), l.length = k * n →
    (List.range k).flatMap (fun i => (l.drop (i * n)).take n) = l
  | 0, l, hl => by simp_all
  | k + 1, l, hl => by
    -- the first block, then the blocks of the rest, each `n` items further in
    rw [List.range_succ_eq_map, List.flatMap_cons, List.flatMap_map, Nat.zero_mul, List.drop_zero]
    have hrest : (List.range k).flatMap (fun i => (l.drop ((i + 1) * n)).take n) = l.drop n := by
      rw [← flatMap_blocks k (l.drop n) (by rw [List.length_drop, hl, Nat.succ_mul]; omega)]
      apply List.flatMap_congr
      intro i _
      rw [List.drop_drop, Nat.succ_mul, Nat.add_comm]
    rw [hrest, List.take_append_drop]

end Blocks

namespace Bytes

theorem leValue_lt : ∀ bs : List UInt8, leValue bs < 256 ^ bs.length
  | [] => by simp [leValue]
  | b :: bs => by
    have := leValue_lt bs
    have hb := b.toNat_lt
    rw [leValue, List.foldr_cons, ← leValue, List.length_cons, Nat.pow_succ]
    omega

/-- Bytes read as a little-endian number and written back are the same bytes. -/
theorem leBytes_leValue : ∀ bs : List UInt8, leBytes bs.length (leValue bs) = bs
  | [] => rfl
  | b :: bs => by
    have hb := b.toNat_lt
    rw [List.length_cons, leBytes_succ, leValue, List.foldr_cons, ← leValue]
    congr 1
    · rw [Nat.add_mod, Nat.mul_mod_left, Nat.zero_add, Nat.mod_mod, Nat.mod_eq_of_lt hb]
      exact UInt8.toNat.inj (by simp)
    · rw [Nat.add_comm, Nat.add_mul_div_right _ _ (by decide), Nat.div_eq_of_lt hb, Nat.zero_add,
        leBytes_leValue bs]

@[simp] theorem length_ofSingle (x : Single) : (ofSingle x).length = 4 := length_leBytes 4 _

/-- A single's four bytes read back as the single, bit for bit. -/
theorem ofSingle_bits (x : Single) : (leValue (ofSingle x)).toUInt32 = x.bits := by
  rw [ofSingle, leValue_leBytes_of_lt (by simpa using x.bits.toNat_lt)]
  simp

theorem data_ofSingles (xs : List Single) : (ofSingles xs).data.toList = xs.flatMap ofSingle := by
  simp [ofSingles]

@[simp] theorem size_ofSingles (xs : List Single) : (ofSingles xs).size = xs.length * 4 := by
  rw [← ByteArray.size_data, ← Array.length_toList, data_ofSingles, List.length_flatMap]
  simp [List.sum_replicate]

/-- The bytes of single `i` of a byte string: four, from `4 · i` on. -/
theorem extract_single (d : ByteArray) (i : Nat) :
    (d.extract (4 * i) (4 * i + 4)).toList = (d.data.toList.drop (i * 4)).take 4 := by
  simp [List.extract_eq_take_drop, Nat.mul_comm]

/-- Singles written to bytes read back as themselves, bit for bit: a NaN keeps
    its payload. -/
theorem singles_ofSingles (xs : List Single) : singles (ofSingles xs) = xs := by
  apply List.ext_getElem
  · simp [singles]
  · intro i h₁ h₂
    simp only [singles, List.getElem_map, List.getElem_range]
    rw [extract_single, data_ofSingles, take_drop_flatMap length_ofSingle xs i h₂, ofSingle_bits]

/-- A byte string of whole singles, read as singles and written back, is the
    same byte string. -/
theorem ofSingles_singles (d : ByteArray) (h : d.size % 4 = 0) : ofSingles (singles d) = d := by
  apply ByteArray.ext
  apply Array.toList_inj.1
  rw [data_ofSingles, singles, List.flatMap_map]
  -- each single writes back the four bytes it was read from
  have hblock : ∀ i ∈ List.range (d.size / 4),
      ofSingle ⟨(leValue (d.extract (4 * i) (4 * i + 4)).toList).toUInt32⟩ =
        (d.data.toList.drop (i * 4)).take 4 := by
    intro i hi
    have hlen : ((d.data.toList.drop (i * 4)).take 4).length = 4 := by
      simp only [List.length_take, List.length_drop, Array.length_toList, ByteArray.size_data]
      have := List.mem_range.1 hi
      omega
    rw [ofSingle, extract_single]
    have hlt := leValue_lt ((d.data.toList.drop (i * 4)).take 4)
    have hback := leBytes_leValue ((d.data.toList.drop (i * 4)).take 4)
    rw [hlen] at hlt hback
    rw [UInt32.toNat_ofNat', Nat.mod_eq_of_lt (by simpa using hlt), hback]
  rw [List.flatMap_congr hblock, flatMap_blocks]
  simp only [Array.length_toList, ByteArray.size_data]
  omega

end Bytes

end EdgePack

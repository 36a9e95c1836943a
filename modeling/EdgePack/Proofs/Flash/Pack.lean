import Mathlib
import EdgePack.Flash.Image
import EdgePack.Proofs.Bytes
import EdgePack.Proofs.Flash.Layout

/-!
# Packing is exact

`pack` lays the tensors of a slot map into the sectors of a layout. Whatever
the map, an unusable layout is refused first; then the least slot of the
layout whose tensor is longer than a sector is reported; otherwise the image
holds every sector in place (`PackedImage`): a slot's tensor at the start of
its sector and zeros after it, or zeros only, at offsets that a missing slot
does not shift. Tensors given for slots past the layout's last change nothing.

The slot map keeps its slots strictly ascending, and the proofs rest on it:

* `SlotSources.find?_eq_some_iff`: the tensor of a slot is the one its entry
  holds;
* `firstOverflow_eq_of_least`: the first overflowing entry is the least
  overflowing slot;
* `populated_eq`: the populated slots are read off `0 … slotCount - 1`;
* `take_drop_flatMap_range`: a sector is read back from the concatenation of
  equal-sized sectors;
* `binarySearch_isOk`: on a strictly ascending list the binary search finds
  exactly what the list holds, so the missing slots, which the search of the
  populated ones does not find, are those they do not hold.
-/

namespace EdgePack

/-! ## Concatenated blocks -/

section Blocks

variable {α : Type} {f : Nat → List α} {n : Nat}

/-- Blocks of `n` elements each concatenate to `c · n` elements. -/
theorem length_flatMap_range : ∀ {c : Nat}, (∀ i < c, (f i).length = n) →
    ((List.range c).flatMap f).length = c * n
  | 0, _ => by simp
  | c + 1, hf => by
    rw [List.range_succ, List.flatMap_append, List.length_append,
      length_flatMap_range fun i hi => hf i (by omega)]
    simp [hf c (by omega), Nat.succ_mul]

/-- Block `s` of a concatenation of blocks of `n` elements each starts `s · n`
    elements in. -/
theorem take_drop_flatMap_range : ∀ {c s : Nat}, (∀ i < c, (f i).length = n) → s < c →
    (((List.range c).flatMap f).drop (s * n)).take n = f s
  | 0, _, _, hs => absurd hs (Nat.not_lt_zero _)
  | c + 1, s, hf, hs => by
    have hlen := length_flatMap_range (c := c) fun i hi => hf i (by omega)
    rw [List.range_succ, List.flatMap_append, List.flatMap_singleton]
    rcases Nat.lt_succ_iff_lt_or_eq.1 hs with hs | rfl
    · -- an earlier block lies whole in the concatenation of the first `c`
      have hfit : s * n + n ≤ c * n := by
        rw [← Nat.succ_mul]; exact Nat.mul_le_mul_right n hs
      rw [List.drop_append_of_le_length (by omega),
        List.take_append_of_le_length (by rw [List.length_drop, hlen]; omega),
        take_drop_flatMap_range (fun i hi => hf i (by omega)) hs]
    · rw [List.drop_append_of_le_length (by omega), List.drop_eq_nil_of_le (by omega),
        List.nil_append, List.take_of_length_le (by rw [hf s (by omega)])]

end Blocks

/-! ## Slot maps -/

namespace SlotSources

/-- In a list ascending by slot, the tensor looked up for a slot is the one its
    entry holds. -/
theorem lookup_eq_some_iff {l : List (Nat × RawTensor)} (h : l.Pairwise fun a b => a.1 < b.1)
    {s : Nat} {t : RawTensor} : l.lookup s = some t ↔ (s, t) ∈ l := by
  induction l with
  | nil => simp
  | cons p rest ih =>
    obtain ⟨k, u⟩ := p
    rw [List.pairwise_cons] at h
    by_cases hk : s = k
    · -- the first entry is the slot's; no later entry can be, the slots ascending
      subst hk
      simp only [List.lookup_cons_self, Option.some.injEq, List.mem_cons, Prod.mk.injEq, true_and]
      constructor
      · exact fun h' => .inl h'.symm
      · rintro (h' | h')
        · exact h'.symm
        · exact absurd (h.1 _ h') (Nat.lt_irrefl s)
    · have hkb : (s == k) = false := by simpa using hk
      simp [List.lookup_cons, hkb, hk, ih h.2]

variable {m : SlotSources} {s : Nat} {t : RawTensor}

theorem find?_eq_some_iff : m.find? s = some t ↔ (s, t) ∈ m.entries :=
  lookup_eq_some_iff m.ascending

theorem find?_isSome_iff : (m.find? s).isSome ↔ s ∈ m.entries.map Prod.fst := by
  rw [Option.isSome_iff_exists]
  simp [find?_eq_some_iff]

end SlotSources

open SlotSources

/-! ## The first overflow -/

section Overflow

variable {l : SectorLayout} {m m' : SlotSources}

/-- No slot of the layout overflows exactly when `firstOverflow` finds none. -/
theorem firstOverflow_eq_none_iff : firstOverflow l m = none ↔
    ∀ s < l.slotCount, ∀ t, m.find? s = some t → t.size ≤ l.sectorSize := by
  simp only [firstOverflow, Option.map_eq_none_iff, List.find?_eq_none, find?_eq_some_iff]
  constructor
  · intro h s hs t hst
    simpa [hs] using h (s, t) hst
  · rintro h ⟨s, t⟩ hst
    simpa using fun hs => h s hs t hst

/-- What `firstOverflow` finds is a slot of the layout that overflows, and no
    slot below it overflows. -/
theorem least_of_firstOverflow_eq_some {s n : Nat} (h : firstOverflow l m = some (s, n)) :
    s < l.slotCount ∧ (∃ t, m.find? s = some t ∧ n = t.size ∧ l.sectorSize < t.size) ∧
      ∀ s' < s, ∀ t', m.find? s' = some t' → t'.size ≤ l.sectorSize := by
  obtain ⟨⟨s₀, t⟩, he, hst⟩ := Option.map_eq_some_iff.1 h
  simp only [Prod.mk.injEq] at hst
  obtain ⟨rfl, rfl⟩ := hst
  obtain ⟨hp, before, after, hsplit, hbefore⟩ := List.find?_eq_some_iff_append.1 he
  simp only [Bool.and_eq_true, decide_eq_true_eq] at hp
  have hasc := m.ascending
  rw [hsplit, List.pairwise_append, List.pairwise_cons] at hasc
  refine ⟨hp.1, ⟨t, find?_eq_some_iff.2 (by simp [hsplit]), rfl, hp.2⟩, ?_⟩
  intro s' hs' t' ht'
  rw [find?_eq_some_iff, hsplit, List.mem_append, List.mem_cons] at ht'
  rcases ht' with ht' | ht' | ht'
  · -- an entry before the one found does not overflow, and lies in the layout
    simpa [Nat.lt_trans hs' hp.1] using hbefore _ ht'
  · cases ht'
    exact absurd hs' (Nat.lt_irrefl _)
  · -- an entry after the one found has a greater slot
    exact absurd (hasc.2.1.1 _ ht') (Nat.lt_asymm hs')

/-- The least slot of the layout that overflows is what `firstOverflow` finds. -/
theorem firstOverflow_eq_of_least {s : Nat} {t : RawTensor} (hs : s < l.slotCount)
    (ht : m.find? s = some t) (hover : l.sectorSize < t.size)
    (hleast : ∀ s' < s, ∀ t', m.find? s' = some t' → t'.size ≤ l.sectorSize) :
    firstOverflow l m = some (s, t.size) := by
  cases hfo : firstOverflow l m with
  | none => exact absurd (firstOverflow_eq_none_iff.1 hfo s hs t ht) (Nat.not_le.2 hover)
  | some p =>
    obtain ⟨s', n'⟩ := p
    obtain ⟨-, ⟨t', ht', rfl, hover'⟩, hleast'⟩ := least_of_firstOverflow_eq_some hfo
    -- each of the two slots is the least that overflows, so they are one
    have hss : s' = s := by
      rcases Nat.lt_trichotomy s' s with h | h | h
      · exact absurd (hleast s' h t' ht') (Nat.not_le.2 hover')
      · exact h
      · exact absurd (hleast' s h t ht) (Nat.not_le.2 hover)
    subst hss
    rw [ht, Option.some.injEq] at ht'
    rw [ht']

/-- `firstOverflow` only looks at the slots of the layout. -/
theorem firstOverflow_congr (h : ∀ s < l.slotCount, m'.find? s = m.find? s) :
    firstOverflow l m' = firstOverflow l m := by
  cases hfo : firstOverflow l m with
  | none =>
    rw [firstOverflow_eq_none_iff] at hfo ⊢
    intro s hs t ht
    exact hfo s hs t (h s hs ▸ ht)
  | some p =>
    obtain ⟨s, n⟩ := p
    obtain ⟨hs, ⟨t, ht, rfl, hover⟩, hleast⟩ := least_of_firstOverflow_eq_some hfo
    exact firstOverflow_eq_of_least hs ((h s hs).trans ht) hover
      fun s' hs' t' ht' => hleast s' hs' t' ((h s' (Nat.lt_trans hs' hs)).symm.trans ht')

end Overflow

/-! ## The image -/

/-! ## The binary search of the populated slots -/

section Search
variable {xs : List Nat} {x : Nat}

/-- An index the search answers holds `x`: it never answers a wrong one,
    sorted or not. -/
theorem binarySearch_go_ok {left right i : Nat} (hr : right ≤ xs.length)
    (h : binarySearch.go xs x left right = .ok i) : ∃ hi : i < xs.length, xs[i] = x := by
  fun_induction binarySearch.go xs x left right with
  | case1 left right hlt mid y hy ih => exact ih hr h
  | case2 left right hlt mid y hy hx ih => exact ih (by omega) h
  | case3 left right hlt mid y hy hx =>
    rw [← Except.ok.inj h]
    have hmid : mid < xs.length := by omega
    refine ⟨hmid, ?_⟩
    have : y = xs[mid] := List.getD_eq_getElem xs 0 hmid
    omega
  | case4 => cases h

/-- On a strictly ascending list, the search within a window that holds an
    index of `x` finds `x`. -/
theorem binarySearch_go_isOk (hs : xs.Pairwise (· < ·)) {left right k : Nat}
    (hr : right ≤ xs.length) (hlo : left ≤ k) (hk : k < right) (hkx : xs[k] = x) :
    (binarySearch.go xs x left right).isOk = true := by
  fun_induction binarySearch.go xs x left right with
  | case1 left right hlt mid y hy ih =>
    -- the middle element is below `x`, and so is everything before it
    have hmid : mid < xs.length := by omega
    have hy' : y = xs[mid] := List.getD_eq_getElem xs 0 hmid
    refine ih hr (Nat.lt_of_not_le fun hkm => ?_) hk hkx
    rcases Nat.lt_or_eq_of_le hkm with hkm | rfl
    · have := List.pairwise_iff_getElem.1 hs k mid (by omega) hmid hkm
      omega
    · omega
  | case2 left right hlt mid y hy hx ih =>
    -- the middle element is above `x`, and so is everything after it
    have hmid : mid < xs.length := by omega
    have hy' : y = xs[mid] := List.getD_eq_getElem xs 0 hmid
    refine ih (by omega) hlo (Nat.lt_of_not_le fun hkm => ?_) hkx
    rcases Nat.lt_or_eq_of_le hkm with hkm | rfl
    · have := List.pairwise_iff_getElem.1 hs mid k hmid (by omega) hkm
      omega
    · omega
  | case3 => rfl
  | case4 left right hlt => omega

/-- On a strictly ascending list, the binary search finds `x` exactly when the
    list holds it. -/
theorem binarySearch_isOk (hs : xs.Pairwise (· < ·)) (x : Nat) :
    (binarySearch xs x).isOk = xs.contains x := by
  apply Bool.eq_iff_iff.2
  rw [List.contains_iff_mem, List.mem_iff_getElem]
  constructor
  · intro h
    cases hr : binarySearch xs x with
    | error i => rw [hr] at h; cases h
    | ok i =>
      obtain ⟨hi, hx⟩ := binarySearch_go_ok le_rfl hr
      exact ⟨i, hi, hx⟩
  · rintro ⟨k, hk, hkx⟩
    exact binarySearch_go_isOk hs le_rfl (Nat.zero_le k) hk hkx

/-- With the populated slots ascending, as packing gives them, the slots the
    binary search does not find are those the list does not hold. -/
theorem FlashImage.missing_eq_filter_contains {img : FlashImage}
    (h : img.populated.Pairwise (· < ·)) :
    img.missing = (List.range img.layout.slotCount).filter fun s => !img.populated.contains s := by
  unfold FlashImage.missing
  simp only [binarySearch_isOk h]

end Search

section Image

variable {l : SectorLayout} {m m' : SlotSources}

/-- The populated slots are the slots of the layout that have a tensor, read
    off `0 … slotCount - 1`: the slot map ascends. -/
theorem populated_eq :
    (m.entries.map Prod.fst).filter (· < l.slotCount) =
      (List.range l.slotCount).filter fun s => (m.find? s).isSome := by
  apply List.Pairwise.eq_of_mem_iff (r := (· < ·))
  · exact (List.pairwise_map.2 m.ascending).filter _
  · exact List.pairwise_lt_range.filter _
  · intro s
    simp [find?_isSome_iff, and_comm]

/-- A sector holds `sectorSize` bytes when its tensor fits. -/
theorem length_sectorBytes {s : Nat} (h : ∀ t, m.find? s = some t → t.size ≤ l.sectorSize) :
    (sectorBytes l m s).length = l.sectorSize := by
  unfold sectorBytes
  split
  · rename_i t ht
    have := h t ht
    simp only [RawTensor.size] at this ⊢
    simp
    omega
  · simp

/-- With a usable layout and no overflow, `pack` lays out every sector of the
    layout in turn and lists the populated slots. -/
theorem pack_eq_ok (hl : l.Usable) (hno : firstOverflow l m = none) :
    pack m l = .ok
      { layout := l
        data := ⟨((List.range l.slotCount).flatMap (sectorBytes l m)).toArray⟩
        populated := (List.range l.slotCount).filter fun s => (m.find? s).isSome } := by
  simp [pack, SectorLayout.validate_eq_ok_iff.2 hl, hno, populated_eq]

/-- With a usable layout, `pack` reports what `firstOverflow` finds. -/
theorem pack_eq_overflow (hl : l.Usable) {s n : Nat} (h : firstOverflow l m = some (s, n)) :
    pack m l = .error (.sectorOverflow s n l.sectorSize) := by
  rw [pack, SectorLayout.validate_eq_ok_iff.2 hl, h]
  rfl

/-- An unusable layout is refused, whatever the tensors. -/
theorem pack_eq_invalid (hl : ¬ l.Usable) : ∃ r, pack m l = .error (.invalidLayout r) := by
  obtain ⟨r, -, hv⟩ := SectorLayout.validate_eq_error_of_not_usable hl
  exact ⟨r, by rw [pack, hv]; rfl⟩

/-- Packing succeeds only with a usable layout and no overflow. -/
theorem usable_of_pack_eq_ok {img : FlashImage} (h : pack m l = .ok img) :
    l.Usable ∧ firstOverflow l m = none := by
  by_cases hl : l.Usable
  · refine ⟨hl, ?_⟩
    cases hfo : firstOverflow l m with
    | none => rfl
    | some p =>
      rw [pack_eq_overflow hl hfo] at h
      cases h
  · obtain ⟨r, hr⟩ := pack_eq_invalid (m := m) hl
    rw [hr] at h
    cases h

/-- What a packed image of the tensors `m` in the layout `l` holds:
    `slotCount` sectors of `sectorSize` bytes; in the sector of each slot of
    the layout, the slot's tensor followed by zeros, or zeros only when the
    slot has none; and the slots of the layout split into the populated ones,
    those with a tensor, and the missing ones, each list ascending. -/
structure PackedImage (l : SectorLayout) (m : SlotSources) (img : FlashImage) : Prop where
  layout_eq : img.layout = l
  len_eq : img.len = l.slotCount * l.sectorSize
  sector_of_find : ∀ s < l.slotCount, ∀ t, m.find? s = some t →
    img.sector s = some (t.data ++ ⟨Array.replicate (l.sectorSize - t.size) 0⟩)
  sector_of_find_none : ∀ s < l.slotCount, m.find? s = none →
    img.sector s = some ⟨Array.replicate l.sectorSize 0⟩
  populated_ascending : img.populated.Pairwise (· < ·)
  mem_populated : ∀ s, s ∈ img.populated ↔ s < l.slotCount ∧ (m.find? s).isSome
  missing_ascending : img.missing.Pairwise (· < ·)
  mem_missing : ∀ s, s ∈ img.missing ↔ s < l.slotCount ∧ m.find? s = none
  partition : (img.populated ++ img.missing).Perm (List.range l.slotCount)

/-- Every image that `pack` returns holds what a packed image holds. -/
theorem packedImage_of_pack_eq_ok {img : FlashImage} (h : pack m l = .ok img) :
    PackedImage l m img := by
  obtain ⟨hl, hno⟩ := usable_of_pack_eq_ok h
  rw [pack_eq_ok hl hno, Except.ok.injEq] at h
  subst h
  have hlen : ∀ i < l.slotCount, (sectorBytes l m i).length = l.sectorSize :=
    fun i hi => length_sectorBytes (firstOverflow_eq_none_iff.1 hno i hi)
  -- each sector is read back whole, at an offset no other slot shifts
  have hsector : ∀ s < l.slotCount, FlashImage.sector
      ⟨l, ⟨((List.range l.slotCount).flatMap (sectorBytes l m)).toArray⟩,
        (List.range l.slotCount).filter fun s => (m.find? s).isSome⟩ s =
      some ⟨(sectorBytes l m s).toArray⟩ := by
    intro s hs
    rw [FlashImage.sector, if_pos hs]
    simp only [hl.offset_eq hs, ByteArray.toList_extract_mk, Nat.add_sub_cancel_left,
      take_drop_flatMap_range hlen hs]
  -- the populated slots are ascending, so their binary search agrees with membership
  have hmissing : FlashImage.missing
      ⟨l, ⟨((List.range l.slotCount).flatMap (sectorBytes l m)).toArray⟩,
        (List.range l.slotCount).filter fun s => (m.find? s).isSome⟩ =
      (List.range l.slotCount).filter fun s => !(m.find? s).isSome := by
    rw [FlashImage.missing_eq_filter_contains (List.pairwise_lt_range.filter _)]
    apply List.filter_congr
    intro s hs
    simp_all
  refine ⟨rfl, ?_, ?_, ?_, List.pairwise_lt_range.filter _, ?_, ?_, ?_, ?_⟩
  · simp [FlashImage.len, ← ByteArray.size_data, length_flatMap_range hlen]
  · intro s hs t ht
    rw [hsector s hs]
    congr 1
    apply ByteArray.eq_of_toList_eq
    simp [sectorBytes, ht]
  · intro s hs ht
    rw [hsector s hs]
    congr 1
    apply ByteArray.eq_of_toList_eq
    simp [sectorBytes, ht]
  · intro s
    simp
  · rw [hmissing]
    exact List.pairwise_lt_range.filter _
  · intro s
    rw [hmissing]
    simp
  · rw [hmissing]
    exact List.filter_append_perm _ _

/-- Tensors given for slots past the layout's last change nothing. -/
theorem pack_congr (h : ∀ s < l.slotCount, m'.find? s = m.find? s) : pack m' l = pack m l := by
  by_cases hl : l.Usable
  · cases hfo : firstOverflow l m with
    | none =>
      have hsec : ∀ s ∈ List.range l.slotCount, sectorBytes l m' s = sectorBytes l m s :=
        fun s hs => by simp only [sectorBytes, h s (List.mem_range.1 hs)]
      rw [pack_eq_ok hl hfo, pack_eq_ok hl ((firstOverflow_congr h).trans hfo),
        List.flatMap_congr hsec, List.filter_congr fun s hs => by rw [h s (List.mem_range.1 hs)]]
    | some p =>
      obtain ⟨s, n⟩ := p
      rw [pack_eq_overflow hl hfo, pack_eq_overflow hl ((firstOverflow_congr h).trans hfo)]
  · obtain ⟨r, -, hv⟩ := SectorLayout.validate_eq_error_of_not_usable hl
    rw [pack, pack, hv]
    rfl

/-- The sector of a slot of a packed image lies within the image: it starts at
    the slot's offset and ends at or before the image's last byte, so all
    `sectorSize` of its bytes are read. -/
theorem sector_in_bounds {img : FlashImage} (h : pack m l = .ok img) {s : Nat}
    (hs : s < l.slotCount) :
    l.offset s + l.sectorSize ≤ img.len ∧ ∃ b, img.sector s = some b ∧ b.size = l.sectorSize := by
  obtain ⟨hl, -⟩ := usable_of_pack_eq_ok h
  have himg := packedImage_of_pack_eq_ok h
  have hend : l.offset s + l.sectorSize ≤ img.len := by
    rw [himg.len_eq, ← hl.totalBytes_eq]
    exact hl.offset_add_le hs (Nat.le_refl _)
  refine ⟨hend, _, by rw [FlashImage.sector, himg.layout_eq, if_pos hs], ?_⟩
  rw [ByteArray.size_extract, Nat.min_eq_left (show _ ≤ img.data.size from hend)]
  exact Nat.add_sub_cancel_left _ _

end Image

/-! ## Packing -/

/-- Packing the tensors of a slot map into a layout. An unusable layout is
    refused, whatever the tensors; with a usable one, the least slot of the
    layout whose tensor is longer than a sector is reported, and when there is
    none the image is packed. Tensors given for slots past the layout's last
    change nothing. -/
theorem pack_spec (m : SlotSources) (l : SectorLayout) :
    (l.validate = .ok () ↔ l.Usable) ∧
    ((∃ r, pack m l = .error (.invalidLayout r)) ↔ ¬ l.Usable) ∧
    (l.Usable → ∀ s < l.slotCount, ∀ t, m.find? s = some t → l.sectorSize < t.size →
      (∀ s' < s, ∀ t', m.find? s' = some t' → t'.size ≤ l.sectorSize) →
      pack m l = .error (.sectorOverflow s t.size l.sectorSize)) ∧
    (l.Usable → (∀ s < l.slotCount, ∀ t, m.find? s = some t → t.size ≤ l.sectorSize) →
      ∃ img, pack m l = .ok img ∧ PackedImage l m img) ∧
    (∀ m' : SlotSources, (∀ s < l.slotCount, m'.find? s = m.find? s) →
      pack m' l = pack m l) := by
  refine ⟨SectorLayout.validate_eq_ok_iff, ⟨fun ⟨r, hr⟩ hl => ?_, pack_eq_invalid⟩, ?_, ?_,
    fun m' h => pack_congr h⟩
  · -- a usable layout gets past `validate`, to an overflow or to an image
    cases hfo : firstOverflow l m with
    | none =>
      rw [pack_eq_ok hl hfo] at hr
      cases hr
    | some p =>
      obtain ⟨s, n⟩ := p
      rw [pack_eq_overflow hl hfo] at hr
      cases hr
  · intro hl s hs t ht hover hleast
    exact pack_eq_overflow hl (firstOverflow_eq_of_least hs ht hover hleast)
  · intro hl hfit
    have hok := pack_eq_ok hl (firstOverflow_eq_none_iff.2 hfit)
    exact ⟨_, hok, packedImage_of_pack_eq_ok hok⟩

/-- For a layout accepted by `validate`, the image's length `slotCount ·
    sectorSize` and the offset `s · sectorSize` of each of its slots are computed
    without wrapping, and a piece of at most a sector's length written at a slot's
    offset (a tensor that fits) ends inside the image, below `2^64`. Every image
    packed in the layout has that length, and the sector read back for each slot
    lies whole within it. -/
theorem pack_slices_in_bounds {l : SectorLayout} (hv : l.validate = .ok ()) :
    l.totalBytes = l.slotCount * l.sectorSize ∧ l.totalBytes < wordModulus ∧
    (∀ s < l.slotCount, ∀ len ≤ l.sectorSize,
      l.offset s = s * l.sectorSize ∧ l.offset s + len ≤ l.totalBytes) ∧
    ∀ (m : SlotSources) (img : FlashImage), pack m l = .ok img →
      img.len = l.totalBytes ∧ ∀ s < l.slotCount,
        l.offset s + l.sectorSize ≤ img.len ∧ ∃ b, img.sector s = some b ∧ b.size = l.sectorSize := by
  have hl := SectorLayout.validate_eq_ok_iff.1 hv
  refine ⟨hl.totalBytes_eq, hl.totalBytes_lt,
    fun s hs len hlen => ⟨hl.offset_eq hs, hl.offset_add_le hs hlen⟩, fun m img h => ?_⟩
  have hlen : img.len = l.totalBytes := by rw [(packedImage_of_pack_eq_ok h).len_eq, hl.totalBytes_eq]
  exact ⟨hlen, fun s hs => sector_in_bounds h hs⟩

/-- The default layout is usable, so its slices stay in bounds: the last of its
    ten sectors ends at its 40960th byte. -/
theorem default_slices_in_bounds :
    SectorLayout.default.validate = .ok () ∧
      SectorLayout.default.offset 9 + SectorLayout.default.sectorSize ≤
        SectorLayout.default.totalBytes :=
  ⟨rfl, ((pack_slices_in_bounds (l := SectorLayout.default) rfl).2.2.1 9 (by decide) _ le_rfl).2⟩

end EdgePack

import Mathlib
import EdgePack.Flash.Layout

/-!
# Usable sector layouts

`SectorLayout.validate` accepts a layout exactly when it is *usable*
(`validate_eq_ok_iff`): both sizes are positive, the base address is a multiple
of the sector size, and the whole image is shorter than a machine word can
count. The checks are made in that order, so a layout with several faults is
refused for the first of them.

For a usable layout the word arithmetic of the image never wraps: the image
has exactly `slotCount · sectorSize` bytes, slot `s` of the layout starts
`s · sectorSize` bytes in, and a sector's worth of bytes from there ends
inside the image (`Usable.offset_add_le`). The flash address of a slot is
another matter: `base + s · sectorSize` is summed as a 64-bit word that
`validate` does not bound, and it wraps for slots near the end of a layout that
fills the word (`address_exact_iff`, `address_wraps_near_limit`).
-/

namespace EdgePack

namespace SectorLayout

/-- A layout that packing can use. -/
structure Usable (l : SectorLayout) : Prop where
  sectorSize_pos : 0 < l.sectorSize
  slotCount_pos : 0 < l.slotCount
  aligned : l.baseAddress % l.sectorSize = 0
  fits : l.sectorSize * l.slotCount < wordModulus

instance (l : SectorLayout) : Decidable l.Usable :=
  decidable_of_iff (0 < l.sectorSize ∧ 0 < l.slotCount ∧ l.baseAddress % l.sectorSize = 0 ∧
      l.sectorSize * l.slotCount < wordModulus)
    ⟨fun ⟨h₁, h₂, h₃, h₄⟩ => ⟨h₁, h₂, h₃, h₄⟩, fun h => ⟨h.1, h.2, h.3, h.4⟩⟩

/-- A layout has no problem exactly when it is usable. -/
theorem problem?_eq_none_iff {l : SectorLayout} : l.problem? = none ↔ l.Usable := by
  unfold problem?
  constructor
  · intro h
    split_ifs at h with h₁ h₂ h₃ h₄
    exact ⟨Nat.pos_of_ne_zero h₁, Nat.pos_of_ne_zero h₂, not_not.1 h₃, Nat.lt_of_not_le h₄⟩
  · rintro ⟨h₁, h₂, h₃, h₄⟩
    rw [if_neg (by omega), if_neg (by omega), if_neg (not_not.2 h₃), if_neg (by omega)]

/-- `validate` accepts exactly the usable layouts. -/
theorem validate_eq_ok_iff {l : SectorLayout} : l.validate = .ok () ↔ l.Usable := by
  rw [← problem?_eq_none_iff, validate]
  split <;> simp_all

/-- An unusable layout is refused with the words of its first fault. -/
theorem validate_eq_error_of_not_usable {l : SectorLayout} (h : ¬ l.Usable) :
    ∃ r, l.problem? = some r ∧ l.validate = .error (.invalidLayout r) := by
  rw [← problem?_eq_none_iff] at h
  obtain ⟨r, hr⟩ := Option.ne_none_iff_exists'.1 h
  exact ⟨r, hr, by rw [validate, hr]⟩

variable {l : SectorLayout}

/-- In a usable layout the image has exactly `slotCount · sectorSize` bytes. -/
theorem Usable.totalBytes_eq (hl : l.Usable) : l.totalBytes = l.slotCount * l.sectorSize := by
  rw [totalBytes, Nat.mul_comm, Nat.mod_eq_of_lt hl.fits]

/-- In a usable layout slot `s` starts exactly `s · sectorSize` bytes in. -/
theorem Usable.offset_eq (hl : l.Usable) {s : Nat} (hs : s < l.slotCount) :
    l.offset s = s * l.sectorSize := by
  have : s * l.sectorSize < wordModulus :=
    calc s * l.sectorSize
        < l.slotCount * l.sectorSize := Nat.mul_lt_mul_of_pos_right hs hl.sectorSize_pos
      _ = l.sectorSize * l.slotCount := Nat.mul_comm _ _
      _ < wordModulus := hl.fits
  rw [offset, Nat.mod_eq_of_lt this]

/-- In a usable layout the image is shorter than a machine word can count. -/
theorem Usable.totalBytes_lt (hl : l.Usable) : l.totalBytes < wordModulus := by
  rw [hl.totalBytes_eq, Nat.mul_comm]
  exact hl.fits

/-- In a usable layout, a piece of at most a sector's length at the start of a
    slot ends inside the image. -/
theorem Usable.offset_add_le (hl : l.Usable) {s len : Nat} (hs : s < l.slotCount)
    (hlen : len ≤ l.sectorSize) : l.offset s + len ≤ l.totalBytes := by
  rw [hl.offset_eq hs, hl.totalBytes_eq]
  calc s * l.sectorSize + len
      ≤ s * l.sectorSize + l.sectorSize := Nat.add_le_add_left hlen _
    _ = (s + 1) * l.sectorSize := (Nat.succ_mul s _).symm
    _ ≤ l.slotCount * l.sectorSize := Nat.mul_le_mul_right _ hs

/-! ## Flash addresses

The address of a slot is the base address plus the slot's offset, summed as a
64-bit word. `validate` bounds the image but not the base address added to it,
so for a slot near the end of a layout that fills the word, the sum wraps. -/

/-- In a usable layout the address of slot `s` is `base + s · sectorSize`,
    reduced to a 64-bit word. -/
theorem Usable.address_eq (hl : l.Usable) {s : Nat} (hs : s < l.slotCount) :
    l.address s = (l.baseAddress + s * l.sectorSize) % wordModulus := by
  rw [address, hl.offset_eq hs]

/-- For a layout accepted by `validate`, the address of a slot is
    `base + s · sectorSize` taken modulo `2^64`, so it is exact exactly when that
    sum is below `2^64`; every slot's address is exact when the image ends below
    `2^64` in flash. -/
theorem address_exact_iff (hv : l.validate = .ok ()) {s : Nat} (hs : s < l.slotCount) :
    l.address s = (l.baseAddress + s * l.sectorSize) % wordModulus ∧
    (l.address s = l.baseAddress + s * l.sectorSize ↔
      l.baseAddress + s * l.sectorSize < wordModulus) ∧
    (l.baseAddress + l.totalBytes ≤ wordModulus →
      l.address s = l.baseAddress + s * l.sectorSize) := by
  have hl := validate_eq_ok_iff.1 hv
  have hexact : l.address s = l.baseAddress + s * l.sectorSize ↔
      l.baseAddress + s * l.sectorSize < wordModulus := by
    rw [hl.address_eq hs]
    exact Nat.mod_eq_iff_lt (by decide)
  refine ⟨hl.address_eq hs, hexact, fun hend => hexact.2 ?_⟩
  -- the slot ends inside the image, which ends below `2^64`
  have hin := hl.offset_add_le hs (Nat.le_refl l.sectorSize)
  rw [hl.offset_eq hs] at hin
  have hpos := hl.sectorSize_pos
  omega

/-- The default layout ends far below `2^64`, so the address of its last slot is
    exact. -/
theorem default_last_address_exact :
    SectorLayout.default.validate = .ok () ∧ 9 < SectorLayout.default.slotCount ∧
      SectorLayout.default.address 9 =
        SectorLayout.default.baseAddress + 9 * SectorLayout.default.sectorSize :=
  ⟨rfl, by decide, (address_exact_iff (l := SectorLayout.default) rfl (by decide)).2.2 (by decide)⟩

/-- `2^52 - 1` sectors of 4096 bytes at the default base address make a usable
    layout, and the address of its last slot but one wraps past `2^64`. -/
theorem address_wraps_near_limit :
    (⟨4096, 2 ^ 52 - 1, defaultBaseAddress⟩ : SectorLayout).validate = .ok () ∧
    2 ^ 52 - 2 < (⟨4096, 2 ^ 52 - 1, defaultBaseAddress⟩ : SectorLayout).slotCount ∧
    (⟨4096, 2 ^ 52 - 1, defaultBaseAddress⟩ : SectorLayout).address (2 ^ 52 - 2) ≠
      defaultBaseAddress + (2 ^ 52 - 2) * 4096 :=
  ⟨validate_eq_ok_iff.2 (by decide), by decide, by decide⟩

end SectorLayout

end EdgePack

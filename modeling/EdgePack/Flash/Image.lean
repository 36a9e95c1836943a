import EdgePack.Flash.Layout
import EdgePack.Host.Basic
import EdgePack.Tensor.Raw

/-!
# Packing flash images

A flash image holds one input tensor per slot: slot `s` occupies the sector
that starts `s · sectorSize` bytes in, the tensor's bytes first and zeros
after them; a slot without a tensor is all zeros.

`pack` checks the layout, then refuses the image when a tensor is longer than
a sector, naming the least such slot of the layout; tensors given for slots
past the layout's last are ignored. The slots of the layout split into the
populated ones, which received a tensor, and the missing ones.
-/

namespace EdgePack

/-- The tensors given for slots, in strictly ascending slot order, so that a
    slot has at most one. -/
structure SlotSources where
  entries : List (Nat × RawTensor)
  ascending : entries.Pairwise fun a b => a.1 < b.1

namespace SlotSources

/-- No tensors. -/
def empty : SlotSources := ⟨[], .nil⟩

instance : Inhabited SlotSources := ⟨empty⟩

/-- Inserts `(s, t)` into a list ascending by slot, replacing a tensor given
    earlier for `s`. -/
def insertAt (s : Nat) (t : RawTensor) : List (Nat × RawTensor) → List (Nat × RawTensor)
  | [] => [(s, t)]
  | (k, u) :: rest =>
    if s < k then (s, t) :: (k, u) :: rest
    else if s = k then (s, t) :: rest
    else (k, u) :: insertAt s t rest

/-- An insertion adds the slot `s` and no other. -/
theorem fst_of_mem_insertAt {s : Nat} {t : RawTensor} {l : List (Nat × RawTensor)}
    {e : Nat × RawTensor} (h : e ∈ insertAt s t l) : e.1 = s ∨ e ∈ l := by
  induction l with
  | nil => simp_all [insertAt]
  | cons p rest ih =>
    obtain ⟨k, u⟩ := p
    unfold insertAt at h
    split at h
    · grind
    · split at h <;> grind

/-- An insertion keeps the slots strictly ascending. -/
theorem insertAt_ascending {s : Nat} {t : RawTensor} {l : List (Nat × RawTensor)}
    (h : l.Pairwise fun a b => a.1 < b.1) : (insertAt s t l).Pairwise fun a b => a.1 < b.1 := by
  induction l with
  | nil => simp [insertAt]
  | cons p rest ih =>
    obtain ⟨k, u⟩ := p
    rw [List.pairwise_cons] at h
    unfold insertAt
    by_cases hlt : s < k
    · -- the new slot comes first, below `k` and so below every later slot
      rw [if_pos hlt]
      refine .cons (fun e he => ?_) (.cons h.1 h.2)
      rcases List.mem_cons.1 he with rfl | he
      · exact hlt
      · exact Nat.lt_trans hlt (h.1 e he)
    rw [if_neg hlt]
    by_cases heq : s = k
    · -- the new tensor takes the place of the old one
      subst heq
      simpa using h
    · rw [if_neg heq]
      refine .cons (fun e he => ?_) (ih h.2)
      rcases fst_of_mem_insertAt he with he | he
      · omega
      · exact h.1 e he

/-- The sources with `t` for slot `s`, replacing any tensor given before. -/
def insert (m : SlotSources) (s : Nat) (t : RawTensor) : SlotSources :=
  ⟨insertAt s t m.entries, insertAt_ascending m.ascending⟩

/-- Sources from pairs in order, a later pair for a slot replacing an earlier one. -/
def ofList (ps : List (Nat × RawTensor)) : SlotSources := ps.foldl (fun m p => m.insert p.1 p.2) empty

/-- The tensor given for slot `s`. -/
def find? (m : SlotSources) (s : Nat) : Option RawTensor := m.entries.lookup s

end SlotSources

/-- The binary search of a slice sorted ascending for `x`, as the standard
    library writes it: the window `[left, right)`, outside which nothing
    equals `x`, is narrowed at its middle element until that element is `x`,
    whose index is the answer, or the window is empty, and its start is where
    `x` would be inserted. -/
def binarySearch (xs : List Nat) (x : Nat) : Except Nat Nat :=
  go 0 xs.length
where
  /-- The search within the window `[left, right)`. -/
  go (left right : Nat) : Except Nat Nat :=
    if h : left < right then
      let mid := left + (right - left) / 2
      let y := xs.getD mid 0
      if y < x then go (mid + 1) right
      else if x < y then go left mid
      else .ok mid
    else .error left
  termination_by right - left
  decreasing_by all_goals omega

/-- A packed flash image: its layout, its bytes and the slots that received a tensor. -/
structure FlashImage where
  layout : SectorLayout
  data : ByteArray
  /-- The populated slots, ascending. -/
  populated : List Nat

namespace FlashImage

/-- The bytes of the image. -/
def len (img : FlashImage) : Nat := img.data.size

/-- Whether the image has no bytes. -/
def isEmpty (img : FlashImage) : Bool := img.data.size == 0

/-- The bytes of slot `s`, none past the last slot. -/
def sector (img : FlashImage) (s : Nat) : Option ByteArray :=
  if s < img.layout.slotCount then
    let start := img.layout.offset s
    some (img.data.extract start (start + img.layout.sectorSize))
  else none

/-- The slots of the layout that received no tensor, ascending: those that the
    binary search of the populated slots does not find. -/
def missing (img : FlashImage) : List Nat :=
  (List.range img.layout.slotCount).filter fun s => !(binarySearch img.populated s).isOk

/-- A list of slots as a listing writes it: `[0, 2]`. -/
def slotList (xs : List Nat) : String := "[" ++ ", ".intercalate (xs.map toString) ++ "]"

/-- One line about the image. -/
def summary (img : FlashImage) : String :=
  s!"FlashImage: {img.len} bytes, {img.layout.slotCount} slots × {img.layout.sectorSize} B at " ++
    Text.hexMarked img.layout.baseAddress ++ ", populated " ++ slotList img.populated ++
    ", missing " ++ slotList img.missing

/-- Writes the image to `path`, and reports it on the log. -/
def writeTo (img : FlashImage) (path : Path) : HostM (Except PackError Unit) := do
  match ← Host.writeBytes path img.data with
  | .error e => pure (.error (.write path.text e))
  | .ok () =>
    Host.log .info "flash_packer::flash_image"
      s!"flash image: wrote {path} ({img.layout.slotCount} sectors × {img.layout.sectorSize} bytes, {img.populated.length} populated)"
    pure (.ok ())

end FlashImage

/-- The bytes of slot `s` in a packed image: its tensor and zeros up to the
    sector size, or zeros only. -/
def sectorBytes (l : SectorLayout) (m : SlotSources) (s : Nat) : List UInt8 :=
  match m.find? s with
  | some t => t.data.toList ++ List.replicate (l.sectorSize - t.size) 0
  | none => List.replicate l.sectorSize 0

/-- The least slot of the layout whose tensor is longer than a sector, with
    that tensor's length. -/
def firstOverflow (l : SectorLayout) (m : SlotSources) : Option (Nat × Nat) :=
  (m.entries.find? fun e => e.1 < l.slotCount && e.2.size > l.sectorSize).map
    fun e => (e.1, e.2.size)

/-- The image of the tensors in a layout. -/
def pack (m : SlotSources) (l : SectorLayout) : Except PackError FlashImage := do
  l.validate
  if let some (s, len) := firstOverflow l m then
    throw (.sectorOverflow s len l.sectorSize)
  pure {
    layout := l
    data := ⟨((List.range l.slotCount).flatMap (sectorBytes l m)).toArray⟩
    populated := (m.entries.map Prod.fst).filter (· < l.slotCount) }

/-- What packing reports on the log: each ignored slot, then each slot of the
    layout up to the first that overflows, as missing or as placed. -/
def packLog (m : SlotSources) (l : SectorLayout) : List (Level × String) :=
  match l.validate with
  | .error _ => []
  | .ok () =>
    let ignored := (m.entries.filter fun e => e.1 ≥ l.slotCount).map fun e =>
      (Level.warn, s!"slot {e.1} is outside the {l.slotCount} slot layout; source ignored")
    let last := match firstOverflow l m with
      | some (s, _) => s
      | none => l.slotCount
    let placed := (List.range last).map fun s =>
      match m.find? s with
      | none => (Level.warn, s!"slot {s}: no source, emitting zero-filled sector")
      | some t => (Level.debug, s!"slot {s}: {t.size} bytes at offset " ++
          Text.hexMarked (l.offset s) ++ " (flash " ++ Text.hexMarked (l.address s) ++ ")")
    ignored ++ placed

/-- Packs an image, reporting on the host's log. -/
def packLogged (m : SlotSources) (l : SectorLayout) : HostM (Except PackError FlashImage) := do
  for (lv, msg) in packLog m l do
    Host.log lv "flash_packer::pack" msg
  pure (pack m l)

end EdgePack

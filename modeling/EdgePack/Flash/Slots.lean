import EdgePack.Flash.Image
import EdgePack.Input.Source

/-!
# Slot sources from a directory

The tensor of each slot of a layout is looked for in one directory under the
slot's number: `<i>.png`, then `<i>.jpg`, then `<i>.raw`, the first that is a
regular file being the one used. Slots are probed by number, so the result does
not depend on the order the directory lists its files. A slot with no file is
left out with a warning; so is a slot whose file fails to encode, without
trying the next extension; the packer then fills it with zeros.

* `slotCandidates`: the paths tried for a slot, in order;
* `resolveSlots`: the tensors found, by slot.
-/

namespace EdgePack

/-- The extensions tried for a slot, in order. -/
def slotExtensions : List String := ["png", "jpg", "raw"]

/-- The paths tried for slot `i` in `dir`, in order. -/
def slotCandidates (dir : Path) (i : Nat) : List Path :=
  slotExtensions.map fun ext => dir / s!"{i}.{ext}"

/-- The first of the paths that is a regular file. -/
def firstFile : List Path → HostM (Option Path)
  | [] => pure none
  | p :: ps => do if ← Host.isFile p then pure (some p) else firstFile ps

/-- The tensor of slot `i`, if its file is found and encodes. -/
def resolveSlot (dir : Path) (spec : InputSpec) (i : Nat) : HostM (Option RawTensor) := do
  match ← firstFile (slotCandidates dir i) with
  | none =>
    Host.log .warn "flash_packer::slots" s!"slot {i}: no {i}.png, {i}.jpg or {i}.raw in {dir.text}"
    pure none
  | some p =>
    match ← (Source.ofPath p).encode spec with
    | .ok t =>
      Host.log .info "flash_packer::slots" s!"slot {i}: {p.text} ({t.size} bytes)"
      pure (some t)
    | .error e =>
      Host.log .warn "flash_packer::slots" s!"slot {i}: skipping {p.text}: {e.message}"
      pure none

/-- The tensors of the slots `0 … slotCount - 1` of a layout found in `dir`. -/
def resolveSlots (dir : Path) (layout : SectorLayout) (spec : InputSpec) : HostM SlotSources :=
  (List.range layout.slotCount).foldlM (fun m i => do
    match ← resolveSlot dir spec i with
    | some t => pure (m.insert i t)
    | none => pure m) SlotSources.empty

end EdgePack

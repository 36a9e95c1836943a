import EdgePack.Input.Spec
import EdgePack.Text.Hex
import EdgePack.Host.Fs

/-!
# Sector layouts

A flash image is `slotCount` sectors of `sectorSize` bytes, programmed at a
base address. Slot `s` starts `s · sectorSize` bytes into the image, at the
flash address `base + s · sectorSize`.

A layout is usable when both sizes are positive, the base address is a
multiple of the sector size, and the whole image fits in a machine word
(`SectorLayout.validate`); the failures are reported in that order. A layout read
from a document is checked before use.
-/

namespace EdgePack

/-- Why an image could not be packed or written. -/
inductive PackError where
  /-- A slot's tensor is longer than a sector. -/
  | sectorOverflow (slot len sectorSize : Nat)
  /-- The layout is unusable, in words. -/
  | invalidLayout (reason : String)
  /-- Writing the image failed. -/
  | write (path : String) (cause : IoError)
  deriving Inhabited

namespace PackError

/-- The text of the error. -/
def message : PackError → String
  | .sectorOverflow s l z => s!"slot {s}: tensor of {l} bytes overflows sector size {z}"
  | .invalidLayout r => s!"invalid sector layout: {r}"
  | .write p c => s!"cannot write flash image '{p}': {c.message}"

/-- The name of the kind of error. -/
def tag : PackError → String
  | .sectorOverflow .. => "SectorOverflow"
  | .invalidLayout .. => "InvalidLayout"
  | .write .. => "Write"

/-- The errors underneath this one, outermost first, each in its own words. -/
def sources : PackError → List String
  | .write _ c => [c.message]
  | .sectorOverflow .. | .invalidLayout .. => []

end PackError

/-- The flash address the first slot is read from by default. -/
def defaultBaseAddress : Nat := 0xD00000

/-- The geometry of a flash image. -/
structure SectorLayout where
  sectorSize : Nat
  slotCount : Nat
  /-- The flash address of slot 0, a 32-bit word. -/
  baseAddress : Nat
  deriving DecidableEq, Repr

namespace SectorLayout

/-- Ten sectors of 4096 bytes at the default base address. -/
def default : SectorLayout := ⟨4096, 10, defaultBaseAddress⟩

instance : Inhabited SectorLayout := ⟨default⟩

/-- Why the layout is unusable, or nothing when it is usable. -/
def problem? (l : SectorLayout) : Option String :=
  if l.sectorSize = 0 then some "sector_size must be > 0"
  else if l.slotCount = 0 then some "slot_count must be > 0"
  else if l.baseAddress % l.sectorSize ≠ 0 then
    some s!"base address {Text.hexMarked l.baseAddress} is not aligned to {l.sectorSize} byte sectors"
  else if l.sectorSize * l.slotCount ≥ wordModulus then some "image size overflows usize"
  else none

/-- Checks that the layout is usable. -/
def validate (l : SectorLayout) : Except PackError Unit :=
  match l.problem? with
  | some r => .error (.invalidLayout r)
  | none => .ok ()

/-- A layout at the default base address, checked. -/
def new (sectorSize slotCount : Nat) : Except PackError SectorLayout := do
  let l : SectorLayout := ⟨sectorSize, slotCount, defaultBaseAddress⟩
  l.validate
  pure l

/-- The layout moved to another base address, checked. -/
def withBase (l : SectorLayout) (base : Nat) : Except PackError SectorLayout := do
  let l' := { l with baseAddress := base }
  l'.validate
  pure l'

/-- The bytes of the whole image, as a machine word. -/
def totalBytes (l : SectorLayout) : Nat := l.slotCount * l.sectorSize % wordModulus

/-- Where slot `s` starts in the image, as a machine word. -/
def offset (l : SectorLayout) (s : Nat) : Nat := s * l.sectorSize % wordModulus

/-- The flash address of slot `s`, as a 64-bit word. -/
def address (l : SectorLayout) (s : Nat) : Nat := (l.baseAddress + l.offset s) % wordModulus

open Serde Decoder in
/-- Reads a layout; the base address defaults to `defaultBaseAddress`. -/
def decoder : Decoder SectorLayout :=
  record "SectorLayout"
    [("sector_size", check usize), ("slot_count", check usize), ("base_address", check u32)]
    fun fs => do
      let sectorSize ← fs.need "sector_size" usize
      let slotCount ← fs.need "slot_count" usize
      let base ← fs.getD "base_address" u32 defaultBaseAddress
      pure ⟨sectorSize, slotCount, base⟩

/-- The layout as data, its fields in declaration order. -/
def toDatum (l : SectorLayout) : Serde.Datum :=
  .map [("sector_size", .int l.sectorSize), ("slot_count", .int l.slotCount),
    ("base_address", .int l.baseAddress)]

end SectorLayout

end EdgePack

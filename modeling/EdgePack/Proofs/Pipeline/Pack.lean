import Mathlib
import EdgePack.Pipeline.Stages
import EdgePack.Proofs.Flash.Slots
import EdgePack.Proofs.Flash.Layout
import EdgePack.Proofs.Input.RawFile

/-!
# The packing stage

The packing stage checks that the target's slot directory exists, resolves the
slot sources in it, packs them and writes the image.

* What the stage answers, case by case: a missing slot directory
  (`packStage_run_of_not_isDir`), a refused packing (`packStage_of_pack_eq_error`)
  and a packed image, written or not (`packStage_of_pack_eq_ok`).
* A stage that fails leaves the file tree as it was (`fs_of_packStage_eq_error`):
  the image is written last, and a write that fails writes nothing.
* With a usable layout, the stage reports an overflow exactly when some slot
  resolved and a tensor of the input specification does not fit in a sector;
  the slot it names is the least that resolved (`packStage_spec`).
-/

namespace EdgePack

open Host

theorem onlyWrites_packLogged (m : SlotSources) (l : SectorLayout) : OnlyWrites (packLogged m l) := by
  unfold packLogged
  refine .bind (.forIn (fun e _ => ?_) _ _) fun _ => .pure _
  obtain ⟨lv, msg⟩ := e
  exact .bind (.log _ _ _) fun _ => .pure _

/-- Packing with a report answers what `pack` answers. -/
theorem packLogged_answer (m : SlotSources) (l : SectorLayout) (h : Host) :
    ((packLogged m l).run h).run.1 = pack m l := by
  unfold packLogged
  rw [StateT.run_bind]
  rfl

section ResolvePack

variable (dir : Path) (l : SectorLayout) (spec : InputSpec) (h : Host)

/-- Resolving the slots and packing them, then anything: the rest runs at the
    packing of the slots resolved on the host this started from. -/
theorem resolve_pack_run (k : Except PackError FlashImage → HostM β) :
    ((resolveSlots dir l spec >>= fun slots => packLogged slots l >>= k).run h).run =
      ((k (pack ((resolveSlots dir l spec).run h).run.1 l)).run
        ((packLogged ((resolveSlots dir l spec).run h).run.1 l).run
          ((resolveSlots dir l spec).run h).run.2).run.2).run := by
  rw [StateT.run_bind, Id.run_bind, StateT.run_bind, Id.run_bind, packLogged_answer]

/-- Resolving and packing only add to what is written. -/
theorem resolve_pack_host : ∃ w : Array Output,
    ((packLogged ((resolveSlots dir l spec).run h).run.1 l).run
      ((resolveSlots dir l spec).run h).run.2).run.2 = { h with out := h.out ++ w } := by
  obtain ⟨w₁, hw₁⟩ := (onlyWrites_resolveSlots dir l spec).host_eq (h := h)
  obtain ⟨w₂, hw₂⟩ := (onlyWrites_packLogged ((resolveSlots dir l spec).run h).run.1 l).host_eq
    (h := { h with out := h.out ++ w₁ })
  exact ⟨w₁ ++ w₂, by rw [hw₁, hw₂, Array.append_assoc]⟩

end ResolvePack

namespace FlashImage

variable (img : FlashImage) (p : Path) (h : Host)

/-- A write that fails reports the path and leaves the host as it was. -/
theorem writeTo_run_of_error {e : IoError} (he : h.fs.write h.cwd p img.data = .error e) :
    ((img.writeTo p).run h).run = (.error (.write p.text e), h) := by
  unfold writeTo
  rw [StateT.run_bind, Id.run_bind, writeBytes_run, he]
  rfl

/-- A write that succeeds leaves the written tree. -/
theorem writeTo_run_of_ok {t : FileTree} (ht : h.fs.write h.cwd p img.data = .ok t) :
    ((img.writeTo p).run h).run.1 = .ok () ∧ ((img.writeTo p).run h).run.2.fs = t := by
  unfold writeTo
  rw [StateT.run_bind, Id.run_bind, writeBytes_run, ht]
  exact ⟨rfl, rfl⟩

end FlashImage

namespace PipelineConfig

theorem existingDir_run (what : String) (p : Path) (h : Host) :
    ((existingDir what p).run h).run =
      (if h.fs.isDirAt h.cwd p then .ok p else .error (.missingInput what p), h) := by
  cases hd : h.fs.isDirAt h.cwd p <;> simp [existingDir, Host.isDir, Host.query, hd]

section Stage

variable (c : PipelineConfig) (target : String) (h : Host)

/-- Without its slot directory the stage stops at once, with the host as it was. -/
theorem packStage_run_of_not_isDir
    (hd : h.fs.isDirAt h.cwd (c.exampleDir target / c.flash.slotDir) = false) :
    ((packStage c target).run h).run =
      (.error (.missingInput "slot source directory" (c.exampleDir target / c.flash.slotDir)), h) := by
  unfold packStage
  rw [StateT.run_bind, Id.run_bind, existingDir_run, hd]
  rfl

/-- Past its slot directory, the stage answers what packing the resolved slots
    answers: a refusal, with the tree as it was, or the image, which is then
    written, or not, to the image file. -/
theorem packStage_of_isDir
    (hd : h.fs.isDirAt h.cwd (c.exampleDir target / c.flash.slotDir) = true) :
    (∀ e, pack ((resolveSlots (c.exampleDir target / c.flash.slotDir) c.flash.layout
        c.input.spec).run h).run.1 c.flash.layout = .error e →
      ((c.packStage target).run h).run.1 = .error (.pack e) ∧
        ((c.packStage target).run h).run.2.fs = h.fs) ∧
    (∀ img, pack ((resolveSlots (c.exampleDir target / c.flash.slotDir) c.flash.layout
        c.input.spec).run h).run.1 c.flash.layout = .ok img →
      (∃ t, h.fs.write h.cwd (c.exampleDir target / c.flash.imageFile) img.data = .ok t ∧
        ((c.packStage target).run h).run.1 = .ok ⟨img, c.exampleDir target / c.flash.imageFile⟩ ∧
        ((c.packStage target).run h).run.2.fs = t) ∨
      (∃ cause, h.fs.write h.cwd (c.exampleDir target / c.flash.imageFile) img.data = .error cause ∧
        ((c.packStage target).run h).run.1 =
          .error (.pack (.write (c.exampleDir target / c.flash.imageFile).text cause)) ∧
        ((c.packStage target).run h).run.2.fs = h.fs)) := by
  unfold packStage
  rw [StateT.run_bind, Id.run_bind, existingDir_run, hd, if_pos rfl]
  dsimp only
  rw [resolve_pack_run]
  obtain ⟨w, hw⟩ := resolve_pack_host (c.exampleDir target / c.flash.slotDir) c.flash.layout
    c.input.spec h
  rw [hw]
  refine ⟨fun e he => ?_, fun img he => ?_⟩
  · rw [he]
    exact ⟨rfl, rfl⟩
  rw [he]
  dsimp only
  rw [StateT.run_bind, Id.run_bind]
  -- the image is written on the host the stage started from, with more logged
  cases hwr : h.fs.write h.cwd (c.exampleDir target / c.flash.imageFile) img.data with
  | error cause =>
    rw [FlashImage.writeTo_run_of_error img _ { h with out := h.out ++ w } hwr]
    exact .inr ⟨cause, rfl, rfl, rfl⟩
  | ok t =>
    obtain ⟨hok, hfs⟩ := FlashImage.writeTo_run_of_ok img _ { h with out := h.out ++ w } hwr
    rw [hok]
    dsimp only
    rw [StateT.run_bind, Id.run_bind]
    -- what is logged after the write leaves the written tree
    exact .inl ⟨t, rfl, rfl, ((OnlyWrites.forM (fun _ => .log _ _ _) _).fs_eq).trans hfs⟩

/-- A stage that fails leaves the file tree as it was: the image is written
    last, and a write that fails writes nothing. -/
theorem fs_of_packStage_eq_error {e : PipelineError}
    (he : ((c.packStage target).run h).run.1 = .error e) :
    ((c.packStage target).run h).run.2.fs = h.fs := by
  cases hd : h.fs.isDirAt h.cwd (c.exampleDir target / c.flash.slotDir) with
  | false => rw [packStage_run_of_not_isDir c target h hd]
  | true =>
    obtain ⟨herr, hok⟩ := packStage_of_isDir c target h hd
    cases hp : pack ((resolveSlots (c.exampleDir target / c.flash.slotDir) c.flash.layout
        c.input.spec).run h).run.1 c.flash.layout with
    | error e' => exact (herr e' hp).2
    | ok img =>
      rcases hok img hp with ⟨t, -, hans, -⟩ | ⟨cause, -, -, hfs⟩
      · rw [hans] at he
        cases he
      · exact hfs

/-- With a usable layout and its slot directory, the stage reports an overflow
    exactly when packing finds one. -/
theorem packStage_eq_overflow_iff (hl : c.flash.layout.Usable)
    (hd : h.fs.isDirAt h.cwd (c.exampleDir target / c.flash.slotDir) = true) (s n z : Nat) :
    ((c.packStage target).run h).run.1 = .error (.pack (.sectorOverflow s n z)) ↔
      firstOverflow c.flash.layout ((resolveSlots (c.exampleDir target / c.flash.slotDir)
        c.flash.layout c.input.spec).run h).run.1 = some (s, n) ∧ z = c.flash.layout.sectorSize := by
  obtain ⟨herr, hok⟩ := packStage_of_isDir c target h hd
  cases hfo : firstOverflow c.flash.layout ((resolveSlots (c.exampleDir target / c.flash.slotDir)
      c.flash.layout c.input.spec).run h).run.1 with
  | none =>
    -- nothing overflows: the stage answers the image or an error writing it
    rcases hok _ (pack_eq_ok hl hfo) with ⟨t, -, hans, -⟩ | ⟨cause, -, hans, -⟩ <;> simp [hans]
  | some p =>
    obtain ⟨s', n'⟩ := p
    rw [(herr _ (pack_eq_overflow hl hfo)).1]
    simp [eq_comm, and_assoc]

end Stage

/-- The packing stage, for a usable layout. The resolved slots are exactly
    the slots of the layout whose first candidate file encodes, each to that
    encoding, of the specification's size; past the slot directory, the stage
    reports an overflow exactly when some slot resolved and a tensor of the
    specification does not fit in a sector, naming the least slot resolved; and
    a failed stage leaves the file tree, the image file with it, as it was. -/
theorem packStage_spec (c : PipelineConfig) (target : String) (h : Host)
    (hl : c.flash.layout.validate = .ok ()) :
    let dir := c.exampleDir target / c.flash.slotDir
    let slots := ((resolveSlots dir c.flash.layout c.input.spec).run h).run.1
    let stage := ((c.packStage target).run h).run
    (∀ s t, slots.find? s = some t ↔ s < c.flash.layout.slotCount ∧
      ∃ p, (slotCandidates dir s).find? (h.fs.isFileAt h.cwd ·) = some p ∧
        (((Source.ofPath p).encode c.input.spec).run h).run.1 = .ok t) ∧
    (∀ s t, slots.find? s = some t → t.size = c.input.spec.sizeBytes) ∧
    (h.fs.isDirAt h.cwd dir = true → ∀ s n z,
      stage.1 = .error (.pack (.sectorOverflow s n z)) ↔
        IsLeast {k | (slots.find? k).isSome} s ∧ n = c.input.spec.sizeBytes ∧
          z = c.flash.layout.sectorSize ∧ c.flash.layout.sectorSize < c.input.spec.sizeBytes) ∧
    (∀ e, stage.1 = .error e → stage.2.fs = h.fs) := by
  intro dir slots stage
  have hu : c.flash.layout.Usable := SectorLayout.validate_eq_ok_iff.1 hl
  refine ⟨find?_resolveSlots_eq_some dir c.flash.layout c.input.spec h,
    fun _ _ ht => size_of_find?_resolveSlots dir c.flash.layout c.input.spec ht,
    fun hd s n z => ?_, fun _ he => fs_of_packStage_eq_error c target h he⟩
  rw [packStage_eq_overflow_iff c target h hu hd,
    firstOverflow_resolveSlots_eq_some_iff dir c.flash.layout c.input.spec h]
  exact ⟨fun ⟨⟨hs, hn, ho⟩, hz⟩ => ⟨hs, hn, hz, ho⟩, fun ⟨hs, hn, hz, ho⟩ => ⟨⟨hs, hn, ho⟩, hz⟩⟩

/-- The default configuration with two sectors of 512 bytes, fewer than the
    784 bytes of its input. -/
def smallSectors : PipelineConfig :=
  { PipelineConfig.default with
    flash := { FlashSettings.default with layout := ⟨512, 2, defaultBaseAddress⟩ } }

/-- The example `mnist`, whose slot directory holds a raw file of 784 bytes
    for slot 0 and nothing for slot 1. -/
def overflowHost : Host where
  fs := ⟨[(["example"], .dir), (["example", "mnist"], .dir),
    (["example", "mnist", "0.raw"], .file ⟨Array.replicate 784 0⟩)]⟩

/-- Slot 0 resolves and does not fit in a sector: the stage reports it, and the
    image file is not written. -/
theorem packStage_small_sectors :
    let dir := smallSectors.exampleDir "mnist" / smallSectors.flash.slotDir
    let stage := ((smallSectors.packStage "mnist").run overflowHost).run
    smallSectors.flash.layout.validate = .ok () ∧ overflowHost.fs.isDirAt overflowHost.cwd dir = true ∧
      stage.1 = .error (.pack (.sectorOverflow 0 784 512)) ∧ stage.2.fs = overflowHost.fs := by
  intro dir stage
  have hl : smallSectors.flash.layout.validate = .ok () := rfl
  have hd : overflowHost.fs.isDirAt overflowHost.cwd dir = true := by decide +kernel
  obtain ⟨hslots, -, hoverflow, hframe⟩ := packStage_spec smallSectors "mnist" overflowHost hl
  -- slot 0's first candidate is its raw file, of the input's 784 bytes
  have hfirst : (slotCandidates dir 0).find? (overflowHost.fs.isFileAt overflowHost.cwd ·) =
      some (dir / "0.raw") := by decide +kernel
  have hsrc : Source.ofPath (dir / "0.raw") = .rawFile (dir / "0.raw") := by
    have hext : (dir / "0.raw").extension? = some "raw" := by decide +kernel
    have hraw : (String.ofList ("raw".toList.map Char.toLower) == "raw") = true := by decide +kernel
    simp only [Source.ofPath, hext, hraw, if_true]
  obtain ⟨d, hread, hsize⟩ : ∃ d, overflowHost.fs.read overflowHost.cwd (dir / "0.raw") = .ok d ∧
      d.size = smallSectors.input.spec.tensorShape.sizeBytes .u8 := by
    have hb : ((overflowHost.fs.read overflowHost.cwd (dir / "0.raw")).toOption.map
        ByteArray.size) = some 784 := by decide +kernel
    cases hr : overflowHost.fs.read overflowHost.cwd (dir / "0.raw") with
    | error e => simp [hr, Except.toOption] at hb
    | ok d =>
      have h784 : d.size = 784 := by simpa [hr, Except.toOption] using hb
      exact ⟨d, rfl, h784⟩
  have hencode := encode_rawFile_of_read (t := smallSectors.input.spec) (x := ⟨_, .u8, d, hsize⟩)
    rfl ⟨rfl, rfl⟩ hread
  have hslot := (hslots 0 _).2 ⟨by decide, _, hfirst, hsrc ▸ hencode⟩
  have hstage : stage.1 = .error (.pack (.sectorOverflow 0 784 512)) :=
    (hoverflow hd 0 784 512).2 ⟨⟨by simp [hslot], fun k _ => Nat.zero_le k⟩, rfl, rfl, by decide⟩
  exact ⟨hl, hd, hstage, hframe _ hstage⟩

end PipelineConfig

end EdgePack

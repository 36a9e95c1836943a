import Mathlib
import EdgePack.Tool.Inference
import EdgePack.Input.Raster
import EdgePack.Proofs.Tensor.Raw
import EdgePack.Proofs.Tool.CalibrationFile

/-!
# One layout of singles

Singles are stored as their four bytes, least significant first, one after
the other. The same layout is written by a tensor made of singles, by the
cast of intensities to `f32`, by a calibration set's sample files, and read by
a tensor's singles and by the output of a compiled model. So every way round
gives back what it started from, bit for bit, NaN payloads included
(`singles_layout`):

* singles made into a vector tensor are its bytes and read back as themselves
  (`RawTensor.ofSingles_vector`);
* whole singles of bytes made into a vector tensor, read as singles and made
  into a tensor again, give the same bytes (`RawTensor.ofBytes_vector`);
* a written calibration set holds each sample in its file
  (`CalibrationSet.read_writeRawDir`);
* the output of a model is read exactly when its directory holds one regular
  file, of whole singles (`readSingleOutput_eq_ok_iff`).
-/

namespace EdgePack

open Host

@[simp] theorem Bytes.length_singles (d : ByteArray) : (Bytes.singles d).length = d.size / 4 := by
  simp [Bytes.singles]

namespace RawTensor

/-- Singles, fewer than a word of bytes, make a vector tensor of their bytes
    that reads back as the same singles. -/
theorem ofSingles_vector (vs : List Single) (hv : vs.length * 4 < wordModulus) :
    ∃ t, ofSingles (.vector vs.length) vs = .ok t ∧ t.data = Bytes.ofSingles vs ∧
      t.singles = .ok vs := by
  have hprod : (Shape.vector vs.length).dims.prod = vs.length := by simp [Shape.vector]
  have hcount : vs.length = (Shape.vector vs.length).numElements := by
    rw [Shape.numElements_eq, hprod]
    exact (Nat.mod_eq_of_lt (by omega)).symm
  have hsize : (Bytes.ofSingles vs).size = (Shape.vector vs.length).sizeBytes .f32 := by
    rw [Bytes.size_ofSingles, Shape.sizeBytes_eq, hprod]
    exact (Nat.mod_eq_of_lt hv).symm
  obtain ⟨t, ht⟩ := ofBytes_isOk_iff.2 hsize
  obtain ⟨-, hd, hb⟩ := ofBytes_eq_ok ht
  refine ⟨t, by rw [ofSingles, if_pos hcount, ht], hb, ?_⟩
  rw [singles, hd, hb, Bytes.singles_ofSingles]
  rfl

/-- The singles of whole singles of bytes, fewer than a word, make a vector
    tensor of the same bytes. -/
theorem ofSingles_singles_vector (b : ByteArray) (h4 : b.size % 4 = 0) (hb : b.size < wordModulus) :
    ∃ t, ofSingles (.vector (Bytes.singles b).length) (Bytes.singles b) = .ok t ∧ t.data = b := by
  obtain ⟨t, ht, hdata, -⟩ := ofSingles_vector (Bytes.singles b) (by simp; omega)
  exact ⟨t, ht, hdata.trans (Bytes.ofSingles_singles b h4)⟩

/-- Whole singles of bytes, fewer than a word, make a vector tensor whose
    singles make a tensor of the same bytes again. -/
theorem ofBytes_vector (b : ByteArray) (h4 : b.size % 4 = 0) (hb : b.size < wordModulus) :
    ∃ t vs t', ofBytes (.vector (b.size / 4)) .f32 b = .ok t ∧ t.singles = .ok vs ∧
      ofSingles (.vector vs.length) vs = .ok t' ∧ t'.data = b := by
  have hsize : b.size = (Shape.vector (b.size / 4)).sizeBytes .f32 := by
    rw [Shape.sizeBytes_eq]
    simp only [Shape.vector, List.prod_cons, List.prod_nil, Nat.mul_one]
    rw [show b.size / 4 * DType.f32.size = b.size by
      show b.size / 4 * 4 = b.size
      omega]
    exact (Nat.mod_eq_of_lt hb).symm
  obtain ⟨t, ht⟩ := ofBytes_isOk_iff.2 hsize
  obtain ⟨-, hd, hdata⟩ := ofBytes_eq_ok ht
  have hvs : t.singles = .ok (Bytes.singles b) := by
    rw [singles, hd, hdata]
    rfl
  obtain ⟨t', ht', hdata'⟩ := ofSingles_singles_vector b h4 hb
  exact ⟨t, _, t', ht, hvs, ht', hdata'⟩

end RawTensor

/-- Intensities cast to `f32` are their singles' bytes. -/
theorem castValues_f32 (vs : List Single) (origin : String) :
    castValues vs .f32 origin = .ok (Bytes.ofSingles vs) := rfl

/-! ## The output of a model -/

/-- The regular files among some paths, as the tree and the working directory tell. -/
theorem filterAuxM_isFile_run (h : Host) : ∀ l acc : List Path,
    ((List.filterAuxM Host.isFile l acc).run h).run =
      ((l.filter (h.fs.isFileAt h.cwd ·)).reverse ++ acc, h)
  | [], _ => rfl
  | p :: l, acc => by
    cases hp : h.fs.isFileAt h.cwd p with
    | true => simp [List.filterAuxM, Host.isFile, Host.query, hp, filterAuxM_isFile_run h l]
    | false => simp [List.filterAuxM, Host.isFile, Host.query, hp, filterAuxM_isFile_run h l]

theorem filterM_isFile_run (l : List Path) (h : Host) :
    ((l.filterM Host.isFile).run h).run = (l.filter (h.fs.isFileAt h.cwd ·), h) := by
  unfold List.filterM
  rw [StateT.run_bind, Id.run_bind, filterAuxM_isFile_run]
  simp

/-- Reading the output of a model from a directory that lists: singles come
    back exactly when one regular file stands in it, of whole singles, and they
    are that file's singles. -/
theorem readSingleOutput_eq_ok_iff (dir : Path) (h : Host) {names : List String}
    (hl : h.fs.list h.cwd dir = .ok names) (vs : List Single) :
    ((readSingleOutput dir).run h).run.1 = .ok vs ↔
      ∃ only bytes, (names.map fun n => dir / (⟨n⟩ : Path)).filter (h.fs.isFileAt h.cwd ·) = [only] ∧
        h.fs.read h.cwd only = .ok bytes ∧ bytes.size % 4 = 0 ∧ vs = Bytes.singles bytes := by
  unfold readSingleOutput
  have hlist : ((Host.listDir dir).run h).run = (.ok names, h) := by
    simp [Host.listDir, Host.query, hl]
  rw [StateT.run_bind, Id.run_bind, hlist]
  dsimp only
  rw [StateT.run_bind, Id.run_bind, filterM_isFile_run]
  dsimp only
  cases hf : (names.map fun n => dir / (⟨n⟩ : Path)).filter (h.fs.isFileAt h.cwd ·) with
  | nil => simp
  | cons only rest =>
    cases rest with
    | cons f rest => simp
    | nil =>
      -- the one file is read, and must be whole singles
      rw [StateT.run_bind, Id.run_bind]
      cases hr : h.fs.read h.cwd only with
      | error e => simp [Host.readBytes, Host.query, hr]
      | ok bytes =>
        by_cases h4 : bytes.size % 4 = 0
        · simp [Host.readBytes, Host.query, hr, h4, eq_comm]
        · simp [Host.readBytes, Host.query, hr, h4]

/-- Every regular file of a directory that lists can be read, so its output is
    read exactly when it holds one regular file, of whole singles. -/
theorem readSingleOutput_isOk_iff (dir : Path) (h : Host) {names : List String}
    (hl : h.fs.list h.cwd dir = .ok names) :
    (∃ vs, ((readSingleOutput dir).run h).run.1 = .ok vs) ↔
      ∃ only, (names.map fun n => dir / (⟨n⟩ : Path)).filter (h.fs.isFileAt h.cwd ·) = [only] ∧
        ∀ bytes, h.fs.read h.cwd only = .ok bytes → bytes.size % 4 = 0 := by
  simp only [readSingleOutput_eq_ok_iff dir h hl]
  constructor
  · rintro ⟨vs, only, bytes, hf, hr, h4, -⟩
    refine ⟨only, hf, fun bytes' hr' => ?_⟩
    rw [hr] at hr'
    cases hr'
    exact h4
  · rintro ⟨only, hf, h4⟩
    -- the one regular file reads as some bytes
    have hfile : h.fs.isFileAt h.cwd only = true := by
      have hmem : only ∈ (names.map fun n => dir / (⟨n⟩ : Path)).filter (h.fs.isFileAt h.cwd ·) := by
        simp [hf]
      exact (List.mem_filter.1 hmem).2
    obtain ⟨bytes, hr⟩ := FileTree.read_of_isFileAt hfile
    exact ⟨_, only, bytes, hf, hr, h4 bytes hr, rfl⟩

/-- Singles have one layout in bytes. Singles, fewer than a word of bytes, make
    a vector tensor whose bytes are the singles' bytes, which is also what the
    cast to `f32` gives, and whose singles are the same singles, bit for bit;
    a written calibration set holds each sample's singles' bytes in its file.
    Conversely, whole singles of bytes, read by a vector tensor or as the one
    regular file of a model's output, make a tensor of the same bytes again;
    and a model's output is read exactly when its directory holds one regular
    file, of whole singles. -/
theorem singles_layout :
    (∀ vs : List Single, vs.length * 4 < wordModulus →
      ∃ t, RawTensor.ofSingles (.vector vs.length) vs = .ok t ∧ t.data = Bytes.ofSingles vs ∧
        (∀ origin, castValues vs .f32 origin = .ok t.data) ∧ t.singles = .ok vs) ∧
    (∀ (s : CalibrationSet) (dir : Path) (h : Host) (ps : List Path),
      ((s.writeRawDir dir).run h).run.1 = .ok ps → ∀ i (hi : i < s.samples.length),
        let h' := ((s.writeRawDir dir).run h).run.2
        h'.fs.read h'.cwd (dir / CalibrationSet.sampleName i) = .ok (Bytes.ofSingles s.samples[i])) ∧
    (∀ b : ByteArray, b.size % 4 = 0 → b.size < wordModulus →
      ∃ t vs t', RawTensor.ofBytes (.vector (b.size / 4)) .f32 b = .ok t ∧ t.singles = .ok vs ∧
        RawTensor.ofSingles (.vector vs.length) vs = .ok t' ∧ t'.data = b) ∧
    (∀ (dir : Path) (h : Host) (names : List String), h.fs.list h.cwd dir = .ok names →
      let files := (names.map fun n => dir / (⟨n⟩ : Path)).filter (h.fs.isFileAt h.cwd ·)
      (∀ only b, files = [only] → h.fs.read h.cwd only = .ok b → b.size % 4 = 0 →
        b.size < wordModulus → ∃ vs t', ((readSingleOutput dir).run h).run.1 = .ok vs ∧
          RawTensor.ofSingles (.vector vs.length) vs = .ok t' ∧ t'.data = b) ∧
      ((∃ vs, ((readSingleOutput dir).run h).run.1 = .ok vs) ↔
        ∃ only, files = [only] ∧ ∀ b, h.fs.read h.cwd only = .ok b → b.size % 4 = 0)) := by
  refine ⟨fun vs hv => ?_, fun s dir h _ hw i hi => CalibrationSet.read_writeRawDir s dir h hw i hi,
    fun b h4 hb => RawTensor.ofBytes_vector b h4 hb,
    fun dir h names hl => ⟨fun only b hf hr h4 hb => ?_, readSingleOutput_isOk_iff dir h hl⟩⟩
  · obtain ⟨t, ht, hdata, hvs⟩ := RawTensor.ofSingles_vector vs hv
    exact ⟨t, ht, hdata, fun origin => hdata ▸ castValues_f32 vs origin, hvs⟩
  · -- the output is the file's singles, which make a tensor of its bytes
    obtain ⟨t', ht', hdata'⟩ := RawTensor.ofSingles_singles_vector b h4 hb
    exact ⟨_, t', (readSingleOutput_eq_ok_iff dir h hl _).2 ⟨only, b, hf, hr, h4, rfl⟩, ht', hdata'⟩

end EdgePack

import Mathlib
import EdgePack.Input.Source
import EdgePack.Proofs.Host.Run
import EdgePack.Proofs.Tensor.Raw

/-!
# Encoding a source

Encoding reads its source and reports on the log, and does nothing else to
the host: the file tree stays as it was, and what it answers depends on the
tree and the working directory, never on what was logged before
(`Source.onlyWrites_encode`); a picture file's, only on the bytes its path
reads (`Source.encode_imageFile_congr`). A tensor it gives holds exactly the bytes the
input specification needs (`Source.size_of_encode`), whatever the source.
-/

namespace EdgePack

open Host

/-- Opening a picture only reads the file. -/
theorem onlyWrites_openPicture (p : Path) : OnlyWrites (openPicture p) := by
  unfold openPicture
  refine .bind (.query _) fun read => ?_
  -- every step after the read answers at once
  have hformat : ∀ r, OnlyWrites (openPicture.formatStep p r) := by
    intro r
    unfold openPicture.formatStep
    split
    · exact .pure _
    · exact .pure _
    · split
      · exact .pure _
      · split <;> exact .pure _
  cases read with
  | error e => exact .ite (.pure _) (hformat _)
  | ok d => exact hformat _

/-- What opening a picture answers depends on the bytes its path reads, and on
    nothing else of the host. -/
theorem openPicture_congr {p : Path} {h₁ h₂ : Host}
    (hr : h₁.fs.read h₁.cwd p = h₂.fs.read h₂.cwd p) :
    ((openPicture p).run h₁).run.1 = ((openPicture p).run h₂).run.1 := by
  -- every step after the read answers at once, whatever the host
  have hformat : ∀ r (g₁ g₂ : Host),
      ((openPicture.formatStep p r).run g₁).run.1 = ((openPicture.formatStep p r).run g₂).run.1 := by
    intro r g₁ g₂
    unfold openPicture.formatStep
    split
    · rfl
    · rfl
    · split
      · rfl
      · split <;> rfl
  unfold openPicture Host.readBytes Host.query
  simp only [bind_assoc, StateT.run_bind, StateT.run_get, pure_bind]
  rw [hr]
  cases h₂.fs.read h₂.cwd p with
  | error e =>
    dsimp only
    split
    · rfl
    · exact hformat _ h₁ h₂
  | ok d => exact hformat _ h₁ h₂

namespace Source

/-- Loading a source only reads its file. -/
theorem onlyWrites_load (s : Source) (spec : InputSpec) : OnlyWrites (s.load spec) := by
  cases s with
  | imageFile p =>
    refine .bind (onlyWrites_openPicture p) fun r => ?_
    cases r <;> exact .pure _
  | rawFile p =>
    refine .bind (.query _) fun r => ?_
    cases r with
    | error e => exact .pure _
    | ok d => exact .ite (.pure _) (.pure _)
  | pixels r => exact .pure _

theorem onlyWrites_logEncoded (origin : String) (spec : InputSpec)
    (r : Except EncodeError RawTensor) : OnlyWrites (logEncoded origin spec r) := by
  cases r with
  | error e => exact .pure _
  | ok t => exact .bind (.log _ _ _) fun _ => .pure _

/-- Reporting an encoding answers the encoding. -/
theorem logEncoded_answer (origin : String) (spec : InputSpec) (r : Except EncodeError RawTensor)
    (h : Host) : ((logEncoded origin spec r).run h).run.1 = r := by
  cases r <;> rfl

/-- Encoding reads the source and writes to the log, nothing more. -/
theorem onlyWrites_encode (s : Source) (spec : InputSpec) : OnlyWrites (s.encode spec) := by
  unfold encode
  refine .ite (.pure _) (.bind (onlyWrites_load s spec) fun r => ?_)
  cases r with
  | error e => exact .pure _
  | ok r => exact onlyWrites_logEncoded _ _ _

/-- What encoding answers: the element type's rule first, then the loaded
    raster encoded for the specification. -/
theorem encode_answer (s : Source) (spec : InputSpec) (h : Host) :
    ((s.encode spec).run h).run.1 =
      if !spec.dtype.hasCastRule then .error (.unsupportedDtype spec.dtype)
      else ((s.load spec).run h).run.1 >>= fun r => r.encodeAs spec s.origin := by
  unfold encode
  split
  · rfl
  · rw [OnlyWrites.answer_bind (onlyWrites_load s spec) fun r => ?_]
    · cases ((s.load spec).run h).run.1 with
      | error e => rfl
      | ok r => exact logEncoded_answer _ _ _ _
    · cases r with
      | error e => exact .pure _
      | ok r => exact onlyWrites_logEncoded _ _ _

/-- What a picture file encodes to depends on the bytes its path reads, and on
    nothing else of the host. -/
theorem encode_imageFile_congr {p : Path} {spec : InputSpec} {h₁ h₂ : Host}
    (hr : h₁.fs.read h₁.cwd p = h₂.fs.read h₂.cwd p) :
    (((imageFile p).encode spec).run h₁).run.1 = (((imageFile p).encode spec).run h₂).run.1 := by
  have hload : (((imageFile p).load spec).run h₁).run.1 = (((imageFile p).load spec).run h₂).run.1 := by
    simp only [load]
    rw [OnlyWrites.answer_bind (onlyWrites_openPicture p) fun r => ?_,
      OnlyWrites.answer_bind (onlyWrites_openPicture p) fun r => ?_, openPicture_congr hr]
    · cases ((openPicture p).run h₂).run.1 <;> rfl
    all_goals cases r <;> exact .pure _
  rw [encode_answer, encode_answer, hload]

end Source

/-- A raster encodes to the tensor of its cast bytes under the specification's
    shape and type, past the checks of its geometry. -/
theorem Raster.ofBytes_of_encodeAs {r : Raster} {spec : InputSpec} {origin : String}
    {t : RawTensor} (h : r.encodeAs spec origin = .ok t) :
    ∃ bytes, RawTensor.ofBytes spec.tensorShape spec.dtype bytes = .ok t := by
  unfold Raster.encodeAs at h
  simp only [bind, Except.bind] at h
  split at h
  · cases h
  split at h
  · cases h
  split at h
  · cases h
  · split at h
    · rename_i bytes _ _ t' ht'
      cases h
      exact ⟨bytes, ht'⟩
    · cases h

/-- A raster encodes to a tensor of exactly the specification's size. -/
theorem Raster.size_of_encodeAs {r : Raster} {spec : InputSpec} {origin : String} {t : RawTensor}
    (h : r.encodeAs spec origin = .ok t) : t.size = spec.sizeBytes := by
  obtain ⟨bytes, hb⟩ := Raster.ofBytes_of_encodeAs h
  obtain ⟨hs, hd, -⟩ := RawTensor.ofBytes_eq_ok hb
  rw [RawTensor.size, t.size_eq, hs, hd]
  rfl

namespace Source

/-- Whatever the source, a tensor it encodes to has exactly the bytes the
    specification needs. -/
theorem size_of_encode {s : Source} {spec : InputSpec} {h : Host} {t : RawTensor}
    (ht : ((s.encode spec).run h).run.1 = .ok t) : t.size = spec.sizeBytes := by
  rw [encode_answer] at ht
  split at ht
  · cases ht
  · cases hl : ((s.load spec).run h).run.1 with
    | error e => rw [hl] at ht; cases ht
    | ok r =>
      rw [hl] at ht
      exact Raster.size_of_encodeAs ht

end Source

end EdgePack

import Mathlib
import EdgePack.Input.RawFile
import EdgePack.Proofs.Input.Raster

/-!
# Raw files

A raw file holds a tensor's bytes and nothing else, so it is read for an input
specification, which gives it its shape and type, and only when it holds
exactly the specification's bytes (`readRaw_of_read`). A tensor encoded for a
specification has that specification's tensor shape and type; so writing it
and reading it back for the same specification gives the same tensor.

A raw file is also a source, of one byte per intensity. A byte is an
intensity read exactly, and cast back into `u8` it is the same byte
(`castByte_ofNat`): re-encoding a written `u8` raw file gives the tensor that
was written. `readRaw_writeRaw` puts this together.
-/

namespace EdgePack

open Host

/-! ## Bytes as intensities -/

/-- A natural below `2^23` is an intensity read exactly. -/
theorem Source.Single.value?_ofNat {n : Nat} (hn : n < 2 ^ 23) :
    (Source.Single.ofNat n).value? = some (n : ℚ) := by
  have hbits : (Source.Single.ofNat n).bits.toNat = Float.Format.binary32.ofDecimal false n 0 := by
    rw [Source.Single.ofNat, Nat.toUInt32_eq, UInt32.toNat_ofNat',
      Nat.mod_eq_of_lt (Float.Format.ofDecimal_nat_lt hn)]
  rw [Single.value?, hbits, Float.toRat?_decode_ofDecimal hn]

/-- A byte read as an intensity and cast back into `u8` is the byte. -/
theorem castByte_ofNat (b : UInt8) : castByte 0 255 (Source.Single.ofNat b.toNat) = b := by
  have hb := b.toNat_lt
  have hcast := castByte_u8 (Source.Single.value?_ofNat (show b.toNat < 2 ^ 23 by omega))
  rw [show ((b.toNat : ℚ)) = ((b.toNat : ℤ) : ℚ) by push_cast; rfl,
    Float.roundHalfAway_intCast] at hcast
  apply UInt8.toNat_inj.1
  omega

theorem Source.Single.isFinite_ofNat (b : UInt8) :
    (Source.Single.ofNat b.toNat).toFloat32.isFinite = true := by
  have hb := b.toNat_lt
  rw [Single.isFinite_toFloat32_iff, Source.Single.value?_ofNat (show b.toNat < 2 ^ 23 by omega)]
  rfl

/-! ## Tensors encoded for a specification -/

namespace RawTensor

theorem ext {x y : RawTensor} (hs : x.shape = y.shape) (hd : x.dtype = y.dtype)
    (hb : x.data = y.data) : x = y := by
  cases x
  cases y
  simp_all

end RawTensor

/-- A raster encodes to a tensor of the specification's tensor shape and type. -/
theorem Raster.shape_of_encodeAs {r : Raster} {spec : InputSpec} {origin : String} {x : RawTensor}
    (h : r.encodeAs spec origin = .ok x) : x.shape = spec.tensorShape ∧ x.dtype = spec.dtype := by
  obtain ⟨bytes, hb⟩ := Raster.ofBytes_of_encodeAs h
  obtain ⟨hs, hd, -⟩ := RawTensor.ofBytes_eq_ok hb
  exact ⟨hs, hd⟩

/-- A tensor encoded for a specification, from a source or from memory, has the
    specification's tensor shape and type. -/
theorem shape_of_encoded {t : InputSpec} {x : RawTensor}
    (hx : (∃ s h₀, ((Source.encode s t).run h₀).run.1 = .ok x) ∨ ∃ r : Raster, r.encode t = .ok x) :
    x.shape = t.tensorShape ∧ x.dtype = t.dtype := by
  rcases hx with ⟨s, h₀, hx⟩ | ⟨r, hx⟩
  · rw [Source.encode_answer] at hx
    split at hx
    · cases hx
    · cases hl : ((s.load t).run h₀).run.1 with
      | error e => rw [hl] at hx; cases hx
      | ok r =>
        rw [hl] at hx
        exact Raster.shape_of_encodeAs hx
  · unfold Raster.encode at hx
    split at hx
    · exact Raster.shape_of_encodeAs hx
    · cases hx

/-! ## Writing and reading -/

section Files

variable {p : Path} {t : InputSpec}

/-- A raw file that reads is accepted exactly when it holds the specification's
    bytes, and then it is the tensor of those bytes. -/
theorem readRaw_of_read {g : Host} {data : ByteArray} (hr : g.fs.read g.cwd p = .ok data) :
    ((readRaw p t).run g).run.1 =
      if h : data.size = t.sizeBytes then .ok ⟨t.tensorShape, t.dtype, data, h⟩
      else .error (.sourceRead p.text s!"expected {t.sizeBytes} bytes, found {data.size}") := by
  have hread : ((readBytes p).run g).run = (.ok data, g) := by
    simp [readBytes, query, hr]
  by_cases hs : data.size = t.sizeBytes
  · simp [readRaw, hread, hs, RawTensor.ofBytes, InputSpec.sizeBytes]
  · simp [readRaw, hread, hs]

/-- A written tensor's bytes are what its path reads afterwards, from the same
    working directory. -/
theorem read_of_writeRaw {x : RawTensor} {h : Host} (hw : ((writeRaw x p).run h).run.1 = .ok ()) :
    let h' := ((writeRaw x p).run h).run.2
    h'.fs.read h'.cwd p = .ok x.data := by
  intro h'
  simp only [h', writeRaw, StateT.run_bind, Id.run_bind, writeBytes_run] at hw ⊢
  cases hwr : h.fs.write h.cwd p x.data with
  | error e => simp [hwr] at hw
  | ok fs => exact FileTree.read_of_write hwr

/-- Bytes read as intensities, in the declared geometry, encode into `u8` as
    the same bytes. -/
theorem encodeAs_ofBytes {data : ByteArray} (hu : t.dtype = .u8)
    (hsize : data.size = t.imageShape.numElements) (origin : String) :
    ∃ y, (Raster.mk t.height t.width t.channels
        (data.toList.map fun b => Source.Single.ofNat b.toNat)).encodeAs t origin = .ok y ∧
      y.shape = t.tensorShape ∧ y.dtype = t.dtype ∧ y.data = data := by
  have hcast : castValues (data.toList.map fun b => Source.Single.ofNat b.toNat) t.dtype origin =
      .ok data := by
    rw [castValues_of_finite (show t.dtype.clipRange = some (0, 255) by rw [hu]; rfl)
      (by simp [Source.Single.isFinite_ofNat])]
    refine congrArg Except.ok (ByteArray.eq_of_toList_eq ?_)
    simp [List.map_map, Function.comp_def, castByte_ofNat]
  have hl : (data.toList.map fun b => Source.Single.ofNat b.toNat).length =
      t.imageShape.numElements := by
    simpa using hsize
  -- one byte per element, and the element count is a word
  have hfit : (data.toList.map fun b => Source.Single.ofNat b.toNat).length * t.dtype.size <
      wordModulus := by
    rw [hl, hu, DType.size, Nat.mul_one, Shape.numElements_eq]
    exact Nat.mod_lt _ (by decide)
  exact Raster.encodeAs_of_castValues_ok rfl hl hfit hcast

/-- A raw file of a `u8` specification's bytes is a raster of those bytes as
    intensities, which encodes back to the tensor of the same bytes. -/
theorem encode_rawFile_of_read {g : Host} {x : RawTensor} (hu : t.dtype = .u8)
    (hx : x.shape = t.tensorShape ∧ x.dtype = t.dtype) (hr : g.fs.read g.cwd p = .ok x.data) :
    (((Source.rawFile p).encode t).run g).run.1 = .ok x := by
  -- one byte per element: the file has as many bytes as the image has elements
  have hsize : x.data.size = t.imageShape.numElements := by
    rw [x.size_eq, hx.1, hx.2, hu, Shape.sizeBytes, InputSpec.numElements_tensorShape, DType.size,
      Nat.mul_one, Shape.numElements_eq, Nat.mod_mod]
  have hload : (((Source.rawFile p).load t).run g).run.1 =
      .ok ⟨t.height, t.width, t.channels, x.data.toList.map fun b => Source.Single.ofNat b.toNat⟩ := by
    simp [Source.load, readBytes, query, hr, hsize, InputSpec.imageShape]
  obtain ⟨y, hy, hys, hyd, hydata⟩ := encodeAs_ofBytes hu hsize p.text
  rw [Source.encode_answer, if_neg (by simp [hu, DType.hasCastRule]), hload]
  exact hy.trans (congrArg Except.ok (RawTensor.ext (hys.trans hx.1.symm) (hyd.trans hx.2.symm) hydata))

/-- Raw files written for a specification read back as written. A raw file
    that reads is accepted exactly when it holds the specification's bytes; a
    tensor encoded for the specification, from a source or from memory, once
    written reads back as itself; and for `u8`, a path whose extension is `raw`
    in any case re-encodes to the same tensor. -/
theorem readRaw_writeRaw (t : InputSpec) (p : Path) :
    (∀ (g : Host) data, g.fs.read g.cwd p = .ok data →
      ((∃ y, ((readRaw p t).run g).run.1 = .ok y) ↔ data.size = t.sizeBytes)) ∧
    ∀ x, ((∃ s h₀, ((Source.encode s t).run h₀).run.1 = .ok x) ∨ ∃ r : Raster, r.encode t = .ok x) →
    ∀ h : Host, ((writeRaw x p).run h).run.1 = .ok () →
      ((readRaw p t).run ((writeRaw x p).run h).run.2).run.1 = .ok x ∧
      (t.dtype = .u8 → ∀ e, p.extension? = some e → e.toList.map Char.toLower = "raw".toList →
        (((Source.ofPath p).encode t).run ((writeRaw x p).run h).run.2).run.1 = .ok x) := by
  refine ⟨fun g data hr => ?_, fun x hx h hw => ?_⟩
  · rw [readRaw_of_read hr]
    by_cases hs : data.size = t.sizeBytes <;> simp [hs]
  · have hshape := shape_of_encoded hx
    have hread := read_of_writeRaw hw
    refine ⟨?_, fun hu e he hraw => ?_⟩
    · -- the written bytes are exactly the specification's, and make the tensor again
      rw [readRaw_of_read hread, dif_pos (by rw [x.size_eq, hshape.1, hshape.2]; rfl)]
      exact congrArg Except.ok (RawTensor.ext hshape.1.symm hshape.2.symm rfl)
    · have hsrc : Source.ofPath p = .rawFile p := by simp [Source.ofPath, he, hraw]
      rw [hsrc]
      exact encode_rawFile_of_read hu hshape hread

end Files

end EdgePack

import Mathlib
import EdgePack.Tool.CalibrationFile
import EdgePack.Proofs.Host.Tree
import EdgePack.Proofs.Host.Run

/-!
# Writing a calibration set

Sample `i` of a calibration set is written to `sample_<i>.raw` in the
directory, the number padded with zeros to five digits. The names are plain
(`plainName_sampleName`) and distinct (`sampleName_injective`): past
`99999` the number takes more digits, and the zeros in front never change the
number read back. So no write of the loop lands on another's file, and once
the set is written each sample's file holds the sample's singles
(`read_writeRawDir`).
-/

namespace EdgePack

open Host

namespace Text

theorem toList_zeroPad (width n : Nat) :
    (zeroPad width n).toList =
      List.replicate (width - (toString n).length) '0' ++ Nat.toDigits 10 n := by
  simp [zeroPad, padLeft]

/-- The zeros in front do not change the number the digits stand for. -/
theorem ofDigitChars_zeroPad (width n : Nat) : Nat.ofDigitChars 10 (zeroPad width n).toList 0 = n := by
  rw [toList_zeroPad, Nat.ofDigitChars_append, Nat.ofDigitChars_replicate_zero, Nat.mul_zero,
    Nat.ofDigitChars_ten_toDigits]

theorem zeroPad_injective (width : Nat) : Function.Injective (zeroPad width) := fun i j hij => by
  rw [← ofDigitChars_zeroPad width i, hij, ofDigitChars_zeroPad]

theorem isDigit_of_mem_zeroPad {width n : Nat} {c : Char} (hc : c ∈ (zeroPad width n).toList) :
    c.isDigit := by
  rw [toList_zeroPad, List.mem_append] at hc
  rcases hc with hc | hc
  · rw [List.eq_of_mem_replicate hc]
    rfl
  · exact Nat.isDigit_of_mem_toDigits (by decide) (by decide) hc

end Text

namespace CalibrationSet

theorem toList_sampleName (i : Nat) :
    (sampleName i).toList = "sample_".toList ++ (Text.zeroPad 5 i).toList ++ ".raw".toList := by
  simp [sampleName]

theorem sampleName_injective : Function.Injective sampleName := fun i j hij => by
  have hl := congrArg String.toList hij
  rw [toList_sampleName, toList_sampleName] at hl
  exact Text.zeroPad_injective 5 (String.toList_inj.1
    (List.append_cancel_left (List.append_cancel_right hl)))

theorem plainName_sampleName (i : Nat) : Path.PlainName (sampleName i) where
  ne_empty := fun h => by simpa [toList_sampleName] using congrArg String.toList h
  ne_current := fun h => by simpa [toList_sampleName] using congrArg String.toList h
  ne_parent := fun h => by simpa [toList_sampleName] using congrArg String.toList h
  no_separator := by
    rw [toList_sampleName]
    intro hmem
    simp only [List.mem_append] at hmem
    rcases hmem with (hmem | hmem) | hmem
    · simp at hmem
    · exact absurd (Text.isDigit_of_mem_zeroPad hmem) (by decide)
    · simp at hmem

/-! ## Files below a directory -/

/-- The children of a directory, or of the working directory when the path is
    empty, resolve below one location in every tree that keeps the directories
    of the first. -/
theorem exists_base_of_dir {t₀ : FileTree} {cwd : Loc} {dir : Path}
    (hd : dir.text = "" ∨ ∃ l b, t₀.resolve cwd dir = .ok (l, b) ∧ t₀.get? l = some .dir) :
    ∃ base : Loc, ∀ t : FileTree, (∀ l, t₀.get? l = some .dir → t.get? l = some .dir) →
      ∀ s, Path.PlainName s → t.resolve cwd (dir / s) = .ok (base ++ [s], false) := by
  rcases hd with hempty | ⟨l, b, hr, hl⟩
  · -- an empty directory path joins to the bare name
    refine ⟨cwd, fun t _ s hs => ?_⟩
    have hjoin : dir / s = ⟨s⟩ := by
      show Path.join dir ⟨s⟩ = ⟨s⟩
      simp [Path.join, hs.isAbsolute_eq, hempty]
    rw [hjoin]
    exact FileTree.resolve_plainName hs
  · exact ⟨l, fun t hdirs s hs =>
      FileTree.resolve_join_name hs (FileTree.resolve_of_dirs hdirs hr) (hdirs l hl)⟩

/-! ## The loop of writes -/

section Loop

variable {dir : Path} {g : Except ToolError (List Path) → List Single × Nat →
  HostM (Except ToolError (List Path))}

/-- A loop whose steps pass an error on ends in that error. -/
theorem foldlM_error (herr : ∀ e x h, ((g (.error e) x).run h).run = (.error e, h))
    (e : ToolError) : ∀ (l : List (List Single × Nat)) (h : Host),
      ((l.foldlM g (.error e)).run h).run = (.error e, h)
  | [], _ => rfl
  | x :: l, h => by
    rw [List.foldlM_cons, StateT.run_bind, Id.run_bind, herr]
    exact foldlM_error herr e l h

/-- Samples of different numbers have their files at different places below a directory. -/
theorem sample_loc_ne (base : Loc) {i j : Nat} (hij : i ≠ j) :
    base ++ [sampleName i] ≠ base ++ [sampleName j] := fun heq =>
  hij (sampleName_injective (List.singleton_inj.1 (List.append_cancel_left heq)))

variable {t₀ : FileTree} {base cwd : Loc}

/-- One write of the loop: sample `k`'s file is put below `base`, where no
    directory stands, so the directories of `t₀` stay. -/
theorem write_sample
    (hres : ∀ t : FileTree, (∀ l, t₀.get? l = some .dir → t.get? l = some .dir) →
      ∀ i, t.resolve cwd (dir / sampleName i) = .ok (base ++ [sampleName i], false))
    {t t' : FileTree} (hdirs : ∀ l, t₀.get? l = some .dir → t.get? l = some .dir) {k : Nat}
    {d : ByteArray} (hw : t.write cwd (dir / sampleName k) d = .ok t') :
    t' = t.put (base ++ [sampleName k]) (.file d) ∧ base ++ [sampleName k] ≠ [] ∧
      ∀ l, t₀.get? l = some .dir → t'.get? l = some .dir := by
  obtain ⟨l, b, hr, hl, hnd, -, hput⟩ := FileTree.write_eq_ok hw
  rw [hres t hdirs k] at hr
  obtain ⟨rfl, -⟩ := Prod.mk.inj (Except.ok.inj hr)
  exact ⟨hput, hl, fun m hm => hput ▸ FileTree.get?_put_dir hl hnd m (hdirs m hm)⟩

/-- The loop writing samples `k, k + 1, …`, each step writing its sample's
    singles to its file below `base`: once it succeeds, each file holds its
    sample, the directories of `t₀` stay, and nothing else changed. -/
theorem foldlM_writes (herr : ∀ e x h, ((g (.error e) x).run h).run = (.error e, h))
    (hok : ∀ ps s i h r h', ((g (.ok ps) (s, i)).run h).run = (.ok r, h') →
      h.fs.write h.cwd (dir / sampleName i) (Bytes.ofSingles s) = .ok h'.fs ∧ h'.cwd = h.cwd)
    (hres : ∀ t : FileTree, (∀ l, t₀.get? l = some .dir → t.get? l = some .dir) →
      ∀ i, t.resolve cwd (dir / sampleName i) = .ok (base ++ [sampleName i], false)) :
    ∀ (samples : List (List Single)) (k : Nat) (acc : Except ToolError (List Path)) (h : Host)
      (ps : List Path), h.cwd = cwd →
      (∀ l, t₀.get? l = some .dir → h.fs.get? l = some .dir) →
      (((samples.zipIdx k).foldlM g acc).run h).run.1 = .ok ps →
      let h' := (((samples.zipIdx k).foldlM g acc).run h).run.2
      h'.cwd = cwd ∧ (∀ l, t₀.get? l = some .dir → h'.fs.get? l = some .dir) ∧
      (∀ i (hi : i < samples.length),
        h'.fs.get? (base ++ [sampleName (k + i)]) = some (.file (Bytes.ofSingles samples[i]))) ∧
      (∀ l, (∀ i < samples.length, l ≠ base ++ [sampleName (k + i)]) → h'.fs.get? l = h.fs.get? l)
  | [], k, acc, h, ps, hcwd, hdirs, _ =>
    ⟨hcwd, hdirs, fun i hi => absurd hi (Nat.not_lt_zero i), fun _ _ => rfl⟩
  | s :: rest, k, acc, h, ps, hcwd, hdirs, hrun => by
    intro h'
    simp only [h'] at *
    rw [List.zipIdx_cons, List.foldlM_cons, StateT.run_bind, Id.run_bind] at hrun ⊢
    -- the first step: an error would go through to the end
    obtain ⟨ps₀, rfl⟩ : ∃ ps₀, acc = .ok ps₀ := by
      cases acc with
      | ok ps₀ => exact ⟨ps₀, rfl⟩
      | error e => rw [herr, foldlM_error herr] at hrun; cases hrun
    rcases hstep : ((g (.ok ps₀) (s, k)).run h).run with ⟨_ | r, h₁⟩ <;> rw [hstep] at hrun <;>
      dsimp only at hrun ⊢
    · rw [foldlM_error herr] at hrun
      cases hrun
    obtain ⟨hwrite, hcwd₁⟩ := hok ps₀ s k h r h₁ hstep
    rw [hcwd] at hwrite
    obtain ⟨hput, hl, hdirs₁⟩ := write_sample hres hdirs hwrite
    obtain ⟨hcwd', hdirs', hfiles, hframe⟩ :=
      foldlM_writes herr hok hres rest (k + 1) (.ok r) h₁ ps (hcwd₁.trans hcwd) hdirs₁ hrun
    refine ⟨hcwd', hdirs', fun i hi => ?_, fun m hm => ?_⟩
    · cases i with
      | zero =>
        -- the later samples have other numbers, so they leave sample `k`'s file
        simp only [Nat.add_zero]
        rw [hframe _ fun i _ => sample_loc_ne base (by omega), hput, FileTree.get?_put_self hl]
        rfl
      | succ i =>
        rw [show k + (i + 1) = k + 1 + i by omega]
        exact hfiles i (by simpa using hi)
    · rw [hframe m fun i hi => by simpa [Nat.add_assoc, Nat.add_comm 1] using hm (i + 1) (by simpa using hi),
        hput, FileTree.get?_put hl, if_neg (by simpa using hm 0 (by simp))]

end Loop

/-- Once a calibration set is written, the file of each sample holds the
    sample's singles. -/
theorem read_writeRawDir (s : CalibrationSet) (dir : Path) (h : Host) {ps : List Path}
    (hw : ((s.writeRawDir dir).run h).run.1 = .ok ps) (i : Nat) (hi : i < s.samples.length) :
    let h' := ((s.writeRawDir dir).run h).run.2
    h'.fs.read h'.cwd (dir / sampleName i) = .ok (Bytes.ofSingles s.samples[i]) := by
  intro h'
  simp only [h']
  unfold writeRawDir at hw ⊢
  rw [StateT.run_bind, Id.run_bind, createDirAll_run] at hw ⊢
  cases hc : h.fs.createDirAll h.cwd dir with
  | error e => rw [hc] at hw; cases hw
  | ok t₀ =>
    rw [hc] at hw
    dsimp only at hw ⊢
    rw [StateT.run_bind, Id.run_bind] at hw ⊢
    split at hw
    · cases hw
    rename_i ps' hloop
    -- the samples land below where the directory resolves
    have hd : dir.text = "" ∨ ∃ l b, t₀.resolve h.cwd dir = .ok (l, b) ∧ t₀.get? l = some .dir := by
      by_cases he : dir.text = ""
      · exact .inl he
      · exact .inr (FileTree.dir_of_createDirAll hc he)
    obtain ⟨base, hbase⟩ := exists_base_of_dir hd
    have hres := fun t ht i => hbase t ht (sampleName i) (plainName_sampleName i)
    have key := foldlM_writes ?herr ?hok hres s.samples 0 (.ok []) { h with fs := t₀ } ps' rfl
      (fun _ hl => hl) hloop
    · obtain ⟨hcwd, hdirs, hfiles, -⟩ := key
      have hfile := hfiles i hi
      rw [Nat.zero_add] at hfile
      -- logging the count leaves the tree and the working directory of the loop
      convert FileTree.read_of_resolve (hres _ hdirs i) hfile using 2
      · rfl
      · exact hcwd
    · -- a step on an error passes it on
      intro e x h
      rfl
    · -- a step that succeeds wrote its sample
      intro ps s i h r h' hr
      dsimp only at hr
      rw [StateT.run_bind, Id.run_bind, writeBytes_run] at hr
      cases hwr : h.fs.write h.cwd (dir / sampleName i) (Bytes.ofSingles s) with
      | error e => rw [hwr] at hr; cases hr
      | ok t =>
        rw [hwr] at hr
        cases hr
        exact ⟨rfl, rfl⟩

end CalibrationSet

end EdgePack

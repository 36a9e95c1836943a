import Mathlib
import EdgePack.Archive.Builder
import EdgePack.Proofs.Host.Tree
import EdgePack.Proofs.Host.Run
import EdgePack.Proofs.Archive.Zip

/-!
# Failed builds leave no trace

A package is built in steps: checks that only read (the name, the required
files, the optional ones), the output directory made, a staging area acquired
and filled, and the ZIP file written under a temporary name and moved into
place. Whatever step fails, the build undoes what it wrote, so a failed build
leaves the tree as it found it but for the output directory and its missing
ancestors (`build_error_frame`).

Undoing is scratch space in the sense of `FileTree.Scratch`: the staging
directory and the temporary file are fresh locations, everything written
during the build lies under one of them, and both are erased on every path
that fails.

* `StagingTree`: the tree while a staging area is in use;
* `PendingTree`: the tree while the package is written under its temporary
  name;
* `commit_cases`: a failed commit leaves the host as it found it.
-/

namespace EdgePack

open FileTree

/-- The failures met before anything is written: a bad package name and a
    missing required file. -/
def ArchiveError.IsPreflight : ArchiveError → Prop
  | .invalidName _ => True
  | .missingArtifact _ => True
  | _ => False

/-- The failures of the file system and of the ZIP writer. -/
def ArchiveError.IsIo : ArchiveError → Prop
  | .io _ _ => True
  | .zip _ => True
  | _ => False

theorem ArchiveError.IsIo.not_preflight {e : ArchiveError} (h : e.IsIo) : ¬ e.IsPreflight := by
  cases e <;> simp_all [IsIo, IsPreflight]

/-! ## Checks that only read -/

theorem firstMissing_run (ps : List Path) (h : Host) :
    ((firstMissing ps).run h).run = (ps.find? fun p => !h.fs.isFileAt h.cwd p, h) := by
  induction ps with
  | nil => rfl
  | cons p ps ih =>
    by_cases hp : h.fs.isFileAt h.cwd p = true
    · simp [firstMissing, Host.isFile, Host.query, hp, ih]
    · simp [firstMissing, Host.isFile, Host.query, hp]

theorem presentFiles_run (os : List Path) (h : Host) :
    ∃ o, ((presentFiles os).run h).run = (os.filter (h.fs.isFileAt h.cwd ·), { h with out := o }) := by
  induction os generalizing h with
  | nil => exact ⟨h.out, rfl⟩
  | cons p os ih =>
    by_cases hp : h.fs.isFileAt h.cwd p = true
    · obtain ⟨o, ho⟩ := ih h
      exact ⟨o, by simp [presentFiles, Host.isFile, Host.query, hp, ho]⟩
    · -- a missing optional file is only warned about
      obtain ⟨o, ho⟩ := ih { h with out := h.out.push (.event ⟨.warn, "kfpkg::builder",
        s!"optional file {p.text} not found, skipping"⟩) }
      exact ⟨o, by simp [presentFiles, Host.isFile, Host.query, hp, Host.log, ho]⟩

/-- A member the ZIP library takes in with the options of a package. -/
def ZipFormat.Takes (z : ZipFormat) (c : String × ByteArray) : Prop :=
  z.refuseName memberOptions c.1 = none ∧ z.refuseBytes memberOptions c.2 = none

/-- A refused member fails the build as a failure of the file system or of the
    ZIP library. -/
theorem refusalError_isIo (f : StagedFile) (r : Zip.Refusal) : (refusalError f r).IsIo := by
  cases r <;> trivial

/-- Reading the staged files changes nothing. -/
theorem readOnly_stagedContents (z : ZipFormat) :
    ∀ fs : List StagedFile, Host.ReadOnly (stagedContents z fs)
  | [] => .pure _
  | f :: fs => by
    unfold stagedContents
    cases z.refuseName memberOptions f.name with
    | some r => exact .pure _
    | none =>
      refine .bind (Host.readOnly_readBytes _) fun r => ?_
      cases r with
      | error e => exact .pure _
      | ok d =>
        dsimp only
        cases z.refuseBytes memberOptions d with
        | some r => exact .pure _
        | none => exact .bind (readOnly_stagedContents z fs) fun r => by cases r <;> exact .pure _

/-- Reading the staged files fails only as a failed read or as a file the
    library refuses. -/
theorem stagedContents_error (z : ZipFormat) (h : Host) :
    ∀ (fs : List StagedFile) {e : ArchiveError}, ((stagedContents z fs).run h).run.1 = .error e → e.IsIo
  | [], e, he => by cases he
  | f :: fs, e, he => by
    unfold stagedContents at he
    cases hn : z.refuseName memberOptions f.name with
    | some r =>
      simp only [hn, StateT.run_pure, Id.run_pure, Except.error.injEq] at he
      subst he
      exact refusalError_isIo f r
    | none =>
      simp only [hn, StateT.run_bind, Id.run_bind, Host.readBytes, Host.query, StateT.run_get,
        StateT.run_pure, Id.run_pure] at he
      cases hb : h.fs.read h.cwd f.path with
      | error e' =>
        simp only [hb] at he
        cases he
        trivial
      | ok d =>
        simp only [hb] at he
        cases hd : z.refuseBytes memberOptions d with
        | some r =>
          simp only [hd, StateT.run_pure, Id.run_pure, Except.error.injEq] at he
          subst he
          exact refusalError_isIo f r
        | none =>
          simp only [hd] at he
          rw [StateT.run_bind, Id.run_bind, (readOnly_stagedContents z fs).run_eq h] at he
          cases hr : ((stagedContents z fs).run h).run.1 with
          | error e' =>
            simp only [hr] at he
            cases he
            exact stagedContents_error z h fs hr
          | ok rest =>
            simp only [hr] at he
            cases he

/-- Read without failure, the staged files give their names and the bytes their
    copies read as, in order, each taken in by the library. -/
theorem stagedContents_ok (z : ZipFormat) (h : Host) :
    ∀ (fs : List StagedFile) {contents : List (String × ByteArray)},
    ((stagedContents z fs).run h).run.1 = .ok contents →
    List.Forall₂ (fun f c => c.1 = f.name ∧ h.fs.read h.cwd f.path = .ok c.2 ∧ z.Takes c)
      fs contents
  | [], contents, hc => by
    cases hc
    exact .nil
  | f :: fs, contents, hc => by
    unfold stagedContents at hc
    cases hn : z.refuseName memberOptions f.name with
    | some r => simp only [hn, StateT.run_pure, Id.run_pure, reduceCtorEq] at hc
    | none =>
      simp only [hn, StateT.run_bind, Id.run_bind, Host.readBytes, Host.query, StateT.run_get,
        StateT.run_pure, Id.run_pure] at hc
      cases hb : h.fs.read h.cwd f.path with
      | error e' =>
        simp only [hb] at hc
        cases hc
      | ok d =>
        simp only [hb] at hc
        cases hd : z.refuseBytes memberOptions d with
        | some r => simp only [hd, StateT.run_pure, Id.run_pure, reduceCtorEq] at hc
        | none =>
          simp only [hd] at hc
          rw [StateT.run_bind, Id.run_bind, (readOnly_stagedContents z fs).run_eq h] at hc
          cases hr : ((stagedContents z fs).run h).run.1 with
          | error e' =>
            simp only [hr] at hc
            cases hc
          | ok rest =>
            simp only [hr] at hc
            cases hc
            exact .cons ⟨rfl, hb, hn, hd⟩ (stagedContents_ok z h fs hr)

/-! ## The staging area -/

/-- The tree while a staging area is in use: well formed, and scratch space
    over `base` rooted at the staging directory `L`, which stands, which the
    area's path `dir` resolves to, where nothing stood in `base`, and which
    holds no directory. -/
structure StagingTree (cwd : Loc) (base : FileTree) (L : Loc) (dir : Path) (t : FileTree) :
    Prop where
  wellFormed : t.WellFormed
  scratch : Scratch base [L] t
  isDir : t.get? L = some .dir
  resolves : ∃ b, t.resolve cwd dir = .ok (L, b)
  fresh : base.get? L = none
  flat : ∀ n, t.get? (L ++ [n]) ≠ some .dir

variable {cwd L : Loc} {base t t' : FileTree} {dir : Path}

/-- Acquiring a staging area makes one fresh directory, or fails and changes
    nothing. -/
theorem acquire_cases (parent : Path) (h : Host) (hwf : h.fs.WellFormed) :
    (∃ c, ((StagingArea.acquire parent).run h).run = (.error (.io parent.text c), h)) ∨
    ∃ area L o, ((StagingArea.acquire parent).run h).run =
        (.ok area, { h with fs := h.fs.put L .dir, out := o }) ∧
      area.files = [] ∧ StagingTree h.cwd h.fs L area.dir (h.fs.put L .dir) := by
  -- the name is chosen by reading alone
  obtain ⟨a, ha⟩ : ∃ a, ((Host.absolute parent).run h).run = (a, h) :=
    ⟨_, (Host.readOnly_absolute parent).run_eq h⟩
  obtain ⟨dir, hdir⟩ : ∃ dir,
      ((Host.freshName a StagingArea.prefixText "").run h).run = (dir, h) :=
    ⟨_, (Host.readOnly_freshName _ _ _).run_eq h⟩
  unfold StagingArea.acquire
  simp only [StateT.run_bind, Id.run_bind, ha, hdir, Host.createDir_run]
  cases hc : h.fs.createDir h.cwd dir with
  | error e => exact .inl ⟨_, rfl⟩
  | ok t =>
    obtain ⟨L, b, hr, hL, hnone, hpar, rfl⟩ := createDir_eq_ok hc
    have hdirs := get?_put_dir (t := h.fs) (e := .dir) hL (by simp [hnone])
    -- nothing stood below the fresh directory
    have hflat : ∀ n, (h.fs.put L .dir).get? (L ++ [n]) ≠ some .dir := by
      intro n
      have hnone' : h.fs.get? (L ++ [n]) = none := (get?_eq_none_iff (by simp)).2
        fun x hx hxn => hwf.not_prefix_of_get?_eq_none hnone x hx (hxn ▸ List.prefix_append L [n])
      rw [get?_put hL, if_neg (by simp), hnone']
      simp
    refine .inr ⟨⟨dir, []⟩, L, _, rfl, rfl, hwf.put hL hpar fun _ => rfl,
      (Scratch.of_get?_eq_none hwf hnone).put ⟨L, List.mem_singleton_self L, List.prefix_refl L⟩,
      get?_put_self hL, ⟨b, resolve_of_dirs hdirs hr⟩, hnone, hflat⟩

/-- The member name of a source is a plain name. -/
theorem plainName_of_memberName? {src : Path} {name : String}
    (h : StagingArea.memberName? src = some name) : Path.PlainName name := by
  unfold StagingArea.memberName? at h
  split at h
  · rename_i n hn
    split at h
    · cases h
    · cases h
      exact Path.PlainName.of_fileName? hn
  · cases h

/-- Staging one source copies it into the area under its member name, or fails
    and changes nothing. -/
theorem stage_cases (s : StagingArea) (src : Path) (h : Host) :
    (∃ e, ((s.stage src).run h).run = (.error e, h) ∧ ¬ e.IsPreflight) ∨
    ∃ name t n o, ((s.stage src).run h).run =
        (.ok { s with files := s.files ++ [⟨name, s.dir / name, src⟩] },
          { h with fs := t, out := o }) ∧
      StagingArea.memberName? src = some name ∧ s.files.any (·.name == name) = false ∧
      h.fs.copy h.cwd src (s.dir / name) = .ok (t, n) := by
  unfold StagingArea.stage
  cases hm : StagingArea.memberName? src with
  | none => exact .inl ⟨_, rfl, id⟩
  | some name =>
    by_cases hdup : s.files.any (·.name == name) = true
    · exact .inl ⟨.duplicateMember name, by simp [hdup], id⟩
    · simp only [Bool.not_eq_true] at hdup
      simp only [hdup, Bool.false_eq_true, if_false, StateT.run_bind, Id.run_bind,
        Host.copyFile_run]
      cases hc : h.fs.copy h.cwd src (s.dir / name) with
      | error e => exact .inl ⟨_, rfl, id⟩
      | ok r =>
        obtain ⟨t, n⟩ := r
        exact .inr ⟨name, t, n, _, rfl, rfl, hdup, hc⟩

/-- The staging check for a taken name: some file of the area has it exactly
    when it is among the area's names. -/
theorem StagingArea.any_name_iff {s : StagingArea} {name : String} :
    s.files.any (·.name == name) = true ↔ name ∈ s.names := by
  simp [StagingArea.names]

/-- A name no file of the area has is not among its names. -/
theorem StagingArea.not_mem_names {s : StagingArea} {name : String}
    (hfresh : s.files.any (·.name == name) = false) : name ∉ s.names := fun hin => by
  rw [← StagingArea.any_name_iff, hfresh] at hin
  cases hin

/-- A file of the area stands, below any location, apart from a name the area
    does not have. -/
theorem StagingArea.append_name_ne {s : StagingArea} {name : String} (hnotin : name ∉ s.names)
    {f : StagedFile} (hf : f ∈ s.files) (L : Loc) : L ++ [f.name] ≠ L ++ [name] := by
  intro heq
  rw [List.append_cancel_left_eq, List.singleton_inj] at heq
  exact hnotin (heq ▸ List.mem_map_of_mem hf)

/-- A file added to the area adds its name after the others. -/
theorem StagingArea.names_append (s : StagingArea) (f : StagedFile) :
    ({ s with files := s.files ++ [f] } : StagingArea).names = s.names ++ [f.name] := by
  simp [StagingArea.names]

/-- A fresh area has no names. -/
theorem StagingArea.names_eq_nil {s : StagingArea} (h : s.files = []) : s.names = [] := by
  rw [StagingArea.names, h, List.map_nil]

/-- A file added under a name no file of the area has keeps the names distinct. -/
theorem StagingArea.nodup_names_append {s : StagingArea} {name : String} (hs : s.names.Nodup)
    (hfresh : s.files.any (·.name == name) = false) (path origin : Path) :
    ({ s with files := s.files ++ [⟨name, path, origin⟩] } : StagingArea).names.Nodup := by
  simp only [StagingArea.names, List.map_append, List.map_cons, List.map_nil]
  exact hs.append (List.nodup_singleton _) (List.disjoint_singleton.2 (StagingArea.not_mem_names hfresh))

/-- A copy into the staging directory under a plain name writes the source's
    bytes one level below the directory, where no directory stands. -/
theorem StagingTree.copy_eq (hst : StagingTree cwd base L dir t) {name : String}
    (hs : Path.PlainName name) {src : Path} {n : Nat}
    (hc : t.copy cwd src (dir / name) = .ok (t', n)) :
    ∃ d, t.read cwd src = .ok d ∧ t.write cwd (dir / name) d = .ok t' ∧
      t.get? (L ++ [name]) ≠ some .dir ∧ t' = t.put (L ++ [name]) (.file d) := by
  obtain ⟨d, hread, hw, -⟩ := copy_eq_ok hc
  obtain ⟨D, b', hr, -, hnd, -, rfl⟩ := write_eq_ok hw
  obtain ⟨b, hdir⟩ := hst.resolves
  rw [resolve_join_name hs hdir hst.isDir] at hr
  cases hr
  exact ⟨d, hread, hw, hnd, rfl⟩

/-- A copy into the staging area lands one level below its directory, under
    the root of the scratch space. -/
theorem StagingTree.copy (hst : StagingTree cwd base L dir t) {name : String}
    (hs : Path.PlainName name) {src : Path} {n : Nat}
    (hc : t.copy cwd src (dir / name) = .ok (t', n)) : StagingTree cwd base L dir t' := by
  obtain ⟨d, -, hw, hnd, rfl⟩ := hst.copy_eq hs hc
  obtain ⟨b, hdir⟩ := hst.resolves
  have hdirs := get?_put_dir (e := .file d) (by simp) hnd
  refine ⟨hst.wellFormed.write hw,
    hst.scratch.put ⟨L, List.mem_singleton_self L, List.prefix_append L [name]⟩,
    hdirs L hst.isDir, ⟨b, resolve_of_dirs hdirs hdir⟩, hst.fresh, fun m => ?_⟩
  rw [get?_put (by simp)]
  split
  · simp
  · exact hst.flat m

/-- A source reads in the staging tree as it reads in the base. -/
theorem StagingTree.read_base (hst : StagingTree cwd base L dir t) {src : Path} {d : ByteArray}
    (hd : base.read cwd src = .ok d) : t.read cwd src = .ok d :=
  read_of_dirs (fun l hl => hst.scratch.get?_dir hl) hd
    (fun l hl => by rw [hst.scratch.get?_eq (by simp [hl]), hl])

/-- A source that reads is copied into the staging directory under any plain
    name: no directory stands there to refuse it. -/
theorem StagingTree.copy_ok (hst : StagingTree cwd base L dir t) {name : String}
    (hs : Path.PlainName name) {src : Path} {d : ByteArray} (hd : t.read cwd src = .ok d) :
    t.copy cwd src (dir / name) = .ok (t.put (L ++ [name]) (.file d), d.size) := by
  obtain ⟨b, hdir⟩ := hst.resolves
  refine copy_of_read hd (write_of_resolve (resolve_join_name hs hdir hst.isDir) (by simp)
    (hst.flat name) ?_)
  rw [List.dropLast_concat]
  exact hst.isDir

/-- The staging directory lies above no directory of the base, as nothing stood
    where it was made. -/
theorem StagingTree.not_prefix (hst : StagingTree cwd base L dir t) (hbase : base.WellFormed)
    {D : Loc} (hD : base.get? D = some .dir) : ¬ L <+: D := by
  intro hpre
  by_cases hLD : L = D
  · rw [← hLD, hst.fresh] at hD
    cases hD
  · have := hbase.get?_above (by simp [hD]) hpre hLD
    rw [hst.fresh] at this
    cases this

/-- Staging sources keeps the staging tree; a failure is never one of the checks
    made before writing. -/
theorem stageAll_staging (ps : List Path) : ∀ (s : StagingArea) (h : Host),
    StagingTree h.cwd base L s.dir h.fs →
    ∃ s' f t o, ((s.stageAll ps).run h).run = ((s', f), { h with fs := t, out := o }) ∧
      s'.dir = s.dir ∧ StagingTree h.cwd base L s.dir t ∧ ∀ e, f = some e → ¬ e.IsPreflight := by
  induction ps with
  | nil =>
    intro s h hst
    exact ⟨s, none, h.fs, h.out, rfl, rfl, hst, by simp⟩
  | cons p ps ih =>
    intro s h hst
    unfold StagingArea.stageAll
    rw [StateT.run_bind, Id.run_bind]
    rcases stage_cases s p h with ⟨e, hrun, he⟩ | ⟨name, t, n, o, hrun, hname, -, hc⟩
    · rw [hrun]
      exact ⟨s, some e, h.fs, h.out, rfl, rfl, hst, fun e' he' => by cases he'; exact he⟩
    · rw [hrun]
      -- the rest is staged from the area with one more file
      obtain ⟨s', f, t', o', hrun', hdir', hst', hf⟩ :=
        ih { s with files := s.files ++ [⟨name, s.dir / name, p⟩] } { h with fs := t, out := o }
          (hst.copy (plainName_of_memberName? hname) hc)
      exact ⟨s', f, t', o', hrun', hdir', hst', hf⟩

/-- Releasing a staging area erases what stands at its directory. -/
theorem release_erase (s : StagingArea) (h : Host) {b : Bool}
    (hr : h.fs.resolve h.cwd s.dir = .ok (L, b)) (hL : h.fs.get? L = some .dir) :
    ∃ o, (s.release.run h).run = ((), { h with fs := h.fs.erase L, out := o }) := by
  unfold StagingArea.release
  simp only [StateT.run_bind, Id.run_bind, Host.log_run, Host.removeAll_run,
    removeAll_of_resolve hr (by simp [hL])]
  exact ⟨_, rfl⟩

/-- Releasing the staging area erases its directory, which leaves the base. -/
theorem release_run (s : StagingArea) (h : Host) (hst : StagingTree h.cwd base L s.dir h.fs) :
    ∃ o, (s.release.run h).run = ((), { h with fs := base, out := o }) := by
  obtain ⟨b, hr⟩ := hst.resolves
  have hbase := hst.scratch.erase (List.mem_singleton_self L)
  rw [List.erase_cons_head] at hbase
  rw [← hbase.eq_base]
  exact release_erase s h hr hst.isDir

/-! ## Writing the package -/

/-- The tree while the package is written under its temporary path `pending`,
    at `P`: well formed, and scratch space over `base` rooted at `P`, where a
    file stands. -/
structure PendingTree (cwd : Loc) (base : FileTree) (P : Loc) (pending : Path) (t : FileTree) :
    Prop where
  wellFormed : t.WellFormed
  scratch : Scratch base [P] t
  isFile : ∃ d, t.get? P = some (.file d)
  resolves : t.resolve cwd pending = .ok (P, false)

variable {P : Loc} {pending : Path}

/-- The temporary file, created where nothing stood. -/
theorem pendingTree_createFile (hwf : t.WellFormed) (hc : t.createFile cwd pending = .ok t') :
    ∃ P, PendingTree cwd t P pending t' := by
  obtain ⟨P, hr, hP, hnone, hpar, rfl⟩ := createFile_eq_ok hc
  have hdirs := get?_put_dir (t := t) (e := .file .empty) hP (by simp [hnone])
  exact ⟨P, hwf.createFile hc,
    (Scratch.of_get?_eq_none hwf hnone).put ⟨P, List.mem_singleton_self P, List.prefix_refl P⟩,
    ⟨_, get?_put_self hP⟩, resolve_of_dirs hdirs hr⟩

/-- Writing the temporary file again keeps the pending tree. -/
theorem PendingTree.write (hpt : PendingTree cwd base P pending t) {d : ByteArray}
    (hw : t.write cwd pending d = .ok t') : PendingTree cwd base P pending t' := by
  obtain ⟨D, b, hr, hD, hnd, -, rfl⟩ := write_eq_ok hw
  have hDP : D = P := by
    rw [hpt.resolves] at hr
    cases hr
    rfl
  subst hDP
  have hdirs := get?_put_dir (e := .file d) hD hnd
  exact ⟨hpt.wellFormed.write hw,
    hpt.scratch.put ⟨D, List.mem_singleton_self D, List.prefix_refl D⟩,
    ⟨d, get?_put_self hD⟩, resolve_of_dirs hdirs hpt.resolves⟩

/-- Removing the temporary file gives the base back. -/
theorem PendingTree.removeFile (hpt : PendingTree cwd base P pending t) :
    t.removeFile cwd pending = .ok base := by
  obtain ⟨d, hd⟩ := hpt.isFile
  rw [removeFile_of_resolve hpt.resolves hd]
  have := hpt.scratch.erase (List.mem_singleton_self P)
  rw [List.erase_cons_head] at this
  rw [this.eq_base]

/-- A commit writes the package under a temporary name and moves it into place.
    When it fails, it removes the temporary file, leaving the host as it found
    it; once the move is made, it does not fail, and the package is the ZIP file
    of the staged files, at the path the target resolves to, with every
    directory kept. -/
theorem commit_cases (z : ZipFormat) (area : StagingArea) (target : Path) (h : Host)
    (hwf : h.fs.WellFormed) (htarget : target.text.endsWith "/" = false) :
    (∃ e, ((commit z area target).run h).run = (.error e, h) ∧ e.IsIo) ∨
    ∃ pkg t contents, ((commit z area target).run h).run = (.ok pkg, { h with fs := t }) ∧
      pkg = ⟨target, area.names, (z.write memberOptions contents).size⟩ ∧
      List.Forall₂ (fun f c => c.1 = f.name ∧ (∀ d, h.fs.read h.cwd f.path = .ok d → c.2 = d) ∧
        z.Takes c) area.files contents ∧
      (z.write memberOptions contents).size ≤ maxFileSize ∧
      (∀ l, h.fs.get? l = some .dir → t.get? l = some .dir) ∧
      ∀ T b, h.fs.resolve h.cwd target = .ok (T, b) →
        h.fs.get? T ≠ some .dir ∧ t.get? T = some (.file (z.write memberOptions contents)) := by
  -- the temporary name is chosen by reading alone
  obtain ⟨a, ha⟩ : ∃ a, ((Host.absolute (target.parent?.getD ⟨"."⟩)).run h).run = (a, h) :=
    ⟨_, (Host.readOnly_absolute _).run_eq h⟩
  obtain ⟨pending, hp⟩ : ∃ pending,
      ((Host.freshName a ".kfpkg-" ".partial").run h).run = (pending, h) :=
    ⟨_, (Host.readOnly_freshName _ _ _).run_eq h⟩
  unfold commit
  simp only [StateT.run_bind, Id.run_bind, ha, hp, Host.createFile_run]
  cases hc : h.fs.createFile h.cwd pending with
  | error e => exact .inl ⟨_, rfl, trivial⟩
  | ok t₁ =>
    obtain ⟨P, hpt₁⟩ := pendingTree_createFile hwf hc
    -- every failure from here on removes the temporary file
    have hdiscard : ∀ t, PendingTree h.cwd h.fs P pending t →
        ((Host.removeFile pending).run { h with fs := t }).run = (.ok (), h) := by
      intro t hpt
      rw [Host.removeFile_run]
      simp only [hpt.removeFile]
    obtain ⟨r, hr⟩ : ∃ r, ((stagedContents z area.files).run { h with fs := t₁ }).run =
        (r, { h with fs := t₁ }) := ⟨_, (readOnly_stagedContents z area.files).run_eq _⟩
    simp only [StateT.run_bind, Id.run_bind, hr]
    cases r with
    | error err =>
      refine .inl ⟨err, ?_, stagedContents_error z _ _ (by rw [hr])⟩
      simp only [StateT.run_bind, Id.run_bind, hdiscard t₁ hpt₁]
      rfl
    | ok contents =>
      by_cases hbig : (z.write memberOptions contents).size > maxFileSize
      · refine .inl ⟨.zip (.io .fileTooLarge), ?_, trivial⟩
        simp only [hbig, if_true, StateT.run_bind, Id.run_bind, hdiscard t₁ hpt₁]
        rfl
      simp only [hbig, if_false, StateT.run_bind, Id.run_bind, Host.writeBytes_run]
      cases hw : t₁.write h.cwd pending (z.write memberOptions contents) with
      | error e =>
        refine .inl ⟨.zip (.io e), ?_, trivial⟩
        simp only [StateT.run_bind, Id.run_bind, hdiscard t₁ hpt₁]
        rfl
      | ok t₂ =>
        have hpt₂ := hpt₁.write hw
        simp only [StateT.run_bind, Id.run_bind, Host.rename_run]
        cases hrn : t₂.rename h.cwd pending target with
        | error e =>
          refine .inl ⟨.io target.text e, ?_, trivial⟩
          simp only [StateT.run_bind, Id.run_bind, hdiscard t₂ hpt₂]
          rfl
        | ok t₃ =>
          -- the temporary file holds the package, and the move puts it at the target
          have hP : t₂.get? P = some (.file (z.write memberOptions contents)) := by
            obtain ⟨D, b, hD, hD0, -, -, rfl⟩ := write_eq_ok hw
            rw [hpt₁.resolves] at hD
            cases hD
            exact get?_put_self hD0
          obtain ⟨ls, _, d', hs, hls, hread⟩ := read_of_rename hpt₂.wellFormed hrn htarget
          rw [hpt₂.resolves] at hs
          cases hs
          rw [hP] at hls
          cases hls
          have hdirs : ∀ l, h.fs.get? l = some .dir → t₂.get? l = some .dir :=
            fun l hl => hpt₂.scratch.get?_dir hl
          refine .inr ⟨⟨target, area.names, (z.write memberOptions contents).size⟩, t₃, contents,
            by simp [Host.readBytes, Host.query, hread], rfl, ?_, Nat.le_of_not_gt hbig,
            fun l hl => hpt₂.wellFormed.get?_rename hrn l (hdirs l hl), fun T b hT => ?_⟩
          · -- the staged files read in the tree with the temporary file as in the host
            refine (stagedContents_ok z { h with fs := t₁ } area.files (by rw [hr])).imp ?_
            rintro f c ⟨hname, hc, hfit⟩
            refine ⟨hname, fun d hd => ?_, hfit⟩
            have := read_of_dirs (fun l hl => hpt₁.scratch.get?_dir hl) hd
              (fun l hl => by rw [hpt₁.scratch.get?_eq (by simp [hl]), hl])
            rw [hc] at this
            exact Except.ok.inj this
          · -- the target resolves as in the host, and the move leaves a file there
            obtain ⟨ls, _, ld, _, d, hs, hd, hls, hld, -, rfl⟩ := rename_eq_ok hrn
            rw [hpt₂.resolves] at hs
            cases hs
            rw [hP] at hls
            cases hls
            rw [resolve_of_dirs hdirs hT] at hd
            cases hd
            exact ⟨fun hdir => hld (hdirs _ hdir), get?_put_self fun h0 => hld (h0 ▸ get?_nil t₂)⟩

/-- A package path ends with its extension, never with a separator. -/
theorem packagePath_endsWith (b : Packager) (name : String) :
    (b.packagePath name).text.endsWith "/" = false := by
  have hend : ∃ pre : List Char, (b.packagePath name).text.toList = pre ++ ['g'] := by
    unfold Packager.packagePath
    show ∃ pre, (Path.join b.outputDir ⟨name ++ ".kfpkg"⟩).text.toList = _
    unfold Path.join
    split
    · exact ⟨(name ++ ".kfpk").toList, by simp⟩
    · split
      · exact ⟨(b.outputDir.text ++ name ++ ".kfpk").toList, by simp⟩
      · exact ⟨(b.outputDir.text ++ "/" ++ name ++ ".kfpk").toList, by simp⟩
  obtain ⟨pre, hpre⟩ := hend
  rw [Bool.eq_false_iff, ne_eq, Path.endsWith_separator_iff, hpre,
    List.singleton_suffix_iff_getLast?_eq_some]
  simp

/-- Staging and committing from a staging tree over `base`: when it fails, the
    tree is `base` again, and the failure is none of the checks made before
    writing. -/
theorem stageAndCommit_error (b : Packager) (name : String) (area : StagingArea)
    (ps : List Path) (h : Host) (hst : StagingTree h.cwd base L area.dir h.fs) {e : ArchiveError}
    (he : ((b.stageAndCommit name area ps).run h).run.1 = .error e) :
    ((b.stageAndCommit name area ps).run h).run.2.fs = base ∧ ¬ e.IsPreflight := by
  obtain ⟨s', f, t, o, hrun, hdir, hst', hf⟩ := stageAll_staging ps area h hst
  rw [← hdir] at hst'
  unfold Packager.stageAndCommit at he ⊢
  simp only [StateT.run_bind, Id.run_bind, hrun] at he ⊢
  -- the staging area is released after a failed stage and after a failed commit
  obtain ⟨o', hrel⟩ := release_run s' { h with fs := t, out := o } hst'
  cases f with
  | some e' =>
    simp only [StateT.run_bind, Id.run_bind, hrel, StateT.run_pure, Id.run_pure,
      Except.error.injEq] at he ⊢
    subst he
    exact ⟨trivial, hf e' rfl⟩
  | none =>
    rcases commit_cases b.format s' (b.packagePath name) { h with fs := t, out := o } hst'.wellFormed
      (packagePath_endsWith b name) with ⟨e', hc, he'⟩ | ⟨pkg, t', -, hc, -⟩
    · simp only [StateT.run_bind, Id.run_bind, hc, hrel, StateT.run_pure, Id.run_pure,
        Except.error.injEq] at he ⊢
      subst he
      exact ⟨trivial, he'.not_preflight⟩
    · -- a commit that succeeds makes the whole step succeed
      simp [StateT.run_bind, Id.run_bind, hc] at he

/-! ## The build -/

/-- A failed build fails at its name, at the first required file that is
    missing, or past the checks made before writing. At the first two the tree
    is as it was; past them it is as it was or as making the output directory
    left it. -/
theorem build_error_cases (b : Packager) (name : String) (required optional : List Path)
    (h : Host) (hwf : h.fs.WellFormed) {e : ArchiveError}
    (he : ((b.build name required optional).run h).run.1 = .error e) :
    let t := ((b.build name required optional).run h).run.2.fs
    (validPackageName name = false ∧ e = .invalidName name ∧ t = h.fs) ∨
    (validPackageName name = true ∧ (∃ p, required.find? (fun p => !h.fs.isFileAt h.cwd p) = some p ∧
      e = .missingArtifact p.text) ∧ t = h.fs) ∨
    (validPackageName name = true ∧ required.find? (fun p => !h.fs.isFileAt h.cwd p) = none ∧
      ¬ e.IsPreflight ∧ (t = h.fs ∨ h.fs.createDirAll h.cwd b.outputDir = .ok t)) := by
  intro t
  by_cases hv : validPackageName name = true
  · cases hm : List.find? (fun p => !h.fs.isFileAt h.cwd p) required with
    | some p =>
      -- a missing required file is refused before anything is written
      have hrun : ((b.build name required optional).run h).run =
          (.error (.missingArtifact p.text), h) := by
        simp [Packager.build, hv, firstMissing_run, hm]
      rw [hrun] at he
      cases he
      exact .inr (.inl ⟨hv, ⟨p, rfl, rfl⟩, by simp only [t, hrun]⟩)
    | none =>
      refine .inr (.inr ⟨hv, rfl, ?_⟩)
      unfold t
      unfold Packager.build at he ⊢
      obtain ⟨o, hpf⟩ := presentFiles_run optional h
      simp only [hv, Bool.not_true, Bool.false_eq_true, if_false, StateT.run_bind, Id.run_bind,
        firstMissing_run, hm, hpf, Host.createDirAll_run] at he ⊢
      cases hcd : h.fs.createDirAll h.cwd b.outputDir with
      | error ec =>
        simp only [hcd, StateT.run_pure, Id.run_pure, Except.error.injEq] at he ⊢
        subst he
        exact ⟨id, .inl trivial⟩
      | ok t₁ =>
        have hwf₁ : t₁.WellFormed := (dirsAdded_createDirAll hcd).1 hwf
        simp only [hcd, StateT.run_bind, Id.run_bind] at he ⊢
        rcases acquire_cases b.outputDir { h with fs := t₁, out := o } hwf₁ with
          ⟨c, hac⟩ | ⟨area, L, o', hac, -, hst⟩
        · simp only [hac, StateT.run_pure, Id.run_pure, Except.error.injEq] at he ⊢
          subst he
          exact ⟨id, .inr trivial⟩
        · simp only [hac] at he ⊢
          -- from here on, whatever fails is undone back to the output directory
          obtain ⟨hfs, hpre⟩ := stageAndCommit_error b name area _ _ hst he
          exact ⟨hpre, .inr (by rw [hfs])⟩
  · have hrun : ((b.build name required optional).run h).run = (.error (.invalidName name), h) := by
      simp [Packager.build, hv]
    rw [hrun] at he
    cases he
    exact .inl ⟨by simpa using hv, rfl, by simp only [t, hrun]⟩

/-- A failed build leaves the tree as it found it, but for the output directory
    and its missing ancestors. When the name or a required file is refused, not
    even the output directory is made; otherwise the tree is as it was or as
    making the output directory left it. Either way every regular file holds
    what it held and no other stands: nothing staged or written under a
    temporary name remains, and an earlier package of the same name is
    untouched. -/
theorem build_error_frame (b : Packager) (name : String) (required optional : List Path)
    (h : Host) (hwf : h.fs.WellFormed) {e : ArchiveError}
    (he : ((b.build name required optional).run h).run.1 = .error e) :
    let t := ((b.build name required optional).run h).run.2.fs
    (((∃ n, e = .invalidName n) ∨ (∃ p, e = .missingArtifact p)) → t = h.fs) ∧
    (t = h.fs ∨ h.fs.createDirAll h.cwd b.outputDir = .ok t) ∧
    ∀ l d, t.get? l = some (.file d) ↔ h.fs.get? l = some (.file d) := by
  intro t
  have hpre : ((∃ n, e = .invalidName n) ∨ (∃ p, e = .missingArtifact p)) → e.IsPreflight := by
    rintro (⟨n, rfl⟩ | ⟨p, rfl⟩) <;> trivial
  -- making the output directory changes no regular file
  have hfiles : (t = h.fs ∨ h.fs.createDirAll h.cwd b.outputDir = .ok t) →
      ∀ l d, t.get? l = some (.file d) ↔ h.fs.get? l = some (.file d) := by
    rintro (heq | hcd) l d
    · rw [heq]
    · exact (dirsAdded_createDirAll hcd).2.1 l d
  rcases build_error_cases b name required optional h hwf he with
    ⟨-, -, hfs⟩ | ⟨-, -, hfs⟩ | ⟨-, -, hp, hfs⟩
  · exact ⟨fun _ => hfs, .inl hfs, hfiles (.inl hfs)⟩
  · exact ⟨fun _ => hfs, .inl hfs, hfiles (.inl hfs)⟩
  · exact ⟨fun hn => absurd (hpre hn) hp, hfs, hfiles hfs⟩

/-- Two sources with one file name, beside a package of the same name built
    before: the output directory stands and the staging area is acquired. -/
def duplicateHost : Host where
  fs := ⟨[(["a"], .dir), (["a", "m.bin"], .file ⟨#[1]⟩), (["b"], .dir),
    (["b", "m.bin"], .file ⟨#[2]⟩), (["out"], .dir), (["out", "pkg.kfpkg"], .file ⟨#[7]⟩)]⟩

/-- Staging refuses the second source as a duplicate, once the first is copied
    into the staging area; the build leaves no trace, and the package built
    before keeps its bytes. -/
theorem build_error_frame_duplicate :
    let b : Packager := { outputDir := ⟨"out"⟩ }
    let r := ((b.build "pkg" [⟨"a/m.bin"⟩, ⟨"b/m.bin"⟩] []).run duplicateHost).run
    duplicateHost.fs.WellFormed ∧ r.1 = .error (.duplicateMember "m.bin") ∧
      ((((∃ n, ArchiveError.duplicateMember "m.bin" = .invalidName n) ∨
          (∃ p, ArchiveError.duplicateMember "m.bin" = .missingArtifact p)) → r.2.fs = duplicateHost.fs) ∧
        (r.2.fs = duplicateHost.fs ∨ duplicateHost.fs.createDirAll duplicateHost.cwd b.outputDir = .ok r.2.fs) ∧
        ∀ l d, r.2.fs.get? l = some (.file d) ↔ duplicateHost.fs.get? l = some (.file d)) ∧
      r.2.fs.get? ["out", "pkg.kfpkg"] = some (.file ⟨#[7]⟩) := by
  intro b r
  have hwf : duplicateHost.fs.WellFormed := by
    intro x hx
    simp only [duplicateHost, List.mem_cons, List.not_mem_nil, or_false] at hx
    rcases hx with rfl | rfl | rfl | rfl | rfl | rfl <;> rfl
  -- the run, evaluated: the duplicate is the failure
  have hdup : r.1 = .error (.duplicateMember "m.bin") := by
    have hname : (match r.1 with
        | .error (.duplicateMember n) => n == "m.bin"
        | _ => false) = true := by decide +kernel
    split at hname
    · rename_i n hr
      rw [hr, beq_iff_eq.1 hname]
    · cases hname
  have hframe := build_error_frame b "pkg" [⟨"a/m.bin"⟩, ⟨"b/m.bin"⟩] [] duplicateHost hwf hdup
  exact ⟨hwf, hdup, hframe, (hframe.2.2 _ _).2 rfl⟩

end EdgePack

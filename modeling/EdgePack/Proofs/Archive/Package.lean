import Mathlib
import EdgePack.Proofs.Archive.Build
import EdgePack.Proofs.Archive.Zip

/-!
# Built packages hold their sources

What a build gives, whichever way it goes (`build_outcome`). A name that is not
a plain file name is refused, and then the first required file that is not a
regular file; nothing is written before. Staging copies every source into the
staging area under its file name; a source without a file name, or with the
file name of an earlier one, stops it there. The ZIP file is written from the
staged copies and moved into place; releasing the staging area afterwards
leaves it alone, so the package on disk lists the file names of its sources in
order and holds their bytes, and loading it gives the package back.

* `StagedFrom`: the staged files hold, under their own names, the bytes of
  their sources;
* `stageAll_ok`, `stageAll_error`: staging every source, or stopping at the
  first one that has no usable name;
* `stageAndCommit_ok`: the package written from the staged sources stands at
  its path once the staging area is released;
* `BuildOutcome`: what a build gives, on each of its failures and on success.
-/

namespace EdgePack

open FileTree

/-! ## Member names -/

theorem memberName?_eq_some {src : Path} {n : String} :
    StagingArea.memberName? src = some n ↔ src.fileName = n ∧ n ≠ "" := by
  unfold StagingArea.memberName? Path.fileName
  cases src.fileName? with
  | none =>
    simp only [Option.getD_none, reduceCtorEq, false_iff, not_and, not_not]
    exact Eq.symm
  | some m =>
    by_cases hm : m = ""
    · subst hm
      simp
    · simp only [String.isEmpty_iff, hm, if_false, Option.some.injEq, Option.getD_some]
      exact ⟨fun h => ⟨h, h ▸ hm⟩, And.left⟩

theorem memberName?_eq_none {src : Path} :
    StagingArea.memberName? src = none ↔ src.fileName = "" := by
  rw [← not_iff_not, ← ne_eq, Option.ne_none_iff_exists']
  constructor
  · rintro ⟨n, hn⟩
    obtain ⟨rfl, hne⟩ := memberName?_eq_some.1 hn
    exact hne
  · intro hne
    exact ⟨_, memberName?_eq_some.2 ⟨rfl, hne⟩⟩

/-! ## Staging -/

section Staging

variable {cwd L : Loc} {base t t' : FileTree}

/-- The files of a staging area, each in the staging directory `L` under its own
    name, the file name of its source, holding the bytes the source reads as in
    `base`. -/
structure StagedFrom (cwd : Loc) (base : FileTree) (L : Loc) (s : StagingArea) (t : FileTree) :
    Prop where
  nodup : s.names.Nodup
  files : ∀ f ∈ s.files, f.path = s.dir / f.name ∧
    StagingArea.memberName? f.origin = some f.name ∧
    ∃ d, base.read cwd f.origin = .ok d ∧ t.get? (L ++ [f.name]) = some (.file d)

theorem StagedFrom.empty (dir : Path) (t : FileTree) : StagedFrom cwd base L ⟨dir, []⟩ t :=
  ⟨List.nodup_nil, fun _ hf => absurd hf List.not_mem_nil⟩

/-- Staging a source that reads in the base copies its bytes in under its name,
    and keeps the files staged before. -/
theorem StagedFrom.stage {s : StagingArea} (hst : StagingTree cwd base L s.dir t)
    (hsf : StagedFrom cwd base L s t) {src : Path} {name : String} {n : Nat}
    (hname : StagingArea.memberName? src = some name)
    (hfresh : s.files.any (·.name == name) = false) (hsrc : ∃ d, base.read cwd src = .ok d)
    (hc : t.copy cwd src (s.dir / name) = .ok (t', n)) :
    StagedFrom cwd base L { s with files := s.files ++ [⟨name, s.dir / name, src⟩] } t' := by
  obtain ⟨d₀, hd₀⟩ := hsrc
  obtain ⟨d, hread, -, -, rfl⟩ := hst.copy_eq (plainName_of_memberName? hname) hc
  -- the source reads in the staging tree as it does in the base
  have hd : d = d₀ := Except.ok.inj (hread.symm.trans (hst.read_base hd₀))
  subst hd
  have hL : L ++ [name] ≠ [] := by simp
  have hnotin := StagingArea.not_mem_names hfresh
  refine ⟨StagingArea.nodup_names_append hsf.nodup hfresh _ _, fun f hf => ?_⟩
  rcases List.mem_append.1 hf with hf | hf
  · -- a file staged before stands at another name
    obtain ⟨hpath, hn, d', hd', hget⟩ := hsf.files f hf
    exact ⟨hpath, hn, d', hd', by rw [get?_put hL, if_neg (StagingArea.append_name_ne hnotin hf L), hget]⟩
  · rw [List.mem_singleton] at hf
    subst hf
    exact ⟨rfl, hname, d, hd₀, get?_put_self hL⟩

/-- Staging sources that all read in the base, without failure: the area gains
    them in order, each staged from its source. -/
theorem stageAll_ok (ps : List Path) : ∀ (s : StagingArea) (h : Host),
    StagingTree h.cwd base L s.dir h.fs → StagedFrom h.cwd base L s h.fs →
    (∀ p ∈ ps, ∃ d, base.read h.cwd p = .ok d) →
    ((s.stageAll ps).run h).run.1.2 = none →
    ((s.stageAll ps).run h).run.1.1.dir = s.dir ∧
      ((s.stageAll ps).run h).run.1.1.files.map (·.origin) = s.files.map (·.origin) ++ ps ∧
      StagedFrom h.cwd base L ((s.stageAll ps).run h).run.1.1 ((s.stageAll ps).run h).run.2.fs := by
  induction ps with
  | nil =>
    intro s h _ hsf _ _
    exact ⟨rfl, (List.append_nil _).symm, hsf⟩
  | cons p ps ih =>
    intro s h hst hsf hps hnone
    unfold StagingArea.stageAll at hnone ⊢
    rw [StateT.run_bind, Id.run_bind] at hnone ⊢
    rcases stage_cases s p h with ⟨e, hrun, -⟩ | ⟨name, t, n, o, hrun, hname, hfresh, hc⟩
    · rw [hrun] at hnone
      cases hnone
    · rw [hrun] at hnone ⊢
      dsimp only at hnone ⊢
      -- the rest is staged from the area with one more file
      obtain ⟨hdir, horig, hsf'⟩ := ih { s with files := s.files ++ [⟨name, s.dir / name, p⟩] }
        { h with fs := t, out := o }
        (hst.copy (plainName_of_memberName? hname) hc)
        (hsf.stage hst hname hfresh (hps p List.mem_cons_self) hc)
        (fun q hq => hps q (List.mem_cons_of_mem _ hq)) hnone
      refine ⟨hdir, ?_, hsf'⟩
      rw [horig]
      simp

/-- A source that cannot be staged for its name: it has none, or a file of the
    area has it already. -/
theorem stage_error (s : StagingArea) (src : Path) (h : Host) {e : ArchiveError}
    (he : ((s.stage src).run h).run.1 = .error e) :
    (∀ t, e = .invalidMemberName t → src.fileName = "" ∧ t = src.text) ∧
    (∀ n, e = .duplicateMember n → src.fileName = n ∧ n ∈ s.names) := by
  unfold StagingArea.stage at he
  cases hm : StagingArea.memberName? src with
  | none =>
    simp only [hm, StateT.run_pure, Id.run_pure, Except.error.injEq] at he
    subst he
    refine ⟨fun t ht => ?_, fun n hn => (by cases hn)⟩
    cases ht
    exact ⟨memberName?_eq_none.1 hm, rfl⟩
  | some name =>
    obtain ⟨hname, -⟩ := memberName?_eq_some.1 hm
    by_cases hdup : s.files.any (·.name == name) = true
    · simp only [hm, hdup, if_true, StateT.run_pure, Id.run_pure, Except.error.injEq] at he
      subst he
      refine ⟨fun t ht => (by cases ht), fun n hn => ?_⟩
      cases hn
      exact ⟨hname, StagingArea.any_name_iff.1 hdup⟩
    · -- past the name checks only the copy can fail, with an i/o error
      simp only [hm, hdup, Bool.false_eq_true, if_false, StateT.run_bind, Id.run_bind,
        Host.copyFile_run] at he
      cases hc : h.fs.copy h.cwd src (s.dir / name) with
      | error c =>
        simp only [hc, StateT.run_pure, Id.run_pure, Except.error.injEq] at he
        subst he
        exact ⟨fun t ht => (by cases ht), fun n hn => (by cases hn)⟩
      | ok r =>
        simp [hc, Host.log_run] at he

/-- A source without a file name is refused, and the host is left as it was. -/
theorem stage_run_unnamed (s : StagingArea) {src : Path} (h : Host) (hsrc : src.fileName = "") :
    ((s.stage src).run h).run = (.error (.invalidMemberName src.text), h) := by
  simp [StagingArea.stage, memberName?_eq_none.2 hsrc]

/-- A source with the file name of a file of the area is refused as a duplicate,
    and the host is left as it was. -/
theorem stage_run_duplicate (s : StagingArea) {src : Path} (h : Host) (hne : src.fileName ≠ "")
    (hdup : src.fileName ∈ s.names) :
    ((s.stage src).run h).run = (.error (.duplicateMember src.fileName), h) := by
  have hany := StagingArea.any_name_iff.2 hdup
  simp [StagingArea.stage, memberName?_eq_some.2 ⟨rfl, hne⟩, hany]

/-- A source with a new file name, whose copy succeeds, is staged under it. -/
theorem stage_run_copy (s : StagingArea) {src : Path} (h : Host) (hne : src.fileName ≠ "")
    (hfresh : src.fileName ∉ s.names) {t : FileTree} {n : Nat}
    (hc : h.fs.copy h.cwd src (s.dir / src.fileName) = .ok (t, n)) :
    ∃ o, ((s.stage src).run h).run =
      (.ok { s with files := s.files ++ [⟨src.fileName, s.dir / src.fileName, src⟩] },
        { h with fs := t, out := o }) := by
  have hany : s.files.any (·.name == src.fileName) = false :=
    Bool.eq_false_iff.2 fun h => hfresh (StagingArea.any_name_iff.1 h)
  simp only [StagingArea.stage, memberName?_eq_some.2 ⟨rfl, hne⟩, hany, Bool.false_eq_true,
    if_false, StateT.run_bind, Id.run_bind, Host.copyFile_run, hc]
  exact ⟨_, rfl⟩

/-- Staging stops at the first source that has no name, or the name of a file
    staged before it, once every source before it is staged. -/
theorem stageAll_error (ps : List Path) : ∀ (s : StagingArea) (h : Host) {e : ArchiveError},
    s.names.Nodup → ((s.stageAll ps).run h).run.1.2 = some e →
    (∀ t, e = .invalidMemberName t → ∃ P₁ p P₂, ps = P₁ ++ p :: P₂ ∧
      (∀ q ∈ P₁, q.fileName ≠ "") ∧ (s.names ++ P₁.map Path.fileName).Nodup ∧
      p.fileName = "" ∧ t = p.text) ∧
    (∀ n, e = .duplicateMember n → ∃ P₁ p P₂, ps = P₁ ++ p :: P₂ ∧
      (∀ q ∈ P₁, q.fileName ≠ "") ∧ (s.names ++ P₁.map Path.fileName).Nodup ∧
      p.fileName = n ∧ n ∈ s.names ++ P₁.map Path.fileName) := by
  induction ps with
  | nil =>
    intro s h e _ he
    cases he
  | cons p ps ih =>
    intro s h e hs he
    unfold StagingArea.stageAll at he
    rw [StateT.run_bind, Id.run_bind] at he
    cases hstage : ((s.stage p).run h).run.1 with
    | error e' =>
      -- the failure is this source's
      obtain ⟨hinv, hdup⟩ := stage_error s p h hstage
      have hrun : ((s.stage p).run h).run = (.error e', ((s.stage p).run h).run.2) :=
        Prod.ext hstage rfl
      rw [hrun] at he
      cases he
      refine ⟨fun t ht => ?_, fun n hn => ?_⟩
      · obtain ⟨hp, rfl⟩ := hinv t ht
        exact ⟨[], p, ps, rfl, by simp, by simpa using hs, hp, rfl⟩
      · obtain ⟨hp, hn'⟩ := hdup n hn
        exact ⟨[], p, ps, rfl, by simp, by simpa using hs, hp, by simpa using hn'⟩
    | ok s' =>
      rcases stage_cases s p h with ⟨e', hrun, -⟩ | ⟨name, t, n, o, hrun, hname, hfresh, hc⟩
      · rw [hrun] at hstage
        cases hstage
      · rw [hrun] at hstage he
        cases hstage
        obtain ⟨hpn, hne⟩ := memberName?_eq_some.1 hname
        -- the rest is staged from the area with one more name
        obtain ⟨hinv, hdup⟩ := ih { s with files := s.files ++ [⟨name, s.dir / name, p⟩] }
          { h with fs := t, out := o } (StagingArea.nodup_names_append hs hfresh _ _) he
        have hnames : ({ s with files := s.files ++ [⟨name, s.dir / name, p⟩] } : StagingArea).names =
            s.names ++ [p.fileName] := by
          rw [StagingArea.names_append, hpn]
        refine ⟨fun t ht => ?_, fun n hn => ?_⟩
        · obtain ⟨P₁, q, P₂, rfl, hP₁, hnd, hq, rfl⟩ := hinv t ht
          refine ⟨p :: P₁, q, P₂, rfl, ?_, ?_, hq, rfl⟩
          · intro r hr
            rcases List.mem_cons.1 hr with rfl | hr
            · rw [hpn]
              exact hne
            · exact hP₁ r hr
          · rw [hnames] at hnd
            simpa using hnd
        · obtain ⟨P₁, q, P₂, rfl, hP₁, hnd, hq, hmem⟩ := hdup n hn
          refine ⟨p :: P₁, q, P₂, rfl, ?_, ?_, hq, ?_⟩
          · intro r hr
            rcases List.mem_cons.1 hr with rfl | hr
            · rw [hpn]
              exact hne
            · exact hP₁ r hr
          · rw [hnames] at hnd
            simpa using hnd
          · rw [hnames] at hmem
            simpa using hmem

/-- Staging sources that read in the base stops at the first without a file
    name, or with the file name of a file staged before it: the copies of the
    sources before it, whose file names are new and distinct, all succeed. -/
theorem stageAll_first_fault (P₁ : List Path) (p : Path) (P₂ : List Path) :
    ∀ (s : StagingArea) (h : Host), StagingTree h.cwd base L s.dir h.fs →
    (∀ n ∈ s.names, n ≠ "") → (∀ q ∈ P₁, ∃ d, base.read h.cwd q = .ok d) →
    (∀ q ∈ P₁, q.fileName ≠ "") → (s.names ++ P₁.map Path.fileName).Nodup →
    (p.fileName = "" →
      ((s.stageAll (P₁ ++ p :: P₂)).run h).run.1.2 = some (.invalidMemberName p.text)) ∧
    (p.fileName ∈ s.names ++ P₁.map Path.fileName →
      ((s.stageAll (P₁ ++ p :: P₂)).run h).run.1.2 = some (.duplicateMember p.fileName)) := by
  induction P₁ with
  | nil =>
    intro s h _ hnames _ _ _
    rw [List.nil_append, List.map_nil, List.append_nil]
    unfold StagingArea.stageAll
    rw [StateT.run_bind, Id.run_bind]
    refine ⟨fun hp => ?_, fun hp => ?_⟩
    · rw [stage_run_unnamed s h hp]
      rfl
    · rw [stage_run_duplicate s h (hnames _ hp) hp]
      rfl
  | cons q P₁ ih =>
    intro s h hst hnames hread hne hnd
    obtain ⟨d, hd⟩ := hread q List.mem_cons_self
    have hq : q.fileName ≠ "" := hne q List.mem_cons_self
    rw [List.map_cons] at hnd
    have hfresh : q.fileName ∉ s.names := fun hin =>
      (List.nodup_append.1 hnd).2.2 _ hin _ List.mem_cons_self rfl
    have hplain := plainName_of_memberName? (memberName?_eq_some.2 ⟨rfl, hq⟩)
    -- the copy of `q` succeeds, and the rest is staged from the area with its name
    have hc := hst.copy_ok hplain (hst.read_base hd)
    obtain ⟨o, hrun⟩ := stage_run_copy s h hq hfresh hc
    have hnames' := StagingArea.names_append s ⟨q.fileName, s.dir / q.fileName, q⟩
    obtain ⟨hinv, hdup⟩ := ih { s with files := s.files ++ [⟨q.fileName, s.dir / q.fileName, q⟩] }
      { h with fs := _, out := o } (hst.copy hplain hc)
      (by rw [hnames']; exact List.forall_mem_append.2 ⟨hnames, List.forall_mem_singleton.2 hq⟩)
      (fun r hr => hread r (List.mem_cons_of_mem _ hr))
      (fun r hr => hne r (List.mem_cons_of_mem _ hr)) (by rw [hnames', List.append_assoc]; exact hnd)
    rw [List.cons_append]
    unfold StagingArea.stageAll
    rw [StateT.run_bind, Id.run_bind, hrun]
    refine ⟨hinv, fun hp => hdup ?_⟩
    rw [hnames', List.append_assoc]
    simpa using hp

/-! ## Committing the staged sources -/

/-- A staged file reads, in the tree it was staged in, as its source reads in
    the base. -/
theorem StagedFrom.read {s : StagingArea} (hst : StagingTree cwd base L s.dir t)
    (hsf : StagedFrom cwd base L s t) {f : StagedFile} (hf : f ∈ s.files) :
    ∃ d, base.read cwd f.origin = .ok d ∧ t.read cwd f.path = .ok d := by
  obtain ⟨hpath, hname, d, hd, hget⟩ := hsf.files f hf
  obtain ⟨b, hdir⟩ := hst.resolves
  refine ⟨d, hd, ?_⟩
  rw [hpath]
  exact read_of_resolve (resolve_join_name (plainName_of_memberName? hname) hdir hst.isDir) hget

/-- The member names of a staged area are the file names of its sources. -/
theorem StagedFrom.names_eq {s : StagingArea} (hsf : StagedFrom cwd base L s t) :
    s.names = (s.files.map (·.origin)).map Path.fileName := by
  rw [StagingArea.names, List.map_map]
  exact List.map_congr_left fun f hf => (memberName?_eq_some.1 (hsf.files f hf).2.1).1.symm

theorem StagedFrom.fileName_ne {s : StagingArea} (hsf : StagedFrom cwd base L s t) :
    ∀ p ∈ s.files.map (·.origin), p.fileName ≠ "" := by
  intro p hp
  obtain ⟨f, hf, rfl⟩ := List.mem_map.1 hp
  obtain ⟨hn, hne⟩ := memberName?_eq_some.1 (hsf.files f hf).2.1
  rw [hn]
  exact hne

/-- The bytes a commit reads from the staged copies are their sources' bytes in
    the base, under the sources' file names. -/
theorem StagedFrom.contents {s : StagingArea} (hst : StagingTree cwd base L s.dir t)
    (hsf : StagedFrom cwd base L s t) {z : ZipFormat} {contents : List (String × ByteArray)}
    (hc : List.Forall₂ (fun f c => c.1 = f.name ∧ (∀ d, t.read cwd f.path = .ok d → c.2 = d) ∧
      z.Takes c) s.files contents) :
    List.Forall₂ (fun p c => c.1 = p.fileName ∧ base.read cwd p = .ok c.2 ∧ z.Takes c)
      (s.files.map (·.origin)) contents := by
  have hfiles : ∀ f ∈ s.files, StagingArea.memberName? f.origin = some f.name ∧
      ∃ d, base.read cwd f.origin = .ok d ∧ t.read cwd f.path = .ok d :=
    fun f hf => ⟨(hsf.files f hf).2.1, hsf.read hst hf⟩
  rw [List.forall₂_map_left_iff]
  refine ((List.forall₂_and_left _ _).2 ⟨hfiles, hc⟩).imp ?_
  rintro f c ⟨⟨hname, d, hbase, hread⟩, hc1, hc2, hw⟩
  refine ⟨?_, ?_, hw⟩
  · rw [hc1, (memberName?_eq_some.1 hname).1]
  · rw [hc2 d hread]
    exact hbase

/-- Staging and committing from a fresh staging area over a well-formed base,
    without failure: the package lists the sources' file names, distinct and in
    order, and the ZIP file of their bytes stands at the package path, which
    releasing the staging area leaves alone, as it leaves every directory of
    the base. -/
theorem stageAndCommit_ok (b : Packager) (name : String) (area : StagingArea) (ps : List Path)
    (h : Host) (hbase : base.WellFormed) (hst : StagingTree h.cwd base L area.dir h.fs)
    (hempty : area.files = []) (hsrc : ∀ p ∈ ps, ∃ d, base.read h.cwd p = .ok d)
    {D : Loc} {x : String} (hD : base.get? D = some .dir)
    (hT : base.resolve h.cwd (b.packagePath name) = .ok (D ++ [x], false))
    {pkg : Package} (hok : ((b.stageAndCommit name area ps).run h).run.1 = .ok pkg) :
    pkg.path = b.packagePath name ∧ pkg.members = ps.map Path.fileName ∧ pkg.members.Nodup ∧
      (∀ p ∈ ps, p.fileName ≠ "") ∧
      ∃ contents, List.Forall₂ (fun p c => c.1 = p.fileName ∧ base.read h.cwd p = .ok c.2 ∧
          b.format.Takes c) ps contents ∧
        pkg.size = (b.format.write memberOptions contents).size ∧
        (b.format.write memberOptions contents).size ≤ maxFileSize ∧
        ((b.stageAndCommit name area ps).run h).run.2.cwd = h.cwd ∧
        ((b.stageAndCommit name area ps).run h).run.2.fs.read h.cwd (b.packagePath name) =
          .ok (b.format.write memberOptions contents) := by
  obtain ⟨s', f, t, o, hrun, hdir, hst', -⟩ := stageAll_staging ps area h hst
  rw [← hdir] at hst'
  unfold Packager.stageAndCommit at hok ⊢
  simp only [StateT.run_bind, Id.run_bind, hrun] at hok ⊢
  obtain ⟨o₁, hrel⟩ := release_run s' { h with fs := t, out := o } hst'
  cases f with
  | some e =>
    simp [hrel] at hok
  | none =>
    -- every source is staged, in order
    obtain ⟨-, horig, hsf⟩ := stageAll_ok ps area h hst
      (by obtain ⟨dir, files⟩ := area; cases hempty; exact StagedFrom.empty _ _) hsrc (by rw [hrun])
    rw [hrun] at horig hsf
    dsimp only at horig hsf
    rw [hempty, List.map_nil, List.nil_append] at horig
    rcases commit_cases b.format s' (b.packagePath name) { h with fs := t, out := o }
      hst'.wellFormed (packagePath_endsWith b name) with ⟨e, hc, -⟩ |
        ⟨pkg', t', contents, hc, rfl, hcont, hbig, hdirs, htarget⟩
    · simp [StateT.run_bind, Id.run_bind, hc, hrel] at hok
    -- the staging directory is released from the tree the commit left
    obtain ⟨bL, hL⟩ := hst'.resolves
    have hrel' : ∀ o', (s'.release.run { h with fs := t', out := o' }).run.2.fs = t'.erase L ∧
        (s'.release.run { h with fs := t', out := o' }).run.2.cwd = h.cwd := by
      intro o'
      obtain ⟨o₂, hr⟩ := release_erase s' { h with fs := t', out := o' }
        (resolve_of_dirs hdirs hL) (hdirs L hst'.isDir)
      rw [hr]
      exact ⟨rfl, rfl⟩
    simp only [StateT.run_bind, Id.run_bind, hc, Host.log_run, StateT.run_pure, Id.run_pure,
      (hrel' _).1, (hrel' _).2] at hok ⊢
    obtain rfl := Except.ok.inj hok
    -- the package path resolves below a directory of the base, outside the staging directory
    obtain ⟨hTdir, hTfile⟩ := htarget _ _
      (resolve_of_dirs (fun l hl => hst'.scratch.get?_dir hl) hT)
    have hLT : ¬ L <+: D ++ [x] := by
      rw [List.prefix_concat_iff]
      rintro (heq | hpre)
      · exact hTdir (heq ▸ hst'.isDir)
      · exact hst'.not_prefix hbase hD hpre
    -- the release keeps every directory of the base, and the package
    have hdirs' : ∀ l, base.get? l = some .dir → (t'.erase L).get? l = some .dir := by
      intro l hl
      rw [get?_erase_of_not_under (hst'.not_prefix hbase hl)]
      exact hdirs l (hst'.scratch.get?_dir hl)
    refine ⟨rfl, ?_, hsf.nodup, ?_, contents, ?_, rfl, hbig, trivial, ?_⟩
    · rw [← horig]
      exact hsf.names_eq
    · rw [← horig]
      exact hsf.fileName_ne
    · rw [← horig]
      exact hsf.contents hst' hcont
    · refine read_of_resolve (resolve_of_dirs hdirs' hT) ?_
      rw [get?_erase_of_not_under hLT, hTfile]
  
/-- A failure of staging and committing that is none of the file system's or
    the ZIP writer's is staging's own. -/
theorem stageAndCommit_staging_error (b : Packager) (name : String) (area : StagingArea)
    (ps : List Path) (h : Host) (hst : StagingTree h.cwd base L area.dir h.fs) {e : ArchiveError}
    (he : ((b.stageAndCommit name area ps).run h).run.1 = .error e) (hio : ¬ e.IsIo) :
    ((area.stageAll ps).run h).run.1.2 = some e := by
  obtain ⟨s', f, t, o, hrun, hdir, hst', -⟩ := stageAll_staging ps area h hst
  rw [← hdir] at hst'
  rw [hrun]
  unfold Packager.stageAndCommit at he
  simp only [StateT.run_bind, Id.run_bind, hrun] at he
  obtain ⟨o₁, hrel⟩ := release_run s' { h with fs := t, out := o } hst'
  cases f with
  | some e' =>
    simp only [StateT.run_bind, Id.run_bind, hrel, StateT.run_pure, Id.run_pure,
      Except.error.injEq] at he
    rw [he]
  | none =>
    -- a commit fails only as the file system or the writer does
    rcases commit_cases b.format s' (b.packagePath name) { h with fs := t, out := o }
      hst'.wellFormed (packagePath_endsWith b name) with ⟨e', hc, hio'⟩ | ⟨pkg, t', -, hc, -⟩
    · simp only [StateT.run_bind, Id.run_bind, hc, hrel, StateT.run_pure, Id.run_pure,
        Except.error.injEq] at he
      subst he
      exact absurd hio' hio
    · simp [StateT.run_bind, Id.run_bind, hc] at he

/-- Staging that stops with a failure fails the whole step with it. -/
theorem stageAndCommit_staging_failure (b : Packager) (name : String) (area : StagingArea)
    (ps : List Path) (h : Host) {e : ArchiveError}
    (hf : ((area.stageAll ps).run h).run.1.2 = some e) :
    ((b.stageAndCommit name area ps).run h).run.1 = .error e := by
  rcases hrun : ((area.stageAll ps).run h).run with ⟨⟨s', f⟩, h'⟩
  rw [hrun] at hf
  cases hf
  unfold Packager.stageAndCommit
  simp only [StateT.run_bind, Id.run_bind, hrun, StateT.run_pure, Id.run_pure]

end Staging

/-! ## The build -/

/-- The package name check, spelled out: not empty, not `.` or `..`, and with
    neither kind of separator. -/
theorem validPackageName_eq_true {name : String} :
    validPackageName name = true ↔
      name ≠ "" ∧ name ≠ "." ∧ name ≠ ".." ∧ '/' ∉ name.toList ∧ '\\' ∉ name.toList := by
  simp [validPackageName]
  tauto

/-- A name without separators, with the package extension, is a plain name. -/
theorem plainName_package {name : String} (h : '/' ∉ name.toList) :
    Path.PlainName (name ++ ".kfpkg") := by
  have hext : (name ++ ".kfpkg").toList = name.toList ++ ['.', 'k', 'f', 'p', 'k', 'g'] := by
    rw [String.toList_append]
    rfl
  -- the extension alone is longer than `.` and `..`
  have hlen : 6 ≤ (name ++ ".kfpkg").toList.length := by
    rw [hext]
    simp
  refine ⟨fun heq => ?_, fun heq => ?_, fun heq => ?_, ?_⟩
  · rw [heq] at hlen
    exact absurd hlen (by decide)
  · rw [heq] at hlen
    exact absurd hlen (by decide)
  · rw [heq] at hlen
    exact absurd hlen (by decide)
  · rw [hext]
    simp [h]

/-- Once the output directory is made, the package path of a valid name
    resolves one level below a directory: the output directory, or the working
    directory when no output directory is given. -/
theorem resolve_packagePath (b : Packager) {name : String} (hv : validPackageName name = true)
    {t t' : FileTree} {cwd : Loc} (hcd : t.createDirAll cwd b.outputDir = .ok t')
    (hcwd : t'.get? cwd = some .dir) :
    ∃ D, t'.get? D = some .dir ∧
      t'.resolve cwd (b.packagePath name) = .ok (D ++ [name ++ ".kfpkg"], false) := by
  have hs := plainName_package (validPackageName_eq_true.1 hv).2.2.2.1
  by_cases hout : b.outputDir.text = ""
  · have hpath : b.packagePath name = ⟨name ++ ".kfpkg"⟩ := by
      show Path.join b.outputDir ⟨name ++ ".kfpkg"⟩ = _
      simp [Path.join, hs.isAbsolute_eq, hout]
    rw [hpath]
    exact ⟨cwd, hcwd, resolve_plainName hs⟩
  · obtain ⟨D, bD, hD, hdir⟩ := dir_of_createDirAll hcd hout
    exact ⟨D, hdir, resolve_join_name hs hD hdir⟩

/-- The files a build packages: the required files, then those of the optional
    files that are regular files, in order. -/
def buildSources (h : Host) (required optional : List Path) : List Path :=
  required ++ optional.filter (h.fs.isFileAt h.cwd ·)

/-- Sources whose file names are not all non-empty, distinct and new to the
    names `N` have a first one at fault: every source before it has a file
    name, new and distinct, and its own is empty or one of those. -/
theorem exists_first_fault : ∀ (P : List Path) (N : List String), N.Nodup →
    ¬ ((∀ q ∈ P, q.fileName ≠ "") ∧ (N ++ P.map Path.fileName).Nodup) →
    ∃ P₁ p P₂, P = P₁ ++ p :: P₂ ∧ (∀ q ∈ P₁, q.fileName ≠ "") ∧
      (N ++ P₁.map Path.fileName).Nodup ∧ (p.fileName = "" ∨ p.fileName ∈ N ++ P₁.map Path.fileName)
  | [], N, hN, hbad => absurd ⟨by simp, by simpa using hN⟩ hbad
  | p :: P, N, hN, hbad => by
    by_cases hp : p.fileName = "" ∨ p.fileName ∈ N
    · exact ⟨[], p, P, rfl, by simp, by simpa using hN, by simpa using hp⟩
    · -- `p` is staged, and the fault lies among the rest, past its name
      rw [not_or] at hp
      have hN' : (N ++ [p.fileName]).Nodup := hN.append (List.nodup_singleton _)
        (List.disjoint_singleton.2 hp.2)
      have hrest : ¬ ((∀ q ∈ P, q.fileName ≠ "") ∧
          (N ++ [p.fileName] ++ P.map Path.fileName).Nodup) := fun ⟨hne, hnd⟩ =>
        hbad ⟨by simpa [hp.1] using hne, by simpa using hnd⟩
      obtain ⟨P₁, q, P₂, rfl, hne, hnd, hq⟩ := exists_first_fault P _ hN' hrest
      refine ⟨p :: P₁, q, P₂, rfl, ?_, by simpa using hnd, by simpa using hq⟩
      simpa [hp.1] using hne

/-- Past its checks, a build stages and commits its sources from a fresh
    staging area, in the tree where the output directory is made, unless making
    the directory or the staging area fails. -/
theorem build_run_staged (b : Packager) (name : String) (required optional : List Path)
    (h : Host) (hwf : h.fs.WellFormed) (hv : validPackageName name = true)
    (hm : required.find? (fun p => !h.fs.isFileAt h.cwd p) = none) :
    (∃ c, ((b.build name required optional).run h).run.1 = .error (.io b.outputDir.text c)) ∨
    ∃ t area L o, h.fs.createDirAll h.cwd b.outputDir = .ok t ∧ area.files = [] ∧
      StagingTree h.cwd t L area.dir (t.put L .dir) ∧
      ((b.build name required optional).run h).run =
        ((b.stageAndCommit name area (buildSources h required optional)).run
          { h with fs := t.put L .dir, out := o }).run := by
  obtain ⟨o, hpf⟩ := presentFiles_run optional h
  unfold Packager.build
  simp only [hv, Bool.not_true, Bool.false_eq_true, if_false, StateT.run_bind, Id.run_bind,
    firstMissing_run, hm, hpf, Host.createDirAll_run]
  cases hcd : h.fs.createDirAll h.cwd b.outputDir with
  | error ec => exact .inl ⟨_, rfl⟩
  | ok t =>
    simp only [StateT.run_bind, Id.run_bind]
    rcases acquire_cases b.outputDir { h with fs := t, out := o }
      ((dirsAdded_createDirAll hcd).1 hwf) with ⟨c, hac⟩ | ⟨area, L, o', hac, hempty, hst⟩
    · rw [hac]
      exact .inl ⟨_, rfl⟩
    · rw [hac]
      exact .inr ⟨t, area, L, o', rfl, hempty, hst, rfl⟩

/-- Past the checks, every source is a regular file, which reads alike once the
    output directory is made. -/
theorem buildSources_read {h : Host} {required : List Path} (optional : List Path)
    (hm : required.find? (fun p => !h.fs.isFileAt h.cwd p) = none) {dir : Path} {t : FileTree}
    (hcd : h.fs.createDirAll h.cwd dir = .ok t) :
    ∀ p ∈ buildSources h required optional,
      ∃ d, h.fs.read h.cwd p = .ok d ∧ t.read h.cwd p = .ok d := by
  intro p hp
  have hadd := dirsAdded_createDirAll hcd
  have hfile : h.fs.isFileAt h.cwd p = true := by
    rcases List.mem_append.1 hp with hp | hp
    · simpa using List.find?_eq_none.1 hm p hp
    · exact (List.mem_filter.1 hp).2
  obtain ⟨d, hd⟩ := read_of_isFileAt hfile
  exact ⟨d, hd, read_of_dirs hadd.2.2 hd fun l hl => (hadd.2.1 l d).2 hl⟩

/-- A build that succeeds packages its sources: the package lists their file
    names, distinct and in order, and the ZIP file the packager's library
    writes of their bytes, as the build found them, stands at the package path. -/
theorem build_ok (b : Packager) (name : String) (required optional : List Path) (h : Host)
    (hwf : h.fs.WellFormed) (hcwd : h.fs.get? h.cwd = some .dir) {a : Package}
    (hok : ((b.build name required optional).run h).run.1 = .ok a) :
    a.path = b.packagePath name ∧ a.members = (buildSources h required optional).map Path.fileName ∧
      a.members.Nodup ∧ (∀ p ∈ buildSources h required optional, p.fileName ≠ "") ∧
      ∃ contents, List.Forall₂ (fun p c => c.1 = p.fileName ∧ h.fs.read h.cwd p = .ok c.2 ∧
          b.format.Takes c) (buildSources h required optional) contents ∧
        a.size = (b.format.write memberOptions contents).size ∧
        (b.format.write memberOptions contents).size ≤ maxFileSize ∧
        ((b.build name required optional).run h).run.2.cwd = h.cwd ∧
        ((b.build name required optional).run h).run.2.fs.read h.cwd a.path =
          .ok (b.format.write memberOptions contents) := by
  -- a refused name or a missing required file would be a failure
  have hv : validPackageName name = true := by
    cases hv : validPackageName name with
    | true => rfl
    | false => simp [Packager.build, hv] at hok
  have hm : required.find? (fun p => !h.fs.isFileAt h.cwd p) = none := by
    cases hm : required.find? (fun p => !h.fs.isFileAt h.cwd p) with
    | none => rfl
    | some p => simp [Packager.build, hv, firstMissing_run, hm] at hok
  rcases build_run_staged b name required optional h hwf hv hm with
    ⟨c, he⟩ | ⟨t, area, L, o, hcd, hempty, hst, hrun⟩
  · rw [he] at hok
    cases hok
  rw [hrun] at hok ⊢
  have hadd := dirsAdded_createDirAll hcd
  have hsrc := buildSources_read optional hm hcd
  obtain ⟨D, hD, hT⟩ := resolve_packagePath b hv hcd (hadd.2.2 _ hcwd)
  obtain ⟨hpath, hmem, hnd, hne, contents, hcont, hsize, hbig, hcwd', hread⟩ :=
    stageAndCommit_ok b name area _ { h with fs := t.put L .dir, out := o } (hadd.1 hwf) hst
      hempty (fun p hp => (hsrc p hp).imp fun d hd => hd.2) hD hT hok
  refine ⟨hpath, hmem, hnd, hne, contents, ?_, hsize, hbig, hcwd', by rw [hpath]; exact hread⟩
  -- the bytes were read as in the tree the build started from
  refine ((List.forall₂_and_left _ _).2 ⟨hsrc, hcont⟩).imp ?_
  rintro p c ⟨⟨d, hd, hd'⟩, hname, hc, hw⟩
  have hdc : d = c.2 := Except.ok.inj (hd'.symm.trans hc)
  exact ⟨hname, hdc ▸ hd, hw⟩

/-- Lists related element by element to one list are related to each other. -/
theorem forall₂_comp {α β γ : Type} {R : α → β → Prop} {S : γ → β → Prop} {T : α → γ → Prop}
    (hRS : ∀ a b c, R a b → S c b → T a c) :
    ∀ {as : List α} {bs : List β} {cs : List γ},
      List.Forall₂ R as bs → List.Forall₂ S cs bs → List.Forall₂ T as cs
  | _, _, _, .nil, .nil => .nil
  | _, _, _, .cons h₁ t₁, .cons h₂ t₂ => .cons (hRS _ _ _ h₁ h₂) (forall₂_comp hRS t₁ t₂)

/-- A failed build whose failure is neither a check made before writing nor a
    failure of the file system or the ZIP writer failed in staging: at the
    first source without a file name, or with the file name of one before it. -/
theorem build_staging_error (b : Packager) (name : String) (required optional : List Path)
    (h : Host) (hwf : h.fs.WellFormed) {e : ArchiveError}
    (he : ((b.build name required optional).run h).run.1 = .error e) (hpre : ¬ e.IsPreflight)
    (hio : ¬ e.IsIo) :
    (∀ s, e = .invalidMemberName s → ∃ P₁ p P₂, buildSources h required optional = P₁ ++ p :: P₂ ∧
      (∀ q ∈ P₁, q.fileName ≠ "") ∧ (P₁.map Path.fileName).Nodup ∧ p.fileName = "" ∧
      s = p.text) ∧
    (∀ n, e = .duplicateMember n → ∃ P₁ p P₂, buildSources h required optional = P₁ ++ p :: P₂ ∧
      (∀ q ∈ P₁, q.fileName ≠ "") ∧ (P₁.map Path.fileName).Nodup ∧ p.fileName = n ∧
      n ∈ P₁.map Path.fileName) := by
  rcases build_error_cases b name required optional h hwf he with
    ⟨-, rfl, -⟩ | ⟨-, ⟨p, -, rfl⟩, -⟩ | ⟨hv, hm, -, -⟩
  · exact absurd trivial hpre
  · exact absurd trivial hpre
  rcases build_run_staged b name required optional h hwf hv hm with
    ⟨c, he'⟩ | ⟨t, area, L, o, -, hempty, hst, hrun⟩
  · rw [he] at he'
    cases he'
    exact absurd trivial hio
  rw [hrun] at he
  -- staging from an empty area stops with the failure
  have hnames := StagingArea.names_eq_nil hempty
  have hstage := stageAndCommit_staging_error b name area _ _ hst he hio
  simpa [hnames] using stageAll_error _ area _ (by simp [hnames]) hstage

/-- Past its checks, a build whose sources have a first one at fault for its
    name fails with that fault, unless making the output directory or the
    staging area failed first: every source before it is copied in. -/
theorem build_first_fault (b : Packager) (name : String) (required optional : List Path)
    (h : Host) (hwf : h.fs.WellFormed) (hv : validPackageName name = true)
    (hm : required.find? (fun p => !h.fs.isFileAt h.cwd p) = none) {P₁ : List Path} {p : Path}
    {P₂ : List Path} (hP : buildSources h required optional = P₁ ++ p :: P₂)
    (hne : ∀ q ∈ P₁, q.fileName ≠ "") (hnd : (P₁.map Path.fileName).Nodup) :
    (∃ c, ((b.build name required optional).run h).run.1 = .error (.io b.outputDir.text c)) ∨
      (p.fileName = "" →
        ((b.build name required optional).run h).run.1 = .error (.invalidMemberName p.text)) ∧
      (p.fileName ∈ P₁.map Path.fileName →
        ((b.build name required optional).run h).run.1 = .error (.duplicateMember p.fileName)) := by
  rcases build_run_staged b name required optional h hwf hv hm with
    hio | ⟨t, area, L, o, hcd, hempty, hst, hrun⟩
  · exact .inl hio
  have hnames := StagingArea.names_eq_nil hempty
  have hsrc := buildSources_read optional hm hcd
  -- the sources before the fault read in the tree staging starts from
  obtain ⟨hinv, hdup⟩ := stageAll_first_fault P₁ p P₂ area { h with fs := t.put L .dir, out := o }
    hst (by simp [hnames]) (fun q hq => (hsrc q (hP ▸ List.mem_append_left _ hq)).imp
      fun d hd => hd.2) hne (by rw [hnames, List.nil_append]; exact hnd)
  rw [← hP] at hinv hdup
  rw [hrun]
  refine .inr ⟨fun hp => stageAndCommit_staging_failure b name area _ _ (hinv hp),
    fun hp => stageAndCommit_staging_failure b name area _ _ (hdup ?_)⟩
  rw [hnames, List.nil_append]
  exact hp

/-- What a build of the package `name` from the host `h` gives, run to `r`.

    The name is refused exactly when it is not a plain file name; past it, the
    first required file that is not a regular file is refused. Staging refuses
    the first source without a file name, or with the file name of a source
    before it, and nothing else: a failure of the file system or the ZIP
    library comes after every source is found at no fault, or from making the
    output directory or the staging area. A built package lists the file names
    of its sources, distinct and in order; its ZIP file, at the package path,
    holds one deflated member at the fixed timestamp for each source, in
    order, holding the bytes of its source, as the packager's library reads
    it; and loading the package path with that library gives the package
    back. -/
structure BuildOutcome (b : Packager) (name : String) (required optional : List Path) (h : Host)
    (r : Except ArchiveError Package × Host) : Prop where
  invalidName : ∀ n, r.1 = .error (.invalidName n) ↔ n = name ∧
    (name = "" ∨ name = "." ∨ name = ".." ∨ '/' ∈ name.toList ∨ '\\' ∈ name.toList)
  missingArtifact : validPackageName name = true → ∀ s, r.1 = .error (.missingArtifact s) ↔
    ∃ p, required.find? (fun p => !h.fs.isFileAt h.cwd p) = some p ∧ s = p.text
  invalidMemberName : ∀ s, r.1 = .error (.invalidMemberName s) →
    ∃ P₁ p P₂, buildSources h required optional = P₁ ++ p :: P₂ ∧
      (∀ q ∈ P₁, q.fileName ≠ "") ∧ (P₁.map Path.fileName).Nodup ∧ p.fileName = "" ∧ s = p.text
  duplicateMember : ∀ n, r.1 = .error (.duplicateMember n) →
    ∃ P₁ p P₂, buildSources h required optional = P₁ ++ p :: P₂ ∧
      (∀ q ∈ P₁, q.fileName ≠ "") ∧ (P₁.map Path.fileName).Nodup ∧ p.fileName = n ∧
      n ∈ P₁.map Path.fileName
  firstFault : validPackageName name = true →
    required.find? (fun p => !h.fs.isFileAt h.cwd p) = none →
    ∀ P₁ p P₂, buildSources h required optional = P₁ ++ p :: P₂ →
      (∀ q ∈ P₁, q.fileName ≠ "") → (P₁.map Path.fileName).Nodup →
      (∃ c, r.1 = .error (.io b.outputDir.text c)) ∨
        (p.fileName = "" → r.1 = .error (.invalidMemberName p.text)) ∧
        (p.fileName ∈ P₁.map Path.fileName → r.1 = .error (.duplicateMember p.fileName))
  io : ∀ e, r.1 = .error e → e.IsIo →
    validPackageName name = true ∧ required.find? (fun p => !h.fs.isFileAt h.cwd p) = none ∧
    ((∃ c, e = .io b.outputDir.text c) ∨
      (∀ p ∈ buildSources h required optional, p.fileName ≠ "") ∧
        ((buildSources h required optional).map Path.fileName).Nodup)
  built : ∀ a, r.1 = .ok a →
    a.path = b.packagePath name ∧
    a.members = (buildSources h required optional).map Path.fileName ∧ a.members.Nodup ∧
    (∀ p ∈ buildSources h required optional, p.fileName ≠ "") ∧
    ∃ data d, r.2.fs.read r.2.cwd a.path = .ok data ∧ b.format.read data = .ok d ∧
      List.Forall₂ (fun m p => m.name = p.fileName ∧ m.method = .deflated ∧
          m.modified = .epoch ∧
          ∃ bytes, h.fs.read h.cwd p = .ok bytes ∧ b.format.readMember data m = .ok bytes)
        d.members (buildSources h required optional) ∧
      ((Package.load b.format a.path).run r.2).run.1 = .ok a

/-- Every build from a well-formed tree, whose working directory stands, with a
    ZIP library that reads back what it writes, gives what `BuildOutcome`
    says. -/
theorem build_outcome (b : Packager) (name : String) (required optional : List Path) (h : Host)
    (hwf : h.fs.WellFormed) (hcwd : h.fs.get? h.cwd = some .dir) (hz : b.format.Lawful) :
    BuildOutcome b name required optional h ((b.build name required optional).run h).run where
  invalidName n := by
    constructor
    · intro he
      rcases build_error_cases b name required optional h hwf he with
        ⟨hv, heq, -⟩ | ⟨-, ⟨p, -, heq⟩, -⟩ | ⟨-, -, hpre, -⟩
      · cases heq
        refine ⟨rfl, ?_⟩
        have hbad : ¬ (name ≠ "" ∧ name ≠ "." ∧ name ≠ ".." ∧ '/' ∉ name.toList ∧
            '\\' ∉ name.toList) := fun hgood => by
          rw [validPackageName_eq_true.2 hgood] at hv
          cases hv
        tauto
      · cases heq
      · exact absurd trivial hpre
    · rintro ⟨hn, hbad⟩
      rw [hn]
      have hv : validPackageName name = false := by
        rw [← Bool.not_eq_true, validPackageName_eq_true]
        tauto
      simp [Packager.build, hv]
  missingArtifact hv s := by
    constructor
    · intro he
      rcases build_error_cases b name required optional h hwf he with
        ⟨hv', -, -⟩ | ⟨-, ⟨p, hp, heq⟩, -⟩ | ⟨-, -, hpre, -⟩
      · rw [hv] at hv'
        cases hv'
      · cases heq
        exact ⟨p, hp, rfl⟩
      · exact absurd trivial hpre
    · rintro ⟨p, hp, rfl⟩
      simp [Packager.build, hv, firstMissing_run, hp]
  invalidMemberName s he := (build_staging_error b name required optional h hwf he id id).1 s rfl
  duplicateMember n he := (build_staging_error b name required optional h hwf he id id).2 n rfl
  firstFault hv hm P₁ p P₂ hP hne hnd := build_first_fault b name required optional h hwf hv hm hP hne hnd
  io e he hio := by
    rcases build_error_cases b name required optional h hwf he with
      ⟨-, rfl, -⟩ | ⟨-, ⟨p, -, rfl⟩, -⟩ | ⟨hv, hm, -, -⟩
    · exact absurd hio id
    · exact absurd hio id
    refine ⟨hv, hm, ?_⟩
    by_cases hfine : (∀ p ∈ buildSources h required optional, p.fileName ≠ "") ∧
        ((buildSources h required optional).map Path.fileName).Nodup
    · exact .inr hfine
    -- a source at fault would have failed the build with that fault
    obtain ⟨P₁, p, P₂, hP, hne, hnd, hp⟩ :=
      exists_first_fault _ [] List.nodup_nil (by simpa using hfine)
    rw [List.nil_append] at hnd hp
    rcases build_first_fault b name required optional h hwf hv hm hP hne hnd with
      ⟨c, hc⟩ | ⟨hinv, hdup⟩
    · rw [he] at hc
      cases hc
      exact .inl ⟨c, rfl⟩
    · rcases hp with hp | hp
      · rw [he] at hinv
        cases hinv hp
        exact absurd hio id
      · rw [he] at hdup
        cases hdup hp
        exact absurd hio id
  built a hok := by
    obtain ⟨hpath, hmem, hnd, hne, contents, hcont, hsize, hbig, hcwd', hread⟩ :=
      build_ok b name required optional h hwf hcwd hok
    -- what the library was given: members it takes, under distinct names
    have hflip : List.Forall₂ (fun c p => b.format.Takes c ∧ c.1 = p.fileName) contents
        (buildSources h required optional) := by
      refine List.Forall₂.flip (hcont.imp fun p c hpc => ?_)
      exact show b.format.Takes c ∧ c.1 = p.fileName from ⟨hpc.2.2, hpc.1⟩
    obtain ⟨hfit, hfst⟩ := (List.forall₂_and_left _ _).1 hflip
    have hkeys : contents.map Prod.fst = (buildSources h required optional).map Path.fileName := by
      rw [← List.forall₂_eq_eq_eq, List.forall₂_map_left_iff, List.forall₂_map_right_iff]
      exact hfst
    have hmax : maxFileSize < 2 ^ 64 := by decide
    obtain ⟨d, hd, hmembers⟩ := hz.read_write memberOptions contents hfit
      (by rw [hkeys, ← hmem]; exact hnd) (by omega)
    -- each member holds the bytes its source held
    have hrel : List.Forall₂ (fun m p => m.name = p.fileName ∧ m.method = .deflated ∧
        m.modified = .epoch ∧ ∃ bytes, h.fs.read h.cwd p = .ok bytes ∧
          b.format.readMember (b.format.write memberOptions contents) m = .ok bytes)
        d.members (buildSources h required optional) :=
      forall₂_comp (fun m c p hm hc => ⟨hm.1.trans hc.1, hm.2.1, hm.2.2.1, c.2, hc.2.1, hm.2.2.2⟩)
        hmembers hcont
    have hdnames : d.names = (buildSources h required optional).map Path.fileName := by
      rw [Zip.Directory.names, ← List.forall₂_eq_eq_eq, List.forall₂_map_left_iff,
        List.forall₂_map_right_iff]
      exact hrel.imp fun m p hmp => hmp.1
    refine ⟨hpath, hmem, hnd, hne, b.format.write memberOptions contents, d,
      by rw [hcwd']; exact hread, hd, hrel, ?_⟩
    have ha : a = ⟨a.path, d.names, (b.format.write memberOptions contents).size⟩ := by
      rw [hdnames, ← hmem, ← hsize]
    rw [ha]
    simp [Package.load, Package.containerBytes, Host.readBytes, Host.query, hcwd', hread, hd]

/-- Two required files and two optional ones, the first of them absent, in a
    directory beside the output directory. -/
def sourcesHost : Host where
  fs := ⟨[(["ex"], .dir), (["ex", "a.bin"], .file ⟨#[1, 2]⟩), (["ex", "b.bin"], .file ⟨#[3]⟩),
    (["ex", "d.bin"], .file ⟨#[4, 5, 6]⟩), (["out"], .dir)]⟩

/-- The build packages the two required files and the optional one that
    exists, in order, with the standard ZIP library. -/
theorem build_outcome_sources :
    let b : Packager := { outputDir := ⟨"out"⟩ }
    let r := ((b.build "pkg" [⟨"ex/a.bin"⟩, ⟨"ex/b.bin"⟩] [⟨"ex/c.bin"⟩, ⟨"ex/d.bin"⟩]).run
      sourcesHost).run
    sourcesHost.fs.WellFormed ∧ sourcesHost.fs.get? sourcesHost.cwd = some .dir ∧
      b.format.Lawful ∧ (∃ a, r.1 = .ok a ∧ a.members = ["a.bin", "b.bin", "d.bin"]) ∧
      BuildOutcome b "pkg" [⟨"ex/a.bin"⟩, ⟨"ex/b.bin"⟩] [⟨"ex/c.bin"⟩, ⟨"ex/d.bin"⟩] sourcesHost r := by
  intro b r
  have hwf : sourcesHost.fs.WellFormed := by
    intro x hx
    simp only [sourcesHost, List.mem_cons, List.not_mem_nil, or_false] at hx
    rcases hx with rfl | rfl | rfl | rfl | rfl <;> rfl
  -- the run, evaluated: three members
  have hbuilt : ∃ a, r.1 = .ok a ∧ a.members = ["a.bin", "b.bin", "d.bin"] := by
    have hmem : (match r.1 with
        | .ok a => a.members == ["a.bin", "b.bin", "d.bin"]
        | _ => false) = true := by decide +kernel
    split at hmem
    · rename_i a ha
      exact ⟨a, ha, beq_iff_eq.1 hmem⟩
    · cases hmem
  exact ⟨hwf, rfl, ZipFormat.standard_lawful, hbuilt,
    build_outcome b "pkg" _ _ sourcesHost hwf rfl ZipFormat.standard_lawful⟩

end EdgePack

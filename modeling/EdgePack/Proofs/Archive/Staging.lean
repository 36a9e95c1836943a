import Mathlib
import EdgePack.Proofs.Archive.Build

/-!
# A session of staging calls

A staging area is used by calling `stage` on it again and again, each call on
the area the calls before left; a call that fails leaves the area as it was,
and the next call goes on from it (`StagingArea.stageEach`). Every error exit of
`stage` comes before the copy, and a failed copy writes nothing, so a failed
call changes neither the area nor the host (`stage_error_run`).

Through a session the area keeps an invariant (`StagingSession`): its names are
distinct plain names, each file stands at the staging directory and its name,
and the directory is scratch space over the tree it was made in. A call that
succeeds writes only its own copy, under a name no file has, so the copies
made before keep their bytes (`StagingSession.stage`, `stageEach_run`): each
copy holds the bytes its source had when it was staged (`stageEach_spec`).
-/

namespace EdgePack

open FileTree

namespace StagingArea

/-- Stages the sources in turn, each on the area the calls before left: a call
    that fails leaves the area as it was, and the next goes on from it. -/
def stageEach : StagingArea → List Path → HostM StagingArea
  | s, [] => pure s
  | s, p :: ps => do
    match ← s.stage p with
    | .error _ => stageEach s ps
    | .ok s' => stageEach s' ps

theorem stageEach_cons_run (s : StagingArea) (p : Path) (ps : List Path) (h : Host) :
    ((s.stageEach (p :: ps)).run h).run =
      match ((s.stage p).run h).run with
      | (.error _, h') => ((s.stageEach ps).run h').run
      | (.ok s', h') => ((s'.stageEach ps).run h').run := by
  rw [stageEach, StateT.run_bind, Id.run_bind]
  rcases ((s.stage p).run h).run with ⟨_ | _, _⟩ <;> rfl

end StagingArea

/-- A call that fails changes nothing: its error is that the source has no
    name, that a file of the area has its name, or that the copy failed. -/
theorem stage_error_run {s : StagingArea} {src : Path} {h : Host} {e : ArchiveError}
    (he : ((s.stage src).run h).run.1 = .error e) :
    ((s.stage src).run h).run.2 = h ∧
      (e = .invalidMemberName src.text ∨ (∃ n, e = .duplicateMember n) ∨ ∃ c, e = .io src.text c) := by
  unfold StagingArea.stage at he ⊢
  cases hm : StagingArea.memberName? src with
  | none =>
    simp only [hm, StateT.run_pure, Id.run_pure, Except.error.injEq] at he
    exact ⟨rfl, .inl he.symm⟩
  | some name =>
    by_cases hdup : s.files.any (·.name == name) = true
    · simp only [hm, hdup, if_true, StateT.run_pure, Id.run_pure, Except.error.injEq] at he
      exact ⟨by simp [hdup], .inr (.inl ⟨name, he.symm⟩)⟩
    · -- past the name checks only the copy can fail, and then it wrote nothing
      simp only [hm, hdup, Bool.false_eq_true, if_false, StateT.run_bind, Id.run_bind,
        Host.copyFile_run] at he ⊢
      cases hc : h.fs.copy h.cwd src (s.dir / name) with
      | error c =>
        simp only [hc, StateT.run_pure, Id.run_pure, Except.error.injEq] at he ⊢
        exact ⟨trivial, .inr (.inr ⟨c, he.symm⟩)⟩
      | ok r =>
        simp [hc, Host.log_run] at he

/-- A staging area in use, in the tree `t`: its directory `L` is scratch space
    over `base`, its names are distinct plain names, and each file stands at the
    directory and its name. -/
structure StagingSession (cwd : Loc) (base : FileTree) (L : Loc) (s : StagingArea) (t : FileTree) :
    Prop where
  tree : StagingTree cwd base L s.dir t
  nodup : s.names.Nodup
  plain : ∀ f ∈ s.files, Path.PlainName f.name
  path : ∀ f ∈ s.files, f.path = s.dir / f.name

variable {base : FileTree} {L : Loc}

/-- A fresh staging area starts a session. -/
theorem StagingSession.empty {cwd : Loc} {dir : Path} {t : FileTree} (hst : StagingTree cwd base L dir t) :
    StagingSession cwd base L ⟨dir, []⟩ t :=
  ⟨hst, List.nodup_nil, fun _ hf => absurd hf List.not_mem_nil, fun _ hf => absurd hf List.not_mem_nil⟩

/-- A call that succeeds copies its source, as it reads then, in under a plain
    name no file of the area has, and changes nothing else of the tree. -/
theorem StagingSession.stage {s s' : StagingArea} {src : Path} {h h' : Host}
    (hs : StagingSession h.cwd base L s h.fs) (hrun : ((s.stage src).run h).run = (.ok s', h')) :
    ∃ name d, s' = { s with files := s.files ++ [⟨name, s.dir / name, src⟩] } ∧ h'.cwd = h.cwd ∧
      name ∉ s.names ∧ h.fs.read h.cwd src = .ok d ∧
      (∀ l, h'.fs.get? l = if l = L ++ [name] then some (.file d) else h.fs.get? l) ∧
      StagingSession h.cwd base L s' h'.fs := by
  rcases stage_cases s src h with ⟨e, herr, -⟩ | ⟨name, t, n, o, hok, hname, hfresh, hc⟩
  · rw [herr] at hrun
    cases hrun
  rw [hok, Prod.mk.injEq, Except.ok.injEq] at hrun
  obtain ⟨rfl, rfl⟩ := hrun
  have hplain := plainName_of_memberName? hname
  have htree := hs.tree.copy hplain hc
  obtain ⟨d, hread, -, -, rfl⟩ := hs.tree.copy_eq hplain hc
  have hnotin := StagingArea.not_mem_names hfresh
  refine ⟨name, d, rfl, rfl, hnotin, hread, fun l => get?_put (by simp) l, htree,
    StagingArea.nodup_names_append hs.nodup hfresh _ _, ?_, ?_⟩
  · intro f hf
    rcases List.mem_append.1 hf with hf | hf
    · exact hs.plain f hf
    · rw [List.mem_singleton.1 hf]
      exact hplain
  · intro f hf
    rcases List.mem_append.1 hf with hf | hf
    · exact hs.path f hf
    · rw [List.mem_singleton.1 hf]

/-- A file of the area reads as what stands at the directory and its name. -/
theorem StagingSession.read {cwd : Loc} {s : StagingArea} {t : FileTree} (hs : StagingSession cwd base L s t)
    {f : StagedFile} (hf : f ∈ s.files) {d : ByteArray} (hd : t.get? (L ++ [f.name]) = some (.file d)) :
    t.read cwd f.path = .ok d := by
  obtain ⟨b, hdir⟩ := hs.tree.resolves
  rw [hs.path f hf]
  exact read_of_resolve (resolve_join_name (hs.plain f hf) hdir hs.tree.isDir) hd

/-- A session of calls keeps the invariant and the directory, and adds files in
    the order of their sources. The copies made before stay as they were, and
    each file added holds the bytes its source read as just before its call. -/
theorem stageEach_run (ps : List Path) : ∀ (s : StagingArea) (h : Host),
    StagingSession h.cwd base L s h.fs →
    let r := ((s.stageEach ps).run h).run
    r.2.cwd = h.cwd ∧ StagingSession h.cwd base L r.1 r.2.fs ∧ r.1.dir = s.dir ∧
      ∃ new, r.1.files = s.files ++ new ∧ (new.map (·.origin)).Sublist ps ∧
        (∀ f ∈ s.files, r.2.fs.get? (L ++ [f.name]) = h.fs.get? (L ++ [f.name])) ∧
        ∀ f ∈ new, ∃ ps₁ ps₂, ps = ps₁ ++ f.origin :: ps₂ ∧ ∃ d,
          ((s.stageEach ps₁).run h).run.2.fs.read h.cwd f.origin = .ok d ∧
          r.2.fs.get? (L ++ [f.name]) = some (.file d) := by
  induction ps with
  | nil =>
    intro s h hs
    exact ⟨rfl, hs, rfl, [], (List.append_nil _).symm, List.Sublist.slnil, fun _ _ => rfl,
      fun _ hf => absurd hf List.not_mem_nil⟩
  | cons p ps ih =>
    intro s h hs
    simp only [StagingArea.stageEach_cons_run]
    cases hrun : ((s.stage p).run h).run with
    | mk res h₁ =>
    cases res with
    | error e =>
      -- the failed call left the host as it was: the rest runs from the same state
      have hh : h₁ = h := by
        have hsame := (stage_error_run (congrArg Prod.fst hrun)).1
        rwa [hrun] at hsame
      subst hh
      obtain ⟨hcwd, hs', hdir, new, hfiles, hsub, hkeep, hnew⟩ := ih s _ hs
      refine ⟨hcwd, hs', hdir, new, hfiles, hsub.cons p, hkeep, fun f hf => ?_⟩
      obtain ⟨ps₁, ps₂, rfl, d, hd, hget⟩ := hnew f hf
      refine ⟨p :: ps₁, ps₂, rfl, d, ?_, hget⟩
      rw [StagingArea.stageEach_cons_run, hrun]
      exact hd
    | ok s₁ =>
      obtain ⟨name, d, rfl, hcwd₁, hnotin, hread, hget₁, hs₁⟩ := hs.stage hrun
      rw [← hcwd₁] at hs₁
      obtain ⟨hcwd, hs', hdir, new, hfiles, hsub, hkeep, hnew⟩ := ih _ h₁ hs₁
      refine ⟨hcwd.trans hcwd₁, hcwd₁ ▸ hs', hdir, ⟨name, s.dir / name, p⟩ :: new, ?_, ?_, ?_, ?_⟩
      · rw [hfiles, List.append_assoc, List.singleton_append]
      · exact hsub.cons_cons p
      · intro f hf
        -- the copies made before stand under other names
        rw [hkeep f (List.mem_append_left _ hf), hget₁, if_neg (StagingArea.append_name_ne hnotin hf L)]
      · intro f hf
        rcases List.mem_cons.1 hf with rfl | hf
        · -- the file of this call: the source as it read before the call
          refine ⟨[], ps, rfl, d, hread, ?_⟩
          rw [hkeep _ (List.mem_append_right _ (List.mem_singleton_self _)), hget₁, if_pos rfl]
        · obtain ⟨ps₁, ps₂, rfl, d', hd, hget⟩ := hnew f hf
          refine ⟨p :: ps₁, ps₂, rfl, d', ?_, hget⟩
          rw [StagingArea.stageEach_cons_run, hrun, ← hcwd₁]
          exact hd

/-- A session of staging calls on an acquired area. A call that fails changes
    nothing, neither the host nor what the later calls do, and its error is that
    the source has no name, that a file of the area has it, or that the copy
    failed. After any calls the member names are distinct plain names (so none
    is empty), the files come from the sources in call order, and each stands at
    the staging directory and its name, holding the bytes its source read as
    just before its call. An area that cannot be acquired leaves the host as it
    was. -/
theorem stageEach_spec (parent : Path) (ps : List Path) (h : Host) (hwf : h.fs.WellFormed) :
    (∀ (s : StagingArea) (src : Path) (h' : Host) (e : ArchiveError) (rest : List Path),
      ((s.stage src).run h').run.1 = .error e →
        (e = .invalidMemberName src.text ∨ (∃ n, e = .duplicateMember n) ∨ ∃ c, e = .io src.text c) ∧
        ((s.stage src).run h').run.2 = h' ∧
        ((s.stageEach (src :: rest)).run h').run = ((s.stageEach rest).run h').run) ∧
    match ((StagingArea.acquire parent).run h).run with
    | (.error _, h₁) => h₁ = h
    | (.ok area, h₁) =>
      let r := ((area.stageEach ps).run h₁).run
      r.1.dir = area.dir ∧ r.1.names.Nodup ∧ (r.1.files.map (·.origin)).Sublist ps ∧
        ∀ f ∈ r.1.files, Path.PlainName f.name ∧ f.path = area.dir / f.name ∧
          ∃ ps₁ ps₂, ps = ps₁ ++ f.origin :: ps₂ ∧ ∃ d,
            ((area.stageEach ps₁).run h₁).run.2.fs.read h.cwd f.origin = .ok d ∧
            r.2.fs.read h.cwd f.path = .ok d := by
  refine ⟨fun s src h' e rest he => ?_, ?_⟩
  · obtain ⟨hhost, hkind⟩ := stage_error_run he
    have hrun : ((s.stage src).run h').run = (.error e, h') := Prod.ext he hhost
    rw [StagingArea.stageEach_cons_run, hrun]
    exact ⟨hkind, rfl, rfl⟩
  rcases acquire_cases parent h hwf with ⟨c, hrun⟩ | ⟨area, L, o, hrun, hfiles, hst⟩
  · rw [hrun]
  rw [hrun]
  obtain ⟨dir, files⟩ := area
  cases hfiles
  obtain ⟨-, hs, hdir, new, hnew, hsub, -, hcall⟩ :=
    stageEach_run ps _ { h with fs := h.fs.put L .dir, out := o } (StagingSession.empty hst)
  rw [List.nil_append] at hnew
  refine ⟨hdir, hs.nodup, by rw [hnew]; exact hsub, fun f hf => ?_⟩
  obtain ⟨ps₁, ps₂, hps, d, hd, hget⟩ := hcall f (hnew ▸ hf)
  exact ⟨hs.plain f hf, hdir ▸ hs.path f hf, ps₁, ps₂, hps, d, hd, hs.read hf hget⟩

/-- One file on the host, staged twice: the second call is refused as a
    duplicate. -/
def oneModel : Host where
  fs := ⟨[(["m.kmodel"], .file .empty)]⟩

theorem stageEach_spec_one_model : oneModel.fs.WellFormed ∧
    ((∀ (s : StagingArea) (src : Path) (h' : Host) (e : ArchiveError) (rest : List Path),
      ((s.stage src).run h').run.1 = .error e →
        (e = .invalidMemberName src.text ∨ (∃ n, e = .duplicateMember n) ∨ ∃ c, e = .io src.text c) ∧
        ((s.stage src).run h').run.2 = h' ∧
        ((s.stageEach (src :: rest)).run h').run = ((s.stageEach rest).run h').run) ∧
    match ((StagingArea.acquire ⟨"/"⟩).run oneModel).run with
    | (.error _, h₁) => h₁ = oneModel
    | (.ok area, h₁) =>
      let r := ((area.stageEach [⟨"m.kmodel"⟩, ⟨"m.kmodel"⟩]).run h₁).run
      r.1.dir = area.dir ∧ r.1.names.Nodup ∧ (r.1.files.map (·.origin)).Sublist [⟨"m.kmodel"⟩, ⟨"m.kmodel"⟩] ∧
        ∀ f ∈ r.1.files, Path.PlainName f.name ∧ f.path = area.dir / f.name ∧
          ∃ ps₁ ps₂, [⟨"m.kmodel"⟩, ⟨"m.kmodel"⟩] = ps₁ ++ f.origin :: ps₂ ∧ ∃ d,
            ((area.stageEach ps₁).run h₁).run.2.fs.read oneModel.cwd f.origin = .ok d ∧
            r.2.fs.read oneModel.cwd f.path = .ok d) := by
  have hwf : oneModel.fs.WellFormed := by
    intro x hx
    simp only [oneModel, List.mem_singleton] at hx
    subst hx
    rfl
  exact ⟨hwf, stageEach_spec ⟨"/"⟩ [⟨"m.kmodel"⟩, ⟨"m.kmodel"⟩] oneModel hwf⟩

end EdgePack

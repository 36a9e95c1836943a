import Mathlib
import EdgePack.Host.Basic

/-!
# Running host operations

Each operation on the host, run from a host `h`: what it answers and the host
after it. An update of the tree changes nothing but the tree, and not even the
tree when it fails; a log line only adds to what was written.

* `Host.ReadOnly`: a computation that leaves the host as it found it. Queries
  are read-only, and so are the computations built from them, such as
  choosing a fresh name or making a path absolute.
* `Host.OnlyWrites`: a computation that only adds to what was written, and
  whose answer does not depend on what was written before: queries and log
  lines, and what is built from them. A run of such steps, one after the
  other, answers what each step answers on the host it started from
  (`OnlyWrites.foldlM_answer`).
-/

namespace EdgePack

namespace Host

variable (h : Host) {α β : Type}

/-! ## Updates -/

theorem update_run (f : FileTree → Loc → Except IoError (FileTree × α)) :
    ((update f).run h).run = match f h.fs h.cwd with
      | .ok (t, a) => (.ok a, { h with fs := t })
      | .error e => (.error e, h) := by
  cases hf : f h.fs h.cwd with
  | ok r =>
    obtain ⟨t, a⟩ := r
    simp [update, hf]
  | error e => simp [update, hf]

/-- An update answering `()`, run: the tree it gives, or the failure and the
    host as it was. -/
theorem update_unit_run (f : FileTree → Loc → Except IoError FileTree) :
    ((update fun t c => (f t c).map (·, ())).run h).run = match f h.fs h.cwd with
      | .ok t => (.ok (), { h with fs := t })
      | .error e => (.error e, h) := by
  rw [update_run]
  cases f h.fs h.cwd <;> rfl

theorem createDir_run (p : Path) : ((createDir p).run h).run = match h.fs.createDir h.cwd p with
    | .ok t => (.ok (), { h with fs := t })
    | .error e => (.error e, h) :=
  update_unit_run h _

theorem createFile_run (p : Path) : ((createFile p).run h).run = match h.fs.createFile h.cwd p with
    | .ok t => (.ok (), { h with fs := t })
    | .error e => (.error e, h) :=
  update_unit_run h _

theorem createDirAll_run (p : Path) :
    ((createDirAll p).run h).run = match h.fs.createDirAll h.cwd p with
      | .ok t => (.ok (), { h with fs := t })
      | .error e => (.error e, h) :=
  update_unit_run h _

theorem writeBytes_run (p : Path) (d : ByteArray) :
    ((writeBytes p d).run h).run = match h.fs.write h.cwd p d with
      | .ok t => (.ok (), { h with fs := t })
      | .error e => (.error e, h) :=
  update_unit_run h _

theorem removeFile_run (p : Path) : ((removeFile p).run h).run = match h.fs.removeFile h.cwd p with
    | .ok t => (.ok (), { h with fs := t })
    | .error e => (.error e, h) :=
  update_unit_run h _

theorem removeAll_run (p : Path) : ((removeAll p).run h).run = match h.fs.removeAll h.cwd p with
    | .ok t => (.ok (), { h with fs := t })
    | .error e => (.error e, h) :=
  update_unit_run h _

theorem rename_run (src dst : Path) :
    ((rename src dst).run h).run = match h.fs.rename h.cwd src dst with
      | .ok t => (.ok (), { h with fs := t })
      | .error e => (.error e, h) :=
  update_unit_run h _

theorem copyFile_run (src dst : Path) :
    ((copyFile src dst).run h).run = match h.fs.copy h.cwd src dst with
      | .ok (t, n) => (.ok n, { h with fs := t })
      | .error e => (.error e, h) := by
  rw [copyFile, update_run]
  cases h.fs.copy h.cwd src dst <;> rfl

theorem log_run (lv : Level) (target message : String) :
    ((log lv target message).run h).run =
      ((), { h with out := h.out.push (.event ⟨lv, target, message⟩) }) := rfl

/-! ## Read-only computations -/

/-- A computation that leaves the host as it found it. -/
def ReadOnly (x : HostM α) : Prop := ∀ h : Host, (x.run h).run.2 = h

namespace ReadOnly

variable {x : HostM α} {f : α → HostM β}

/-- A read-only computation, run: its answer, and the host unchanged. -/
theorem run_eq (hx : ReadOnly x) : (x.run h).run = ((x.run h).run.1, h) :=
  Prod.ext rfl (hx h)

theorem pure (a : α) : ReadOnly (Pure.pure a : HostM α) := fun _ => rfl

theorem bind (hx : ReadOnly x) (hf : ∀ a, ReadOnly (f a)) : ReadOnly (x >>= f) := by
  intro h
  rw [StateT.run_bind, Id.run_bind, hx.run_eq h]
  exact hf _ h

theorem query (q : FileTree → Loc → α) : ReadOnly (Host.query q) := fun _ => rfl

theorem ite {c : Prop} [Decidable c] {y : HostM α} (hx : ReadOnly x) (hy : ReadOnly y) :
    ReadOnly (if c then x else y) := by
  by_cases hc : c
  · rw [if_pos hc]
    exact hx
  · rw [if_neg hc]
    exact hy

end ReadOnly

theorem readOnly_cwdPath : ReadOnly cwdPath := fun _ => rfl

theorem readOnly_absolute (p : Path) : ReadOnly (absolute p) := by
  unfold absolute
  split
  · exact .pure _
  · exact .bind readOnly_cwdPath fun _ => .pure _

theorem readOnly_exists (p : Path) : ReadOnly (exists_ p) := .query _

theorem readOnly_isFile (p : Path) : ReadOnly (isFile p) := .query _

theorem readOnly_readBytes (p : Path) : ReadOnly (readBytes p) := .query _

/-- Choosing a fresh name only asks what exists. -/
theorem readOnly_freshName (dir : Path) (pre post : String) : ReadOnly (freshName dir pre post) := by
  have hpick : ∀ cs, ReadOnly (freshName.pick dir pre post cs) := by
    intro cs
    induction cs with
    | nil => exact .pure _
    | cons c cs ih =>
      unfold freshName.pick
      exact .bind (readOnly_exists _) fun b => .ite ih (.pure _)
  exact hpick _

/-! ## Computations that only write -/

/-- A computation that changes nothing on the host but what is written, to
    which it only adds, and whose answer does not depend on what was written
    before. -/
def OnlyWrites (x : HostM α) : Prop :=
  ∀ h : Host, ∃ w : Array Output,
    (x.run h).run = ((x.run { h with out := #[] }).run.1, { h with out := h.out ++ w })

namespace OnlyWrites

variable {h} {x : HostM α} {f : α → HostM β}

/-- What was written before does not change the answer. -/
theorem answer_eq (hx : OnlyWrites x) (w : Array Output) :
    (x.run { h with out := w }).run.1 = (x.run h).run.1 := by
  obtain ⟨_, hw⟩ := hx { h with out := w }
  obtain ⟨_, hh⟩ := hx h
  rw [hw, hh]

/-- The host after the computation is the host before it, with more written. -/
theorem host_eq (hx : OnlyWrites x) : ∃ w : Array Output, (x.run h).run.2 = { h with out := h.out ++ w } := by
  obtain ⟨w, hw⟩ := hx h
  exact ⟨w, by rw [hw]⟩

/-- The file tree is left as it was. -/
theorem fs_eq (hx : OnlyWrites x) : (x.run h).run.2.fs = h.fs := by
  obtain ⟨w, hw⟩ := hx.host_eq (h := h)
  rw [hw]

theorem pure (a : α) : OnlyWrites (Pure.pure a : HostM α) := fun h => ⟨#[], by simp⟩

theorem query (q : FileTree → Loc → α) : OnlyWrites (Host.query q) := fun h => ⟨#[], by simp [Host.query]⟩

theorem log (lv : Level) (target message : String) : OnlyWrites (Host.log lv target message) :=
  fun h => ⟨#[.event ⟨lv, target, message⟩], by simp [log_run]⟩

/-- A computation that answers from the tree and the working directory alone
    and leaves the host as it was only writes (nothing). -/
theorem of_run_eq (q : FileTree → Loc → α) (hx : ∀ h : Host, (x.run h).run = (q h.fs h.cwd, h)) :
    OnlyWrites x :=
  fun h => ⟨#[], by rw [hx, hx]; simp⟩

/-- The answer of a sequence: the second step's answer at the first one's,
    both on the host the sequence started from. -/
theorem answer_bind (hx : OnlyWrites x) (hf : ∀ a, OnlyWrites (f a)) :
    ((x >>= f).run h).run.1 = ((f (x.run h).run.1).run h).run.1 := by
  obtain ⟨w, hw⟩ := hx.host_eq (h := h)
  rw [StateT.run_bind, Id.run_bind, hw, (hf _).answer_eq]

theorem bind (hx : OnlyWrites x) (hf : ∀ a, OnlyWrites (f a)) : OnlyWrites (x >>= f) := by
  intro h
  obtain ⟨w₁, hw₁⟩ := hx.host_eq (h := h)
  obtain ⟨w₂, hw₂⟩ := (hf (x.run h).run.1).host_eq (h := { h with out := h.out ++ w₁ })
  refine ⟨w₁ ++ w₂, Prod.ext ?_ ?_⟩
  · -- the answer, on either host, is the second step's at the first one's
    rw [answer_bind hx hf, answer_bind hx hf, ← hx.answer_eq (h := h) #[]]
    exact ((hf _).answer_eq (h := h) #[]).symm
  · rw [StateT.run_bind, Id.run_bind, hw₁, hw₂, Array.append_assoc]

theorem ite {c : Prop} [Decidable c] {y : HostM α} (hx : OnlyWrites x) (hy : OnlyWrites y) :
    OnlyWrites (if c then x else y) := by
  by_cases hc : c
  · rw [if_pos hc]
    exact hx
  · rw [if_neg hc]
    exact hy

variable {g : β → α → HostM β}

/-- Steps that only write, one after the other, only write. -/
theorem foldlM (hg : ∀ b a, OnlyWrites (g b a)) (l : List α) (init : β) :
    OnlyWrites (l.foldlM g init) := by
  induction l generalizing init with
  | nil => exact .pure init
  | cons a l ih =>
    rw [List.foldlM_cons]
    exact .bind (hg init a) ih

/-- A loop whose body only writes only writes. -/
theorem forIn {f : α → β → HostM (ForInStep β)} (hf : ∀ a b, OnlyWrites (f a b)) (l : List α)
    (init : β) : OnlyWrites (forIn l init f) := by
  induction l generalizing init with
  | nil => exact .pure init
  | cons a l ih =>
    rw [List.forIn_cons]
    refine .bind (hf a init) fun r => ?_
    cases r with
    | done b => exact .pure b
    | yield b => exact ih b

/-- Steps that only write, taken for each element in turn, only write. -/
theorem forM {f : α → HostM PUnit} (hf : ∀ a, OnlyWrites (f a)) (l : List α) :
    OnlyWrites (l.forM f) := by
  induction l with
  | nil => exact .pure _
  | cons a l ih => exact .bind (hf a) fun _ => ih

/-- A run of steps that only write answers what each step answers on the host
    the run started from. -/
theorem foldlM_answer (hg : ∀ b a, OnlyWrites (g b a)) (l : List α) (init : β) :
    ((l.foldlM g init).run h).run.1 = l.foldl (fun b a => ((g b a).run h).run.1) init := by
  induction l generalizing init with
  | nil => rfl
  | cons a l ih =>
    rw [List.foldlM_cons, answer_bind (hg init a) (foldlM hg l), ih, List.foldl_cons]

end OnlyWrites

end Host

end EdgePack

import Mathlib
import EdgePack.Eval.Evaluator
import EdgePack.Proofs.Host.Path
import EdgePack.Proofs.Host.Listing
import EdgePack.Proofs.Text.Order

/-!
# The samples of a directory

`listSamples dir limit` only reads the host (`listSamples_run`). When the
directory cannot be listed it fails with an i/o error that names it; otherwise
it keeps the entries of the listing that are regular files with the extension
`raw`, exactly, sorts them by file name and keeps the first `limit` of them.
The filter, the sort and the cut come in that order, so which samples a limit
keeps never depends on the order of the listing. In a proper tree the order is
strict and is that of the names' UTF-8 bytes: a directory lists each name once,
and the file name of `dir / n` is `n` (`listSamples_spec`).
-/

namespace EdgePack

open FileTree

/-- Paths sorted by their file names are in the order of their file names. -/
theorem pairwise_mergeSort_fileName (ps : List Path) :
    (ps.mergeSort fun a b => decide (a.fileName ≤ b.fileName)).Pairwise
      fun a b => a.fileName ≤ b.fileName := by
  have hsorted := @List.pairwise_mergeSort Path (fun a b => decide (a.fileName ≤ b.fileName))
    (fun a b c hab hbc => by
      simp only [decide_eq_true_eq] at hab hbc ⊢
      exact le_trans hab hbc)
    (fun a b => by simpa using le_total a.fileName b.fileName) ps
  simpa using hsorted

/-- The loop of `listSamples` only reads the host: after what it found so far,
    it keeps the paths of the names that are regular files with the extension
    `raw`, in order. -/
theorem listSamples_loop_run (dir : Path) (h : Host) (ns : List String) (acc : List Path) :
    StateT.run (forIn ns acc fun n r => do
        let b ← Host.isFile (dir / { text := n })
        if (b && (dir / { text := n }).extension? == some "raw") = true then
          pure (ForInStep.yield (r ++ [dir / { text := n }]))
        else pure (ForInStep.yield r) : HostM (List Path)) h =
      pure (acc ++ (ns.map fun n : String => dir / n).filter fun q =>
        h.fs.isFileAt h.cwd q && q.extension? == some "raw", h) := by
  -- asking whether a path is a regular file reads the host
  have hfile : ∀ q : Path, StateT.run (Host.isFile q) h = pure (h.fs.isFileAt h.cwd q, h) :=
    fun _ => rfl
  induction ns generalizing acc with
  | nil => simp
  | cons n ns ih =>
    simp only [List.forIn_cons, StateT.run_bind, hfile, pure_bind]
    by_cases hc : (h.fs.isFileAt h.cwd (dir / n) && (dir / n).extension? == some "raw") = true
    · simp only [hc, if_true, StateT.run_pure, pure_bind, ih, List.map_cons, List.filter_cons]
      simp
    · simp only [hc, if_false, Bool.false_eq_true, StateT.run_pure, pure_bind, ih, List.map_cons,
        List.filter_cons]

/-- Listing the samples of a directory reads the host and changes nothing: the
    paths of the listing that are regular files with the extension `raw`,
    sorted by file name and cut at the limit. -/
theorem listSamples_run (dir : Path) (limit : Option Nat) (h : Host) :
    ((listSamples dir limit).run h).run = (match h.fs.list h.cwd dir with
      | .error e => .error (.io dir e)
      | .ok names => .ok (
          let sorted := ((names.map fun n : String => dir / n).filter fun q =>
            h.fs.isFileAt h.cwd q && q.extension? == some "raw").mergeSort
              fun a b => decide (a.fileName ≤ b.fileName)
          sorted.take (limit.getD sorted.length)), h) := by
  unfold listSamples Host.listDir Host.query
  simp only [bind_assoc, StateT.run_bind, StateT.run_get, pure_bind]
  cases h.fs.list h.cwd dir with
  | error e => rfl
  | ok names =>
    simp only [StateT.run_bind]
    rw [listSamples_loop_run]
    cases limit <;> simp

/-- The samples of a directory of a proper tree: an i/o error naming the
    directory when it cannot be listed; otherwise the paths `dir / n` of the
    names `n` listed that are regular files with the extension `raw` exactly,
    in strictly ascending order of their file names' UTF-8 bytes, and of them
    the first `limit` (all of them without a limit). The host is left as it
    was. -/
theorem listSamples_spec (dir : Path) (limit : Option Nat) (h : Host) (hp : h.fs.Proper) :
    ((listSamples dir limit).run h).run.2 = h ∧
    match h.fs.list h.cwd dir with
    | .error e => ((listSamples dir limit).run h).run.1 = .error (.io dir e)
    | .ok names => ∃ samples : List Path,
        (∀ q, q ∈ samples ↔ ∃ n ∈ names, q = dir / n ∧ h.fs.isFileAt h.cwd q = true ∧
          q.extension? = some "raw") ∧
        samples.Pairwise (fun a b => a.fileName.toUTF8.data.toList < b.fileName.toUTF8.data.toList) ∧
        ((listSamples dir limit).run h).run.1 = .ok (samples.take (limit.getD samples.length)) := by
  rw [listSamples_run]
  refine ⟨by split <;> rfl, ?_⟩
  cases hl : h.fs.list h.cwd dir with
  | error e => rfl
  | ok names =>
    let found := (names.map fun n : String => dir / n).filter fun q =>
      h.fs.isFileAt h.cwd q && q.extension? == some "raw"
    let sorted := found.mergeSort fun a b => decide (a.fileName ≤ b.fileName)
    -- the file names of the paths found are names of the listing, each once
    have hnames : (names.map fun n : String => dir / n).map Path.fileName = names := by
      rw [List.map_map]
      refine (List.map_congr_left fun n hn => ?_).trans (List.map_id names)
      rw [Function.comp_apply, Path.fileName, Path.PlainName.fileName?_join (hp.list_plain hl n hn),
        Option.getD_some, id]
    have hnodup : (sorted.map Path.fileName).Nodup := by
      refine ((List.mergeSort_perm _ _).map Path.fileName).nodup_iff.2 ?_
      exact (hp.list_nodup hl).sublist (hnames ▸ List.Sublist.map Path.fileName List.filter_sublist)
    have hlt : sorted.Pairwise fun a b => a.fileName < b.fileName :=
      ((pairwise_mergeSort_fileName found).and (List.pairwise_map.1 hnodup)).imp
        fun hab => lt_of_le_of_ne hab.1 hab.2
    refine ⟨sorted, fun q => ?_, hlt.imp fun hab => (String.lt_iff_toUTF8_lt _ _).1 hab, rfl⟩
    simp only [sorted, found, List.mem_mergeSort, List.mem_filter, List.mem_map, Bool.and_eq_true,
      beq_iff_eq]
    constructor
    · rintro ⟨⟨n, hn, rfl⟩, hfile, hext⟩
      exact ⟨n, hn, rfl, hfile, hext⟩
    · rintro ⟨n, hn, rfl, hfile, hext⟩
      exact ⟨⟨n, hn, rfl⟩, hfile, hext⟩

/-- A directory of three samples and a note, as the library's own test has it. -/
def threeSamples : Host where
  fs := ⟨[(["s"], .dir), (["s", "00002_1.raw"], .file .empty), (["s", "00000_7.raw"], .file .empty),
    (["s", "00001_2.raw"], .file .empty), (["s", "notes.txt"], .file .empty)]⟩

theorem listSamples_three_samples : threeSamples.fs.Proper ∧
    (((listSamples ⟨"s"⟩ (some 2)).run threeSamples).run.2 = threeSamples ∧
    match threeSamples.fs.list threeSamples.cwd ⟨"s"⟩ with
    | .error e => ((listSamples ⟨"s"⟩ (some 2)).run threeSamples).run.1 = .error (.io ⟨"s"⟩ e)
    | .ok names => ∃ samples : List Path,
        (∀ q, q ∈ samples ↔ ∃ n ∈ names, q = ⟨"s"⟩ / n ∧ threeSamples.fs.isFileAt threeSamples.cwd q = true ∧
          q.extension? = some "raw") ∧
        samples.Pairwise (fun a b => a.fileName.toUTF8.data.toList < b.fileName.toUTF8.data.toList) ∧
        ((listSamples ⟨"s"⟩ (some 2)).run threeSamples).run.1 = .ok (samples.take 2)) := by
  have hp : threeSamples.fs.Proper := by
    refine ⟨?_, by decide⟩
    simp [threeSamples, Path.plainName_iff]
  exact ⟨hp, listSamples_spec ⟨"s"⟩ (some 2) threeSamples hp⟩

end EdgePack

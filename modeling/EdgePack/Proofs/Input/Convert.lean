import Mathlib
import EdgePack.Input.Convert
import EdgePack.Proofs.Host.Tree
import EdgePack.Proofs.Input.RawFile

/-!
# Converting a directory of pictures

A conversion takes the regular files of the input directory whose extension
is `png` in any case, in name order and as many as the limit allows, and
writes each one's tensor to the output directory under its stem and `.raw`.

The raw name keeps the stem only, so two pictures whose names differ in the
case of the extension alone (`x.png` and `x.PNG`) are written to one raw file:
the later write replaces the earlier one, and both are reported. What a raw
file holds after the batch is therefore the tensor of the *last* picture
written to it (`convertDir_spec`); when the stems are distinct, every raw file
holds its own picture's tensor.

* `hasExtension_eq`: the extension test, as a comparison of lowered texts;
* `WrittenBelow`: a tree with regular files put at some names of one
  directory, every other location as it was. A raw file never lands where a
  picture stands, as their extensions differ (`ne_raw_of_hasExtension`), so
  the pictures read alike before and after any number of raw files are
  written;
* `Converts`: what a batch reports and leaves, kept by each picture encoded
  and written before a batch (`Converts.cons`), so holding of every batch that
  succeeds (`convertAll_converts`).
-/

namespace EdgePack

open Host FileTree

/-! ## Picture names and raw names -/

/-- The extension test, as a comparison of the texts lowered character by
    character. -/
theorem hasExtension_eq (ext : String) (p : Path) :
    hasExtension ext p =
      p.extension?.any fun e => e.toList.map Char.toLower == ext.toList.map Char.toLower := by
  unfold hasExtension
  cases p.extension? with
  | none => rfl
  | some e => simp only [Option.any_some, beq_eq_beq, String.ofList_inj]

/-- A picture's file name has an extension that lowers to `png`. -/
theorem exists_of_hasExtension {s : Path} (hx : hasExtension "png" s = true) :
    ∃ f e, s.fileName? = some f ∧ (Path.splitDot f).2 = some e ∧
      e.toList.map Char.toLower = "png".toList := by
  rw [hasExtension_eq, Option.any_eq_true] at hx
  obtain ⟨e, he, hlow⟩ := hx
  obtain ⟨f, hf, hfe⟩ := Option.bind_eq_some_iff.1 he
  exact ⟨f, e, hf, hfe, by simpa using hlow⟩

/-- The raw name of a picture is a plain name. -/
theorem rawName_plain {s : Path} (hx : hasExtension "png" s = true) :
    Path.PlainName (s.stem?.getD "" ++ ".raw") := by
  obtain ⟨f, e, hf, he, -⟩ := exists_of_hasExtension hx
  obtain ⟨-, -, hsplit⟩ := Path.splitDot_eq_of_snd he
  have hstem : s.stem? = some (Path.splitDot f).1 := by rw [Path.stem?, hf, Option.map_some]
  -- the stem is a part of the file name, which has no separator
  have hsep : '/' ∉ (Path.splitDot f).1.toList := by
    have hno := (Path.PlainName.of_fileName? hf).no_separator
    rw [hsplit, String.toList_append, String.toList_append] at hno
    exact fun h => hno (List.mem_append_left _ (List.mem_append_left _ h))
  rw [hstem, Option.getD_some]
  exact Path.PlainName.append_left hsep ⟨by decide, by decide, by decide, by decide⟩ (by decide)

/-- A raw file never lands where a picture stands: its extension is `raw`,
    or it has none. -/
theorem ne_raw_of_hasExtension {s : Path} (hx : hasExtension "png" s = true) {t : FileTree}
    {cwd l : Loc} {b : Bool} (hr : t.resolve cwd s = .ok (l, b)) (base : Loc) (x : String) :
    l ≠ base ++ [x ++ ".raw"] := by
  obtain ⟨f, e, hf, he, hlow⟩ := exists_of_hasExtension hx
  obtain ⟨l₀, rfl⟩ := resolve_of_fileName? hf hr
  intro heq
  have hname : f = x ++ ".raw" := by
    simpa using (List.append_inj' heq rfl).2
  subst hname
  by_cases hx : x = ""
  · have hnone : (Path.splitDot ".raw").2 = none := by decide
    rw [hx, String.empty_append, hnone] at he
    cases he
  · have hraw : x ++ ".raw" = x ++ "." ++ "raw" := by rw [String.append_assoc]; rfl
    rw [hraw, Path.splitDot_append hx (by decide), Option.some.injEq] at he
    subst he
    exact absurd hlow (by decide)

/-! ## Raw files written into one directory -/

namespace FileTree

/-- Every plain name joined to `output` resolves to that name in the
    directory `base`. -/
def OutputAt (t : FileTree) (cwd : Loc) (output : Path) (base : Loc) : Prop :=
  ∀ n, Path.PlainName n → t.resolve cwd (output / n) = .ok (base ++ [n], false)

/-- `t'` is `t` with regular files put at some names of the directory `base`:
    every directory is kept, and every other location holds what it held. -/
structure WrittenBelow (base : Loc) (names : List String) (t t' : FileTree) : Prop where
  dirs : ∀ l, t.get? l = some .dir → t'.get? l = some .dir
  frame : ∀ l, (∀ n ∈ names, l ≠ base ++ [n]) → t'.get? l = t.get? l

variable {t t' t'' : FileTree} {cwd base : Loc} {output : Path}

theorem OutputAt.of_dirs (ho : OutputAt t cwd output base)
    (hdirs : ∀ l, t.get? l = some .dir → t'.get? l = some .dir) : OutputAt t' cwd output base :=
  fun n hn => resolve_of_dirs hdirs (ho n hn)

namespace WrittenBelow

theorem refl (t : FileTree) (base : Loc) : WrittenBelow base [] t t :=
  ⟨fun _ => id, fun _ _ => rfl⟩

theorem trans {ns ns' : List String} (h₁ : WrittenBelow base ns t t')
    (h₂ : WrittenBelow base ns' t' t'') : WrittenBelow base (ns ++ ns') t t'' := by
  refine ⟨fun l hl => h₂.dirs l (h₁.dirs l hl), fun l hl => ?_⟩
  rw [h₂.frame l fun n hn => hl n (List.mem_append_right _ hn),
    h₁.frame l fun n hn => hl n (List.mem_append_left _ hn)]

/-- A picture stays a regular file, with the same bytes, when only raw files
    are written. -/
theorem picture {names : List String} (hw : WrittenBelow base names t t')
    (hnames : ∀ n ∈ names, ∃ x, n = x ++ ".raw") {s : Path} (hx : hasExtension "png" s = true)
    (hfile : t.isFileAt cwd s = true) : t'.isFileAt cwd s = true ∧ t'.read cwd s = t.read cwd s :=
  isFileAt_read_of_keeps hw.dirs hfile fun l _ hr hl => (hw.frame l fun n hn => by
    obtain ⟨x, rfl⟩ := hnames n hn
    exact ne_raw_of_hasExtension hx hr base x).trans hl

end WrittenBelow

/-- Writing a plain name of the output directory puts a regular file at that
    name of its location. -/
theorem writtenBelow_write (ho : OutputAt t cwd output base) {n : String} (hn : Path.PlainName n)
    {d : ByteArray} (hw : t.write cwd (output / n) d = .ok t') :
    WrittenBelow base [n] t t' ∧ t'.get? (base ++ [n]) = some (.file d) := by
  obtain ⟨l, hr, hl, hnd, rfl⟩ := resolve_of_write_eq_ok hw
  rw [ho n hn] at hr
  cases hr
  refine ⟨⟨get?_put_dir hl hnd, fun m hm => ?_⟩, get?_put_self hl⟩
  rw [get?_put hl, if_neg (hm n (List.mem_singleton_self n))]

/-- A regular file at a name of the output directory is what that name joined
    to the output path reads. -/
theorem OutputAt.read (ho : OutputAt t cwd output base) {n : String} (hn : Path.PlainName n)
    {d : ByteArray} (hl : t.get? (base ++ [n]) = some (.file d)) : t.read cwd (output / n) = .ok d :=
  read_of_resolve (ho n hn) hl

end FileTree

/-! ## One picture after the other -/

section Batch

variable {output : Path} {spec : InputSpec} {base : Loc}

/-- What a batch of pictures, run from `h` to `h'`, reports and leaves: the
    pictures in order, each with the raw path of its stem; raw files put only
    at the raw names of the output directory; and at each raw path the tensor
    of the last picture written to it, as the picture read on `h`. -/
structure Converts (output : Path) (spec : InputSpec) (base : Loc) (h h' : Host)
    (srcs : List Path) (done : List Converted) : Prop where
  sources : done.map Converted.source = srcs
  rawPath : ∀ c ∈ done, c.rawPath = output / (c.source.stem?.getD "" ++ ".raw")
  cwd : h'.cwd = h.cwd
  written : WrittenBelow base (done.map fun c => c.source.stem?.getD "" ++ ".raw") h.fs h'.fs
  last : ∀ c ∈ done, ∃ d x, done.reverse.find? (·.rawPath == c.rawPath) = some d ∧
    (((Source.imageFile d.source).encode spec).run h).run.1 = .ok x ∧
    h'.fs.read h'.cwd c.rawPath = .ok x.data

namespace Converts

theorem nil (h : Host) : Converts output spec base h h [] [] :=
  ⟨rfl, fun _ hc => absurd hc List.not_mem_nil, rfl, WrittenBelow.refl _ _,
    fun _ hc => absurd hc List.not_mem_nil⟩

/-- A raw name that the batch wrote no picture to holds what it held. -/
theorem get?_of_not_written {h h' : Host} {srcs : List Path} {done : List Converted}
    (hc : Converts output spec base h h' srcs done) {n : String}
    (hn : ∀ d ∈ done, d.rawPath ≠ output / n) :
    h'.fs.get? (base ++ [n]) = h.fs.get? (base ++ [n]) := by
  refine hc.written.frame _ fun m hm heq => ?_
  obtain ⟨d, hd, rfl⟩ := List.mem_map.1 hm
  have hname := (List.append_inj' heq rfl).2
  simp only [List.cons.injEq, and_true] at hname
  exact hn d hd (by rw [hc.rawPath d hd, hname, Path.div_string])

/-- One picture encoded and written before a batch: the step of a run. -/
theorem cons {s : Path} {rest : List Path} {h h₂ h' : Host} {done : List Converted}
    {x : RawTensor} (ho : OutputAt h.fs h.cwd output base)
    (hsrc : ∀ s' ∈ s :: rest, hasExtension "png" s' = true ∧ h.fs.isFileAt h.cwd s' = true)
    (he : (((Source.imageFile s).encode spec).run h).run.1 = .ok x)
    (hwr : h.fs.write h.cwd (output / (s.stem?.getD "" ++ ".raw")) x.data = .ok h₂.fs)
    (hcwd : h₂.cwd = h.cwd) (hc : Converts output spec base h₂ h' rest done) :
    Converts output spec base h h' (s :: rest)
      (⟨s, output / (s.stem?.getD "" ++ ".raw"), x.size⟩ :: done) := by
  have hn := rawName_plain (hsrc s List.mem_cons_self).1
  obtain ⟨hw₁, hget⟩ := writtenBelow_write ho hn hwr
  have hw := hw₁.trans hc.written
  -- the pictures still to convert read on `h₂` as on `h`
  have hread : ∀ s' ∈ rest, h₂.fs.read h₂.cwd s' = h.fs.read h.cwd s' := by
    intro s' hs'
    obtain ⟨hx, hf⟩ := hsrc s' (List.mem_cons_of_mem s hs')
    rw [hcwd]
    exact (hw₁.picture (by simp) hx hf).2
  refine ⟨by rw [List.map_cons, hc.sources], ?_, hc.cwd.trans hcwd, hw, ?_⟩
  · intro c hc'
    rcases List.mem_cons.1 hc' with rfl | hc'
    · rfl
    · exact hc.rawPath c hc'
  · intro c hc'
    rw [List.reverse_cons, List.find?_append]
    cases hfind : done.reverse.find? (·.rawPath == c.rawPath) with
    | some d =>
      -- a later picture went to the same raw path, and the last of them is the batch's
      have hd : d ∈ done := List.mem_reverse.1 (List.mem_of_find?_eq_some hfind)
      have hdc : d.rawPath = c.rawPath := by simpa using List.find?_some hfind
      obtain ⟨d', x', hfind', henc, hr⟩ := hc.last d hd
      rw [hdc, hfind] at hfind'
      cases hfind'
      have hsrc' : d.source ∈ rest := hc.sources ▸ List.mem_map_of_mem hd
      refine ⟨d, x', rfl, ?_, hdc ▸ hr⟩
      rw [← Source.encode_imageFile_congr (hread d.source hsrc')]
      exact henc
    | none =>
      -- no later picture did, so this one is the first picture
      have hcd : c = ⟨s, output / (s.stem?.getD "" ++ ".raw"), x.size⟩ := by
        rcases List.mem_cons.1 hc' with rfl | hc'
        · rfl
        · rw [List.find?_eq_none] at hfind
          exact absurd (by simp) (hfind c (List.mem_reverse.2 hc'))
      subst hcd
      refine ⟨⟨s, output / (s.stem?.getD "" ++ ".raw"), x.size⟩, x, ?_, he, ?_⟩
      · simp
      -- and nothing written after it went to its raw name
      have hframe := hc.get?_of_not_written (n := s.stem?.getD "" ++ ".raw") fun d hd hdr => by
        rw [List.find?_eq_none] at hfind
        exact hfind d (List.mem_reverse.2 hd) (by simp [hdr, Path.div_string])
      have ho' : OutputAt h'.fs h'.cwd output base := by
        rw [hc.cwd, hcwd]
        exact ho.of_dirs hw.dirs
      exact ho'.read hn (hframe.trans hget)

end Converts

end Batch

end EdgePack

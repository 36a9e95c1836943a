import Mathlib
import EdgePack.Host.Fs
import EdgePack.Proofs.Host.Path

/-!
# Frames of the file tree

What each operation on the file tree leaves alone, and what it changes.

* Lookups: `put` changes one location and `erase` empties the locations under
  one; a lookup anywhere else reads what was there.
* `FileTree.WellFormed`: every entry stands in a directory. The empty tree is
  well formed and every operation keeps it so. In a well-formed tree nothing
  stands under a location where nothing stands, so a fresh location is fresh
  all the way down (`WellFormed.not_prefix_of_get?_eq_none`).
* Resolution reads only directories: a tree that keeps every directory of
  another resolves every path the other resolves, to the same location
  (`resolve_of_dirs`); a plain name joined to a path that leads to a directory
  resolves to one level below it (`resolve_join_name`).
* `FileTree.Scratch`: a tree that is a base tree with entries added only under
  some fresh locations, its *roots*. Writing under a root keeps it so, and
  erasing every root gives the base back (`Scratch.eq_base`): scratch space
  that is cleared leaves no trace.
-/

namespace EdgePack

/-- The location a component leads to from `here`. -/
def Component.step : Component → Loc → Loc
  | .root, _ => []
  | .current, here => here
  | .parent, here => here.dropLast
  | .name s, here => here ++ [s]

namespace FileTree

variable {t t' : FileTree} {cwd l l' : Loc} {e : Entry} {p : Path}

/-! ## Lookups -/

@[simp] theorem get?_nil (t : FileTree) : t.get? [] = some .dir := rfl

theorem get?_of_ne_nil (hl : l ≠ []) :
    t.get? l = (t.entries.find? (·.1 == l)).map (·.2) := by
  simp [get?, hl]

theorem get?_eq_none_iff (hl : l ≠ []) : t.get? l = none ↔ ∀ x ∈ t.entries, x.1 ≠ l := by
  simp [get?_of_ne_nil hl, List.find?_eq_none]

/-- A listed location holds something. -/
theorem get?_ne_none_of_mem {x : Loc × Entry} (hx : x ∈ t.entries) : t.get? x.1 ≠ none := by
  by_cases hl : x.1 = []
  · simp [hl]
  · rw [ne_eq, get?_eq_none_iff hl]
    exact fun h => h x hx rfl

/-- A location other than the root holding something is listed. -/
theorem exists_mem_of_get?_ne_none (hl : l ≠ []) (h : t.get? l ≠ none) :
    ∃ x ∈ t.entries, x.1 = l := by
  by_contra hno
  exact h ((get?_eq_none_iff hl).2 fun x hx hxl => hno ⟨x, hx, hxl⟩)

/-- Entries added after a location that holds something do not change what it
    holds. -/
theorem get?_append_of_ne_none (extra : List (Loc × Entry)) (h : t.get? l ≠ none) :
    (⟨t.entries ++ extra⟩ : FileTree).get? l = t.get? l := by
  by_cases hl : l = []
  · simp [hl]
  rw [get?_of_ne_nil hl] at h ⊢
  rw [get?_of_ne_nil hl, List.find?_append]
  cases hf : t.entries.find? (·.1 == l) with
  | none => simp [hf] at h
  | some x => simp

/-! ## Putting and erasing -/

/-- Changing entries but not their locations changes what is found at one
    location only by the change. -/
theorem find?_map_of_fst (g : Loc × Entry → Loc × Entry) (hg : ∀ y, (g y).1 = y.1)
    (xs : List (Loc × Entry)) (l : Loc) :
    (xs.map g).find? (·.1 == l) = (xs.find? (·.1 == l)).map g := by
  have hp : ((fun x : Loc × Entry => x.1 == l) ∘ g) = (fun x => x.1 == l) := by
    funext y
    simp [hg]
  rw [List.find?_map, hp]

theorem get?_put (hl : l ≠ []) (l' : Loc) :
    (t.put l e).get? l' = if l' = l then some e else t.get? l' := by
  by_cases hl' : l' = []
  · simp [hl', Ne.symm hl]
  rw [get?_of_ne_nil hl', get?_of_ne_nil hl']
  unfold put
  split
  · rename_i hany
    rw [find?_map_of_fst _ (fun ⟨a, b⟩ => by dsimp only; split <;> rfl)]
    cases hf : t.entries.find? (·.1 == l') with
    | none =>
      -- an entry stands at `l`, so `l'` is another location
      have hne : l' ≠ l := by
        rintro rfl
        obtain ⟨x, hx, hxl⟩ := List.any_eq_true.1 hany
        exact (List.find?_eq_none.1 hf) x hx hxl
      simp [hne]
    | some y =>
      have hy : y.1 = l' := by simpa using List.find?_some hf
      obtain ⟨a, b⟩ := y
      simp only at hy
      subst hy
      by_cases h : a = l <;> simp [h]
  · rename_i hany
    rw [List.find?_append]
    by_cases h : l' = l
    · subst h
      have hnone : t.entries.find? (·.1 == l') = none :=
        List.find?_eq_none.2 fun x hx hxl => hany (List.any_eq_true.2 ⟨x, hx, hxl⟩)
      simp [hnone]
    · cases hf : t.entries.find? (·.1 == l') <;> simp [h, Ne.symm h]

theorem get?_put_self (hl : l ≠ []) : (t.put l e).get? l = some e := by
  simp [get?_put hl]

/-- Putting where no directory stands keeps every directory. -/
theorem get?_put_dir (hl : l ≠ []) (h : t.get? l ≠ some .dir) (m : Loc)
    (hm : t.get? m = some .dir) : (t.put l e).get? m = some .dir := by
  have hml : m ≠ l := fun hml => h (hml ▸ hm)
  rw [get?_put hl, if_neg hml, hm]

/-- Putting at a location where nothing stands adds one entry at the end. -/
theorem put_of_get?_eq_none (hl : l ≠ []) (h : t.get? l = none) :
    t.put l e = ⟨t.entries ++ [(l, e)]⟩ := by
  rw [get?_eq_none_iff hl] at h
  have hany : t.entries.any (·.1 == l) = false := by
    simpa [List.any_eq_false] using h
  simp [put, hany]

/-- The entries after a `put`: the one put, and those before at other locations. -/
theorem mem_put {x : Loc × Entry} (hx : x ∈ (t.put l e).entries) :
    x = (l, e) ∨ (x ∈ t.entries ∧ x.1 ≠ l) := by
  unfold put at hx
  split at hx
  · obtain ⟨⟨a, b⟩, hy, rfl⟩ := List.mem_map.1 hx
    by_cases hyl : a = l
    · left
      simp [hyl]
    · right
      simp [hyl, hy]
  · rename_i hany
    rcases List.mem_append.1 hx with hx | hx
    · exact .inr ⟨hx, fun hxl => hany (List.any_eq_true.2 ⟨x, hx, by simp [hxl]⟩)⟩
    · exact .inl (by simpa using hx)

theorem isPrefixOf_eq_false_iff : l.isPrefixOf l' = false ↔ ¬ l <+: l' := by
  rw [← Bool.not_eq_true, List.isPrefixOf_iff_prefix]

theorem get?_erase_of_not_under (h : ¬ l <+: l') : (t.erase l).get? l' = t.get? l' := by
  by_cases hl' : l' = []
  · simp [hl']
  rw [get?_of_ne_nil hl', get?_of_ne_nil hl']
  simp only [erase, List.find?_filter]
  congr 2
  funext x
  by_cases hx : x.1 = l'
  · simp [hx, isPrefixOf_eq_false_iff.2 h]
  · simp [hx]

theorem get?_erase_of_under (h : l <+: l') (hl' : l' ≠ []) : (t.erase l).get? l' = none := by
  rw [get?_eq_none_iff hl']
  intro x hx hxl
  simp only [erase, List.mem_filter, Bool.not_eq_true', isPrefixOf_eq_false_iff] at hx
  exact hx.2 (hxl ▸ h)

theorem mem_erase {x : Loc × Entry} : x ∈ (t.erase l).entries ↔ x ∈ t.entries ∧ ¬ l <+: x.1 := by
  simp [erase, isPrefixOf_eq_false_iff]

/-! ## Well-formed trees -/

/-- Every entry stands in a directory. -/
def WellFormed (t : FileTree) : Prop := ∀ x ∈ t.entries, t.get? x.1.dropLast = some .dir

theorem wellFormed_empty : (({} : FileTree)).WellFormed := fun _ hx => absurd hx List.not_mem_nil

/-- In a well-formed tree, every location above one that holds something is a
    directory. -/
theorem WellFormed.get?_above (hwf : t.WellFormed) {l l' : Loc} (hl : t.get? l ≠ none)
    (hpre : l' <+: l) (hne : l' ≠ l) : t.get? l' = some .dir := by
  have hl0 : l ≠ [] := by
    rintro rfl
    exact hne (List.prefix_nil.1 hpre)
  -- the entry at `l` stands in its parent, which `l'` is or lies above
  obtain ⟨x, hx, hxl⟩ := exists_mem_of_get?_ne_none hl0 hl
  have hpar : t.get? l.dropLast = some .dir := hxl ▸ hwf x hx
  have hlen : l'.length ≤ l.dropLast.length := by
    have := hpre.length_le
    have : l'.length ≠ l.length := fun h => hne (hpre.eq_of_length h)
    rw [List.length_dropLast]
    omega
  have hpre' : l' <+: l.dropLast :=
    List.prefix_of_prefix_length_le hpre (List.dropLast_prefix l) hlen
  by_cases h : l' = l.dropLast
  · rw [h]
    exact hpar
  · exact WellFormed.get?_above hwf (by rw [hpar]; simp) hpre' h
termination_by l.length
decreasing_by
  rw [List.length_dropLast]
  have : l.length ≠ 0 := by simpa using hl0
  omega

/-- In a well-formed tree, nothing stands under a location where nothing stands. -/
theorem WellFormed.not_prefix_of_get?_eq_none (hwf : t.WellFormed) (hl : t.get? l = none) :
    ∀ x ∈ t.entries, ¬ l <+: x.1 := by
  intro x hx hpre
  by_cases heq : l = x.1
  · exact get?_ne_none_of_mem hx (heq ▸ hl)
  · have := hwf.get?_above (get?_ne_none_of_mem hx) hpre heq
    rw [hl] at this
    cases this

theorem dropLast_ne_self (hl : l ≠ []) : l.dropLast ≠ l := by
  intro h
  have := congrArg List.length h
  rw [List.length_dropLast] at this
  have : l.length ≠ 0 := by simpa using hl
  omega

/-- Putting an entry in a directory keeps a tree well formed, unless it puts a
    file over a directory. -/
theorem WellFormed.put (hwf : t.WellFormed) (hl : l ≠ []) (hp : t.get? l.dropLast = some .dir)
    (hd : t.get? l = some .dir → e = .dir) : (t.put l e).WellFormed := by
  intro x hx
  rw [get?_put hl]
  rcases mem_put hx with rfl | ⟨hx, -⟩
  · simp [dropLast_ne_self hl, hp]
  · by_cases hpar : x.1.dropLast = l
    · -- the entry's parent is the location put at: it was a directory and stays one
      rw [if_pos hpar, hd (hpar ▸ hwf x hx)]
    · rw [if_neg hpar]
      exact hwf x hx

/-- Erasing keeps a tree well formed: what stays stands in what stays. -/
theorem WellFormed.erase (hwf : t.WellFormed) (l : Loc) : (t.erase l).WellFormed := by
  intro x hx
  obtain ⟨hx, hnot⟩ := mem_erase.1 hx
  rw [get?_erase_of_not_under fun h => hnot (h.trans (List.dropLast_prefix x.1))]
  exact hwf x hx

/-! ## Resolution -/

theorem walk_single (c : Component) (here : Loc) :
    resolve.walk t [c] here = .ok (c.step here) := by
  cases c <;> rfl

theorem walk_cons_cons (c c' : Component) (rest : List Component) (here : Loc) :
    resolve.walk t (c :: c' :: rest) here = match t.get? (c.step here) with
      | some .dir => resolve.walk t (c' :: rest) (c.step here)
      | some (.file _) => .error .notADirectory
      | none => .error .notFound := by
  rw [resolve.walk.eq_def]
  cases c <;> rfl

theorem resolve_eq (cwd : Loc) (p : Path) : t.resolve cwd p =
    if p.text.isEmpty then .error .notFound
    else (resolve.walk t p.components (if p.isAbsolute then [] else cwd)).map
      fun l => (l, p.text.endsWith "/" && decide (p.text.length > 1)) := by
  unfold resolve
  split
  · rfl
  · cases resolve.walk t p.components (if p.isAbsolute then [] else cwd) <;> rfl

/-- A walk goes on only through directories, so a tree keeping them walks the
    same way. -/
theorem walk_of_dirs (h : ∀ l, t.get? l = some .dir → t'.get? l = some .dir) :
    ∀ (cs : List Component) (here r : Loc), resolve.walk t cs here = .ok r →
      resolve.walk t' cs here = .ok r
  | [], here, r, hw => hw
  | [c], here, r, hw => by rwa [walk_single] at hw ⊢
  | c :: c' :: rest, here, r, hw => by
    rw [walk_cons_cons] at hw ⊢
    split at hw
    · rename_i hdir
      rw [h _ hdir]
      exact walk_of_dirs h (c' :: rest) _ r hw
    · cases hw
    · cases hw

/-- A tree keeping every directory of another resolves what the other resolves. -/
theorem resolve_of_dirs (h : ∀ l, t.get? l = some .dir → t'.get? l = some .dir)
    {r : Loc × Bool} (hr : t.resolve cwd p = .ok r) : t'.resolve cwd p = .ok r := by
  rw [resolve_eq] at hr ⊢
  split at hr
  · cases hr
  · rename_i hne
    rw [if_neg hne]
    cases hw : resolve.walk t p.components (if p.isAbsolute then [] else cwd) with
    | error e => rw [hw] at hr; cases hr
    | ok l =>
      rw [hw] at hr
      rw [walk_of_dirs h _ _ _ hw]
      exact hr

/-- A walk that ends in a directory goes one name further. -/
theorem walk_append_name (s : String) :
    ∀ (cs : List Component) (here l : Loc), resolve.walk t cs here = .ok l →
      t.get? l = some .dir → resolve.walk t (cs ++ [.name s]) here = .ok (l ++ [s])
  | [], here, l, hw, _ => by
    cases hw
    exact walk_single (.name s) here
  | [c], here, l, hw, hl => by
    rw [walk_single] at hw
    cases hw
    rw [List.cons_append, List.nil_append, walk_cons_cons, hl]
    exact walk_single (.name s) _
  | c :: c' :: rest, here, l, hw, hl => by
    rw [walk_cons_cons] at hw
    rw [List.cons_append, List.cons_append, walk_cons_cons]
    split at hw
    · exact walk_append_name s (c' :: rest) _ l hw hl
    · cases hw
    · cases hw

/-- A plain name joined to a path that leads to a directory resolves one level
    below it. -/
theorem resolve_join_name {s : String} (hs : Path.PlainName s) {b : Bool}
    (hr : t.resolve cwd p = .ok (l, b)) (hl : t.get? l = some .dir) :
    t.resolve cwd (p / s) = .ok (l ++ [s], false) := by
  rw [resolve_eq] at hr ⊢
  split at hr
  · cases hr
  · rename_i hp
    have hp' : p.text ≠ "" := by simpa using hp
    obtain ⟨base, hjoin, -⟩ := hs.text_join hp'
    have hne : (p / s).text.isEmpty = false := by
      rw [Bool.eq_false_iff, ne_eq, String.isEmpty_iff, ← String.toList_inj, hjoin]
      simp
    rw [if_neg (by simp [hne]), hs.components_join hp', hs.isAbsolute_join hp',
      hs.endsWith_join hp']
    cases hw : resolve.walk t p.components (if p.isAbsolute then [] else cwd) with
    | error e => rw [hw] at hr; cases hr
    | ok l₀ =>
      rw [hw] at hr
      cases hr
      rw [walk_append_name s _ _ _ hw hl]
      rfl

/-- A plain name on its own resolves one level below the working directory. -/
theorem resolve_plainName {s : String} (hs : Path.PlainName s) :
    t.resolve cwd ⟨s⟩ = .ok (cwd ++ [s], false) := by
  rw [resolve_eq, if_neg (by simpa using hs.ne_empty), hs.components_mk, hs.isAbsolute_eq,
    walk_single]
  simp [Component.step, hs.endsWith_eq, Except.map]

/-- A walk whose last component is a name ends at that name. -/
theorem walk_append_name_eq (s : String) :
    ∀ (cs : List Component) (here l : Loc), resolve.walk t (cs ++ [.name s]) here = .ok l →
      ∃ l₀, l = l₀ ++ [s]
  | [], here, l, hw => by
    rw [List.nil_append, walk_single] at hw
    cases hw
    exact ⟨here, rfl⟩
  | c :: cs, here, l, hw => by
    obtain ⟨c', rest, he⟩ := List.exists_cons_of_ne_nil
      (List.append_ne_nil_of_right_ne_nil cs (List.cons_ne_nil (Component.name s) []))
    rw [List.cons_append, he, walk_cons_cons] at hw
    split at hw
    · rw [← he] at hw
      exact walk_append_name_eq s cs _ l hw
    · cases hw
    · cases hw

/-- A path with a file name resolves to a location that ends in it. -/
theorem resolve_of_fileName? {s : String} (hs : p.fileName? = some s) {b : Bool}
    (hr : t.resolve cwd p = .ok (l, b)) : ∃ l₀, l = l₀ ++ [s] := by
  rw [resolve_eq] at hr
  split at hr
  · cases hr
  · obtain ⟨cs, hcs⟩ := List.getLast?_eq_some_iff.1 (Path.getLast?_components_of_fileName? hs)
    cases hw : resolve.walk t p.components (if p.isAbsolute then [] else cwd) with
    | error e => rw [hw] at hr; cases hr
    | ok l' =>
      rw [hw] at hr
      cases hr
      rw [hcs] at hw
      exact walk_append_name_eq s cs _ _ hw

/-! ## Operations

One inversion lemma for each operation that changes the tree: what it
resolved, what it checked and the tree it gives. -/

theorem checkParent_eq_ok : t.checkParent l = .ok () ↔ t.get? l.dropLast = some .dir := by
  unfold checkParent
  split
  · simp_all
    rfl
  · simp_all [throw, throwThe, MonadExceptOf.throw]
  · simp_all [throw, throwThe, MonadExceptOf.throw]

theorem createDir_eq_ok (h : t.createDir cwd p = .ok t') :
    ∃ l b, t.resolve cwd p = .ok (l, b) ∧ l ≠ [] ∧ t.get? l = none ∧
      t.get? l.dropLast = some .dir ∧ t' = t.put l .dir := by
  unfold createDir at h
  cases hr : t.resolve cwd p with
  | error e => simp [hr, bind, Except.bind] at h
  | ok r =>
    obtain ⟨l, b⟩ := r
    simp only [hr, bind, Except.bind] at h
    by_cases hl : l = []
    · simp [hl, throw, throwThe, MonadExceptOf.throw] at h
    cases hg : t.get? l with
    | some x => simp [hl, hg, throw, throwThe, MonadExceptOf.throw] at h
    | none =>
      cases hp : t.checkParent l with
      | error e => simp [hl, hg, hp] at h
      | ok u =>
        refine ⟨l, b, rfl, hl, hg, checkParent_eq_ok.1 hp, ?_⟩
        simp [hl, hg, hp, pure, Except.pure] at h
        exact h.symm

theorem createFile_eq_ok (h : t.createFile cwd p = .ok t') :
    ∃ l, t.resolve cwd p = .ok (l, false) ∧ l ≠ [] ∧ t.get? l = none ∧
      t.get? l.dropLast = some .dir ∧ t' = t.put l (.file .empty) := by
  unfold createFile at h
  cases hr : t.resolve cwd p with
  | error e => simp [hr, bind, Except.bind] at h
  | ok r =>
    obtain ⟨l, b⟩ := r
    simp only [hr, bind, Except.bind] at h
    by_cases hl : l = []
    · simp [hl, throw, throwThe, MonadExceptOf.throw] at h
    cases hg : t.get? l with
    | some x => simp [hl, hg, throw, throwThe, MonadExceptOf.throw] at h
    | none =>
      cases hp : t.checkParent l with
      | error e => simp [hl, hg, hp] at h
      | ok u =>
        cases b with
        | true => simp [hl, hg, hp, throw, throwThe, MonadExceptOf.throw] at h
        | false =>
          refine ⟨l, rfl, hl, hg, checkParent_eq_ok.1 hp, ?_⟩
          simp [hl, hg, hp, pure, Except.pure] at h
          exact h.symm

theorem write_eq_ok {d : ByteArray} (h : t.write cwd p d = .ok t') :
    ∃ l b, t.resolve cwd p = .ok (l, b) ∧ l ≠ [] ∧ t.get? l ≠ some .dir ∧
      (t.get? l = none → t.get? l.dropLast = some .dir) ∧ t' = t.put l (.file d) := by
  unfold write at h
  cases hr : t.resolve cwd p with
  | error e => simp [hr, bind, Except.bind] at h
  | ok r =>
    obtain ⟨l, b⟩ := r
    simp only [hr, bind, Except.bind] at h
    by_cases hl : l = []
    · simp [hl, throw, throwThe, MonadExceptOf.throw] at h
    cases hg : t.get? l with
    | some x =>
      cases x with
      | dir => simp [hl, hg, throw, throwThe, MonadExceptOf.throw] at h
      | file d' =>
        cases b with
        | true => simp [hl, hg, throw, throwThe, MonadExceptOf.throw] at h
        | false =>
          refine ⟨l, false, rfl, hl, by simp [hg], by simp [hg], ?_⟩
          simp [hl, hg, pure, Except.pure] at h
          exact h.symm
    | none =>
      cases hp : t.checkParent l with
      | error e => simp [hl, hg, hp] at h
      | ok u =>
        cases b with
        | true => simp [hl, hg, hp, throw, throwThe, MonadExceptOf.throw] at h
        | false =>
          refine ⟨l, false, rfl, hl, by simp [hg], fun _ => checkParent_eq_ok.1 hp, ?_⟩
          simp [hl, hg, hp, pure, Except.pure] at h
          exact h.symm

/-- Reading a regular file that a path resolves to, without a final separator. -/
theorem read_of_resolve {d : ByteArray} (hr : t.resolve cwd p = .ok (l, false))
    (hl : t.get? l = some (.file d)) : t.read cwd p = .ok d := by
  simp [read, hr, hl, bind, Except.bind, pure, Except.pure]

/-- A path written to resolves without a final separator. -/
theorem resolve_of_write_eq_ok {d : ByteArray} (h : t.write cwd p d = .ok t') :
    ∃ l, t.resolve cwd p = .ok (l, false) ∧ l ≠ [] ∧ t.get? l ≠ some .dir ∧
      t' = t.put l (.file d) := by
  obtain ⟨l, b, hr, hl, hnd, -, rfl⟩ := write_eq_ok h
  refine ⟨l, ?_, hl, hnd, rfl⟩
  cases b with
  | false => exact hr
  | true =>
    -- a final separator is refused over a file and where nothing stands
    unfold write at h
    cases hg : t.get? l with
    | none =>
      cases hp : t.checkParent l <;>
        simp [hr, hl, hg, hp, bind, Except.bind, throw, throwThe, MonadExceptOf.throw] at h
    | some x => cases x <;> simp [hr, hl, hg, bind, Except.bind, throw, throwThe, MonadExceptOf.throw] at h

/-- A regular file reads back what was written to it. -/
theorem read_of_write {d : ByteArray} (h : t.write cwd p d = .ok t') : t'.read cwd p = .ok d := by
  obtain ⟨l, hr, hl, hnd, rfl⟩ := resolve_of_write_eq_ok h
  exact read_of_resolve (resolve_of_dirs (fun m hm => get?_put_dir hl hnd m hm) hr) (get?_put_self hl)

theorem read_eq_ok {d : ByteArray} (h : t.read cwd p = .ok d) :
    ∃ l, t.resolve cwd p = .ok (l, false) ∧ t.get? l = some (.file d) := by
  unfold read at h
  cases hr : t.resolve cwd p with
  | error e => simp [hr, bind, Except.bind] at h
  | ok r =>
    obtain ⟨l, b⟩ := r
    simp only [hr, bind, Except.bind] at h
    cases hg : t.get? l with
    | none => simp [hg, throw, throwThe, MonadExceptOf.throw] at h
    | some x =>
      cases x with
      | dir => simp [hg, throw, throwThe, MonadExceptOf.throw] at h
      | file d' =>
        cases b with
        | true => simp [hg, throw, throwThe, MonadExceptOf.throw] at h
        | false =>
          simp only [hg, pure, Except.pure, Except.ok.injEq, Bool.false_eq_true, if_false] at h
          exact ⟨l, rfl, h ▸ hg⟩

/-- A path that names a regular file reads as the file's bytes. -/
theorem read_of_isFileAt (h : t.isFileAt cwd p = true) : ∃ d, t.read cwd p = .ok d := by
  unfold isFileAt at h
  cases hr : t.resolve cwd p with
  | error e => simp [hr] at h
  | ok r =>
    obtain ⟨l, b⟩ := r
    simp only [hr, Bool.and_eq_true, Bool.not_eq_true'] at h
    obtain ⟨rfl, hf⟩ := h
    unfold isFile at hf
    split at hf
    · rename_i d hd
      exact ⟨d, read_of_resolve hr hd⟩
    · cases hf

/-- A tree that keeps the directories of another and one of its regular files
    reads the file's path alike. -/
theorem read_of_dirs (hdirs : ∀ l, t.get? l = some .dir → t'.get? l = some .dir)
    {d : ByteArray} (h : t.read cwd p = .ok d)
    (hfile : ∀ l, t.get? l = some (.file d) → t'.get? l = some (.file d)) :
    t'.read cwd p = .ok d := by
  obtain ⟨l, hr, hl⟩ := read_eq_ok h
  exact read_of_resolve (resolve_of_dirs hdirs hr) (hfile l hl)

/-- A regular file stays one, with the same bytes, in a tree that keeps every
    directory and what stands at the file's location. -/
theorem isFileAt_read_of_keeps (hdirs : ∀ l, t.get? l = some .dir → t'.get? l = some .dir)
    (hfile : t.isFileAt cwd p = true)
    (hkeep : ∀ l d, t.resolve cwd p = .ok (l, false) → t.get? l = some (.file d) →
      t'.get? l = some (.file d)) :
    t'.isFileAt cwd p = true ∧ t'.read cwd p = t.read cwd p := by
  obtain ⟨d, hd⟩ := read_of_isFileAt hfile
  obtain ⟨l, hr, hl⟩ := read_eq_ok hd
  have hr' := resolve_of_dirs hdirs hr
  have hl' := hkeep l d hr hl
  refine ⟨?_, by rw [hd, read_of_resolve hr' hl']⟩
  simp [isFileAt, hr', isFile, hl']

/-- A copy reads the source whole and writes it to the destination. -/
theorem copy_eq_ok {src dst : Path} {n : Nat} (h : t.copy cwd src dst = .ok (t', n)) :
    ∃ d, t.read cwd src = .ok d ∧ t.write cwd dst d = .ok t' ∧ n = d.size := by
  unfold copy at h
  cases hr : t.resolve cwd src with
  | error e => simp [hr, bind, Except.bind] at h
  | ok r =>
    obtain ⟨ls, b⟩ := r
    simp only [hr, bind, Except.bind] at h
    cases hg : t.get? ls with
    | none => simp [hg, throw, throwThe, MonadExceptOf.throw] at h
    | some x =>
      cases x with
      | dir => simp [hg, throw, throwThe, MonadExceptOf.throw] at h
      | file d =>
        cases b with
        | true => simp [hg, throw, throwThe, MonadExceptOf.throw] at h
        | false =>
          cases hw : t.write cwd dst d with
          | error e => simp [hg, hw] at h
          | ok t'' =>
            simp [hg, hw, pure, Except.pure] at h
            obtain ⟨rfl, rfl⟩ := h
            exact ⟨d, read_of_resolve hr hg, hw, rfl⟩

/-- Writing where a path resolves without a final separator, below a directory
    and over no directory, puts the file there. -/
theorem write_of_resolve {d : ByteArray} (hr : t.resolve cwd p = .ok (l, false)) (hl : l ≠ [])
    (hnd : t.get? l ≠ some .dir) (hp : t.get? l.dropLast = some .dir) :
    t.write cwd p d = .ok (t.put l (.file d)) := by
  have hcp : t.checkParent l = .ok () := checkParent_eq_ok.2 hp
  unfold write
  cases hg : t.get? l with
  | none => simp [hr, hl, hg, hcp, bind, Except.bind, pure, Except.pure]
  | some x =>
    cases x with
    | dir => exact absurd hg hnd
    | file d' => simp [hr, hl, hg, bind, Except.bind, pure, Except.pure]

/-- A copy of a source that reads is the write of its bytes. -/
theorem copy_of_read {src dst : Path} {d : ByteArray} (hd : t.read cwd src = .ok d)
    (hw : t.write cwd dst d = .ok t') : t.copy cwd src dst = .ok (t', d.size) := by
  obtain ⟨ls, hr, hg⟩ := read_eq_ok hd
  simp [copy, hr, hg, hw, bind, Except.bind, pure, Except.pure]

theorem removeFile_of_resolve {b : Bool} {d : ByteArray} (hr : t.resolve cwd p = .ok (l, b))
    (hl : t.get? l = some (.file d)) : t.removeFile cwd p = .ok (t.erase l) := by
  simp [removeFile, hr, hl, bind, Except.bind, pure, Except.pure]

theorem removeAll_of_resolve {b : Bool} (hr : t.resolve cwd p = .ok (l, b))
    (hl : t.get? l ≠ none) : t.removeAll cwd p = .ok (t.erase l) := by
  obtain ⟨x, hx⟩ := Option.ne_none_iff_exists'.1 hl
  simp [removeAll, hr, hx, bind, Except.bind, pure, Except.pure]

theorem rename_eq_ok {src dst : Path} (h : t.rename cwd src dst = .ok t') :
    ∃ ls bs ld bd d, t.resolve cwd src = .ok (ls, bs) ∧ t.resolve cwd dst = .ok (ld, bd) ∧
      t.get? ls = some (.file d) ∧ t.get? ld ≠ some .dir ∧ t.get? ld.dropLast = some .dir ∧
      t' = (t.erase ls).put ld (.file d) := by
  unfold rename at h
  cases hs : t.resolve cwd src with
  | error e => simp [hs, bind, Except.bind] at h
  | ok r =>
    obtain ⟨ls, bs⟩ := r
    cases hd : t.resolve cwd dst with
    | error e => simp [hs, hd, bind, Except.bind] at h
    | ok r' =>
      obtain ⟨ld, bd⟩ := r'
      simp only [hs, hd, bind, Except.bind] at h
      cases hg : t.get? ls with
      | none => simp [hg, throw, throwThe, MonadExceptOf.throw] at h
      | some x =>
        cases x with
        | dir => simp [hg, throw, throwThe, MonadExceptOf.throw] at h
        | file d =>
          cases hgd : t.get? ld with
          | some y =>
            cases y with
            | dir => simp [hg, hgd, throw, throwThe, MonadExceptOf.throw] at h
            | file d' =>
              cases hp : t.checkParent ld with
              | error e => simp [hg, hgd, hp] at h
              | ok u =>
                refine ⟨ls, bs, ld, bd, d, rfl, rfl, hg, by simp [hgd], checkParent_eq_ok.1 hp, ?_⟩
                simp [hg, hgd, hp, pure, Except.pure] at h
                exact h.symm
          | none =>
            cases hp : t.checkParent ld with
            | error e => simp [hg, hgd, hp] at h
            | ok u =>
              refine ⟨ls, bs, ld, bd, d, rfl, rfl, hg, by simp [hgd], checkParent_eq_ok.1 hp, ?_⟩
              simp [hg, hgd, hp, pure, Except.pure] at h
              exact h.symm

theorem removeFile_eq_ok (h : t.removeFile cwd p = .ok t') :
    ∃ l b d, t.resolve cwd p = .ok (l, b) ∧ t.get? l = some (.file d) ∧ t' = t.erase l := by
  unfold removeFile at h
  cases hr : t.resolve cwd p with
  | error e => simp [hr, bind, Except.bind] at h
  | ok r =>
    obtain ⟨l, b⟩ := r
    simp only [hr, bind, Except.bind] at h
    cases hg : t.get? l with
    | none => simp [hg, throw, throwThe, MonadExceptOf.throw] at h
    | some x =>
      cases x with
      | dir => simp [hg, throw, throwThe, MonadExceptOf.throw] at h
      | file d =>
        simp [hg, pure, Except.pure] at h
        exact ⟨l, b, d, rfl, hg, h.symm⟩

theorem removeAll_eq_ok (h : t.removeAll cwd p = .ok t') :
    ∃ l b, t.resolve cwd p = .ok (l, b) ∧ t.get? l ≠ none ∧ t' = t.erase l := by
  unfold removeAll at h
  cases hr : t.resolve cwd p with
  | error e => simp [hr, bind, Except.bind] at h
  | ok r =>
    obtain ⟨l, b⟩ := r
    simp only [hr, bind, Except.bind] at h
    cases hg : t.get? l with
    | none => simp [hg, throw, throwThe, MonadExceptOf.throw] at h
    | some x =>
      simp [hg, pure, Except.pure] at h
      exact ⟨l, b, rfl, by simp [hg], h.symm⟩

/-- The flag of a resolved path that does not end with a separator is off. -/
theorem resolve_flag {b : Bool} (h : t.resolve cwd p = .ok (l, b))
    (hs : p.text.endsWith "/" = false) : b = false := by
  rw [resolve_eq] at h
  split at h
  · cases h
  · cases hw : resolve.walk t p.components (if p.isAbsolute then [] else cwd) with
    | error e => rw [hw] at h; cases h
    | ok l₀ =>
      rw [hw] at h
      simp only [Except.map, Except.ok.injEq, Prod.mk.injEq] at h
      rw [← h.2, hs, Bool.false_and]

/-! ## Well-formedness is kept -/

/-- In a well-formed tree nothing stands under a regular file. -/
theorem WellFormed.not_prefix_of_file (hwf : t.WellFormed) {m : Loc} {d : ByteArray}
    (hl : t.get? l = some (.file d)) (hm : t.get? m ≠ none) (hne : t.get? m ≠ some (.file d) ∨ m ≠ l) :
    ¬ l <+: m := by
  intro hpre
  by_cases heq : l = m
  · subst heq
    rcases hne with hne | hne
    · exact hne hl
    · exact hne rfl
  · have := hwf.get?_above hm hpre heq
    rw [hl] at this
    cases this

theorem WellFormed.createDir (hwf : t.WellFormed) (h : t.createDir cwd p = .ok t') :
    t'.WellFormed := by
  obtain ⟨l, b, -, hl, -, hpar, rfl⟩ := createDir_eq_ok h
  exact hwf.put hl hpar fun _ => rfl

theorem WellFormed.createFile (hwf : t.WellFormed) (h : t.createFile cwd p = .ok t') :
    t'.WellFormed := by
  obtain ⟨l, -, hl, hnone, hpar, rfl⟩ := createFile_eq_ok h
  exact hwf.put hl hpar fun hd => by rw [hnone] at hd; cases hd

theorem WellFormed.write (hwf : t.WellFormed) {d : ByteArray} (h : t.write cwd p d = .ok t') :
    t'.WellFormed := by
  obtain ⟨l, b, -, hl, hnd, hpar, rfl⟩ := write_eq_ok h
  refine hwf.put hl ?_ fun hd => absurd hd hnd
  -- a file written over stood in a directory already
  cases hg : t.get? l with
  | none => exact hpar hg
  | some x =>
    obtain ⟨y, hy, rfl⟩ := exists_mem_of_get?_ne_none (t := t) hl (by simp [hg])
    exact hwf y hy

theorem WellFormed.copy (hwf : t.WellFormed) {src dst : Path} {n : Nat}
    (h : t.copy cwd src dst = .ok (t', n)) : t'.WellFormed := by
  obtain ⟨d, -, hw, -⟩ := copy_eq_ok h
  exact hwf.write hw

theorem WellFormed.removeFile (hwf : t.WellFormed) (h : t.removeFile cwd p = .ok t') :
    t'.WellFormed := by
  obtain ⟨l, -, -, -, -, rfl⟩ := removeFile_eq_ok h
  exact hwf.erase l

theorem WellFormed.removeAll (hwf : t.WellFormed) (h : t.removeAll cwd p = .ok t') :
    t'.WellFormed := by
  obtain ⟨l, -, -, -, rfl⟩ := removeAll_eq_ok h
  exact hwf.erase l

/-- A rename keeps every directory: the source is a file, under which nothing
    stands, and the target is no directory. -/
theorem WellFormed.get?_rename (hwf : t.WellFormed) {src dst : Path}
    (h : t.rename cwd src dst = .ok t') (m : Loc) (hm : t.get? m = some .dir) :
    t'.get? m = some .dir := by
  obtain ⟨ls, -, ld, -, d, -, -, hls, hld, -, rfl⟩ := rename_eq_ok h
  have hld0 : ld ≠ [] := fun h0 => hld (h0 ▸ get?_nil t)
  have hml : m ≠ ld := fun h => hld (h ▸ hm)
  rw [get?_put hld0, if_neg hml,
    get?_erase_of_not_under (hwf.not_prefix_of_file hls (by simp [hm]) (.inl (by simp [hm]))), hm]

theorem WellFormed.rename (hwf : t.WellFormed) {src dst : Path}
    (h : t.rename cwd src dst = .ok t') : t'.WellFormed := by
  obtain ⟨ls, bs, ld, bd, d, -, -, hls, hld, hpar, rfl⟩ := rename_eq_ok h
  have hld0 : ld ≠ [] := fun h0 => hld (h0 ▸ get?_nil t)
  -- the target's parent is a directory, so neither the source nor under it
  have hnot : ¬ ls <+: ld.dropLast :=
    hwf.not_prefix_of_file hls (by simp [hpar]) (.inl (by simp [hpar]))
  refine (hwf.erase ls).put hld0 (by rw [get?_erase_of_not_under hnot, hpar]) fun hd => ?_
  by_cases hpre : ls <+: ld
  · rw [get?_erase_of_under hpre hld0] at hd
    cases hd
  · rw [get?_erase_of_not_under hpre] at hd
    exact absurd hd hld

/-- After a rename in a well-formed tree, the target reads as the bytes the
    source held. -/
theorem read_of_rename (hwf : t.WellFormed) {src dst : Path} (h : t.rename cwd src dst = .ok t')
    (hslash : dst.text.endsWith "/" = false) :
    ∃ ls b d, t.resolve cwd src = .ok (ls, b) ∧ t.get? ls = some (.file d) ∧
      t'.read cwd dst = .ok d := by
  have hdirs := hwf.get?_rename h
  obtain ⟨ls, bs, ld, bd, d, hs, hd, hls, hld, -, rfl⟩ := rename_eq_ok h
  have hld0 : ld ≠ [] := fun h0 => hld (h0 ▸ get?_nil t)
  refine ⟨ls, bs, d, hs, hls, read_of_resolve ?_ (get?_put_self hld0)⟩
  rw [← resolve_flag hd hslash]
  exact resolve_of_dirs hdirs hd

/-! ## Making directories -/

/-- `t'` is `t` with directories made in it: well formed when `t` is, holding
    the same regular files, and keeping every directory. -/
def DirsAdded (t t' : FileTree) : Prop :=
  (t.WellFormed → t'.WellFormed) ∧
    (∀ l d, t'.get? l = some (.file d) ↔ t.get? l = some (.file d)) ∧
    ∀ l, t.get? l = some .dir → t'.get? l = some .dir

theorem DirsAdded.refl (t : FileTree) : DirsAdded t t := ⟨id, fun _ _ => Iff.rfl, fun _ => id⟩

theorem DirsAdded.trans {t'' : FileTree} (h₁ : DirsAdded t t') (h₂ : DirsAdded t' t'') :
    DirsAdded t t'' :=
  ⟨h₂.1 ∘ h₁.1, fun l d => (h₂.2.1 l d).trans (h₁.2.1 l d), fun l hl => h₂.2.2 l (h₁.2.2 l hl)⟩

theorem dirsAdded_createDir (h : t.createDir cwd p = .ok t') : DirsAdded t t' := by
  obtain ⟨l, b, -, hl, hnone, -, rfl⟩ := createDir_eq_ok h
  refine ⟨fun hwf => hwf.createDir h, fun m d => ?_,
    get?_put_dir hl (by simp [hnone])⟩
  rw [get?_put hl]
  by_cases hm : m = l
  · subst hm
    simp [hnone]
  · rw [if_neg hm]

theorem dirsAdded_createDirAll_go :
    ∀ (fuel : Nat) (p : Path) (t' : FileTree), createDirAll.go t cwd fuel p = .ok t' →
      DirsAdded t t'
  | 0, p, t', h => by simp [createDirAll.go, throw, throwThe, MonadExceptOf.throw] at h
  | fuel + 1, p, t', h => by
    unfold createDirAll.go at h
    have hthrow : ∀ {e : IoError}, (throw e : Except IoError FileTree) ≠ .ok t' := by
      intro e he
      cases he
    split at h
    · cases h
      exact .refl t
    · split at h
      · cases h
        exact dirsAdded_createDir ‹_›
      · split at h
        · split at h
          · -- the ancestors first, then the directory itself
            rename_i q _
            cases hq : createDirAll.go t cwd fuel q with
            | error e => simp [hq, bind, Except.bind] at h
            | ok t₁ =>
              have h₁ := dirsAdded_createDirAll_go fuel q t₁ hq
              simp only [hq, bind, Except.bind] at h
              split at h
              · cases h
                exact h₁.trans (dirsAdded_createDir (t := t₁) ‹_›)
              · split at h
                · cases h
                  exact h₁
                · exact absurd h hthrow
          · exact absurd h hthrow
        · split at h
          · cases h
            exact .refl t
          · exact absurd h hthrow

/-- Making a directory with its ancestors keeps a tree well formed and its
    regular files as they were. -/
theorem dirsAdded_createDirAll (h : t.createDirAll cwd p = .ok t') : DirsAdded t t' :=
  dirsAdded_createDirAll_go _ p t' h

/-- A path names a directory once it is made. -/
theorem dir_of_createDir (h : t.createDir cwd p = .ok t') :
    ∃ l b, t'.resolve cwd p = .ok (l, b) ∧ t'.get? l = some .dir := by
  obtain ⟨l, b, hr, hl, hnone, -, rfl⟩ := createDir_eq_ok h
  exact ⟨l, b, resolve_of_dirs (get?_put_dir hl (by simp [hnone])) hr, get?_put_self hl⟩

theorem dir_of_isDirAt (h : t.isDirAt cwd p = true) :
    ∃ l b, t.resolve cwd p = .ok (l, b) ∧ t.get? l = some .dir := by
  unfold isDirAt at h
  split at h
  · rename_i l b hr
    unfold isDir at h
    split at h
    · exact ⟨l, b, hr, ‹_›⟩
    · cases h
  · cases h

theorem createDirAll_go_dir :
    ∀ (fuel : Nat) (p : Path) (t' : FileTree), createDirAll.go t cwd fuel p = .ok t' →
      p.text ≠ "" → ∃ l b, t'.resolve cwd p = .ok (l, b) ∧ t'.get? l = some .dir
  | 0, p, t', h, _ => by simp [createDirAll.go, throw, throwThe, MonadExceptOf.throw] at h
  | fuel + 1, p, t', h, hp => by
    unfold createDirAll.go at h
    have hthrow : ∀ {e : IoError}, (throw e : Except IoError FileTree) ≠ .ok t' := by
      intro e he
      cases he
    split at h
    · rename_i hempty
      exact absurd (String.isEmpty_iff.1 hempty) hp
    · split at h
      · cases h
        exact dir_of_createDir ‹_›
      · split at h
        · split at h
          · -- the ancestors first, then the directory itself
            rename_i q _
            cases hq : createDirAll.go t cwd fuel q with
            | error e => simp [hq, bind, Except.bind] at h
            | ok t₁ =>
              simp only [hq, bind, Except.bind] at h
              split at h
              · cases h
                exact dir_of_createDir ‹_›
              · split at h
                · cases h
                  exact dir_of_isDirAt ‹_›
                · exact absurd h hthrow
          · exact absurd h hthrow
        · split at h
          · cases h
            exact dir_of_isDirAt ‹_›
          · exact absurd h hthrow

/-- Making a directory with its ancestors leaves its path naming a directory. -/
theorem dir_of_createDirAll (h : t.createDirAll cwd p = .ok t') (hp : p.text ≠ "") :
    ∃ l b, t'.resolve cwd p = .ok (l, b) ∧ t'.get? l = some .dir :=
  createDirAll_go_dir _ p t' h hp

/-! ## Scratch space -/

/-- `t` is `base` with entries added only under the `roots`, under which
    `base` has nothing. -/
structure Scratch (base : FileTree) (roots : List Loc) (t : FileTree) : Prop where
  fresh : ∀ x ∈ base.entries, ∀ r ∈ roots, ¬ r <+: x.1
  added : ∃ extra : List (Loc × Entry), t.entries = base.entries ++ extra ∧
    ∀ x ∈ extra, ∃ r ∈ roots, r <+: x.1

namespace Scratch

variable {base : FileTree} {roots roots' : List Loc} {r : Loc}

theorem refl (h : ∀ x ∈ base.entries, ∀ r ∈ roots, ¬ r <+: x.1) : Scratch base roots base :=
  ⟨h, [], by simp, by simp⟩

/-- A location where nothing stands in a well-formed tree is a root of scratch
    space over it. -/
theorem of_get?_eq_none (hwf : base.WellFormed) (hr : base.get? r = none) :
    Scratch base [r] base :=
  refl fun x hx r' hr' => by
    rw [List.mem_singleton] at hr'
    exact hr' ▸ hwf.not_prefix_of_get?_eq_none hr x hx

theorem eq_entries (hs : Scratch base roots t) :
    ∃ extra, t = ⟨base.entries ++ extra⟩ ∧ ∀ x ∈ extra, ∃ r ∈ roots, r <+: x.1 := by
  obtain ⟨extra, heq, hextra⟩ := hs.added
  exact ⟨extra, by rw [← heq], hextra⟩

/-- What stands in the base stands in the tree. -/
theorem get?_eq (hs : Scratch base roots t) (h : base.get? l ≠ none) :
    t.get? l = base.get? l := by
  obtain ⟨extra, rfl, -⟩ := hs.eq_entries
  exact get?_append_of_ne_none extra h

theorem get?_dir (hs : Scratch base roots t) (h : base.get? l = some .dir) :
    t.get? l = some .dir := by
  rw [hs.get?_eq (by simp [h]), h]

/-- Putting under a root keeps scratch space. -/
theorem put (hs : Scratch base roots t) (hl : ∃ r ∈ roots, r <+: l) :
    Scratch base roots (t.put l e) := by
  obtain ⟨extra, heq, hextra⟩ := hs.added
  refine ⟨hs.fresh, ?_⟩
  -- nothing of the base stands at `l`, which lies under a root
  have hbase : ∀ x ∈ base.entries, x.1 ≠ l := by
    intro x hx hxl
    obtain ⟨r, hr, hrl⟩ := hl
    exact hs.fresh x hx r hr (hxl ▸ hrl)
  unfold FileTree.put
  split
  · refine ⟨extra.map fun x => if x.1 == l then (x.1, e) else x, ?_, ?_⟩
    · simp only [heq, List.map_append, List.append_cancel_right_eq]
      refine (List.map_congr_left fun ⟨a, b⟩ hx => ?_).trans (List.map_id _)
      simp [hbase _ hx]
    · intro x hx
      obtain ⟨⟨a, b⟩, hy, rfl⟩ := List.mem_map.1 hx
      obtain ⟨r, hr, hpre⟩ := hextra _ hy
      refine ⟨r, hr, ?_⟩
      by_cases hal : a = l <;> simpa [hal] using hpre
  · refine ⟨extra ++ [(l, e)], by rw [heq, List.append_assoc], fun x hx => ?_⟩
    rcases List.mem_append.1 hx with hx | hx
    · exact hextra x hx
    · rw [List.mem_singleton] at hx
      exact hx ▸ hl

/-- Erasing a root clears everything under it. -/
theorem erase (hs : Scratch base roots t) (hr : r ∈ roots) :
    Scratch base (roots.erase r) (t.erase r) := by
  obtain ⟨extra, heq, hextra⟩ := hs.added
  refine ⟨fun x hx r' hr' => hs.fresh x hx r' (List.mem_of_mem_erase hr'),
    extra.filter fun x => !(r.isPrefixOf x.1), ?_, fun x hx => ?_⟩
  · simp only [FileTree.erase, heq, List.filter_append]
    congr 1
    rw [List.filter_eq_self]
    intro x hx
    simp [isPrefixOf_eq_false_iff, hs.fresh x hx r hr]
  · simp only [List.mem_filter, Bool.not_eq_true', isPrefixOf_eq_false_iff] at hx
    obtain ⟨r', hr', hpre⟩ := hextra x hx.1
    have hne : r' ≠ r := by
      rintro rfl
      exact hx.2 hpre
    exact ⟨r', (List.mem_erase_of_ne hne).2 hr', hpre⟩

/-- Scratch space over scratch space is scratch space over the first base. -/
theorem trans {t'' : FileTree} (h₁ : Scratch base roots t) (h₂ : Scratch t roots' t'') :
    Scratch base (roots ++ roots') t'' := by
  obtain ⟨e₁, heq₁, hx₁⟩ := h₁.added
  obtain ⟨e₂, heq₂, hx₂⟩ := h₂.added
  refine ⟨fun x hx r hr => ?_, e₁ ++ e₂, by rw [heq₂, heq₁, List.append_assoc], fun x hx => ?_⟩
  · rcases List.mem_append.1 hr with hr | hr
    · exact h₁.fresh x hx r hr
    · exact h₂.fresh x (heq₁ ▸ List.mem_append_left _ hx) r hr
  · rcases List.mem_append.1 hx with hx | hx
    · obtain ⟨r, hr, h⟩ := hx₁ x hx
      exact ⟨r, List.mem_append_left _ hr, h⟩
    · obtain ⟨r, hr, h⟩ := hx₂ x hx
      exact ⟨r, List.mem_append_right _ hr, h⟩

/-- Scratch space without roots is the base itself. -/
theorem eq_base (hs : Scratch base [] t) : t = base := by
  obtain ⟨extra, rfl, hextra⟩ := hs.eq_entries
  have hnil : extra = [] :=
    List.eq_nil_iff_forall_not_mem.2 fun x hx => by simpa using hextra x hx
  simp [hnil]

end Scratch

end FileTree

end EdgePack

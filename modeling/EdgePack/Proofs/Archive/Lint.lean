import Mathlib
import EdgePack.Archive.FlashList

/-!
# Checking a flash list against an archive

`FlashList.lint` reports first every entry whose binary is not a member of the
archive, in list order, then every entry whose address an earlier entry
already has, in list order (`lint_eq`). The second pass keeps the addresses
seen so far, so an address that `k` entries share is reported `k - 1` times:
the findings number the missing binaries and, at each address, the entries
after the first (`length_repeats_add_card`), and there are none exactly when
every binary is a member and the addresses are distinct
(`repeats_eq_nil_iff`).

* `repeats`: the items of a list that equal an item before them, in order,
  said by position; `FlashList.repeatedAddresses seen` is `repeats` with the
  items of `seen` counted as coming before (`repeatedAddresses_eq`).
-/

namespace EdgePack

section Repeats

variable {α : Type}

/-- The positions after the first, seen through an item put in front. -/
theorem zipIdx_filter_cons (a : α) (xs : List α) (P : α → List α → Prop) [∀ x l, Decidable (P x l)] :
    ((a :: xs).zipIdx.filter fun p => P p.1 ((a :: xs).take p.2)) =
      (if P a [] then [(a, 0)] else []) ++
        ((xs.zipIdx.filter fun p => P p.1 (a :: xs.take p.2)).map fun p => (p.1, p.2 + 1)) := by
  rw [List.zipIdx_cons, List.zipIdx_succ, List.filter_cons, List.filter_map]
  -- what is left differs only in the instances of `P`, taken at the shifted positions
  by_cases h : P a [] <;> simp [h, Function.comp_def] <;> rfl

variable [DecidableEq α]

/-- The items of a list that equal an earlier item, in order: the item at
    position `i` is kept when it is among the `i` items before it. -/
def repeats (xs : List α) : List α :=
  (xs.zipIdx.filter fun p => p.1 ∈ xs.take p.2).map (·.1)

/-- One item more at the end is a repeat exactly when it is among the items
    before it. -/
theorem repeats_append_singleton (xs : List α) (x : α) :
    repeats (xs ++ [x]) = repeats xs ++ if x ∈ xs then [x] else [] := by
  unfold repeats
  -- an item of `xs` sees the same items before it with `x` added at the end
  have hprefix : ∀ p ∈ xs.zipIdx, decide (p.1 ∈ (xs ++ [x]).take p.2) = decide (p.1 ∈ xs.take p.2) := by
    intro p hp
    rw [List.take_append_of_le_length (List.mem_zipIdx' (x := p.1) (i := p.2) hp).1.le]
  rw [List.zipIdx_append, List.filter_append, List.filter_congr hprefix, Nat.zero_add,
    List.zipIdx_singleton, List.map_append]
  by_cases hx : x ∈ xs <;> simp [hx]

/-- Every item is either the first of its value or a repeat. -/
theorem length_repeats_add_card (xs : List α) :
    (repeats xs).length + xs.toFinset.card = xs.length := by
  induction xs using List.reverseRecOn with
  | nil => rfl
  | append_singleton xs x ih =>
    have hfin : (xs ++ [x]).toFinset = insert x xs.toFinset := by
      rw [List.toFinset_append, List.toFinset_cons, List.toFinset_nil, Finset.union_insert,
        Finset.union_empty]
    rw [repeats_append_singleton, hfin, List.length_append, List.length_append, List.length_singleton]
    by_cases hx : x ∈ xs
    · rw [if_pos hx, Finset.card_insert_of_mem (List.mem_toFinset.2 hx), List.length_singleton]
      omega
    · rw [if_neg hx, Finset.card_insert_of_notMem (mt List.mem_toFinset.1 hx), List.length_nil]
      omega

/-- A list has no repeats exactly when its items are distinct. -/
theorem repeats_eq_nil_iff (xs : List α) : repeats xs = [] ↔ xs.Nodup := by
  induction xs using List.reverseRecOn with
  | nil => simp [repeats]
  | append_singleton xs x ih =>
    rw [repeats_append_singleton, List.append_eq_nil_iff, ih, List.nodup_append]
    by_cases hx : x ∈ xs
    · simp [hx]
    · have hne : ∀ a ∈ xs, a ≠ x := fun a ha hax => hx (hax ▸ ha)
      simpa [hx] using fun _ => hne

end Repeats

namespace FlashList

/-- The second pass of the check, by position: an address is reported when it
    was seen before the pass or earlier in it. -/
theorem repeatedAddresses_eq (seen xs : List Nat) :
    repeatedAddresses seen xs =
      (xs.zipIdx.filter fun p => p.1 ∈ seen ∨ p.1 ∈ xs.take p.2).map (·.1) := by
  induction xs generalizing seen with
  | nil => rfl
  | cons a xs ih =>
    rw [zipIdx_filter_cons a xs (fun x l => x ∈ seen ∨ x ∈ l), List.map_append, List.map_map]
    by_cases ha : a ∈ seen
    · -- `a` is reported, and counting it as seen changes nothing after it
      have hsame : ∀ p ∈ xs.zipIdx, decide (p.1 ∈ seen ∨ p.1 ∈ a :: xs.take p.2) =
          decide (p.1 ∈ seen ∨ p.1 ∈ xs.take p.2) := by
        intro p _
        by_cases hp : p.1 = a <;> simp [hp, ha]
      rw [repeatedAddresses, if_pos (List.contains_iff_mem.2 ha), if_pos (Or.inl ha), ih seen,
        List.filter_congr hsame]
      rfl
    · -- `a` is not reported, and is seen from then on
      have hsame : ∀ p ∈ xs.zipIdx, decide (p.1 ∈ seen ∨ p.1 ∈ a :: xs.take p.2) =
          decide (p.1 ∈ a :: seen ∨ p.1 ∈ xs.take p.2) := by
        intro p _
        simp only [List.mem_cons, decide_eq_decide]
        tauto
      rw [repeatedAddresses, if_neg (mt List.contains_iff_mem.1 ha), if_neg (by simpa using ha),
        ih (a :: seen), List.filter_congr hsame]
      rfl

/-- The findings of a check: a text for each entry whose binary is not a
    member, in order, then one for each entry whose address an earlier entry
    has, in order. -/
theorem lint_eq (l : FlashList) (members : List String) :
    l.lint members =
      (l.files.filter fun e => e.bin ∉ members).map (fun e =>
        s!"flash list references '{e.bin}' which is not in the archive") ++
      (repeats (l.files.map (·.address))).map fun a =>
        "flash list maps more than one binary to address " ++ Text.hexMarkedLower a := by
  have hmissing : (l.files.filter fun e => !members.contains e.bin) =
      l.files.filter fun e => e.bin ∉ members := by
    apply List.filter_congr
    intro e _
    simp
  rw [lint, hmissing, repeatedAddresses_eq]
  simp [repeats]

/-- A flash list checked against an archive's members: one finding for each
    entry whose binary is not a member, in entry order, then one for each entry
    whose address an earlier entry already has, in entry order. So a list
    passes exactly when its binaries are members and its addresses distinct, and
    the findings number the missing binaries and the entries beyond the first at
    each address. -/
theorem lint_spec (l : FlashList) (members : List String) :
    l.lint members =
      (l.files.filter fun e => e.bin ∉ members).map (fun e =>
        s!"flash list references '{e.bin}' which is not in the archive") ++
      (repeats (l.files.map (·.address))).map (fun a =>
        "flash list maps more than one binary to address " ++ Text.hexMarkedLower a) ∧
    (l.lint members = [] ↔ (∀ e ∈ l.files, e.bin ∈ members) ∧ (l.files.map (·.address)).Nodup) ∧
    (l.lint members).length = (l.files.filter fun e => e.bin ∉ members).length +
      (l.files.length - (l.files.map (·.address)).toFinset.card) := by
  have hcount := length_repeats_add_card (l.files.map (·.address))
  rw [List.length_map] at hcount
  refine ⟨lint_eq l members, ?_, ?_⟩
  · rw [lint_eq, List.append_eq_nil_iff, List.map_eq_nil_iff, List.map_eq_nil_iff,
      repeats_eq_nil_iff, List.filter_eq_nil_iff]
    simp
  · rw [lint_eq, List.length_append, List.length_map, List.length_map]
    omega

end FlashList

end EdgePack

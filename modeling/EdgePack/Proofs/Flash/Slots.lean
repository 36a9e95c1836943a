import Mathlib
import EdgePack.Flash.Slots
import EdgePack.Proofs.Input.Encode
import EdgePack.Proofs.Flash.Pack

/-!
# Resolving slot sources

Each slot of a layout is probed on its own: its candidates `<i>.png`,
`<i>.jpg`, `<i>.raw` are tried in that order, and the first that is a regular
file is encoded; the slot gets the tensor when that encoding succeeds, and
nothing otherwise, even if a later candidate would encode (`slotTensor`).
Probing only reads files and writes to the log, so every slot is resolved
against the tree the resolution started from, whatever was logged for the
slots before it.

* `find?_resolveSlots`: the map holds, for each slot of the layout, the tensor
  it resolves to, and nothing for slots past the layout;
* `size_of_find?_resolveSlots`: every tensor in it has exactly the bytes the
  input specification needs;
* `firstOverflow_resolveSlots_eq_some_iff`: so packing it overflows at its
  least slot, exactly when such a tensor does not fit in a sector.
-/

namespace EdgePack

open Host

namespace SlotSources

/-- A lookup in a list of slots, as a decision on the first slot. -/
theorem lookup_cons_eq_ite (s k : Nat) (u : RawTensor) (l : List (Nat × RawTensor)) :
    ((k, u) :: l).lookup s = if s = k then some u else l.lookup s := by
  by_cases hs : s = k
  · simp [hs]
  · simp [List.lookup, beq_eq_false_iff_ne.2 hs, hs]

/-- Inserting into a list of slots sets the tensor of one slot and keeps the others. -/
theorem lookup_insertAt (s i : Nat) (t : RawTensor) :
    ∀ l : List (Nat × RawTensor), (insertAt i t l).lookup s = if s = i then some t else l.lookup s
  | [] => by simp [insertAt, lookup_cons_eq_ite]
  | (k, u) :: rest => by
    unfold insertAt
    by_cases hlt : i < k
    · -- the new slot goes first, in front of a larger one
      simp only [if_pos hlt, lookup_cons_eq_ite]
    rw [if_neg hlt]
    by_cases hk : i = k
    · -- the new tensor takes the old one's place
      subst hk
      simp only [if_true, lookup_cons_eq_ite]
      by_cases hs : s = i <;> simp [hs]
    · rw [if_neg hk]
      simp only [lookup_cons_eq_ite, lookup_insertAt s i t rest]
      split_ifs <;> first | rfl | omega

theorem find?_insert (m : SlotSources) (i : Nat) (t : RawTensor) (s : Nat) :
    (m.insert i t).find? s = if s = i then some t else m.find? s :=
  lookup_insertAt s i t m.entries

@[simp] theorem find?_empty (s : Nat) : empty.find? s = none := rfl

end SlotSources

/-- The first candidate that is a regular file, as the tree and the working
    directory tell; the host is left as it was. -/
theorem firstFile_run (ps : List Path) (h : Host) :
    ((firstFile ps).run h).run = (ps.find? (h.fs.isFileAt h.cwd ·), h) := by
  induction ps with
  | nil => rfl
  | cons p ps ih =>
    cases hp : h.fs.isFileAt h.cwd p with
    | true => simp [firstFile, Host.isFile, Host.query, hp]
    | false => simp [firstFile, Host.isFile, Host.query, hp, ih]

theorem onlyWrites_firstFile (ps : List Path) : OnlyWrites (firstFile ps) :=
  .of_run_eq (fun fs cwd => ps.find? (fs.isFileAt cwd ·)) (firstFile_run ps)

/-- The tensor slot `i` resolves to on a host: the first of its candidates in
    `dir` that is a regular file, encoded for `spec`; none when no candidate is
    a file or the first one does not encode. -/
def slotTensor (h : Host) (dir : Path) (spec : InputSpec) (i : Nat) : Option RawTensor :=
  ((slotCandidates dir i).find? (h.fs.isFileAt h.cwd ·)).bind fun p =>
    (((Source.ofPath p).encode spec).run h).run.1.toOption

theorem onlyWrites_resolveSlot (dir : Path) (spec : InputSpec) (i : Nat) :
    OnlyWrites (resolveSlot dir spec i) := by
  unfold resolveSlot
  refine .bind (onlyWrites_firstFile _) fun found => ?_
  cases found with
  | none => exact .bind (.log _ _ _) fun _ => .pure _
  | some p =>
    refine .bind (Source.onlyWrites_encode _ _) fun r => ?_
    cases r with
    | ok t => exact .bind (.log _ _ _) fun _ => .pure _
    | error e => exact .bind (.log _ _ _) fun _ => .pure _

theorem resolveSlot_answer (dir : Path) (spec : InputSpec) (i : Nat) (h : Host) :
    ((resolveSlot dir spec i).run h).run.1 = slotTensor h dir spec i := by
  unfold resolveSlot slotTensor
  -- the search leaves the host as it was, and each branch after it answers at once
  rw [StateT.run_bind, Id.run_bind, firstFile_run]
  cases (slotCandidates dir i).find? (h.fs.isFileAt h.cwd ·) with
  | none => rfl
  | some p =>
    rw [Option.bind_some]
    dsimp only
    rw [StateT.run_bind, Id.run_bind]
    rcases (((Source.ofPath p).encode spec).run h).run with ⟨_ | t, h'⟩ <;> rfl

/-- When every slot given lies in the layout and every tensor has the same
    length `n₀`, one slot overflows exactly when all do: the first overflow is
    the least slot given, when `n₀` exceeds a sector. -/
theorem firstOverflow_eq_some_iff_of_uniform {l : SectorLayout} {m : SlotSources} {n₀ : Nat}
    (hkeys : ∀ {k}, (m.find? k).isSome → k < l.slotCount)
    (hsize : ∀ {k t}, m.find? k = some t → t.size = n₀) {s n : Nat} :
    firstOverflow l m = some (s, n) ↔
      IsLeast {k | (m.find? k).isSome} s ∧ n = n₀ ∧ l.sectorSize < n₀ := by
  constructor
  · intro h
    obtain ⟨-, ⟨t, ht, rfl, hover⟩, hleast⟩ := least_of_firstOverflow_eq_some h
    have hn : t.size = n₀ := hsize ht
    refine ⟨⟨by simp [ht], fun k hk => ?_⟩, hn, hn ▸ hover⟩
    -- a slot below `s` would overflow too, and `firstOverflow` would have found it
    obtain ⟨t', ht'⟩ := Option.isSome_iff_exists.1 hk
    by_contra hlt
    have hfits := hleast k (Nat.lt_of_not_le hlt) t' ht'
    rw [hsize ht'] at hfits
    omega
  · rintro ⟨⟨hs, hmin⟩, rfl, hover⟩
    obtain ⟨t, ht⟩ := Option.isSome_iff_exists.1 hs
    rw [← hsize ht]
    refine firstOverflow_eq_of_least (hkeys hs) ht (hsize ht ▸ hover) fun s' hs' t' ht' => ?_
    exact absurd (hmin (show (m.find? s').isSome by simp [ht'])) (Nat.not_le.2 hs')

section Resolve

variable (dir : Path) (layout : SectorLayout) (spec : InputSpec)

theorem onlyWrites_resolveSlots : OnlyWrites (resolveSlots dir layout spec) := by
  refine .foldlM (fun m i => .bind (onlyWrites_resolveSlot dir spec i) fun r => ?_) _ _
  cases r <;> exact .pure _

/-- Slots `0 … n - 1` resolved one after the other, by any step that puts a
    slot's tensor, when it has one, into the map: each has the tensor it
    resolves to, and no other slot has any. -/
theorem find?_foldl_resolve (h : Host) (step : SlotSources → Nat → SlotSources) (n s : Nat)
    (hstep : ∀ m i, step m i = (slotTensor h dir spec i).elim m (m.insert i)) :
    ((List.range n).foldl step SlotSources.empty).find? s =
      if s < n then slotTensor h dir spec s else none := by
  induction n with
  | zero => simp
  | succ n ih =>
    rw [List.range_succ, List.foldl_append, List.foldl_cons, List.foldl_nil, hstep]
    -- slot `n` is the last one added; the slots before it are as they were
    by_cases hs : s = n
    · subst hs
      cases hn : slotTensor h dir spec s <;> simp [SlotSources.find?_insert, ih]
    · have hlt : s < n + 1 ↔ s < n := by omega
      cases slotTensor h dir spec n <;> simp [SlotSources.find?_insert, ih, hs, hlt]

/-- The resolved map holds, for each slot of the layout, the tensor the slot
    resolves to on the host the resolution started from, and nothing past the
    layout. -/
theorem find?_resolveSlots (h : Host) (s : Nat) :
    (((resolveSlots dir layout spec).run h).run.1).find? s =
      if s < layout.slotCount then slotTensor h dir spec s else none := by
  unfold resolveSlots
  rw [OnlyWrites.foldlM_answer ?steps]
  · refine find?_foldl_resolve dir spec h _ _ s fun m i => ?_
    rw [OnlyWrites.answer_bind (onlyWrites_resolveSlot dir spec i) fun r => ?_, resolveSlot_answer]
    · cases slotTensor h dir spec i <;> rfl
    · cases r <;> exact .pure _
  · intro m i
    refine .bind (onlyWrites_resolveSlot dir spec i) fun r => ?_
    cases r <;> exact .pure _

/-- A slot has a tensor in the resolved map exactly when it is a slot of the
    layout whose first candidate file exists and encodes to that tensor. -/
theorem find?_resolveSlots_eq_some (h : Host) (s : Nat) (t : RawTensor) :
    (((resolveSlots dir layout spec).run h).run.1).find? s = some t ↔
      s < layout.slotCount ∧ ∃ p, (slotCandidates dir s).find? (h.fs.isFileAt h.cwd ·) = some p ∧
        (((Source.ofPath p).encode spec).run h).run.1 = .ok t := by
  rw [find?_resolveSlots, slotTensor]
  by_cases hs : s < layout.slotCount
  · simp only [hs, if_true, true_and, Option.bind_eq_some_iff]
    refine exists_congr fun p => and_congr_right fun _ => ?_
    cases (((Source.ofPath p).encode spec).run h).run.1 <;> simp [Except.toOption]
  · simp [hs]

/-- Every tensor of the resolved map has exactly the bytes the input
    specification needs. -/
theorem size_of_find?_resolveSlots {h : Host} {s : Nat} {t : RawTensor}
    (ht : (((resolveSlots dir layout spec).run h).run.1).find? s = some t) :
    t.size = spec.sizeBytes := by
  obtain ⟨-, p, -, hp⟩ := (find?_resolveSlots_eq_some dir layout spec h s t).1 ht
  exact Source.size_of_encode hp

/-- Only slots of the layout are resolved. -/
theorem lt_of_find?_resolveSlots {h : Host} {s : Nat}
    (hs : ((((resolveSlots dir layout spec).run h).run.1).find? s).isSome) :
    s < layout.slotCount := by
  rw [find?_resolveSlots] at hs
  by_contra hlt
  simp [hlt] at hs

/-- The first overflow of the resolved map is its least slot, when a tensor of
    the specification does not fit in a sector, and there is none otherwise. -/
theorem firstOverflow_resolveSlots_eq_some_iff (h : Host) {s n : Nat} :
    firstOverflow layout ((resolveSlots dir layout spec).run h).run.1 = some (s, n) ↔
      IsLeast {k | ((((resolveSlots dir layout spec).run h).run.1).find? k).isSome} s ∧
        n = spec.sizeBytes ∧ layout.sectorSize < spec.sizeBytes :=
  firstOverflow_eq_some_iff_of_uniform (lt_of_find?_resolveSlots dir layout spec)
    (size_of_find?_resolveSlots dir layout spec)

end Resolve

end EdgePack

import Mathlib
import EdgePack.Host.Path

/-!
# Joining a name to a path

A *plain name* is what a path component names: a piece between separators
that is not empty, not `.` and not `..`. Joined to a path, a plain name is one
component more: `(p / s).components = p.components ++ [.name s]`, whether `p`
ends with a separator or not. The path so joined is absolute when `p` is and
never ends with a separator.

The file name of a path, when it has one, is a plain name
(`PlainName.of_fileName?`), so a file copied under its own name into a
directory lands one level below it.
-/

/-- A piece of a list split at a separator does not contain it. -/
theorem List.not_mem_of_mem_splitOn {α : Type} [BEq α] [LawfulBEq α] {a : α} :
    ∀ {l x : List α}, x ∈ l.splitOn a → a ∉ x
  | [], x, h => by
    rw [List.splitOn_nil, List.mem_singleton] at h
    simp [h]
  | c :: l, x, h => by
    rw [List.splitOn_cons_eq_if_modifyHead] at h
    obtain ⟨y, ys, hy⟩ := List.exists_cons_of_ne_nil (List.splitOn_ne_nil a l)
    split at h
    · rcases List.mem_cons.1 h with rfl | h
      · exact List.not_mem_nil
      · exact List.not_mem_of_mem_splitOn h
    · rename_i hc
      rw [hy, List.modifyHead_cons] at h
      rcases List.mem_cons.1 h with rfl | h
      · have hy' : a ∉ y := List.not_mem_of_mem_splitOn (hy ▸ List.mem_cons_self)
        rw [List.mem_cons, not_or]
        exact ⟨fun hac => hc (by simp [hac]), hy'⟩
      · exact List.not_mem_of_mem_splitOn (hy ▸ List.mem_cons_of_mem _ h)

/-- Joining pieces with a separator, a last piece comes after one more separator. -/
theorem List.intercalate_append_singleton {α : Type} {sep l : List α} :
    ∀ {ls : List (List α)}, ls ≠ [] → sep.intercalate (ls ++ [l]) = sep.intercalate ls ++ sep ++ l
  | [x], _ => by simp
  | x :: y :: ys, _ => by
    rw [List.cons_append, List.cons_append, List.intercalate_cons_cons, ← List.cons_append,
      List.intercalate_append_singleton (List.cons_ne_nil y ys), List.intercalate_cons_cons]
    simp

/-- A list splits at `a` into two pieces or more, the last of them `label`,
    exactly when `label` follows the last `a` of the list. -/
theorem List.splitOn_reverse_eq_cons_cons_iff {α : Type} [BEq α] [LawfulBEq α] {a : α}
    {l label : List α} :
    (∃ x rest, (l.splitOn a).reverse = label :: x :: rest) ↔
      ∃ pre, l = pre ++ a :: label ∧ a ∉ label := by
  constructor
  · rintro ⟨x, rest, h⟩
    have hparts : l.splitOn a = (x :: rest).reverse ++ [label] := by
      rw [← List.reverse_reverse (l.splitOn a), h, List.reverse_cons]
    refine ⟨[a].intercalate (x :: rest).reverse, ?_, ?_⟩
    · -- the list is its pieces joined again
      calc l = [a].intercalate (l.splitOn a) := (List.intercalate_splitOn a).symm
        _ = [a].intercalate (x :: rest).reverse ++ a :: label := by
          rw [hparts, List.intercalate_append_singleton (by simp)]
          simp
    · exact List.not_mem_of_mem_splitOn (hparts ▸ List.mem_append_right _ (List.mem_singleton_self _))
  · rintro ⟨pre, rfl, ha⟩
    obtain ⟨x, rest, hx⟩ := List.exists_cons_of_ne_nil
      (List.reverse_ne_nil_iff.2 (List.splitOn_ne_nil a pre))
    refine ⟨x, rest, ?_⟩
    rw [List.splitOn_append_cons_self, List.splitOn_eq_singleton ha, List.reverse_append, hx]
    rfl

namespace EdgePack

namespace Path

/-! ## Pieces and components -/

/-- The component a piece between separators stands for: none for an empty
    piece or a `.`, a step to the parent for `..`, else a name. -/
def pieceComponent (s : String) : Option Component :=
  if s == "" || s == "." then none else if s == ".." then some .parent else some (.name s)

/-- The components of the pieces of a relative path: a leading `.` piece is a
    current-directory mark. -/
def relativeComponents (ps : List String) : List Component :=
  match ps with
  | "." :: rest => .current :: rest.filterMap pieceComponent
  | _ => ps.filterMap pieceComponent

theorem components_eq (p : Path) : p.components =
    if p.isAbsolute then .root :: p.pieces.filterMap pieceComponent
    else relativeComponents p.pieces := rfl

/-- Pieces added after the first only add their own components. -/
theorem relativeComponents_append {ps : List String} (hps : ps ≠ []) (qs : List String) :
    relativeComponents (ps ++ qs) = relativeComponents ps ++ qs.filterMap pieceComponent := by
  obtain ⟨x, xs, rfl⟩ := List.exists_cons_of_ne_nil hps
  by_cases hx : x = "."
  · subst hx
    simp [relativeComponents]
  · have hrel : ∀ ys, relativeComponents (x :: ys) = (x :: ys).filterMap pieceComponent := by
      intro ys
      unfold relativeComponents
      split
      · rename_i h
        exact absurd (List.cons.inj h).1 hx
      · rfl
    rw [List.cons_append, hrel, hrel, ← List.cons_append, List.filterMap_append]

@[simp] theorem pieceComponent_empty : pieceComponent "" = none := rfl

/-- A plain name: a piece that names an entry. -/
structure PlainName (s : String) : Prop where
  ne_empty : s ≠ ""
  ne_current : s ≠ "."
  ne_parent : s ≠ ".."
  no_separator : '/' ∉ s.toList

theorem PlainName.pieceComponent_eq {s : String} (hs : PlainName s) :
    pieceComponent s = some (.name s) := by
  simp [pieceComponent, hs.ne_empty, hs.ne_current, hs.ne_parent]

theorem PlainName.toList_ne_nil {s : String} (hs : PlainName s) : s.toList ≠ [] := by
  simpa using hs.ne_empty

/-- A piece naming an entry is a plain name. -/
theorem PlainName.of_pieceComponent {x s : String} (hx : '/' ∉ x.toList)
    (h : pieceComponent x = some (.name s)) : PlainName s := by
  unfold pieceComponent at h
  by_cases h₁ : x = ""
  · simp [h₁] at h
  by_cases h₂ : x = "."
  · simp [h₂] at h
  by_cases h₃ : x = ".."
  · simp [h₃] at h
  simp [h₁, h₂, h₃] at h
  subst h
  exact ⟨h₁, h₂, h₃, hx⟩

theorem not_mem_of_mem_pieces {p : Path} {x : String} (hx : x ∈ p.pieces) : '/' ∉ x.toList := by
  obtain ⟨y, hy, rfl⟩ := List.mem_map.1 hx
  simpa using List.not_mem_of_mem_splitOn hy

/-- Every name among the components of a path is a plain name. -/
theorem PlainName.of_mem_components {p : Path} {s : String} (h : .name s ∈ p.components) :
    PlainName s := by
  have hpiece : ∀ ps : List String, ps ⊆ p.pieces → .name s ∈ ps.filterMap pieceComponent →
      PlainName s := by
    intro ps hps hmem
    obtain ⟨x, hx, hxs⟩ := List.mem_filterMap.1 hmem
    exact PlainName.of_pieceComponent (not_mem_of_mem_pieces (hps hx)) hxs
  rw [components_eq] at h
  split at h
  · rcases List.mem_cons.1 h with h | h
    · cases h
    · exact hpiece p.pieces (List.Subset.refl _) h
  · unfold relativeComponents at h
    split at h
    · rename_i rest hps
      rcases List.mem_cons.1 h with h | h
      · cases h
      · exact hpiece rest (hps ▸ List.subset_cons_self _ _) h
    · exact hpiece p.pieces (List.Subset.refl _) h

/-- A file name is the last component of its path. -/
theorem getLast?_components_of_fileName? {p : Path} {s : String} (h : p.fileName? = some s) :
    p.components.getLast? = some (.name s) := by
  unfold fileName? at h
  split at h
  · rename_i n hlast
    cases h
    exact hlast
  · cases h

/-- The file name of a path is a plain name. -/
theorem PlainName.of_fileName? {p : Path} {s : String} (h : p.fileName? = some s) :
    PlainName s :=
  PlainName.of_mem_components (List.mem_of_getLast? (getLast?_components_of_fileName? h))

/-! ## Joining a plain name -/

theorem isAbsolute_iff (p : Path) : p.isAbsolute = true ↔ p.text.toList.head? = some '/' := by
  rw [isAbsolute, String.startsWith_string_iff, ← List.singleton_prefix_iff_head?_eq_some]
  rfl

theorem endsWith_separator_iff (s : String) : s.endsWith "/" = true ↔ ['/'] <:+ s.toList := by
  rw [String.endsWith_eq_endsWith_toSlice, String.Slice.endsWith_string_iff]
  simp

/-- A plain name is relative. -/
theorem PlainName.isAbsolute_eq {s : String} (hs : PlainName s) : (Path.mk s).isAbsolute = false := by
  rw [Bool.eq_false_iff, ne_eq, isAbsolute_iff]
  intro h
  exact hs.no_separator (List.mem_of_mem_head? h)

/-- The text of a plain name joined to a non-empty path: after a separator,
    which the path may already end with. -/
theorem PlainName.text_join {p : Path} {s : String} (hs : PlainName s) (hp : p.text ≠ "") :
    ∃ base : List Char, (p / s).text.toList = base ++ '/' :: s.toList ∧
      (p.text.toList = base ++ ['/'] ∨ p.text.toList = base ∧ base ≠ []) := by
  have hjoin : p / s = join p ⟨s⟩ := rfl
  by_cases hend : p.text.endsWith "/" = true
  · obtain ⟨base, hbase⟩ := (endsWith_separator_iff _).1 hend
    refine ⟨base, ?_, .inl hbase.symm⟩
    simp [hjoin, join, hs.isAbsolute_eq, hend, ← hbase]
  · refine ⟨p.text.toList, ?_, .inr ⟨rfl, by simpa using hp⟩⟩
    simp [hjoin, join, hs.isAbsolute_eq, hend, hp]

/-- A plain name joined to a path is absolute when the path is. -/
theorem PlainName.isAbsolute_join {p : Path} {s : String} (hs : PlainName s) (hp : p.text ≠ "") :
    (p / s).isAbsolute = p.isAbsolute := by
  obtain ⟨base, hjoin, hbase⟩ := hs.text_join hp
  rw [Bool.eq_iff_iff, isAbsolute_iff, isAbsolute_iff, hjoin]
  rcases hbase with h | ⟨h, hne⟩ <;> rw [h] <;> cases base <;> simp_all

/-- A plain name joined to a path is one component more. -/
theorem PlainName.components_join {p : Path} {s : String} (hs : PlainName s) (hp : p.text ≠ "") :
    (p / s).components = p.components ++ [.name s] := by
  obtain ⟨base, hjoin, hbase⟩ := hs.text_join hp
  have hsplit : (p / s).pieces = (base.splitOn '/').map String.ofList ++ [s] := by
    rw [pieces, hjoin, List.splitOn_append_cons_self, List.splitOn_eq_singleton hs.no_separator]
    simp
  have hne : (base.splitOn '/').map String.ofList ≠ [] := by simp
  have hpieces : p.pieces = (base.splitOn '/').map String.ofList ∨
      p.pieces = (base.splitOn '/').map String.ofList ++ [""] := by
    rcases hbase with h | ⟨h, -⟩
    · right
      rw [pieces, h, List.splitOn_append_cons_self]
      simp
    · left
      rw [pieces, h]
  rw [components_eq, components_eq, hs.isAbsolute_join hp, hsplit]
  rcases hpieces with h | h <;> rw [h] <;> split <;>
    simp [List.filterMap_append, relativeComponents_append hne, hs.pieceComponent_eq]

/-- A plain name joined to a path does not end with a separator. -/
theorem PlainName.endsWith_join {p : Path} {s : String} (hs : PlainName s) (hp : p.text ≠ "") :
    (p / s).text.endsWith "/" = false := by
  obtain ⟨base, hjoin, -⟩ := hs.text_join hp
  rw [Bool.eq_false_iff, ne_eq, endsWith_separator_iff, hjoin,
    List.singleton_suffix_iff_getLast?_eq_some, ← List.singleton_append, ← List.append_assoc,
    List.getLast?_append_of_ne_nil _ hs.toList_ne_nil]
  -- the last character is the name's, which is no separator
  exact fun hlast => hs.no_separator (List.mem_of_getLast? hlast)

/-- Joined to the empty path, a plain name stands alone. -/
theorem PlainName.join_of_text_eq_empty {p : Path} {s : String} (hs : PlainName s) (hp : p.text = "") :
    p / s = ⟨s⟩ := by
  show join p ⟨s⟩ = ⟨s⟩
  simp [join, hs.isAbsolute_eq, hp]

/-- A plain name of three characters or more stays plain after any text
    without a separator. -/
theorem PlainName.append_left {a b : String} (ha : '/' ∉ a.toList) (hb : PlainName b)
    (hlen : 3 ≤ b.length) : PlainName (a ++ b) := by
  have hlen' : 3 ≤ (a ++ b).length := by
    rw [String.length_append]
    omega
  refine ⟨fun h => ?_, fun h => ?_, fun h => ?_, ?_⟩
  · simp [h] at hlen'
  · rw [h] at hlen'
    exact absurd hlen' (by decide)
  · rw [h] at hlen'
    exact absurd hlen' (by decide)
  · rw [String.toList_append, List.mem_append]
    exact fun h => h.elim ha hb.no_separator

/-! ## A plain name on its own -/

/-- A plain name on its own is one component. -/
theorem PlainName.components_mk {s : String} (hs : PlainName s) :
    (Path.mk s).components = [.name s] := by
  have hpieces : (Path.mk s).pieces = [s] := by
    rw [pieces, List.splitOn_eq_singleton hs.no_separator]
    simp
  rw [components_eq, hs.isAbsolute_eq, hpieces]
  simp [relativeComponents, hs.ne_current, hs.pieceComponent_eq]

/-- A plain name does not end with a separator. -/
theorem PlainName.endsWith_eq {s : String} (hs : PlainName s) : s.endsWith "/" = false := by
  rw [Bool.eq_false_iff, ne_eq, endsWith_separator_iff, List.singleton_suffix_iff_getLast?_eq_some]
  exact fun hlast => hs.no_separator (List.mem_of_getLast? hlast)

/-! ## File names, stems and extensions -/

/-- A text joined to a path is joined as the path it names. -/
theorem div_string (p : Path) (s : String) : @HDiv.hDiv Path String Path _ p s = p / (⟨s⟩ : Path) :=
  rfl

/-- A plain name joined to a path is the file name of the joined path. -/
theorem PlainName.fileName?_join {p : Path} {s : String} (hs : PlainName s) :
    (p / s).fileName? = some s := by
  have hlast : (p / s).components.getLast? = some (.name s) := by
    by_cases hp : p.text = ""
    · rw [hs.join_of_text_eq_empty hp, hs.components_mk]
      rfl
    · rw [hs.components_join hp, List.getLast?_concat]
  rw [fileName?, hlast]

theorem PlainName.stem?_join {p : Path} {s : String} (hs : PlainName s) :
    (p / s).stem? = some (splitDot s).1 := by
  rw [stem?, hs.fileName?_join, Option.map_some]

theorem PlainName.extension?_join {p : Path} {s : String} (hs : PlainName s) :
    (p / s).extension? = (splitDot s).2 := by
  rw [extension?, hs.fileName?_join, Option.bind_some]

/-- A name made of something, a dot and an extension without a dot splits at
    that dot. -/
theorem splitDot_append {b e : String} (hb : b ≠ "") (he : '.' ∉ e.toList) :
    splitDot (b ++ "." ++ e) = (b, some e) := by
  have hsplit : ((b ++ "." ++ e).toList.splitOn '.').reverse =
      e.toList :: (b.toList.splitOn '.').reverse := by
    simp [List.splitOn_append_cons_self, List.splitOn_eq_singleton he]
  obtain ⟨x, xs, hx⟩ := List.exists_cons_of_ne_nil
    (List.reverse_ne_nil_iff.2 (List.splitOn_ne_nil '.' b.toList))
  -- the pieces before the last dot, joined again, are what stands before it
  have hbefore : ['.'].intercalate (x :: xs).reverse = b.toList := by
    rw [← hx, List.reverse_reverse, List.intercalate_splitOn]
  have hne : b.toList.isEmpty = false := by simpa using hb
  rw [splitDot, hsplit, hx]
  simp only [hbefore, hne, Bool.false_eq_true, if_false, String.ofList_toList]

/-- A name with an extension is its stem, a dot and the extension: the stem is
    not empty, and the extension has no dot. -/
theorem splitDot_eq_of_snd {s e : String} (h : (splitDot s).2 = some e) :
    (splitDot s).1 ≠ "" ∧ '.' ∉ e.toList ∧ s = (splitDot s).1 ++ "." ++ e := by
  rcases hs : (s.toList.splitOn '.').reverse with _ | ⟨after, _ | ⟨x, rest⟩⟩
  · simp [splitDot, hs] at h
  · simp [splitDot, hs] at h
  · have hparts : s.toList.splitOn '.' = (x :: rest).reverse ++ [after] := by
      rw [← List.reverse_reverse (s.toList.splitOn '.'), hs, List.reverse_cons]
    by_cases hb : (['.'].intercalate (x :: rest).reverse).isEmpty
    · simp only [splitDot, hs, hb, if_true] at h
      cases h
    · simp only [splitDot, hs, hb, Bool.false_eq_true, if_false, Option.some.injEq] at h ⊢
      subst h
      refine ⟨by simpa using hb, ?_, ?_⟩
      · simpa using List.not_mem_of_mem_splitOn
          (hparts ▸ List.mem_append_right _ (List.mem_singleton_self after))
      · -- the name is its pieces joined again, the last one after one more dot
        have hjoin : ['.'].intercalate (s.toList.splitOn '.') = s.toList := List.intercalate_splitOn '.'
        rw [← String.toList_inj]
        conv_lhs => rw [← hjoin, hparts, List.intercalate_append_singleton (by simp)]
        simp

end Path

end EdgePack

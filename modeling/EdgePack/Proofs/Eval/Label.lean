import Mathlib
import EdgePack.Eval.Label
import EdgePack.Proofs.Host.Path

/-!
# Reading labels from sample names

A sample named `<id>_<label>.<ext>` carries its class after the last underscore
of its stem, in decimal. `parseLabel` reads a label exactly when the stem is
some text, an underscore, and then a number below `2^64` written in decimal
with any number of leading zeros; it refuses every other path with an error
naming the path's file name (`parseLabel_spec`). So a sample written into a
directory as `q_<n>.<ext>` reads back as `n`, whatever `q` and the extension.

* `decimal_iff`: a non-empty string of ASCII digits is zeros followed by the
  decimal form of the number it spells, and every such string spells it.
-/

namespace EdgePack

/-! ## Decimal digits -/

section Decimal

theorem digitValue_lt {c : Char} (hc : c.isDigit) : '0'.toNat ≤ c.toNat ∧ c.toNat - '0'.toNat < 10 := by
  simp only [Char.isDigit, Bool.and_eq_true, decide_eq_true_eq, UInt32.le_iff_toNat_le] at hc
  have h0 : '0'.val.toNat = 48 := rfl
  have h9 : '9'.val.toNat = 57 := rfl
  simp only [Char.toNat]
  omega

/-- An ASCII digit is the digit character of the value it stands for. -/
theorem digitChar_digitValue {c : Char} (hc : c.isDigit) :
    Nat.digitChar (c.toNat - '0'.toNat) = c := by
  have hv := digitValue_lt hc
  have h0 : '0'.toNat = 48 := rfl
  apply Char.toNat_inj.mp
  rw [Nat.toNat_digitChar_of_lt_ten hv.2]
  omega

theorem decimalValue_append_singleton (l : List Char) (c : Char) :
    decimalValue (l ++ [c]) = decimalValue l * 10 + (c.toNat - '0'.toNat) := by
  simp [decimalValue, List.foldl_append]

/-- Leading zeros add nothing. -/
theorem decimalValue_zeros_append (k : Nat) (l : List Char) :
    decimalValue (List.replicate k '0' ++ l) = decimalValue l := by
  have hzeros : ∀ k, decimalValue (List.replicate k '0') = 0 := by
    intro k
    induction k with
    | zero => rfl
    | succ k ih => rw [List.replicate_succ', decimalValue_append_singleton, ih]; rfl
  rw [decimalValue, List.foldl_append]
  exact congrArg (List.foldl _ · l) (hzeros k)

/-- The decimal form of a number spells it. -/
theorem decimalValue_toDigits (n : Nat) : decimalValue (Nat.toDigits 10 n) = n := by
  induction n using Nat.strong_induction_on with
  | _ n ih =>
    -- the last digit comes off the end
    rw [Nat.toDigits_eq_if (by decide)]
    split
    · rename_i hn
      rw [← List.nil_append [Nat.digitChar n], decimalValue_append_singleton,
        Nat.toNat_digitChar_of_lt_ten hn]
      simp [decimalValue]
    · rename_i hn
      have h0 : '0'.toNat = 48 := rfl
      rw [decimalValue_append_singleton, ih (n / 10) (by omega),
        Nat.toNat_digitChar_of_lt_ten (Nat.mod_lt _ (by decide))]
      omega

/-- A non-empty string of ASCII digits is zeros followed by the decimal form of
    the number it spells. -/
theorem exists_zeros_append_toDigits {l : List Char} (hne : l ≠ []) (hdig : ∀ c ∈ l, c.isDigit) :
    ∃ k, l = List.replicate k '0' ++ Nat.toDigits 10 (decimalValue l) := by
  induction l using List.reverseRecOn with
  | nil => exact absurd rfl hne
  | append_singleton init d ih =>
    have hd : d.isDigit := hdig d (by simp)
    have hdv := (digitValue_lt hd).2
    have hdc : Nat.toDigits 10 (d.toNat - '0'.toNat) = [d] := by
      rw [Nat.toDigits_of_lt_base hdv, digitChar_digitValue hd]
    rw [decimalValue_append_singleton]
    by_cases hinit : init = []
    · subst hinit
      exact ⟨0, by rw [show decimalValue [] = 0 from rfl, Nat.zero_mul, Nat.zero_add, hdc]; rfl⟩
    obtain ⟨k, hk⟩ := ih hinit fun c hc => hdig c (by simp [hc])
    by_cases hv : decimalValue init = 0
    · -- the digits before the last are all zeros
      refine ⟨k + 1, ?_⟩
      rw [hv, Nat.toDigits_zero] at hk
      rw [hv, Nat.zero_mul, Nat.zero_add, hdc, hk, List.replicate_succ']
    · refine ⟨k, ?_⟩
      rw [Nat.mul_comm, ← Nat.toDigits_append_toDigits (by decide) (Nat.pos_of_ne_zero hv) hdv, hdc,
        ← List.append_assoc, ← hk]

/-- The non-empty strings of ASCII digits that spell `n` are the decimal form
    of `n` after any number of zeros. -/
theorem decimal_iff {l : List Char} {n : Nat} :
    (l ≠ [] ∧ (∀ c ∈ l, c.isDigit) ∧ decimalValue l = n) ↔
      ∃ k, l = List.replicate k '0' ++ Nat.toDigits 10 n := by
  constructor
  · rintro ⟨hne, hdig, rfl⟩
    exact exists_zeros_append_toDigits hne hdig
  · rintro ⟨k, rfl⟩
    refine ⟨by simp, fun c hc => ?_, by rw [decimalValue_zeros_append, decimalValue_toDigits]⟩
    rcases List.mem_append.1 hc with h | h
    · rw [List.eq_of_mem_replicate h]
      rfl
    · exact Nat.isDigit_of_mem_toDigits (by decide) (by decide) h

end Decimal

/-! ## Labels -/

section Label

variable {p : Path} {stem : String}

/-- A stem with an underscore is read through the piece after its last one. -/
theorem parseLabel_of_split {label x : List Char} {rest : List (List Char)}
    (hs : p.stem? = some stem) (hsplit : (stem.toList.splitOn '_').reverse = label :: x :: rest) :
    parseLabel p =
      if label.isEmpty || !label.all Char.isDigit then .error (.invalidLabelFormat p.fileName)
      else if decimalValue label < wordModulus then .ok (decimalValue label)
      else .error (.invalidLabelFormat p.fileName) := by
  simp only [parseLabel, hs, hsplit]

/-- A stem without an underscore is refused. -/
theorem parseLabel_of_not_split (hs : p.stem? = some stem)
    (hno : ∀ label x rest, (stem.toList.splitOn '_').reverse ≠ label :: x :: rest) :
    parseLabel p = .error (.invalidLabelFormat p.fileName) := by
  rw [parseLabel, hs]
  dsimp only
  split
  · rename_i label x rest hsplit
    exact absurd hsplit (hno label x rest)
  · rfl

/-- A path with a stem is read as `n` exactly when the stem ends with an
    underscore and a non-empty string of digits spelling `n`, below `2^64`. -/
theorem parseLabel_eq_ok_iff_of_stem (hs : p.stem? = some stem) {n : Nat} :
    parseLabel p = .ok n ↔ ∃ pre label, stem.toList = pre ++ '_' :: label ∧ label ≠ [] ∧
      (∀ c ∈ label, c.isDigit) ∧ decimalValue label = n ∧ n < wordModulus := by
  constructor
  · intro h
    -- a label was read, so the stem split at an underscore
    obtain ⟨label, x, rest, hsplit⟩ :
        ∃ label x rest, (stem.toList.splitOn '_').reverse = label :: x :: rest := by
      by_contra hno
      push Not at hno
      rw [parseLabel_of_not_split hs hno] at h
      cases h
    obtain ⟨pre, hpre, -⟩ := List.splitOn_reverse_eq_cons_cons_iff.1 ⟨x, rest, hsplit⟩
    rw [parseLabel_of_split hs hsplit] at h
    split at h
    · cases h
    · rename_i hgood
      simp only [Bool.or_eq_true, List.isEmpty_iff, Bool.not_eq_eq_eq_not, Bool.not_true,
        List.all_eq_false, not_or, not_exists, not_and] at hgood
      split at h
      · cases h
        exact ⟨pre, label, hpre, hgood.1, fun c hc => by simpa using hgood.2 c hc, rfl, ‹_›⟩
      · cases h
  · rintro ⟨pre, label, hpre, hne, hdig, rfl, hlt⟩
    have hund : '_' ∉ label := fun hu => by simpa using hdig '_' hu
    obtain ⟨x, rest, hsplit⟩ := List.splitOn_reverse_eq_cons_cons_iff.2 ⟨pre, hpre, hund⟩
    rw [parseLabel_of_split hs hsplit]
    simp [hne, List.all_eq_true.2 hdig, hlt]

/-- A path is read as `n` exactly when `n` is below `2^64` and the path's stem
    is some text, an underscore, and `n` in decimal after any number of zeros. -/
theorem parseLabel_eq_ok_iff {n : Nat} :
    parseLabel p = .ok n ↔ n < wordModulus ∧ ∃ (pre : String) (k : Nat),
      p.stem? = some (pre ++ "_" ++ String.ofList (List.replicate k '0') ++ n.repr) := by
  cases hs : p.stem? with
  | none => simp [parseLabel, hs]
  | some stem =>
    rw [parseLabel_eq_ok_iff_of_stem hs]
    constructor
    · rintro ⟨pre, label, hpre, hne, hdig, hval, hlt⟩
      obtain ⟨k, rfl⟩ := decimal_iff.1 ⟨hne, hdig, hval⟩
      refine ⟨hlt, String.ofList pre, k, ?_⟩
      rw [Option.some.injEq, ← String.toList_inj, hpre]
      simp [Nat.repr]
    · rintro ⟨hlt, pre, k, hstem⟩
      obtain ⟨hne, hdig, hval⟩ := decimal_iff.2 ⟨k, rfl⟩
      refine ⟨pre.toList, _, ?_, hne, hdig, hval, hlt⟩
      rw [Option.some.inj hstem]
      simp [Nat.repr]

/-- Every refusal names the path's file name. -/
theorem parseLabel_eq_error {e : EvalError} (h : parseLabel p = .error e) :
    e = .invalidLabelFormat p.fileName := by
  cases hs : p.stem? with
  | none =>
    simp only [parseLabel, hs, Except.error.injEq] at h
    exact h.symm
  | some stem =>
    by_cases hsplit : ∃ label x rest, (stem.toList.splitOn '_').reverse = label :: x :: rest
    · obtain ⟨label, x, rest, hsplit⟩ := hsplit
      rw [parseLabel_of_split hs hsplit] at h
      -- each way out but the label itself is the same refusal
      split at h
      · cases h
        rfl
      · split at h
        · cases h
        · cases h
          rfl
    · push Not at hsplit
      rw [parseLabel_of_not_split hs hsplit] at h
      cases h
      rfl

/-- A sample written into a directory as `q_<n>.<ext>` reads back as `n`. -/
theorem parseLabel_join {dir : Path} {q ext : String} {k n : Nat} (hq : '/' ∉ q.toList)
    (hdot : '.' ∉ ext.toList) (hext : '/' ∉ ext.toList) (hn : n < wordModulus) :
    parseLabel (dir / (q ++ "_" ++ String.ofList (List.replicate k '0') ++ n.repr ++ "." ++ ext)) =
      .ok n := by
  have hdigits : '/' ∉ Nat.toDigits 10 n := fun h => by
    simpa using Nat.isDigit_of_mem_toDigits (by decide) (by decide) h
  have hzeros : '/' ∉ List.replicate k '0' := fun h => by simpa using List.eq_of_mem_replicate h
  have hunder : '_' ∈ (q ++ "_" ++ String.ofList (List.replicate k '0') ++ n.repr ++ "." ++ ext).toList := by
    simp
  -- the name has an underscore, so it is neither empty nor `.` nor `..`
  have hplain : Path.PlainName (q ++ "_" ++ String.ofList (List.replicate k '0') ++ n.repr ++ "." ++ ext) :=
    ⟨fun h => by simp [h] at hunder, fun h => by simp [h] at hunder, fun h => by simp [h] at hunder,
      by simp [Nat.repr, hq, hext, hdigits, hzeros]⟩
  rw [parseLabel_eq_ok_iff, Path.div_string, hplain.stem?_join, Path.splitDot_append (by simp) hdot]
  exact ⟨hn, q, k, rfl⟩

end Label

/-- Labels from sample names. A path is read as the label `n` exactly when `n`
    is below `2^64` and the path's stem is some text, an underscore, and `n` in
    decimal after any number of zeros (so the text after the stem's last
    underscore is a non-empty string of ASCII digits spelling `n`); any other
    path is refused with an error naming its file name. In particular a sample
    written into a directory as `q_<n>.<ext>`, for `q` and the extension without
    a separator and the extension without a dot, reads back as `n`. -/
theorem parseLabel_spec :
    (∀ (p : Path) (n : Nat), parseLabel p = .ok n ↔ n < wordModulus ∧ ∃ (pre : String) (k : Nat),
      p.stem? = some (pre ++ "_" ++ String.ofList (List.replicate k '0') ++ n.repr)) ∧
    (∀ (p : Path) (e : EvalError), parseLabel p = .error e → e = .invalidLabelFormat p.fileName) ∧
    (∀ (dir : Path) (q ext : String) (k n : Nat), '/' ∉ q.toList → '.' ∉ ext.toList →
      '/' ∉ ext.toList → n < wordModulus →
      parseLabel (dir / (q ++ "_" ++ String.ofList (List.replicate k '0') ++ n.repr ++ "." ++ ext)) =
        .ok n) :=
  ⟨fun _ _ => parseLabel_eq_ok_iff, fun _ _ => parseLabel_eq_error,
    fun _ _ _ _ _ hq hdot hext hn => parseLabel_join hq hdot hext hn⟩

/-- `raw_images/test_img_007.png` is a sample of class 7. -/
theorem parseLabel_test_image :
    parseLabel (⟨"raw_images"⟩ / ("test_img" ++ "_" ++ String.ofList (List.replicate 2 '0') ++
      (7 : Nat).repr ++ "." ++ "png")) = .ok 7 :=
  parseLabel_spec.2.2 _ _ _ 2 7 (by simp) (by simp) (by simp) (by decide)

end EdgePack

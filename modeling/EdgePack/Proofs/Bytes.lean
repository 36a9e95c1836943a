import Mathlib
import EdgePack.Data.Bytes

/-!
# Byte arrays as lists

The library keeps bytes in `ByteArray`s and reads them back through
`ByteArray.toList`, a loop over the indices. Here that loop is shown to give
the list of the underlying array (`ByteArray.toList_eq`), so that statements
about bytes can be proved with the lemmas of `List`.

Numbers are written little-endian in a fixed number of bytes, and reading the
bytes back gives the number modulo the range they hold
(`Bytes.leValue_leBytes`).
-/

namespace ByteArray

/-- From index `k` on, the loop of `toList` appends the rest of the array to
    the bytes it has gathered, in reverse, in `acc`. -/
theorem toList_loop (b : ByteArray) (k : Nat) (acc : List UInt8) :
    toList.loop b k acc = acc.reverse ++ List.drop k b.data.toList := by
  have hsize : b.size = b.data.toList.length := by simp [size_data]
  fun_induction toList.loop b k acc with
  | case2 k acc hk =>
    -- past the end nothing is left to append
    rw [hsize] at hk
    rw [List.drop_eq_nil_of_le (Nat.le_of_not_lt hk), List.append_nil]
  | case1 k acc hk ih =>
    rw [hsize] at hk
    have hget : b.get! k = b.data.toList[k] := getElem!_pos b.data k (by simpa using hk)
    rw [ih, List.drop_eq_getElem_cons hk, hget]
    simp

@[simp] theorem toList_eq (b : ByteArray) : b.toList = b.data.toList := by
  simp [toList, toList_loop]

/-- Two byte arrays are equal when they list the same bytes. -/
theorem eq_of_toList_eq {a b : ByteArray} (h : a.toList = b.toList) : a = b := by
  simp only [toList_eq] at h
  exact ByteArray.ext (Array.toList_inj.1 h)

/-- The bytes of a list, cut at `i` and `j`. -/
theorem toList_extract_mk (xs : List UInt8) (i j : Nat) :
    (ByteArray.mk xs.toArray).extract i j = ByteArray.mk ((xs.drop i).take (j - i)).toArray := by
  apply eq_of_toList_eq
  simp [List.extract_eq_take_drop]

end ByteArray

namespace EdgePack.Bytes

/-! ## Little-endian numbers -/

@[simp] theorem length_leBytes (n v : Nat) : (leBytes n v).length = n := by simp [leBytes]

/-- The low byte comes first, then the bytes of the rest. -/
theorem leBytes_succ (n v : Nat) :
    leBytes (n + 1) v = (v % 256).toUInt8 :: leBytes n (v / 256) := by
  simp only [leBytes, Nat.pow_eq, List.range_succ_eq_map, List.map_cons, List.map_map]
  congr 1
  · simp
  · apply List.map_congr_left
    intro i _
    have h : 2 ^ (8 * (i + 1)) = 256 * 2 ^ (8 * i) := by
      rw [Nat.mul_succ, Nat.pow_add, Nat.mul_comm]
    simp only [Function.comp, h, Nat.div_div_eq_div_mul]

theorem leValue_leBytes : ∀ (n v : Nat), leValue (leBytes n v) = v % 256 ^ n
  | 0, v => by simp [leBytes, leValue, Nat.mod_one]
  | n + 1, v => by
    rw [leBytes_succ, leValue, List.foldr_cons, ← leValue, leValue_leBytes n, Nat.pow_succ',
      Nat.mod_mul]
    simp
    omega

theorem leValue_leBytes_of_lt {n v : Nat} (h : v < 256 ^ n) : leValue (leBytes n v) = v := by
  rw [leValue_leBytes, Nat.mod_eq_of_lt h]

end EdgePack.Bytes

import Mathlib.Data.List.Basic

namespace NouvaAgent.Reading

variable {α : Type}

def window (xs : List α) (offset width : ℕ) : List α := (xs.drop offset).take width

def overwrite (xs : List α) (offset : ℕ) (ys : List α) : List α :=
  xs.take offset ++ ys ++ xs.drop (offset + ys.length)

variable {xs ys zs : List α} {offset : ℕ}

theorem length_overwrite (h : offset + ys.length ≤ xs.length) :
    (overwrite xs offset ys).length = xs.length := by
  simp only [overwrite, List.length_append, List.length_take, List.length_drop]
  omega

theorem getElem?_overwrite (h : offset + ys.length ≤ xs.length) (i : ℕ) :
    (overwrite xs offset ys)[i]? =
      if i < offset then xs[i]? else if i < offset + ys.length then ys[i - offset]? else xs[i]? := by
  have htake : (xs.take offset).length = offset := by
    rw [List.length_take]
    omega
  unfold overwrite
  by_cases hi : i < offset
  · rw [if_pos hi, List.append_assoc, List.getElem?_append_left (by omega), List.getElem?_take,
      if_pos hi]
  · rw [if_neg hi, List.append_assoc, List.getElem?_append_right (by omega), htake]
    by_cases hy : i < offset + ys.length
    · rw [if_pos hy, List.getElem?_append_left (by omega)]
    · rw [if_neg hy, List.getElem?_append_right (by omega), List.getElem?_drop]
      congr 1
      omega

theorem getElem?_window (xs : List α) (offset width i : ℕ) :
    (window xs offset width)[i]? = if i < width then xs[offset + i]? else none := by
  rw [window, List.getElem?_take, List.getElem?_drop]

theorem window_overwrite_of_disjoint {start width : ℕ} (h : offset + ys.length ≤ xs.length)
    (haway : start + width ≤ offset ∨ offset + ys.length ≤ start) :
    window (overwrite xs offset ys) start width = window xs start width := by
  apply List.ext_getElem?
  intro i
  rw [getElem?_window, getElem?_window, getElem?_overwrite h]
  by_cases hi : i < width
  · rw [if_pos hi, if_pos hi]
    split
    · rfl
    · rw [if_neg (by omega)]
  · rw [if_neg hi, if_neg hi]

theorem window_overwrite {width : ℕ} (h : offset + ys.length ≤ xs.length)
    (hwidth : ys.length ≤ width) :
    window (overwrite xs offset ys) offset width =
      ys ++ window xs (offset + ys.length) (width - ys.length) := by
  apply List.ext_getElem?
  intro i
  rw [getElem?_window, getElem?_overwrite h]
  by_cases hy : i < ys.length
  · rw [if_pos (by omega), if_neg (by omega), if_pos (by omega), List.getElem?_append_left hy,
      Nat.add_sub_cancel_left]
  · rw [List.getElem?_append_right (by omega), getElem?_window]
    by_cases hi : i < width
    · have hbehind : i - ys.length < width - ys.length := by omega
      rw [if_pos hi, if_pos hbehind, if_neg (by omega), if_neg (by omega)]
      congr 1
      omega
    · rw [if_neg hi, if_neg (by omega)]

theorem overwrite_overwrite (h : offset + zs.length ≤ xs.length) (hshort : ys.length ≤ zs.length) :
    overwrite (overwrite xs offset ys) offset zs = overwrite xs offset zs := by
  apply List.ext_getElem?
  intro i
  rw [getElem?_overwrite (by rw [length_overwrite (by omega)]; omega),
    getElem?_overwrite (by omega), getElem?_overwrite h]
  by_cases hi : i < offset
  · rw [if_pos hi, if_pos hi, if_pos hi]
  · rw [if_neg hi, if_neg hi, if_neg hi]
    by_cases hz : i < offset + zs.length
    · rw [if_pos hz, if_pos hz]
    · rw [if_neg hz, if_neg hz, if_neg (by omega)]

@[simp] theorem overwrite_nil (xs : List α) (offset : ℕ) : overwrite xs offset [] = xs := by
  simp [overwrite]

theorem window_replicate (x : α) {n start width : ℕ} (h : start + width ≤ n) :
    window (List.replicate n x) start width = List.replicate width x := by
  rw [window, List.drop_replicate, List.take_replicate]
  congr 1
  omega

end NouvaAgent.Reading

import Mathlib.Data.List.Basic
import Mathlib.Data.List.Infix
import Mathlib.Data.List.Nodup
import Mathlib.Data.List.Perm.Subperm

namespace NouvaAgent.Matching

variable {α : Type} {W : List (List α)} {r u v w : List α} {c : α}

/-- `u` is the longest suffix of `r` among the words `W`. -/
structure Longest (W : List (List α)) (r u : List α) : Prop where
  suffix : u <:+ r
  mem : u ∈ W
  longest : ∀ v, v <:+ r → v ∈ W → v <:+ u

/-- `u` is the longest of the words `W` that is a suffix of `w`, but not `w` itself. -/
structure Failure (W : List (List α)) (w u : List α) : Prop where
  suffix : u <:+ w
  shorter : u.length < w.length
  mem : u ∈ W
  longest : ∀ v, v <:+ w → v.length < w.length → v ∈ W → v <:+ u

/-- Among the suffixes of `u` that can be continued by `c` within `W`, `v` is the longest; it is
empty where there is none. -/
structure Continues (W : List (List α)) (c : α) (u v : List α) : Prop where
  suffix : v <:+ u
  stop : v = [] ∨ v ++ [c] ∈ W
  longest : ∀ x, x <:+ u → x ∈ W → x ++ [c] ∈ W → x <:+ v

def Closed (W : List (List α)) : Prop := ∀ w c, w ++ [c] ∈ W → w ∈ W

theorem Closed.concat (hW : Closed W) (hw : w ∈ W) (c : α) : Closed (W ++ [w ++ [c]]) := by
  intro u d hu
  obtain hu | hu := List.mem_append.mp hu
  · exact List.mem_append_left _ (hW u d hu)
  · obtain ⟨rfl, _⟩ := List.append_inj' (List.mem_singleton.mp hu) rfl
    exact List.mem_append_left _ hw

theorem Closed.not_mem_concat (hW : Closed W) (hw : w ∉ W) (c : α) : w ++ [c] ∉ W ++ [w] := by
  intro hm
  obtain hm | hm := List.mem_append.mp hm
  · exact hw (hW w c hm)
  · have hlength := congrArg List.length (List.mem_singleton.mp hm)
    simp at hlength

theorem Closed.prefix (hW : Closed W) (hw : w ∈ W) (hu : u <+: w) : u ∈ W := by
  obtain ⟨rest, rfl⟩ := hu
  induction rest using List.reverseRecOn with
  | nil => exact (List.append_nil u) ▸ hw
  | append_singleton rest c ih =>
    rw [← List.append_assoc] at hw
    exact ih (hW _ c hw)

theorem Closed.length_lt (hW : Closed W) (hw : w ∈ W) : w.length < W.length := by
  have hinits : w.inits ⊆ W := fun u hu => hW.prefix hw ((List.mem_inits u w).mp hu)
  have hnodup : w.inits.Nodup := by
    have hlengths : w.inits.map List.length = List.range (w.length + 1) := by
      apply List.ext_getElem
      · simp only [List.length_map, List.length_inits, List.length_range]
      · intro i hi _
        simp only [List.length_map, List.length_inits] at hi
        simp only [List.getElem_map, List.getElem_inits, List.length_take, List.getElem_range]
        omega
    exact List.Nodup.of_map _ (hlengths ▸ List.nodup_range)
  have hle := (List.subperm_of_subset hnodup hinits).length_le
  rw [List.length_inits] at hle
  omega

theorem Longest.step [DecidableEq α] (hW : Closed W) (hnil : [] ∈ W) (hu : Longest W r u)
    (hv : Continues W c u v) : Longest W (r ++ [c]) (if v ++ [c] ∈ W then v ++ [c] else []) := by
  have hlast (x : List α) (hx : x ++ [c] <:+ r ++ [c]) (hm : x ++ [c] ∈ W) : x <:+ v := by
    obtain hx | ⟨t, ht, hx⟩ := List.suffix_concat_iff.mp hx
    · simp at hx
    · obtain rfl := List.append_cancel_right ht
      have hmem := hW x c hm
      exact hv.longest x (hu.longest x hx hmem) hmem hm
  have hall (x : List α) (hx : x <:+ r ++ [c]) (hm : x ∈ W) :
      x = [] ∨ ∃ t, x = t ++ [c] ∧ t <:+ v := by
    obtain rfl | ⟨t, rfl, ht⟩ := List.suffix_concat_iff.mp hx
    · exact .inl rfl
    · exact .inr ⟨t, rfl, hlast t hx hm⟩
  split
  · next hm =>
    refine ⟨List.suffix_concat_iff.mpr (.inr ⟨v, rfl, hv.suffix.trans hu.suffix⟩), hm,
      fun x hx hxm => ?_⟩
    obtain rfl | ⟨t, rfl, ht⟩ := hall x hx hxm
    · exact List.nil_suffix
    · exact List.suffix_concat_iff.mpr (.inr ⟨t, rfl, ht⟩)
  · next hm =>
    refine ⟨List.nil_suffix, hnil, fun x hx hxm => ?_⟩
    obtain rfl | ⟨t, rfl, ht⟩ := hall x hx hxm
    · exact List.nil_suffix
    · obtain rfl | hvm := hv.stop
      · obtain rfl := List.suffix_nil.mp ht
        exact absurd hxm hm
      · exact absurd hvm hm

theorem Failure.step [DecidableEq α] (hW : Closed W) (hnil : [] ∈ W) (hu : Failure W w u)
    (hv : Continues W c u v) : Failure W (w ++ [c]) (if v ++ [c] ∈ W then v ++ [c] else []) := by
  have hle := hv.suffix.length_le
  have hshort := hu.shorter
  have hall (x : List α) (hx : x <:+ w ++ [c]) (hlen : x.length < (w ++ [c]).length)
      (hm : x ∈ W) : x = [] ∨ ∃ t, x = t ++ [c] ∧ t <:+ v := by
    obtain rfl | ⟨t, rfl, ht⟩ := List.suffix_concat_iff.mp hx
    · exact .inl rfl
    · have hmem := hW t c hm
      simp only [List.length_append, List.length_singleton] at hlen
      exact .inr ⟨t, rfl, hv.longest t (hu.longest t ht (by omega) hmem) hmem hm⟩
  split
  · next hm =>
    refine ⟨List.suffix_concat_iff.mpr (.inr ⟨v, rfl, hv.suffix.trans hu.suffix⟩), ?_, hm,
      fun x hx hlen hxm => ?_⟩
    · simp only [List.length_append, List.length_singleton]
      omega
    · obtain rfl | ⟨t, rfl, ht⟩ := hall x hx hlen hxm
      · exact List.nil_suffix
      · exact List.suffix_concat_iff.mpr (.inr ⟨t, rfl, ht⟩)
  · next hm =>
    refine ⟨List.nil_suffix, by simp, hnil, fun x hx hlen hxm => ?_⟩
    obtain rfl | ⟨t, rfl, ht⟩ := hall x hx hlen hxm
    · exact List.nil_suffix
    · obtain rfl | hvm := hv.stop
      · obtain rfl := List.suffix_nil.mp ht
        exact absurd hxm hm
      · exact absurd hvm hm

theorem Continues.fall (hu : Failure W w u) (hw : w ++ [c] ∉ W) (hv : Continues W c u v) :
    Continues W c w v := by
  refine ⟨hv.suffix.trans hu.suffix, hv.stop, fun x hx hm hc => hv.longest x ?_ hm hc⟩
  refine hu.longest x hx (lt_of_le_of_ne hx.length_le fun hlen => ?_) hm
  exact hw (hx.eq_of_length hlen ▸ hc)

theorem Continues.here (hw : w = [] ∨ w ++ [c] ∈ W) : Continues W c w w :=
  ⟨List.suffix_rfl, hw, fun _ hx _ _ => hx⟩

def maxLength (tokens : List (List α)) : ℕ := (tokens.map List.length).foldr max 0

theorem le_maxLength {tokens : List (List α)} {t : List α} (ht : t ∈ tokens) :
    t.length ≤ maxLength tokens := by
  induction tokens with
  | nil => cases ht
  | cons s rest ih =>
    unfold maxLength
    rw [List.map_cons, List.foldr_cons]
    obtain rfl | hm := List.mem_cons.mp ht
    · exact le_max_left _ _
    · exact (ih hm).trans (le_max_right _ _)

theorem maxLength_le {tokens : List (List α)} {n : ℕ} (h : ∀ t ∈ tokens, t.length ≤ n) :
    maxLength tokens ≤ n := by
  induction tokens with
  | nil => exact Nat.zero_le n
  | cons s rest ih =>
    unfold maxLength
    rw [List.map_cons, List.foldr_cons]
    exact max_le (h s List.mem_cons_self) (ih fun t ht => h t (List.mem_cons_of_mem s ht))

theorem exists_maxLength {tokens : List (List α)} (h : 0 < maxLength tokens) :
    ∃ t ∈ tokens, t.length = maxLength tokens := by
  induction tokens with
  | nil => cases h
  | cons s rest ih =>
    have hcons : maxLength (s :: rest) = max s.length (maxLength rest) := rfl
    rw [hcons] at h ⊢
    by_cases hs : s.length ≤ maxLength rest
    · rw [max_eq_right hs] at h ⊢
      obtain ⟨t, ht, hl⟩ := ih h
      exact ⟨t, List.mem_cons_of_mem s ht, hl⟩
    · exact ⟨s, List.mem_cons_self, (max_eq_left (by omega)).symm⟩

def longestOf (tokens : List (List α)) (P : List α → Bool) : ℕ := maxLength (tokens.filter P)

theorem le_longestOf {tokens : List (List α)} {P : List α → Bool} {t : List α} (ht : t ∈ tokens)
    (hP : P t = true) : t.length ≤ longestOf tokens P :=
  le_maxLength (List.mem_filter.mpr ⟨ht, hP⟩)

theorem longestOf_le {tokens : List (List α)} {P : List α → Bool} {n : ℕ}
    (h : ∀ t ∈ tokens, P t = true → t.length ≤ n) : longestOf tokens P ≤ n :=
  maxLength_le fun t ht => h t (List.mem_filter.mp ht).1 (List.mem_filter.mp ht).2

theorem exists_longestOf {tokens : List (List α)} {P : List α → Bool}
    (h : 0 < longestOf tokens P) :
    ∃ t ∈ tokens, P t = true ∧ t.length = longestOf tokens P := by
  obtain ⟨t, ht, hl⟩ := exists_maxLength h
  exact ⟨t, (List.mem_filter.mp ht).1, (List.mem_filter.mp ht).2, hl⟩

theorem longestOf_congr {tokens : List (List α)} {P R : List α → Bool}
    (h : ∀ t ∈ tokens, P t = R t) : longestOf tokens P = longestOf tokens R := by
  unfold longestOf
  rw [List.filter_congr h]

theorem longestOf_concat {tokens : List (List α)} {P : List α → Bool} {t : List α} :
    longestOf (tokens ++ [t]) P = max (longestOf tokens P) (if P t then t.length else 0) := by
  apply Nat.le_antisymm
  · apply longestOf_le
    intro s hs hP
    obtain hs | hs := List.mem_append.mp hs
    · exact (le_longestOf hs hP).trans (le_max_left _ _)
    · obtain rfl := List.mem_singleton.mp hs
      rw [if_pos hP]
      exact le_max_right _ _
  · apply max_le
    · exact longestOf_le fun s hs hP => le_longestOf (List.mem_append_left _ hs) hP
    · by_cases hP : P t
      · rw [if_pos hP]
        exact le_longestOf (List.mem_append_right _ (List.mem_singleton_self t)) hP
      · rw [if_neg hP]
        exact Nat.zero_le _

theorem longestOf_eq_zero {tokens : List (List α)} {P : List α → Bool}
    (h : ∀ t ∈ tokens, P t = true → t = []) : longestOf tokens P = 0 :=
  Nat.le_zero.mp (longestOf_le fun t ht hP => by rw [h t ht hP, List.length_nil])

end NouvaAgent.Matching

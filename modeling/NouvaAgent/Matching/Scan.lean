import Mathlib.Data.List.Basic
import Mathlib.Data.List.Infix

namespace NouvaAgent.Matching

/-- Reads the positions from `i` on, where `len i` is the length of what is replaced at `i`: a
position that is kept is listed, and `none` stands for what is replaced. -/
def scan (len : ℕ → ℕ) (size : ℕ) : ℕ → ℕ → List (Option ℕ)
  | 0, _ => []
  | fuel + 1, i =>
    if i < size then
      if len i = 0 then some i :: scan len size fuel (i + 1)
      else none :: scan len size fuel (i + len i)
    else []

def pieces (len : ℕ → ℕ) (size : ℕ) : List (Option ℕ) := scan len size size 0

def render {α : Type} (marker value : List α) (ps : List (Option ℕ)) : List α :=
  ps.flatMap fun
    | none => marker
    | some i => value[i]?.toList

inductive Reads (len : ℕ → ℕ) (size : ℕ) : ℕ → List (Option ℕ) → ℕ → Prop
  | nil (i : ℕ) : Reads len size i [] i
  | copy {i j : ℕ} {ps : List (Option ℕ)} (hi : i < size) (h0 : len i = 0)
      (h : Reads len size (i + 1) ps j) : Reads len size i (some i :: ps) j
  | mask {i j : ℕ} {ps : List (Option ℕ)} (hi : i < size) (h0 : 0 < len i)
      (h : Reads len size (i + len i) ps j) : Reads len size i (none :: ps) j

def Stands (len : ℕ → ℕ) (size p : ℕ) : Prop := ∃ ps, Reads len size 0 ps p

inductive Tiled (len : ℕ → ℕ) : ℕ → ℕ → Prop
  | done {i j : ℕ} (h : j ≤ i) : Tiled len i j
  | next {i j : ℕ} (h0 : 0 < len i) (h : Tiled len (i + len i) j) : Tiled len i j

variable {len : ℕ → ℕ} {size i j k p : ℕ} {ps qs : List (Option ℕ)}

theorem reads_scan (fuel : ℕ) (h : size ≤ i + fuel) :
    ∃ j, size ≤ j ∧ Reads len size i (scan len size fuel i) j := by
  induction fuel generalizing i with
  | zero => exact ⟨i, h, .nil i⟩
  | succ fuel ih =>
    unfold scan
    by_cases hi : i < size
    · by_cases h0 : len i = 0
      · rw [if_pos hi, if_pos h0]
        obtain ⟨j, hj, hr⟩ := ih (i := i + 1) (by omega)
        exact ⟨j, hj, .copy hi h0 hr⟩
      · rw [if_pos hi, if_neg h0]
        obtain ⟨j, hj, hr⟩ := ih (i := i + len i) (by omega)
        exact ⟨j, hj, .mask hi (Nat.pos_of_ne_zero h0) hr⟩
    · rw [if_neg hi]
      exact ⟨i, by omega, .nil i⟩

theorem scan_congr {other : ℕ → ℕ} (fuel : ℕ) (h : ∀ i < size, len i = other i) :
    scan len size fuel i = scan other size fuel i := by
  induction fuel generalizing i with
  | zero => rfl
  | succ fuel ih =>
    unfold scan
    by_cases hi : i < size
    · rw [if_pos hi, if_pos hi, h i hi, ih, ih]
    · rw [if_neg hi, if_neg hi]

theorem Reads.le (h : Reads len size i ps j) : i ≤ j := by
  induction h with
  | nil i => exact Nat.le_refl i
  | copy hi h0 h ih => omega
  | mask hi h0 h ih => omega

theorem reads_append : Reads len size i (ps ++ qs) j ↔
    ∃ k, Reads len size i ps k ∧ Reads len size k qs j := by
  constructor
  · intro h
    induction ps generalizing i with
    | nil => exact ⟨i, .nil i, h⟩
    | cons p ps ih =>
      cases h with
      | copy hi h0 h =>
        obtain ⟨k, hp, hq⟩ := ih h
        exact ⟨k, .copy hi h0 hp, hq⟩
      | mask hi h0 h =>
        obtain ⟨k, hp, hq⟩ := ih h
        exact ⟨k, .mask hi h0 hp, hq⟩
  · rintro ⟨k, hp, hq⟩
    induction hp with
    | nil i => exact hq
    | copy hi h0 _ ih => exact .copy hi h0 (ih hq)
    | mask hi h0 _ ih => exact .mask hi h0 (ih hq)

theorem Reads.between (hp : Reads len size i ps j) (hq : Reads len size i qs k) (hjk : j ≤ k) :
    ∃ rest, qs = ps ++ rest ∧ Reads len size j rest k := by
  induction hp generalizing qs with
  | nil i => exact ⟨qs, rfl, hq⟩
  | copy hi h0 hp ih =>
    cases hq with
    | nil => have := hp.le; omega
    | copy _ _ hq =>
      obtain ⟨rest, rfl, hr⟩ := ih hq hjk
      exact ⟨rest, rfl, hr⟩
    | mask _ h1 _ => omega
  | mask hi h0 hp ih =>
    cases hq with
    | nil => have := hp.le; omega
    | copy _ h1 _ => omega
    | mask _ _ hq =>
      obtain ⟨rest, rfl, hr⟩ := ih hq hjk
      exact ⟨rest, rfl, hr⟩

theorem reads_pieces (len : ℕ → ℕ) (size : ℕ) : ∃ j, size ≤ j ∧ Reads len size 0 (pieces len size) j :=
  reads_scan size (by omega)

theorem Stands.split (h : Stands len size p) (hp : p ≤ size) :
    ∃ first rest j, pieces len size = first ++ rest ∧ Reads len size 0 first p ∧
      Reads len size p rest j ∧ size ≤ j := by
  obtain ⟨first, hfirst⟩ := h
  obtain ⟨j, hj, hr⟩ := reads_pieces len size
  obtain ⟨rest, hps, hrest⟩ := hfirst.between hr (by omega)
  exact ⟨first, rest, j, hps, hfirst, hrest, hj⟩

theorem Reads.mem (h : Reads len size i ps j) (hm : some p ∈ ps) :
    p < size ∧ len p = 0 ∧ ∃ before, Reads len size i before p := by
  induction h with
  | nil i => cases hm
  | copy hi h0 h ih =>
    obtain hp | hm := List.mem_cons.mp hm
    · obtain rfl := Option.some.inj hp
      exact ⟨hi, h0, [], .nil _⟩
    · obtain ⟨hp, hz, before, hb⟩ := ih hm
      exact ⟨hp, hz, _, .copy hi h0 hb⟩
  | mask hi h0 h ih =>
    obtain hp | hm := List.mem_cons.mp hm
    · cases hp
    · obtain ⟨hp, hz, before, hb⟩ := ih hm
      exact ⟨hp, hz, _, .mask hi h0 hb⟩

theorem mem_pieces : some p ∈ pieces len size ↔ p < size ∧ len p = 0 ∧ Stands len size p := by
  constructor
  · intro hm
    obtain ⟨j, _, hr⟩ := reads_pieces len size
    exact hr.mem hm
  · rintro ⟨hp, h0, hs⟩
    obtain ⟨first, rest, j, hps, _, hrest, hj⟩ := hs.split hp.le
    rw [hps]
    apply List.mem_append_right
    cases hrest with
    | nil => omega
    | copy => exact List.mem_cons_self
    | mask _ h1 => omega

theorem none_mem_pieces (hp : p < size) (h0 : 0 < len p) (hs : Stands len size p) :
    none ∈ pieces len size := by
  obtain ⟨first, rest, j, hps, _, hrest, hj⟩ := hs.split hp.le
  rw [hps]
  apply List.mem_append_right
  cases hrest with
  | nil => omega
  | copy _ h1 => omega
  | mask => exact List.mem_cons_self

theorem stands_zero : Stands len size 0 := ⟨[], .nil 0⟩

theorem Stands.next (h : Stands len size i) (hi : i < size) :
    Stands len size (if len i = 0 then i + 1 else i + len i) := by
  obtain ⟨ps, hp⟩ := h
  by_cases h0 : len i = 0
  · rw [if_pos h0]
    exact ⟨ps ++ [some i], reads_append.mpr ⟨i, hp, .copy hi h0 (.nil _)⟩⟩
  · rw [if_neg h0]
    exact ⟨ps ++ [none], reads_append.mpr ⟨i, hp, .mask hi (Nat.pos_of_ne_zero h0) (.nil _)⟩⟩

theorem Stands.jump (hi : Stands len size i) (hp : Stands len size p) (hip : i < p)
    (h0 : 0 < len i) : i + len i ≤ p := by
  obtain ⟨ps, hi⟩ := hi
  obtain ⟨qs, hp⟩ := hp
  obtain ⟨rest, _, hr⟩ := hi.between hp hip.le
  cases hr with
  | nil => omega
  | copy _ h1 => omega
  | mask _ _ h => exact h.le

theorem exists_stands (len : ℕ → ℕ) (hi : i ≤ size) :
    ∃ a, a ≤ i ∧ Stands len size a ∧ (a = i ∨ i < a + len a) := by
  induction i with
  | zero => exact ⟨0, Nat.le_refl 0, stands_zero, .inl rfl⟩
  | succ i ih =>
    obtain ⟨a, ha, hs, hia⟩ := ih (by omega)
    by_cases hlast : i + 1 < a + len a
    · exact ⟨a, by omega, hs, .inr hlast⟩
    · have hnext := hs.next (by omega)
      by_cases h0 : len a = 0
      · rw [if_pos h0] at hnext
        exact ⟨i + 1, Nat.le_refl _, by rwa [show i + 1 = a + 1 by omega], .inl rfl⟩
      · rw [if_neg h0] at hnext
        exact ⟨i + 1, Nat.le_refl _, by rwa [show i + 1 = a + len a by omega], .inl rfl⟩

theorem len_eq_zero (h : none ∉ pieces len size) (hi : i < size) : len i = 0 := by
  have hall (n : ℕ) (hn : n ≤ size) : Stands len size n := by
    induction n with
    | zero => exact stands_zero
    | succ n ih =>
      have hs := ih (by omega)
      have hnext := hs.next (by omega)
      rwa [if_pos (Nat.eq_zero_of_not_pos fun h0 => h (none_mem_pieces (by omega) h0 hs))] at hnext
  exact Nat.eq_zero_of_not_pos fun h0 => h (none_mem_pieces hi h0 (hall i hi.le))

theorem Reads.kept {qs : List ℕ} (h : Reads len size p (qs.map some) j) :
    qs = List.range' p qs.length ∧ j = p + qs.length ∧ (qs = [] ∨ j ≤ size) := by
  induction qs generalizing p with
  | nil =>
    cases h
    exact ⟨rfl, rfl, .inl rfl⟩
  | cons q qs ih =>
    cases h with
    | copy hp _ h =>
      obtain ⟨hqs, rfl, hle⟩ := ih h
      rw [List.length_cons, List.range'_succ, ← hqs]
      refine ⟨rfl, by omega, .inr ?_⟩
      obtain rfl | hle := hle
      · exact hp
      · exact hle

theorem Reads.run (n : ℕ) (hr : Reads len size p ps j) (hj : size ≤ j)
    (h : ∀ q, p ≤ q → q < p + n → q < size ∧ len q = 0) :
    ∃ rest, ps = (List.range' p n).map some ++ rest ∧ Reads len size (p + n) rest j := by
  induction n generalizing p ps with
  | zero => exact ⟨ps, rfl, hr⟩
  | succ n ih =>
    obtain ⟨hp, h0⟩ := h p (Nat.le_refl p) (by omega)
    cases hr with
    | nil => omega
    | mask _ h1 => omega
    | copy _ _ hr =>
      obtain ⟨rest, rfl, hrest⟩ := ih hr fun q hq hqn => h q (by omega) (by omega)
      rw [List.range'_succ]
      exact ⟨rest, rfl, by rwa [show p + (n + 1) = p + 1 + n by omega]⟩

theorem Tiled.pos (ht : Tiled len i j) (hi : Stands len size i) (hj : j ≤ size)
    (hp : Stands len size p) (hip : i ≤ p) (hpj : p < j) : 0 < len p := by
  induction ht with
  | done h => omega
  | next h0 _ ih =>
    obtain rfl | hip := Nat.eq_or_lt_of_le hip
    · exact h0
    · have hnext := hi.next (by omega)
      rw [if_neg (by omega)] at hnext
      exact ih hnext hj (hi.jump hp hip h0) hpj

/-- Every occurrence is replaced as a whole, if and only if whatever hangs over the end of something
replaced is tiled by further replacements. -/
theorem replaces_all_iff (len : ℕ → ℕ) (size : ℕ) (Occ : ℕ → ℕ → Prop) (hlen : ∀ i k, Occ i k → k ≤ len i)
    (hsize : ∀ i k, Occ i k → i + k ≤ size) :
    (∀ i k p, Occ i k → i ≤ p → p < i + k → some p ∉ pieces len size) ↔
      ∀ a i k, Stands len size a → Occ i k → a < i → i < a + len a → a + len a < i + k →
        Tiled len (a + len a) (i + k) := by
  constructor
  · intro h a i k ha ho hai hia hik
    have htile (n : ℕ) : ∀ b, Stands len size b → i ≤ b → i + k ≤ b + n → Tiled len b (i + k) := by
      induction n with
      | zero => exact fun b _ _ hb => .done hb
      | succ n ih =>
        intro b hb hib hn
        by_cases hend : i + k ≤ b
        · exact .done hend
        have hsize := hsize i k ho
        have h0 : 0 < len b := Nat.pos_of_ne_zero fun h0 =>
          h i k b ho hib (by omega) (mem_pieces.mpr ⟨by omega, h0, hb⟩)
        have hnext := hb.next (by omega)
        rw [if_neg (by omega)] at hnext
        exact .next h0 (ih _ hnext (by omega) (by omega))
    have hsize := hsize i k ho
    have hnext := ha.next (by omega)
    rw [if_neg (by omega)] at hnext
    exact htile (i + k) _ hnext (by omega) (by omega)
  · intro h i k p ho hip hpk hm
    obtain ⟨hp, h0, hstands⟩ := mem_pieces.mp hm
    have hk := hlen i k ho
    have hend := hsize i k ho
    obtain ⟨a, hai, ha, hia⟩ := exists_stands len (by omega : i ≤ size)
    have hnot : p ≠ i := by
      rintro rfl
      omega
    obtain rfl | hover := hia
    · have hjump := ha.jump hstands (by omega) (by omega)
      omega
    · by_cases hcross : a + len a < i + k
      · obtain rfl | hlt := Nat.eq_or_lt_of_le hai
        · omega
        have hnext := ha.next (by omega)
        rw [if_neg (by omega)] at hnext
        have hjump := ha.jump hstands (by omega) (by omega)
        have hpos := (h a i k ha ho hlt hover hcross).pos hnext hend hstands hjump hpk
        omega
      · have hjump := ha.jump hstands (by omega) (by omega)
        omega

section

variable {α : Type} {marker value word t before after : List α} {left right : α}

theorem render_append : render marker value (ps ++ qs) =
    render marker value ps ++ render marker value qs := List.flatMap_append

theorem render_none : render marker value (none :: ps) = marker ++ render marker value ps := rfl

theorem render_some {c : α} (hc : value[i]? = some c) :
    render marker value (some i :: ps) = c :: render marker value ps := by
  show value[i]?.toList ++ _ = _
  rw [hc]
  rfl

theorem render_scan_zero (fuel : ℕ) (hfuel : value.length ≤ i + fuel)
    (h : ∀ j < value.length, len j = 0) :
    render marker value (scan len value.length fuel i) = value.drop i := by
  induction fuel generalizing i with
  | zero => exact (List.drop_eq_nil_of_le (by omega)).symm
  | succ fuel ih =>
    unfold scan
    by_cases hi : i < value.length
    · rw [if_pos hi, if_pos (h i hi), render_some (List.getElem?_eq_getElem hi), ih (by omega)]
      exact (List.drop_eq_getElem_cons hi).symm
    · rw [if_neg hi]
      exact (List.drop_eq_nil_of_le (by omega)).symm

theorem render_range' {n : ℕ} (h : i + n ≤ value.length) :
    render marker value ((List.range' i n).map some) = (value.drop i).take n := by
  induction n generalizing i with
  | zero => rfl
  | succ n ih =>
    have hi : i < value.length := by omega
    rw [List.range'_succ, List.map_cons, render_some (List.getElem?_eq_getElem hi),
      ih (by omega), List.drop_eq_getElem_cons hi, List.take_succ_cons]

theorem Reads.count_render [DecidableEq α] (marker : List α) (h : Reads len value.length i ps j)
    (hmask : ∀ k, 0 < len k → left ∉ (value.drop k).take (len k)) :
    (render marker value ps).count left + (value.drop j).count left =
      (value.drop i).count left + ps.count none * marker.count left := by
  induction h with
  | nil i => simp [render]
  | copy hi h0 h ih =>
    rw [render_some (List.getElem?_eq_getElem hi), List.drop_eq_getElem_cons hi, List.count_cons,
      List.count_cons, List.count_cons_of_ne (by simp)]
    omega
  | mask hi h0 h ih =>
    rename_i i _ ps
    have hsplit : (value.drop i).count left = (value.drop (i + len i)).count left := by
      rw [← List.take_append_drop (len i) (value.drop i), List.count_append,
        List.count_eq_zero_of_not_mem (hmask i h0), List.drop_drop]
      omega
    rw [render_none, List.count_append, List.count_cons_self, hsplit, Nat.succ_mul]
    omega

theorem render_pieces_eq_iff [DecidableEq α] (left : α) (hmarker : left ∈ marker)
    (hmask : ∀ k, 0 < len k → left ∉ (value.drop k).take (len k)) :
    render marker value (pieces len value.length) = value ↔ ∀ i < value.length, len i = 0 := by
  constructor
  · intro h i hi
    refine len_eq_zero (fun hm => ?_) hi
    obtain ⟨j, hj, hr⟩ := reads_pieces len value.length
    have hcount := hr.count_render marker hmask
    rw [h, List.drop_eq_nil_of_le hj, List.drop_zero] at hcount
    have hpos := Nat.mul_pos (List.count_pos_iff.mpr hm) (List.count_pos_iff.mpr hmarker)
    simp only [List.count_nil] at hcount
    omega
  · exact render_scan_zero value.length (by omega)

def Within (value : List α) (ps : List (Option ℕ)) : Prop := ∀ i, some i ∈ ps → i < value.length

theorem render_run (hps : Within value ps) (hleft : left ∉ t)
    (h : render (left :: marker) value ps = t ++ after) :
    ∃ (qs : List ℕ) (rest : List (Option ℕ)), ps = qs.map some ++ rest ∧ render (left :: marker) value rest = after ∧
      render (left :: marker) value (qs.map some) = t := by
  induction t generalizing ps with
  | nil => exact ⟨[], ps, rfl, h, rfl⟩
  | cons c t ih =>
    rw [List.mem_cons, not_or] at hleft
    cases ps with
    | nil => cases h
    | cons p ps =>
      cases p with
      | none => exact absurd (List.cons.inj h).1 hleft.1
      | some i =>
        have hi := List.getElem?_eq_getElem (hps i List.mem_cons_self)
        rw [render_some hi] at h
        obtain ⟨qs, rest, rfl, hrest, hqs⟩ := ih (fun j hj => hps j (List.mem_cons_of_mem _ hj))
          hleft.2 (List.cons.inj h).2
        refine ⟨i :: qs, rest, rfl, hrest, ?_⟩
        rw [List.map_cons, render_some hi, hqs, (List.cons.inj h).1]

theorem token_within {init rest : List α} (ht : t ≠ []) (hleft : left ∉ t) (hright : right ∉ t)
    (hinit : left :: word = before ++ init) (h : t ++ after = init ++ [right] ++ rest) :
    t <:+: word := by
  obtain ⟨tail, htail, _⟩ | ⟨tail, rfl, _⟩ := List.append_eq_append_iff.mp h
  · obtain rfl | ⟨tail, last, rfl⟩ := List.eq_nil_or_concat tail
    · rw [List.append_nil] at htail
      exact absurd (htail ▸ List.mem_append_right init (List.mem_singleton_self right)) hright
    · rw [List.concat_eq_append, ← List.append_assoc] at htail
      obtain ⟨rfl, _⟩ := List.append_inj' htail rfl
      cases before with
      | nil =>
        obtain ⟨c, t, rfl⟩ := List.exists_cons_of_ne_nil ht
        exact absurd ((List.cons.inj hinit).1 ▸ List.mem_cons_self) hleft
      | cons c before =>
        obtain ⟨_, rfl⟩ := List.cons.inj hinit
        exact ⟨before, tail, List.append_assoc _ _ _⟩
  · exact absurd (List.mem_append_left tail (List.mem_append_right init
      (List.mem_singleton_self right))) hright

/-- What has neither bracket of the marker, and is not within its word, can only be found in a
rendered text where all of it was kept. -/
theorem render_find (hps : Within value ps) (ht : t ≠ []) (hleft : left ∉ t) (hright : right ∉ t)
    (hword : ¬ t <:+: word)
    (h : render (left :: (word ++ [right])) value ps = before ++ (t ++ after)) :
    ∃ (first : List (Option ℕ)) (qs : List ℕ) (rest : List (Option ℕ)),
      ps = first ++ (qs.map some ++ rest) ∧
      render (left :: (word ++ [right])) value first = before ∧
      render (left :: (word ++ [right])) value (qs.map some) = t ∧
      render (left :: (word ++ [right])) value rest = after := by
  induction ps generalizing before with
  | nil =>
    have hnil := congrArg List.length h
    have hpos := List.length_pos_iff.mpr ht
    simp [render] at hnil
    omega
  | cons p ps ih =>
    have hwithin : Within value ps := fun j hj => hps j (List.mem_cons_of_mem _ hj)
    cases p with
    | some i =>
      have hi := List.getElem?_eq_getElem (hps i List.mem_cons_self)
      cases before with
      | nil =>
        obtain ⟨qs, rest, hq, hrest, hqs⟩ := render_run hps hleft h
        exact ⟨[], qs, rest, hq, rfl, hqs, hrest⟩
      | cons c before =>
        rw [render_some hi] at h
        obtain ⟨first, qs, rest, rfl, hfirst, hqs, hrest⟩ := ih hwithin (List.cons.inj h).2
        refine ⟨some i :: first, qs, rest, rfl, ?_, hqs, hrest⟩
        rw [render_some hi, hfirst, (List.cons.inj h).1]
    | none =>
      rw [render_none] at h
      obtain ⟨middle, rfl, hm⟩ | ⟨middle, hmarker, hm⟩ := List.append_eq_append_iff.mp h
      · obtain ⟨first, qs, rest, rfl, hfirst, hqs, hrest⟩ := ih hwithin hm
        exact ⟨none :: first, qs, rest, rfl, by rw [render_none, hfirst], hqs, hrest⟩
      · obtain rfl | ⟨init, last, rfl⟩ := List.eq_nil_or_concat middle
        · rw [← List.nil_append (t ++ after)] at hm
          obtain ⟨first, qs, rest, rfl, hfirst, hqs, hrest⟩ := ih hwithin hm.symm
          refine ⟨none :: first, qs, rest, rfl, ?_, hqs, hrest⟩
          rw [render_none, hfirst, hmarker, List.append_nil, List.append_nil]
        · rw [List.concat_eq_append] at hmarker hm
          rw [← List.cons_append, ← List.append_assoc] at hmarker
          obtain ⟨hinit, hlast⟩ := List.append_inj' hmarker rfl
          obtain rfl : right = last := by simpa using hlast
          exact absurd (token_within ht hleft hright hinit hm) hword

end

end NouvaAgent.Matching

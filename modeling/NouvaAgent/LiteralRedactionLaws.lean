import NouvaAgent.LogRedaction

namespace NouvaAgent.LiteralRedaction

open Matching LiteralSecretMatcher

section

variable {value t : Units} {secrets substring boundary : List Units} {i j k p : ℕ}

theorem longestTokenAt_pos (h : 0 < longestTokenAt substring boundary value i) :
    (∃ t ∈ substring, t <+: value.drop i ∧ t.length = longestTokenAt substring boundary value i) ∨
      ∃ t ∈ boundary, matchesAt value i true t = true ∧
        t.length = longestTokenAt substring boundary value i := by
  unfold longestTokenAt at h ⊢
  by_cases hle : longestOf boundary (matchesAt value i true) ≤
      longestOf substring (matchesAt value i false)
  · rw [max_eq_left hle] at h ⊢
    obtain ⟨t, ht, hm, hlen⟩ := exists_longestOf h
    rw [matchesAt_substring] at hm
    exact .inl ⟨t, ht, of_decide_eq_true hm, hlen⟩
  · rw [max_eq_right (by omega)] at h ⊢
    obtain ⟨t, ht, hm, hlen⟩ := exists_longestOf h
    exact .inr ⟨t, ht, hm, hlen⟩

theorem le_longestTokenAt (boundary : List Units) (ht : t ∈ substring) (hm : t <+: value.drop i) :
    t.length ≤ longestTokenAt substring boundary value i :=
  (le_longestOf ht (by rw [matchesAt_substring]; exact decide_eq_true hm)).trans (le_max_left _ _)

theorem le_longestTokenAt_boundary (substring : List Units) (ht : t ∈ boundary) (hm : matchesAt value i true t = true) :
    t.length ≤ longestTokenAt substring boundary value i :=
  (le_longestOf ht hm).trans (le_max_right _ _)

end

def CoversEveryOccurrence (secrets : List Units) (value : Units) : Prop :=
  ∀ t ∈ secrets, ∀ i, t <+: value.drop i → ∀ p, i ≤ p → p < i + t.length →
    some p ∉ leftmostPieces secrets [] value

/-- Where the scan takes a match that another occurrence overhangs, more matches, each at the end of
the one before, take up the overhang. -/
def OverhangsTaken (secrets : List Units) (value : Units) : Prop :=
  ∀ a, Stands (longestTokenAt secrets [] value) value.length a →
    ∀ t ∈ secrets, ∀ i, t <+: value.drop i → a < i → i < a + longestTokenAt secrets [] value a →
      a + longestTokenAt secrets [] value a < i + t.length →
      Tiled (longestTokenAt secrets [] value) (a + longestTokenAt secrets [] value a) (i + t.length)

theorem redaction_covers_iff_overhangs_taken (secrets : List Units) (value : Units) :
    redactLiteralSecretsWithMatcher value (createLiteralSecretMatcher secrets) [] =
        render redactedLogValue value (leftmostPieces secrets [] value) ∧
      (CoversEveryOccurrence secrets value ↔ OverhangsTaken secrets value) := by
  refine ⟨redactLiteralSecretsWithMatcher_eq_render fun t ht => (nomatch ht), ?_⟩
  have hiff := replaces_all_iff (longestTokenAt secrets [] value) value.length
    (fun i k => ∃ t ∈ secrets, t <+: value.drop i ∧ t.length = k ∧ 0 < k) ?_ ?_
  · constructor
    · intro h a ha t ht i hm hai hia hover
      exact hiff.mp (fun i k p ⟨t, ht, hm, hk, _⟩ hip hpk => h t ht i hm p hip (hk ▸ hpk))
        a i t.length ha ⟨t, ht, hm, rfl, by omega⟩ hai hia hover
    · intro h t ht i hm p hip hpk
      exact hiff.mpr (fun a i k ha ⟨t, ht, hm, hk, _⟩ hai hia hover =>
        hk ▸ h a ha t ht i hm hai hia (hk ▸ hover)) i t.length p ⟨t, ht, hm, rfl, by omega⟩ hip hpk
  · rintro i k ⟨t, ht, hm, rfl, _⟩
    exact le_longestTokenAt [] ht hm
  · rintro i k ⟨t, ht, hm, rfl, hpos⟩
    exact end_le_length (List.length_pos_iff.mp hpos) hm

theorem redaction_leaves_overlapping_suffix :
    (∀ t ∈ [units "abcd", units "cdef"], LogRedaction.minSubstringTokenLength ≤ t.length) ∧
      redactLiteralSecretsWithMatcher (units "abcdef")
        (createLiteralSecretMatcher [units "abcd", units "cdef"]) [] = units "[REDACTED]ef" ∧
      ¬ CoversEveryOccurrence [units "abcd", units "cdef"] (units "abcdef") := by
  refine ⟨by simp [units, LogRedaction.minSubstringTokenLength], by decide +kernel, fun h => ?_⟩
  exact h (units "cdef") (by simp) 2 (by decide +kernel) 4 (by omega) (by decide +kernel)
    (by decide +kernel)

def leftBracket : UInt16 := 91

def rightBracket : UInt16 := 93

structure Plain (t : Units) : Prop where
  left : leftBracket ∉ t
  right : rightBracket ∉ t
  word : ¬ t <:+: redactedWord

/-- A boundary token that the redaction keeps, where each of its neighbours is replaced, is no part of
a word, or is missing. -/
structure LeftDelimited (substring boundary : List Units) (value t : Units) (p : ℕ) : Prop where
  found : t <+: value.drop p
  kept : ∀ q, p ≤ q → q < p + t.length → some q ∈ leftmostPieces substring boundary value
  before : ∀ q, q + 1 = p → isLexicalCharacter value[q]? = true →
    some q ∉ leftmostPieces substring boundary value
  after : isLexicalCharacter value[p + t.length]? = true →
    some (p + t.length) ∉ leftmostPieces substring boundary value

section

variable {value t : Units} {substring boundary : List Units} {i j p : ℕ} {len : ℕ → ℕ}
  {first rest : List (Option ℕ)}

theorem Plain.ne_nil (ht : Plain t) : t ≠ [] := by
  rintro rfl
  exact ht.word List.nil_infix

theorem marker_eq : redactedLogValue = leftBracket :: (redactedWord ++ [rightBracket]) := by
  decide +kernel

theorem within_pieces : Within value (pieces len value.length) :=
  fun _ h => (mem_pieces.mp h).1

theorem before_append (head tail : Units) (c : UInt16) :
    before (head ++ c :: tail) (head.length + 1) = some c := by
  unfold before
  rw [if_neg (by omega), Nat.add_sub_cancel, List.getElem?_append_right (Nat.le_refl _)]
  simp

theorem not_kept_of_masked (hi : Stands len value.length i) (h0 : 0 < len i) {q : ℕ}
    (hq : i ≤ q) (hend : q < i + len i) : some q ∉ pieces len value.length := by
  intro hm
  obtain ⟨_, hzero, hstands⟩ := mem_pieces.mp hm
  obtain rfl | hlt := Nat.eq_or_lt_of_le hq
  · omega
  · have hjump := hi.jump hstands hlt h0
    omega

theorem before_render (hfirst : Reads len value.length 0 first p)
    (hmem : ∀ q, some q ∈ first → some q ∈ pieces len value.length) (tail : Units) :
    isLexicalCharacter (before (render redactedLogValue value first ++ tail)
        (render redactedLogValue value first).length) = true ↔
      ∃ q, q + 1 = p ∧ isLexicalCharacter value[q]? = true ∧
        some q ∈ pieces len value.length := by
  obtain rfl | ⟨init, x, rfl⟩ := List.eq_nil_or_concat first
  · cases hfirst
    constructor
    · intro h
      cases h
    · rintro ⟨q, hq, _⟩
      omega
  rw [List.concat_eq_append] at hfirst hmem ⊢
  obtain ⟨k, hinit, hlast⟩ := reads_append.mp hfirst
  cases hlast with
  | copy hk h0 hlast =>
    cases hlast
    have hget := List.getElem?_eq_getElem hk
    have hkm := hmem k (List.mem_append_right _ (List.mem_singleton_self _))
    rw [render_append, render_some hget, List.append_assoc, List.length_append]
    simp only [render, List.flatMap_nil, List.length_singleton, List.singleton_append]
    rw [before_append, ← hget]
    constructor
    · exact fun h => ⟨k, rfl, h, hkm⟩
    · rintro ⟨q, hq, hlex, _⟩
      rwa [show k = q by omega]
  | mask hk h0 hlast =>
    cases hlast
    have hmarker : render redactedLogValue value [none] =
        (leftBracket :: redactedWord) ++ [rightBracket] := by
      rw [render_none, marker_eq]
      rfl
    rw [render_append, hmarker, ← List.append_assoc, List.append_assoc _ [rightBracket],
      List.length_append, List.length_singleton, List.singleton_append, before_append]
    constructor
    · intro h
      cases h
    · rintro ⟨q, hq, _, hkept⟩
      exact absurd hkept (not_kept_of_masked ⟨init, hinit⟩ h0 (by omega) (by omega))

theorem after_render (hrest : Reads len value.length p rest j) (hj : value.length ≤ j)
    (hmem : ∀ q, some q ∈ rest → some q ∈ pieces len value.length) (head : Units) :
    isLexicalCharacter (head ++ render redactedLogValue value rest)[head.length]? = true ↔
      isLexicalCharacter value[p]? = true ∧ some p ∈ pieces len value.length := by
  rw [List.getElem?_append_right (Nat.le_refl _), Nat.sub_self]
  cases hrest with
  | nil =>
    rw [List.getElem?_eq_none hj]
    simp [render, isLexicalCharacter]
  | copy hp h0 _ =>
    have hget := List.getElem?_eq_getElem hp
    rw [render_some hget, hget]
    exact ⟨fun h => ⟨h, hmem p List.mem_cons_self⟩, fun h => h.1⟩
  | mask hp h0 _ =>
    rw [render_none, marker_eq]
    constructor
    · intro h
      cases h
    · rintro ⟨_, hkept⟩
      have hzero := (mem_pieces.mp hkept).2.1
      omega

structure Survives (len : ℕ → ℕ) (value t : Units) (first rest : List (Option ℕ)) (p j : ℕ) :
    Prop where
  split : pieces len value.length = first ++ ((List.range' p t.length).map some ++ rest)
  first : Reads len value.length 0 first p
  rest : Reads len value.length (p + t.length) rest j
  last : value.length ≤ j
  found : t <+: value.drop p

theorem take_eq_of_prefix (h : t <+: value.drop p) : (value.drop p).take t.length = t :=
  (List.prefix_iff_eq_take.mp h).symm

theorem Survives.render_eq (hs : Survives len value t first rest p j) (ht : t ≠ []) :
    render redactedLogValue value (pieces len value.length) =
      render redactedLogValue value first ++ (t ++ render redactedLogValue value rest) := by
  rw [hs.split, render_append, render_append, render_range' (end_le_length ht hs.found),
    take_eq_of_prefix hs.found]

theorem Survives.kept (hs : Survives len value t first rest p j) {q : ℕ} (hq : p ≤ q)
    (hend : q < p + t.length) : some q ∈ pieces len value.length := by
  rw [hs.split]
  apply List.mem_append_right
  apply List.mem_append_left
  exact List.mem_map_of_mem (List.mem_range'_1.mpr ⟨hq, hend⟩)

theorem exists_survives_of_match (ht : Plain t)
    (hm : t <+: (render redactedLogValue value (pieces len value.length)).drop i) :
    ∃ first rest p j, Survives len value t first rest p j ∧
      (render redactedLogValue value first).length = i := by
  have hend := end_le_length ht.ne_nil hm
  obtain ⟨after, hafter⟩ := hm
  have hsplit := (List.take_append_drop i
    (render redactedLogValue value (pieces len value.length))).symm
  rw [← hafter] at hsplit
  generalize htake : (render redactedLogValue value (pieces len value.length)).take i = head
    at hsplit
  have hlen : head.length = i := by
    rw [← htake, List.length_take]
    omega
  rw [marker_eq] at hsplit ⊢
  obtain ⟨first, qs, rest, hps, hfirst, hqs, hrest⟩ :=
    render_find within_pieces ht.ne_nil ht.left ht.right ht.word hsplit
  obtain ⟨j, hj, hr⟩ := reads_pieces len value.length
  rw [hps] at hr
  obtain ⟨p, hp, hr⟩ := reads_append.mp hr
  obtain ⟨e, hkept, hr⟩ := reads_append.mp hr
  obtain ⟨hrange, rfl, hle⟩ := hkept.kept
  have hne : qs ≠ [] := by
    rintro rfl
    exact ht.ne_nil hqs.symm
  have hwithin : p + qs.length ≤ value.length := hle.resolve_left hne
  rw [hrange, render_range' hwithin] at hqs
  have hcount : qs.length = t.length := by
    rw [← hqs, List.length_take, List.length_drop]
    omega
  rw [hcount] at hr hqs hrange
  rw [hrange] at hps
  refine ⟨first, rest, p, j, ⟨hps, hp, hr, hj, ?_⟩, ?_⟩
  · rw [← hqs]
    exact List.take_prefix ..
  · rw [hfirst]
    exact hlen

theorem exists_survives_of_kept (ht : t ≠ []) (hfound : t <+: value.drop p)
    (hkept : ∀ q, p ≤ q → q < p + t.length → some q ∈ pieces len value.length) :
    ∃ first rest j, Survives len value t first rest p j := by
  have hpos := List.length_pos_iff.mpr ht
  obtain ⟨hp, _, hstands⟩ := mem_pieces.mp (hkept p (Nat.le_refl p) (by omega))
  obtain ⟨first, rest, j, hps, hfirst, hrest, hj⟩ := hstands.split hp.le
  obtain ⟨after, rfl, hafter⟩ := hrest.run t.length hj fun q hq hqt =>
    ⟨(mem_pieces.mp (hkept q hq hqt)).1, (mem_pieces.mp (hkept q hq hqt)).2.1⟩
  exact ⟨first, after, j, hps, hfirst, hafter, hj, hfound⟩

/-- In the redacted text, the token stands on its own if and only if what was next to it is replaced
or is no part of a word. -/
theorem Survives.boundary_iff (hs : Survives len value t first rest p j) (ht : t ≠ []) :
    isLexicalBoundaryMatch (render redactedLogValue value (pieces len value.length))
        (render redactedLogValue value first).length t.length = true ↔
      (∀ q, q + 1 = p → isLexicalCharacter value[q]? = true →
        some q ∉ pieces len value.length) ∧
      (isLexicalCharacter value[p + t.length]? = true →
        some (p + t.length) ∉ pieces len value.length) := by
  have hbefore := before_render hs.first
    (fun q hq => hs.split ▸ List.mem_append_left _ hq)
    (t ++ render redactedLogValue value rest)
  have hafter := after_render hs.rest hs.last
    (fun q hq => hs.split ▸ List.mem_append_right _ (List.mem_append_right _ hq))
    (render redactedLogValue value first ++ t)
  rw [List.append_assoc, List.length_append] at hafter
  unfold isLexicalBoundaryMatch
  rw [hs.render_eq ht, Bool.and_eq_true, Bool.not_eq_true', Bool.not_eq_true',
    ← Bool.not_eq_true, ← Bool.not_eq_true, hbefore, hafter]
  constructor
  · rintro ⟨hb, ha⟩
    exact ⟨fun q hq hlex hm => hb ⟨q, hq, hlex, hm⟩, fun hlex hm => ha ⟨hlex, hm⟩⟩
  · rintro ⟨hb, ha⟩
    exact ⟨fun ⟨q, hq, hlex, hm⟩ => hb q hq hlex hm, fun ⟨hlex, hm⟩ => ha hlex hm⟩

theorem render_leftmostPieces_eq_iff (hs : ∀ t ∈ substring, Plain t)
    (hb : ∀ t ∈ boundary, Plain t) :
    render redactedLogValue value (leftmostPieces substring boundary value) = value ↔
      ∀ i < value.length, longestTokenAt substring boundary value i = 0 := by
  refine render_pieces_eq_iff leftBracket (marker_eq ▸ List.mem_cons_self) fun k hk => ?_
  obtain ⟨t, ht, hm, hlen⟩ | ⟨t, ht, hm, hlen⟩ := longestTokenAt_pos hk
  · rw [← hlen, take_eq_of_prefix hm]
    exact (hs t ht).left
  · rw [← hlen, take_eq_of_prefix (matchesAt_boundary.mp hm).1]
    exact (hb t ht).left

end

/-- A second redaction changes nothing, unless a boundary token that the first one kept is delimited
by what the first one replaced. -/
theorem redaction_idempotent_iff (substring boundary : List Units) (value : Units)
    (hs : ∀ t ∈ substring, Plain t) (hb : ∀ t ∈ boundary, Plain t) :
    redactLiteralSecretsWithMatcher
        (redactLiteralSecretsWithMatcher value (createLiteralSecretMatcher substring) boundary)
        (createLiteralSecretMatcher substring) boundary =
      redactLiteralSecretsWithMatcher value (createLiteralSecretMatcher substring) boundary ↔
    ¬ ∃ t ∈ boundary, ∃ p, LeftDelimited substring boundary value t p := by
  have hne : ∀ t ∈ boundary, t ≠ [] := fun t ht => (hb t ht).ne_nil
  rw [redactLiteralSecretsWithMatcher_eq_render hne, redactLiteralSecretsWithMatcher_eq_render hne,
    render_leftmostPieces_eq_iff hs hb]
  constructor
  · rintro hnone ⟨t, ht, p, hfound, hkept, hbefore, hafter⟩
    obtain ⟨first, rest, j, hsurvives⟩ := exists_survives_of_kept (hne t ht) hfound hkept
    have hpos := List.length_pos_iff.mpr (hne t ht)
    have hmatch : matchesAt (render redactedLogValue value (leftmostPieces substring boundary
        value)) (render redactedLogValue value first).length true t = true := by
      refine matchesAt_boundary.mpr ⟨?_, (hsurvives.boundary_iff (hne t ht)).mpr ⟨hbefore, hafter⟩⟩
      rw [leftmostPieces, hsurvives.render_eq (hne t ht), List.drop_left]
      exact List.prefix_append ..
    have hle := le_longestTokenAt_boundary substring ht hmatch
    have hend := end_le_length (hne t ht) (matchesAt_boundary.mp hmatch).1
    have hzero := hnone (render redactedLogValue value first).length (by omega)
    omega
  · intro hnone i hi
    refine Nat.eq_zero_of_not_pos fun hpos => ?_
    obtain ⟨t, ht, hm, _⟩ | ⟨t, ht, hm, _⟩ := longestTokenAt_pos hpos
    · -- a substring token that is kept would have been replaced
      obtain ⟨first, rest, p, j, hsurvives, _⟩ := exists_survives_of_match (hs t ht) hm
      have hlen := List.length_pos_iff.mpr (hs t ht).ne_nil
      have hkept := hsurvives.kept (Nat.le_refl p) (by omega)
      have hle := le_longestTokenAt boundary ht hsurvives.found
      have hzero := (mem_pieces.mp hkept).2.1
      omega
    · obtain ⟨hstarts, hlexical⟩ := matchesAt_boundary.mp hm
      obtain ⟨first, rest, p, j, hsurvives, rfl⟩ := exists_survives_of_match (hb t ht) hstarts
      obtain ⟨hbefore, hafter⟩ := (hsurvives.boundary_iff (hne t ht)).mp hlexical
      exact hnone ⟨t, ht, p, hsurvives.found, fun q hq hqt => hsurvives.kept hq hqt, hbefore, hafter⟩

theorem plain_units : ∀ t ∈ [units "ab", units "xyz"], Plain t := by
  intro t ht
  rw [List.mem_cons, List.mem_singleton] at ht
  obtain rfl | rfl := ht <;> exact ⟨by decide +kernel, by decide +kernel, by decide +kernel⟩

theorem redaction_idempotent_iff_delimited :
    redactLiteralSecretsWithMatcher
        (redactLiteralSecretsWithMatcher (units "xyzab")
          (createLiteralSecretMatcher [units "xyz"]) [units "ab"])
        (createLiteralSecretMatcher [units "xyz"]) [units "ab"] =
      redactLiteralSecretsWithMatcher (units "xyzab")
        (createLiteralSecretMatcher [units "xyz"]) [units "ab"] ↔
    ¬ ∃ t ∈ [units "ab"], ∃ p, LeftDelimited [units "xyz"] [units "ab"] (units "xyzab") t p :=
  redaction_idempotent_iff _ _ _ (fun t ht => plain_units t (by simp at ht; simp [ht]))
    (fun t ht => plain_units t (by simp at ht; simp [ht]))

theorem second_redaction_masks_more :
    (∀ t ∈ [units "xyz"], Plain t) ∧ (∀ t ∈ [units "ab"], Plain t) ∧
      redactLiteralSecretsWithMatcher (units "xyzab")
        (createLiteralSecretMatcher [units "xyz"]) [units "ab"] = units "[REDACTED]ab" ∧
      redactLiteralSecretsWithMatcher
          (redactLiteralSecretsWithMatcher (units "xyzab")
            (createLiteralSecretMatcher [units "xyz"]) [units "ab"])
          (createLiteralSecretMatcher [units "xyz"]) [units "ab"] ≠
        redactLiteralSecretsWithMatcher (units "xyzab")
          (createLiteralSecretMatcher [units "xyz"]) [units "ab"] := by
  refine ⟨fun t ht => plain_units t (by simp at ht; simp [ht]),
    fun t ht => plain_units t (by simp at ht; simp [ht]), ?_, ?_⟩ <;> decide +kernel

end NouvaAgent.LiteralRedaction

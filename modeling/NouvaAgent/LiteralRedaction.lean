import NouvaAgent.LiteralSecretMatcher
import NouvaAgent.Matching.Scan
import Mathlib.Data.UInt

namespace NouvaAgent

open Matching

/-- A text is the list of its UTF-16 code units. -/
abbrev Units := List UInt16

def units (text : String) : Units := text.toList.map fun c => UInt16.ofNat c.toNat

namespace LiteralRedaction

open LiteralSecretMatcher

def redactedWord : Units := units "REDACTED"

def redactedLogValue : Units := units "[" ++ redactedWord ++ units "]"

/-- `[A-Za-z0-9_]`; beyond either end of a text there is `undefined`. -/
def isLexicalCharacter : Option UInt16 → Bool
  | none => false
  | some c => (65 ≤ c && c ≤ 90) || (97 ≤ c && c ≤ 122) || (48 ≤ c && c ≤ 57) || c == 95

def before (value : Units) (start : ℕ) : Option UInt16 :=
  if start = 0 then none else value[start - 1]?

def isLexicalBoundaryMatch (value : Units) (start length : ℕ) : Bool :=
  !isLexicalCharacter (before value start) && !isLexicalCharacter value[start + length]?

def indexOf (value search : Units) (start : ℕ) : Option ℕ :=
  (List.range (value.length + 1)).find? fun i =>
    decide (min start value.length ≤ i) && decide (search <+: value.drop i)

def takeBoundaryMatch (value secretValue : Units) (offset : ℕ) (found : List ℕ × Bool) :
    List ℕ × Bool :=
  if isLexicalBoundaryMatch value offset secretValue.length = true ∧
      found.1[offset]?.getD 0 < secretValue.length then
    (found.1.set offset secretValue.length, true)
  else found

def boundaryMatches (value secretValue : Units) : ℕ → ℕ → List ℕ × Bool → List ℕ × Bool
  | 0, _, found => found
  | fuel + 1, start, found =>
    match indexOf value secretValue start with
    | none => found
    | some offset =>
      boundaryMatches value secretValue fuel (offset + 1)
        (takeBoundaryMatch value secretValue offset found)

def addBoundaryMatches (value : Units) (boundaryTextValues : List Units)
    (longestMatchAt : List ℕ) : List ℕ × Bool :=
  boundaryTextValues.foldl
    (fun found secretValue => boundaryMatches value secretValue (value.length + 1) 0 found)
    (longestMatchAt, false)

/-- The parts of the redacted text from `index` on, where `segmentStart` is the first character not
written yet. -/
def redactedParts (value : Units) (longestMatchAt : List ℕ) : ℕ → ℕ → ℕ → List Units
  | 0, _, segmentStart => [value.drop segmentStart]
  | fuel + 1, index, segmentStart =>
    if index < value.length then
      let matchLength := longestMatchAt[index]?.getD 0
      if matchLength = 0 then redactedParts value longestMatchAt fuel (index + 1) segmentStart
      else (value.take index).drop segmentStart :: redactedLogValue ::
        redactedParts value longestMatchAt fuel (index + matchLength) (index + matchLength)
    else [value.drop segmentStart]

def redactLiteralSecretsWithMatcher (value : Units) (matcher : LiteralSecretMatcher UInt16)
    (boundaryTextValues : List Units) : Units :=
  if (matcher.length ≤ 1 ∧ boundaryTextValues = []) ∨ value = [] then value
  else
    let longestMatchAt := (matchLengths matcher value).2
    let hasMatch := longestMatchAt.any fun matchLength => 0 < matchLength
    let (longestMatchAt, hasBoundaryMatch) :=
      addBoundaryMatches value boundaryTextValues longestMatchAt
    if (hasBoundaryMatch || hasMatch) = false then value
    else (redactedParts value longestMatchAt value.length 0 0).flatten

/-- A substring token matches anywhere, a boundary token only between characters that are not part
of a word. -/
def matchesAt (value : Units) (i : ℕ) (boundary : Bool) (token : Units) : Bool :=
  decide (token <+: value.drop i) &&
    (!boundary || isLexicalBoundaryMatch value i token.length)

def longestTokenAt (substring boundary : List Units) (value : Units) (i : ℕ) : ℕ :=
  max (longestOf substring (matchesAt value i false)) (longestOf boundary (matchesAt value i true))

/-- The naive redaction: from the left, at each index the longest token is replaced, and a character
is copied where there is none. -/
def leftmostFrom (substring boundary : List Units) (value : Units) : ℕ → ℕ → Units
  | 0, _ => []
  | fuel + 1, i =>
    match value[i]? with
    | none => []
    | some c =>
      if longestTokenAt substring boundary value i = 0 then
        c :: leftmostFrom substring boundary value fuel (i + 1)
      else redactedLogValue ++ leftmostFrom substring boundary value fuel
        (i + longestTokenAt substring boundary value i)

def leftmostRedaction (substring boundary : List Units) (value : Units) : Units :=
  leftmostFrom substring boundary value value.length 0

def leftmostPieces (substring boundary : List Units) (value : Units) : List (Option ℕ) :=
  pieces (longestTokenAt substring boundary value) value.length

section

variable {value t : Units} {substring boundary : List Units} {i start offset : ℕ}
  {found : List ℕ × Bool}

theorem end_le_length (ht : t ≠ []) (h : t <+: value.drop i) : i + t.length ≤ value.length := by
  have hle := h.length_le
  have hpos := List.length_pos_iff.mpr ht
  rw [List.length_drop] at hle
  omega

theorem indexOf_none (ht : t ≠ []) (h : indexOf value t start = none) (hi : start ≤ i) :
    ¬ t <+: value.drop i := by
  intro hm
  have hend := end_le_length ht hm
  have hnot := List.find?_range_eq_none.mp h i (by omega)
  have hmin : min start value.length ≤ i := by omega
  simp [hm, hmin] at hnot

theorem indexOf_some (ht : t ≠ []) (h : indexOf value t start = some offset) :
    start ≤ offset ∧ offset < value.length ∧ t <+: value.drop offset ∧
      ∀ i, start ≤ i → i < offset → ¬ t <+: value.drop i := by
  obtain ⟨hat, _, hfirst⟩ := List.find?_range_eq_some.mp h
  rw [Bool.and_eq_true, decide_eq_true_eq, decide_eq_true_eq] at hat
  have hend := end_le_length ht hat.2
  have hpos := List.length_pos_iff.mpr ht
  refine ⟨by omega, by omega, hat.2, fun i hi hio hm => ?_⟩
  have hnot := hfirst i hio
  have hmin : min start value.length ≤ i := by omega
  simp [hm, hmin] at hnot

theorem takeBoundaryMatch_length :
    (takeBoundaryMatch value t offset found).1.length = found.1.length := by
  unfold takeBoundaryMatch
  split
  · exact List.length_set ..
  · rfl

theorem takeBoundaryMatch_getD (ho : offset < found.1.length) :
    (takeBoundaryMatch value t offset found).1[i]?.getD 0 =
      if offset = i ∧ isLexicalBoundaryMatch value i t.length = true then
        max (found.1[i]?.getD 0) t.length
      else found.1[i]?.getD 0 := by
  unfold takeBoundaryMatch
  by_cases hi : offset = i
  · subst hi
    by_cases hb : isLexicalBoundaryMatch value offset t.length = true
    · by_cases hlt : found.1[offset]?.getD 0 < t.length
      · rw [if_pos ⟨hb, hlt⟩, if_pos ⟨rfl, hb⟩, max_eq_right (by omega)]
        simp [ho]
      · rw [if_neg fun h => hlt h.2, if_pos ⟨rfl, hb⟩, max_eq_left (by omega)]
    · rw [if_neg fun h => hb h.1, if_neg fun h => hb h.2]
  · rw [if_neg (c := offset = i ∧ _) fun h => hi h.1]
    split
    · rw [List.getElem?_set_ne hi]
    · rfl

theorem takeBoundaryMatch_flag (h : (takeBoundaryMatch value t offset found).2 = false) :
    takeBoundaryMatch value t offset found = found := by
  unfold takeBoundaryMatch at h ⊢
  split
  · next hm =>
    rw [if_pos hm] at h
    cases h
  · rfl

theorem matchesAt_boundary : matchesAt value i true t = true ↔
    t <+: value.drop i ∧ isLexicalBoundaryMatch value i t.length = true := by
  simp [matchesAt]

theorem boundaryMatches_getD (ht : t ≠ []) (fuel : ℕ) (hfuel : value.length < start + fuel)
    (hlen : found.1.length = value.length) :
    (boundaryMatches value t fuel start found).1[i]?.getD 0 =
      if start ≤ i ∧ matchesAt value i true t = true then max (found.1[i]?.getD 0) t.length
      else found.1[i]?.getD 0 := by
  induction fuel generalizing start found with
  | zero =>
    rw [if_neg]
    · rfl
    · rintro ⟨hi, hm⟩
      have hend := end_le_length ht (matchesAt_boundary.mp hm).1
      omega
  | succ fuel ih =>
    unfold boundaryMatches
    cases hfind : indexOf value t start with
    | none =>
      rw [if_neg]
      rintro ⟨hi, hm⟩
      exact indexOf_none ht hfind hi (matchesAt_boundary.mp hm).1
    | some offset =>
      obtain ⟨hso, hlt, hat, hfirst⟩ := indexOf_some ht hfind
      dsimp only
      rw [ih (by omega) (takeBoundaryMatch_length.trans hlen), takeBoundaryMatch_getD (by omega)]
      by_cases hm : matchesAt value i true t = true
      · obtain ⟨hp, hb⟩ := matchesAt_boundary.mp hm
        have hnot : start ≤ i → offset ≤ i := fun hi => by
          by_contra hio
          exact hfirst i hi (by omega) hp
        by_cases hoi : offset = i
        · subst hoi
          rw [if_neg fun h => by omega, if_pos ⟨rfl, hb⟩, if_pos ⟨hso, hm⟩]
        · rw [if_neg (c := offset = i ∧ _) fun h => hoi h.1]
          by_cases hi : start ≤ i
          · rw [if_pos ⟨by have := hnot hi; omega, hm⟩, if_pos ⟨hi, hm⟩]
          · rw [if_neg fun h => by omega, if_neg fun h => hi h.1]
      · rw [if_neg fun h => hm h.2, if_neg (c := start ≤ i ∧ _) fun h => hm h.2, if_neg]
        rintro ⟨rfl, hb⟩
        exact hm (matchesAt_boundary.mpr ⟨hat, hb⟩)

theorem boundaryMatches_length (fuel : ℕ) :
    (boundaryMatches value t fuel start found).1.length = found.1.length := by
  induction fuel generalizing start found with
  | zero => rfl
  | succ fuel ih =>
    unfold boundaryMatches
    split
    · rfl
    · exact ih.trans takeBoundaryMatch_length

theorem boundaryMatches_flag (fuel : ℕ)
    (h : (boundaryMatches value t fuel start found).2 = false) :
    boundaryMatches value t fuel start found = found := by
  induction fuel generalizing start found with
  | zero => rfl
  | succ fuel ih =>
    unfold boundaryMatches at h ⊢
    split
    · rfl
    · next offset hfind =>
      rw [hfind] at h
      have hnext := ih h
      rw [hnext]
      apply takeBoundaryMatch_flag
      rw [← hnext]
      exact h

theorem foldl_boundaryMatches_length :
    (boundary.foldl (fun found secretValue =>
      boundaryMatches value secretValue (value.length + 1) 0 found) found).1.length =
      found.1.length := by
  induction boundary generalizing found with
  | nil => rfl
  | cons t rest ih => exact ih.trans (boundaryMatches_length _)

theorem foldl_boundaryMatches_getD (hb : ∀ t ∈ boundary, t ≠ [])
    (hlen : found.1.length = value.length) :
    (boundary.foldl (fun found secretValue =>
      boundaryMatches value secretValue (value.length + 1) 0 found) found).1[i]?.getD 0 =
      max (found.1[i]?.getD 0) (longestOf boundary (matchesAt value i true)) := by
  induction boundary using List.reverseRecOn with
  | nil => exact (max_eq_left (Nat.zero_le _)).symm
  | append_singleton rest t ih =>
    have hrest := ih fun s hs => hb s (List.mem_append_left _ hs)
    have ht := hb t (List.mem_append_right _ (List.mem_singleton_self t))
    rw [List.foldl_append, List.foldl_cons, List.foldl_nil, longestOf_concat,
      boundaryMatches_getD ht _ (by omega) (foldl_boundaryMatches_length.trans hlen), hrest]
    by_cases hm : matchesAt value i true t = true
    · rw [if_pos ⟨Nat.zero_le i, hm⟩, if_pos hm, max_assoc]
    · rw [if_neg fun h => hm h.2, if_neg hm, max_eq_left (b := 0) (Nat.zero_le _)]

theorem foldl_boundaryMatches_flag
    (h : (boundary.foldl (fun found secretValue =>
      boundaryMatches value secretValue (value.length + 1) 0 found) found).2 = false) :
    boundary.foldl (fun found secretValue =>
      boundaryMatches value secretValue (value.length + 1) 0 found) found = found := by
  induction boundary generalizing found with
  | nil => rfl
  | cons t rest ih =>
    rw [List.foldl_cons] at h ⊢
    have hnext := ih h
    rw [hnext] at h ⊢
    exact boundaryMatches_flag _ h

theorem flatten_redactedParts {longestMatchAt : List ℕ} {segmentStart : ℕ} (fuel : ℕ)
    (hfuel : value.length ≤ i + fuel) (hs : segmentStart ≤ i) :
    (redactedParts value longestMatchAt fuel i segmentStart).flatten =
      (value.take i).drop segmentStart ++ render redactedLogValue value
        (scan (fun i => longestMatchAt[i]?.getD 0) value.length fuel i) := by
  have hend (h : value.length ≤ i) : [value.drop segmentStart].flatten =
      (value.take i).drop segmentStart ++ render redactedLogValue value [] := by
    rw [List.take_of_length_le h]
    rfl
  induction fuel generalizing i segmentStart with
  | zero => exact hend (by omega)
  | succ fuel ih =>
    unfold redactedParts scan
    by_cases hi : i < value.length
    · rw [if_pos hi, if_pos hi]
      dsimp only
      have hget := List.getElem?_eq_getElem hi
      by_cases h0 : longestMatchAt[i]?.getD 0 = 0
      · rw [if_pos h0, if_pos h0, ih (by omega) (by omega) fun h => ?_, render_some hget]
        · rw [← List.take_append_getElem hi, List.drop_append_of_le_length (by simp; omega),
            List.append_assoc]
          rfl
        · rw [List.take_of_length_le h]
          rfl
      · rw [if_neg h0, if_neg h0, List.flatten_cons, List.flatten_cons,
          ih (by omega) (by omega) fun h => ?_, render_none]
        · rw [List.drop_take_self, List.nil_append]
        · rw [List.take_of_length_le h]
          rfl
    · rw [if_neg hi, if_neg hi]
      exact hend (by omega)

theorem longestTokenAt_eq_zero : longestTokenAt substring boundary value i = 0 ↔
    longestOf substring (matchesAt value i false) = 0 ∧
      longestOf boundary (matchesAt value i true) = 0 := by
  unfold longestTokenAt
  omega

theorem matchesAt_substring : matchesAt value i false t = decide (t <+: value.drop i) := by
  simp [matchesAt]

theorem matchLengths_getD (hi : i < value.length) :
    (matchLengths (createLiteralSecretMatcher substring) value).2[i]?.getD 0 =
      longestOf substring (matchesAt value i false) := by
  rw [matchLengths_createLiteralSecretMatcher, List.getElem?_map, List.getElem?_range hi]
  exact longestOf_congr fun t _ => matchesAt_substring.symm

theorem longestMatchAt_eq (substring : List Units) (hb : ∀ t ∈ boundary, t ≠ []) (hi : i < value.length) :
    (addBoundaryMatches value boundary
      (matchLengths (createLiteralSecretMatcher substring) value).2).1[i]?.getD 0 =
      longestTokenAt substring boundary value i := by
  have hlen : (matchLengths (createLiteralSecretMatcher substring) value).2.length =
      value.length := by
    rw [matchLengths_createLiteralSecretMatcher, List.length_map, List.length_range]
  unfold addBoundaryMatches
  rw [foldl_boundaryMatches_getD hb hlen]
  dsimp only
  rw [matchLengths_getD hi]
  rfl

theorem render_leftmostPieces_zero
    (h : ∀ i < value.length, longestTokenAt substring boundary value i = 0) :
    render redactedLogValue value (leftmostPieces substring boundary value) = value :=
  render_scan_zero value.length (by omega) h

theorem redactLiteralSecretsWithMatcher_eq_render (hb : ∀ t ∈ boundary, t ≠ []) :
    redactLiteralSecretsWithMatcher value (createLiteralSecretMatcher substring) boundary =
      render redactedLogValue value (leftmostPieces substring boundary value) := by
  unfold redactLiteralSecretsWithMatcher
  by_cases hearly : ((createLiteralSecretMatcher substring).length ≤ 1 ∧ boundary = []) ∨ value = []
  · rw [if_pos hearly]
    refine (render_leftmostPieces_zero fun i hi => ?_).symm
    obtain ⟨hmatcher, rfl⟩ | rfl := hearly
    · have hnil := eq_nil_of_createLiteralSecretMatcher_length hmatcher
      exact longestTokenAt_eq_zero.mpr ⟨longestOf_eq_zero fun t ht _ => hnil t ht, rfl⟩
    · cases hi
  · rw [if_neg hearly]
    have hall {i : ℕ} (hi : i < value.length) := longestMatchAt_eq substring hb hi
    by_cases hnone : ((addBoundaryMatches value boundary
        (matchLengths (createLiteralSecretMatcher substring) value).2).2 ||
        (matchLengths (createLiteralSecretMatcher substring) value).2.any
          fun matchLength => decide (0 < matchLength)) = false
    · dsimp only
      rw [if_pos hnone]
      obtain ⟨hflag, hany⟩ := Bool.or_eq_false_iff.mp hnone
      refine (render_leftmostPieces_zero fun i hi => ?_).symm
      rw [← hall hi, addBoundaryMatches, foldl_boundaryMatches_flag hflag]
      dsimp only
      have hzero := List.any_eq_false.mp hany
      cases hget : (matchLengths (createLiteralSecretMatcher substring) value).2[i]? with
      | none => rfl
      | some n =>
        have := hzero n (List.mem_of_getElem? hget)
        simpa using this
    · dsimp only
      rw [if_neg hnone, flatten_redactedParts value.length (by omega) (Nat.le_refl 0)]
      rw [List.take_zero, List.drop_nil, List.nil_append, scan_congr value.length fun i hi => hall hi]
      rfl

theorem leftmostFrom_eq_render (fuel : ℕ) : leftmostFrom substring boundary value fuel i =
    render redactedLogValue value
      (scan (longestTokenAt substring boundary value) value.length fuel i) := by
  induction fuel generalizing i with
  | zero => rfl
  | succ fuel ih =>
    unfold leftmostFrom scan
    by_cases hi : i < value.length
    · have hget := List.getElem?_eq_getElem hi
      rw [if_pos hi, hget]
      dsimp only
      split
      · rw [render_some hget, ih]
      · rw [render_none, ih]
    · rw [if_neg hi, List.getElem?_eq_none (by omega)]
      rfl

/-- The automaton redacts like the naive scan does. -/
theorem redactLiteralSecretsWithMatcher_eq_leftmostRedaction (substring boundary : List Units)
    (value : Units) (hboundary : ∀ t ∈ boundary, t ≠ []) :
    redactLiteralSecretsWithMatcher value (createLiteralSecretMatcher substring) boundary =
      leftmostRedaction substring boundary value := by
  rw [redactLiteralSecretsWithMatcher_eq_render hboundary]
  exact (leftmostFrom_eq_render value.length).symm

theorem redactLiteralSecretsWithMatcher_eq_leftmostRedaction_overlapping :
    redactLiteralSecretsWithMatcher (units "xabcabd ab") (createLiteralSecretMatcher
      [units "abcab", units "bcabd"]) [units "ab"] = leftmostRedaction
        [units "abcab", units "bcabd"] [units "ab"] (units "xabcabd ab") :=
  redactLiteralSecretsWithMatcher_eq_leftmostRedaction _ _ _ (by simp [units])

end

end LiteralRedaction

end NouvaAgent

import NouvaAgent.Matching.Suffix

namespace NouvaAgent

open Matching

structure LiteralSecretMatcherNode (α : Type) where
  failure : ℕ := 0
  maxOutputLength : ℕ := 0
  transitions : List (α × ℕ) := []
  deriving DecidableEq, Repr

abbrev LiteralSecretMatcher (α : Type) := List (LiteralSecretMatcherNode α)

namespace LiteralSecretMatcher

variable {α : Type}

def nodeAt (nodes : LiteralSecretMatcher α) (state : ℕ) : LiteralSecretMatcherNode α :=
  nodes[state]?.getD {}

variable [DecidableEq α]

def transition (nodes : LiteralSecretMatcher α) (state : ℕ) (character : α) : Option ℕ :=
  (nodeAt nodes state).transitions.lookup character

def addPath : List α → LiteralSecretMatcher α → ℕ → LiteralSecretMatcher α × ℕ
  | [], nodes, state => (nodes, state)
  | character :: rest, nodes, state =>
    match transition nodes state character with
    | some nextState => addPath rest nodes nextState
    | none => addPath rest (nodes.modify state (fun node =>
        { node with transitions := node.transitions ++ [(character, nodes.length)] }) ++ [{}])
        nodes.length

def addSecretValue (nodes : LiteralSecretMatcher α) (secretValue : List α) :
    LiteralSecretMatcher α :=
  let (nodes, state) := addPath secretValue.reverse nodes 0
  nodes.modify state fun node =>
    { node with maxOutputLength := max node.maxOutputLength secretValue.length }

def fallBack (nodes : LiteralSecretMatcher α) (character : α) : ℕ → ℕ → ℕ
  | 0, failure => failure
  | fuel + 1, failure =>
    if failure ≠ 0 ∧ transition nodes failure character = none then
      fallBack nodes character fuel (nodeAt nodes failure).failure
    else failure

def follow (nodes : LiteralSecretMatcher α) (state : ℕ) (character : α) : ℕ :=
  (transition nodes (fallBack nodes character nodes.length state) character).getD 0

def linkChild (failure : ℕ) (nodes : LiteralSecretMatcher α) (entry : α × ℕ) :
    LiteralSecretMatcher α :=
  nodes.modify entry.2 fun child => { child with failure := follow nodes failure entry.1 }

def visit (nodes : LiteralSecretMatcher α) (state : ℕ) : LiteralSecretMatcher α :=
  let node := nodeAt nodes state
  let inherited := (nodeAt nodes node.failure).maxOutputLength
  let nodes := nodes.modify state fun node =>
    { node with maxOutputLength := max node.maxOutputLength inherited }
  node.transitions.foldl (linkChild node.failure) nodes

def processQueue : ℕ → List ℕ → LiteralSecretMatcher α → LiteralSecretMatcher α
  | 0, _, nodes => nodes
  | _ + 1, [], nodes => nodes
  | fuel + 1, state :: queue, nodes =>
    processQueue fuel (queue ++ (nodeAt nodes state).transitions.map Prod.snd) (visit nodes state)

def createLiteralSecretMatcher (secretValues : List (List α)) : LiteralSecretMatcher α :=
  let nodes := secretValues.foldl addSecretValue [{}]
  processQueue nodes.length ((nodeAt nodes 0).transitions.map Prod.snd) nodes

/-- The state after reading a text from its end, and for each index the length of the longest secret
that the state matches there. -/
def matchLengths (matcher : LiteralSecretMatcher α) : List α → ℕ × List ℕ
  | [] => (0, [])
  | character :: rest =>
    let (state, lengths) := matchLengths matcher rest
    let state := follow matcher state character
    (state, (nodeAt matcher state).maxOutputLength :: lengths)

section

variable {nodes : LiteralSecretMatcher α} {words : List (List α)} {i j : ℕ} {w : List α} {c : α}

omit [DecidableEq α] in
theorem nodeAt_modify {f : LiteralSecretMatcherNode α → LiteralSecretMatcherNode α}
    (hi : i < nodes.length) : nodeAt (nodes.modify i f) j =
      if i = j then f (nodeAt nodes j) else nodeAt nodes j := by
  unfold nodeAt
  rw [List.getElem?_modify]
  by_cases hij : i = j
  · subst hij
    rw [List.getElem?_eq_getElem hi]
    simp
  · simp [hij]

omit [DecidableEq α] in
theorem nodeAt_append {node : LiteralSecretMatcherNode α} :
    nodeAt (nodes ++ [node]) j = if j = nodes.length then node else nodeAt nodes j := by
  unfold nodeAt
  rw [List.getElem?_append]
  by_cases hj : j < nodes.length
  · rw [if_pos hj, if_neg (by omega)]
  · rw [if_neg hj]
    by_cases hlast : j = nodes.length
    · simp [hlast]
    · rw [if_neg hlast, List.getElem?_eq_none (by omega : nodes.length ≤ j),
        List.getElem?_eq_none (by simp; omega)]

/-- The states of `nodes` stand for the different `words`, which lead to each other. -/
structure Trie (nodes : LiteralSecretMatcher α) (words : List (List α)) : Prop where
  length : words.length = nodes.length
  root : words[0]? = some []
  nodup : words.Nodup
  closed : Closed words
  step : ∀ i w, words[i]? = some w → ∀ c j,
    (c, j) ∈ (nodeAt nodes i).transitions ↔ words[j]? = some (w ++ [c])
  distinct : ∀ i, (nodeAt nodes i).transitions.Nodup

omit [DecidableEq α] in
theorem Trie.inj (ht : Trie nodes words) (hi : words[i]? = some w) (hj : words[j]? = some w) :
    i = j := by
  have hlt : i < words.length := (List.getElem?_eq_some_iff.mp hi).1
  exact (List.getElem?_inj hlt ht.nodup).mp (hi.trans hj.symm)

omit [DecidableEq α] in
theorem Trie.nil_mem (ht : Trie nodes words) : [] ∈ words := List.mem_of_getElem? ht.root

theorem Trie.transition_eq (ht : Trie nodes words) (hi : words[i]? = some w) :
    transition nodes i c = some j ↔ words[j]? = some (w ++ [c]) := by
  have hmem (j : ℕ) (h : transition nodes i c = some j) : words[j]? = some (w ++ [c]) := by
    obtain ⟨l₁, l₂, hl, _⟩ := List.lookup_eq_some_iff.mp h
    exact (ht.step i w hi c j).mp (hl ▸ List.mem_append_right l₁ List.mem_cons_self)
  refine ⟨hmem j, fun hj => ?_⟩
  have hentry := (ht.step i w hi c j).mpr hj
  cases hfound : transition nodes i c with
  | none =>
    have hnone := List.lookup_eq_none_iff.mp hfound _ hentry
    simp at hnone
  | some k => rw [ht.inj (hmem k hfound) hj]

theorem Trie.transition_none (ht : Trie nodes words) (hi : words[i]? = some w) :
    transition nodes i c = none ↔ w ++ [c] ∉ words := by
  constructor
  · intro hnone hm
    obtain ⟨j, hj⟩ := List.mem_iff_getElem?.mp hm
    rw [(ht.transition_eq hi).mpr hj] at hnone
    cases hnone
  · intro hm
    cases hfound : transition nodes i c with
    | none => rfl
    | some j => exact absurd (List.mem_of_getElem? ((ht.transition_eq hi).mp hfound)) hm

omit [DecidableEq α] in
theorem getElem?_concat_of_ne {u v : List α} (h : u ≠ v) :
    (words ++ [v])[j]? = some u ↔ words[j]? = some u := by
  by_cases hj : j < words.length
  · rw [List.getElem?_append_left hj]
  · rw [List.getElem?_append_right (by omega), List.getElem?_eq_none (by omega : words.length ≤ j)]
    by_cases hlast : j - words.length = 0
    · rw [hlast]
      simpa using fun heq => h heq.symm
    · rw [List.getElem?_eq_none (by simp; omega)]

omit [DecidableEq α] in
theorem getElem?_concat_new {v : List α} (h : v ∉ words) :
    (words ++ [v])[j]? = some v ↔ j = words.length := by
  constructor
  · intro hj
    by_contra hne
    by_cases hjl : j < words.length
    · rw [List.getElem?_append_left hjl] at hj
      exact h (List.mem_of_getElem? hj)
    · rw [List.getElem?_eq_none (by simp; omega)] at hj
      cases hj
  · rintro rfl
    exact List.getElem?_concat_length

omit [DecidableEq α] in
theorem nodeAt_extend (hi : i < nodes.length) : nodeAt (nodes.modify i (fun node =>
      { node with transitions := node.transitions ++ [(c, nodes.length)] }) ++
      [({} : LiteralSecretMatcherNode α)]) j =
    if j = nodes.length then {}
    else if i = j then
      { nodeAt nodes j with transitions := (nodeAt nodes j).transitions ++ [(c, nodes.length)] }
    else nodeAt nodes j := by
  rw [nodeAt_append, List.length_modify, nodeAt_modify hi]

omit [DecidableEq α] in
theorem Trie.step_extended (ht : Trie nodes words) (hi : words[i]? = some w)
    (hnew : w ++ [c] ∉ words) (d : α) (j : ℕ) :
    (d, j) ∈ (nodeAt nodes i).transitions ++ [(c, nodes.length)] ↔
      (words ++ [w ++ [c]])[j]? = some (w ++ [d]) := by
  rw [List.mem_append, List.mem_singleton, ht.step i w hi]
  by_cases hd : d = c
  · subst hd
    rw [getElem?_concat_new hnew, ht.length]
    constructor
    · rintro (h | h)
      · exact absurd (List.mem_of_getElem? h) hnew
      · exact (Prod.mk.inj h).2
    · rintro rfl
      exact .inr rfl
  · rw [getElem?_concat_of_ne (by simpa using hd)]
    exact ⟨fun h => h.elim id fun h => absurd (Prod.mk.inj h).1 hd, .inl⟩

omit [DecidableEq α] in
theorem Trie.distinct_extended (ht : Trie nodes words) (hi : words[i]? = some w) :
    ((nodeAt nodes i).transitions ++ [(c, nodes.length)]).Nodup := by
  refine List.nodup_append.mpr ⟨ht.distinct i, List.nodup_singleton _, fun a ha b hb => ?_⟩
  rintro rfl
  rw [List.mem_singleton.mp hb, ht.step i w hi] at ha
  have hlt := (List.getElem?_eq_some_iff.mp ha).1
  have hlength := ht.length
  omega

omit [DecidableEq α] in
theorem Trie.extend (ht : Trie nodes words) (hi : words[i]? = some w) (hnew : w ++ [c] ∉ words) :
    Trie (nodes.modify i (fun node =>
      { node with transitions := node.transitions ++ [(c, nodes.length)] }) ++
      [({} : LiteralSecretMatcherNode α)]) (words ++ [w ++ [c]]) := by
  have hlen := ht.length
  have hlt : i < nodes.length := hlen ▸ (List.getElem?_eq_some_iff.mp hi).1
  refine ⟨by simp [hlen], (getElem?_concat_of_ne (by simp)).mpr ht.root,
    List.nodup_append.mpr ⟨ht.nodup, List.nodup_singleton _, ?_⟩,
    ht.closed.concat (List.mem_of_getElem? hi) c, ?_, ?_⟩
  · rintro a ha b hb rfl
    exact hnew (List.mem_singleton.mp hb ▸ ha)
  · intro k u hk d j
    rw [nodeAt_extend hlt]
    split
    · next hkl =>
      have hu : u = w ++ [c] := by
        rw [hkl, ← hlen, List.getElem?_concat_length] at hk
        exact (Option.some.inj hk).symm
      subst hu
      exact iff_of_false (fun h => nomatch h) fun h =>
        ht.closed.not_mem_concat hnew d (List.mem_of_getElem? h)
    · next hkl =>
      have hne : u ≠ w ++ [c] := by
        rintro rfl
        exact hkl (((getElem?_concat_new hnew).mp hk).trans hlen)
      have hkold := (getElem?_concat_of_ne hne).mp hk
      split
      · next hik =>
        subst hik
        obtain rfl := Option.some.inj (hi.symm.trans hkold)
        exact ht.step_extended hi hnew d j
      · next hik =>
        rw [ht.step k u hkold, getElem?_concat_of_ne]
        intro he
        obtain ⟨rfl, _⟩ := List.append_inj' he rfl
        exact hik (ht.inj hi hkold)
  · intro k
    rw [nodeAt_extend hlt]
    split
    · exact List.nodup_nil
    · split
      · next hik =>
        subst hik
        exact ht.distinct_extended hi
      · exact ht.distinct k

def SameOutputs (nodes other : LiteralSecretMatcher α) : Prop := ∀ k,
  (nodeAt other k).maxOutputLength = (nodeAt nodes k).maxOutputLength ∧
    (nodeAt other k).failure = (nodeAt nodes k).failure

theorem addPath_spec (cs : List α) (ht : Trie nodes words) (hi : words[i]? = some w) :
    ∃ added, Trie (addPath cs nodes i).1 (words ++ added) ∧
      (words ++ added)[(addPath cs nodes i).2]? = some (w ++ cs) ∧
      SameOutputs nodes (addPath cs nodes i).1 := by
  induction cs generalizing nodes words i w with
  | nil =>
    refine ⟨[], ?_, ?_, fun k => ⟨rfl, rfl⟩⟩
    · rw [List.append_nil]
      exact ht
    · rw [List.append_nil, List.append_nil]
      exact hi
  | cons c rest ih =>
    unfold addPath
    cases hc : transition nodes i c with
    | some j =>
      obtain ⟨added, htrie, hend, hsame⟩ := ih ht ((ht.transition_eq hi).mp hc)
      rw [List.append_assoc] at hend
      exact ⟨added, htrie, hend, hsame⟩
    | none =>
      have hnew := ht.extend hi ((ht.transition_none hi).mp hc)
      have hlast : (words ++ [w ++ [c]])[nodes.length]? = some (w ++ [c]) := by
        rw [← ht.length]
        exact List.getElem?_concat_length
      obtain ⟨added, htrie, hend, hsame⟩ := ih hnew hlast
      rw [List.append_assoc] at htrie hend
      rw [List.append_assoc] at hend
      refine ⟨[w ++ [c]] ++ added, htrie, hend, fun k => ?_⟩
      have hlt : i < nodes.length := ht.length ▸ (List.getElem?_eq_some_iff.mp hi).1
      rw [(hsame k).1, (hsame k).2, nodeAt_extend hlt]
      split
      · next hk => simp [nodeAt, hk]
      · split <;> exact ⟨rfl, rfl⟩

structure Built (tokens : List (List α)) (nodes : LiteralSecretMatcher α)
    (words : List (List α)) : Prop where
  trie : Trie nodes words
  mem : ∀ t ∈ tokens, t.reverse ∈ words
  output : ∀ i w, words[i]? = some w →
    (nodeAt nodes i).maxOutputLength = longestOf tokens (fun t => decide (t.reverse = w))
  failure : ∀ i, (nodeAt nodes i).failure = 0

theorem built_nil : Built [] [({} : LiteralSecretMatcherNode α)] [[]] := by
  have hdefault (i : ℕ) : nodeAt [({} : LiteralSecretMatcherNode α)] i = {} := by
    cases i <;> rfl
  refine ⟨⟨rfl, rfl, List.nodup_singleton _, fun w c h => ?_, fun i w hi c j => ?_, fun i => ?_⟩,
    fun t h => (nomatch h), fun i w _ => ?_, fun i => ?_⟩
  · simp at h
  · rw [hdefault]
    refine ⟨fun h => (nomatch h), fun h => ?_⟩
    have hm := List.mem_of_getElem? h
    simp at hm
  · rw [hdefault]
    exact List.nodup_nil
  · rw [hdefault]
    rfl
  · rw [hdefault]

theorem Built.addSecretValue {tokens : List (List α)} (hb : Built tokens nodes words)
    (t : List α) : ∃ more, Built (tokens ++ [t]) (addSecretValue nodes t) more := by
  obtain ⟨added, htrie, hend, hsame⟩ := addPath_spec t.reverse hb.trie hb.trie.root
  rw [List.nil_append] at hend
  have hlt : (addPath t.reverse nodes 0).2 < (addPath t.reverse nodes 0).1.length :=
    htrie.length ▸ (List.getElem?_eq_some_iff.mp hend).1
  have hold (i : ℕ) (w : List α) (hi : (words ++ added)[i]? = some w) :
      (nodeAt (addPath t.reverse nodes 0).1 i).maxOutputLength =
        longestOf tokens (fun t => decide (t.reverse = w)) := by
    rw [(hsame i).1]
    by_cases hlt : i < words.length
    · rw [List.getElem?_append_left hlt] at hi
      exact hb.output i w hi
    · have hnew : nodeAt nodes i = {} := by
        unfold nodeAt
        rw [List.getElem?_eq_none (by rw [← hb.trie.length]; omega)]
        rfl
      rw [hnew]
      refine (longestOf_eq_zero fun s hs hw => ?_).symm
      obtain ⟨j, hj⟩ := List.mem_iff_getElem?.mp (hb.mem s hs)
      have hjlt := (List.getElem?_eq_some_iff.mp hj).1
      rw [of_decide_eq_true hw] at hj
      have hij := htrie.inj hi ((List.getElem?_append_left hjlt).trans hj)
      omega
  refine ⟨words ++ added, ⟨?_, ?_, htrie.nodup, htrie.closed, fun i w hi c j => ?_, fun i => ?_⟩,
    fun s hs => ?_, fun i w hi => ?_, fun i => ?_⟩
  · simp only [LiteralSecretMatcher.addSecretValue, List.length_modify]
    exact htrie.length
  · exact htrie.root
  · simp only [LiteralSecretMatcher.addSecretValue, nodeAt_modify hlt]
    rw [← htrie.step i w hi c j]
    split <;> rfl
  · simp only [LiteralSecretMatcher.addSecretValue, nodeAt_modify hlt]
    have hdistinct := htrie.distinct i
    split <;> exact hdistinct
  · obtain hs | hs := List.mem_append.mp hs
    · exact List.mem_append_left _ (hb.mem s hs)
    · obtain rfl := List.mem_singleton.mp hs
      exact List.mem_of_getElem? hend
  · simp only [LiteralSecretMatcher.addSecretValue, nodeAt_modify hlt]
    rw [longestOf_concat, ← hold i w hi]
    by_cases hti : (addPath t.reverse nodes 0).2 = i
    · obtain rfl := Option.some.inj (hi.symm.trans (hti ▸ hend))
      simp [hti]
    · have hne : t.reverse ≠ w := by
        rintro rfl
        exact hti (htrie.inj hend hi)
      simp [hti, hne]
  · simp only [LiteralSecretMatcher.addSecretValue, nodeAt_modify hlt]
    have hfailure := (hsame i).2.trans (hb.failure i)
    split <;> exact hfailure

theorem built_foldl (tokens : List (List α)) :
    ∃ words, Built tokens (tokens.foldl LiteralSecretMatcher.addSecretValue [{}]) words := by
  induction tokens using List.reverseRecOn with
  | nil => exact ⟨[[]], built_nil⟩
  | append_singleton tokens t ih =>
    obtain ⟨words, hb⟩ := ih
    rw [List.foldl_append]
    exact hb.addSecretValue t

def Linked (nodes : LiteralSecretMatcher α) (words : List (List α)) (n : ℕ) : Prop :=
  ∀ i w, words[i]? = some w → w ≠ [] → w.length ≤ n →
    ∃ u, words[(nodeAt nodes i).failure]? = some u ∧ Failure words w u

theorem fallBack_spec {n : ℕ} (ht : Trie nodes words) (hl : Linked nodes words n) (fuel : ℕ)
    (hi : words[i]? = some w) (hn : w.length ≤ n) (hfuel : w.length < fuel) :
    ∃ v, words[fallBack nodes c fuel i]? = some v ∧ Continues words c w v := by
  induction fuel generalizing i w with
  | zero => omega
  | succ fuel ih =>
    unfold fallBack
    by_cases hstop : i ≠ 0 ∧ transition nodes i c = none
    · rw [if_pos hstop]
      have hne : w ≠ [] := by
        rintro rfl
        exact hstop.1 (ht.inj hi ht.root)
      obtain ⟨u, hu, hfail⟩ := hl i w hi hne hn
      have hshort := hfail.shorter
      obtain ⟨v, hv, hcont⟩ := ih hu (by omega) (by omega)
      exact ⟨v, hv, Continues.fall hfail ((ht.transition_none hi).mp hstop.2) hcont⟩
    · rw [if_neg hstop]
      refine ⟨w, hi, Continues.here ?_⟩
      by_cases h0 : i = 0
      · subst h0
        exact .inl (Option.some.inj (hi.symm.trans ht.root))
      · right
        by_contra hm
        exact hstop ⟨h0, (ht.transition_none hi).mpr hm⟩

theorem follow_spec {n : ℕ} (ht : Trie nodes words) (hl : Linked nodes words n)
    (hi : words[i]? = some w) (hn : w.length ≤ n) :
    ∃ v, words[follow nodes i c]? = some (if v ++ [c] ∈ words then v ++ [c] else []) ∧
      Continues words c w v := by
  have hfuel : w.length < nodes.length :=
    ht.length ▸ ht.closed.length_lt (List.mem_of_getElem? hi)
  obtain ⟨v, hv, hcont⟩ := fallBack_spec (c := c) ht hl nodes.length hi hn hfuel
  refine ⟨v, ?_, hcont⟩
  unfold follow
  cases hc : transition nodes (fallBack nodes c nodes.length i) c with
  | some j =>
    have hj := (ht.transition_eq hv).mp hc
    rw [if_pos (List.mem_of_getElem? hj)]
    exact hj
  | none =>
    rw [if_neg ((ht.transition_none hv).mp hc)]
    exact ht.root

omit [DecidableEq α] in
theorem Trie.of_transitions {other : LiteralSecretMatcher α} (ht : Trie nodes words)
    (hlen : other.length = nodes.length)
    (h : ∀ k, (nodeAt other k).transitions = (nodeAt nodes k).transitions) : Trie other words := by
  refine ⟨ht.length.trans hlen.symm, ht.root, ht.nodup, ht.closed, fun i w hi c j => ?_,
    fun i => ?_⟩
  · rw [h]
    exact ht.step i w hi c j
  · rw [h]
    exact ht.distinct i

structure Links (nodes other : LiteralSecretMatcher α) (words : List (List α)) (w : List α)
    (entries : List (α × ℕ)) : Prop where
  length : other.length = nodes.length
  transitions : ∀ k, (nodeAt other k).transitions = (nodeAt nodes k).transitions
  output : ∀ k, (nodeAt other k).maxOutputLength = (nodeAt nodes k).maxOutputLength
  same : ∀ k, k ∉ entries.map Prod.snd → (nodeAt other k).failure = (nodeAt nodes k).failure
  linked : ∀ e ∈ entries, ∃ v, words[(nodeAt other e.2).failure]? = some v ∧
    Failure words (w ++ [e.1]) v

theorem links_foldl {u : List α} (entries : List (α × ℕ)) (ht : Trie nodes words)
    (hj : words[j]? = some u) (hu : Failure words w u) (hl : Linked nodes words u.length)
    (he : ∀ e ∈ entries, words[e.2]? = some (w ++ [e.1])) :
    Links nodes (entries.foldl (linkChild j) nodes) words w entries := by
  induction entries generalizing nodes with
  | nil => exact ⟨rfl, fun _ => rfl, fun _ => rfl, fun _ _ => rfl, fun _ h => (nomatch h)⟩
  | cons e rest ih =>
    have hword := he e List.mem_cons_self
    have hlt : e.2 < nodes.length := ht.length ▸ (List.getElem?_eq_some_iff.mp hword).1
    have hnode (k : ℕ) : nodeAt (linkChild j nodes e) k = if e.2 = k then
        { nodeAt nodes k with failure := follow nodes j e.1 } else nodeAt nodes k :=
      nodeAt_modify hlt
    have hlen : (linkChild j nodes e).length = nodes.length := List.length_modify ..
    have htrans (k : ℕ) : (nodeAt (linkChild j nodes e) k).transitions =
        (nodeAt nodes k).transitions := by
      rw [hnode]
      split <;> rfl
    have hl' : Linked (linkChild j nodes e) words u.length := by
      intro k x hk hx hxu
      rw [hnode, if_neg]
      · exact hl k x hk hx hxu
      · rintro rfl
        obtain rfl := Option.some.inj (hk.symm.trans hword)
        have hshort := hu.shorter
        simp only [List.length_append, List.length_singleton] at hxu
        omega
    have hrest := ih (ht.of_transitions hlen htrans) hl' fun x hx =>
      he x (List.mem_cons_of_mem e hx)
    refine ⟨hrest.length.trans hlen, fun k => (hrest.transitions k).trans (htrans k), fun k => ?_,
      fun k hk => ?_, fun x hx => ?_⟩
    · rw [List.foldl_cons, hrest.output, hnode]
      split <;> rfl
    · rw [List.map_cons, List.mem_cons, not_or] at hk
      rw [List.foldl_cons, hrest.same k hk.2, hnode, if_neg fun h => hk.1 h.symm]
    · by_cases hin : x.2 ∈ rest.map Prod.snd
      · obtain ⟨y, hy, hyx⟩ := List.mem_map.mp hin
        obtain ⟨v, hv, hfail⟩ := hrest.linked y hy
        have hwords := he y (List.mem_cons_of_mem e hy)
        rw [hyx, he x hx] at hwords
        rw [List.foldl_cons, ← hyx, Option.some.inj hwords]
        exact ⟨v, hv, hfail⟩
      · obtain rfl | hx := List.mem_cons.mp hx
        · obtain ⟨v, hv, hcont⟩ := follow_spec (c := x.1) ht hl hj (Nat.le_refl _)
          refine ⟨_, ?_, hu.step ht.closed ht.nil_mem hcont⟩
          rw [List.foldl_cons, hrest.same _ hin, hnode, if_pos rfl]
          exact hv
        · exact absurd (List.mem_map_of_mem hx) hin

def depth (words : List (List α)) (i : ℕ) : ℕ := (words[i]?.getD []).length

omit [DecidableEq α] in
theorem depth_eq (hi : words[i]? = some w) : depth words i = w.length := by
  unfold depth
  rw [hi]
  rfl

/-- The states in `done` are complete, and those in `queue` are the next by length of their words. -/
structure Visiting (tokens : List (List α)) (nodes : LiteralSecretMatcher α)
    (words : List (List α)) (done queue : List ℕ) : Prop where
  trie : Trie nodes words
  mem : ∀ t ∈ tokens, t.reverse ∈ words
  nodup : (done ++ queue).Nodup
  word : ∀ i ∈ done ++ queue, ∃ w, words[i]? = some w ∧ w ≠ []
  parent : ∀ i ∈ done ++ queue, ∀ w c, words[i]? = some (w ++ [c]) →
    w = [] ∨ ∃ k ∈ done, words[k]? = some w
  roots : ∀ c j, words[j]? = some [c] → j ∈ done ++ queue
  children : ∀ i ∈ done, ∀ w, words[i]? = some w → ∀ c j, words[j]? = some (w ++ [c]) →
    j ∈ done ++ queue
  linked : ∀ i ∈ done ++ queue, ∀ w, words[i]? = some w →
    ∃ u, words[(nodeAt nodes i).failure]? = some u ∧ Failure words w u
  ordered : queue.Pairwise fun i j =>
    depth words i ≤ depth words j ∧ depth words j ≤ depth words i + 1
  finished : ∀ i ∈ done, ∀ w, words[i]? = some w →
    (nodeAt nodes i).maxOutputLength = longestOf tokens (fun t => decide (t.reverse <:+ w))
  fresh : ∀ i, i ∉ done → ∀ w, words[i]? = some w →
    (nodeAt nodes i).maxOutputLength = longestOf tokens (fun t => decide (t.reverse = w))

section

variable {tokens : List (List α)} {done queue : List ℕ} {state : ℕ}

theorem Visiting.mem_done (h : Visiting tokens nodes words done queue) (hi : words[i]? = some w)
    (hw : w ≠ []) (hshort : ∀ j ∈ queue, w.length < depth words j) : i ∈ done := by
  induction w using List.reverseRecOn generalizing i with
  | nil => exact absurd rfl hw
  | append_singleton w c ih =>
    have hmem : i ∈ done ++ queue := by
      by_cases hnil : w = []
      · subst hnil
        exact h.roots c i hi
      · obtain ⟨k, hk⟩ := List.mem_iff_getElem?.mp
          (h.trie.closed w c (List.mem_of_getElem? hi))
        have hdone : k ∈ done := ih hk hnil fun j hj => by
          have := hshort j hj
          simp only [List.length_append, List.length_singleton] at this
          omega
        exact h.children k hdone w hk c i hi
    obtain hmem | hmem := List.mem_append.mp hmem
    · exact hmem
    · have := hshort i hmem
      rw [depth_eq hi] at this
      omega

theorem Visiting.le_depth (h : Visiting tokens nodes words done (state :: queue))
    (hj : j ∈ state :: queue) : depth words state ≤ depth words j := by
  obtain rfl | hj := List.mem_cons.mp hj
  · exact Nat.le_refl _
  · exact (List.rel_of_pairwise_cons h.ordered hj).1

theorem Visiting.linked_below (h : Visiting tokens nodes words done (state :: queue))
    (hs : words[state]? = some w) {n : ℕ} (hn : n < w.length) : Linked nodes words n := by
  intro k x hk hx hxn
  refine h.linked k (List.mem_append_left _ (h.mem_done hk hx fun j hj => ?_)) x hk
  have hle := h.le_depth hj
  rw [depth_eq hs] at hle
  omega

theorem Visiting.output_failure {u : List α}
    (h : Visiting tokens nodes words done (state :: queue)) (hs : words[state]? = some w)
    (hj : words[j]? = some u) (hu : Failure words w u) : (nodeAt nodes j).maxOutputLength =
      longestOf tokens (fun t => decide (t.reverse <:+ u)) := by
  by_cases hnil : u = []
  · subst hnil
    have hroot : j ∉ done := fun hd => by
      obtain ⟨x, hx, hne⟩ := h.word j (List.mem_append_left _ hd)
      exact hne (Option.some.inj (hx.symm.trans hj))
    rw [h.fresh j hroot [] hj]
    apply longestOf_congr
    intro t _
    simp
  · apply h.finished j _ u hj
    refine h.mem_done hj hnil fun k hk => ?_
    have hle := h.le_depth hk
    rw [depth_eq hs] at hle
    have hshort := hu.shorter
    omega

theorem longestOf_failure {u : List α} (hmem : ∀ t ∈ tokens, t.reverse ∈ words)
    (hu : Failure words w u) :
    max (longestOf tokens fun t => decide (t.reverse = w))
      (longestOf tokens fun t => decide (t.reverse <:+ u)) =
      longestOf tokens fun t => decide (t.reverse <:+ w) := by
  apply Nat.le_antisymm
  · apply max_le
    · refine longestOf_le fun t ht hw => le_longestOf ht (decide_eq_true ?_)
      rw [of_decide_eq_true hw]
    · exact longestOf_le fun t ht hw =>
        le_longestOf ht (decide_eq_true ((of_decide_eq_true hw).trans hu.suffix))
  · refine longestOf_le fun t ht hw => ?_
    have hsuffix := of_decide_eq_true hw
    by_cases hshort : t.reverse.length < w.length
    · exact (le_longestOf ht (decide_eq_true (hu.longest _ hsuffix hshort (hmem t ht)))).trans
        (le_max_right _ _)
    · have heq := hsuffix.eq_of_length_le (by omega)
      exact (le_longestOf ht (decide_eq_true heq)).trans (le_max_left _ _)

omit [DecidableEq α] in
theorem Trie.mem_children (ht : Trie nodes words) (hi : words[i]? = some w) :
    j ∈ (nodeAt nodes i).transitions.map Prod.snd ↔ ∃ c, words[j]? = some (w ++ [c]) := by
  rw [List.mem_map]
  constructor
  · rintro ⟨⟨c, k⟩, hk, rfl⟩
    exact ⟨c, (ht.step i w hi c k).mp hk⟩
  · rintro ⟨c, hj⟩
    exact ⟨(c, j), (ht.step i w hi c j).mpr hj, rfl⟩

omit [DecidableEq α] in
theorem Trie.children_nodup (ht : Trie nodes words) (hi : words[i]? = some w) :
    ((nodeAt nodes i).transitions.map Prod.snd).Nodup := by
  refine List.Nodup.map_on ?_ (ht.distinct i)
  rintro ⟨c, j⟩ hc ⟨d, k⟩ hd rfl
  have hword := ((ht.step i w hi c j).mp hc).symm.trans ((ht.step i w hi d j).mp hd)
  have hlast := List.append_cancel_left (Option.some.inj hword)
  rw [(List.cons.inj hlast).1]

theorem Visiting.visit_links (h : Visiting tokens nodes words done (state :: queue))
    (hs : words[state]? = some w) : Links
      (nodes.modify state fun node => { node with
        maxOutputLength := max node.maxOutputLength
          (nodeAt nodes (nodeAt nodes state).failure).maxOutputLength })
      (visit nodes state) words w (nodeAt nodes state).transitions := by
  have hlt : state < nodes.length := h.trie.length ▸ (List.getElem?_eq_some_iff.mp hs).1
  obtain ⟨u, hu, hfail⟩ := h.linked state (List.mem_append_right _ List.mem_cons_self) w hs
  apply links_foldl _ _ hu hfail
  · intro k x hk hx hxu
    have hshort := hfail.shorter
    have hlinked := h.linked_below hs hshort k x hk hx hxu
    rw [nodeAt_modify hlt]
    split <;> exact hlinked
  · exact fun e he => (h.trie.step state w hs e.1 e.2).mp he
  · refine h.trie.of_transitions (List.length_modify ..) fun k => ?_
    rw [nodeAt_modify hlt]
    split <;> rfl

theorem Visiting.visit_transitions (h : Visiting tokens nodes words done (state :: queue))
    (hs : words[state]? = some w) (k : ℕ) :
    (nodeAt (LiteralSecretMatcher.visit nodes state) k).transitions =
      (nodeAt nodes k).transitions := by
  have hlt : state < nodes.length := h.trie.length ▸ (List.getElem?_eq_some_iff.mp hs).1
  rw [(h.visit_links hs).transitions, nodeAt_modify hlt]
  split <;> rfl

theorem Visiting.child_fresh (h : Visiting tokens nodes words done (state :: queue))
    (hs : words[state]? = some w) (hw : w ≠ [])
    (hj : j ∈ (nodeAt nodes state).transitions.map Prod.snd) : j ∉ done ++ state :: queue := by
  intro hm
  obtain ⟨c, hj⟩ := (h.trie.mem_children hs).mp hj
  obtain rfl | ⟨k, hk, hkw⟩ := h.parent j hm w c hj
  · exact hw rfl
  · have hne := (List.nodup_append.mp h.nodup).2.2 k hk state List.mem_cons_self
    exact hne (h.trie.inj hkw hs)

theorem Visiting.visit_failure (h : Visiting tokens nodes words done (state :: queue))
    (hs : words[state]? = some w) (hw : w ≠ []) (hj : j ∈ done ++ state :: queue) :
    (nodeAt (LiteralSecretMatcher.visit nodes state) j).failure = (nodeAt nodes j).failure := by
  have hlt : state < nodes.length := h.trie.length ▸ (List.getElem?_eq_some_iff.mp hs).1
  rw [(h.visit_links hs).same j fun hm => h.child_fresh hs hw hm hj, nodeAt_modify hlt]
  split <;> rfl

theorem Visiting.visit_output (h : Visiting tokens nodes words done (state :: queue))
    (hs : words[state]? = some w) (hj : state ≠ j) :
    (nodeAt (LiteralSecretMatcher.visit nodes state) j).maxOutputLength =
      (nodeAt nodes j).maxOutputLength := by
  have hlt : state < nodes.length := h.trie.length ▸ (List.getElem?_eq_some_iff.mp hs).1
  rw [(h.visit_links hs).output, nodeAt_modify hlt, if_neg hj]

theorem Visiting.visit_complete (h : Visiting tokens nodes words done (state :: queue))
    (hs : words[state]? = some w) :
    (nodeAt (LiteralSecretMatcher.visit nodes state) state).maxOutputLength =
      longestOf tokens (fun t => decide (t.reverse <:+ w)) := by
  have hlt : state < nodes.length := h.trie.length ▸ (List.getElem?_eq_some_iff.mp hs).1
  obtain ⟨u, hu, hfail⟩ := h.linked state (List.mem_append_right _ List.mem_cons_self) w hs
  have hfresh : state ∉ done := fun hd =>
    (List.nodup_append.mp h.nodup).2.2 state hd state List.mem_cons_self rfl
  rw [(h.visit_links hs).output, nodeAt_modify hlt, if_pos rfl, ← longestOf_failure h.mem hfail,
    ← h.fresh state hfresh w hs, ← h.output_failure hs hu hfail]

theorem Visiting.ordered_children (h : Visiting tokens nodes words done (state :: queue))
    (hs : words[state]? = some w) :
    (queue ++ (nodeAt nodes state).transitions.map Prod.snd).Pairwise fun i j =>
      depth words i ≤ depth words j ∧ depth words j ≤ depth words i + 1 := by
  have hdepth (j : ℕ) (hj : j ∈ (nodeAt nodes state).transitions.map Prod.snd) :
      depth words j = depth words state + 1 := by
    obtain ⟨c, hj⟩ := (h.trie.mem_children hs).mp hj
    rw [depth_eq hj, depth_eq hs, List.length_append, List.length_singleton]
  refine List.pairwise_append.mpr ⟨h.ordered.of_cons, ?_, fun a ha b hb => ?_⟩
  · refine List.pairwise_of_forall_mem_list fun a ha b hb => ?_
    rw [hdepth a ha, hdepth b hb]
    omega
  · obtain ⟨hle, hnear⟩ := List.rel_of_pairwise_cons h.ordered ha
    rw [hdepth b hb]
    omega

theorem Visiting.visit (h : Visiting tokens nodes words done (state :: queue)) :
    Visiting tokens (visit nodes state) words (done ++ [state])
      (queue ++ (nodeAt nodes state).transitions.map Prod.snd) := by
  obtain ⟨w, hs, hw⟩ := h.word state (List.mem_append_right _ List.mem_cons_self)
  have hlinks := h.visit_links hs
  have hchild (j : ℕ) := h.trie.mem_children (j := j) hs
  have hset : done ++ [state] ++ (queue ++ (nodeAt nodes state).transitions.map Prod.snd) =
      done ++ state :: queue ++ (nodeAt nodes state).transitions.map Prod.snd := by simp
  refine {
    trie := h.trie.of_transitions (hlinks.length.trans (List.length_modify ..))
      (h.visit_transitions hs)
    mem := h.mem
    nodup := ?nodup
    word := ?word
    parent := ?parent
    roots := ?roots
    children := ?children
    linked := ?linked
    ordered := h.ordered_children hs
    finished := ?finished
    fresh := ?fresh }
  case nodup =>
    rw [hset]
    exact List.nodup_append.mpr ⟨h.nodup, h.trie.children_nodup hs, fun a ha b hb hab =>
      h.child_fresh hs hw hb (hab ▸ ha)⟩
  case word =>
    intro j hj
    rw [hset] at hj
    obtain hj | hj := List.mem_append.mp hj
    · exact h.word j hj
    · obtain ⟨c, hj⟩ := (hchild j).mp hj
      exact ⟨_, hj, by simp⟩
  case parent =>
    intro j hj x c hx
    rw [hset] at hj
    obtain hj | hj := List.mem_append.mp hj
    · obtain hnil | ⟨k, hk, hkx⟩ := h.parent j hj x c hx
      · exact .inl hnil
      · exact .inr ⟨k, List.mem_append_left _ hk, hkx⟩
    · obtain ⟨d, hj⟩ := (hchild j).mp hj
      obtain ⟨rfl, _⟩ := List.append_inj' (Option.some.inj (hx.symm.trans hj)) rfl
      exact .inr ⟨state, List.mem_append_right _ (List.mem_singleton_self _), hs⟩
  case roots =>
    intro c j hj
    rw [hset]
    exact List.mem_append_left _ (h.roots c j hj)
  case children =>
    intro k hk x hx c j hj
    rw [hset]
    obtain hk | hk := List.mem_append.mp hk
    · exact List.mem_append_left _ (h.children k hk x hx c j hj)
    · obtain rfl := List.mem_singleton.mp hk
      obtain rfl := Option.some.inj (hs.symm.trans hx)
      exact List.mem_append_right _ ((hchild j).mpr ⟨c, hj⟩)
  case linked =>
    intro j hj x hx
    rw [hset] at hj
    obtain hj | hj := List.mem_append.mp hj
    · rw [h.visit_failure hs hw hj]
      exact h.linked j hj x hx
    · obtain ⟨e, he, rfl⟩ := List.mem_map.mp hj
      have hword := (h.trie.step state w hs e.1 e.2).mp he
      obtain rfl := Option.some.inj (hword.symm.trans hx)
      exact hlinks.linked e he
  case finished =>
    intro j hj x hx
    obtain hj | hj := List.mem_append.mp hj
    · have hne : state ≠ j := fun he =>
        (List.nodup_append.mp h.nodup).2.2 j hj state List.mem_cons_self he.symm
      rw [h.visit_output hs hne]
      exact h.finished j hj x hx
    · obtain rfl := List.mem_singleton.mp hj
      exact h.visit_complete hx
  case fresh =>
    intro j hj x hx
    rw [List.mem_append, not_or, List.mem_singleton] at hj
    rw [h.visit_output hs fun he => hj.2 he.symm]
    exact h.fresh j hj.1 x hx

theorem Visiting.lt_length (h : Visiting tokens nodes words done queue) :
    done.length < nodes.length := by
  have hnodup : (0 :: done).Nodup := by
    refine List.nodup_cons.mpr ⟨fun h0 => ?_, (List.nodup_append.mp h.nodup).1⟩
    obtain ⟨w, hw, hne⟩ := h.word 0 (List.mem_append_left _ h0)
    exact hne (Option.some.inj (hw.symm.trans h.trie.root))
  have hsubset : 0 :: done ⊆ List.range nodes.length := by
    intro i hi
    rw [List.mem_range, ← h.trie.length]
    obtain rfl | hi := List.mem_cons.mp hi
    · exact (List.getElem?_eq_some_iff.mp h.trie.root).1
    · obtain ⟨w, hw, _⟩ := h.word i (List.mem_append_left _ hi)
      exact (List.getElem?_eq_some_iff.mp hw).1
  have hle := (List.subperm_of_subset hnodup hsubset).length_le
  rw [List.length_cons, List.length_range] at hle
  omega

theorem Visiting.processQueue (fuel : ℕ) (h : Visiting tokens nodes words done queue)
    (hfuel : nodes.length ≤ done.length + fuel) :
    ∃ all, Visiting tokens (processQueue fuel queue nodes) words all [] := by
  induction fuel generalizing nodes done queue with
  | zero =>
    have := h.lt_length
    omega
  | succ fuel ih =>
    cases queue with
    | nil => exact ⟨done, h⟩
    | cons state queue =>
      have hnext := h.visit
      have hlength := hnext.trie.length.symm.trans h.trie.length
      refine ih hnext ?_
      rw [List.length_append, List.length_singleton]
      omega

theorem Built.visiting (hb : Built tokens nodes words) :
    Visiting tokens nodes words [] ((nodeAt nodes 0).transitions.map Prod.snd) := by
  have hchild (j : ℕ) := hb.trie.mem_children (j := j) hb.trie.root
  have hsingle (j : ℕ) (hj : j ∈ (nodeAt nodes 0).transitions.map Prod.snd) :
      ∃ c, words[j]? = some [c] := (hchild j).mp hj
  refine {
    trie := hb.trie
    mem := hb.mem
    nodup := hb.trie.children_nodup hb.trie.root
    word := ?word
    parent := ?parent
    roots := fun c j hj => (hchild j).mpr ⟨c, hj⟩
    children := fun i hi => (nomatch hi)
    linked := ?linked
    ordered := ?ordered
    finished := fun i hi => (nomatch hi)
    fresh := fun i _ => hb.output i }
  case word =>
    intro j hj
    obtain ⟨c, hj⟩ := hsingle j hj
    exact ⟨[c], hj, by simp⟩
  case parent =>
    intro j hj x c hx
    obtain ⟨d, hj⟩ := hsingle j hj
    have heq : x ++ [c] = [] ++ [d] := Option.some.inj (hx.symm.trans hj)
    exact .inl (List.append_inj' heq rfl).1
  case linked =>
    intro j hj x hx
    obtain ⟨c, hj⟩ := hsingle j hj
    obtain rfl := Option.some.inj (hj.symm.trans hx)
    rw [hb.failure]
    refine ⟨[], hb.trie.root, List.nil_suffix, by simp, hb.trie.nil_mem, fun v _ hlen _ => ?_⟩
    have hnil : v = [] := List.length_eq_zero_iff.mp (by simpa using hlen)
    rw [hnil]
  case ordered =>
    refine List.pairwise_of_forall_mem_list fun a ha b hb => ?_
    obtain ⟨c, ha⟩ := hsingle a ha
    obtain ⟨d, hb⟩ := hsingle b hb
    rw [depth_eq ha, depth_eq hb]
    simp

/-- The completed matcher: every state knows the longest token its word ends in (read backwards),
and what it falls back to. -/
structure Automaton (tokens : List (List α)) (nodes : LiteralSecretMatcher α)
    (words : List (List α)) : Prop where
  trie : Trie nodes words
  mem : ∀ t ∈ tokens, t.reverse ∈ words
  linked : ∀ n, Linked nodes words n
  output : ∀ i w, words[i]? = some w →
    (nodeAt nodes i).maxOutputLength = longestOf tokens (fun t => decide (t.reverse <:+ w))

theorem createLiteralSecretMatcher_spec (tokens : List (List α)) :
    ∃ words, Automaton tokens (createLiteralSecretMatcher tokens) words := by
  obtain ⟨words, hb⟩ := built_foldl tokens
  obtain ⟨all, h⟩ := hb.visiting.processQueue
    (tokens.foldl addSecretValue [{}]).length (by simp)
  have hdone (i : ℕ) (w : List α) (hi : words[i]? = some w) (hw : w ≠ []) : i ∈ all :=
    h.mem_done hi hw fun j hj => (nomatch hj)
  refine ⟨words, h.trie, h.mem, fun n i w hi hw _ => ?_, fun i w hi => ?_⟩
  · exact h.linked i (List.mem_append_left _ (hdone i w hi hw)) w hi
  · by_cases hw : w = []
    · subst hw
      have hroot : i ∉ all := fun ha => by
        obtain ⟨x, hx, hne⟩ := h.word i (List.mem_append_left _ ha)
        exact hne (Option.some.inj (hx.symm.trans hi))
      rw [createLiteralSecretMatcher, h.fresh i hroot [] hi]
      apply longestOf_congr
      intro t _
      simp
    · exact h.finished i (hdone i w hi hw) w hi

/-- Reading a text from its end, the state's word is always the longest that what is read so far
starts with, read backwards. -/
theorem Automaton.matchLengths (ha : Automaton tokens nodes words) (text : List α) :
    (∃ u, words[(matchLengths nodes text).1]? = some u ∧ Longest words text.reverse u) ∧
      (matchLengths nodes text).2 = (List.range text.length).map fun i =>
        longestOf tokens fun t => decide (t <+: text.drop i) := by
  induction text with
  | nil =>
    refine ⟨⟨[], ha.trie.root, List.nil_suffix, ha.trie.nil_mem, fun v hv _ => hv⟩, rfl⟩
  | cons c rest ih =>
    obtain ⟨⟨u, hu, hlongest⟩, hlengths⟩ := ih
    obtain ⟨v, hv, hcont⟩ := follow_spec (c := c) ha.trie (ha.linked u.length) hu (Nat.le_refl _)
    have hnext := hlongest.step ha.trie.closed ha.trie.nil_mem hcont
    rw [← List.reverse_cons] at hnext
    refine ⟨⟨_, hv, hnext⟩, ?_⟩
    rw [LiteralSecretMatcher.matchLengths, List.length_cons, List.range_succ_eq_map,
      List.map_cons, List.map_map]
    dsimp only
    rw [hlengths, ha.output _ _ hv]
    congr 1
    apply longestOf_congr
    intro t ht
    rw [List.drop_zero, decide_eq_decide, ← List.reverse_suffix]
    exact ⟨fun h => h.trans hnext.suffix, fun h => hnext.longest _ h (ha.mem t ht)⟩

theorem matchLengths_createLiteralSecretMatcher (tokens : List (List α)) (text : List α) :
    (matchLengths (createLiteralSecretMatcher tokens) text).2 =
      (List.range text.length).map fun i =>
        longestOf tokens fun t => decide (t <+: text.drop i) := by
  obtain ⟨words, ha⟩ := createLiteralSecretMatcher_spec tokens
  exact (ha.matchLengths text).2

theorem eq_nil_of_createLiteralSecretMatcher_length
    (h : (createLiteralSecretMatcher tokens).length ≤ 1) : ∀ t ∈ tokens, t = [] := by
  obtain ⟨words, ha⟩ := createLiteralSecretMatcher_spec tokens
  intro t ht
  have hlt := ha.trie.closed.length_lt (ha.mem t ht)
  rw [ha.trie.length, List.length_reverse] at hlt
  exact List.length_eq_zero_iff.mp (by omega)

end

end

end LiteralSecretMatcher

end NouvaAgent

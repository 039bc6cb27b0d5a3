import NouvaAgent.Addresses.Network

namespace NouvaAgent.TrustedPeers

open Text Addresses

def isIP (address : List Char) : ℕ :=
  match readIP address with
  | some (.v4 _) => 4
  | some (.v6 _) => 6
  | none => 0

structure PrefixBounds where
  min : ℕ
  max : ℕ

/-- How wide a network a single entry may name, per address family. -/
def forwardingPrefixBounds : ℕ → Option PrefixBounds
  | 4 => some ⟨24, 32⟩
  | 6 => some ⟨48, 128⟩
  | _ => none

/-- `/^\d{1,3}$/` and `parseInt`, or `none` for `NaN`. -/
def readPrefixLength (text : List Char) : Option ℕ :=
  if 1 ≤ text.length ∧ text.length ≤ 3 ∧ text.all Char.isDigit then readDigits 10 text else none

def isForwardingPeer (value : List Char) : Bool :=
  let parts := value.splitOn '/'
  let address := parts.headD []
  if 2 < parts.length then false
  else if address.contains '%' then false
  else
    match forwardingPrefixBounds (isIP address) with
    | none => false
    | some bounds =>
      match parts[1]? with
      | none => true
      | some width =>
        match readPrefixLength width with
        | some prefixLength =>
          decide (bounds.min ≤ prefixLength) && decide (prefixLength ≤ bounds.max)
        | none => false

def selectPeer (selected : List String) (candidate : String) : List String :=
  let peer := trim candidate
  if peer ≠ "" ∧ peer ∉ selected ∧ isForwardingPeer peer.toList then selected ++ [peer]
  else selected

def selectTrustedForwardedPeers (peers : Option (List String)) : List String :=
  (peers.getD []).foldl selectPeer []

def WideMapped (entry : List Char) : Prop :=
  ∃ address width a prefixLength, entry.splitOn '/' = [address, width] ∧ '%' ∉ address ∧
    readIP address = some (.v6 a) ∧ Mapped a ∧ readPrefixLength width = some prefixLength ∧
    96 ≤ prefixLength ∧ prefixLength < 120

theorem mem_foldl_selectPeer {peers selected : List String} {peer : String} :
    peer ∈ peers.foldl selectPeer selected ↔ peer ∈ selected ∨
      (∃ candidate ∈ peers, trim candidate = peer) ∧ peer ≠ "" ∧ isForwardingPeer peer.toList := by
  induction peers generalizing selected with
  | nil => simp
  | cons candidate peers ih =>
    rw [List.foldl_cons, ih, selectPeer]
    split
    · next hkept =>
      rw [List.mem_append, List.mem_singleton, List.exists_mem_cons_iff]
      constructor
      · rintro ((hmem | rfl) | ⟨hexists, hrest⟩)
        · exact .inl hmem
        · exact .inr ⟨.inl rfl, hkept.1, hkept.2.2⟩
        · exact .inr ⟨.inr hexists, hrest⟩
      · rintro (hmem | ⟨rfl | hexists, hrest⟩)
        · exact .inl (.inl hmem)
        · exact .inl (.inr rfl)
        · exact .inr ⟨hexists, hrest⟩
    · next hdropped =>
      rw [List.exists_mem_cons_iff]
      constructor
      · rintro (hmem | ⟨hexists, hrest⟩)
        · exact .inl hmem
        · exact .inr ⟨.inr hexists, hrest⟩
      · rintro (hmem | ⟨rfl | hexists, hrest⟩)
        · exact .inl hmem
        · left
          by_contra hnot
          exact hdropped ⟨hrest.1, hnot, hrest.2⟩
        · exact .inr ⟨hexists, hrest⟩

theorem mem_selectTrustedForwardedPeers {peers : Option (List String)} {peer : String} :
    peer ∈ selectTrustedForwardedPeers peers ↔
      (∃ candidate ∈ peers.getD [], trim candidate = peer) ∧ peer ≠ "" ∧
        isForwardingPeer peer.toList := by
  rw [selectTrustedForwardedPeers, mem_foldl_selectPeer]
  simp

def Allowed (prefixLength : ℕ) : IP → Prop
  | .v4 _ => 24 ≤ prefixLength ∧ prefixLength ≤ 32
  | .v6 _ => 48 ≤ prefixLength ∧ prefixLength ≤ 128

theorem isForwardingPeer_address {value address : List Char} (h : value.splitOn '/' = [address]) :
    isForwardingPeer value = true ↔ '%' ∉ address ∧ ∃ ip, readIP address = some ip := by
  unfold isForwardingPeer isIP
  simp only [h, List.headD_cons, List.length_singleton, List.getElem?_cons_succ,
    List.getElem?_nil]
  by_cases hzone : '%' ∈ address
  · simp [hzone]
  · cases hip : readIP address with
    | none => simp [hzone, forwardingPrefixBounds]
    | some ip => cases ip <;> simp [hzone, forwardingPrefixBounds]

theorem isForwardingPeer_network {value address width : List Char}
    (h : value.splitOn '/' = [address, width]) :
    isForwardingPeer value = true ↔ '%' ∉ address ∧ ∃ ip prefixLength, readIP address = some ip ∧
      readPrefixLength width = some prefixLength ∧ Allowed prefixLength ip := by
  unfold isForwardingPeer isIP
  simp only [h, List.headD_cons, List.length_cons, List.length_nil, List.getElem?_cons_succ,
    List.getElem?_cons_zero]
  by_cases hzone : '%' ∈ address
  · simp [hzone]
  · cases hip : readIP address with
    | none => simp [hzone, forwardingPrefixBounds]
    | some ip =>
      cases hwidth : readPrefixLength width with
      | none => cases ip <;> simp [hzone, forwardingPrefixBounds]
      | some prefixLength => cases ip <;> simp [hzone, forwardingPrefixBounds, Allowed]

theorem isForwardingPeer_parts {value : List Char} (h : isForwardingPeer value = true) :
    (∃ address, value.splitOn '/' = [address]) ∨
      ∃ address width, value.splitOn '/' = [address, width] := by
  match hparts : value.splitOn '/' with
  | [] => exact absurd hparts (List.splitOn_ne_nil _ _)
  | [address] => exact .inl ⟨address, rfl⟩
  | [address, width] => exact .inr ⟨address, width, rfl⟩
  | _ :: _ :: _ :: rest =>
    unfold isForwardingPeer at h
    simp [hparts] at h

theorem readPrefixLength_eq {width : List Char} {prefixLength : ℕ}
    (h : readPrefixLength width = some prefixLength) :
    width ≠ [] ∧ readDigits 10 width = some prefixLength := by
  unfold readPrefixLength at h
  split at h
  · next hdigits => exact ⟨List.ne_nil_of_length_pos hdigits.1, h⟩
  · exact nomatch h

theorem covers_address {value address : List Char} {ip : IP} (h : value.splitOn '/' = [address])
    (hip : readIP address = some ip) : Covers value = fun covered => covered.normal = ip.normal := by
  funext covered
  simp [Covers, h, hip]

theorem covers_network {value address width : List Char} {ip : IP} {prefixLength : ℕ}
    (h : value.splitOn '/' = [address, width]) (hip : readIP address = some ip)
    (hwidth : readPrefixLength width = some prefixLength) (hbits : prefixLength ≤ ip.bits) :
    Covers value = IPNet.contains ⟨ip.mask prefixLength, prefixLength⟩ := by
  obtain ⟨hne, hdigits⟩ := readPrefixLength_eq hwidth
  funext covered
  simp [Covers, h, readCIDR, hip, hne, hdigits, hbits]

theorem narrow_iff {value : List Char} (h : isForwardingPeer value = true) :
    Narrow (Covers value) ↔ ¬ WideMapped value := by
  rcases isForwardingPeer_parts h with ⟨address, hparts⟩ | ⟨address, width, hparts⟩
  · obtain ⟨-, ip, hip⟩ := (isForwardingPeer_address hparts).mp h
    rw [covers_address hparts hip]
    refine iff_of_true (narrow_address ip) ?_
    rintro ⟨address', width, a, prefixLength, hparts', -⟩
    rw [hparts] at hparts'
    exact nomatch hparts'
  · obtain ⟨hzone, ip, prefixLength, hip, hwidth, hallowed⟩ :=
      (isForwardingPeer_network hparts).mp h
    have hwide : WideMapped value ↔ ∃ a, ip = .v6 a ∧ Mapped a ∧ 96 ≤ prefixLength ∧
        prefixLength < 120 := by
      constructor
      · rintro ⟨address', width', a, prefixLength', hparts', -, hip', hmapped, hwidth', hbounds⟩
        rw [hparts, List.cons.injEq, List.cons.injEq] at hparts'
        obtain ⟨rfl, rfl, -⟩ := hparts'
        obtain rfl := Option.some.inj (hwidth.symm.trans hwidth')
        exact ⟨a, Option.some.inj (hip.symm.trans hip'), hmapped, hbounds⟩
      · rintro ⟨a, rfl, hmapped, hbounds⟩
        exact ⟨address, width, a, prefixLength, hparts, hzone, hip, hmapped, hwidth, hbounds⟩
    cases ip with
    | v4 n =>
      rw [covers_network hparts hip hwidth hallowed.2, hwide]
      exact iff_of_true (narrow_network_v4 n hallowed.1) (by simp)
    | v6 n =>
      rw [covers_network hparts hip hwidth hallowed.2, hwide, narrow_network_v6 n hallowed.1]
      simp

theorem WideMapped.kept {value : List Char} (h : WideMapped value) :
    isForwardingPeer value = true := by
  obtain ⟨address, width, a, prefixLength, hparts, hzone, hip, -, hwidth, hlow, hhigh⟩ := h
  exact (isForwardingPeer_network hparts).mpr
    ⟨hzone, .v6 a, prefixLength, hip, hwidth, by omega, by omega⟩

theorem WideMapped.ne_nil {value : List Char} (h : WideMapped value) : value ≠ [] := by
  rintro rfl
  obtain ⟨address, width, a, prefixLength, hparts, -⟩ := h
  exact nomatch hparts

/-- Every entry that is kept is narrow exactly when the list has no wide network of IPv4-mapped
addresses. -/
theorem trusted_peers_narrow_iff (peers : Option (List String)) :
    (∀ peer ∈ selectTrustedForwardedPeers peers, Narrow (Covers peer.toList)) ↔
      ∀ candidate ∈ peers.getD [], ¬ WideMapped (trim candidate).toList := by
  constructor
  · intro hnarrow candidate hmem hwide
    have hkept : trim candidate ∈ selectTrustedForwardedPeers peers := by
      refine mem_selectTrustedForwardedPeers.mpr ⟨⟨candidate, hmem, rfl⟩, ?_, hwide.kept⟩
      exact fun hempty => hwide.ne_nil (by rw [hempty]; rfl)
    exact (narrow_iff hwide.kept).mp (hnarrow _ hkept) hwide
  · intro hnone peer hmem
    obtain ⟨⟨candidate, hcandidate, rfl⟩, -, hforwarding⟩ := mem_selectTrustedForwardedPeers.mp hmem
    exact (narrow_iff hforwarding).mpr (hnone candidate hcandidate)

/-- A network of all IPv4 addresses is kept. -/
theorem trusted_peers_not_narrow :
    selectTrustedForwardedPeers (some ["::ffff:0.0.0.0/96"]) = ["::ffff:0.0.0.0/96"] ∧
      ¬ Narrow (Covers "::ffff:0.0.0.0/96".toList) := by
  constructor
  · decide +kernel
  · rw [narrow_iff (by decide +kernel), not_not]
    refine ⟨"::ffff:0.0.0.0".toList, "96".toList, 281470681743360, 96, ?_⟩
    decide +kernel

end NouvaAgent.TrustedPeers

import Mathlib.Data.Set.Card
import Mathlib.Order.Interval.Finset.Nat
import Mathlib.Tactic.Ring
import NouvaAgent.Addresses.Syntax

namespace NouvaAgent.Addresses

open Text

def Mapped (address : IPv6) : Prop := address.val / 2 ^ 32 = 0xffff

instance (address : IPv6) : Decidable (Mapped address) := inferInstanceAs (Decidable (_ = _))

def IP.to4 : IP → Option IPv4
  | .v4 address => some address
  | .v6 address => if Mapped address then some ⟨address % 2 ^ 32, by omega⟩ else none

def IP.normal (ip : IP) : IP :=
  match ip.to4 with
  | some address => .v4 address
  | none => ip

def clear (bits n : ℕ) : ℕ := n / 2 ^ bits * 2 ^ bits

theorem clear_le (bits n : ℕ) : clear bits n ≤ n := Nat.div_mul_le_self ..

def IP.mask (ones : ℕ) : IP → IP
  | .v4 address => .v4 ⟨clear (32 - ones) address, lt_of_le_of_lt (clear_le ..) address.isLt⟩
  | .v6 address => .v6 ⟨clear (128 - ones) address, lt_of_le_of_lt (clear_le ..) address.isLt⟩

/-- A network: an address and the length of its mask, which is one of the address's own family. -/
structure IPNet where
  ip : IP
  ones : ℕ

def IPNet.number (net : IPNet) : IP × ℕ :=
  match net.ip, net.ip.to4 with
  | .v6 _, some address => (.v4 address, net.ones - 96)
  | ip, _ => (ip, net.ones)

def IPNet.contains (net : IPNet) (ip : IP) : Prop :=
  match net.number, ip.normal with
  | (.v4 number, ones), .v4 address => address.val / 2 ^ (32 - ones) = number.val / 2 ^ (32 - ones)
  | (.v6 number, ones), .v6 address => address.val / 2 ^ (128 - ones) = number.val / 2 ^ (128 - ones)
  | _, _ => False

def IP.bits : IP → ℕ
  | .v4 _ => 32
  | .v6 _ => 128

def readCIDR (address mask : List Char) : Option IPNet :=
  match readIP address, (if mask = [] then none else readDigits 10 mask) with
  | some ip, some ones => if ones ≤ ip.bits then some ⟨ip.mask ones, ones⟩ else none
  | _, _ => none

/-- The addresses that an entry of a trust list names, which is a network if it has a slash. -/
def Covers (entry : List Char) (ip : IP) : Prop :=
  match entry.splitOn '/' with
  | [address] => ∃ a, readIP address = some a ∧ ip.normal = a.normal
  | [address, mask] => ∃ net, readCIDR address mask = some net ∧ net.contains ip
  | _ => False

/-- At most 256 IPv4 addresses, or one IPv6 site. -/
def Narrow (covers : IP → Prop) : Prop :=
  ({address : IPv4 | covers (.v4 address)}.ncard ≤ 256 ∧
    ∀ address, covers (.v6 address) → Mapped address) ∨
  (∀ address, ¬ covers (.v4 address)) ∧
    ∃ site, ∀ address : IPv6, covers (.v6 address) → address.val / 2 ^ 80 = site

theorem ncard_block {width bits : ℕ} (h : bits ≤ width) (n : Fin (2 ^ width)) :
    {a : Fin (2 ^ width) | a.val / 2 ^ bits = n.val / 2 ^ bits}.ncard = 2 ^ bits := by
  have hpos : 0 < 2 ^ bits := Nat.two_pow_pos bits
  have hwidth : 2 ^ width = 2 ^ (width - bits) * 2 ^ bits := by
    rw [← pow_add, Nat.sub_add_cancel h]
  have hblock : n.val / 2 ^ bits < 2 ^ (width - bits) := by
    rw [Nat.div_lt_iff_lt_mul hpos, ← hwidth]
    exact n.isLt
  have himage : Fin.val '' {a : Fin (2 ^ width) | a.val / 2 ^ bits = n.val / 2 ^ bits} =
      Finset.Ico (n.val / 2 ^ bits * 2 ^ bits) (n.val / 2 ^ bits * 2 ^ bits + 2 ^ bits) := by
    ext m
    simp only [Set.mem_image, Set.mem_ofPred_eq, Finset.coe_Ico, Set.mem_Ico]
    constructor
    · rintro ⟨a, ha, rfl⟩
      rw [← ha]
      exact ⟨Nat.div_mul_le_self .., Nat.lt_div_mul_add hpos⟩
    · rintro ⟨hlow, hhigh⟩
      have hm : m / 2 ^ bits = n.val / 2 ^ bits :=
        Nat.div_eq_of_lt_le hlow (by rwa [Nat.succ_mul])
      have hlt : m < 2 ^ width := by
        rw [hwidth, ← Nat.div_lt_iff_lt_mul hpos, hm]
        exact hblock
      exact ⟨⟨m, hlt⟩, hm, rfl⟩
  rw [← Set.ncard_image_of_injective _ Fin.val_injective, himage, Set.ncard_coe_finset,
    Nat.card_Ico, Nat.add_sub_cancel_left]

theorem clear_div (bits n : ℕ) : clear bits n / 2 ^ bits = n / 2 ^ bits :=
  Nat.mul_div_cancel _ (Nat.two_pow_pos bits)

theorem clear_div_of_le {bits more : ℕ} (h : bits ≤ more) (n : ℕ) :
    clear bits n / 2 ^ more = n / 2 ^ more := by
  rw [← Nat.add_sub_cancel' h, pow_add, ← Nat.div_div_eq_div_mul, ← Nat.div_div_eq_div_mul,
    clear_div]

theorem clear_mod {bits more : ℕ} (h : bits ≤ more) (n : ℕ) :
    clear bits n % 2 ^ more / 2 ^ bits = n % 2 ^ more / 2 ^ bits := by
  rw [← Nat.add_sub_cancel' h, pow_add, Nat.mod_mul_right_div_self, Nat.mod_mul_right_div_self,
    clear_div]

theorem clear_even {bits fewer : ℕ} (h : fewer < bits) (n : ℕ) :
    2 ∣ clear bits n / 2 ^ fewer := by
  obtain ⟨more, rfl⟩ := Nat.exists_eq_add_of_lt h
  have hsplit : clear (fewer + more + 1) n =
      n / 2 ^ (fewer + more + 1) * 2 ^ more * 2 * 2 ^ fewer := by
    rw [clear]
    ring
  rw [hsplit, Nat.mul_div_cancel _ (Nat.two_pow_pos fewer)]
  exact Dvd.intro_left _ rfl

@[simp] theorem normal_v4 (address : IPv4) : (IP.v4 address).normal = .v4 address := rfl

theorem normal_mapped {address : IPv6} (h : Mapped address) :
    (IP.v6 address).normal = .v4 ⟨address % 2 ^ 32, by omega⟩ := by
  simp [IP.normal, IP.to4, h]

theorem normal_plain {address : IPv6} (h : ¬ Mapped address) :
    (IP.v6 address).normal = .v6 address := by
  simp [IP.normal, IP.to4, h]

theorem mapped_of_normal {address : IPv6} {a : IPv4} (h : (IP.v6 address).normal = .v4 a) :
    Mapped address := by
  by_contra hplain
  rw [normal_plain hplain] at h
  exact nomatch h

theorem narrow_block {covers : IP → Prop} {bits : ℕ} (n : IPv4) (hbits : bits ≤ 32)
    (h : ∀ ip, covers ip ↔ ∃ a : IPv4, ip.normal = .v4 a ∧ a.val / 2 ^ bits = n.val / 2 ^ bits) :
    Narrow covers ↔ bits ≤ 8 := by
  have hset : {a : IPv4 | covers (.v4 a)} = {a : IPv4 | a.val / 2 ^ bits = n.val / 2 ^ bits} := by
    ext a
    simp [h]
  have hcard : {a : IPv4 | covers (.v4 a)}.ncard = 2 ^ bits := by
    rw [hset]
    exact ncard_block hbits n
  have hself : covers (.v4 n) := (h _).mpr ⟨n, rfl, rfl⟩
  constructor
  · rintro (⟨hfew, -⟩ | ⟨hnone, -⟩)
    · rw [hcard] at hfew
      exact (Nat.pow_le_pow_iff_right (le_refl 2)).mp hfew
    · exact absurd hself (hnone n)
  · intro hsmall
    left
    constructor
    · rw [hcard]
      exact Nat.pow_le_pow_right (by omega) hsmall
    · intro address hcovers
      obtain ⟨a, ha, -⟩ := (h _).mp hcovers
      exact mapped_of_normal ha

theorem narrow_site {covers : IP → Prop} {site : ℕ}
    (h : ∀ ip, covers ip → ∃ a : IPv6, ip = .v6 a ∧ a.val / 2 ^ 80 = site) : Narrow covers := by
  right
  constructor
  · intro address hcovers
    obtain ⟨a, ha, -⟩ := h _ hcovers
    exact nomatch ha
  · refine ⟨site, fun address hcovers => ?_⟩
    obtain ⟨a, ha, hsite⟩ := h _ hcovers
    rwa [IP.v6.inj ha]

theorem contains_v4 (n : IPv4) (ones : ℕ) (ip : IP) :
    IPNet.contains ⟨(IP.v4 n).mask ones, ones⟩ ip ↔
      ∃ a : IPv4, ip.normal = .v4 a ∧ a.val / 2 ^ (32 - ones) = n.val / 2 ^ (32 - ones) := by
  simp only [IPNet.contains, IPNet.number, IP.mask, IP.to4]
  cases hip : ip.normal with
  | v4 a => simp [clear_div]
  | v6 a => simp

theorem mapped_clear {n m : IPv6} {ones : ℕ} (hm : m.val = clear (128 - ones) n) :
    Mapped m ↔ Mapped n ∧ 96 ≤ ones := by
  unfold Mapped
  rw [hm]
  by_cases hones : 96 ≤ ones
  · rw [clear_div_of_le (by omega)]
    simp [hones]
  · have heven := clear_even (show 32 < 128 - ones by omega) n
    constructor
    · intro hmapped
      rw [hmapped] at heven
      exact absurd heven (by decide)
    · rintro ⟨-, hge⟩
      exact absurd hge hones

theorem contains_mapped {n : IPv6} {ones : ℕ} (hn : Mapped n) (hones : 96 ≤ ones) (ip : IP) :
    IPNet.contains ⟨(IP.v6 n).mask ones, ones⟩ ip ↔ ∃ a : IPv4, ip.normal = .v4 a ∧
      a.val / 2 ^ (128 - ones) = (n.val % 2 ^ 32) / 2 ^ (128 - ones) := by
  have hmasked : Mapped ⟨clear (128 - ones) n, lt_of_le_of_lt (clear_le ..) n.isLt⟩ :=
    (mapped_clear rfl).mpr ⟨hn, hones⟩
  have hbits : 32 - (ones - 96) = 128 - ones := by omega
  have hmod := clear_mod (show 128 - ones ≤ 32 by omega) n.val
  simp only [IPNet.contains, IPNet.number, IP.mask, IP.to4, if_pos hmasked]
  cases hip : ip.normal with
  | v4 a => simp only [hbits, hmod, IP.v4.injEq, exists_eq_left']
  | v6 a => simp

theorem contains_plain {n : IPv6} {ones : ℕ} (hn : ¬ (Mapped n ∧ 96 ≤ ones)) (ip : IP) :
    IPNet.contains ⟨(IP.v6 n).mask ones, ones⟩ ip ↔ ∃ a : IPv6, ip.normal = .v6 a ∧
      a.val / 2 ^ (128 - ones) = n.val / 2 ^ (128 - ones) := by
  have hmasked : ¬ Mapped ⟨clear (128 - ones) n, lt_of_le_of_lt (clear_le ..) n.isLt⟩ :=
    fun h => hn ((mapped_clear rfl).mp h)
  simp only [IPNet.contains, IPNet.number, IP.mask, IP.to4, if_neg hmasked]
  cases hip : ip.normal with
  | v4 a => simp
  | v6 a => simp [clear_div]

theorem eq_of_normal {ip : IP} {a : IPv6} (h : ip.normal = .v6 a) : ip = .v6 a := by
  cases ip with
  | v4 b => exact nomatch h
  | v6 b =>
    by_cases hb : Mapped b
    · rw [normal_mapped hb] at h
      exact nomatch h
    · rwa [normal_plain hb] at h

theorem narrow_network_v4 (n : IPv4) {ones : ℕ} (h : 24 ≤ ones) :
    Narrow (IPNet.contains ⟨(IP.v4 n).mask ones, ones⟩) :=
  (narrow_block n (by omega) (contains_v4 n ones)).mpr (by omega)

theorem narrow_network_v6 (n : IPv6) {ones : ℕ} (h : 48 ≤ ones) :
    Narrow (IPNet.contains ⟨(IP.v6 n).mask ones, ones⟩) ↔
      ¬ (Mapped n ∧ 96 ≤ ones ∧ ones < 120) := by
  by_cases hmapped : Mapped n ∧ 96 ≤ ones
  · obtain ⟨hn, hones⟩ := hmapped
    have hblock := narrow_block ⟨n.val % 2 ^ 32, by omega⟩ (show 128 - ones ≤ 32 by omega)
      (contains_mapped hn hones)
    rw [hblock]
    constructor
    · rintro hbits ⟨-, -, hlt⟩
      omega
    · intro hnot
      by_contra hbits
      exact hnot ⟨hn, hones, by omega⟩
  · have hsite : Narrow (IPNet.contains ⟨(IP.v6 n).mask ones, ones⟩) := by
      apply narrow_site
      intro ip hcontains
      obtain ⟨a, ha, hbits⟩ := (contains_plain hmapped ip).mp hcontains
      refine ⟨a, eq_of_normal ha, ?_⟩
      rw [← Nat.add_sub_cancel' (show 128 - ones ≤ 80 by omega), pow_add,
        ← Nat.div_div_eq_div_mul, hbits]
    exact iff_of_true hsite fun hwide => hmapped ⟨hwide.1, hwide.2.1⟩

theorem narrow_address (ip : IP) : Narrow fun covered => covered.normal = ip.normal := by
  cases hip : ip.normal with
  | v4 n =>
    refine (narrow_block n (Nat.zero_le 32) fun covered => ?_).mpr (Nat.zero_le 8)
    simp [Fin.val_inj]
  | v6 n =>
    apply narrow_site
    intro covered hcovered
    exact ⟨n, eq_of_normal hcovered, rfl⟩

end NouvaAgent.Addresses

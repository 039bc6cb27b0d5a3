import NouvaAgent.LiteralRedaction

namespace NouvaAgent

def codeUnits (c : Char) : Units :=
  if c.toNat < 0x10000 then [UInt16.ofNat c.toNat]
  else [UInt16.ofNat (0xD800 + (c.toNat - 0x10000) / 0x400),
    UInt16.ofNat (0xDC00 + (c.toNat - 0x10000) % 0x400)]

def utf16 (text : String) : Units := text.toList.flatMap codeUnits

def unpaired (unit : UInt16) : Char :=
  if 0xD800 ≤ unit.toNat ∧ unit.toNat < 0xE000 then '\uFFFD' else Char.ofNat unit.toNat

def characters : Units → List Char
  | high :: low :: rest =>
    if 0xD800 ≤ high.toNat ∧ high.toNat < 0xDC00 ∧ 0xDC00 ≤ low.toNat ∧ low.toNat < 0xE000 then
      Char.ofNat (0x10000 + (high.toNat - 0xD800) * 0x400 + (low.toNat - 0xDC00)) ::
        characters rest
    else unpaired high :: characters (low :: rest)
  | [unit] => [unpaired unit]
  | [] => []

theorem codeUnits_length (c : Char) : 0 < (codeUnits c).length := by
  unfold codeUnits
  split
  · exact Nat.one_pos
  · exact Nat.two_pos

theorem utf16_length {text : String} (h : text ≠ "") : 0 < (utf16 text).length := by
  unfold utf16
  cases hl : text.toList with
  | nil => exact absurd (String.toList_eq_nil_iff.mp hl) h
  | cons c rest =>
    have hc := codeUnits_length c
    rw [List.flatMap_cons, List.length_append]
    omega

theorem codeUnits_single {c : Char} (hc : c.toNat < 0x10000) :
    codeUnits c = [UInt16.ofNat c.toNat] := if_pos hc

namespace TextDecoder

structure Pending where
  codePoint : ℕ
  needed : ℕ
  lower : ℕ
  upper : ℕ

def replacement : Char := '\uFFFD'

def start (byte : ℕ) : List Char × Option Pending :=
  if byte < 0x80 then ([Char.ofNat byte], none)
  else if 0xC2 ≤ byte ∧ byte ≤ 0xDF then ([], some ⟨byte - 0xC0, 1, 0x80, 0xBF⟩)
  else if 0xE0 ≤ byte ∧ byte ≤ 0xEF then
    ([], some ⟨byte - 0xE0, 2, if byte = 0xE0 then 0xA0 else 0x80,
      if byte = 0xED then 0x9F else 0xBF⟩)
  else if 0xF0 ≤ byte ∧ byte ≤ 0xF4 then
    ([], some ⟨byte - 0xF0, 3, if byte = 0xF0 then 0x90 else 0x80,
      if byte = 0xF4 then 0x8F else 0xBF⟩)
  else ([replacement], none)

def step : Option Pending → ℕ → List Char × Option Pending
  | none, byte => start byte
  | some p, byte =>
    if p.lower ≤ byte ∧ byte ≤ p.upper then
      if p.needed = 1 then ([Char.ofNat (p.codePoint * 64 + (byte - 0x80))], none)
      else ([], some ⟨p.codePoint * 64 + (byte - 0x80), p.needed - 1, 0x80, 0xBF⟩)
    else (replacement :: (start byte).1, (start byte).2)

def run : Option Pending → List UInt8 → List Char
  | none, [] => []
  | some _, [] => [replacement]
  | p, byte :: bytes => (step p byte.toNat).1 ++ run (step p byte.toNat).2 bytes

def withoutByteOrderMark : List Char → List Char
  | '\uFEFF' :: text => text
  | text => text

/-- `new TextDecoder("utf-8", { fatal: false }).decode(bytes)`. -/
def decode (bytes : List UInt8) : Units := (withoutByteOrderMark (run none bytes)).flatMap codeUnits

section

variable {p : Pending} {n : ℕ} {bytes : List UInt8}

theorem run_start (hn : n < 256) (hs : start n = ([], some p)) :
    run none (UInt8.ofNat n :: bytes) = run (some p) bytes := by
  have hbyte : (UInt8.ofNat n).toNat = n := UInt8.toNat_ofNat_of_lt' hn
  simp only [run, step, hbyte, hs, List.nil_append]

theorem run_more (hn : n < 256) (hrange : p.lower ≤ n ∧ n ≤ p.upper) (hneeded : p.needed ≠ 1) :
    run (some p) (UInt8.ofNat n :: bytes) =
      run (some ⟨p.codePoint * 64 + (n - 0x80), p.needed - 1, 0x80, 0xBF⟩) bytes := by
  have hbyte : (UInt8.ofNat n).toNat = n := UInt8.toNat_ofNat_of_lt' hn
  simp only [run, step, hbyte, if_pos hrange, if_neg hneeded, List.nil_append]

theorem run_last (hn : n < 256) (hrange : p.lower ≤ n ∧ n ≤ p.upper) (hneeded : p.needed = 1) :
    run (some p) (UInt8.ofNat n :: bytes) =
      Char.ofNat (p.codePoint * 64 + (n - 0x80)) :: run none bytes := by
  have hbyte : (UInt8.ofNat n).toNat = n := UInt8.toNat_ofNat_of_lt' hn
  simp only [run, step, hbyte, if_pos hrange, if_pos hneeded, List.singleton_append]

theorem start_two (h : 0xC2 ≤ n ∧ n ≤ 0xDF) : start n = ([], some ⟨n - 0xC0, 1, 0x80, 0xBF⟩) := by
  unfold start
  rw [if_neg (by omega), if_pos h]

theorem start_three (h : 0xE0 ≤ n ∧ n ≤ 0xEF) :
    start n = ([], some ⟨n - 0xE0, 2, if n = 0xE0 then 0xA0 else 0x80,
      if n = 0xED then 0x9F else 0xBF⟩) := by
  unfold start
  rw [if_neg (by omega), if_neg (by omega), if_pos h]

theorem start_four (h : 0xF0 ≤ n ∧ n ≤ 0xF4) :
    start n = ([], some ⟨n - 0xF0, 3, if n = 0xF0 then 0x90 else 0x80,
      if n = 0xF4 then 0x8F else 0xBF⟩) := by
  unfold start
  rw [if_neg (by omega), if_neg (by omega), if_neg (by omega), if_pos h]

end

theorem run_encode (c : Char) (bytes : List UInt8) :
    run none (String.utf8EncodeChar c ++ bytes) = c :: run none bytes := by
  have hvalid : c.toNat < 0xD800 ∨ 0xDFFF < c.toNat ∧ c.toNat < 0x110000 := c.valid
  have hchar : ∀ {n : ℕ}, n = c.toNat → Char.ofNat n = c := fun h => h ▸ Char.ofNat_toNat c
  unfold String.utf8EncodeChar
  simp only [show c.val.toNat = c.toNat from rfl]
  generalize hv : c.toNat = v at hvalid hchar
  split
  case isTrue hone =>
    have hbyte : (UInt8.ofNat v).toNat = v :=
      UInt8.toNat_ofNat_of_lt' (Nat.lt_of_le_of_lt hone (by decide))
    simp only [List.singleton_append, run, step, start, hbyte, if_pos (show v < 0x80 by omega),
      hchar rfl]
  case isFalse hone =>
  split
  case isTrue htwo =>
    simp only [List.cons_append, List.nil_append]
    rw [run_start (by omega) (start_two (by omega)), run_last (by omega) (by dsimp only; omega) rfl]
    rw [hchar (by dsimp only; omega)]
  case isFalse htwo =>
  split
  case isTrue hthree =>
    simp only [List.cons_append, List.nil_append]
    rw [run_start (by omega) (start_three (by omega)), run_more (by omega) ?_ (by simp),
      run_last (by omega) (by dsimp only; omega) rfl]
    · rw [hchar (by dsimp only; omega)]
    · dsimp only
      constructor <;> split <;> omega
  case isFalse hthree =>
    simp only [List.cons_append, List.nil_append]
    rw [run_start (by omega) (start_four (by omega)), run_more (by omega) ?_ (by simp),
      run_more (by omega) (by dsimp only; omega) (by simp),
      run_last (by omega) (by dsimp only; omega) rfl]
    · rw [hchar (by dsimp only; omega)]
    · dsimp only
      constructor <;> split <;> omega

theorem run_utf8 (text : List Char) : run none (text.flatMap String.utf8EncodeChar) = text := by
  induction text with
  | nil => rfl
  | cons c text ih => rw [List.flatMap_cons, run_encode, ih]

theorem decode_utf8 {text : String} (h : text.toList.head? ≠ some '\uFEFF') :
    decode (text.toList.flatMap String.utf8EncodeChar) = utf16 text := by
  unfold decode utf16
  rw [run_utf8]
  congr 1
  unfold withoutByteOrderMark
  split
  case h_1 rest heq => exact absurd (by rw [heq]; rfl) h
  case h_2 => rfl

end TextDecoder

end NouvaAgent

import Mathlib.Data.List.TakeWhile
import NouvaAgent.DatabaseProvision
import NouvaAgent.Reading.Windows

namespace NouvaAgent

open Reading

abbrev DockerContainerFile := DatabaseContainerFile

namespace TarArchive

def tarBlockBytes : ℕ := 512

def tarNameBytes : ℕ := 100

def ascii (text : List Char) : List UInt8 := text.map fun c => UInt8.ofNat c.toNat

def utf8 (text : List Char) : List UInt8 := text.flatMap String.utf8EncodeChar

/-- `buffer.write(text, offset, width)`, for the bytes of the text. -/
def write (buffer bytes : List UInt8) (offset width : ℕ) : List UInt8 :=
  overwrite buffer offset (bytes.take (min width (buffer.length - offset)))

def fill (buffer : List UInt8) (byte : UInt8) (start stop : ℕ) : List UInt8 :=
  write buffer (List.replicate (stop - start) byte) start (stop - start)

def toOctal : ℤ → List Char
  | .ofNat n => Nat.toDigits 8 n
  | .negSucc n => '-' :: Nat.toDigits 8 (n + 1)

def padStart (text : List Char) (width : ℕ) : List Char :=
  List.replicate (width - text.length) '0' ++ text

def writeTarOctal (header : List UInt8) (offset width : ℕ) (value : ℤ) : List UInt8 :=
  write header (ascii (padStart (toOctal value) (width - 1) ++ ['\x00'])) offset width

/-- `file.path.replace(/^\/+/, "")`, in bytes. -/
def tarName (file : DockerContainerFile) : List UInt8 :=
  utf8 (file.path.toList.dropWhile (· == '/'))

def tarContent (file : DockerContainerFile) : List UInt8 := utf8 file.content.toList

def blankedHeader (mtime : ℤ) (file : DockerContainerFile) : List UInt8 :=
  let header := List.replicate tarBlockBytes 0
  let header := write header (tarName file) 0 tarNameBytes
  let header := writeTarOctal header 100 8 file.mode
  let header := writeTarOctal header 108 8 file.uid
  let header := writeTarOctal header 116 8 file.gid
  let header := writeTarOctal header 124 12 (tarContent file).length
  let header := writeTarOctal header 136 12 mtime
  let header := write header (ascii ['0']) 156 1
  let header := write header (ascii ['u', 's', 't', 'a', 'r', '\x00', '0', '0']) 257 8
  fill header 32 148 156

def byteSum (bytes : List UInt8) : ℕ := bytes.foldl (fun sum byte => sum + byte.toNat) 0

def tarHeader (mtime : ℤ) (file : DockerContainerFile) : List UInt8 :=
  let header := blankedHeader mtime file
  let checksum := byteSum header
  write header (ascii (padStart (toOctal checksum) 6 ++ ['\x00', ' '])) 148 8

def tarPadding (size : ℕ) : ℕ := (tarBlockBytes - size % tarBlockBytes) % tarBlockBytes

def tarRecord (mtime : ℤ) (file : DockerContainerFile) : Except String (List UInt8) :=
  if tarNameBytes < (tarName file).length then
    .error ("Container file path is too long for a tar header: " ++ file.path)
  else .ok (tarHeader mtime file ++ tarContent file ++
    List.replicate (tarPadding (tarContent file).length) 0)

def buildTarArchive (now : ℤ) (files : List DockerContainerFile) : Except String (List UInt8) := do
  let blocks ← files.mapM (tarRecord (now / 1000))
  pure (blocks.flatten ++ List.replicate (tarBlockBytes * 2) 0)

/-! A reader of ustar archives, for regular files. -/

structure TarEntry where
  path : List UInt8
  mode : ℕ
  uid : ℕ
  gid : ℕ
  content : List UInt8
  deriving DecidableEq, Repr

structure TarHeader where
  path : List UInt8
  mode : ℕ
  uid : ℕ
  gid : ℕ
  size : ℕ
  deriving DecidableEq, Repr

/-- A text field ends at its first NUL, or is full. -/
def textField (field : List UInt8) : List UInt8 := field.takeWhile (· ≠ 0)

def octalField (field : List UInt8) : Option ℕ :=
  let digits := field.takeWhile fun byte => byte ≠ 0 ∧ byte ≠ 32
  if digits ≠ [] ∧ digits.all fun byte => 48 ≤ byte ∧ byte < 56 then
    some (digits.foldl (fun n byte => 8 * n + (byte.toNat - 48)) 0)
  else none

/-- The sum of a header block, with the checksum field read as spaces. -/
def checksum (block : List UInt8) : ℕ := byteSum (fill block 32 148 156)

def ValidChecksum (block : List UInt8) : Prop :=
  octalField (window block 148 8) = some (checksum block)

instance (block : List UInt8) : Decidable (ValidChecksum block) :=
  inferInstanceAs (Decidable (_ = _))

def readPath (block : List UInt8) : List UInt8 :=
  let name := textField (window block 0 100)
  let start := textField (window block 345 155)
  if start = [] then name else start ++ 47 :: name

def readHeader (block : List UInt8) : Option TarHeader :=
  -- the magic string and its version, and the type of a regular file
  if ValidChecksum block ∧ window block 257 8 = ascii ['u', 's', 't', 'a', 'r', '\x00', '0', '0'] ∧
      window block 156 1 = ascii ['0'] then do
    let mode ← octalField (window block 100 8)
    let uid ← octalField (window block 108 8)
    let gid ← octalField (window block 116 8)
    let size ← octalField (window block 124 12)
    some ⟨readPath block, mode, uid, gid, size⟩
  else none

def readTar (archive : List UInt8) : Option (List TarEntry) :=
  if archive.length < 512 then none
  else
    let block := archive.take 512
    let rest := archive.drop 512
    if block = List.replicate 512 0 then
      if rest.take 512 = List.replicate 512 0 then some [] else none
    else
      match readHeader block with
      | none => none
      | some header =>
        let blocks := 512 * ((header.size + 511) / 512)
        if rest.length < blocks then none
        else (readTar (rest.drop blocks)).map
          (⟨header.path, header.mode, header.uid, header.gid, rest.take header.size⟩ :: ·)
termination_by archive.length
decreasing_by
  simp only [List.length_drop]
  omega

@[simp] theorem length_write (buffer bytes : List UInt8) (offset width : ℕ) :
    (write buffer bytes offset width).length = buffer.length := by
  unfold write
  by_cases h : offset ≤ buffer.length
  · apply length_overwrite
    rw [List.length_take]
    omega
  · rw [Nat.sub_eq_zero_of_le (by omega), Nat.min_zero, List.take_zero, overwrite_nil]

@[simp] theorem length_fill (buffer : List UInt8) (byte : UInt8) (start stop : ℕ) :
    (fill buffer byte start stop).length = buffer.length := length_write _ _ _ _

theorem window_write_of_disjoint {buffer bytes : List UInt8} {offset width start size : ℕ}
    (h : start + size ≤ offset ∨ offset + width ≤ start) :
    window (write buffer bytes offset width) start size = window buffer start size := by
  unfold write
  by_cases hfits : offset ≤ buffer.length
  · apply window_overwrite_of_disjoint
    · rw [List.length_take]
      omega
    · rw [List.length_take]
      omega
  · rw [Nat.sub_eq_zero_of_le (by omega), Nat.min_zero, List.take_zero, overwrite_nil]

theorem window_write {buffer bytes : List UInt8} {offset width : ℕ}
    (h : offset + width ≤ buffer.length) (hbytes : bytes.length ≤ width) :
    window (write buffer bytes offset width) offset width =
      bytes ++ window buffer (offset + bytes.length) (width - bytes.length) := by
  have htake : bytes.take (min width (buffer.length - offset)) = bytes :=
    List.take_of_length_le (by omega)
  rw [write, htake]
  exact window_overwrite (by omega) hbytes

theorem window_write_full {buffer bytes : List UInt8} {offset width : ℕ}
    (h : offset + width ≤ buffer.length) (hbytes : bytes.length = width) :
    window (write buffer bytes offset width) offset width = bytes := by
  rw [window_write h hbytes.le, hbytes, Nat.sub_self]
  exact List.append_nil _

theorem write_write {buffer bytes more : List UInt8} {offset width : ℕ}
    (h : bytes.length ≤ more.length) :
    write (write buffer bytes offset width) more offset width = write buffer more offset width := by
  have hlength := length_write buffer bytes offset width
  unfold write at hlength ⊢
  rw [hlength]
  by_cases hfits : offset ≤ buffer.length
  · apply overwrite_overwrite
    · rw [List.length_take]
      omega
    · rw [List.length_take, List.length_take]
      omega
  · rw [Nat.sub_eq_zero_of_le (by omega), Nat.min_zero, List.take_zero, List.take_zero,
      overwrite_nil, overwrite_nil]

/-! Numbers in octal. -/

theorem octal_of_mem_toDigits {n : ℕ} {c : Char} (h : c ∈ Nat.toDigits 8 n) :
    48 ≤ c.toNat ∧ c.toNat < 56 := by
  have hdigit : ∀ m < 8, 48 ≤ m.digitChar.toNat ∧ m.digitChar.toNat < 56 := by decide
  induction n using Nat.strongRecOn with
  | _ n ih =>
    rw [Nat.toDigits_eq_if (by decide)] at h
    split at h
    · next hlt =>
      rw [List.mem_singleton] at h
      rw [h]
      exact hdigit n hlt
    · next hle =>
      rw [List.mem_append, List.mem_singleton] at h
      rcases h with h | rfl
      · exact ih (n / 8) (by omega) h
      · exact hdigit (n % 8) (by omega)

def Octal (text : List Char) : Prop := ∀ c ∈ text, 48 ≤ c.toNat ∧ c.toNat < 56

theorem octal_padStart (n width : ℕ) : Octal (padStart (toOctal n) width) := by
  intro c hc
  rw [padStart, List.mem_append] at hc
  rcases hc with hc | hc
  · rw [List.eq_of_mem_replicate hc]
    decide
  · exact octal_of_mem_toDigits hc

theorem length_padStart {n width : ℕ} (hpos : 0 < width) (h : n < 8 ^ width) :
    (padStart (toOctal n) width).length = width := by
  have hle : (toOctal n).length ≤ width := (Nat.length_toDigits_le_iff (by decide) hpos).mpr h
  rw [padStart, List.length_append, List.length_replicate]
  omega

theorem value_padStart (n width : ℕ) : Nat.ofDigitChars 8 (padStart (toOctal n) width) 0 = n := by
  rw [padStart, Nat.ofDigitChars_append, Nat.ofDigitChars_replicate_zero, Nat.mul_zero]
  exact Nat.ofDigitChars_toDigits (by decide) (by decide)

@[simp] theorem length_ascii (text : List Char) : (ascii text).length = text.length := by
  rw [ascii, List.length_map]

theorem toNat_ascii {c : Char} (h : c.toNat < 56) : (UInt8.ofNat c.toNat).toNat = c.toNat := by
  rw [UInt8.toNat_ofNat']
  omega

theorem digits_ascii {text : List Char} (h : Octal text) (n : ℕ) :
    (ascii text).foldl (fun n byte => 8 * n + (byte.toNat - 48)) n = Nat.ofDigitChars 8 text n := by
  induction text generalizing n with
  | nil => rfl
  | cons c text ih =>
    rw [Octal, List.forall_mem_cons] at h
    rw [Nat.ofDigitChars_cons, ← ih h.2, ascii, List.map_cons, List.foldl_cons, toNat_ascii h.1.2]
    rfl

theorem octalField_ascii {text : List Char} (h : Octal text) (hsome : text ≠ [])
    {stop : UInt8} (hstop : stop = 0 ∨ stop = 32) (rest : List UInt8) :
    octalField (ascii text ++ stop :: rest) = some (Nat.ofDigitChars 8 text 0) := by
  have hbyte : ∀ byte ∈ ascii text, 48 ≤ byte.toNat ∧ byte.toNat < 56 := by
    intro byte hbyte
    obtain ⟨c, hc, rfl⟩ := List.mem_map.mp hbyte
    rw [toNat_ascii (h c hc).2]
    exact h c hc
  have htake : (ascii text ++ stop :: rest).takeWhile (fun byte => byte ≠ 0 ∧ byte ≠ 32) =
      ascii text := by
    rw [List.takeWhile_append_of_pos]
    · rcases hstop with rfl | rfl <;> simp
    · intro byte hmem
      have hle := (hbyte byte hmem).1
      rw [decide_eq_true_eq]
      constructor
      · rintro rfl
        exact absurd hle (by decide)
      · rintro rfl
        exact absurd hle (by decide)
  have hall : (ascii text).all (fun byte => 48 ≤ byte ∧ byte < 56) = true := by
    rw [List.all_eq_true]
    intro byte hmem
    rw [decide_eq_true_eq]
    exact hbyte byte hmem
  have hne : ascii text ≠ [] := by
    rw [ascii, ne_eq, List.map_eq_nil_iff]
    exact hsome
  unfold octalField
  rw [htake]
  dsimp only
  rw [if_pos ⟨hne, hall⟩, digits_ascii h]

theorem octalField_padded {n width : ℕ} (hpos : 0 < width) (h : n < 8 ^ width) {stop : UInt8}
    (hstop : stop = 0 ∨ stop = 32) (rest : List UInt8) :
    octalField (ascii (padStart (toOctal n) width) ++ stop :: rest) = some n := by
  have hne : padStart (toOctal n) width ≠ [] := by
    apply List.ne_nil_of_length_pos
    rw [length_padStart hpos h]
    exact hpos
  rw [octalField_ascii (octal_padStart n width) hne hstop, value_padStart]

theorem length_octal {n width : ℕ} (hpos : 0 < width) (h : n < 8 ^ width) (ending : List Char) :
    (ascii (padStart (toOctal n) width ++ ending)).length = width + ending.length := by
  rw [length_ascii, List.length_append, length_padStart hpos h]

theorem octalField_writeTarOctal {header : List UInt8} {offset width n : ℕ}
    (hfits : offset + (width + 1) ≤ header.length) (hpos : 0 < width) (h : n < 8 ^ width) :
    octalField (window (writeTarOctal header offset (width + 1) n) offset (width + 1)) = some n := by
  have hlength := length_octal hpos h ['\x00']
  rw [writeTarOctal, Nat.add_sub_cancel, window_write hfits (by rw [hlength]; exact le_rfl), hlength]
  rw [ascii, List.map_append, List.append_assoc]
  exact octalField_padded hpos h (.inl rfl) _

theorem window_writeTarOctal_of_disjoint {header : List UInt8} {offset width start size : ℕ}
    {value : ℤ} (h : start + size ≤ offset ∨ offset + width ≤ start) :
    window (writeTarOctal header offset width value) start size = window header start size :=
  window_write_of_disjoint h

@[simp] theorem length_writeTarOctal (header : List UInt8) (offset width : ℕ) (value : ℤ) :
    (writeTarOctal header offset width value).length = header.length := length_write _ _ _ _

theorem window_fill_of_disjoint {buffer : List UInt8} {byte : UInt8} {first stop start size : ℕ}
    (h : start + size ≤ first ∨ first + (stop - first) ≤ start) :
    window (fill buffer byte first stop) start size = window buffer start size :=
  window_write_of_disjoint h

theorem length_emptyHeader : (List.replicate tarBlockBytes (0 : UInt8)).length = 512 :=
  List.length_replicate

theorem textField_padded (text : List UInt8) (n : ℕ) :
    textField (text ++ List.replicate n 0) = textField text := by
  unfold textField
  rw [List.takeWhile_append]
  split
  · next hall =>
    rw [List.Sublist.eq_of_length (List.takeWhile_sublist _) hall, List.takeWhile_replicate]
    simp
  · rfl

section

variable (mtime : ℤ) (file : DockerContainerFile)

@[simp] theorem length_blankedHeader : (blankedHeader mtime file).length = 512 := by
  simp only [blankedHeader, length_fill, length_write, length_writeTarOctal, List.length_replicate]
  rfl

@[simp] theorem length_tarHeader : (tarHeader mtime file).length = 512 :=
  (length_write _ _ _ _).trans (length_blankedHeader mtime file)

theorem byteSum_le (bytes : List UInt8) : byteSum bytes ≤ bytes.length * 255 := by
  have hfrom : ∀ n, bytes.foldl (fun sum byte => sum + byte.toNat) n ≤ n + bytes.length * 255 := by
    induction bytes with
    | nil => exact fun n => le_rfl
    | cons byte bytes ih =>
      intro n
      have hbyte := byte.toNat_lt
      have hrest := ih (n + byte.toNat)
      rw [List.foldl_cons, List.length_cons]
      omega
  have hall := hfrom 0
  rwa [Nat.zero_add] at hall

theorem checksum_fits : byteSum (blankedHeader mtime file) < 8 ^ 6 := by
  have hle := byteSum_le (blankedHeader mtime file)
  rw [length_blankedHeader] at hle
  omega

theorem checksum_tarHeader : checksum (tarHeader mtime file) = byteSum (blankedHeader mtime file) := by
  have hlength := length_octal (by decide) (checksum_fits mtime file) ['\x00', ' ']
  unfold checksum tarHeader fill
  rw [write_write (by rw [hlength]; exact le_rfl)]
  unfold blankedHeader fill
  dsimp only
  rw [write_write le_rfl]

theorem validChecksum_tarHeader : ValidChecksum (tarHeader mtime file) := by
  have hlength := length_octal (by decide) (checksum_fits mtime file) ['\x00', ' ']
  unfold ValidChecksum
  rw [checksum_tarHeader]
  unfold tarHeader
  rw [window_write (by simp) (by rw [hlength]; exact le_rfl), ascii, List.map_append,
    List.append_assoc]
  exact octalField_padded (by decide) (checksum_fits mtime file) (.inl rfl) _

theorem fields_tarHeader :
    window (tarHeader mtime file) 257 8 = ascii ['u', 's', 't', 'a', 'r', '\x00', '0', '0'] ∧
      window (tarHeader mtime file) 156 1 = ascii ['0'] ∧
      window (tarHeader mtime file) 345 155 = List.replicate 155 0 := by
  unfold tarHeader blankedHeader
  simp (disch := decide) only [window_write_of_disjoint, window_fill_of_disjoint,
    window_writeTarOctal_of_disjoint]
  refine ⟨window_write_full ?_ rfl, window_write_full ?_ rfl, window_replicate 0 (by decide)⟩ <;>
  · simp only [length_write, length_writeTarOctal, length_emptyHeader]
    decide

theorem numbers_tarHeader (hmode : file.mode < 8 ^ 7) (huid : file.uid < 8 ^ 7)
    (hgid : file.gid < 8 ^ 7) (hsize : (tarContent file).length < 8 ^ 11) :
    octalField (window (tarHeader mtime file) 100 8) = some file.mode ∧
      octalField (window (tarHeader mtime file) 108 8) = some file.uid ∧
      octalField (window (tarHeader mtime file) 116 8) = some file.gid ∧
      octalField (window (tarHeader mtime file) 124 12) = some (tarContent file).length := by
  unfold tarHeader blankedHeader
  simp (disch := decide) only [window_write_of_disjoint, window_fill_of_disjoint,
    window_writeTarOctal_of_disjoint]
  refine ⟨octalField_writeTarOctal ?_ (by decide) hmode,
    octalField_writeTarOctal ?_ (by decide) huid, octalField_writeTarOctal ?_ (by decide) hgid,
    octalField_writeTarOctal ?_ (by decide) hsize⟩ <;>
  · simp only [length_write, length_writeTarOctal, length_emptyHeader]
    decide

theorem name_tarHeader (h : (tarName file).length ≤ 100) :
    textField (window (tarHeader mtime file) 0 100) = textField (tarName file) := by
  unfold tarHeader blankedHeader
  simp (disch := decide) only [window_write_of_disjoint, window_fill_of_disjoint,
    window_writeTarOctal_of_disjoint]
  rw [tarNameBytes, window_write (by rw [length_emptyHeader]; decide) h, tarBlockBytes,
    window_replicate 0 (by omega), textField_padded]

theorem tarHeader_ne_zeros : tarHeader mtime file ≠ List.replicate 512 0 := by
  intro hzeros
  obtain ⟨-, htype, -⟩ := fields_tarHeader mtime file
  rw [hzeros, window_replicate 0 (by decide)] at htype
  exact absurd htype (by decide)

end

/-- What the fields of a header must hold. -/
structure Encodable (file : DockerContainerFile) : Prop where
  path : (tarName file).length ≤ tarNameBytes
  mode : file.mode < 8 ^ 7
  uid : file.uid < 8 ^ 7
  gid : file.gid < 8 ^ 7
  size : (tarContent file).length < 8 ^ 11

def entryOf (file : DockerContainerFile) : TarEntry :=
  ⟨textField (tarName file), file.mode, file.uid, file.gid, tarContent file⟩

def headerOf (file : DockerContainerFile) : TarHeader :=
  ⟨textField (tarName file), file.mode, file.uid, file.gid, (tarContent file).length⟩

structure IsRecord (file : DockerContainerFile) (record : List UInt8) : Prop where
  header : readHeader (record.take 512) = some (headerOf file)
  checksum : ValidChecksum (record.take 512)
  marked : record.take 512 ≠ List.replicate 512 0
  content : ∃ padding < 512, record.drop 512 = tarContent file ++ List.replicate padding 0
  whole : 512 ≤ record.length
  aligned : record.length % 512 = 0

variable {mtime : ℤ} {file : DockerContainerFile}

theorem readHeader_tarHeader (h : Encodable file) :
    readHeader (tarHeader mtime file) = some (headerOf file) := by
  obtain ⟨hmagic, htype, hprefix⟩ := fields_tarHeader mtime file
  obtain ⟨hmode, huid, hgid, hsize⟩ := numbers_tarHeader mtime file h.mode h.uid h.gid h.size
  have hpath : readPath (tarHeader mtime file) = textField (tarName file) := by
    have hempty : textField (List.replicate 155 0) = [] := textField_padded [] 155
    rw [readPath, name_tarHeader mtime file h.path, hprefix, hempty]
    exact if_pos rfl
  rw [readHeader, if_pos ⟨validChecksum_tarHeader mtime file, hmagic, htype⟩, hmode, huid, hgid,
    hsize, hpath]
  rfl

theorem tarPadding_aligns (size : ℕ) : tarPadding size < 512 ∧ (size + tarPadding size) % 512 = 0 := by
  unfold tarPadding tarBlockBytes
  omega

theorem tarRecord_isRecord (h : Encodable file) :
    ∃ record, tarRecord mtime file = .ok record ∧ IsRecord file record := by
  obtain ⟨hshort, haligned⟩ := tarPadding_aligns (tarContent file).length
  have hlength := length_tarHeader mtime file
  have hpath := h.path
  have htake : ∀ rest, (tarHeader mtime file ++ rest).take 512 = tarHeader mtime file := by
    intro rest
    rw [← hlength, List.take_left]
  refine ⟨_, if_neg (by omega), ?_, ?_, ?_, ⟨_, hshort, ?_⟩, ?_, ?_⟩
  · rw [List.append_assoc, htake]
    exact readHeader_tarHeader h
  · rw [List.append_assoc, htake]
    exact validChecksum_tarHeader mtime file
  · rw [List.append_assoc, htake]
    exact tarHeader_ne_zeros mtime file
  · rw [List.append_assoc, ← hlength, List.drop_left]
  · simp only [List.length_append, hlength]
    omega
  · simp only [List.length_append, hlength, List.length_replicate]
    omega

theorem IsRecord.readTar_append {record : List UInt8} (h : IsRecord file record)
    (rest : List UInt8) :
    readTar (record ++ rest) = (readTar rest).map (entryOf file :: ·) := by
  obtain ⟨padding, hshort, hcontent⟩ := h.content
  have hwhole := h.whole
  have haligned := h.aligned
  have hlength := congrArg List.length hcontent
  rw [List.length_drop, List.length_append, List.length_replicate] at hlength
  have hblocks : 512 * (((headerOf file).size + 511) / 512) =
      (tarContent file ++ List.replicate padding (0 : UInt8)).length := by
    rw [List.length_append, List.length_replicate]
    show 512 * (((tarContent file).length + 511) / 512) = _
    omega
  have hread : (tarContent file ++ List.replicate padding 0 ++ rest).take (headerOf file).size =
      tarContent file := by
    rw [List.append_assoc]
    exact List.take_left
  rw [readTar, if_neg (by rw [List.length_append]; omega)]
  dsimp only
  rw [List.take_append_of_le_length hwhole, List.drop_append_of_le_length hwhole, if_neg h.marked,
    h.header]
  dsimp only
  rw [hcontent, hblocks, if_neg (by rw [List.length_append]; omega), List.drop_left, hread]
  rfl

theorem readTar_end : readTar (List.replicate (tarBlockBytes * 2) 0) = some [] := by
  have htwo : tarBlockBytes * 2 = 512 + 512 := rfl
  have hlength : (List.replicate 512 (0 : UInt8)).length = 512 := List.length_replicate
  have htake : (List.replicate (512 + 512) (0 : UInt8)).take 512 = List.replicate 512 0 := by
    rw [List.take_replicate, Nat.min_eq_left (by decide)]
  have hdrop : (List.replicate (512 + 512) (0 : UInt8)).drop 512 = List.replicate 512 0 := by
    rw [List.drop_replicate, Nat.add_sub_cancel]
  rw [htwo, readTar, if_neg (by rw [List.length_replicate]; decide)]
  dsimp only
  rw [htake, hdrop, if_pos rfl, if_pos (List.take_of_length_le hlength.le)]

theorem buildTarArchive_records (now : ℤ) {files : List DockerContainerFile}
    (h : ∀ file ∈ files, Encodable file) :
    ∃ records, buildTarArchive now files =
        .ok (records.flatten ++ List.replicate (tarBlockBytes * 2) 0) ∧
      List.Forall₂ IsRecord files records := by
  have hrecords : ∃ records, files.mapM (tarRecord (now / 1000)) = .ok records ∧
      List.Forall₂ IsRecord files records := by
    induction files with
    | nil => exact ⟨[], rfl, .nil⟩
    | cons file files ih =>
      rw [List.forall_mem_cons] at h
      obtain ⟨record, hrecord, hfile⟩ := @tarRecord_isRecord (now / 1000) file h.1
      obtain ⟨records, hrest, hfiles⟩ := ih h.2
      refine ⟨record :: records, ?_, .cons hfile hfiles⟩
      rw [List.mapM_cons, hrecord, hrest]
      rfl
  obtain ⟨records, hrecords, hfiles⟩ := hrecords
  refine ⟨records, ?_, hfiles⟩
  rw [buildTarArchive, hrecords]
  rfl

theorem readTar_records {files : List DockerContainerFile} {records : List (List UInt8)}
    (h : List.Forall₂ IsRecord files records) :
    readTar (records.flatten ++ List.replicate (tarBlockBytes * 2) 0) =
      some (files.map entryOf) := by
  induction h with
  | nil => exact readTar_end
  | cons hfile hfiles ih =>
    rw [List.flatten_cons, List.append_assoc, hfile.readTar_append, ih]
    rfl

/-- A reader finds in an archive the files it was made of, with their paths up to the leading
slashes. -/
theorem tar_archive_reads_back (now : ℤ) (files : List DockerContainerFile)
    (h : ∀ file ∈ files, Encodable file ∧ 0 ∉ tarName file) :
    ∃ records, buildTarArchive now files =
        .ok (records.flatten ++ List.replicate (tarBlockBytes * 2) 0) ∧
      List.Forall₂ IsRecord files records ∧
      readTar (records.flatten ++ List.replicate (tarBlockBytes * 2) 0) =
        some (files.map fun file =>
          ⟨tarName file, file.mode, file.uid, file.gid, tarContent file⟩) := by
  obtain ⟨records, hbuild, hrecords⟩ := buildTarArchive_records now fun file hfile => (h file hfile).1
  refine ⟨records, hbuild, hrecords, ?_⟩
  rw [readTar_records hrecords]
  congr 1
  apply List.map_congr_left
  intro file hfile
  have hname : textField (tarName file) = tarName file := by
    apply List.takeWhile_eq_self_iff.mpr
    intro byte hbyte
    rw [decide_eq_true_eq]
    rintro rfl
    exact (h file hfile).2 hbyte
  rw [entryOf, hname]

def configurationFile : DockerContainerFile := ⟨"/etc/pg/é.conf", "key=1\n", 0o600, 70, 70⟩

def passwordFile : DockerContainerFile := ⟨"run/secrets/password", "p@ss", 0o400, 999, 999⟩

theorem tar_archive_reads_back_configuration :
    ∃ records, buildTarArchive 0 [configurationFile, passwordFile] =
        .ok (records.flatten ++ List.replicate (tarBlockBytes * 2) 0) ∧
      List.Forall₂ IsRecord [configurationFile, passwordFile] records ∧
      readTar (records.flatten ++ List.replicate (tarBlockBytes * 2) 0) =
        some [⟨tarName configurationFile, 0o600, 70, 70, tarContent configurationFile⟩,
          ⟨tarName passwordFile, 0o400, 999, 999, tarContent passwordFile⟩] := by
  apply tar_archive_reads_back 0 [configurationFile, passwordFile]
  intro file hfile
  rw [List.mem_cons, List.mem_singleton] at hfile
  rcases hfile with rfl | rfl
  · exact ⟨⟨by decide, by decide, by decide, by decide, by decide⟩, by decide⟩
  · exact ⟨⟨by decide, by decide, by decide, by decide, by decide⟩, by decide⟩

def nulFile : DockerContainerFile := ⟨"a\x00b", "", 0o644, 0, 0⟩

/-- A reader takes a path to end at a NUL. -/
theorem nul_path_is_cut : Encodable nulFile ∧
    ¬ ∃ archive, buildTarArchive 0 [nulFile] = .ok archive ∧
      readTar archive = some [⟨tarName nulFile, 0o644, 0, 0, tarContent nulFile⟩] := by
  have hfile : Encodable nulFile := ⟨by decide, by decide, by decide, by decide, by decide⟩
  obtain ⟨records, hbuild, hrecords⟩ := @buildTarArchive_records 0 [nulFile]
    (List.forall_mem_singleton.mpr hfile)
  refine ⟨hfile, ?_⟩
  rintro ⟨archive, harchive, hread⟩
  rw [hbuild, Except.ok.injEq] at harchive
  rw [← harchive, readTar_records hrecords] at hread
  exact absurd hread (by decide)

end TarArchive

end NouvaAgent

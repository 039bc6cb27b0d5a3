import NouvaAgent.Encoding
import NouvaAgent.Reading.Lines

namespace NouvaAgent

open Reading

inductive LogStream
  | stdout
  | stderr
  deriving DecidableEq, Repr

structure LogEntry where
  type : LogStream
  timestamp : Option Units
  line : Units
  deriving DecidableEq

namespace DockerLogs

def lineFeed : UInt16 := 10

def carriageReturn : UInt16 := 13

def utf8ToString (bytes : List UInt8) : Units := (TextDecoder.run none bytes).flatMap codeUnits

/-- `raw.split(/\r?\n/)`. -/
def splitAtLineEnds (raw : Units) : List Units :=
  (completed lineFeed raw).map (withoutLast carriageReturn) ++ [unfinished lineFeed raw]

def splitLogLines (raw : Units) : List Units :=
  ((splitAtLineEnds raw).map (withoutLast carriageReturn)).filter fun line => 0 < line.length

/-- The part before the first space, if it is a date, and the line behind it. `isDate` says for which
texts `Date.parse` is finite. -/
def parseTimestampedLogLine (isDate : Units → Bool) (line : Units) : Option Units × Units :=
  match line.idxOf? 32 with
  | none => (none, line)
  | some separatorIndex =>
    if separatorIndex = 0 then (none, line)
    else
      let timestamp := line.take separatorIndex
      if isDate timestamp then (some timestamp, line.drop (separatorIndex + 1)) else (none, line)

structure DecodedFrame where
  stream : LogStream
  payload : Units

def readUInt32BE (buffer : List UInt8) (offset : ℕ) : ℕ :=
  ((buffer.drop offset).take 4).foldl (fun n byte => n * 256 + byte.toNat) 0

def readFrames (buffer : List UInt8) (offset : ℕ) (frames : List DecodedFrame) :
    List DecodedFrame × ℕ × Bool :=
  if offset + 8 ≤ buffer.length then
    let streamType := buffer.getD offset 0
    let payloadStart := offset + 8
    let payloadEnd := payloadStart + readUInt32BE buffer (offset + 4)
    if (streamType ≠ 1 ∧ streamType ≠ 2) ∨ buffer.length < payloadEnd then (frames, offset, false)
    else readFrames buffer payloadEnd (frames ++
      [⟨if streamType = 2 then .stderr else .stdout,
        utf8ToString ((buffer.drop payloadStart).take (payloadEnd - payloadStart))⟩])
  else (frames, offset, true)
termination_by buffer.length - offset

def multiplexedFrames (buffer : List UInt8) : List DecodedFrame :=
  if 8 ≤ buffer.length then
    let (frames, offset, isMultiplexed) := readFrames buffer 0 []
    if !isMultiplexed ∨ offset ≠ buffer.length then [] else frames
  else []

def readEntry (isDate : Units → Bool) (timestamps : Bool) (stream : LogStream) (rawLine : Units) :
    LogEntry :=
  let (timestamp, line) :=
    if timestamps then parseTimestampedLogLine isDate rawLine else (none, rawLine)
  ⟨stream, timestamp, line⟩

def parseDockerLogBuffer (isDate : Units → Bool) (buffer : List UInt8) (timestamps : Bool := false) :
    List LogEntry :=
  let frames := multiplexedFrames buffer
  let read := if frames.isEmpty then [⟨.stdout, utf8ToString buffer⟩] else frames
  read.flatMap fun frame =>
    (splitLogLines frame.payload).map (readEntry isDate timestamps frame.stream)

/-- A frame of a multiplexed stream. Its header has three bytes that say nothing. -/
structure LogFrame where
  stream : LogStream
  reserved : UInt8 × UInt8 × UInt8
  payload : List UInt8
  short : payload.length < 2 ^ 32

def uint32BE (n : ℕ) : List UInt8 :=
  [UInt8.ofNat (n / 2 ^ 24), UInt8.ofNat (n / 2 ^ 16), UInt8.ofNat (n / 2 ^ 8), UInt8.ofNat n]

namespace LogFrame

def streamType (frame : LogFrame) : UInt8 :=
  match frame.stream with
  | .stdout => 1
  | .stderr => 2

def header (frame : LogFrame) : List UInt8 :=
  [frame.streamType, frame.reserved.1, frame.reserved.2.1, frame.reserved.2.2] ++
    uint32BE frame.payload.length

def encode (frame : LogFrame) : List UInt8 := frame.header ++ frame.payload

def decoded (frame : LogFrame) : DecodedFrame := ⟨frame.stream, utf8ToString frame.payload⟩

end LogFrame

theorem fold_uint32BE {n : ℕ} (h : n < 2 ^ 32) :
    (uint32BE n).foldl (fun n byte => n * 256 + byte.toNat) 0 = n := by
  simp only [uint32BE, List.foldl_cons, List.foldl_nil, UInt8.toNat_ofNat']
  omega

theorem uint32BE_fold (b₀ b₁ b₂ b₃ : UInt8) :
    [b₀, b₁, b₂, b₃].foldl (fun n byte => n * 256 + byte.toNat) 0 < 2 ^ 32 ∧
      uint32BE ([b₀, b₁, b₂, b₃].foldl (fun n byte => n * 256 + byte.toNat) 0) =
        [b₀, b₁, b₂, b₃] := by
  have h₀ := b₀.toNat_lt
  have h₁ := b₁.toNat_lt
  have h₂ := b₂.toNat_lt
  have h₃ := b₃.toNat_lt
  simp only [List.foldl_cons, List.foldl_nil, uint32BE]
  refine ⟨by omega, ?_⟩
  congr 1
  · apply UInt8.toNat_inj.mp
    rw [UInt8.toNat_ofNat']
    omega
  congr 1
  · apply UInt8.toNat_inj.mp
    rw [UInt8.toNat_ofNat']
    omega
  congr 1
  · apply UInt8.toNat_inj.mp
    rw [UInt8.toNat_ofNat']
    omega
  congr 1
  · apply UInt8.toNat_inj.mp
    rw [UInt8.toNat_ofNat']
    omega

@[simp] theorem LogFrame.header_length (frame : LogFrame) : frame.header.length = 8 := rfl

theorem LogFrame.encode_length (frame : LogFrame) :
    frame.encode.length = 8 + frame.payload.length := by
  rw [LogFrame.encode, List.length_append, frame.header_length]

theorem LogFrame.streamType_known (frame : LogFrame) :
    (frame.streamType = 1 ∨ frame.streamType = 2) ∧
      (if frame.streamType = 2 then LogStream.stderr else .stdout) = frame.stream := by
  unfold LogFrame.streamType
  cases frame.stream <;> decide

theorem readFrames_frame (before rest : List UInt8) (frame : LogFrame) (frames : List DecodedFrame) :
    readFrames (before ++ (frame.encode ++ rest)) before.length frames =
      readFrames (before ++ (frame.encode ++ rest)) (before ++ frame.encode).length
        (frames ++ [frame.decoded]) := by
  have hlength : (before ++ (frame.encode ++ rest)).length =
      before.length + (8 + frame.payload.length) + rest.length := by
    rw [List.length_append, List.length_append, frame.encode_length]
    omega
  have htype : (before ++ (frame.encode ++ rest)).getD before.length 0 = frame.streamType := by
    simp [LogFrame.encode, LogFrame.header]
  have hsize : readUInt32BE (before ++ (frame.encode ++ rest)) (before.length + 4) =
      frame.payload.length := by
    have htake : ((before ++ (frame.encode ++ rest)).drop (before.length + 4)).take 4 =
        uint32BE frame.payload.length := by
      simp [LogFrame.encode, LogFrame.header, uint32BE]
    rw [readUInt32BE, htake, fold_uint32BE frame.short]
  have hpayload : ((before ++ (frame.encode ++ rest)).drop (before.length + 8)).take
      frame.payload.length = frame.payload := by
    rw [← List.drop_drop, List.drop_left, LogFrame.encode, List.append_assoc,
      ← frame.header_length, List.drop_left, List.take_left]
  obtain ⟨hknown, hstream⟩ := frame.streamType_known
  have hend : before.length + 8 + frame.payload.length = (before ++ frame.encode).length := by
    rw [List.length_append, frame.encode_length]
    omega
  rw [readFrames, if_pos (by omega)]
  dsimp only
  rw [htype, hsize, if_neg (by
    rw [not_or, not_and_or, not_not, not_not]
    exact ⟨hknown, by omega⟩), hstream, Nat.add_sub_cancel_left, hpayload, hend]
  rfl

theorem readFrames_frames (before : List UInt8) (frames : List LogFrame)
    (read : List DecodedFrame) :
    readFrames (before ++ frames.flatMap LogFrame.encode) before.length read =
      (read ++ frames.map LogFrame.decoded, (before ++ frames.flatMap LogFrame.encode).length,
        true) := by
  induction frames generalizing before read with
  | nil =>
    rw [List.flatMap_nil, List.append_nil, readFrames, if_neg (by omega), List.map_nil,
      List.append_nil]
  | cons frame frames ih =>
    have hbefore := ih (before ++ frame.encode) (read ++ [frame.decoded])
    rw [List.append_assoc] at hbefore
    rw [List.flatMap_cons, readFrames_frame, hbefore, List.append_assoc]
    rfl

theorem frame_at {buffer : List UInt8} {offset : ℕ} (h : offset + 8 ≤ buffer.length)
    (htype : buffer.getD offset 0 = 1 ∨ buffer.getD offset 0 = 2)
    (hend : offset + 8 + readUInt32BE buffer (offset + 4) ≤ buffer.length) :
    ∃ frame : LogFrame, buffer.drop offset =
        frame.encode ++ buffer.drop (offset + 8 + readUInt32BE buffer (offset + 4)) ∧
      frame.decoded = ⟨if buffer.getD offset 0 = 2 then .stderr else .stdout,
        utf8ToString ((buffer.drop (offset + 8)).take (readUInt32BE buffer (offset + 4)))⟩ := by
  obtain ⟨t, r₁, r₂, r₃, b₀, b₁, b₂, b₃, rest, hdrop⟩ : ∃ t r₁ r₂ r₃ b₀ b₁ b₂ b₃ rest,
      buffer.drop offset = t :: r₁ :: r₂ :: r₃ :: b₀ :: b₁ :: b₂ :: b₃ :: rest := by
    have hlength : 8 ≤ (buffer.drop offset).length := by
      rw [List.length_drop]
      omega
    match hd : buffer.drop offset, hlength with
    | t :: r₁ :: r₂ :: r₃ :: b₀ :: b₁ :: b₂ :: b₃ :: rest, _ =>
      exact ⟨t, r₁, r₂, r₃, b₀, b₁, b₂, b₃, rest, rfl⟩
  have hfirst : buffer.getD offset 0 = t := by
    have hget : (buffer.drop offset)[0]? = some t := by rw [hdrop]; rfl
    rw [List.getElem?_drop, Nat.add_zero] at hget
    rw [List.getD_eq_getElem?_getD, hget]
    rfl
  have hsize : readUInt32BE buffer (offset + 4) =
      [b₀, b₁, b₂, b₃].foldl (fun n byte => n * 256 + byte.toNat) 0 := by
    unfold readUInt32BE
    rw [← List.drop_drop, hdrop]
    rfl
  have hrest : buffer.drop (offset + 8) = rest := by
    rw [← List.drop_drop, hdrop]
    rfl
  obtain ⟨hsmall, hbytes⟩ := uint32BE_fold b₀ b₁ b₂ b₃
  rw [← hsize] at hsmall hbytes
  have hlength : rest.length = buffer.length - (offset + 8) := by rw [← hrest, List.length_drop]
  have htake : (rest.take (readUInt32BE buffer (offset + 4))).length =
      readUInt32BE buffer (offset + 4) := by
    rw [List.length_take]
    omega
  refine ⟨⟨if t = 2 then .stderr else .stdout, (r₁, r₂, r₃),
    rest.take (readUInt32BE buffer (offset + 4)), by rw [htake]; exact hsmall⟩, ?_, ?_⟩
  · rw [← List.drop_drop, hrest, hdrop]
    simp only [LogFrame.encode, LogFrame.header, LogFrame.streamType, htake, hbytes]
    rw [hfirst] at htype
    rcases htype with rfl | rfl
    · simp [List.take_append_drop]
    · simp [List.take_append_drop]
  · rw [hfirst, hrest]
    rfl

theorem readFrames_complete (buffer : List UInt8) (offset : ℕ) (read : List DecodedFrame)
    (hoffset : offset ≤ buffer.length) {frames : List DecodedFrame}
    (h : readFrames buffer offset read = (frames, buffer.length, true)) :
    ∃ encoded : List LogFrame, buffer.drop offset = encoded.flatMap LogFrame.encode := by
  induction offset, read using readFrames.induct buffer with
  | case1 offset read hmore streamType payloadStart payloadEnd hbad =>
    rw [readFrames, if_pos hmore] at h
    dsimp only at h
    rw [if_pos hbad] at h
    exact absurd (congrArg (·.2.2) h) (by simp)
  | case2 offset read hmore streamType payloadStart payloadEnd hgood ih =>
    rw [readFrames, if_pos hmore] at h
    dsimp only at h
    rw [if_neg hgood] at h
    rw [not_or, not_and_or, not_not, not_not, Nat.not_lt] at hgood
    obtain ⟨encoded, hencoded⟩ := ih hgood.2 h
    obtain ⟨frame, hframe, -⟩ := frame_at hmore hgood.1 hgood.2
    exact ⟨frame :: encoded, by rw [hframe, List.flatMap_cons, ← hencoded]⟩
  | case3 offset read hdone =>
    rw [readFrames, if_neg hdone] at h
    have hend : offset = buffer.length := congrArg (·.2.1) h
    exact ⟨[], by rw [hend, List.drop_length]; rfl⟩

theorem multiplexedFrames_encoded {frames : List LogFrame} (h : frames ≠ []) :
    multiplexedFrames (frames.flatMap LogFrame.encode) = frames.map LogFrame.decoded := by
  obtain ⟨first, rest, rfl⟩ := List.exists_cons_of_ne_nil h
  have hlength : 8 ≤ ((first :: rest).flatMap LogFrame.encode).length := by
    rw [List.flatMap_cons, List.length_append, first.encode_length]
    omega
  have hread := readFrames_frames [] (first :: rest) []
  unfold multiplexedFrames
  rw [if_pos hlength]
  simp only [List.nil_append, List.length_nil] at hread
  rw [hread]
  simp

theorem multiplexedFrames_other {buffer : List UInt8}
    (h : ∀ frames : List LogFrame, buffer ≠ frames.flatMap LogFrame.encode) :
    multiplexedFrames buffer = [] := by
  unfold multiplexedFrames
  split
  · cases hread : readFrames buffer 0 [] with
    | mk frames stopped =>
      obtain ⟨offset, isMultiplexed⟩ := stopped
      dsimp only
      split
      · rfl
      · next hall =>
        rw [not_or, not_not, Bool.not_eq_true, Bool.not_eq_false'] at hall
        obtain ⟨rfl, rfl⟩ := hall
        obtain ⟨encoded, hencoded⟩ := readFrames_complete buffer 0 [] (Nat.zero_le _) hread
        exact absurd hencoded (h encoded)
  · rfl

theorem parse_frames (isDate : Units → Bool) (timestamps : Bool) {frames : List LogFrame}
    (h : frames ≠ []) :
    parseDockerLogBuffer isDate (frames.flatMap LogFrame.encode) timestamps =
      frames.flatMap fun frame => (splitLogLines (utf8ToString frame.payload)).map
        (readEntry isDate timestamps frame.stream) := by
  have hsome : (frames.map LogFrame.decoded).isEmpty = false := by simpa using h
  unfold parseDockerLogBuffer
  rw [multiplexedFrames_encoded h]
  dsimp only
  rw [hsome, if_neg Bool.false_ne_true, List.flatMap_map]
  rfl

theorem parse_other (isDate : Units → Bool) (timestamps : Bool) {buffer : List UInt8}
    (h : ∀ frames : List LogFrame, buffer ≠ frames.flatMap LogFrame.encode) :
    parseDockerLogBuffer isDate buffer timestamps =
      (splitLogLines (utf8ToString buffer)).map (readEntry isDate timestamps .stdout) := by
  unfold parseDockerLogBuffer
  rw [multiplexedFrames_other h]
  exact List.append_nil _

/-- Frames are read one by one, whatever the bytes of a header say that nothing reads, and any
buffer that is not made of frames is read as a whole. -/
theorem docker_log_frames_decode (isDate : Units → Bool) :
    (∀ frames : List LogFrame, frames ≠ [] →
      parseDockerLogBuffer isDate (frames.flatMap LogFrame.encode) =
        frames.flatMap fun frame =>
          (splitLogLines (utf8ToString frame.payload)).map fun line => ⟨frame.stream, none, line⟩) ∧
      ∀ buffer, (∀ frames : List LogFrame, buffer ≠ frames.flatMap LogFrame.encode) →
        parseDockerLogBuffer isDate buffer =
          (splitLogLines (utf8ToString buffer)).map fun line => ⟨.stdout, none, line⟩ :=
  ⟨fun _ h => parse_frames isDate false h, fun _ h => parse_other isDate false h⟩

def marked : LogFrame := ⟨.stdout, (0, 0, 1), [], by decide⟩

/-- A buffer is read as a frame although no such frame with zeros in its header is encoded so. -/
theorem marked_frame_is_read :
    ¬∀ (isDate : Units → Bool) (buffer : List UInt8),
      (∀ frames : List LogFrame, (∀ frame ∈ frames, frame.reserved = (0, 0, 0)) →
        buffer ≠ frames.flatMap LogFrame.encode) →
      parseDockerLogBuffer isDate buffer =
        (splitLogLines (utf8ToString buffer)).map fun line => ⟨.stdout, none, line⟩ := by
  intro hclaim
  have hwhole := hclaim (fun _ => false) ([marked].flatMap LogFrame.encode) ?_
  · rw [parse_frames _ _ (by simp)] at hwhole
    exact absurd (congrArg List.length hwhole) (by decide +kernel)
  · intro frames hzero heq
    cases frames with
    | nil => exact absurd (congrArg List.length heq) (by decide)
    | cons frame rest =>
      have hbyte : (1 : UInt8) = frame.reserved.2.2 := by
        have hget := congrArg (·[3]?) heq
        simpa [LogFrame.encode, LogFrame.header, marked] using hget
      rw [hzero frame List.mem_cons_self] at hbyte
      exact absurd hbyte (by decide)

end DockerLogs

end NouvaAgent

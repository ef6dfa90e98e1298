import OddBox.BigEndian
import OddBox.H2.Observer

/-!
What a peer encodes is what the observer decodes. A stream of frames is read back frame by
frame, up to a frame of which bytes are missing; and from the payloads of fixed layout the
handlers report the fields that were written.
-/

namespace OddBox.H2

open Incremental BigEndian

/-! ## Frames -/

/-- A frame and the bit that a peer is free to set in front of its stream identifier. -/
structure SentFrame where
  reserved : Bool
  frame : WireFrame

def SentFrame.bytes (sent : SentFrame) : List UInt8 :=
  encodeFrame sent.reserved sent.frame.toFrameHeader

def SentFrame.header (sent : SentFrame) : FrameHeader := sent.frame.toFrameHeader

theorem frameDecoder_encodes_sent : frameDecoder.Encodes SentFrame.bytes SentFrame.header :=
  ⟨fun sent rest => parseNextFrame_encode sent.reserved sent.frame rest⟩

/-- All frames are read, and the bytes of one that is cut stay where they are. -/
theorem frames_read_back (sent : List SentFrame) {last : SentFrame} {cut later : List UInt8}
    (h : last.bytes = cut ++ later) (hlater : later ≠ []) :
    frameDecoder.decodeAll ((sent.map SentFrame.bytes).flatten ++ cut) =
        (sent.map SentFrame.header, cut) ∧
      parseNextFrame cut = none := by
  have hcut : frameDecoder.next cut = none := frameDecoder_encodes_sent.next_cut h hlater
  refine ⟨?_, hcut⟩
  rw [frameDecoder_encodes_sent.decodeAll_append, frameDecoder.decodeAll_none hcut,
    List.append_nil]

/-! ## Words -/

/-- A word of 31 bits with a bit in front. -/
def word (top : Bool) (n : BitVec 31) : List UInt8 :=
  BigEndian.bytes 4 (n.toNat + if top then 2 ^ 31 else 0)

theorem be32_value (b0 b1 b2 b3 : UInt8) : be32 b0 b1 b2 b3 = value [b0, b1, b2, b3] := by
  rw [be32_eq]
  simp only [value, List.foldl_cons, List.foldl_nil]
  omega

theorem be32_bytes (n : UInt32) :
    ∃ b0 b1 b2 b3, BigEndian.bytes 4 n.toNat = [b0, b1, b2, b3] ∧
      be32 b0 b1 b2 b3 = n.toNat := by
  refine ⟨_, _, _, _, rfl, ?_⟩
  rw [be32_value]
  have hn : n.toNat < 256 ^ 4 := n.toNat_lt
  exact value_bytes hn

/-- The first byte of a word has the bit in front of the highest seven of the number. -/
theorem word_eq (top : Bool) (n : BitVec 31) :
    ∃ b0 b1 b2 b3, word top n = [b0, b1, b2, b3] ∧ hasFlag b0 0x80 = top ∧
      be32 (b0 &&& 0x7F) b1 b2 b3 = n.toNat := by
  have hn := n.isLt
  have hhigh : n.toNat / 2 ^ 24 < 2 ^ 7 := by omega
  have hbytes : word top n = [flagged top (n.toNat / 2 ^ 24), UInt8.ofNat (n.toNat / 2 ^ 16),
      UInt8.ofNat (n.toNat / 2 ^ 8), UInt8.ofNat n.toNat] := by
    simp only [word, BigEndian.bytes, List.nil_append, List.cons_append, flagged, List.cons.injEq,
      ← UInt8.toNat_inj, UInt8.toNat_ofNat', and_true]
    cases top with
    | true =>
      simp only [if_true]
      omega
    | false =>
      simp only [Bool.false_eq_true, if_false]
      omega
  refine ⟨_, _, _, _, hbytes, flagged_and_top hhigh, ?_⟩
  rw [be32_eq, flagged_and_low (by decide) (Nat.le_refl 7) hhigh]
  simp only [UInt8.toNat_ofNat']
  omega

/-! ## Payloads -/

/-- The payloads of fixed layout. -/
inductive Payload where
  | priority (exclusive : Bool) (streamDependency : BitVec 31) (weight : UInt8)
  | rstStream (errorCode : UInt32)
  | settings (entries : List (UInt16 × UInt32))
  /-- Not padded. -/
  | pushPromise (reserved : Bool) (promisedStreamId : BitVec 31) (fragment : List UInt8)
  | ping (opaqueData : Vector UInt8 8)
  | goAway (reserved : Bool) (lastStreamId : BitVec 31) (errorCode : UInt32)
      (debugData : List UInt8)
  | windowUpdate (reserved : Bool) (increment : BitVec 31)

namespace Payload

def frameType : Payload → UInt8
  | .priority .. => 0x2
  | .rstStream .. => 0x3
  | .settings .. => 0x4
  | .pushPromise .. => 0x5
  | .ping .. => 0x6
  | .goAway .. => 0x7
  | .windowUpdate .. => 0x8

/-- An identifier of two bytes and a value of four. -/
def settingBytes (setting : UInt16 × UInt32) : List UInt8 :=
  BigEndian.bytes 2 setting.1.toNat ++ BigEndian.bytes 4 setting.2.toNat

def bytes : Payload → List UInt8
  | .priority exclusive streamDependency weight => word exclusive streamDependency ++ [weight]
  | .rstStream errorCode => BigEndian.bytes 4 errorCode.toNat
  | .settings entries => entries.flatMap settingBytes
  | .pushPromise reserved promisedStreamId fragment =>
    word reserved promisedStreamId ++ fragment
  | .ping opaqueData => opaqueData.toList
  | .goAway reserved lastStreamId errorCode debugData =>
    word reserved lastStreamId ++ (BigEndian.bytes 4 errorCode.toNat ++ debugData)
  | .windowUpdate reserved increment => word reserved increment

/-- The event that has all fields of the payload. -/
def event (direction : H2FrameDirection) (flags : UInt8) (streamId : Nat) : Payload → H2Event
  | .priority exclusive streamDependency weight =>
    .priority streamId exclusive streamDependency.toNat weight
  | .rstStream errorCode => .unknown (.rstStream streamId errorCode.toNat)
  | .settings entries =>
    .settings direction flags
      (entries.map fun setting => ⟨.fromU16 setting.1.toNat, setting.2.toNat⟩)
  | .pushPromise _ promisedStreamId fragment =>
    .pushPromise streamId promisedStreamId.toNat fragment
  | .ping opaqueData => .ping direction flags opaqueData.toList
  | .goAway _ lastStreamId errorCode debugData =>
    .goAway lastStreamId.toNat errorCode.toNat debugData
  | .windowUpdate _ increment => .windowUpdate direction streamId increment.toNat

end Payload

theorem readSettings_bytes (settings : List (UInt16 × UInt32)) :
    readSettings (settings.flatMap Payload.settingBytes) =
      settings.map fun setting => ⟨.fromU16 setting.1.toNat, setting.2.toNat⟩ := by
  induction settings with
  | nil => rfl
  | cons setting settings ih =>
    obtain ⟨b0, b1, b2, b3, hbytes, hvalue⟩ := be32_bytes setting.2
    have hid := setting.1.toNat_lt
    have hidentifier : ((UInt8.ofNat (setting.1.toNat / 256)).toNat <<< 8) |||
        (UInt8.ofNat setting.1.toNat).toNat = setting.1.toNat := by
      rw [UInt8.toNat_ofNat', UInt8.toNat_ofNat',
        ← Nat.shiftLeft_add_eq_or_of_lt (by omega), Nat.shiftLeft_eq]
      omega
    rw [List.flatMap_cons, Payload.settingBytes, hbytes]
    simp only [BigEndian.bytes, List.nil_append, List.cons_append, readSettings, hidentifier,
      hvalue, ih, List.map_cons]

variable {hpack : HpackDecoder}

/-- The handler of each payload reports its fields. -/
theorem handleRegularFrame_payload (self : H2Observer hpack) (direction : H2FrameDirection)
    (flags : UInt8) (streamId : Nat) (payload : Payload) :
    (self.handleRegularFrame direction ⟨payload.frameType, flags, streamId, payload.bytes⟩).1 =
      some (payload.event direction flags streamId) := by
  cases payload with
  | priority exclusive streamDependency weight =>
    obtain ⟨b0, b1, b2, b3, hword, htop, hlow⟩ := word_eq exclusive streamDependency
    simp only [Payload.frameType, Payload.bytes, Payload.event, H2Observer.handleRegularFrame,
      handlePriorityFrame, hword, List.cons_append, List.nil_append, htop, hlow]
  | rstStream errorCode =>
    obtain ⟨b0, b1, b2, b3, hbytes, hvalue⟩ := be32_bytes errorCode
    simp only [Payload.frameType, Payload.bytes, Payload.event, H2Observer.handleRegularFrame,
      handleRstStream, hbytes, hvalue]
  | settings entries =>
    simp only [Payload.frameType, Payload.bytes, Payload.event, H2Observer.handleRegularFrame,
      handleSettingsFrame, readSettings_bytes]
  | pushPromise reserved promisedStreamId fragment =>
    obtain ⟨b0, b1, b2, b3, hword, -, hlow⟩ := word_eq reserved promisedStreamId
    simp only [Payload.frameType, Payload.bytes, Payload.event, H2Observer.handleRegularFrame,
      handlePushPromise, hword, List.cons_append, List.nil_append, hlow]
  | ping opaqueData =>
    simp only [Payload.frameType, Payload.bytes, Payload.event, H2Observer.handleRegularFrame,
      handlePing, Vector.length_toList, if_true]
  | goAway reserved lastStreamId errorCode debugData =>
    obtain ⟨b0, b1, b2, b3, hword, -, hlow⟩ := word_eq reserved lastStreamId
    obtain ⟨b4, b5, b6, b7, hbytes, hvalue⟩ := be32_bytes errorCode
    simp only [Payload.frameType, Payload.bytes, Payload.event, H2Observer.handleRegularFrame,
      handleGoaway, hword, hbytes, List.cons_append, List.nil_append, hlow, hvalue]
  | windowUpdate reserved increment =>
    obtain ⟨b0, b1, b2, b3, hword, -, hlow⟩ := word_eq reserved increment
    simp only [Payload.frameType, Payload.bytes, Payload.event, H2Observer.handleRegularFrame,
      H2Observer.handleWindowUpdate, hword, hlow]

/-- **Decoding undoes encoding**: frames are read back in order, whatever their reserved bits,
and a frame of which bytes are missing is left in the buffer; and of every payload of fixed
layout the handler reports the fields that were encoded. -/
theorem frames_decode_encode :
    (∀ (sent : List SentFrame) (last : SentFrame) (cut later : List UInt8),
      last.bytes = cut ++ later → later ≠ [] →
        frameDecoder.decodeAll ((sent.map SentFrame.bytes).flatten ++ cut) =
            (sent.map SentFrame.header, cut) ∧
          parseNextFrame cut = none) ∧
    ∀ {hpack : HpackDecoder} (self : H2Observer hpack) (direction : H2FrameDirection)
      (flags : UInt8) (streamId : Nat) (payload : Payload),
      (self.handleRegularFrame direction
          ⟨payload.frameType, flags, streamId, payload.bytes⟩).1 =
        some (payload.event direction flags streamId) := by
  constructor
  · intro sent last cut later h hlater
    exact frames_read_back sent h hlater
  · intro hpack self direction flags streamId payload
    exact handleRegularFrame_payload self direction flags streamId payload

/-- A PING with the reserved bit set, and the first five bytes of another one. -/
theorem frames_decode_encode_ping :
    let ping : WireFrame :=
      ⟨⟨0x6, 0, 0, [1, 2, 3, 4, 5, 6, 7, 8]⟩, by decide, by decide⟩
    frameDecoder.decodeAll ((SentFrame.mk true ping).bytes ++ [0, 0, 8, 6, 0]) =
      ([ping.toFrameHeader], [0, 0, 8, 6, 0]) :=
  (frames_decode_encode.1 [⟨true, _⟩]
    ⟨false, ⟨⟨0x6, 0, 0, [1, 2, 3, 4, 5, 6, 7, 8]⟩, by decide, by decide⟩⟩
    [0, 0, 8, 6, 0] [0, 0, 0, 0, 1, 2, 3, 4, 5, 6, 7, 8] rfl (by decide)).1

end OddBox.H2

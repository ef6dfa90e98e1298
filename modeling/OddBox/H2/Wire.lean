import Mathlib
import OddBox.Incremental

/-!
The lower-level buffer parser of `h2_parser.rs`: the nine byte frame header,
the optional padding and priority fields of HEADERS, and the padding of DATA.
`u32` values are naturals; every value read from the wire is below `2 ^ 32`
by its construction from four bytes.
-/

namespace OddBox.H2

open Incremental

/-- Three bytes in network order, `(b0 << 16) | (b1 << 8) | b2`. -/
def be24 (b0 b1 b2 : UInt8) : Nat :=
  (b0.toNat <<< 16) ||| (b1.toNat <<< 8) ||| b2.toNat

/-- Four bytes in network order. -/
def be32 (b0 b1 b2 b3 : UInt8) : Nat :=
  (b0.toNat <<< 24) ||| (b1.toNat <<< 16) ||| (b2.toNat <<< 8) ||| b3.toNat

theorem be24_eq (b0 b1 b2 : UInt8) :
    be24 b0 b1 b2 = b0.toNat * 65536 + b1.toNat * 256 + b2.toNat := by
  have h1 := b1.toNat_lt
  have h2 := b2.toNat_lt
  have hlow : b1.toNat <<< 8 ||| b2.toNat = b1.toNat * 256 + b2.toNat := by
    rw [← Nat.shiftLeft_add_eq_or_of_lt (by omega), Nat.shiftLeft_eq]
  rw [be24, Nat.or_assoc, hlow, ← Nat.shiftLeft_add_eq_or_of_lt (by omega), Nat.shiftLeft_eq]
  omega

theorem be32_eq (b0 b1 b2 b3 : UInt8) :
    be32 b0 b1 b2 b3 =
      b0.toNat * 16777216 + b1.toNat * 65536 + b2.toNat * 256 + b3.toNat := by
  have h1 := b1.toNat_lt
  have h2 := b2.toNat_lt
  have h3 := b3.toNat_lt
  have hlow : (b1.toNat <<< 16) ||| (b2.toNat <<< 8) ||| b3.toNat =
      b1.toNat * 65536 + b2.toNat * 256 + b3.toNat := be24_eq b1 b2 b3
  have hassoc : be32 b0 b1 b2 b3 =
      (b0.toNat <<< 24) ||| ((b1.toNat <<< 16) ||| (b2.toNat <<< 8) ||| b3.toNat) := by
    simp only [be32, Nat.or_assoc]
  rw [hassoc, hlow, ← Nat.shiftLeft_add_eq_or_of_lt (by omega), Nat.shiftLeft_eq]
  omega

/-- Basic representation of a raw frame header and its payload. -/
structure FrameHeader where
  frameType : UInt8
  flags : UInt8
  streamId : Nat
  payload : List UInt8
  deriving DecidableEq, Repr

/-- Takes one complete frame off the front of the buffer. The source returns
`Result<Option<FrameHeader>, ()>` but has no path to `Err`. -/
def parseNextFrame : List UInt8 → Option (FrameHeader × List UInt8)
  | b0 :: b1 :: b2 :: frameType :: flags :: b5 :: b6 :: b7 :: b8 :: body =>
    let length := be24 b0 b1 b2
    let sidRaw := be32 b5 b6 b7 b8
    let streamId := sidRaw &&& 0x7FFFFFFF
    if body.length < length then none -- partial
    else some (⟨frameType, flags, streamId, body.take length⟩, body.drop length)
  | _ => none

theorem parseNextFrame_stable {buf : List UInt8} {frame : FrameHeader}
    {rest : List UInt8} (h : parseNextFrame buf = some (frame, rest))
    (later : List UInt8) : parseNextFrame (buf ++ later) = some (frame, rest ++ later) := by
  unfold parseNextFrame at h
  split at h
  · rename_i b0 b1 b2 frameType flags b5 b6 b7 b8 body
    simp only [Option.ite_none_left_eq_some, Option.some.injEq, Prod.mk.injEq, not_lt] at h
    obtain ⟨hlen, rfl, rfl⟩ := h
    have hlen' : ¬ (body ++ later).length < be24 b0 b1 b2 := by
      simp only [List.length_append]; omega
    simp only [List.cons_append, parseNextFrame, if_neg hlen',
      List.take_append_of_le_length hlen, List.drop_append_of_le_length hlen]
  · cases h

/-- Every parsed frame takes at least its nine header bytes off the buffer. -/
theorem parseNextFrame_consumes {buf : List UInt8} {frame : FrameHeader}
    {rest : List UInt8} (h : parseNextFrame buf = some (frame, rest)) :
    rest.length + 9 + frame.payload.length = buf.length := by
  unfold parseNextFrame at h
  split at h
  · simp only [Option.ite_none_left_eq_some, Option.some.injEq, Prod.mk.injEq, not_lt] at h
    obtain ⟨hlen, rfl, rfl⟩ := h
    simp only [List.length_cons, List.length_take, List.length_drop]
    omega
  · cases h

theorem parseNextFrame_short {buf : List UInt8} (h : buf.length < 9) :
    parseNextFrame buf = none := by
  cases hparse : parseNextFrame buf with
  | none => rfl
  | some taken =>
    obtain ⟨frame, rest⟩ := taken
    have := parseNextFrame_consumes hparse
    omega

/-- Frames are units of the byte stream. -/
def frameDecoder : Decoder UInt8 FrameHeader where
  next := parseNextFrame
  stable h later := parseNextFrame_stable h later
  shrinks h := by have := parseNextFrame_consumes h; omega

/-- A frame that fits the wire format: a payload length of 24 bits and a
stream identifier of 31 bits. -/
structure WireFrame extends FrameHeader where
  payload_lt : payload.length < 2 ^ 24
  streamId_lt : streamId < 2 ^ 31
  deriving DecidableEq

/-- The nine byte header of a frame followed by its payload. `reserved` is the
bit in front of the stream identifier. -/
def encodeFrame (reserved : Bool) (frame : FrameHeader) : List UInt8 :=
  let length := frame.payload.length
  let sid := frame.streamId + if reserved then 2 ^ 31 else 0
  UInt8.ofNat (length / 65536) :: UInt8.ofNat (length / 256) :: UInt8.ofNat length ::
    frame.frameType :: frame.flags ::
    UInt8.ofNat (sid / 16777216) :: UInt8.ofNat (sid / 65536) ::
    UInt8.ofNat (sid / 256) :: UInt8.ofNat sid :: frame.payload

theorem be24_ofNat {n : Nat} (h : n < 2 ^ 24) :
    be24 (UInt8.ofNat (n / 65536)) (UInt8.ofNat (n / 256)) (UInt8.ofNat n) = n := by
  rw [be24_eq]
  simp only [UInt8.toNat_ofNat']
  omega

theorem be32_ofNat {n : Nat} (h : n < 2 ^ 32) :
    be32 (UInt8.ofNat (n / 16777216)) (UInt8.ofNat (n / 65536)) (UInt8.ofNat (n / 256))
      (UInt8.ofNat n) = n := by
  rw [be32_eq]
  simp only [UInt8.toNat_ofNat']
  omega

theorem streamId_mask {sid : Nat} (reserved : Bool) (h : sid < 2 ^ 31) :
    (sid + if reserved then 2 ^ 31 else 0) &&& 0x7FFFFFFF = sid := by
  have hmask : (0x7FFFFFFF : Nat) = 2 ^ 31 - 1 := by decide
  rw [hmask, Nat.and_two_pow_sub_one_eq_mod]
  cases reserved
  · simpa using h
  · simp only [if_true]; omega

/-- Parsing undoes encoding, whatever the reserved bit and whatever follows. -/
theorem parseNextFrame_encode (reserved : Bool) (frame : WireFrame) (rest : List UInt8) :
    parseNextFrame (encodeFrame reserved frame.toFrameHeader ++ rest) =
      some (frame.toFrameHeader, rest) := by
  have hsid : (frame.streamId + if reserved then 2 ^ 31 else 0) < 2 ^ 32 := by
    have := frame.streamId_lt
    cases reserved <;> simp <;> omega
  simp only [encodeFrame, List.cons_append, parseNextFrame, be24_ofNat frame.payload_lt,
    be32_ofNat hsid, streamId_mask reserved frame.streamId_lt]
  simp

/-- The bytes of a frame as a peer sends it, the reserved bit unset. -/
def WireFrame.bytes (frame : WireFrame) : List UInt8 :=
  encodeFrame false frame.toFrameHeader

theorem frameDecoder_encodes : frameDecoder.Encodes WireFrame.bytes WireFrame.toFrameHeader :=
  ⟨fun frame rest => parseNextFrame_encode false frame rest⟩

/-- The pad length in front of a PADDED payload, and what follows it. `None`
where the byte is missing or announces more padding than there are bytes. -/
def readPadLength (flags : UInt8) (payload : List UInt8) : Option (Nat × List UInt8) :=
  if flags &&& 0x8 != 0 then
    match payload with
    | [] => none
    | pad :: cursor => if cursor.length < pad.toNat then none else some (pad.toNat, cursor)
  else some (0, payload)

/-- Parse a HEADERS payload, handling the optional PADDED and PRIORITY bits.
Returns the header block and whether END_HEADERS is set. -/
def parseHeadersPayload (flags : UInt8) (payload : List UInt8) :
    Option (List UInt8 × Bool) :=
  match readPadLength flags payload with
  | none => none
  | some (padLen, cursor) =>
    let afterPriority :=
      if flags &&& 0x20 != 0 then
        if cursor.length < 5 then none else some (cursor.drop 5)
      else some cursor
    match afterPriority with
    | none => none
    | some cursor =>
      if cursor.length < padLen then none
      else some (cursor.take (cursor.length - padLen), flags &&& 0x4 != 0)

/-- Parse a DATA payload, handling optional PADDED. Returns the data and
whether END_STREAM is set. -/
def parseDataPayload (flags : UInt8) (payload : List UInt8) : Option (List UInt8 × Bool) :=
  match readPadLength flags payload with
  | none => none
  | some (padLen, cursor) =>
    some (cursor.take (cursor.length - padLen), flags &&& 0x1 != 0)

end OddBox.H2

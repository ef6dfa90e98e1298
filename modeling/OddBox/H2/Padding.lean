import OddBox.H2.Actions
import OddBox.H2.RoundTrip

/-!
Padding. A sender may put bytes behind the content of a DATA, HEADERS or PUSH_PROMISE frame and
says in front of it how many they are; two encodings of one content are polled by the same
observer, and what it reports and becomes is compared.
-/

namespace OddBox.H2

variable {hpack : HpackDecoder}

/-! ## Encodings -/

/-- What a frame with room for padding carries. -/
inductive Paddable where
  | data (endStream : Bool) (data : List UInt8)
  | headers (endStream endHeaders : Bool) (priority : Option (Vector UInt8 5))
      (block : List UInt8)
  | pushPromise (endHeaders reserved : Bool) (promisedStreamId : BitVec 31)
      (headerBlockFragment : List UInt8)

/-- The bytes behind the content, as many as one byte can count. -/
structure Padding where
  bytes : List UInt8
  length_lt : bytes.length < 256
  deriving DecidableEq

def flagBit (isSet : Bool) (mask : UInt8) : UInt8 := if isSet then mask else 0

namespace Paddable

def frameType : Paddable → UInt8
  | .data .. => 0x0
  | .headers .. => 0x1
  | .pushPromise .. => 0x5

/-- The flags without PADDED. -/
def flags : Paddable → UInt8
  | .data endStream _ => flagBit endStream 0x1
  | .headers endStream endHeaders priority _ =>
    flagBit endStream 0x1 ||| flagBit endHeaders 0x4 ||| flagBit priority.isSome 0x20
  | .pushPromise endHeaders _ _ _ => flagBit endHeaders 0x4

def bytes : Paddable → List UInt8
  | .data _ carried => carried
  | .headers _ _ priority block => priority.elim [] Vector.toList ++ block
  | .pushPromise _ reserved promisedStreamId headerBlockFragment =>
    word reserved promisedStreamId ++ headerBlockFragment

/-- Without padding there is no byte in front either. -/
def payload (content : Paddable) : Option Padding → List UInt8
  | none => content.bytes
  | some padding =>
    UInt8.ofNat padding.bytes.length :: (content.bytes ++ padding.bytes)

/-- A choice of padding with which the content fits a frame. -/
structure Encoding (content : Paddable) where
  padding : Option Padding
  payload_lt : (content.payload padding).length < 2 ^ 24

def isPushPromise : Paddable → Bool
  | .pushPromise .. => true
  | _ => false

/-- A HEADERS frame that CONTINUATION frames are to follow. -/
def isUnfinished : Paddable → Bool
  | .headers _ endHeaders _ _ => !endHeaders
  | _ => false

end Paddable

theorem streamId_lt (streamId : BitVec 31) : streamId.toNat < 2 ^ 31 := streamId.isLt

def Paddable.Encoding.frame {content : Paddable} (encoding : content.Encoding)
    (streamId : BitVec 31) : WireFrame where
  frameType := content.frameType
  flags := content.flags ||| flagBit encoding.padding.isSome 0x8
  streamId := streamId.toNat
  payload := content.payload encoding.padding
  payload_lt := encoding.payload_lt
  streamId_lt := streamId_lt streamId

/-- The observer with these bytes in the buffer of the direction. -/
def H2Observer.withBytes (self : H2Observer hpack) (direction : H2FrameDirection)
    (bytes : List UInt8) : H2Observer hpack :=
  self.setBuffer direction { self.buffer direction with buffer := bytes }

def H2Observer.pollBytes (self : H2Observer hpack) (direction : H2FrameDirection)
    (bytes : List UInt8) : Option H2Event × H2Observer hpack :=
  (self.withBytes direction bytes).pollOneFrame direction

/-- The state without the PADDED flag of a block that is held, which nothing reads. -/
def H2Observer.ignorePadded (self : H2Observer hpack) : H2Observer hpack :=
  { self with partialHeaders := self.partialHeaders.map fun held =>
      { held with flags := held.flags &&& 0xF7 } }

/-- Two polls report the same, and no later run can tell what they leave apart. -/
structure Alike (first second : Option H2Event × H2Observer hpack) : Prop where
  event : first.1 = second.1
  state : first.2.ignorePadded = second.2.ignorePadded
  later : ∀ ops, (first.2.runOps ops).1 = (second.2.runOps ops).1 ∧
    (first.2.runOps ops).2.ignorePadded = (second.2.runOps ops).2.ignorePadded

/-! ## The flag that nothing reads -/

section IgnorePadded

variable (self : H2Observer hpack) (d : H2FrameDirection)

theorem hasFlag_unpadded (flags : UInt8) : hasFlag (flags &&& 0xF7) 0x1 = hasFlag flags 0x1 := by
  unfold hasFlag
  rw [UInt8.and_assoc]
  rfl

theorem ignorePadded_setBuffer (b : H2Buffer) :
    (self.setBuffer d b).ignorePadded = self.ignorePadded.setBuffer d b := by
  cases d <;> rfl

theorem ignorePadded_buffer : self.ignorePadded.buffer d = self.buffer d := by
  cases d <;> rfl

theorem ignorePadded_hpackDecoder :
    self.ignorePadded.hpackDecoder d = self.hpackDecoder d := by
  cases d <;> rfl

theorem ignorePadded_heldFor : self.ignorePadded.heldFor d =
    (self.heldFor d).map fun held => { held with flags := held.flags &&& 0xF7 } := by
  unfold H2Observer.heldFor H2Observer.ignorePadded
  dsimp only
  split <;> rfl

theorem ignorePadded_reportHeaders (streamId : Nat) (endStream : Bool) (headers : HeaderMap)
    (st : StreamState) :
    self.ignorePadded.reportHeaders d streamId endStream headers st =
      ((self.reportHeaders d streamId endStream headers st).1,
        (self.reportHeaders d streamId endStream headers st).2.ignorePadded) := by
  cases d <;> simp only [H2Observer.reportHeaders] <;> repeat' split
  all_goals rfl

theorem ignorePadded_afterDecode (streamId : Nat) (flags : UInt8)
    (decoded : Option (List (List UInt8 × List UInt8))) :
    self.ignorePadded.afterDecode d streamId flags decoded =
      ((self.afterDecode d streamId flags decoded).1,
        (self.afterDecode d streamId flags decoded).2.ignorePadded) := by
  cases decoded with
  | none => rfl
  | some fields =>
    let st := { self.entry streamId with headers := some (headersMap fields) }
    have hreport := ignorePadded_reportHeaders (self.setStream streamId (some st)) d streamId
      (hasFlag flags 0x1) (headersMap fields) st
    obtain ⟨hevent, hnext⟩ := Prod.ext_iff.mp hreport
    exact Prod.ext (congrArg some hevent) hnext

theorem ignorePadded_handleCompleteHeaders (streamId : Nat) (flags : UInt8)
    (block : List UInt8) :
    self.ignorePadded.handleCompleteHeaders d streamId flags block =
      ((self.handleCompleteHeaders d streamId flags block).1,
        (self.handleCompleteHeaders d streamId flags block).2.ignorePadded) := by
  have hset (state : hpack.State) : (self.setHpackDecoder d state).ignorePadded =
      self.ignorePadded.setHpackDecoder d state := by
    cases d <;> rfl
  rw [handleCompleteHeaders_eq, handleCompleteHeaders_eq, ← ignorePadded_afterDecode, hset,
    ignorePadded_hpackDecoder]

/-- Of the flags of a block only END_STREAM is read. -/
theorem handleCompleteHeaders_flags (streamId : Nat) {flags flags' : UInt8}
    (h : hasFlag flags 0x1 = hasFlag flags' 0x1) (block : List UInt8) :
    self.handleCompleteHeaders d streamId flags block =
      self.handleCompleteHeaders d streamId flags' block := by
  rw [handleCompleteHeaders_eq, handleCompleteHeaders_eq]
  unfold H2Observer.afterDecode
  rw [h]

theorem ignorePadded_handleDataFrame (frame : FrameHeader) :
    self.ignorePadded.handleDataFrame d frame =
      ((self.handleDataFrame d frame).1, (self.handleDataFrame d frame).2.ignorePadded) := by
  have hentry : self.ignorePadded.entry frame.streamId = self.entry frame.streamId := rfl
  simp only [H2Observer.handleDataFrame, hentry]
  cases d <;> repeat' split
  all_goals rfl

theorem ignorePadded_handleWindowUpdate (frame : FrameHeader) :
    self.ignorePadded.handleWindowUpdate d frame =
      ((self.handleWindowUpdate d frame).1,
        (self.handleWindowUpdate d frame).2.ignorePadded) := by
  have hentry : self.ignorePadded.entry frame.streamId = self.entry frame.streamId := rfl
  simp only [H2Observer.handleWindowUpdate, hentry]
  repeat' split
  all_goals rfl

theorem ignorePadded_ignorePadded : self.ignorePadded.ignorePadded = self.ignorePadded := by
  unfold H2Observer.ignorePadded
  dsimp only
  rw [Option.map_map]
  congr 2
  funext held
  simp only [Function.comp_apply, UInt8.and_assoc]
  rfl

/-- Two results that differ at most in the flag. -/
def SamePoll (first second : Option H2Event × H2Observer hpack) : Prop :=
  first.1 = second.1 ∧ first.2.ignorePadded = second.2.ignorePadded

variable {self} in
theorem samePoll_of_eq {first second : Option H2Event × H2Observer hpack}
    (h : first = (second.1, second.2.ignorePadded)) : SamePoll first second := by
  rw [h]
  exact ⟨rfl, ignorePadded_ignorePadded second.2⟩

theorem perform_ignorePadded (frame : FrameHeader) (action : FrameAction) :
    SamePoll (self.ignorePadded.perform d frame action) (self.perform d frame action) := by
  cases action with
  | hold held => exact ⟨rfl, rfl⟩
  | complete streamId flags block fromSlot =>
    cases fromSlot
    · exact samePoll_of_eq (ignorePadded_handleCompleteHeaders self d streamId flags block)
    · exact samePoll_of_eq
        (ignorePadded_handleCompleteHeaders self.clearSlot d streamId flags block)
  | data =>
    apply samePoll_of_eq
    simp only [H2Observer.perform, ignorePadded_handleDataFrame]
  | windowUpdate =>
    apply samePoll_of_eq
    simp only [H2Observer.perform, ignorePadded_handleWindowUpdate]
  | report event => exact samePoll_of_eq rfl

/-- A poll reads no PADDED flag of a held block. -/
theorem processFrame_ignorePadded (frame : FrameHeader) :
    SamePoll (self.ignorePadded.processFrame d frame) (self.processFrame d frame) := by
  rw [processFrame_perform, processFrame_perform, ignorePadded_heldFor]
  cases self.heldFor d with
  | none => exact perform_ignorePadded self d frame _
  | some held =>
    dsimp only [Option.map_some, FrameHeader.action]
    by_cases hcontinues : frame.continues held.streamId = true
    · rw [if_pos hcontinues, if_pos hcontinues]
      by_cases hended : hasFlag frame.flags 0x4 = true
      · rw [if_pos hended, if_pos hended]
        dsimp only [H2Observer.perform]
        rw [if_pos rfl, if_pos rfl, handleCompleteHeaders_flags _ d held.streamId
          (hasFlag_unpadded held.flags)]
        exact samePoll_of_eq
          (ignorePadded_handleCompleteHeaders self.clearSlot d held.streamId held.flags _)
      · rw [if_neg hended, if_neg hended]
        refine ⟨rfl, ?_⟩
        exact ignorePadded_ignorePadded (self.setSlot d
          { held with headerBlock := held.headerBlock ++ frame.payload })
    · rw [if_neg hcontinues, if_neg hcontinues]
      exact perform_ignorePadded self d frame _

theorem pollOneFrame_ignorePadded :
    SamePoll (self.ignorePadded.pollOneFrame d) (self.pollOneFrame d) := by
  rw [pollOneFrame_eq, pollOneFrame_eq, ignorePadded_buffer]
  cases parseNextFrame (self.buffer d).buffer with
  | none => exact ⟨rfl, ignorePadded_ignorePadded self⟩
  | some taken =>
    dsimp only
    rw [← ignorePadded_setBuffer]
    exact processFrame_ignorePadded _ d taken.1

end IgnorePadded

theorem runOps_ignorePadded {first second : H2Observer hpack}
    (h : first.ignorePadded = second.ignorePadded) (ops : List ObserverOp) :
    (first.runOps ops).1 = (second.runOps ops).1 ∧
      (first.runOps ops).2.ignorePadded = (second.runOps ops).2.ignorePadded := by
  induction ops generalizing first second with
  | nil => exact ⟨rfl, h⟩
  | cons op ops ih =>
    cases op with
    | write d data =>
      have hwrite (observer : H2Observer hpack) : (observer.write d data).ignorePadded =
          observer.ignorePadded.write d data := by
        rw [H2Observer.write, ignorePadded_setBuffer, H2Observer.write, ignorePadded_buffer]
      exact ih (by rw [hwrite, hwrite, h])
    | poll d =>
      obtain ⟨hevent, hnext⟩ := pollOneFrame_ignorePadded first d
      obtain ⟨hevent', hnext'⟩ := pollOneFrame_ignorePadded second d
      rw [h] at hevent hnext
      obtain ⟨hevents, hlast⟩ := ih (hnext.symm.trans hnext')
      simp only [H2Observer.runOps]
      exact ⟨by rw [← hevent, hevent', hevents], hlast⟩

theorem alike_of_samePoll {first second : Option H2Event × H2Observer hpack}
    (h : SamePoll first second) : Alike first second :=
  ⟨h.1, h.2, runOps_ignorePadded h.2⟩

/-! ## What the padding leaves -/

namespace Paddable

variable {content : Paddable}

def padBytes (padding : Option Padding) : List UInt8 := padding.elim [] Padding.bytes

/-- The pad length is that of the bytes behind the content. -/
theorem readPadLength_payload {flags : UInt8} {padding : Option Padding}
    (hflag : hasFlag flags 0x8 = padding.isSome) :
    readPadLength flags (content.payload padding) =
      some ((padBytes padding).length, content.bytes ++ padBytes padding) := by
  unfold hasFlag at hflag
  unfold readPadLength
  rw [hflag]
  cases padding with
  | none =>
    rw [padBytes, Option.elim_none, List.append_nil]
    rfl
  | some padding =>
    have hcount : (UInt8.ofNat padding.bytes.length).toNat = padding.bytes.length :=
      UInt8.toNat_ofNat_of_lt' padding.length_lt
    simp only [Option.isSome_some, if_true, payload]
    rw [hcount, if_neg (by rw [List.length_append]; omega)]
    rfl

/-- Taking the padding off the end leaves what stands in front of it. -/
theorem take_content (before behind : List UInt8) :
    (before ++ behind).take ((before ++ behind).length - behind.length) = before := by
  rw [List.length_append, Nat.add_sub_cancel, List.take_left]

theorem parseDataPayload_payload (endStream padded : Bool) (carried : List UInt8)
    {padding : Option Padding} (hpadded : padded = padding.isSome) :
    parseDataPayload (flagBit endStream 0x1 ||| flagBit padded 0x8)
      ((Paddable.data endStream carried).payload padding) = some (carried, endStream) := by
  have hflag : hasFlag (flagBit endStream 0x1 ||| flagBit padded 0x8) 0x8 = padding.isSome := by
    rw [← hpadded]
    cases endStream <;> cases padded <;> rfl
  have hended : hasFlag (flagBit endStream 0x1 ||| flagBit padded 0x8) 0x1 = endStream := by
    cases endStream <;> cases padded <;> rfl
  unfold parseDataPayload
  rw [readPadLength_payload hflag]
  unfold hasFlag at hended
  dsimp only
  rw [take_content, hended]
  rfl

theorem parseHeadersPayload_payload (endStream endHeaders padded : Bool)
    (priority : Option (Vector UInt8 5)) (block : List UInt8) {padding : Option Padding}
    (hpadded : padded = padding.isSome) :
    parseHeadersPayload
      (flagBit endStream 0x1 ||| flagBit endHeaders 0x4 ||| flagBit priority.isSome 0x20 |||
        flagBit padded 0x8)
      ((Paddable.headers endStream endHeaders priority block).payload padding) =
        some (block, endHeaders) := by
  have hflags : ∀ first second third fourth : Bool,
      let flags := flagBit first 0x1 ||| flagBit second 0x4 ||| flagBit third 0x20 |||
        flagBit fourth 0x8
      hasFlag flags 0x8 = fourth ∧ (flags &&& 0x20 != 0) = third ∧
        (flags &&& 0x4 != 0) = second := by
    decide
  obtain ⟨hpad, hpriority, hended⟩ := hflags endStream endHeaders priority.isSome padded
  unfold parseHeadersPayload
  rw [readPadLength_payload (hpad.trans hpadded)]
  dsimp only
  rw [hpriority, hended]
  cases priority with
  | none =>
    simp only [Option.isSome_none, Bool.false_eq_true, if_false, Paddable.bytes,
      Option.elim_none, List.nil_append]
    rw [if_neg (by rw [List.length_append]; omega), take_content]
  | some fields =>
    have hlength : fields.toList.length = 5 := Vector.length_toList
    have hdrop : (fields.toList ++ block ++ padBytes padding).drop 5 =
        block ++ padBytes padding := by
      rw [List.append_assoc]
      exact List.drop_left' hlength
    have hlong : ¬(fields.toList ++ block ++ padBytes padding).length < 5 := by
      simp only [List.length_append]
      omega
    simp only [Option.isSome_some, if_true, Paddable.bytes, Option.elim_some, if_neg hlong, hdrop]
    rw [if_neg (by rw [List.length_append]; omega), take_content]

end Paddable

/-! ## Polls of an encoding -/

section Polls

variable (self : H2Observer hpack) (d : H2FrameDirection) (rest : List UInt8)
  (streamId : BitVec 31)

theorem pollBytes_frame (frame : WireFrame) :
    self.pollBytes d (frame.bytes ++ rest) =
      (self.withBytes d rest).processFrame d frame.toFrameHeader := by
  have hparse : parseNextFrame (frame.bytes ++ rest) = some (frame.toFrameHeader, rest) :=
    parseNextFrame_encode false frame rest
  unfold H2Observer.pollBytes H2Observer.withBytes
  rw [pollOneFrame_eq, buffer_setBuffer_self, hparse]
  dsimp only
  rw [setBuffer_setBuffer]

/-- Only a CONTINUATION is taken for the block in the slot. -/
theorem processFrame_regular {frame : FrameHeader} (h : frame.frameType ≠ 0x9) :
    self.processFrame d frame = self.handleRegularFrame d frame := by
  unfold H2Observer.processFrame
  split
  · rw [if_neg]
    rintro ⟨-, htype, -⟩
    exact h htype
  · rfl

theorem handleDataFrame_congr {frame other : FrameHeader} {parsed : List UInt8 × Bool}
    (hstream : frame.streamId = other.streamId)
    (hframe : parseDataPayload frame.flags frame.payload = some parsed)
    (hother : parseDataPayload other.flags other.payload = some parsed) :
    self.handleDataFrame d frame = self.handleDataFrame d other := by
  unfold H2Observer.handleDataFrame
  rw [hframe, hother, hstream]

theorem poll_data {endStream : Bool} {carried : List UInt8}
    (first second : (Paddable.data endStream carried).Encoding) :
    self.pollBytes d ((first.frame streamId).bytes ++ rest) =
      self.pollBytes d ((second.frame streamId).bytes ++ rest) := by
  have hparse (encoding : (Paddable.data endStream carried).Encoding) :
      parseDataPayload (encoding.frame streamId).flags (encoding.frame streamId).payload =
        some (carried, endStream) :=
    Paddable.parseDataPayload_payload endStream _ carried rfl
  have hsame : (self.withBytes d rest).handleDataFrame d (first.frame streamId).toFrameHeader =
      (self.withBytes d rest).handleDataFrame d (second.frame streamId).toFrameHeader :=
    handleDataFrame_congr _ d rfl (hparse first) (hparse second)
  rw [pollBytes_frame, pollBytes_frame, processFrame_regular _ _ (by rintro ⟨⟩),
    processFrame_regular _ _ (by rintro ⟨⟩)]
  simp only [H2Observer.handleRegularFrame, Paddable.Encoding.frame, Paddable.frameType] at hsame ⊢
  rw [hsame]

theorem poll_headers {endStream endHeaders : Bool} {priority : Option (Vector UInt8 5)}
    {block : List UInt8}
    (encoding : (Paddable.headers endStream endHeaders priority block).Encoding) :
    self.pollBytes d ((encoding.frame streamId).bytes ++ rest) =
      if endHeaders then (self.withBytes d rest).handleCompleteHeaders d streamId.toNat
        (encoding.frame streamId).flags block
      else (none, (self.withBytes d rest).setSlot d
        ⟨streamId.toNat, (encoding.frame streamId).flags, block⟩) := by
  have hparse : parseHeadersPayload (encoding.frame streamId).flags
      (encoding.frame streamId).payload = some (block, endHeaders) :=
    Paddable.parseHeadersPayload_payload endStream endHeaders _ priority block rfl
  rw [pollBytes_frame, processFrame_regular _ _ (by rintro ⟨⟩)]
  unfold H2Observer.handleRegularFrame
  rw [hparse]
  cases endHeaders <;> rfl

/-- Of the flags of the two encodings only PADDED may differ. -/
theorem encoding_flags {content : Paddable} (first second : content.Encoding) :
    (first.frame streamId).flags &&& 0xF7 = (second.frame streamId).flags &&& 0xF7 := by
  have hclear : ∀ padded : Bool, flagBit padded 0x8 &&& 0xF7 = 0 := by decide
  have hdistrib (flags added : UInt8) :
      (flags ||| added) &&& 0xF7 = flags &&& 0xF7 ||| added &&& 0xF7 := by
    apply UInt8.toBitVec_inj.mp
    simp only [UInt8.toBitVec_and, UInt8.toBitVec_or, BitVec.and_or_distrib_right]
  simp only [Paddable.Encoding.frame, hdistrib, hclear]

theorem poll_pushPromise {endHeaders reserved : Bool} {promisedStreamId : BitVec 31}
    {fragment : List UInt8}
    (encoding : (Paddable.pushPromise endHeaders reserved promisedStreamId fragment).Encoding) :
    self.pollBytes d ((encoding.frame streamId).bytes ++ rest) =
      (some (handlePushPromise (encoding.frame streamId).toFrameHeader),
        self.withBytes d rest) := by
  rw [pollBytes_frame, processFrame_regular _ _ (by rintro ⟨⟩)]
  rfl

/-- Without padding the promised stream and the fragment are reported. -/
theorem handlePushPromise_unpadded {endHeaders reserved : Bool} {promisedStreamId : BitVec 31}
    {fragment : List UInt8}
    (encoding : (Paddable.pushPromise endHeaders reserved promisedStreamId fragment).Encoding)
    (hpadding : encoding.padding = none) :
    handlePushPromise (encoding.frame streamId).toFrameHeader =
      .pushPromise streamId.toNat promisedStreamId.toNat fragment := by
  obtain ⟨b0, b1, b2, b3, hword, -, hlow⟩ := word_eq reserved promisedStreamId
  simp only [handlePushPromise, Paddable.Encoding.frame, hpadding, Paddable.payload,
    Paddable.bytes, hword, List.cons_append, List.nil_append, hlow]

/-- The pad length is taken for the first byte of the promised stream; the fragment begins with
the last one, and ends with the padding. -/
theorem handlePushPromise_padded (endHeaders reserved : Bool) (promisedStreamId : BitVec 31)
    (fragment : List UInt8) :
    ∃ last, ∀ (encoding :
      (Paddable.pushPromise endHeaders reserved promisedStreamId fragment).Encoding) (padding),
      encoding.padding = some padding →
        ∃ promised, handlePushPromise (encoding.frame streamId).toFrameHeader =
          .pushPromise streamId.toNat promised (last :: (fragment ++ padding.bytes)) := by
  obtain ⟨b0, b1, b2, b3, hword, -, -⟩ := word_eq reserved promisedStreamId
  refine ⟨b3, ?_⟩
  intro encoding padding hpadding
  refine ⟨be32 (UInt8.ofNat padding.bytes.length &&& 0x7F) b0 b1 b2, ?_⟩
  simp only [handlePushPromise, Paddable.Encoding.frame, hpadding, Paddable.payload,
    Paddable.bytes, hword, List.cons_append, List.nil_append]

/-- What is reported of a PUSH_PROMISE tells its padding. -/
theorem handlePushPromise_injective {endHeaders reserved : Bool} {promisedStreamId : BitVec 31}
    {fragment : List UInt8}
    {first second : (Paddable.pushPromise endHeaders reserved promisedStreamId fragment).Encoding}
    (h : handlePushPromise (first.frame streamId).toFrameHeader =
      handlePushPromise (second.frame streamId).toFrameHeader) :
    first.padding = second.padding := by
  obtain ⟨last, hpadded⟩ := handlePushPromise_padded streamId endHeaders reserved
    promisedStreamId fragment
  have hlonger (bytes : List UInt8) : fragment ≠ last :: (fragment ++ bytes) := by
    intro heq
    have hlength := congrArg List.length heq
    rw [List.length_cons, List.length_append] at hlength
    omega
  cases hfirst : first.padding with
  | none =>
    rw [handlePushPromise_unpadded streamId first hfirst] at h
    cases hsecond : second.padding with
    | none => rfl
    | some padding =>
      obtain ⟨promised, hevent⟩ := hpadded second padding hsecond
      rw [hevent, H2Event.pushPromise.injEq] at h
      exact absurd h.2.2 (hlonger _)
  | some padding =>
    obtain ⟨promised, hevent⟩ := hpadded first padding hfirst
    rw [hevent] at h
    cases hsecond : second.padding with
    | none =>
      rw [handlePushPromise_unpadded streamId second hsecond, H2Event.pushPromise.injEq] at h
      exact absurd h.2.2.symm (hlonger _)
    | some other =>
      obtain ⟨promised', hevent'⟩ := hpadded second other hsecond
      rw [hevent', H2Event.pushPromise.injEq, List.cons.injEq, List.append_cancel_left_eq] at h
      obtain ⟨bytes, hbytes⟩ := padding
      obtain ⟨bytes', hbytes'⟩ := other
      obtain ⟨-, -, -, rfl⟩ := h
      rfl

/-- The flags of a block that is held tell whether its frame was padded. -/
theorem padded_of_setSlot {endStream endHeaders : Bool} {priority : Option (Vector UInt8 5)}
    {block : List UInt8}
    {first second : (Paddable.headers endStream endHeaders priority block).Encoding}
    (h : self.setSlot d ⟨streamId.toNat, (first.frame streamId).flags, block⟩ =
      self.setSlot d ⟨streamId.toNat, (second.frame streamId).flags, block⟩) :
    first.padding.isSome = second.padding.isSome := by
  have hpadded : ∀ ended complete prior padded : Bool,
      hasFlag (flagBit ended 0x1 ||| flagBit complete 0x4 ||| flagBit prior 0x20 |||
        flagBit padded 0x8) 0x8 = padded := by
    decide
  have hslot := congrArg H2Observer.partialHeaders h
  simp only [H2Observer.setSlot, Option.some.injEq, PartialHeadersState.mk.injEq] at hslot
  have hflags : (first.frame streamId).flags = (second.frame streamId).flags := hslot.2.1
  calc first.padding.isSome
      = hasFlag (first.frame streamId).flags 0x8 :=
        (hpadded endStream endHeaders priority.isSome first.padding.isSome).symm
    _ = hasFlag (second.frame streamId).flags 0x8 := by rw [hflags]
    _ = second.padding.isSome := hpadded endStream endHeaders priority.isSome _

/-- What DATA and HEADERS leave does not tell their padding, but for the flags of a block that is
held. -/
theorem poll_samePoll {content : Paddable} (hcontent : content.isPushPromise = false)
    (first second : content.Encoding) :
    SamePoll (self.pollBytes d ((first.frame streamId).bytes ++ rest))
        (self.pollBytes d ((second.frame streamId).bytes ++ rest)) ∧
      (self.pollBytes d ((first.frame streamId).bytes ++ rest) =
          self.pollBytes d ((second.frame streamId).bytes ++ rest) ↔
        (content.isUnfinished = true → first.padding.isSome = second.padding.isSome)) := by
  have hflags := encoding_flags streamId first second
  cases content with
  | data endStream carried =>
    have hsame := poll_data self d rest streamId first second
    rw [hsame]
    exact ⟨⟨rfl, rfl⟩, iff_of_true rfl (by rintro ⟨⟩)⟩
  | headers endStream endHeaders priority block =>
    rw [poll_headers, poll_headers]
    cases endHeaders with
    | true =>
      have hended : hasFlag (first.frame streamId).flags 0x1 =
          hasFlag (second.frame streamId).flags 0x1 := by
        rw [← hasFlag_unpadded, hflags, hasFlag_unpadded]
      rw [if_pos rfl, if_pos rfl, handleCompleteHeaders_flags _ d streamId.toNat hended]
      exact ⟨⟨rfl, rfl⟩, iff_of_true rfl (by rintro ⟨⟩)⟩
    | false =>
      rw [if_neg Bool.false_ne_true, if_neg Bool.false_ne_true]
      refine ⟨⟨rfl, ?_⟩, ?_, ?_⟩
      · unfold H2Observer.ignorePadded H2Observer.setSlot
        dsimp only [Option.map_some]
        rw [hflags]
      · intro hequal _
        exact padded_of_setSlot _ d streamId (Prod.ext_iff.mp hequal).2
      · intro hpadded
        have hsame : (first.frame streamId).flags = (second.frame streamId).flags := by
          simp only [Paddable.Encoding.frame, hpadded rfl]
        rw [hsame]
  | pushPromise endHeaders reserved promisedStreamId fragment => contradiction

end Polls

/-- **Padding**: what is reported of a DATA or HEADERS frame and what becomes of the observer does
not depend on the padding, and that of a PUSH_PROMISE exactly where there is another padding. Only
the flags of an unfinished block, which are kept as they came, tell whether there was any. -/
theorem padding_invisible_iff (self : H2Observer hpack) (direction : H2FrameDirection)
    (streamId : BitVec 31) (content : Paddable) (first second : content.Encoding)
    (rest : List UInt8) :
    let polled := fun encoding : content.Encoding =>
      self.pollBytes direction ((encoding.frame streamId).bytes ++ rest)
    (Alike (polled first) (polled second) ↔
        (content.isPushPromise = true → first.padding = second.padding)) ∧
      (polled first = polled second ↔
        (content.isPushPromise = true → first.padding = second.padding) ∧
          (content.isUnfinished = true → first.padding.isSome = second.padding.isSome)) := by
  intro polled
  cases hcontent : content.isPushPromise with
  | false =>
    obtain ⟨hsame, hequal⟩ := poll_samePoll self direction rest streamId hcontent first second
    constructor
    · exact iff_of_true (alike_of_samePoll hsame) (by rintro ⟨⟩)
    · rw [hequal]
      exact ⟨fun h => ⟨by rintro ⟨⟩, h⟩, fun h => h.2⟩
  | true =>
    have hpadding (h : (polled first).1 = (polled second).1) : first.padding = second.padding := by
      cases content with
      | data _ _ => contradiction
      | headers _ _ _ _ => contradiction
      | pushPromise endHeaders reserved promisedStreamId fragment =>
        simp only [polled, poll_pushPromise, Option.some.injEq] at h
        exact handlePushPromise_injective streamId h
    have hequal (h : first.padding = second.padding) : polled first = polled second := by
      obtain ⟨padding, hfits⟩ := first
      obtain ⟨padding', hfits'⟩ := second
      cases h
      rfl
    refine ⟨⟨fun halike _ => hpadding halike.event, fun h => ?_⟩, fun h => ?_, fun h => ?_⟩
    · rw [hequal (h rfl)]
      exact alike_of_samePoll ⟨rfl, rfl⟩
    · have hsame := hpadding (congrArg Prod.fst h)
      exact ⟨fun _ => hsame, fun _ => congrArg Option.isSome hsame⟩
    · exact hequal (h.1 rfl)

/-! ## A padded promise -/

/-- Stream 2 is promised, with `:status 200`. -/
def promise : Paddable := .pushPromise true false 2 [0x88]

def promiseUnpadded : promise.Encoding := ⟨none, by decide⟩

def promisePadded : promise.Encoding := ⟨some ⟨[0], by decide⟩, by decide⟩

/-- The pad length is read as part of the promised stream, and the padding as a header. -/
theorem promisePadded_told :
    ((H2Observer.new staticHpack).pollBytes .outgoing
        (promiseUnpadded.frame 1).bytes).1 = some (.pushPromise 1 2 [0x88]) ∧
      ((H2Observer.new staticHpack).pollBytes .outgoing
        (promisePadded.frame 1).bytes).1 = some (.pushPromise 1 0x1000000 [0x02, 0x88, 0]) ∧
      ¬∀ (self : H2Observer staticHpack) (direction : H2FrameDirection) (streamId : BitVec 31)
        (content : Paddable) (first second : content.Encoding) (rest : List UInt8),
        Alike (self.pollBytes direction ((first.frame streamId).bytes ++ rest))
          (self.pollBytes direction ((second.frame streamId).bytes ++ rest)) := by
  have hunpadded : ((H2Observer.new staticHpack).pollBytes .outgoing
      (promiseUnpadded.frame 1).bytes).1 = some (.pushPromise 1 2 [0x88]) := by
    decide +kernel
  have hpadded : ((H2Observer.new staticHpack).pollBytes .outgoing
      (promisePadded.frame 1).bytes).1 = some (.pushPromise 1 0x1000000 [0x02, 0x88, 0]) := by
    decide +kernel
  refine ⟨hunpadded, hpadded, ?_⟩
  intro hall
  have hevent := (hall (H2Observer.new staticHpack) .outgoing 1 promise promiseUnpadded
    promisePadded []).event
  rw [List.append_nil, List.append_nil, hunpadded, hpadded] at hevent
  contradiction

end OddBox.H2

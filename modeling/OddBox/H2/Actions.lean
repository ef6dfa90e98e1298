import OddBox.H2.Run

/-!
What a frame does, as a value. A poll first decides from the frame and from
the slot of its own direction (`FrameHeader.action`), then acts on the decoder,
the slot and the stream table (`H2Observer.perform`). Each action has one lemma
for the slot and one for the decoders; later modules never open the handlers.
-/

namespace OddBox.H2

variable {hpack : HpackDecoder}

/-- The header block held for a direction. The slot of the other direction is
invisible to a poll. -/
def H2Observer.heldFor (self : H2Observer hpack) (d : H2FrameDirection) :
    Option PartialHeadersState :=
  if self.partialHeadersDirection = some d then self.partialHeaders else none

inductive FrameAction where
  /-- Put an unfinished header block in the slot. -/
  | hold (held : PartialHeadersState)
  /-- Decode a complete header block, which was in the slot or came in one frame. -/
  | complete (streamId : Nat) (flags : UInt8) (block : List UInt8) (fromSlot : Bool)
  | data
  | windowUpdate
  /-- Report an event and change nothing. -/
  | report (event : H2Event)
  deriving DecidableEq

/-- The action of a frame that does not continue the held block. -/
def FrameHeader.regularAction (direction : H2FrameDirection) (frame : FrameHeader) : FrameAction :=
  match frame.frameType with
  | 0x0 => .data
  | 0x1 =>
    match parseHeadersPayload frame.flags frame.payload with
    | some (block, true) => .complete frame.streamId frame.flags block false
    | some (block, false) => .hold ⟨frame.streamId, frame.flags, block⟩
    | none => .report (.unknown (.rstStream frame.streamId 0x1))
  | 0x2 => .report (handlePriorityFrame frame)
  | 0x3 => .report (handleRstStream frame)
  | 0x4 => .report (handleSettingsFrame direction frame)
  | 0x5 => .report (handlePushPromise frame)
  | 0x6 => .report (handlePing direction frame)
  | 0x7 => .report (handleGoaway frame)
  | 0x8 => .windowUpdate
  | _ => .report frame.unknownEvent

/-- A HEADERS frame whose block is to be continued. -/
def FrameHeader.opensBlock (frame : FrameHeader) : Bool :=
  frame.frameType == 0x1 &&
    match parseHeadersPayload frame.flags frame.payload with
    | some (_, false) => true
    | _ => false

/-- A CONTINUATION of the block that is held. -/
def FrameHeader.continues (frame : FrameHeader) (streamId : Nat) : Bool :=
  frame.frameType == 0x9 && frame.streamId == streamId

theorem continues_iff {frame : FrameHeader} {streamId : Nat} :
    frame.continues streamId = true ↔ frame.frameType = 0x9 ∧ frame.streamId = streamId := by
  simp [FrameHeader.continues]

def FrameHeader.action (direction : H2FrameDirection) (held : Option PartialHeadersState)
    (frame : FrameHeader) : FrameAction :=
  match held with
  | some held =>
    if frame.continues held.streamId then
      let combined := held.headerBlock ++ frame.payload
      if hasFlag frame.flags 0x4 then .complete held.streamId held.flags combined true
      else .hold { held with headerBlock := combined }
    else frame.regularAction direction
  | none => frame.regularAction direction

def H2Observer.clearSlot (self : H2Observer hpack) : H2Observer hpack :=
  { self with partialHeaders := none, partialHeadersDirection := none }

def H2Observer.setSlot (self : H2Observer hpack) (direction : H2FrameDirection)
    (held : PartialHeadersState) : H2Observer hpack :=
  { self with partialHeaders := some held, partialHeadersDirection := some direction }

def H2Observer.perform (self : H2Observer hpack) (direction : H2FrameDirection)
    (frame : FrameHeader) : FrameAction → Option H2Event × H2Observer hpack
  | .hold held => (none, self.setSlot direction held)
  | .complete streamId flags block fromSlot =>
    (if fromSlot then self.clearSlot else self).handleCompleteHeaders direction streamId flags block
  | .data =>
    let (event, next) := self.handleDataFrame direction frame
    (some event, next)
  | .windowUpdate =>
    let (event, next) := self.handleWindowUpdate direction frame
    (some event, next)
  | .report event => (some event, self)

theorem handleRegularFrame_perform (self : H2Observer hpack) (direction : H2FrameDirection)
    (frame : FrameHeader) :
    self.handleRegularFrame direction frame =
      self.perform direction frame (frame.regularAction direction) := by
  simp only [H2Observer.handleRegularFrame, FrameHeader.regularAction]
  by_cases hheaders : frame.frameType = 0x1
  · simp only [hheaders]
    cases parseHeadersPayload frame.flags frame.payload with
    | none => rfl
    | some parsed =>
      obtain ⟨block, ended⟩ := parsed
      cases ended with
      | true => rfl
      | false => rfl
  · split
    case h_2 htype => exact absurd htype hheaders
    all_goals simp_all [H2Observer.perform]

/-- A poll decides, then acts. -/
theorem processFrame_perform (self : H2Observer hpack) (direction : H2FrameDirection)
    (frame : FrameHeader) :
    self.processFrame direction frame =
      self.perform direction frame (frame.action direction (self.heldFor direction)) := by
  simp only [H2Observer.processFrame, H2Observer.heldFor]
  cases hheld : self.partialHeaders with
  | none => simp [FrameHeader.action, handleRegularFrame_perform]
  | some held =>
    by_cases hdir : self.partialHeadersDirection = some direction
    · simp only [hdir, true_and, if_pos, FrameHeader.action, continues_iff]
      split
      · cases hflag : hasFlag frame.flags 0x4
        · simp [H2Observer.perform, H2Observer.setSlot, ← hdir]
        · simp [H2Observer.perform, H2Observer.clearSlot]
      · exact handleRegularFrame_perform self direction frame
    · simp [hdir, FrameHeader.action, handleRegularFrame_perform]

/-- What becomes of a block once its decoder has run. -/
def H2Observer.afterDecode (self : H2Observer hpack) (direction : H2FrameDirection)
    (streamId : Nat) (flags : UInt8) :
    Option (List (List UInt8 × List UInt8)) → Option H2Event × H2Observer hpack
  | none => (some (.unknown (.rstStream streamId 0x1)), self)
  | some fields =>
    let headers := headersMap fields
    let st := { self.entry streamId with headers := some headers }
    let (event, next) := (self.setStream streamId (some st)).reportHeaders direction streamId
      (hasFlag flags 0x1) headers st
    (some event, next)

theorem handleCompleteHeaders_eq (self : H2Observer hpack) (direction : H2FrameDirection)
    (streamId : Nat) (flags : UInt8) (block : List UInt8) :
    self.handleCompleteHeaders direction streamId flags block =
      (self.setHpackDecoder direction
        (hpack.decode (self.hpackDecoder direction) block).1).afterDecode direction streamId flags
          (hpack.decode (self.hpackDecoder direction) block).2 := by
  simp only [H2Observer.handleCompleteHeaders]
  cases (hpack.decode (self.hpackDecoder direction) block).2 <;> rfl

/-! ## The decoders -/

section Decoders

variable (self : H2Observer hpack) (d d' : H2FrameDirection)

@[simp] theorem hpackDecoder_setStream (streamId : Nat) (st : Option StreamState) :
    (self.setStream streamId st).hpackDecoder d = self.hpackDecoder d := by
  cases d <;> rfl

@[simp] theorem hpackDecoder_setSlot (held : PartialHeadersState) :
    (self.setSlot d' held).hpackDecoder d = self.hpackDecoder d := by
  cases d <;> rfl

@[simp] theorem hpackDecoder_clearSlot : self.clearSlot.hpackDecoder d = self.hpackDecoder d := by
  cases d <;> rfl

theorem hpackDecoder_setHpackDecoder (state : hpack.State) :
    (self.setHpackDecoder d' state).hpackDecoder d =
      if d = d' then state else self.hpackDecoder d := by
  cases d <;> cases d' <;> rfl

@[simp] theorem hpackDecoder_reportHeaders (streamId : Nat) (endStream : Bool)
    (headers : HeaderMap) (st : StreamState) :
    (self.reportHeaders d' streamId endStream headers st).2.hpackDecoder d =
      self.hpackDecoder d := by
  cases d' <;> simp only [H2Observer.reportHeaders] <;> repeat' split
  all_goals simp

/-- A complete block goes to the decoder of its own direction, and only there. -/
theorem hpackDecoder_handleCompleteHeaders (streamId : Nat) (flags : UInt8)
    (block : List UInt8) :
    (self.handleCompleteHeaders d' streamId flags block).2.hpackDecoder d =
      if d = d' then (hpack.decode (self.hpackDecoder d') block).1 else self.hpackDecoder d := by
  simp only [H2Observer.handleCompleteHeaders]
  split
  · rw [hpackDecoder_setHpackDecoder]
  · simp only [hpackDecoder_reportHeaders, hpackDecoder_setStream, hpackDecoder_setHpackDecoder]

@[simp] theorem hpackDecoder_handleDataFrame (frame : FrameHeader) :
    (self.handleDataFrame d' frame).2.hpackDecoder d = self.hpackDecoder d := by
  simp only [H2Observer.handleDataFrame]
  cases d' <;> repeat' split
  all_goals simp

@[simp] theorem hpackDecoder_handleWindowUpdate (frame : FrameHeader) :
    (self.handleWindowUpdate d' frame).2.hpackDecoder d = self.hpackDecoder d := by
  simp only [H2Observer.handleWindowUpdate]
  repeat' split
  all_goals rfl

theorem hpackDecoder_perform (frame : FrameHeader) (action : FrameAction) :
    (self.perform d' frame action).2.hpackDecoder d =
      match action with
      | .complete _ _ block _ =>
        if d = d' then (hpack.decode (self.hpackDecoder d') block).1 else self.hpackDecoder d
      | _ => self.hpackDecoder d := by
  cases action with
  | complete streamId flags block fromSlot =>
    cases fromSlot <;> simp [H2Observer.perform, hpackDecoder_handleCompleteHeaders]
  | _ => simp [H2Observer.perform]

end Decoders

/-! ## The slot -/

section Slot

variable (self : H2Observer hpack) (d d' : H2FrameDirection)

@[simp] theorem heldFor_setStream (streamId : Nat) (st : Option StreamState) :
    (self.setStream streamId st).heldFor d = self.heldFor d := rfl

@[simp] theorem heldFor_setHpackDecoder (state : hpack.State) :
    (self.setHpackDecoder d' state).heldFor d = self.heldFor d := by
  cases d' <;> rfl

@[simp] theorem heldFor_clearSlot : self.clearSlot.heldFor d = none := rfl

/-- The one slot: holding a block of one direction forgets the other's. -/
theorem heldFor_setSlot (held : PartialHeadersState) :
    (self.setSlot d' held).heldFor d = if d = d' then some held else none := by
  simp [H2Observer.heldFor, H2Observer.setSlot, eq_comm]

@[simp] theorem heldFor_reportHeaders (streamId : Nat) (endStream : Bool)
    (headers : HeaderMap) (st : StreamState) :
    (self.reportHeaders d' streamId endStream headers st).2.heldFor d = self.heldFor d := by
  cases d' <;> simp only [H2Observer.reportHeaders] <;> repeat' split
  all_goals rfl

@[simp] theorem heldFor_handleCompleteHeaders (streamId : Nat) (flags : UInt8)
    (block : List UInt8) :
    (self.handleCompleteHeaders d' streamId flags block).2.heldFor d = self.heldFor d := by
  simp only [H2Observer.handleCompleteHeaders]
  split <;> simp

@[simp] theorem heldFor_handleDataFrame (frame : FrameHeader) :
    (self.handleDataFrame d' frame).2.heldFor d = self.heldFor d := by
  simp only [H2Observer.handleDataFrame]
  cases d' <;> repeat' split
  all_goals rfl

@[simp] theorem heldFor_handleWindowUpdate (frame : FrameHeader) :
    (self.handleWindowUpdate d' frame).2.heldFor d = self.heldFor d := by
  simp only [H2Observer.handleWindowUpdate]
  repeat' split
  all_goals rfl

theorem heldFor_perform (frame : FrameHeader) (action : FrameAction) :
    (self.perform d' frame action).2.heldFor d =
      match action with
      | .hold held => if d = d' then some held else none
      | .complete _ _ _ true => none
      | _ => self.heldFor d := by
  cases action with
  | hold held => exact heldFor_setSlot self d d' held
  | complete streamId flags block fromSlot => cases fromSlot <;> simp [H2Observer.perform]
  | _ => simp [H2Observer.perform]

/-- A direction that holds a block is the only one that does. -/
theorem heldFor_other {held : PartialHeadersState} (h : self.heldFor d = some held) :
    self.heldFor d.other = none := by
  simp only [H2Observer.heldFor] at h ⊢
  split at h
  · rename_i hdir
    rw [hdir]
    cases d <;> simp [H2FrameDirection.other]
  · cases h

end Slot

end OddBox.H2

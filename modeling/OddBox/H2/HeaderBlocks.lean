import OddBox.H2.Actions

/-!
The header blocks of a connection and what the decoders get to see of them. A
peer sends a block as a HEADERS or PUSH_PROMISE frame and its CONTINUATIONs
(`sentBlocks`); a decoder with a log records what it is fed. The observer has
one slot for an unfinished block of either direction and none for pushed
blocks, so a block reaches its decoder exactly if it came in a HEADERS frame
and the slot was not taken from it before it was complete.
-/

namespace OddBox.H2

variable {hpack : HpackDecoder}

/-! ## Blocks as sent -/

/-- A PUSH_PROMISE payload without padding and promised stream: the fragment
of the header block and whether END_HEADERS is set. -/
def parsePushPromisePayload (flags : UInt8) (payload : List UInt8) :
    Option (List UInt8 × Bool) :=
  match readPadLength flags payload with
  | none => none
  | some (padLen, cursor) =>
    if cursor.length < 4 + padLen then none
    else some ((cursor.drop 4).take (cursor.length - 4 - padLen), hasFlag flags 0x4)

/-- A header block as far as it has been sent. -/
structure OpenBlock where
  streamId : Nat
  flags : UInt8
  pushed : Bool
  fragment : List UInt8
  deriving DecidableEq, Repr

/-- The block that a frame starts, and whether the frame also ends it. -/
def FrameHeader.startBlock (frame : FrameHeader) : Option (OpenBlock × Bool) :=
  if frame.frameType = 0x1 then
    (parseHeadersPayload frame.flags frame.payload).map fun (block, ended) =>
      (⟨frame.streamId, frame.flags, false, block⟩, ended)
  else if frame.frameType = 0x5 then
    (parsePushPromisePayload frame.flags frame.payload).map fun (block, ended) =>
      (⟨frame.streamId, frame.flags, true, block⟩, ended)
  else none

/-- The block that a frame completes, and the block that is open after it. -/
def assembleFrame (held : Option OpenBlock) (frame : FrameHeader) :
    Option OpenBlock × Option OpenBlock :=
  match held with
  | some block =>
    if frame.continues block.streamId then
      let block := { block with fragment := block.fragment ++ frame.payload }
      if hasFlag frame.flags 0x4 then (some block, none) else (none, some block)
    else (none, some block)
  | none =>
    match frame.startBlock with
    | some (block, true) => (some block, none)
    | some (block, false) => (none, some block)
    | none => (none, none)

/-- The complete header blocks of one direction, in wire order. -/
def sentBlocks : Option OpenBlock → List FrameHeader → List OpenBlock
  | _, [] => []
  | held, frame :: frames =>
    let (completed, held) := assembleFrame held frame
    completed.toList ++ sentBlocks held frames

/-- Header blocks are contiguous: while one is open its direction sends
nothing but CONTINUATION frames of that block. -/
def ContiguousBlocks : Option OpenBlock → List FrameHeader → Prop
  | _, [] => True
  | held, frame :: frames =>
    (∀ block, held = some block → frame.continues block.streamId = true) ∧
      ContiguousBlocks (assembleFrame held frame).2 frames

/-! ## Which blocks the slot keeps -/

/-- A block and whether no HEADERS frame of the other direction has taken the
slot since the block was opened. -/
structure TrackedBlock where
  block : OpenBlock
  intact : Bool
  deriving DecidableEq, Repr

/-- The block came in a HEADERS frame and still has the slot. -/
def TrackedBlock.kept (tracked : TrackedBlock) : Bool :=
  tracked.intact && !tracked.block.pushed

/-- The open block of each direction. -/
abbrev BlockTracker := H2FrameDirection → Option TrackedBlock

/-- Follows one frame. A HEADERS frame that opens a block in one direction
takes the slot from the block that is open in the other. -/
def BlockTracker.track (tracker : BlockTracker) (direction : H2FrameDirection)
    (frame : FrameHeader) : Option TrackedBlock × BlockTracker :=
  let held := tracker direction
  let intact := (held.map (·.intact)).getD true
  let (completed, opened) := assembleFrame (held.map (·.block)) frame
  let takesSlot := held.isNone && frame.opensBlock
  (completed.map (⟨·, intact⟩), fun d =>
    if d = direction then opened.map (⟨·, intact⟩)
    else if takesSlot then (tracker d).map fun tracked => { tracked with intact := false }
    else tracker d)

/-- The complete header blocks of both directions with what became of them. -/
def headerBlocks : BlockTracker → List (H2FrameDirection × FrameHeader) →
    List (H2FrameDirection × TrackedBlock)
  | _, [] => []
  | tracker, (direction, frame) :: frames =>
    let (completed, tracker) := tracker.track direction frame
    completed.toList.map (direction, ·) ++ headerBlocks tracker frames

/-- Those of one direction. -/
def blocksOf (d : H2FrameDirection) (blocks : List (H2FrameDirection × TrackedBlock)) :
    List TrackedBlock :=
  (blocks.filter (·.1 = d)).map (·.2)

theorem blocksOf_tagged (d direction : H2FrameDirection) (completed : Option TrackedBlock)
    (blocks : List (H2FrameDirection × TrackedBlock)) :
    blocksOf d (completed.toList.map (direction, ·) ++ blocks) =
      (if direction = d then completed.toList else []) ++ blocksOf d blocks := by
  cases completed with
  | none => simp [blocksOf]
  | some tracked => by_cases h : direction = d <;> simp [blocksOf, h]

theorem track_completed (tracker : BlockTracker) (direction : H2FrameDirection)
    (frame : FrameHeader) : (tracker.track direction frame).1.map (·.block) =
      (assembleFrame ((tracker direction).map (·.block)) frame).1 := by
  simp only [BlockTracker.track]
  cases (assembleFrame ((tracker direction).map (·.block)) frame).1 <;> rfl

theorem track_opened (tracker : BlockTracker) (direction d : H2FrameDirection)
    (frame : FrameHeader) : ((tracker.track direction frame).2 d).map (·.block) =
      if d = direction then (assembleFrame ((tracker direction).map (·.block)) frame).2
      else (tracker d).map (·.block) := by
  simp only [BlockTracker.track]
  split
  · cases (assembleFrame ((tracker direction).map (·.block)) frame).2 <;> rfl
  · split
    · cases tracker d <;> rfl
    · rfl

/-- Following both directions at once finds the blocks that each one sent. -/
theorem headerBlocks_sent (d : H2FrameDirection) (tracker : BlockTracker)
    (frames : List (H2FrameDirection × FrameHeader)) :
    (blocksOf d (headerBlocks tracker frames)).map (·.block) =
      sentBlocks ((tracker d).map (·.block)) (framesOf d frames) := by
  induction frames generalizing tracker with
  | nil => rfl
  | cons tagged frames ih =>
    obtain ⟨direction, frame⟩ := tagged
    simp only [headerBlocks, blocksOf_tagged, List.map_append, ih, framesOf_cons, track_opened]
    by_cases h : direction = d
    · subst h
      simp only [if_true, sentBlocks, ← track_completed, ← Option.toList_map]
    · simp only [if_neg h, if_neg (Ne.symm h), List.map_nil, List.nil_append]

/-! ## What the decoders are fed -/

/-- A decoder that also keeps a log of the blocks it was fed. -/
def HpackDecoder.logged (hpack : HpackDecoder) : HpackDecoder where
  State := hpack.State × List (List UInt8)
  new := (hpack.new, [])
  decode state block :=
    let (next, fields) := hpack.decode state.1 block
    ((next, state.2 ++ [block]), fields)

def H2Observer.fed (self : H2Observer hpack.logged) (d : H2FrameDirection) :
    List (List UInt8) :=
  (self.hpackDecoder d).2

/-- The observer without its logs. -/
def H2Observer.unlog (self : H2Observer hpack.logged) : H2Observer hpack where
  connectionWindowSize := self.connectionWindowSize
  incoming := self.incoming
  outgoing := self.outgoing
  hpackDecoderIncoming := self.hpackDecoderIncoming.1
  hpackDecoderOutgoing := self.hpackDecoderOutgoing.1
  streams := self.streams
  partialHeaders := self.partialHeaders
  partialHeadersDirection := self.partialHeadersDirection

/-! ## The slot and the tracker agree -/

/-- What the slot holds of a block. -/
def TrackedBlock.slot (tracked : TrackedBlock) : Option PartialHeadersState :=
  if tracked.kept then
    some ⟨tracked.block.streamId, tracked.block.flags, tracked.block.fragment⟩
  else none

theorem slot_kept {tracked : TrackedBlock} (h : tracked.kept = true) : tracked.slot =
    some ⟨tracked.block.streamId, tracked.block.flags, tracked.block.fragment⟩ := by
  rw [TrackedBlock.slot, if_pos h]

theorem slot_lost {tracked : TrackedBlock} (h : tracked.kept = false) : tracked.slot = none := by
  simp [TrackedBlock.slot, h]

/-- The observer holds, for each direction, its open block if that is kept. -/
def SlotAgrees (self : H2Observer hpack) (tracker : BlockTracker) : Prop :=
  ∀ d, self.heldFor d = (tracker d).bind TrackedBlock.slot

/-- Actions that touch neither a decoder nor the slot. -/
def FrameAction.quiet : FrameAction → Bool
  | .hold _ | .complete .. => false
  | _ => true

theorem hpackDecoder_quiet (self : H2Observer hpack) (d d' : H2FrameDirection)
    (frame : FrameHeader) {action : FrameAction} (h : action.quiet = true) :
    (self.perform d' frame action).2.hpackDecoder d = self.hpackDecoder d := by
  rw [hpackDecoder_perform]
  cases action <;> first | rfl | cases h

theorem heldFor_quiet (self : H2Observer hpack) (d d' : H2FrameDirection)
    (frame : FrameHeader) {action : FrameAction} (h : action.quiet = true) :
    (self.perform d' frame action).2.heldFor d = self.heldFor d := by
  rw [heldFor_perform]
  cases action <;> first | rfl | cases h

/-- A frame that starts no block is quiet, and so is one that starts a pushed
block; a HEADERS frame is decoded at once or held. -/
theorem regularAction_startBlock (direction : H2FrameDirection) (frame : FrameHeader) :
    match frame.startBlock with
    | some (block, ended) =>
      if block.pushed then (frame.regularAction direction).quiet = true
      else frame.regularAction direction =
        if ended then .complete block.streamId block.flags block.fragment false
        else .hold ⟨block.streamId, block.flags, block.fragment⟩
    | none => (frame.regularAction direction).quiet = true := by
  by_cases hheaders : frame.frameType = 0x1
  · simp only [FrameHeader.startBlock, hheaders, if_true, FrameHeader.regularAction]
    cases parseHeadersPayload frame.flags frame.payload with
    | none => rfl
    | some parsed =>
      obtain ⟨block, ended⟩ := parsed
      cases ended <;> rfl
  · have hquiet : (frame.regularAction direction).quiet = true := by
      simp only [FrameHeader.regularAction]
      split
      case h_2 htype => exact absurd htype hheaders
      all_goals rfl
    by_cases hpush : frame.frameType = 0x5
    · simp only [FrameHeader.startBlock, hpush]
      cases parsePushPromisePayload frame.flags frame.payload with
      | none => exact hquiet
      | some parsed => exact hquiet
    · simp only [FrameHeader.startBlock, if_neg hheaders, if_neg hpush]
      exact hquiet

theorem opensBlock_startBlock (frame : FrameHeader) :
    frame.opensBlock = match frame.startBlock with
      | some (block, false) => !block.pushed
      | _ => false := by
  by_cases hheaders : frame.frameType = 0x1
  · simp only [FrameHeader.opensBlock, FrameHeader.startBlock, hheaders, if_true]
    cases parseHeadersPayload frame.flags frame.payload with
    | none => rfl
    | some parsed =>
      obtain ⟨block, ended⟩ := parsed
      cases ended <;> rfl
  · have hopens : frame.opensBlock = false := by simp [FrameHeader.opensBlock, hheaders]
    rw [hopens]
    by_cases hpush : frame.frameType = 0x5
    · simp only [FrameHeader.startBlock, hpush]
      cases parsePushPromisePayload frame.flags frame.payload with
      | none => rfl
      | some parsed =>
        obtain ⟨block, ended⟩ := parsed
        cases ended <;> rfl
    · simp only [FrameHeader.startBlock, if_neg hheaders, if_neg hpush]

theorem startBlock_continues {frame : FrameHeader} {streamId : Nat}
    (h : frame.continues streamId = true) : frame.startBlock = none := by
  rw [continues_iff] at h
  simp [FrameHeader.startBlock, h.1]

theorem fed_perform (self : H2Observer hpack.logged) (d d' : H2FrameDirection)
    (frame : FrameHeader) (action : FrameAction) :
    (self.perform d' frame action).2.fed d =
      match action with
      | .complete _ _ block _ => if d = d' then self.fed d ++ [block] else self.fed d
      | _ => self.fed d := by
  simp only [H2Observer.fed, hpackDecoder_perform]
  cases action with
  | complete streamId flags block fromSlot =>
    by_cases h : d = d'
    · subst h
      simp [HpackDecoder.logged]
    · simp [h]
  | _ => rfl

theorem fed_quiet (self : H2Observer hpack.logged) (d d' : H2FrameDirection)
    (frame : FrameHeader) {action : FrameAction} (h : action.quiet = true) :
    (self.perform d' frame action).2.fed d = self.fed d :=
  congrArg Prod.snd (hpackDecoder_quiet self d d' frame h)

/-- The log grows by the completed block, if the slot kept it. -/
def FedBy (before after : H2Observer hpack.logged) (direction : H2FrameDirection)
    (completed : Option TrackedBlock) : Prop :=
  ∀ d, after.fed d = before.fed d ++
    if d = direction then (completed.toList.filter TrackedBlock.kept).map (·.block.fragment)
    else []

theorem fedBy_quiet {self : H2Observer hpack.logged} {direction : H2FrameDirection}
    {frame : FrameHeader} {action : FrameAction} {completed : Option TrackedBlock}
    (h : action.quiet = true) (hlost : ∀ tracked ∈ completed, tracked.kept = false) :
    FedBy self (self.perform direction frame action).2 direction completed := by
  intro d
  have hnil : completed.toList.filter TrackedBlock.kept = [] := by
    cases completed with
    | none => rfl
    | some tracked => simp [hlost tracked rfl]
  rw [fed_quiet self d direction frame h, hnil]
  simp

theorem fedBy_complete {self : H2Observer hpack.logged} {direction : H2FrameDirection}
    {frame : FrameHeader} (tracked : TrackedBlock) (streamId : Nat) (flags : UInt8)
    (fromSlot : Bool) (hkept : tracked.kept = true) :
    FedBy self (self.perform direction frame
      (.complete streamId flags tracked.block.fragment fromSlot)).2 direction (some tracked) := by
  intro d
  rw [fed_perform]
  by_cases hd : d = direction <;> simp [hd, hkept]

/-- Continuing the open block of a direction. -/
theorem track_continues {tracker : BlockTracker} {direction : H2FrameDirection}
    {frame : FrameHeader} {tracked : TrackedBlock} (hopen : tracker direction = some tracked)
    (hcont : frame.continues tracked.block.streamId = true) :
    let block := { tracked.block with fragment := tracked.block.fragment ++ frame.payload }
    tracker.track direction frame =
      if hasFlag frame.flags 0x4 then
        (some ⟨block, tracked.intact⟩, fun d => if d = direction then none else tracker d)
      else (none, fun d => if d = direction then some ⟨block, tracked.intact⟩ else tracker d) := by
  simp only [BlockTracker.track, hopen, Option.map_some, assembleFrame, hcont, if_true,
    Option.isNone_some, Bool.false_and]
  cases hasFlag frame.flags 0x4 <;> simp

/-- Starting a block, or none, where the direction has none open. -/
theorem track_starts {tracker : BlockTracker} {direction : H2FrameDirection}
    {frame : FrameHeader} (hopen : tracker direction = none) :
    tracker.track direction frame =
      match frame.startBlock with
      | some (block, true) =>
        (some ⟨block, true⟩, fun d => if d = direction then none else tracker d)
      | some (block, false) => (none, fun d =>
          if d = direction then some ⟨block, true⟩
          else if block.pushed then tracker d
          else (tracker d).map fun tracked => { tracked with intact := false })
      | none => (none, fun d => if d = direction then none else tracker d) := by
  simp only [BlockTracker.track, hopen, Option.map_none, assembleFrame, Option.getD_none,
    Option.isNone_none, Bool.true_and, opensBlock_startBlock]
  cases hstart : frame.startBlock with
  | none => simp
  | some started =>
    obtain ⟨block, ended⟩ := started
    cases ended <;> cases hpush : block.pushed <;> simp [hpush]

/-- A frame keeps the slot and the tracker in agreement, and feeds the
decoder the block that the frame completes if that block is kept. -/
def Tracks (self : H2Observer hpack.logged) (tracker : BlockTracker)
    (direction : H2FrameDirection) (frame : FrameHeader) : Prop :=
  SlotAgrees (self.processFrame direction frame).2 (tracker.track direction frame).2 ∧
    FedBy self (self.processFrame direction frame).2 direction (tracker.track direction frame).1

section Tracks

variable {self : H2Observer hpack.logged} {tracker : BlockTracker}
  {direction : H2FrameDirection} {frame : FrameHeader}

/-- The slot is held for one direction only. -/
theorem heldFor_ne {held : PartialHeadersState} (hheld : self.heldFor direction = some held)
    {d : H2FrameDirection} (hd : d ≠ direction) : self.heldFor d = none := by
  have hother := heldFor_other self direction hheld
  cases d <;> cases direction <;> first | exact absurd rfl hd | exact hother

/-- Where the tracker has no block open and none is opened, a quiet frame leaves both as they
are. -/
theorem heldFor_closed (hagree : SlotAgrees self tracker)
    (hnone : self.heldFor direction = none) {action : FrameAction} (hquiet : action.quiet = true)
    (d : H2FrameDirection) :
    (self.perform direction frame action).2.heldFor d =
      (if d = direction then none else tracker d).bind TrackedBlock.slot := by
  rw [heldFor_quiet _ _ _ _ hquiet]
  by_cases hd : d = direction
  · simp [hd, hnone]
  · simp [hd, hagree d]

/-- The slot holds the open block, and the frame continues it. -/
theorem tracks_kept {tracked : TrackedBlock} (hagree : SlotAgrees self tracker)
    (hopen : tracker direction = some tracked)
    (hcontinues : frame.continues tracked.block.streamId = true)
    (hkept : tracked.kept = true) : Tracks self tracker direction frame := by
  let continued : TrackedBlock :=
    ⟨{ tracked.block with fragment := tracked.block.fragment ++ frame.payload }, tracked.intact⟩
  have hstill : continued.kept = true := hkept
  have hheld : self.heldFor direction = some
      ⟨tracked.block.streamId, tracked.block.flags, tracked.block.fragment⟩ := by
    rw [hagree direction, hopen]
    exact slot_kept hkept
  unfold Tracks
  rw [processFrame_perform, hheld, track_continues hopen hcontinues]
  simp only [FrameHeader.action, hcontinues, if_true]
  cases hasFlag frame.flags 0x4 with
  | true =>
    refine ⟨fun d => ?_, fedBy_complete continued _ _ _ hstill⟩
    rw [if_pos rfl, if_pos rfl, heldFor_perform]
    by_cases hd : d = direction
    · simp [hd]
    · simp [hd, ← hagree d, heldFor_ne hheld hd]
  | false =>
    refine ⟨fun d => ?_, fun d => ?_⟩
    · rw [heldFor_perform]
      by_cases hd : d = direction
      · simp only [Bool.false_eq_true, if_false, if_pos hd]
        exact (slot_kept hstill).symm
      · simp [hd, ← hagree d, heldFor_ne hheld hd]
    · rw [fed_perform]
      simp

/-- The open block has lost the slot: the observer takes the CONTINUATION for one out of
place. -/
theorem tracks_lost {tracked : TrackedBlock} (hagree : SlotAgrees self tracker)
    (hopen : tracker direction = some tracked)
    (hcontinues : frame.continues tracked.block.streamId = true)
    (hkept : tracked.kept = false) : Tracks self tracker direction frame := by
  have hquiet : (frame.regularAction direction).quiet = true := by
    have h := regularAction_startBlock direction frame
    rwa [startBlock_continues hcontinues] at h
  have hnone : self.heldFor direction = none := by
    rw [hagree direction, hopen]
    exact slot_lost hkept
  let continued : TrackedBlock :=
    ⟨{ tracked.block with fragment := tracked.block.fragment ++ frame.payload }, tracked.intact⟩
  have hlost : continued.kept = false := hkept
  unfold Tracks
  rw [processFrame_perform, hnone, track_continues hopen hcontinues]
  simp only [FrameHeader.action]
  cases hasFlag frame.flags 0x4 with
  | true =>
    refine ⟨heldFor_closed hagree hnone hquiet, fedBy_quiet hquiet ?_⟩
    simpa using hlost
  | false =>
    refine ⟨fun d => ?_, fedBy_quiet hquiet (by simp)⟩
    rw [heldFor_quiet _ _ _ _ hquiet]
    by_cases hd : d = direction
    · simp only [Bool.false_eq_true, if_false, if_pos hd]
      exact (hd ▸ hnone).trans (slot_lost hlost).symm
    · simp [hd, hagree d]

/-- A pushed block has no slot, and is lost from its first frame on. -/
theorem tracks_pushed {block : OpenBlock} {ended : Bool} (hagree : SlotAgrees self tracker)
    (hopen : tracker direction = none) (hstart : frame.startBlock = some (block, ended))
    (hpush : block.pushed = true) : Tracks self tracker direction frame := by
  have hnone : self.heldFor direction = none := by rw [hagree direction, hopen]; rfl
  have hquiet : (frame.regularAction direction).quiet = true := by
    have h := regularAction_startBlock direction frame
    simpa only [hstart, hpush, if_true] using h
  unfold Tracks
  rw [processFrame_perform, hnone, track_starts hopen, hstart]
  simp only [FrameHeader.action]
  cases ended with
  | true =>
    refine ⟨heldFor_closed hagree hnone hquiet, fedBy_quiet hquiet ?_⟩
    simp [TrackedBlock.kept, hpush]
  | false =>
    refine ⟨fun d => ?_, fedBy_quiet hquiet (by simp)⟩
    rw [heldFor_closed hagree hnone hquiet d]
    by_cases hd : d = direction
    · simp [hd, TrackedBlock.slot, TrackedBlock.kept, hpush]
    · simp [hd, hpush]

/-- A HEADERS frame is decoded at once, or takes the slot. -/
theorem tracks_started {block : OpenBlock} {ended : Bool} (hagree : SlotAgrees self tracker)
    (hopen : tracker direction = none) (hstart : frame.startBlock = some (block, ended))
    (hpush : block.pushed = false) : Tracks self tracker direction frame := by
  have hnone : self.heldFor direction = none := by rw [hagree direction, hopen]; rfl
  have haction : frame.regularAction direction =
      if ended then .complete block.streamId block.flags block.fragment false
      else .hold ⟨block.streamId, block.flags, block.fragment⟩ := by
    have h := regularAction_startBlock direction frame
    simpa only [hstart, hpush, Bool.false_eq_true, if_false] using h
  unfold Tracks
  rw [processFrame_perform, hnone, track_starts hopen, hstart]
  simp only [FrameHeader.action, haction]
  cases ended with
  | true =>
    have hkept : TrackedBlock.kept ⟨block, true⟩ = true := by
      simp [TrackedBlock.kept, hpush]
    refine ⟨fun d => ?_, fedBy_complete ⟨block, true⟩ _ _ _ hkept⟩
    simp only [if_true, heldFor_perform]
    by_cases hd : d = direction
    · simp [hd, hnone]
    · simp [hd, hagree d]
  | false =>
    refine ⟨fun d => ?_, fun d => ?_⟩
    · simp only [Bool.false_eq_true, if_false, heldFor_perform, hpush]
      by_cases hd : d = direction
      · simp [hd, TrackedBlock.slot, TrackedBlock.kept, hpush]
      · cases tracker d <;> simp [hd, TrackedBlock.slot, TrackedBlock.kept]
    · simp [fed_perform]

end Tracks

theorem processFrame_track {self : H2Observer hpack.logged} {tracker : BlockTracker}
    (direction : H2FrameDirection) (frame : FrameHeader) (hagree : SlotAgrees self tracker)
    (hcont : ∀ tracked, tracker direction = some tracked →
      frame.continues tracked.block.streamId = true) : Tracks self tracker direction frame := by
  cases hopen : tracker direction with
  | some tracked =>
    cases hkept : tracked.kept with
    | true => exact tracks_kept hagree hopen (hcont tracked hopen) hkept
    | false => exact tracks_lost hagree hopen (hcont tracked hopen) hkept
  | none =>
    cases hstart : frame.startBlock with
    | some started =>
      obtain ⟨block, ended⟩ := started
      cases hpush : block.pushed with
      | true => exact tracks_pushed hagree hopen hstart hpush
      | false => exact tracks_started hagree hopen hstart hpush
    | none =>
      -- a frame that starts no block is quiet
      have hquiet := regularAction_startBlock direction frame
      rw [hstart] at hquiet
      have hnone : self.heldFor direction = none := by rw [hagree direction, hopen]; rfl
      unfold Tracks
      rw [processFrame_perform, hnone, track_starts hopen, hstart]
      exact ⟨heldFor_closed hagree hnone hquiet, fedBy_quiet hquiet (by simp)⟩

/-! ## A whole run -/

theorem slotAgrees_new : SlotAgrees (H2Observer.new hpack) fun _ => none := fun _ => rfl

/-- Over a run each decoder is fed the blocks of its direction that are kept. -/
theorem observe_fed (d : H2FrameDirection) (self : H2Observer hpack.logged)
    (tracker : BlockTracker) (frames : List (H2FrameDirection × FrameHeader))
    (hagree : SlotAgrees self tracker)
    (hcont : ∀ direction,
      ContiguousBlocks ((tracker direction).map (·.block)) (framesOf direction frames)) :
    (self.observe frames).2.fed d = self.fed d ++
      ((blocksOf d (headerBlocks tracker frames)).filter TrackedBlock.kept).map
        (·.block.fragment) := by
  induction frames generalizing self tracker with
  | nil => simp [H2Observer.observe, headerBlocks, blocksOf]
  | cons tagged frames ih =>
    obtain ⟨direction, frame⟩ := tagged
    have hhere := hcont direction
    rw [framesOf_cons, if_pos rfl] at hhere
    obtain ⟨hagree', hfed⟩ := processFrame_track direction frame hagree
      fun tracked hopen => hhere.1 tracked.block (by simp [hopen])
    have hnext := ih (self.processFrame direction frame).2 (tracker.track direction frame).2
      hagree' (by
        intro direction'
        have h := hcont direction'
        rw [framesOf_cons] at h
        rw [track_opened]
        by_cases hd : direction = direction'
        · subst hd
          rw [if_pos rfl] at h ⊢
          exact h.2
        · rw [if_neg hd] at h
          rwa [if_neg (Ne.symm hd)])
    simp only [H2Observer.observe, headerBlocks, blocksOf_tagged, List.filter_append,
      List.map_append, hnext, hfed d, List.append_assoc]
    by_cases hd : direction = d
    · simp [hd]
    · simp [hd, Ne.symm hd]

/-- **When a decoder stays synchronised**: over every run of writes and polls,
and for each direction, the decoder is fed the header blocks that its direction
sent, in order and each once, if and only if every one of them came in a
HEADERS frame and, until it was complete, no HEADERS frame of the other
direction opened a block. -/
theorem fed_eq_sent_iff (hpack : HpackDecoder) (ops : List ObserverOp) (d : H2FrameDirection)
    (hframes : ∀ direction, ContiguousBlocks none
      (framesOf direction ((H2Observer.new hpack.logged).opsTrace ops))) :
    ((H2Observer.new hpack.logged).runOps ops).2.fed d =
        (sentBlocks none (framesOf d ((H2Observer.new hpack.logged).opsTrace ops))).map
          (·.fragment) ↔
      ∀ tracked ∈ blocksOf d (headerBlocks (fun _ => none)
        ((H2Observer.new hpack.logged).opsTrace ops)), tracked.kept = true := by
  let trace := (H2Observer.new hpack.logged).opsTrace ops
  let blocks := blocksOf d (headerBlocks (fun _ => none) trace)
  have hfed : ((H2Observer.new hpack.logged).runOps ops).2.fed d =
      (blocks.filter TrackedBlock.kept).map (·.block.fragment) := by
    obtain ⟨-, bufferIn, bufferOut, hlast⟩ := runOps_observe (H2Observer.new hpack.logged) ops
    have h := observe_fed d (H2Observer.new hpack.logged) (fun _ => none) trace slotAgrees_new
      hframes
    rw [hlast, H2Observer.fed, hpackDecoder_setBuffer, hpackDecoder_setBuffer]
    rw [H2Observer.fed] at h
    rw [h]
    cases d <;> rfl
  have hsent : (sentBlocks none (framesOf d trace)).map (·.fragment) =
      blocks.map (·.block.fragment) := by
    have h := headerBlocks_sent d (fun _ => none) trace
    rw [Option.map_none] at h
    rw [← h, List.map_map]
    rfl
  rw [hfed, hsent]
  constructor
  · intro h
    have hlen := congrArg List.length h
    simp only [List.length_map, List.length_filter_eq_length_iff] at hlen
    exact hlen
  · intro h
    rw [List.filter_eq_self.mpr h]

instance decidableContiguousBlocks : ∀ (held : Option OpenBlock) (frames : List FrameHeader),
    Decidable (ContiguousBlocks held frames)
  | _, [] => isTrue trivial
  | held, frame :: frames =>
    have := decidableContiguousBlocks (assembleFrame held frame).2 frames
    inferInstanceAs (Decidable (_ ∧ _))

/-- A request in one frame, answered by a block in two. -/
def continuedExchange : List ObserverOp :=
  [.write .incoming (preface ++ encodeFrame false ⟨0x1, 0x5, 1, [0x82]⟩), .poll .incoming,
    .write .outgoing (encodeFrame false ⟨0x1, 0x1, 1, [0x88]⟩), .poll .outgoing,
    .write .outgoing (encodeFrame false ⟨0x9, 0x4, 1, [0xB6]⟩), .poll .outgoing]

theorem fed_eq_sent_continuedExchange :
    ((H2Observer.new staticHpack.logged).runOps continuedExchange).2.fed .outgoing =
      (sentBlocks none (framesOf .outgoing
        ((H2Observer.new staticHpack.logged).opsTrace continuedExchange))).map (·.fragment) :=
  (fed_eq_sent_iff staticHpack continuedExchange .outgoing
    (fun | .incoming => by decide | .outgoing => by decide)).mpr (by decide)

/-- The client's next request is continued while the server's block is. -/
def overlappingBlocks : List ObserverOp :=
  [.write .incoming (preface ++ encodeFrame false ⟨0x1, 0x5, 1, [0x82]⟩), .poll .incoming,
    .write .outgoing (encodeFrame false ⟨0x1, 0x1, 1, [0x88]⟩), .poll .outgoing,
    .write .incoming (encodeFrame false ⟨0x1, 0x1, 3, [0x82]⟩), .poll .incoming,
    .write .outgoing (encodeFrame false ⟨0x9, 0x4, 1, [0xB6]⟩), .poll .outgoing,
    .write .incoming (encodeFrame false ⟨0x9, 0x4, 3, [0x84]⟩), .poll .incoming]

/-- Header blocks are contiguous in both directions, and the server's block
never reaches its decoder. -/
theorem overlappingBlocks_desynchronised :
    (ContiguousBlocks none (framesOf .incoming
        ((H2Observer.new staticHpack.logged).opsTrace overlappingBlocks)) ∧
      ContiguousBlocks none (framesOf .outgoing
        ((H2Observer.new staticHpack.logged).opsTrace overlappingBlocks))) ∧
    (sentBlocks none (framesOf .outgoing
        ((H2Observer.new staticHpack.logged).opsTrace overlappingBlocks))).map (·.fragment) =
      [[0x88, 0xB6]] ∧
    ((H2Observer.new staticHpack.logged).runOps overlappingBlocks).2.fed .outgoing = [] := by
  decide

/-! ## The log changes nothing -/

section Unlog

variable (self : H2Observer hpack.logged) (d : H2FrameDirection)

theorem unlog_setBuffer (b : H2Buffer) :
    (self.setBuffer d b).unlog = self.unlog.setBuffer d b := by
  cases d <;> rfl

theorem unlog_buffer : self.unlog.buffer d = self.buffer d := by
  cases d <;> rfl

theorem unlog_heldFor : self.unlog.heldFor d = self.heldFor d := rfl

theorem unlog_hpackDecoder : self.unlog.hpackDecoder d = (self.hpackDecoder d).1 := by
  cases d <;> rfl

theorem unlog_setHpackDecoder (state : hpack.logged.State) :
    (self.setHpackDecoder d state).unlog = self.unlog.setHpackDecoder d state.1 := by
  cases d <;> rfl

theorem unlog_reportHeaders (streamId : Nat) (endStream : Bool) (headers : HeaderMap)
    (st : StreamState) :
    self.unlog.reportHeaders d streamId endStream headers st =
      ((self.reportHeaders d streamId endStream headers st).1,
        (self.reportHeaders d streamId endStream headers st).2.unlog) := by
  cases d <;> simp only [H2Observer.reportHeaders] <;> repeat' split
  all_goals rfl

theorem unlog_afterDecode (streamId : Nat) (flags : UInt8)
    (decoded : Option (List (List UInt8 × List UInt8))) :
    self.unlog.afterDecode d streamId flags decoded =
      ((self.afterDecode d streamId flags decoded).1,
        (self.afterDecode d streamId flags decoded).2.unlog) := by
  cases decoded with
  | none => rfl
  | some fields =>
    let st := { self.entry streamId with headers := some (headersMap fields) }
    have hreport := unlog_reportHeaders (self.setStream streamId (some st)) d streamId
      (hasFlag flags 0x1) (headersMap fields) st
    obtain ⟨hevent, hnext⟩ := Prod.ext_iff.mp hreport
    exact Prod.ext (congrArg some hevent) hnext

theorem unlog_handleCompleteHeaders (streamId : Nat) (flags : UInt8) (block : List UInt8) :
    self.unlog.handleCompleteHeaders d streamId flags block =
      ((self.handleCompleteHeaders d streamId flags block).1,
        (self.handleCompleteHeaders d streamId flags block).2.unlog) := by
  rw [handleCompleteHeaders_eq, handleCompleteHeaders_eq, ← unlog_afterDecode,
    unlog_setHpackDecoder, unlog_hpackDecoder]
  rfl

theorem unlog_handleDataFrame (frame : FrameHeader) :
    self.unlog.handleDataFrame d frame =
      ((self.handleDataFrame d frame).1, (self.handleDataFrame d frame).2.unlog) := by
  have hentry : self.unlog.entry frame.streamId = self.entry frame.streamId := rfl
  simp only [H2Observer.handleDataFrame, hentry]
  cases d <;> repeat' split
  all_goals rfl

theorem unlog_handleWindowUpdate (frame : FrameHeader) :
    self.unlog.handleWindowUpdate d frame =
      ((self.handleWindowUpdate d frame).1, (self.handleWindowUpdate d frame).2.unlog) := by
  have hentry : self.unlog.entry frame.streamId = self.entry frame.streamId := rfl
  simp only [H2Observer.handleWindowUpdate, hentry]
  repeat' split
  all_goals rfl

theorem unlog_processFrame (frame : FrameHeader) :
    self.unlog.processFrame d frame =
      ((self.processFrame d frame).1, (self.processFrame d frame).2.unlog) := by
  rw [processFrame_perform, processFrame_perform, unlog_heldFor]
  cases frame.action d (self.heldFor d) with
  | hold held => rfl
  | complete streamId flags block fromSlot =>
    cases fromSlot
    · exact unlog_handleCompleteHeaders self d streamId flags block
    · exact unlog_handleCompleteHeaders self.clearSlot d streamId flags block
  | data => simp only [H2Observer.perform, unlog_handleDataFrame]
  | windowUpdate => simp only [H2Observer.perform, unlog_handleWindowUpdate]
  | report event => rfl

theorem unlog_pollOneFrame :
    self.unlog.pollOneFrame d = ((self.pollOneFrame d).1, (self.pollOneFrame d).2.unlog) := by
  rw [pollOneFrame_eq, pollOneFrame_eq, unlog_buffer]
  cases parseNextFrame (self.buffer d).buffer with
  | none => rfl
  | some taken => simp only [← unlog_setBuffer, unlog_processFrame]

end Unlog

/-- The observer whose decoders are logged reports what the observer reports. -/
theorem runOps_logged (ops : List ObserverOp) :
    ((H2Observer.new hpack.logged).runOps ops).1 = ((H2Observer.new hpack).runOps ops).1 := by
  suffices h : ∀ self : H2Observer hpack.logged,
      (self.runOps ops).1 = (self.unlog.runOps ops).1 from
    h (H2Observer.new hpack.logged)
  intro self
  induction ops generalizing self with
  | nil => rfl
  | cons op ops ih =>
    cases op with
    | write d data =>
      have hwrite : (self.write d data).unlog = self.unlog.write d data := by
        rw [H2Observer.write, unlog_setBuffer, H2Observer.write, unlog_buffer]
      simp only [H2Observer.runOps, ih, hwrite]
    | poll d => simp only [H2Observer.runOps, unlog_pollOneFrame, ih]

end OddBox.H2

import OddBox.H2.Noninterference
import OddBox.H2.HeaderBlocks
import OddBox.Machine

/-!
The stream table against the life cycle of the streams. `LifeCycles` follows the frames of both
directions by the rules of HTTP/2: a stream is closed once both peers have ended it or one has
reset it. The observer removes an entry only when it reports the stream as a request or a
response, so what it keeps depends on how a stream comes to its end.
-/

namespace OddBox.H2

variable {hpack : HpackDecoder}

/-! ## Life cycles -/

structure LifeCycles where
  /-- The header block that each direction has open. -/
  held : H2FrameDirection → Option OpenBlock
  opened : Nat → Bool
  newest : Nat
  ended : H2FrameDirection → Nat → Bool
  reset : H2FrameDirection → Nat → Bool

def LifeCycles.start : LifeCycles where
  held _ := none
  opened _ := false
  newest := 0
  ended _ _ := false
  reset _ _ := false

/-- END_STREAM from both sides, or RST_STREAM from one. -/
def LifeCycles.closed (life : LifeCycles) (streamId : Nat) : Bool :=
  (life.ended .incoming streamId && life.ended .outgoing streamId) ||
    life.reset .incoming streamId || life.reset .outgoing streamId

def LifeCycles.hold (life : LifeCycles) (direction : H2FrameDirection) (held : Option OpenBlock) :
    LifeCycles :=
  { life with held := Function.update life.held direction held }

def LifeCycles.openStream (life : LifeCycles) (streamId : Nat) : LifeCycles :=
  { life with
    opened := Function.update life.opened streamId true
    newest := max life.newest streamId }

def LifeCycles.endStream (life : LifeCycles) (direction : H2FrameDirection) (streamId : Nat) :
    LifeCycles :=
  { life with
    ended := Function.update life.ended direction
      (Function.update (life.ended direction) streamId true) }

def LifeCycles.resetStream (life : LifeCycles) (direction : H2FrameDirection) (streamId : Nat) :
    LifeCycles :=
  { life with
    reset := Function.update life.reset direction
      (Function.update (life.reset direction) streamId true) }

/-- A DATA frame with END_STREAM. -/
def FrameHeader.endsData (frame : FrameHeader) : Bool :=
  frame.frameType == 0x0 &&
    match parseDataPayload frame.flags frame.payload with
    | some (_, endStream) => endStream
    | none => false

def FrameHeader.isRstStream (frame : FrameHeader) : Bool :=
  frame.frameType == 0x3 && frame.payload.length == 4

/-- The END_STREAM of a header block counts once the block is complete. -/
def LifeCycles.receive (life : LifeCycles) (direction : H2FrameDirection) (frame : FrameHeader) :
    LifeCycles :=
  let (completed, held) := assembleFrame (life.held direction) frame
  let life := life.hold direction held
  match completed with
  | some block =>
    if block.pushed then life
    else
      let life := life.openStream block.streamId
      if hasFlag block.flags 0x1 then life.endStream direction block.streamId else life
  | none =>
    if frame.endsData then life.endStream direction frame.streamId
    else if frame.isRstStream then life.resetStream direction frame.streamId
    else life

/-- Whether a peer may still send headers and data on a stream. -/
def LifeCycles.sends (life : LifeCycles) (direction : H2FrameDirection) (streamId : Nat) : Bool :=
  life.opened streamId && !life.ended direction streamId && !life.reset direction streamId

/-- The client opens streams with odd identifiers, in rising order. -/
def LifeCycles.opens (life : LifeCycles) (direction : H2FrameDirection) (streamId : Nat) : Bool :=
  direction == .incoming && streamId % 2 == 1 && decide (life.newest < streamId)

/-- The frames that may come next on a connection without server push. -/
def LifeCycles.allows (life : LifeCycles) (direction : H2FrameDirection) (frame : FrameHeader) :
    Bool :=
  match life.held direction with
  | some block => frame.continues block.streamId
  | none =>
    match frame.frameType with
    | 0x0 => life.sends direction frame.streamId &&
        (parseDataPayload frame.flags frame.payload).isSome
    | 0x1 => (life.opens direction frame.streamId || life.sends direction frame.streamId) &&
        (parseHeadersPayload frame.flags frame.payload).isSome
    | 0x2 => frame.streamId != 0 && frame.payload.length == 5
    | 0x3 => life.opened frame.streamId && frame.payload.length == 4
    | 0x4 => frame.streamId == 0 && frame.payload.length % 6 == 0
    | 0x5 => false
    | 0x6 => frame.streamId == 0 && frame.payload.length == 8
    | 0x7 => frame.streamId == 0 && decide (8 ≤ frame.payload.length)
    | 0x8 => (frame.streamId == 0 || life.opened frame.streamId) && frame.payload.length == 4
    | 0x9 => false
    | _ => true

/-- A connection as the peers may send it, in the order in which its frames are taken. -/
def WellFormed (frames : List (H2FrameDirection × FrameHeader)) : Prop :=
  Machine.Meets (fun life (frame : H2FrameDirection × FrameHeader) => life.receive frame.1 frame.2)
    (fun life frame => life.allows frame.1 frame.2 = true) LifeCycles.start frames

instance (frames : List (H2FrameDirection × FrameHeader)) : Decidable (WellFormed frames) :=
  inferInstanceAs (Decidable (Machine.Meets _ _ _ _))

section Closed

variable (life : LifeCycles) (direction : H2FrameDirection) (streamId s : Nat)

@[simp] theorem closed_hold (held : Option OpenBlock) :
    (life.hold direction held).closed s = life.closed s := rfl

@[simp] theorem closed_openStream : (life.openStream streamId).closed s = life.closed s := rfl

variable {streamId s}

theorem closed_endStream (h : s ≠ streamId) :
    (life.endStream direction streamId).closed s = life.closed s := by
  cases direction <;> simp [LifeCycles.closed, LifeCycles.endStream, h]

theorem closed_resetStream (h : s ≠ streamId) :
    (life.resetStream direction streamId).closed s = life.closed s := by
  cases direction <;> simp [LifeCycles.closed, LifeCycles.resetStream, h]

theorem startBlock_stream {frame : FrameHeader} {block : OpenBlock} {ended : Bool}
    (h : frame.startBlock = some (block, ended)) : block.streamId = frame.streamId := by
  simp only [FrameHeader.startBlock] at h
  split at h
  · obtain ⟨parsed, -, hparsed⟩ := Option.map_eq_some_iff.mp h
    cases hparsed
    rfl
  · split at h
    · obtain ⟨parsed, -, hparsed⟩ := Option.map_eq_some_iff.mp h
      cases hparsed
      rfl
    · cases h

/-- A block is completed on the stream of the frame that completes it. -/
theorem assembleFrame_stream {held : Option OpenBlock} {frame : FrameHeader} {block : OpenBlock}
    (h : (assembleFrame held frame).1 = some block) : block.streamId = frame.streamId := by
  cases held with
  | some before =>
    simp only [assembleFrame] at h
    split at h
    · rename_i hcontinues
      split at h
      · cases h
        exact (continues_iff.mp hcontinues).2.symm
      · cases h
    · cases h
  | none =>
    simp only [assembleFrame] at h
    split at h
    · rename_i hstart
      cases h
      exact startBlock_stream hstart
    · cases h
    · cases h

/-- A frame closes no stream but its own. -/
theorem closed_receive {frame : FrameHeader} (h : s ≠ frame.streamId) :
    (life.receive direction frame).closed s = life.closed s := by
  simp only [LifeCycles.receive]
  cases hcompleted : (assembleFrame (life.held direction) frame).1 with
  | some block =>
    have hstream := assembleFrame_stream hcompleted
    rw [← hstream] at h
    simp only
    split
    · rfl
    · split
      · rw [closed_endStream _ _ h, closed_openStream, closed_hold]
      · rfl
  | none =>
    simp only
    split
    · rw [closed_endStream _ _ h, closed_hold]
    · split
      · rw [closed_resetStream _ _ h, closed_hold]
      · rfl

end Closed

/-! ## The entry of one stream -/

/-- The branches of `handle_complete_headers` that remove the entry. -/
def removesAtHeaders (direction : H2FrameDirection) (endStream : Bool) (headers : HeaderMap) :
    Bool :=
  match direction with
  | .incoming => endStream && !isContinuousStream headers
  | .outgoing =>
    endStream && if headers.containsKey ":method" then !isContinuousStream headers
      else headers.containsKey ":status"

/-- The branches of `handle_data_frame` that remove the entry. -/
def removesAtData (direction : H2FrameDirection) (endStream : Bool) (headers : Option HeaderMap) :
    Bool :=
  match headers with
  | some headers =>
    match direction with
    | .incoming => endStream && !isContinuousStream headers
    | .outgoing =>
      endStream && (headers.containsKey ":method" || headers.containsKey ":status")
  | none => false

/-- Whether the frame takes a branch behind which its stream has no entry. -/
def H2Observer.forgets (self : H2Observer hpack) (direction : H2FrameDirection)
    (frame : FrameHeader) : Bool :=
  let absent := (self.streams frame.streamId).isNone
  match frame.action direction (self.heldFor direction) with
  | .hold _ => absent
  | .complete _ flags block _ =>
    match (hpack.decode (self.hpackDecoder direction) block).2 with
    | some fields => removesAtHeaders direction (hasFlag flags 0x1) (headersMap fields)
    | none => absent
  | .data =>
    match parseDataPayload frame.flags frame.payload with
    | some (_, endStream) =>
      removesAtData direction endStream (self.entry frame.streamId).headers
    | none => absent
  | .windowUpdate => (frame.streamId == 0 || frame.payload.length != 4) && absent
  | .report _ => absent

/-- A change of the entry of one stream. -/
structure EntrySet (before after : H2Observer hpack) (streamId : Nat) (absent : Bool) : Prop where
  here : after.streams streamId = none ↔ absent = true
  others : ∀ s, s ≠ streamId → after.streams s = before.streams s

section Entries

variable (self : H2Observer hpack) (d : H2FrameDirection) (streamId : Nat)

@[simp] theorem streams_setHpackDecoder (state : hpack.State) :
    (self.setHpackDecoder d state).streams = self.streams := by
  cases d <;> rfl

theorem entrySet_same :
    EntrySet self self streamId (self.streams streamId).isNone :=
  ⟨Option.isNone_iff_eq_none.symm, fun _ _ => rfl⟩

theorem entrySet_some (st : StreamState) :
    EntrySet self (self.setStream streamId (some st)) streamId false where
  here := by simp [H2Observer.setStream]
  others s h := by simp [H2Observer.setStream, h]

theorem EntrySet.remove {before after : H2Observer hpack} {streamId : Nat} {absent : Bool}
    (h : EntrySet before after streamId absent) :
    EntrySet before (after.setStream streamId none) streamId true where
  here := by simp [H2Observer.setStream]
  others s hs := by
    rw [← h.others s hs]
    simp [H2Observer.setStream, hs]

theorem reportHeaders_entry {before : H2Observer hpack} (endStream : Bool) (headers : HeaderMap)
    (st : StreamState) (h : EntrySet before self streamId false) :
    EntrySet before (self.reportHeaders d streamId endStream headers st).2 streamId
      (removesAtHeaders d endStream headers) := by
  simp only [H2Observer.reportHeaders, removesAtHeaders]
  cases d with
  | incoming =>
    cases hremoved : endStream && !isContinuousStream headers with
    | true => exact h.remove
    | false => exact h
  | outgoing =>
    cases headers.containsKey ":method" with
    | true =>
      simp only [if_true]
      cases hremoved : endStream && !isContinuousStream headers with
      | true => exact h.remove
      | false => exact h
    | false =>
      simp only [Bool.false_eq_true, if_false]
      cases headers.containsKey ":status" with
      | true =>
        cases endStream with
        | true => exact h.remove
        | false => exact h
      | false =>
        rw [Bool.and_false]
        exact h

theorem afterDecode_entry (flags : UInt8) (decoded : Option (List (List UInt8 × List UInt8))) :
    EntrySet self (self.afterDecode d streamId flags decoded).2 streamId
      (match decoded with
      | some fields => removesAtHeaders d (hasFlag flags 0x1) (headersMap fields)
      | none => (self.streams streamId).isNone) := by
  cases decoded with
  | none => exact entrySet_same self streamId
  | some fields => exact reportHeaders_entry _ d streamId _ _ _ (entrySet_some self streamId _)

theorem handleDataFrame_entry (frame : FrameHeader) :
    EntrySet self (self.handleDataFrame d frame).2 frame.streamId
      (match parseDataPayload frame.flags frame.payload with
      | some (_, endStream) => removesAtData d endStream (self.entry frame.streamId).headers
      | none => (self.streams frame.streamId).isNone) := by
  simp only [H2Observer.handleDataFrame]
  cases parseDataPayload frame.flags frame.payload with
  | none => exact entrySet_same self frame.streamId
  | some parsed =>
    obtain ⟨data, endStream⟩ := parsed
    cases hentry : self.entry frame.streamId with
    | mk headers body window =>
      have hset := entrySet_some self frame.streamId ⟨headers, body ++ data, window⟩
      cases headers with
      | none => exact hset
      | some headers =>
        cases endStream with
        | false => cases d <;> exact hset
        | true =>
          simp only [if_true, removesAtData, Bool.true_and]
          cases d with
          | incoming =>
            cases isContinuousStream headers with
            | true => exact hset
            | false => exact hset.remove
          | outgoing =>
            cases headers.containsKey ":method" with
            | true => exact hset.remove
            | false =>
              cases headers.containsKey ":status" with
              | true => exact hset.remove
              | false => exact hset

theorem handleWindowUpdate_entry (frame : FrameHeader) :
    EntrySet self (self.handleWindowUpdate d frame).2 frame.streamId
      ((frame.streamId == 0 || frame.payload.length != 4) &&
        (self.streams frame.streamId).isNone) := by
  simp only [H2Observer.handleWindowUpdate]
  split
  · rename_i p0 p1 p2 p3 hpayload
    simp only [hpayload, List.length_cons, List.length_nil]
    split
    · rename_i hzero
      simp only [hzero, beq_self_eq_true, Bool.true_or, Bool.true_and]
      exact ⟨Option.isNone_iff_eq_none.symm, fun _ _ => rfl⟩
    · rename_i hzero
      simp only [beq_eq_false_iff_ne.mpr hzero, bne_self_eq_false, Bool.or_false, Bool.false_and]
      exact entrySet_some self frame.streamId _
  · rename_i hpayload
    have hlength : frame.payload.length ≠ 4 := by
      intro hlength
      obtain ⟨p0, p1, p2, p3, hfour⟩ := List.length_eq_four.mp hlength
      exact hpayload p0 p1 p2 p3 hfour
    rw [bne_iff_ne.mpr hlength, Bool.or_true, Bool.true_and]
    exact entrySet_same self frame.streamId

/-- One frame: the entry of its stream is gone exactly in the branches of `forgets`, and the
others are as before. -/
theorem processFrame_entry (frame : FrameHeader) :
    EntrySet self (self.processFrame d frame).2 frame.streamId (self.forgets d frame) := by
  rw [processFrame_perform, H2Observer.forgets]
  cases haction : frame.action d (self.heldFor d) with
  | hold held => exact ⟨Option.isNone_iff_eq_none.symm, fun _ _ => rfl⟩
  | complete streamId flags block fromSlot =>
    obtain ⟨rfl, -⟩ := action_complete haction
    have hcomplete : ∀ self' : H2Observer hpack, self'.hpackDecoder d = self.hpackDecoder d →
        self'.streams = self.streams →
        EntrySet self (self'.handleCompleteHeaders d frame.streamId flags block).2 frame.streamId
          (match (hpack.decode (self.hpackDecoder d) block).2 with
          | some fields => removesAtHeaders d (hasFlag flags 0x1) (headersMap fields)
          | none => (self.streams frame.streamId).isNone) := by
      intro self' hdecoder hstreams
      have hentry := afterDecode_entry
        (self'.setHpackDecoder d (hpack.decode (self.hpackDecoder d) block).1) d frame.streamId
        flags (hpack.decode (self.hpackDecoder d) block).2
      rw [handleCompleteHeaders_eq, hdecoder]
      rw [streams_setHpackDecoder, hstreams] at hentry
      refine ⟨hentry.here, fun s hs => (hentry.others s hs).trans ?_⟩
      rw [streams_setHpackDecoder, hstreams]
    cases fromSlot with
    | false => exact hcomplete self rfl rfl
    | true => exact hcomplete self.clearSlot (hpackDecoder_clearSlot self d) rfl
  | data => exact handleDataFrame_entry self d frame
  | windowUpdate => exact handleWindowUpdate_entry self d frame
  | report event => exact entrySet_same self frame.streamId

end Entries

/-! ## Runs -/

/-- The observer and the life cycles of the frames that the polls have taken. -/
structure Watched (hpack : HpackDecoder) where
  observer : H2Observer hpack
  life : LifeCycles

def Watched.start (hpack : HpackDecoder) : Watched hpack := ⟨H2Observer.new hpack, .start⟩

def Watched.step (watched : Watched hpack) : ObserverOp → Watched hpack
  | .write direction data => { watched with observer := watched.observer.write direction data }
  | .poll direction => {
      observer := (watched.observer.pollOneFrame direction).2
      life := match watched.observer.nextFrame direction with
        | some frame => watched.life.receive direction frame
        | none => watched.life }

def watch (hpack : HpackDecoder) (ops : List ObserverOp) : Watched hpack :=
  Machine.run Watched.step (.start hpack) ops

/-- A closed stream has no entry in the table. -/
def Watched.Pruned (watched : Watched hpack) : Prop :=
  ∀ s, watched.life.closed s = true → watched.observer.streams s = none

/-- A frame with which its stream is closed, or was closed before, takes a branch behind which
the stream has no entry. -/
def Watched.Proper (watched : Watched hpack) : ObserverOp → Prop
  | .write .. => True
  | .poll direction => ∀ frame ∈ watched.observer.nextFrame direction,
      (watched.life.receive direction frame).closed frame.streamId = true →
        watched.observer.forgets direction frame = true

/-- The observer of the run, and the life cycles of its trace. -/
theorem watch_eq (hpack : HpackDecoder) (ops : List ObserverOp) :
    watch hpack ops = ⟨((H2Observer.new hpack).runOps ops).2, Machine.run
      (fun life (frame : H2FrameDirection × FrameHeader) => life.receive frame.1 frame.2) .start
      ((H2Observer.new hpack).opsTrace ops)⟩ := by
  suffices h : ∀ watched : Watched hpack, Machine.run Watched.step watched ops =
      ⟨(watched.observer.runOps ops).2, Machine.run
        (fun life (frame : H2FrameDirection × FrameHeader) => life.receive frame.1 frame.2)
        watched.life (watched.observer.opsTrace ops)⟩ from h (.start hpack)
  intro watched
  induction ops generalizing watched with
  | nil => rfl
  | cons op ops ih =>
    rw [Machine.run_cons, ih]
    cases op with
    | write direction data => rfl
    | poll direction =>
      simp only [H2Observer.opsTrace, H2Observer.runOps, Machine.run_append, Watched.step]
      cases watched.observer.nextFrame direction with
      | none => rfl
      | some frame => rfl

@[simp] theorem forgets_setBuffer (self : H2Observer hpack) (d d' : H2FrameDirection)
    (b : H2Buffer) (frame : FrameHeader) :
    (self.setBuffer d b).forgets d' frame = self.forgets d' frame := by
  have hheld : (self.setBuffer d b).heldFor d' = self.heldFor d' := by cases d <;> rfl
  simp only [H2Observer.forgets, hheld, hpackDecoder_setBuffer, streams_setBuffer,
    entry_setBuffer]

/-- One write or poll keeps the table pruned exactly under the condition. -/
theorem pruned_step_iff {watched : Watched hpack} (h : watched.Pruned) (op : ObserverOp) :
    (watched.step op).Pruned ↔ watched.Proper op := by
  obtain ⟨observer, life⟩ := watched
  cases op with
  | write direction data =>
    refine iff_of_true (fun s hclosed => ?_) trivial
    simp only [Watched.step, H2Observer.write, streams_setBuffer]
    exact h s hclosed
  | poll direction =>
    simp only [Watched.step, Watched.Proper, Watched.Pruned, pollOneFrame_eq, H2Observer.nextFrame]
    cases parseNextFrame (observer.buffer direction).buffer with
    | none => exact iff_of_true h fun frame hframe => by cases hframe
    | some taken =>
      obtain ⟨frame, rest⟩ := taken
      have hentry := processFrame_entry
        (observer.setBuffer direction { observer.buffer direction with buffer := rest })
        direction frame
      rw [forgets_setBuffer] at hentry
      simp only [Option.map_some, Option.mem_some_iff, forall_eq']
      rw [← hentry.here]
      constructor
      · exact fun hall => hall frame.streamId
      · intro hhere s hclosed
        by_cases hs : s = frame.streamId
        · rw [hs] at hclosed ⊢
          exact hhere hclosed
        · rw [hentry.others s hs, streams_setBuffer]
          rw [closed_receive life direction hs] at hclosed
          exact h s hclosed

/-- For all writes and polls in any order: no closed stream has an entry in any state of the run
if and only if every poll meets the condition. -/
theorem closed_streams_forgotten_iff (hpack : HpackDecoder) (ops : List ObserverOp) :
    (∀ first, first <+: ops → (watch hpack first).Pruned) ↔
      Machine.Meets Watched.step Watched.Proper (.start hpack) ops := by
  apply Machine.meets_iff (J := fun _ => True)
  · exact fun _ _ _ => trivial
  · exact fun _ op _ h => pruned_step_iff h op
  · trivial
  · intro s hclosed
    cases hclosed

/-! ## A window update -/

/-- The static table with the scheme of a request. -/
def schemeTable (index : Nat) : Option (List UInt8 × List UInt8) :=
  if index = 6 then some ([58, 115, 99, 104, 101, 109, 101], [104, 116, 116, 112])
  else staticTable index

def schemeHpack : HpackDecoder where
  State := Unit
  new := ()
  decode _ block := ((), block.mapM fun byte => schemeTable (byte.toNat - 128))

/-- A request and its response, each in one frame. -/
def shortExchange : List ObserverOp :=
  [.write .incoming (preface ++ encodeFrame false ⟨0x4, 0x0, 0, []⟩), .poll .incoming,
    .write .outgoing (encodeFrame false ⟨0x4, 0x0, 0, []⟩), .poll .outgoing,
    .write .incoming (encodeFrame false ⟨0x1, 0x5, 1, [0x82, 0x86, 0x84]⟩), .poll .incoming,
    .write .outgoing (encodeFrame false ⟨0x1, 0x5, 1, [0x88]⟩), .poll .outgoing]

example : (watch schemeHpack shortExchange).life.closed 1 = true ∧
    (watch schemeHpack shortExchange).observer.streams 1 = none := by decide +kernel

/-- The client returns the credit of a stream that both sides have ended. -/
def lateWindowUpdate : List ObserverOp :=
  shortExchange ++
    [.write .incoming (encodeFrame false ⟨0x8, 0x0, 1, [0, 0, 0, 1]⟩), .poll .incoming]

theorem lateWindowUpdate_notPruned : ¬ ∀ (hpack : HpackDecoder) ops,
    WellFormed ((H2Observer.new hpack).opsTrace ops) →
      ∀ first, first <+: ops → (watch hpack first).Pruned := by
  intro h
  have hwell : WellFormed ((H2Observer.new schemeHpack).opsTrace lateWindowUpdate) := by
    decide +kernel
  have hlast := h schemeHpack lateWindowUpdate hwell lateWindowUpdate List.prefix_rfl 1
    (by decide +kernel)
  exact absurd hlast (by decide +kernel)

end OddBox.H2

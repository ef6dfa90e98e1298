import OddBox.H2.Chunking
import OddBox.H2.Padding

/-!
A header block in pieces. Polled one after the other, a HEADERS frame and the CONTINUATION frames
behind it are one HEADERS frame with the whole block, wherever the block is cut.
-/

namespace OddBox.H2

variable {hpack : HpackDecoder}

/-! ## Pieces of a block -/

/-- What one CONTINUATION frame can carry. -/
structure Fragment where
  bytes : List UInt8
  length_lt : bytes.length < 2 ^ 24

def continuation (streamId : BitVec 31) (endHeaders : Bool) (fragment : Fragment) :
    WireFrame where
  frameType := 0x9
  flags := flagBit endHeaders 0x4
  streamId := streamId.toNat
  payload := fragment.bytes
  payload_lt := fragment.length_lt
  streamId_lt := streamId_lt streamId

/-- The frames that finish a block, of which only the last says so. -/
def continuations (streamId : BitVec 31) (middle : List Fragment) (last : Fragment) :
    List WireFrame :=
  middle.map (continuation streamId false) ++ [continuation streamId true last]

/-- The bytes that the frames carry. -/
def carried (middle : List Fragment) (last : Fragment) : List UInt8 :=
  middle.flatMap Fragment.bytes ++ last.bytes

/-- The same decoders, streams and buffers, and no block in progress. -/
structure SameEnd (first second : H2Observer hpack) : Prop where
  decoder : ∀ d, first.hpackDecoder d = second.hpackDecoder d
  streams : first.streams = second.streams
  buffer : ∀ d, first.buffer d = second.buffer d
  connectionWindowSize : first.connectionWindowSize = second.connectionWindowSize
  idle : first.partialHeaders = none ∧ second.partialHeaders = none

/-! ## The slot -/

section

variable (self : H2Observer hpack) (d : H2FrameDirection)

theorem withBytes_setSlot (bytes : List UInt8) (held : PartialHeadersState) :
    (self.withBytes d bytes).setSlot d held = (self.setSlot d held).withBytes d bytes := by
  cases d <;> rfl

theorem withBytes_resetSlot (bytes : List UInt8) (held held' : PartialHeadersState) :
    ((self.setSlot d held).withBytes d bytes).setSlot d held' =
      (self.setSlot d held').withBytes d bytes := by
  cases d <;> rfl

theorem withBytes_clearSlot (bytes : List UInt8) (held : PartialHeadersState) :
    ((self.setSlot d held).withBytes d bytes).clearSlot = (self.withBytes d bytes).clearSlot := by
  cases d <;> rfl

theorem heldFor_withBytes (bytes : List UInt8) (held : PartialHeadersState) :
    ((self.setSlot d held).withBytes d bytes).heldFor d = some held := by
  rw [← withBytes_setSlot, heldFor_setSlot, if_pos rfl]

/-- Nothing about a complete block depends on an empty slot. -/
theorem handleCompleteHeaders_clearSlot (streamId : Nat) (flags : UInt8) (block : List UInt8) :
    self.clearSlot.handleCompleteHeaders d streamId flags block =
      ((self.handleCompleteHeaders d streamId flags block).1,
        (self.handleCompleteHeaders d streamId flags block).2.clearSlot) := by
  have hset (state : hpack.State) : self.clearSlot.setHpackDecoder d state =
      (self.setHpackDecoder d state).clearSlot := by
    cases d <;> rfl
  rw [handleCompleteHeaders_eq, handleCompleteHeaders_eq, hset, hpackDecoder_clearSlot]
  generalize self.setHpackDecoder d _ = decoded
  cases (hpack.decode (self.hpackDecoder d) block).2 with
  | none => rfl
  | some fields =>
    have hentry : decoded.clearSlot.entry streamId = decoded.entry streamId := rfl
    have hstream (st : Option StreamState) : decoded.clearSlot.setStream streamId st =
        (decoded.setStream streamId st).clearSlot := rfl
    simp only [H2Observer.afterDecode, hentry, hstream]
    cases d <;> simp only [H2Observer.reportHeaders] <;> repeat' split
    all_goals rfl

theorem sameEnd_clearSlot {observer : H2Observer hpack} (h : observer.partialHeaders = none) :
    SameEnd observer.clearSlot observer where
  decoder d := hpackDecoder_clearSlot observer d
  streams := rfl
  buffer d := by cases d <;> rfl
  connectionWindowSize := rfl
  idle := ⟨rfl, h⟩

/-! ## The frames behind the first -/

variable {held : PartialHeadersState} {streamId : BitVec 31}

/-- A CONTINUATION of the block in the slot either adds to it or completes it. -/
theorem poll_continuation (hstream : held.streamId = streamId.toNat) (endHeaders : Bool)
    (fragment : Fragment) (rest : List UInt8) :
    (self.setSlot d held).pollBytes d
        ((continuation streamId endHeaders fragment).bytes ++ rest) =
      if endHeaders then (self.withBytes d rest).clearSlot.handleCompleteHeaders d held.streamId
        held.flags (held.headerBlock ++ fragment.bytes)
      else (none, (self.setSlot d
        { held with headerBlock := held.headerBlock ++ fragment.bytes }).withBytes d rest) := by
  have hcontinues :
      (continuation streamId endHeaders fragment).toFrameHeader.continues held.streamId = true :=
    continues_iff.mpr ⟨rfl, hstream.symm⟩
  have hended : hasFlag (continuation streamId endHeaders fragment).flags 0x4 = endHeaders := by
    change hasFlag (flagBit endHeaders 0x4) 0x4 = endHeaders
    cases endHeaders <;> rfl
  rw [pollBytes_frame, processFrame_perform, heldFor_withBytes]
  dsimp only [FrameHeader.action]
  rw [if_pos hcontinues]
  cases endHeaders with
  | true =>
    rw [if_pos hended, if_pos rfl]
    dsimp only [H2Observer.perform]
    rw [if_pos rfl, withBytes_clearSlot]
    rfl
  | false =>
    rw [if_neg (Bool.eq_false_iff.mp hended), if_neg Bool.false_ne_true]
    dsimp only [H2Observer.perform]
    rw [withBytes_resetSlot]
    rfl

/-- By induction on the frames: the slot holds what has come of the block so far. -/
theorem runOps_continuations (hstream : held.streamId = streamId.toNat) (middle : List Fragment)
    (last : Fragment) (rest : List UInt8) :
    ((self.setSlot d held).withBytes d
        ((continuations streamId middle last).flatMap WireFrame.bytes ++ rest)).runOps
        (List.replicate (middle.length + 1) (.poll d)) =
      let completed := (self.withBytes d rest).clearSlot.handleCompleteHeaders d held.streamId
        held.flags (held.headerBlock ++ carried middle last)
      (completed.1.toList.map (d, ·), completed.2) := by
  induction middle generalizing held with
  | nil =>
    have hpoll := poll_continuation self d hstream true last rest
    unfold H2Observer.pollBytes at hpoll
    simp only [continuations, carried, List.map_nil, List.nil_append, List.flatMap_cons,
      List.flatMap_nil, List.append_nil, List.length_nil, Nat.zero_add, List.replicate_succ,
      List.replicate_zero, H2Observer.runOps, hpoll, if_true]
  | cons fragment middle ih =>
    have hpoll := poll_continuation self d hstream false fragment
      ((continuations streamId middle last).flatMap WireFrame.bytes ++ rest)
    unfold H2Observer.pollBytes at hpoll
    have hframes : (continuations streamId (fragment :: middle) last).flatMap WireFrame.bytes =
        (continuation streamId false fragment).bytes ++
          (continuations streamId middle last).flatMap WireFrame.bytes := rfl
    have hcarried : carried (fragment :: middle) last =
        fragment.bytes ++ carried middle last := by
      rw [carried, carried, List.flatMap_cons, List.append_assoc]
    rw [hframes, hcarried, List.append_assoc, List.length_cons, List.replicate_succ]
    simp only [H2Observer.runOps, hpoll, Bool.false_eq_true, if_false, Option.toList_none,
      List.map_nil, List.nil_append]
    have hrest := @ih { held with headerBlock := held.headerBlock ++ fragment.bytes } hstream
    simp only [List.append_assoc] at hrest
    exact hrest

/-- **Continuation**: in every state without a block in progress, a block cut into a HEADERS frame
and CONTINUATION frames is reported once, at the last of as many polls as there are frames, and as
it is reported when one HEADERS frame carries all of it; after which the observer is the same. -/
theorem continuation_transparent (hidle : self.partialHeaders = none) (streamId : BitVec 31)
    (endStream : Bool) (priority : Option (Vector UInt8 5)) (start : List UInt8)
    (middle : List Fragment) (last : Fragment)
    (first : (Paddable.headers endStream false priority start).Encoding)
    (whole : (Paddable.headers endStream true priority (start ++ carried middle last)).Encoding)
    (rest : List UInt8) :
    ∃ event one cut,
      self.pollBytes d ((whole.frame streamId).bytes ++ rest) = (some event, one) ∧
      (self.withBytes d ((first.frame streamId).bytes ++
          ((continuations streamId middle last).flatMap WireFrame.bytes ++ rest))).runOps
          (List.replicate (middle.length + 2) (.poll d)) = ([(d, event)], cut) ∧
      SameEnd cut one := by
  have hwhole := poll_headers self d rest streamId whole
  have hopen := poll_headers self d
    ((continuations streamId middle last).flatMap WireFrame.bytes ++ rest) streamId first
  rw [if_pos rfl] at hwhole
  rw [if_neg Bool.false_ne_true, withBytes_setSlot] at hopen
  have hended : hasFlag (first.frame streamId).flags 0x1 =
      hasFlag (whole.frame streamId).flags 0x1 := by
    have hflags : ∀ ended prior padded padded' : Bool,
        hasFlag (flagBit ended 0x1 ||| flagBit false 0x4 ||| flagBit prior 0x20 |||
            flagBit padded 0x8) 0x1 =
          hasFlag (flagBit ended 0x1 ||| flagBit true 0x4 ||| flagBit prior 0x20 |||
            flagBit padded' 0x8) 0x1 := by
      decide
    exact hflags endStream priority.isSome first.padding.isSome whole.padding.isSome
  obtain ⟨event, hevent⟩ := handleCompleteHeaders_event (self.withBytes d rest) d streamId.toNat
    (whole.frame streamId).flags (start ++ carried middle last)
  have hone : ((self.withBytes d rest).handleCompleteHeaders d streamId.toNat
      (whole.frame streamId).flags (start ++ carried middle last)).2.partialHeaders = none := by
    rw [partialHeaders_handleCompleteHeaders]
    exact (partialHeaders_setBuffer self d _).trans hidle
  refine ⟨event, _, _, hwhole.trans (Prod.ext hevent rfl), ?_, sameEnd_clearSlot hone⟩
  unfold H2Observer.pollBytes at hopen
  rw [List.replicate_succ]
  simp only [H2Observer.runOps, hopen, Option.toList_none, List.map_nil, List.nil_append]
  rw [runOps_continuations self d rfl middle last rest]
  dsimp only
  rw [handleCompleteHeaders_flags _ d streamId.toNat hended, handleCompleteHeaders_clearSlot,
    hevent]
  rfl

end

/-! ## A request in three pieces -/

/-- `:method GET`, padded and with END_STREAM. -/
def getStart : (Paddable.headers true false none [0x82]).Encoding :=
  ⟨some ⟨[0, 0], by decide⟩, by decide⟩

/-- `:method GET` and `:path /` without padding. -/
def getWhole : (Paddable.headers true true none ([0x82] ++
    carried [⟨[], by decide⟩] ⟨[0x84], by decide⟩)).Encoding :=
  ⟨none, by decide⟩

theorem get_transparent :
    ∃ event one cut,
      (H2Observer.new staticHpack).pollBytes .incoming ((getWhole.frame 1).bytes ++ []) =
        (some event, one) ∧
      ((H2Observer.new staticHpack).withBytes .incoming ((getStart.frame 1).bytes ++
          ((continuations 1 [⟨[], by decide⟩] ⟨[0x84], by decide⟩).flatMap WireFrame.bytes ++
            []))).runOps (List.replicate 3 (.poll .incoming)) = ([(.incoming, event)], cut) ∧
      SameEnd cut one :=
  continuation_transparent (H2Observer.new staticHpack) .incoming rfl 1 true none [0x82]
    [⟨[], by decide⟩] ⟨[0x84], by decide⟩ getStart getWhole []

end OddBox.H2

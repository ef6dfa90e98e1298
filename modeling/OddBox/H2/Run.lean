import OddBox.H2.Observer

/-!
Runs of the observer. A poll takes one frame off one buffer and does
everything else without looking at the buffers (`processFrame`), so a run is
determined by the sequence of frames the polls took, here called its trace.
Writes and polls may come in any order (`runOps`); the events are those of
the trace, and the trace of one direction is what its bytes decode to.
-/

namespace OddBox.H2

open Incremental

variable {hpack : HpackDecoder}

/-! ## One frame -/

/-- What a poll does with a frame it has taken off the buffer. -/
def H2Observer.processFrame (self : H2Observer hpack) (direction : H2FrameDirection)
    (frame : FrameHeader) : Option H2Event × H2Observer hpack :=
  match self.partialHeaders with
  | some held =>
    if self.partialHeadersDirection = some direction ∧ frame.frameType = 0x9 ∧
        frame.streamId = held.streamId then
      let combined := held.headerBlock ++ frame.payload
      if hasFlag frame.flags 0x4 then
        H2Observer.handleCompleteHeaders
          { self with partialHeaders := none, partialHeadersDirection := none }
          direction held.streamId held.flags combined
      else (none, { self with partialHeaders := some { held with headerBlock := combined } })
    else self.handleRegularFrame direction frame
  | none => self.handleRegularFrame direction frame

section Buffers

variable (self : H2Observer hpack) (d d' : H2FrameDirection) (b : H2Buffer)

@[simp] theorem buffer_setBuffer_self : (self.setBuffer d b).buffer d = b := by
  cases d <;> rfl

@[simp] theorem buffer_setBuffer_other :
    (self.setBuffer d b).buffer d.other = self.buffer d.other := by
  cases d <;> rfl

@[simp] theorem setBuffer_setBuffer (b' : H2Buffer) :
    (self.setBuffer d b).setBuffer d b' = self.setBuffer d b' := by
  cases d <;> rfl

@[simp] theorem setBuffer_buffer : self.setBuffer d (self.buffer d) = self := by
  cases d <;> rfl

@[simp] theorem partialHeaders_setBuffer :
    (self.setBuffer d b).partialHeaders = self.partialHeaders := by
  cases d <;> rfl

@[simp] theorem partialHeadersDirection_setBuffer :
    (self.setBuffer d b).partialHeadersDirection = self.partialHeadersDirection := by
  cases d <;> rfl

@[simp] theorem streams_setBuffer : (self.setBuffer d b).streams = self.streams := by
  cases d <;> rfl

@[simp] theorem hpackDecoder_setBuffer :
    (self.setBuffer d b).hpackDecoder d' = self.hpackDecoder d' := by
  cases d <;> cases d' <;> rfl

@[simp] theorem entry_setBuffer (streamId : Nat) :
    (self.setBuffer d b).entry streamId = self.entry streamId := by
  cases d <;> rfl

theorem setStream_setBuffer (streamId : Nat) (st : Option StreamState) :
    (self.setBuffer d b).setStream streamId st = (self.setStream streamId st).setBuffer d b := by
  cases d <;> rfl

theorem setHpackDecoder_setBuffer (state : hpack.State) :
    (self.setBuffer d b).setHpackDecoder d' state =
      (self.setHpackDecoder d' state).setBuffer d b := by
  cases d <;> cases d' <;> rfl

end Buffers

/-! Everything a poll does after taking its frame commutes with replacing a
buffer. -/

section CommutesWithBuffers

variable (self : H2Observer hpack) (d : H2FrameDirection) (b : H2Buffer)

theorem reportHeaders_setBuffer (direction : H2FrameDirection) (streamId : Nat)
    (endStream : Bool) (headers : HeaderMap) (st : StreamState) :
    (self.setBuffer d b).reportHeaders direction streamId endStream headers st =
      ((self.reportHeaders direction streamId endStream headers st).1,
        (self.reportHeaders direction streamId endStream headers st).2.setBuffer d b) := by
  cases direction <;> simp only [H2Observer.reportHeaders, setStream_setBuffer]
  · split <;> rfl
  · repeat' split
    all_goals rfl

theorem handleCompleteHeaders_setBuffer (direction : H2FrameDirection) (streamId : Nat)
    (flags : UInt8) (block : List UInt8) :
    (self.setBuffer d b).handleCompleteHeaders direction streamId flags block =
      ((self.handleCompleteHeaders direction streamId flags block).1,
        (self.handleCompleteHeaders direction streamId flags block).2.setBuffer d b) := by
  simp only [H2Observer.handleCompleteHeaders, hpackDecoder_setBuffer,
    setHpackDecoder_setBuffer]
  cases (hpack.decode (self.hpackDecoder direction) block).2 with
  | none => rfl
  | some fields =>
    simp only [entry_setBuffer, setStream_setBuffer]
    rw [reportHeaders_setBuffer]

theorem handleDataFrame_setBuffer (direction : H2FrameDirection) (frame : FrameHeader) :
    (self.setBuffer d b).handleDataFrame direction frame =
      ((self.handleDataFrame direction frame).1,
        (self.handleDataFrame direction frame).2.setBuffer d b) := by
  simp only [H2Observer.handleDataFrame, entry_setBuffer, setStream_setBuffer]
  cases direction <;> repeat' split
  all_goals rfl

theorem handleWindowUpdate_setBuffer (direction : H2FrameDirection) (frame : FrameHeader) :
    (self.setBuffer d b).handleWindowUpdate direction frame =
      ((self.handleWindowUpdate direction frame).1,
        (self.handleWindowUpdate direction frame).2.setBuffer d b) := by
  simp only [H2Observer.handleWindowUpdate, entry_setBuffer, setStream_setBuffer]
  repeat' split
  all_goals cases d <;> rfl

theorem handleRegularFrame_setBuffer (direction : H2FrameDirection) (frame : FrameHeader) :
    (self.setBuffer d b).handleRegularFrame direction frame =
      ((self.handleRegularFrame direction frame).1,
        (self.handleRegularFrame direction frame).2.setBuffer d b) := by
  simp only [H2Observer.handleRegularFrame]
  split
  case h_1 => rw [handleDataFrame_setBuffer]
  case h_2 =>
    split
    · rw [handleCompleteHeaders_setBuffer]
    · cases d <;> rfl
    · rfl
  case h_9 => rw [handleWindowUpdate_setBuffer]
  all_goals rfl

theorem processFrame_setBuffer (direction : H2FrameDirection) (frame : FrameHeader) :
    (self.setBuffer d b).processFrame direction frame =
      ((self.processFrame direction frame).1,
        (self.processFrame direction frame).2.setBuffer d b) := by
  simp only [H2Observer.processFrame, partialHeaders_setBuffer,
    partialHeadersDirection_setBuffer]
  cases self.partialHeaders with
  | none => simp only [handleRegularFrame_setBuffer]
  | some held =>
    simp only
    split
    · split
      · have hclear : ({ self.setBuffer d b with
            partialHeaders := none, partialHeadersDirection := none } : H2Observer hpack) =
            H2Observer.setBuffer
              { self with partialHeaders := none, partialHeadersDirection := none } d b := by
          cases d <;> rfl
        rw [hclear, handleCompleteHeaders_setBuffer]
      · cases d <;> rfl
    · rw [handleRegularFrame_setBuffer]

end CommutesWithBuffers

/-- A poll is: take a frame off the buffer, then process it. -/
theorem pollOneFrame_eq (self : H2Observer hpack) (direction : H2FrameDirection) :
    self.pollOneFrame direction =
      match parseNextFrame (self.buffer direction).buffer with
      | some (frame, rest) =>
        (self.setBuffer direction { self.buffer direction with buffer := rest }).processFrame
          direction frame
      | none => (none, self) := by
  simp only [H2Observer.pollOneFrame, H2Observer.pollNewFrame]
  cases hparse : parseNextFrame (self.buffer direction).buffer with
  | none =>
    cases self.partialHeaders with
    | none => rfl
    | some held => simp
  | some taken =>
    obtain ⟨frame, rest⟩ := taken
    simp only [H2Observer.processFrame, partialHeaders_setBuffer,
      partialHeadersDirection_setBuffer]
    cases self.partialHeaders with
    | none => rfl
    | some held =>
      by_cases hdir : self.partialHeadersDirection = some direction <;>
        by_cases htype : frame.frameType = 0x9 <;>
          by_cases hstream : frame.streamId = held.streamId <;>
            simp [hdir, htype, hstream]

/-! ## A sequence of frames -/

/-- The events of processing frames in order, each with its direction. -/
def H2Observer.observe (self : H2Observer hpack) :
    List (H2FrameDirection × FrameHeader) →
      List (H2FrameDirection × H2Event) × H2Observer hpack
  | [] => ([], self)
  | (direction, frame) :: frames =>
    let (event, next) := self.processFrame direction frame
    let (events, last) := H2Observer.observe next frames
    (event.toList.map (direction, ·) ++ events, last)

theorem observe_append (self : H2Observer hpack)
    (frames more : List (H2FrameDirection × FrameHeader)) :
    self.observe (frames ++ more) =
      ((self.observe frames).1 ++ ((self.observe frames).2.observe more).1,
        ((self.observe frames).2.observe more).2) := by
  induction frames generalizing self with
  | nil => simp [H2Observer.observe]
  | cons tagged frames ih => simp [H2Observer.observe, ih]

theorem observe_setBuffer (self : H2Observer hpack) (d : H2FrameDirection) (b : H2Buffer)
    (frames : List (H2FrameDirection × FrameHeader)) :
    (self.setBuffer d b).observe frames =
      ((self.observe frames).1,
        (self.observe frames).2.setBuffer d b) := by
  induction frames generalizing self with
  | nil => rfl
  | cons tagged frames ih =>
    obtain ⟨direction, frame⟩ := tagged
    simp only [H2Observer.observe, processFrame_setBuffer self d b, ih]

theorem observe_write (self : H2Observer hpack) (d : H2FrameDirection) (data : List UInt8)
    (frames : List (H2FrameDirection × FrameHeader)) :
    (self.write d data).observe frames =
      ((self.observe frames).1,
        (self.observe frames).2.setBuffer d ((self.buffer d).write data)) :=
  observe_setBuffer self d _ frames

/-! ## Writes and polls in any order -/

inductive ObserverOp where
  | write (direction : H2FrameDirection) (data : List UInt8)
  | poll (direction : H2FrameDirection)

/-- The frame that a poll of this direction would take. -/
def H2Observer.nextFrame (self : H2Observer hpack) (direction : H2FrameDirection) :
    Option FrameHeader :=
  (parseNextFrame (self.buffer direction).buffer).map Prod.fst

def H2Observer.runOps (self : H2Observer hpack) :
    List ObserverOp → List (H2FrameDirection × H2Event) × H2Observer hpack
  | [] => ([], self)
  | .write direction data :: ops => H2Observer.runOps (self.write direction data) ops
  | .poll direction :: ops =>
    let (event, next) := self.pollOneFrame direction
    let (events, last) := H2Observer.runOps next ops
    (event.toList.map (direction, ·) ++ events, last)

theorem runOps_append (self : H2Observer hpack) (ops more : List ObserverOp) :
    self.runOps (ops ++ more) =
      ((self.runOps ops).1 ++ ((self.runOps ops).2.runOps more).1,
        ((self.runOps ops).2.runOps more).2) := by
  induction ops generalizing self with
  | nil => simp [H2Observer.runOps]
  | cons op ops ih =>
    cases op with
    | write direction data => simp [H2Observer.runOps, ih]
    | poll direction => simp [H2Observer.runOps, ih]

/-- The frames taken by the polls of a run, in order. -/
def H2Observer.opsTrace (self : H2Observer hpack) :
    List ObserverOp → List (H2FrameDirection × FrameHeader)
  | [] => []
  | .write direction data :: ops => H2Observer.opsTrace (self.write direction data) ops
  | .poll direction :: ops =>
    (self.nextFrame direction).toList.map (direction, ·) ++
      H2Observer.opsTrace (self.pollOneFrame direction).2 ops

/-- The bytes written to one direction over a run. -/
def writtenBytes (direction : H2FrameDirection) : List ObserverOp → List UInt8
  | [] => []
  | .write d data :: ops =>
    if d = direction then data ++ writtenBytes direction ops else writtenBytes direction ops
  | .poll _ :: ops => writtenBytes direction ops

theorem writtenBytes_append (direction : H2FrameDirection) (ops more : List ObserverOp) :
    writtenBytes direction (ops ++ more) =
      writtenBytes direction ops ++ writtenBytes direction more := by
  induction ops with
  | nil => rfl
  | cons op ops ih =>
    cases op with
    | write d data =>
      simp only [List.cons_append, writtenBytes, ih]
      split <;> simp
    | poll d => exact ih

def ObserverOp.direction : ObserverOp → H2FrameDirection
  | .write direction _ => direction
  | .poll direction => direction

/-- **A run reports the events of its trace**, however writes and polls are
ordered, and ends in the same state up to the buffers. -/
theorem runOps_observe (self : H2Observer hpack) (ops : List ObserverOp) :
    (self.runOps ops).1 = (self.observe (self.opsTrace ops)).1 ∧
      ∃ bufferIn bufferOut, (self.runOps ops).2 =
        ((self.observe (self.opsTrace ops)).2.setBuffer .incoming bufferIn).setBuffer
          .outgoing bufferOut := by
  induction ops generalizing self with
  | nil => exact ⟨rfl, self.incoming, self.outgoing, rfl⟩
  | cons op ops ih =>
    cases op with
    | write direction data =>
      obtain ⟨hevents, bufferIn, bufferOut, hlast⟩ := ih (self.write direction data)
      simp only [H2Observer.runOps, H2Observer.opsTrace]
      rw [observe_write] at hevents hlast
      refine ⟨hevents, ?_⟩
      rw [hlast]
      cases direction
      · exact ⟨bufferIn, bufferOut, rfl⟩
      · exact ⟨bufferIn, bufferOut, rfl⟩
    | poll direction =>
      simp only [H2Observer.runOps, H2Observer.opsTrace, H2Observer.nextFrame]
      rw [pollOneFrame_eq]
      cases hparse : parseNextFrame (self.buffer direction).buffer with
      | none => simpa [hparse] using ih self
      | some taken =>
        obtain ⟨frame, rest⟩ := taken
        simp only [Option.map_some, Option.toList_some, List.map_cons, List.map_nil,
          List.singleton_append, H2Observer.observe]
        rw [processFrame_setBuffer]
        obtain ⟨hevents, bufferIn, bufferOut, hlast⟩ := ih
          ((self.processFrame direction frame).2.setBuffer direction
            { self.buffer direction with buffer := rest })
        rw [observe_setBuffer] at hevents hlast
        refine ⟨by rw [hevents], ?_⟩
        rw [hlast]
        cases direction
        · exact ⟨bufferIn, bufferOut, rfl⟩
        · exact ⟨bufferIn, bufferOut, rfl⟩

/-! ## The trace of one direction -/

/-- The frames of one direction, in order. -/
def framesOf (direction : H2FrameDirection)
    (frames : List (H2FrameDirection × FrameHeader)) : List FrameHeader :=
  frames.filterMap fun tagged => if tagged.1 = direction then some tagged.2 else none

@[simp] theorem framesOf_nil (direction : H2FrameDirection) : framesOf direction [] = [] := rfl

@[simp] theorem framesOf_cons (direction d : H2FrameDirection) (frame : FrameHeader)
    (frames : List (H2FrameDirection × FrameHeader)) :
    framesOf direction ((d, frame) :: frames) =
      if d = direction then frame :: framesOf direction frames
      else framesOf direction frames := by
  by_cases h : d = direction <;> simp [framesOf, h]

@[simp] theorem framesOf_append (direction : H2FrameDirection)
    (frames more : List (H2FrameDirection × FrameHeader)) :
    framesOf direction (frames ++ more) = framesOf direction frames ++ framesOf direction more := by
  simp [framesOf]

/-- A buffer past the client preface: writes only append. -/
def H2Buffer.Open (b : H2Buffer) : Prop := b.needsPreface = false ∨ b.prefaceConsumed = true

theorem H2Buffer.Open.write {b : H2Buffer} (h : b.Open) (data : List UInt8) :
    b.write data = { b with buffer := b.buffer ++ data } := by
  rcases h with h | h <;> simp [H2Buffer.write, h]

/-- Strict beginnings of the preface announce a frame longer than themselves,
so polling before the preface has arrived takes nothing. -/
theorem parseNextFrame_preface {w : List UInt8} (hw : w <+: preface)
    (hlen : w.length < preface.length) : parseNextFrame w = none := by
  have htable : ∀ n : Fin 24, parseNextFrame (preface.take n.val) = none := by decide
  rw [List.prefix_iff_eq_take.mp hw]
  exact htable ⟨w.length, hlen⟩

@[simp] theorem buffer_processFrame (self : H2Observer hpack) (direction d : H2FrameDirection)
    (frame : FrameHeader) :
    (self.processFrame direction frame).2.buffer d = self.buffer d := by
  have h := processFrame_setBuffer self d (self.buffer d) direction frame
  rw [setBuffer_buffer] at h
  rw [congrArg Prod.snd h, buffer_setBuffer_self]

theorem buffer_write_other (self : H2Observer hpack) {direction d : H2FrameDirection}
    (h : d ≠ direction) (data : List UInt8) :
    (self.write d data).buffer direction = self.buffer direction := by
  cases d <;> cases direction <;> first | rfl | exact absurd rfl h

@[simp] theorem buffer_write_self (self : H2Observer hpack) (d : H2FrameDirection)
    (data : List UInt8) : (self.write d data).buffer d = (self.buffer d).write data := by
  simp [H2Observer.write]

/-- A poll leaves the buffer of the other direction alone. -/
theorem buffer_pollOneFrame_other (self : H2Observer hpack) {d direction : H2FrameDirection}
    (h : d ≠ direction) : (self.pollOneFrame d).2.buffer direction = self.buffer direction := by
  rw [pollOneFrame_eq]
  split
  · rw [buffer_processFrame]
    cases d <;> cases direction <;> first | rfl | exact absurd rfl h
  · rfl

/-- The bytes that carry frames: those after the client preface. -/
def frameBytes : H2FrameDirection → List UInt8 → List UInt8
  | .incoming, bytes => bytes.drop preface.length
  | .outgoing, bytes => bytes

/-- The client's bytes start with the preface, as far as they go. -/
def Prefaced : H2FrameDirection → List UInt8 → Prop
  | .incoming, bytes => bytes <+: preface ∨ preface <+: bytes
  | .outgoing, _ => True

/-- Past the preface, the frames taken by a run followed by those still in the
buffer are the frames of the bytes. -/
theorem opsTrace_open (self : H2Observer hpack) (direction : H2FrameDirection)
    (ops : List ObserverOp) (hopen : (self.buffer direction).Open) :
    (frameDecoder.decodeAll
        ((self.buffer direction).buffer ++ writtenBytes direction ops)).1 =
      framesOf direction (self.opsTrace ops) ++
        (frameDecoder.decodeAll ((self.runOps ops).2.buffer direction).buffer).1 := by
  induction ops generalizing self with
  | nil => simp [writtenBytes, H2Observer.opsTrace, H2Observer.runOps, framesOf]
  | cons op ops ih =>
    cases op with
    | write d data =>
      simp only [writtenBytes, H2Observer.opsTrace, H2Observer.runOps]
      by_cases hd : d = direction
      · subst hd
        have hwrite := hopen.write data
        have hopen' : ((self.write d data).buffer d).Open := by
          rw [buffer_write_self, hwrite]; exact hopen
        rw [if_pos rfl, ← ih _ hopen', buffer_write_self, hwrite]
        simp
      · rw [if_neg hd, ← ih _ (by rwa [buffer_write_other self hd]), buffer_write_other self hd]
    | poll d =>
      simp only [writtenBytes, H2Observer.opsTrace, H2Observer.runOps, framesOf_append]
      by_cases hd : d = direction
      · subst hd
        rw [H2Observer.nextFrame, pollOneFrame_eq]
        cases hparse : parseNextFrame (self.buffer d).buffer with
        | none => simpa [hparse, framesOf] using ih self hopen
        | some taken =>
          obtain ⟨frame, rest⟩ := taken
          rw [frameDecoder.decodeAll_some (parseNextFrame_stable hparse _)]
          have hnext := ih ((self.setBuffer d
            { self.buffer d with buffer := rest }).processFrame d frame).2
            (by rw [buffer_processFrame, buffer_setBuffer_self]; exact hopen)
          rw [buffer_processFrame, buffer_setBuffer_self] at hnext
          simp only at hnext
          simp [framesOf, hnext]
      · have hother := buffer_pollOneFrame_other self hd
        have hnone : framesOf direction ((self.nextFrame d).toList.map (d, ·)) = [] := by
          simp [framesOf, hd]
        rw [hnone, List.nil_append, ← ih _ (by rwa [hother]), hother]

/-- The client's buffer while the preface is still arriving. -/
structure H2Buffer.AwaitingPreface (b : H2Buffer) : Prop where
  needs : b.needsPreface = true
  unread : b.prefaceConsumed = false
  start : b.buffer <+: preface
  short : b.buffer.length < preface.length

theorem H2Buffer.AwaitingPreface.fresh : (H2Buffer.new true).AwaitingPreface :=
  ⟨rfl, rfl, List.nil_prefix, by decide⟩

theorem prefix_of_prefaced {w more : List UInt8} (h : Prefaced .incoming (w ++ more)) :
    if w.length < preface.length then w <+: preface else preface <+: w := by
  rcases h with h | h
  · have hw : w <+: preface := (List.prefix_append w more).trans h
    split
    · exact hw
    · rename_i hlen
      exact (hw.eq_of_length_le (by omega)) ▸ List.prefix_rfl
  · split
    · rename_i hlen
      exact List.prefix_of_prefix_length_le (List.prefix_append w more) h (by omega)
    · rename_i hlen
      exact List.prefix_of_prefix_length_le h (List.prefix_append w more) (by omega)

/-- A write either leaves the buffer waiting for the rest of the preface or
strips the preface and opens the buffer. -/
theorem H2Buffer.AwaitingPreface.write {b : H2Buffer} (h : b.AwaitingPreface)
    (data more : List UInt8) (hbytes : Prefaced .incoming (b.buffer ++ data ++ more)) :
    ((b.write data).AwaitingPreface ∧ (b.write data).buffer = b.buffer ++ data) ∨
      ((b.write data).Open ∧ preface.length ≤ (b.buffer ++ data).length ∧
        (b.write data).buffer = (b.buffer ++ data).drop preface.length) := by
  have hstart := prefix_of_prefaced hbytes
  by_cases hlen : (b.buffer ++ data).length < preface.length
  · rw [if_pos hlen] at hstart
    have hwrite : b.write data = { b with buffer := b.buffer ++ data } := by
      simp only [H2Buffer.write, h.needs, h.unread, H2Buffer.consumePreface, if_pos hlen]
      rfl
    rw [hwrite]
    exact Or.inl ⟨⟨h.needs, h.unread, hstart, hlen⟩, rfl⟩
  · rw [if_neg hlen] at hstart
    have htake : (b.buffer ++ data).take preface.length = preface :=
      (List.prefix_iff_eq_take.mp hstart).symm
    have hwrite : b.write data = { b with
        buffer := (b.buffer ++ data).drop preface.length, prefaceConsumed := true } := by
      simp only [H2Buffer.write, h.needs, h.unread, H2Buffer.consumePreface, if_neg hlen,
        if_pos htake]
      rfl
    rw [hwrite]
    exact Or.inr ⟨Or.inr rfl, by omega, rfl⟩

theorem opsTrace_awaiting (self : H2Observer hpack) (ops : List ObserverOp)
    (hwait : self.incoming.AwaitingPreface)
    (hbytes : Prefaced .incoming (self.incoming.buffer ++ writtenBytes .incoming ops)) :
    (frameDecoder.decodeAll
        ((self.incoming.buffer ++ writtenBytes .incoming ops).drop preface.length)).1 =
      framesOf .incoming (self.opsTrace ops) ++
        (frameDecoder.decodeAll ((self.runOps ops).2.buffer .incoming).buffer).1 := by
  have hquiet := parseNextFrame_preface hwait.start hwait.short
  induction ops generalizing self with
  | nil =>
    have hdrop : self.incoming.buffer.drop preface.length = [] :=
      List.drop_eq_nil_of_le (Nat.le_of_lt hwait.short)
    simp only [writtenBytes, List.append_nil, H2Observer.opsTrace, H2Observer.runOps, hdrop]
    change _ = [] ++ (frameDecoder.decodeAll self.incoming.buffer).1
    rw [frameDecoder.decodeAll_none hquiet,
      frameDecoder.decodeAll_none (parseNextFrame_short (by decide))]
    rfl
  | cons op ops ih =>
    cases op with
    | write d data =>
      simp only [writtenBytes, H2Observer.opsTrace, H2Observer.runOps] at hbytes ⊢
      cases d with
      | outgoing => exact ih (self.write .outgoing data) hwait hbytes hquiet
      | incoming =>
        rw [if_pos rfl, ← List.append_assoc] at hbytes ⊢
        rcases hwait.write data _ hbytes with ⟨hwait', hbuf⟩ | ⟨hopen, hlen, hbuf⟩
        · rw [← hbuf]
          exact ih (self.write .incoming data) hwait' (by rw [← hbuf] at hbytes; exact hbytes)
            (parseNextFrame_preface hwait'.start hwait'.short)
        · rw [List.drop_append_of_le_length hlen, ← hbuf]
          exact opsTrace_open (self.write .incoming data) .incoming ops hopen
    | poll d =>
      simp only [writtenBytes, H2Observer.opsTrace, H2Observer.runOps, framesOf_append]
        at hbytes ⊢
      cases d with
      | incoming =>
        have hpoll : self.pollOneFrame .incoming = (none, self) := by
          rw [pollOneFrame_eq]
          change (match parseNextFrame self.incoming.buffer with
            | some (frame, rest) => _ | none => (none, self)) = _
          rw [hquiet]
        have hnone : framesOf .incoming
            ((self.nextFrame .incoming).toList.map (H2FrameDirection.incoming, ·)) = [] := by
          change framesOf .incoming (((parseNextFrame self.incoming.buffer).map
            Prod.fst).toList.map _) = []
          rw [hquiet]
          rfl
        rw [hpoll, hnone]
        exact ih self hwait hbytes hquiet
      | outgoing =>
        have hother : (self.pollOneFrame .outgoing).2.incoming = self.incoming :=
          buffer_pollOneFrame_other self (show .outgoing ≠ H2FrameDirection.incoming by decide)
        have hnone : framesOf .incoming
            ((self.nextFrame .outgoing).toList.map (H2FrameDirection.outgoing, ·)) = [] := by
          simp [framesOf]
        rw [hnone, List.nil_append, ← ih (self.pollOneFrame .outgoing).2 (by rwa [hother])
          (by rwa [hother]) (by rwa [hother]), hother]

/-- **The trace of a direction is what its bytes decode to**: the frames taken
from a direction over a run from a fresh observer, followed by those still in
its buffer, are the frames of the bytes written to it. -/
theorem opsTrace_new (hpack : HpackDecoder) (direction : H2FrameDirection) (ops : List ObserverOp)
    (hbytes : Prefaced direction (writtenBytes direction ops)) :
    (frameDecoder.decodeAll (frameBytes direction (writtenBytes direction ops))).1 =
      framesOf direction ((H2Observer.new hpack).opsTrace ops) ++
        (frameDecoder.decodeAll
          (((H2Observer.new hpack).runOps ops).2.buffer direction).buffer).1 := by
  cases direction with
  | incoming => exact opsTrace_awaiting (H2Observer.new hpack) ops .fresh hbytes
  | outgoing => exact opsTrace_open (H2Observer.new hpack) .outgoing ops (Or.inl rfl)

end OddBox.H2

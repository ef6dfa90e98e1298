import OddBox.H2.Actions

/-!
Draining after each write, as the callers of the observer do. A drain stops at
the first poll without an event, and the one frame that has no event outside a
header block is a HEADERS frame without END_HEADERS. What is behind such a
frame in the buffer stays there until the next drain, so the events depend on
where the bytes were cut unless that frame is the last one sent.
-/

namespace OddBox.H2

open Incremental

variable {hpack : HpackDecoder}

/-! ## Which frames have an event -/

section Slot

variable (self : H2Observer hpack) (d : H2FrameDirection)

@[simp] theorem partialHeaders_setStream (streamId : Nat) (st : Option StreamState) :
    (self.setStream streamId st).partialHeaders = self.partialHeaders := rfl

@[simp] theorem partialHeaders_setHpackDecoder (state : hpack.State) :
    (self.setHpackDecoder d state).partialHeaders = self.partialHeaders := by
  cases d <;> rfl

@[simp] theorem partialHeaders_reportHeaders (streamId : Nat) (endStream : Bool)
    (headers : HeaderMap) (st : StreamState) :
    (self.reportHeaders d streamId endStream headers st).2.partialHeaders =
      self.partialHeaders := by
  cases d <;> simp only [H2Observer.reportHeaders] <;> repeat' split
  all_goals rfl

@[simp] theorem partialHeaders_handleCompleteHeaders (streamId : Nat) (flags : UInt8)
    (block : List UInt8) :
    (self.handleCompleteHeaders d streamId flags block).2.partialHeaders =
      self.partialHeaders := by
  simp only [H2Observer.handleCompleteHeaders]
  split <;> simp

@[simp] theorem partialHeaders_handleDataFrame (frame : FrameHeader) :
    (self.handleDataFrame d frame).2.partialHeaders = self.partialHeaders := by
  simp only [H2Observer.handleDataFrame]
  cases d <;> repeat' split
  all_goals rfl

@[simp] theorem partialHeaders_handleWindowUpdate (frame : FrameHeader) :
    (self.handleWindowUpdate d frame).2.partialHeaders = self.partialHeaders := by
  simp only [H2Observer.handleWindowUpdate]
  repeat' split
  all_goals rfl

theorem handleCompleteHeaders_event (streamId : Nat) (flags : UInt8) (block : List UInt8) :
    ∃ event, (self.handleCompleteHeaders d streamId flags block).1 = some event := by
  simp only [H2Observer.handleCompleteHeaders]
  split <;> exact ⟨_, rfl⟩

/-- Outside a header block every frame but an opening HEADERS has an event. -/
theorem processFrame_loud {self : H2Observer hpack} (d : H2FrameDirection) {frame : FrameHeader}
    (hheld : self.partialHeaders = none) (hframe : frame.opensBlock = false) :
    (∃ event, (self.processFrame d frame).1 = some event) ∧
      (self.processFrame d frame).2.partialHeaders = none := by
  simp only [H2Observer.processFrame, hheld, H2Observer.handleRegularFrame]
  split
  case h_2 htype =>
    split
    · exact ⟨handleCompleteHeaders_event self d _ _ _, by simpa using hheld⟩
    · rename_i block hparse
      simp [FrameHeader.opensBlock, htype, hparse] at hframe
    · exact ⟨⟨_, rfl⟩, hheld⟩
  all_goals exact ⟨⟨_, rfl⟩, by simpa using hheld⟩

theorem processFrame_opens {self : H2Observer hpack} (d : H2FrameDirection) {frame : FrameHeader}
    (hheld : self.partialHeaders = none) (hframe : frame.opensBlock = true) :
    (self.processFrame d frame).1 = none := by
  simp only [FrameHeader.opensBlock, Bool.and_eq_true, beq_iff_eq] at hframe
  obtain ⟨htype, hopen⟩ := hframe
  simp only [H2Observer.processFrame, hheld, H2Observer.handleRegularFrame, htype]
  split at hopen
  · rename_i hparse
    simp [hparse]
  · cases hopen

end Slot

/-! ## One drain -/

/-- A drain is a run of polls. -/
theorem drainDirection_runOps (direction : H2FrameDirection) (fuel : Nat)
    (self : H2Observer hpack) :
    ∃ n, self.runOps (List.replicate n (.poll direction)) =
      ((H2Observer.drainDirection direction fuel self).1.map (direction, ·),
        (H2Observer.drainDirection direction fuel self).2) := by
  induction fuel generalizing self with
  | zero => exact ⟨0, rfl⟩
  | succ fuel ih =>
    simp only [H2Observer.drainDirection]
    cases hpoll : self.pollOneFrame direction with
    | mk event next =>
      cases event with
      | none => exact ⟨1, by simp [H2Observer.runOps, hpoll]⟩
      | some event =>
        obtain ⟨n, hn⟩ := ih next
        exact ⟨n + 1, by simp [List.replicate_succ, H2Observer.runOps, hpoll, hn]⟩

section Round

variable {self : H2Observer hpack} {direction : H2FrameDirection} {frame : FrameHeader}
  {rest : List UInt8}

/-- A drain ends with a frame that opens a block. -/
theorem drainDirection_opens
    (hparse : parseNextFrame (self.buffer direction).buffer = some (frame, rest))
    (hheld : self.partialHeaders = none) (hopens : frame.opensBlock = true) (fuel : Nat) :
    (H2Observer.drainDirection direction (fuel + 1) self).2.buffer direction =
      { self.buffer direction with buffer := rest } := by
  let polled := self.setBuffer direction { self.buffer direction with buffer := rest }
  have hpolled : polled.partialHeaders = none := (partialHeaders_setBuffer _ _ _).trans hheld
  have hnone := processFrame_opens direction hpolled hopens
  have hbuf : (polled.processFrame direction frame).2.buffer direction =
      { self.buffer direction with buffer := rest } := by
    rw [buffer_processFrame, buffer_setBuffer_self]
  simp only [H2Observer.drainDirection, pollOneFrame_eq, hparse]
  cases hstep : polled.processFrame direction frame with
  | mk event next =>
    rw [hstep] at hnone hbuf
    simp only at hnone hbuf
    subst hnone
    exact hbuf

/-- A drain goes on behind any other frame. -/
theorem drainDirection_goes_on
    (hparse : parseNextFrame (self.buffer direction).buffer = some (frame, rest))
    (hheld : self.partialHeaders = none) (hopens : frame.opensBlock = false) (fuel : Nat) :
    ∃ next : H2Observer hpack,
      (H2Observer.drainDirection direction (fuel + 1) self).2 =
        (H2Observer.drainDirection direction fuel next).2 ∧
      next.buffer direction = { self.buffer direction with buffer := rest } ∧
      next.partialHeaders = none := by
  let polled := self.setBuffer direction { self.buffer direction with buffer := rest }
  have hpolled : polled.partialHeaders = none := (partialHeaders_setBuffer _ _ _).trans hheld
  obtain ⟨⟨event, hevent⟩, hheld'⟩ := processFrame_loud direction hpolled hopens
  have hbuf : (polled.processFrame direction frame).2.buffer direction =
      { self.buffer direction with buffer := rest } := by
    rw [buffer_processFrame, buffer_setBuffer_self]
  refine ⟨(polled.processFrame direction frame).2, ?_, hbuf, hheld'⟩
  simp only [H2Observer.drainDirection, pollOneFrame_eq, hparse]
  cases hstep : polled.processFrame direction frame with
  | mk event' next =>
    rw [hstep] at hevent
    simp only at hevent
    subst hevent
    rfl

end Round

/-- What decodes to nothing is kept as it is. -/
theorem decodeAll_rest_of_nil {bytes : List UInt8} (h : (frameDecoder.decodeAll bytes).1 = []) :
    (frameDecoder.decodeAll bytes).2 = bytes := by
  cases hnext : frameDecoder.next bytes with
  | none => rw [frameDecoder.decodeAll_none hnext]
  | some taken =>
    rw [frameDecoder.decodeAll_some hnext] at h
    cases h

/-- Where only the last complete frame may open a block, a drain takes them
all, and a block is open afterwards only if that last frame opened it. -/
theorem drainDirection_loud (direction : H2FrameDirection) (fuel : Nat)
    (self : H2Observer hpack) (hfuel : (self.buffer direction).buffer.length < fuel)
    (hloud : ∀ frame ∈ (frameDecoder.decodeAll (self.buffer direction).buffer).1.dropLast,
      frame.opensBlock = false)
    (hheld : self.partialHeaders = none ∨
      (frameDecoder.decodeAll (self.buffer direction).buffer).1 = []) :
    (H2Observer.drainDirection direction fuel self).2.buffer direction =
        { self.buffer direction with
          buffer := (frameDecoder.decodeAll (self.buffer direction).buffer).2 } ∧
      ((∀ frame ∈ (frameDecoder.decodeAll (self.buffer direction).buffer).1,
          frame.opensBlock = false) →
        (H2Observer.drainDirection direction fuel self).2.partialHeaders =
          self.partialHeaders) := by
  induction fuel generalizing self with
  | zero => omega
  | succ fuel ih =>
    cases hparse : parseNextFrame (self.buffer direction).buffer with
    | none =>
      simp only [H2Observer.drainDirection]
      rw [pollOneFrame_eq, hparse, frameDecoder.decodeAll_none hparse]
      exact ⟨rfl, fun _ => rfl⟩
    | some taken =>
      obtain ⟨frame, rest⟩ := taken
      have hlen := parseNextFrame_consumes hparse
      rw [frameDecoder.decodeAll_some hparse] at hloud hheld ⊢
      simp only [reduceCtorEq, or_false] at hheld
      simp only at hloud ⊢
      cases hopens : frame.opensBlock with
      | true =>
        -- the block is opened by the last complete frame
        have hlast : (frameDecoder.decodeAll rest).1 = [] := by
          cases hmore : (frameDecoder.decodeAll rest).1 with
          | nil => rfl
          | cons f fs =>
            have := hloud frame (by simp [hmore])
            simp [hopens] at this
        rw [decodeAll_rest_of_nil hlast]
        refine ⟨drainDirection_opens hparse hheld hopens fuel, fun h => ?_⟩
        have hquiet := h frame (by simp)
        simp [hopens] at hquiet
      | false =>
        obtain ⟨next, hdrain, hnext, hheld'⟩ := drainDirection_goes_on hparse hheld hopens fuel
        have hbuf : (next.buffer direction).buffer = rest := by rw [hnext]
        have hih := ih next (by rw [hbuf]; omega)
          (by
            rw [hbuf]
            intro f hf
            exact hloud f (by
              cases hmore : (frameDecoder.decodeAll rest).1 with
              | nil => simp [hmore] at hf
              | cons g gs => simp only [hmore] at hf; simp [hf]))
          (Or.inl hheld')
        rw [hnext] at hih
        rw [hdrain]
        refine ⟨hih.1, fun h => ?_⟩
        rw [hih.2 fun f hf => h f (by simp [hf]), hheld', hheld]

/-- A drain stops behind an opening HEADERS frame. -/
theorem drainDirection_stops (direction : H2FrameDirection) (fuel : Nat)
    (self : H2Observer hpack) (before after : List FrameHeader) (frame : FrameHeader)
    (hframes : (frameDecoder.decodeAll (self.buffer direction).buffer).1 =
      before ++ frame :: after)
    (hbefore : ∀ f ∈ before, f.opensBlock = false) (hopens : frame.opensBlock = true)
    (hheld : self.partialHeaders = none)
    (hfuel : (self.buffer direction).buffer.length < fuel) :
    (frameDecoder.decodeAll
      ((H2Observer.drainDirection direction fuel self).2.buffer direction).buffer).1 = after := by
  induction fuel generalizing self before with
  | zero => omega
  | succ fuel ih =>
    cases hparse : parseNextFrame (self.buffer direction).buffer with
    | none => rw [frameDecoder.decodeAll_none hparse] at hframes; simp at hframes
    | some taken =>
      obtain ⟨first, rest⟩ := taken
      have hlen := parseNextFrame_consumes hparse
      rw [frameDecoder.decodeAll_some hparse] at hframes
      simp only at hframes
      cases before with
      | nil =>
        obtain ⟨rfl, hafter⟩ := List.cons.inj hframes
        rw [drainDirection_opens hparse hheld hopens fuel]
        exact hafter
      | cons f before =>
        obtain ⟨rfl, htail⟩ := List.cons.inj hframes
        obtain ⟨next, hdrain, hnext, hheld'⟩ :=
          drainDirection_goes_on hparse hheld (hbefore first (by simp)) fuel
        have hbuf : (next.buffer direction).buffer = rest := by rw [hnext]
        rw [hdrain]
        exact ih next before (by rw [hbuf]; exact htail)
          (fun f hf => hbefore f (by simp [hf])) hheld' (by rw [hbuf]; omega)

/-! ## Feeding chunks -/

/-- The two ways the callers of the observer drain it. -/
inductive DrainKind where
  | getAllEvents
  | pollNext
  deriving DecidableEq

def H2Observer.drainAs (kind : DrainKind) (self : H2Observer hpack) :
    List H2Event × H2Observer hpack :=
  match kind with
  | .getAllEvents => self.getAllEvents
  | .pollNext =>
    H2Observer.pollAll (self.incoming.buffer.length + self.outgoing.buffer.length + 1) self

/-- Writes one direction's bytes chunk by chunk, draining after each write. -/
def H2Observer.feedChunks (kind : DrainKind) (direction : H2FrameDirection) :
    H2Observer hpack → List (List UInt8) → List H2Event × H2Observer hpack
  | self, [] => ([], self)
  | self, chunk :: chunks =>
    let (events, next) := (self.write direction chunk).drainAs kind
    let (more, last) := H2Observer.feedChunks kind direction next chunks
    (events ++ more, last)

/-- After every drain no complete frame is left in the direction's buffer. -/
def H2Observer.SettledAfterEach (kind : DrainKind) (direction : H2FrameDirection) :
    H2Observer hpack → List (List UInt8) → Prop
  | _, [] => True
  | self, chunk :: chunks =>
    let next := ((self.write direction chunk).drainAs kind).2
    next.nextFrame direction = none ∧
      H2Observer.SettledAfterEach kind direction next chunks

/-- The bytes of a sequence of frames sent in one direction of a connection. -/
def streamBytes : H2FrameDirection → List WireFrame → List UInt8
  | .incoming, frames => preface ++ (frames.map WireFrame.bytes).flatten
  | .outgoing, frames => (frames.map WireFrame.bytes).flatten

/-- The events and the settled buffers do not depend on the chunks. -/
def ChunkingInvisible (hpack : HpackDecoder) (kind : DrainKind) (direction : H2FrameDirection)
    (frames : List WireFrame) : Prop :=
  ∀ chunks : List (List UInt8), chunks.flatten = streamBytes direction frames →
    ((H2Observer.new hpack).feedChunks kind direction chunks).1 =
        (((H2Observer.new hpack).write direction (streamBytes direction frames)).drainAs kind).1 ∧
      (H2Observer.new hpack).SettledAfterEach kind direction chunks

theorem nextFrame_eq_none {self : H2Observer hpack} {d : H2FrameDirection} :
    self.nextFrame d = none ↔ parseNextFrame (self.buffer d).buffer = none := by
  simp [H2Observer.nextFrame]

theorem nextFrame_none_iff {self : H2Observer hpack} {d : H2FrameDirection} :
    self.nextFrame d = none ↔ (frameDecoder.decodeAll (self.buffer d).buffer).1 = [] := by
  rw [nextFrame_eq_none]
  cases h : parseNextFrame (self.buffer d).buffer with
  | none => simp [frameDecoder.decodeAll_none h]
  | some taken => simp [frameDecoder.decodeAll_some h]

section OneDirection

variable (self : H2Observer hpack) (d : H2FrameDirection)

theorem pollOneFrame_empty (h : (self.buffer d).buffer = []) :
    self.pollOneFrame d = (none, self) := by
  rw [pollOneFrame_eq, h]
  rfl

theorem drainDirection_empty (fuel : Nat) (h : (self.buffer d).buffer = []) :
    H2Observer.drainDirection d fuel self = ([], self) := by
  cases fuel with
  | zero => rfl
  | succ fuel => rw [H2Observer.drainDirection, pollOneFrame_empty self d h]

theorem buffer_pollOneFrame_rest : (self.pollOneFrame d).2.buffer d.other = self.buffer d.other :=
  buffer_pollOneFrame_other self (by cases d <;> decide)

theorem buffer_drainDirection_rest (fuel : Nat) :
    (H2Observer.drainDirection d fuel self).2.buffer d.other = self.buffer d.other := by
  induction fuel generalizing self with
  | zero => rfl
  | succ fuel ih =>
    have hpoll := buffer_pollOneFrame_rest self d
    simp only [H2Observer.drainDirection]
    split
    · rename_i event next hstep
      rw [hstep] at hpoll
      exact (ih next).trans hpoll
    · rename_i next hstep
      rw [hstep] at hpoll
      exact hpoll

/-- With nothing buffered in the other direction `poll_next` polls this one. -/
theorem pollNext_eq (h : (self.buffer d.other).buffer = []) :
    self.pollNext = self.pollOneFrame d := by
  cases d with
  | incoming =>
    simp only [H2Observer.pollNext]
    have hrest := buffer_pollOneFrame_rest self .incoming
    split
    · rename_i event next hstep
      rw [hstep]
    · rename_i next hstep
      rw [hstep] at hrest ⊢
      exact pollOneFrame_empty next .outgoing (by
        change (next.buffer H2FrameDirection.incoming.other).buffer = []
        rw [hrest, h])
  | outgoing =>
    simp only [H2Observer.pollNext, pollOneFrame_empty self .incoming h]

theorem pollAll_eq (fuel : Nat) (h : (self.buffer d.other).buffer = []) :
    H2Observer.pollAll fuel self = H2Observer.drainDirection d fuel self := by
  induction fuel generalizing self with
  | zero => rfl
  | succ fuel ih =>
    simp only [H2Observer.pollAll, H2Observer.drainDirection, pollNext_eq self d h]
    have hrest := buffer_pollOneFrame_rest self d
    split
    · rename_i event next hstep
      rw [hstep] at hrest
      rw [ih next (by rw [hrest, h])]
    · rfl

/-- Both ways of draining are the loop over the direction that has bytes. -/
theorem drainAs_eq (kind : DrainKind) (h : (self.buffer d.other).buffer = []) :
    self.drainAs kind =
      H2Observer.drainDirection d ((self.buffer d).buffer.length + 1) self := by
  cases kind with
  | getAllEvents =>
    simp only [H2Observer.drainAs, H2Observer.getAllEvents]
    cases d with
    | incoming =>
      have hrest := buffer_drainDirection_rest self .incoming
        (self.incoming.buffer.length + 1)
      have hempty : ((H2Observer.drainDirection .incoming
          (self.incoming.buffer.length + 1) self).2.buffer .outgoing).buffer = [] := by
        change ((H2Observer.drainDirection .incoming _ self).2.buffer
          H2FrameDirection.incoming.other).buffer = []
        rw [hrest, h]
      rw [drainDirection_empty _ _ _ hempty]
      simp [H2Observer.buffer]
    | outgoing =>
      have hempty : (self.buffer .incoming).buffer = [] := h
      rw [drainDirection_empty _ _ _ hempty]
      simp [H2Observer.buffer]
  | pollNext =>
    rw [H2Observer.drainAs, pollAll_eq self d _ h]
    cases d <;> simp_all [H2Observer.buffer, H2FrameDirection.other]

end OneDirection

/-! ## A fed direction as a run -/

theorem opsTrace_tagged (self : H2Observer hpack) (d : H2FrameDirection)
    (ops : List ObserverOp) (hops : ∀ op ∈ ops, op.direction = d) :
    self.opsTrace ops = (framesOf d (self.opsTrace ops)).map (d, ·) := by
  have hmem : ∀ tagged ∈ self.opsTrace ops, tagged.1 = d := by
    induction ops generalizing self with
    | nil => simp [H2Observer.opsTrace]
    | cons op ops ih =>
      have hrest : ∀ op ∈ ops, op.direction = d := fun op h => hops op (by simp [h])
      have hop := hops op (by simp)
      cases op with
      | write direction data => exact ih _ hrest
      | poll direction =>
        intro tagged h
        simp only [H2Observer.opsTrace, List.mem_append, List.mem_map] at h
        rcases h with ⟨frame, _, rfl⟩ | h
        · exact hop
        · exact ih _ hrest tagged h
  generalize self.opsTrace ops = trace at hmem
  induction trace with
  | nil => rfl
  | cons tagged trace ih =>
    obtain ⟨direction, frame⟩ := tagged
    have hd : direction = d := hmem (direction, frame) (by simp)
    subst hd
    rw [framesOf_cons, if_pos rfl, List.map_cons, ← ih fun t h => hmem t (by simp [h])]

/-- Feeding chunks is a run of writes and polls of the one direction. -/
theorem feedChunks_runOps (kind : DrainKind) (d : H2FrameDirection) (self : H2Observer hpack)
    (chunks : List (List UInt8)) (hother : (self.buffer d.other).buffer = []) :
    ∃ ops : List ObserverOp, (∀ op ∈ ops, op.direction = d) ∧
      writtenBytes d ops = chunks.flatten ∧
      self.runOps ops = ((self.feedChunks kind d chunks).1.map (d, ·),
        (self.feedChunks kind d chunks).2) := by
  induction chunks generalizing self with
  | nil => exact ⟨[], by simp, rfl, rfl⟩
  | cons chunk chunks ih =>
    have hother' : ((self.write d chunk).buffer d.other).buffer = [] := by
      rw [buffer_write_other self (by cases d <;> decide)]; exact hother
    let written := self.write d chunk
    obtain ⟨n, hn⟩ := drainDirection_runOps d ((written.buffer d).buffer.length + 1) written
    have hdrain := drainAs_eq written d kind hother'
    obtain ⟨ops, hdir, hbytes, hrun⟩ := ih (written.drainAs kind).2 (by
      rw [hdrain, buffer_drainDirection_rest]; exact hother')
    refine ⟨.write d chunk :: (List.replicate n (.poll d) ++ ops), ?_, ?_, ?_⟩
    · intro op h
      simp only [List.mem_cons, List.mem_append, List.mem_replicate] at h
      rcases h with rfl | ⟨-, rfl⟩ | h
      · rfl
      · rfl
      · exact hdir op h
    · have hpolls : writtenBytes d (List.replicate n (.poll d)) = [] := by
        clear hn
        induction n with
        | zero => rfl
        | succ n ihn => simpa [List.replicate_succ, writtenBytes] using ihn
      simp [writtenBytes, writtenBytes_append, hpolls, hbytes]
    · simp only [H2Observer.runOps, runOps_append, H2Observer.feedChunks]
      change ((written.runOps _).1 ++ ((written.runOps _).2.runOps ops).1,
        ((written.runOps _).2.runOps ops).2) = _
      rw [hn, ← hdrain, hrun]
      simp [written]

/-- The last drain of a settled feed left no complete frame. -/
theorem settled_last (kind : DrainKind) (d : H2FrameDirection) (self : H2Observer hpack)
    (chunks : List (List UInt8)) (hself : self.nextFrame d = none)
    (h : self.SettledAfterEach kind d chunks) :
    (self.feedChunks kind d chunks).2.nextFrame d = none := by
  induction chunks generalizing self with
  | nil => exact hself
  | cons chunk chunks ih => exact ih _ h.1 h.2

theorem prefaced_streamBytes (d : H2FrameDirection) (frames : List WireFrame) :
    Prefaced d (streamBytes d frames) := by
  cases d with
  | incoming => exact Or.inr (List.prefix_append _ _)
  | outgoing => trivial

theorem decodeAll_streamBytes (d : H2FrameDirection) (frames : List WireFrame) :
    frameDecoder.decodeAll (frameBytes d (streamBytes d frames)) =
      (frames.map WireFrame.toFrameHeader, []) := by
  have hnil : frameDecoder.decodeAll [] = ([], []) :=
    frameDecoder.decodeAll_none rfl
  have h := frameDecoder_encodes.decodeAll_append frames []
  rw [hnil] at h
  cases d <;> simpa [streamBytes, frameBytes] using h

/-- A feed that settles reports the events of all frames sent. -/
theorem feedChunks_events (hpack : HpackDecoder) (kind : DrainKind) (d : H2FrameDirection)
    (frames : List WireFrame)
    (chunks : List (List UInt8)) (hchunks : chunks.flatten = streamBytes d frames)
    (hsettled : (H2Observer.new hpack).SettledAfterEach kind d chunks) :
    ((H2Observer.new hpack).feedChunks kind d chunks).1.map (d, ·) =
      ((H2Observer.new hpack).observe (frames.map fun f => (d, f.toFrameHeader))).1 := by
  obtain ⟨ops, hdir, hbytes, hrun⟩ := feedChunks_runOps kind d (H2Observer.new hpack) chunks
    (by cases d <;> rfl)
  have hlast := settled_last kind d (H2Observer.new hpack) chunks
    (nextFrame_eq_none.mpr (by cases d <;> rfl)) hsettled
  have htrace := opsTrace_new hpack d ops (by
    rw [hbytes, hchunks]; exact prefaced_streamBytes d frames)
  rw [hrun, nextFrame_none_iff.mp hlast, List.append_nil, hbytes, hchunks,
    decodeAll_streamBytes] at htrace
  have hevents := (runOps_observe (H2Observer.new hpack) ops).1
  rw [hrun, opsTrace_tagged _ d ops hdir, ← htrace] at hevents
  simp only [List.map_map] at hevents
  exact hevents

/-! ## When every drain settles -/

/-- Past the preface: if only the last frame still to come may open a block,
every drain settles. -/
theorem settled_open (kind : DrainKind) (d : H2FrameDirection) (self : H2Observer hpack)
    (chunks : List (List UInt8)) (hopen : (self.buffer d).Open)
    (hother : (self.buffer d.other).buffer = [])
    (hloud : ∀ frame ∈ (frameDecoder.decodeAll
      ((self.buffer d).buffer ++ chunks.flatten)).1.dropLast, frame.opensBlock = false)
    (hheld : self.partialHeaders = none ∨
      (frameDecoder.decodeAll ((self.buffer d).buffer ++ chunks.flatten)).1 = []) :
    self.SettledAfterEach kind d chunks := by
  induction chunks generalizing self with
  | nil => trivial
  | cons chunk chunks ih =>
    let written := self.write d chunk
    have hwritten : written.buffer d =
        { self.buffer d with buffer := (self.buffer d).buffer ++ chunk } := by
      rw [buffer_write_self, hopen.write]
    have hother' : (written.buffer d.other).buffer = [] := by
      rw [buffer_write_other self (by cases d <;> decide)]; exact hother
    rw [List.flatten_cons, ← List.append_assoc, frameDecoder.decodeAll_append] at hloud hheld
    let now := frameDecoder.decodeAll ((self.buffer d).buffer ++ chunk)
    let later := (frameDecoder.decodeAll (now.2 ++ chunks.flatten)).1
    change ∀ frame ∈ (now.1 ++ later).dropLast, frame.opensBlock = false at hloud
    change self.partialHeaders = none ∨ now.1 ++ later = [] at hheld
    have hbuf : (written.buffer d).buffer = (self.buffer d).buffer ++ chunk := by rw [hwritten]
    have hheld' : written.partialHeaders = self.partialHeaders := partialHeaders_setBuffer _ _ _
    have hnow : ∀ frame ∈ now.1.dropLast, frame.opensBlock = false := by
      intro frame h
      apply hloud
      by_cases hlater : later = []
      · simpa [hlater] using h
      · rw [List.dropLast_append_of_ne_nil hlater]
        exact List.mem_append_left _ (List.dropLast_subset _ h)
    obtain ⟨hrest, hslot⟩ := drainDirection_loud d ((written.buffer d).buffer.length + 1) written
      (by omega) (by rw [hbuf]; exact hnow) (by
        rw [hbuf, hheld']
        exact hheld.imp_right fun h => (List.append_eq_nil_iff.mp h).1)
    rw [hbuf] at hrest hslot
    have hdrain := drainAs_eq written d kind hother'
    rw [hbuf] at hdrain
    let drained := (written.drainAs kind).2
    have hdrained : drained.buffer d = { written.buffer d with buffer := now.2 } := by
      change (written.drainAs kind).2.buffer d = _
      rw [hdrain]; exact hrest
    refine ⟨?_, ih drained ?_ ?_ ?_ ?_⟩
    · rw [nextFrame_eq_none]
      change parseNextFrame (drained.buffer d).buffer = none
      rw [hdrained]
      exact frameDecoder.next_rest _
    · rw [hdrained, hwritten]; exact hopen
    · change ((written.drainAs kind).2.buffer d.other).buffer = []
      rw [hdrain, buffer_drainDirection_rest]; exact hother'
    · rw [hdrained]
      intro frame h
      apply hloud
      rw [List.dropLast_append_of_ne_nil (by
        intro hnil
        change frame ∈ later.dropLast at h
        rw [hnil] at h; cases h)]
      exact List.mem_append_right _ h
    · rw [hdrained]
      change (written.drainAs kind).2.partialHeaders = none ∨ later = []
      by_cases hlater : later = []
      · exact Or.inr hlater
      · left
        rw [hdrain, hslot (fun frame h => hloud frame (by
          rw [List.dropLast_append_of_ne_nil hlater]
          exact List.mem_append_left _ h)), hheld']
        exact hheld.resolve_right (by simp [hlater])

/-- The same from a buffer that still waits for the preface. -/
theorem settled_awaiting (kind : DrainKind) (self : H2Observer hpack)
    (chunks : List (List UInt8)) (hwait : self.incoming.AwaitingPreface)
    (hbytes : Prefaced .incoming (self.incoming.buffer ++ chunks.flatten))
    (hother : self.outgoing.buffer = [])
    (hloud : ∀ frame ∈ (frameDecoder.decodeAll
      ((self.incoming.buffer ++ chunks.flatten).drop preface.length)).1.dropLast,
        frame.opensBlock = false)
    (hheld : self.partialHeaders = none) :
    self.SettledAfterEach kind .incoming chunks := by
  induction chunks generalizing self with
  | nil => trivial
  | cons chunk chunks ih =>
    rw [List.flatten_cons, ← List.append_assoc] at hbytes hloud
    rcases hwait.write chunk _ hbytes with ⟨hwait', hbuf⟩ | ⟨hopen, hlen, hbuf⟩
    · have hquiet := parseNextFrame_preface hwait'.start hwait'.short
      have hpoll : (self.write .incoming chunk).drainAs kind =
          ([], self.write .incoming chunk) := by
        rw [drainAs_eq (self.write .incoming chunk) .incoming kind hother,
          H2Observer.drainDirection, pollOneFrame_eq]
        have hnone : parseNextFrame ((self.write .incoming chunk).buffer .incoming).buffer =
            none := hquiet
        rw [hnone]
      simp only [H2Observer.SettledAfterEach, hpoll]
      refine ⟨nextFrame_eq_none.mpr hquiet, ih _ hwait' ?_ hother ?_ hheld⟩
      · change Prefaced .incoming ((self.incoming.write chunk).buffer ++ chunks.flatten)
        rw [hbuf]; exact hbytes
      · change ∀ frame ∈ (frameDecoder.decodeAll (((self.incoming.write chunk).buffer ++
          chunks.flatten).drop preface.length)).1.dropLast, _
        rw [hbuf]; exact hloud
    · rw [List.drop_append_of_le_length hlen, ← hbuf] at hloud
      have hlater := settled_open kind .incoming
        { self with incoming := { self.incoming.write chunk with buffer := [] } }
        ((self.incoming.write chunk).buffer :: chunks) hopen hother
        (by simpa [H2Observer.buffer] using hloud) (Or.inl hheld)
      have hsame : H2Observer.write
          { self with incoming := { self.incoming.write chunk with buffer := [] } } .incoming
            (self.incoming.write chunk).buffer = self.write .incoming chunk := by
        simp only [H2Observer.write, H2Observer.setBuffer, H2Observer.buffer]
        have hempty : H2Buffer.Open { self.incoming.write chunk with buffer := [] } := hopen
        rw [hempty.write]
        rfl
      simp only [H2Observer.SettledAfterEach, hsame] at hlater
      exact hlater

/-- The first frame of a list that opens a block, where one before the last does. -/
private theorem split_first_opening (frames : List WireFrame)
    (h : ∃ frame ∈ frames.dropLast, frame.opensBlock = true) :
    ∃ before frame after, frames = before ++ frame :: after ∧ after ≠ [] ∧
      (∀ f ∈ before, f.opensBlock = false) ∧ frame.opensBlock = true := by
  induction frames with
  | nil => simp at h
  | cons first frames ih =>
    cases frames with
    | nil => simp at h
    | cons second frames =>
      cases hfirst : first.opensBlock with
      | true => exact ⟨[], first, second :: frames, rfl, by simp, by simp, hfirst⟩
      | false =>
        obtain ⟨frame, hmem, hopens⟩ := h
        rw [List.dropLast_cons_cons, List.mem_cons] at hmem
        rcases hmem with rfl | hmem
        · rw [hfirst] at hopens; cases hopens
        · obtain ⟨before, f, after, heq, hne, hbefore, hf⟩ := ih ⟨frame, hmem, hopens⟩
          refine ⟨first :: before, f, after, by rw [heq]; rfl, hne, ?_, hf⟩
          intro g hg
          rcases List.mem_cons.mp hg with rfl | hg
          · exact hfirst
          · exact hbefore g hg

theorem dropLast_opensBlock (frames : List WireFrame)
    (h : ∀ frame ∈ frames.dropLast, frame.opensBlock = false) :
    ∀ frame ∈ (frames.map WireFrame.toFrameHeader).dropLast, frame.opensBlock = false := by
  intro frame hframe
  rw [← List.map_dropLast] at hframe
  obtain ⟨wire, hwire, rfl⟩ := List.mem_map.mp hframe
  exact h wire hwire

/-- If only the last frame may open a block, every drain settles. -/
theorem settledAfterEach_of_loud (hpack : HpackDecoder) (kind : DrainKind) (d : H2FrameDirection)
    (frames : List WireFrame) (h : ∀ frame ∈ frames.dropLast, frame.opensBlock = false)
    (chunks : List (List UInt8)) (hchunks : chunks.flatten = streamBytes d frames) :
    (H2Observer.new hpack).SettledAfterEach kind d chunks := by
  have hframes := decodeAll_streamBytes d frames
  have hloud := dropLast_opensBlock frames h
  cases d with
  | incoming =>
    refine settled_awaiting kind _ chunks .fresh ?_ rfl ?_ rfl
    · change Prefaced .incoming ([] ++ chunks.flatten)
      rw [List.nil_append, hchunks]
      exact prefaced_streamBytes .incoming frames
    · change ∀ frame ∈ (frameDecoder.decodeAll
        (([] ++ chunks.flatten).drop preface.length)).1.dropLast, _
      rw [List.nil_append, hchunks]
      change ∀ frame ∈ (frameDecoder.decodeAll
        (frameBytes .incoming (streamBytes .incoming frames))).1.dropLast, _
      rw [hframes]
      exact hloud
  | outgoing =>
    refine settled_open kind .outgoing _ chunks (Or.inl rfl) rfl ?_ (Or.inl rfl)
    change ∀ frame ∈ (frameDecoder.decodeAll ([] ++ chunks.flatten)).1.dropLast, _
    rw [List.nil_append, hchunks]
    change ∀ frame ∈ (frameDecoder.decodeAll
      (frameBytes .outgoing (streamBytes .outgoing frames))).1.dropLast, _
    rw [hframes]
    exact hloud

/-- If a frame before the last one opens a block, one write of all the bytes
and one drain leave complete frames in the buffer. -/
theorem not_settled_of_opening (kind : DrainKind) (d : H2FrameDirection)
    (frames : List WireFrame) (h : ∃ frame ∈ frames.dropLast, frame.opensBlock = true) :
    ¬ (H2Observer.new hpack).SettledAfterEach kind d [streamBytes d frames] := by
  obtain ⟨before, frame, after, rfl, hafter, hbefore, hopens⟩ := split_first_opening frames h
  intro hsettled
  let frames := before ++ frame :: after
  let written := (H2Observer.new hpack).write d (streamBytes d frames)
  have hbuffer : (written.buffer d).buffer = frameBytes d (streamBytes d frames) := by
    rw [buffer_write_self]
    cases d with
    | incoming =>
      rcases H2Buffer.AwaitingPreface.fresh.write (streamBytes .incoming frames) []
        (by rw [List.append_nil]; exact prefaced_streamBytes .incoming frames)
        with ⟨hwait, hbuf⟩ | ⟨-, -, hbuf⟩
      · have hshort := hwait.short
        rw [hbuf] at hshort
        simp [H2Buffer.new, streamBytes] at hshort
      · exact hbuf
    | outgoing => rfl
  have hother : (written.buffer d.other).buffer = [] := by cases d <;> rfl
  have hdecode := decodeAll_streamBytes d frames
  have hstops := drainDirection_stops d ((written.buffer d).buffer.length + 1) written
    (before.map WireFrame.toFrameHeader) (after.map WireFrame.toFrameHeader)
    frame.toFrameHeader (by rw [hbuffer, hdecode]; simp [frames])
    (by
      intro f hf
      obtain ⟨wire, hwire, rfl⟩ := List.mem_map.mp hf
      exact hbefore wire hwire)
    hopens (by cases d <;> rfl) (by omega)
  have hnone : (written.drainAs kind).2.nextFrame d = none := hsettled.1
  rw [drainAs_eq _ _ kind hother, nextFrame_none_iff, hstops] at hnone
  exact hafter (List.map_eq_nil_iff.mp hnone)

/-- **When the observer is independent of chunking**: for every direction and
every sequence of frames sent in it, both ways of draining give the events of
one write and leave no complete frame behind for every cut of the bytes, if
and only if no frame but the last opens a header block. -/
theorem chunkingInvisible_iff (hpack : HpackDecoder) (kind : DrainKind)
    (d : H2FrameDirection) (frames : List WireFrame) :
    ChunkingInvisible hpack kind d frames ↔
      ∀ frame ∈ frames.dropLast, frame.opensBlock = false := by
  constructor
  · intro h
    by_contra hopening
    push Not at hopening
    obtain ⟨frame, hframe, hopens⟩ := hopening
    exact not_settled_of_opening kind d frames ⟨frame, hframe, by simpa using hopens⟩
      (h [streamBytes d frames] (by simp)).2
  · intro h chunks hchunks
    have hsettled := settledAfterEach_of_loud hpack kind d frames h
    refine ⟨?_, hsettled chunks hchunks⟩
    have hevents := feedChunks_events hpack kind d frames chunks hchunks (hsettled chunks hchunks)
    have honce := feedChunks_events hpack kind d frames [streamBytes d frames]
      (by simp) (hsettled _ (by simp))
    rw [← honce] at hevents
    have := List.map_injective_iff.mpr (fun _ _ h => congrArg Prod.snd h) hevents
    simpa [H2Observer.feedChunks] using this

/-- A response HEADERS frame without END_HEADERS and the CONTINUATION that
ends its block. -/
def continuedResponse : List WireFrame :=
  [⟨⟨0x1, 0x1, 1, [0x88]⟩, by decide, by decide⟩,
    ⟨⟨0x9, 0x4, 1, [0xB6]⟩, by decide, by decide⟩]

/-- Written at once and drained, the continued response is not reported: the
drain ends at the HEADERS frame and leaves the CONTINUATION in the buffer. -/
theorem continuedResponse_not_invisible :
    ¬ ChunkingInvisible staticHpack .getAllEvents .outgoing continuedResponse := by
  intro h
  have hsettled := (h [streamBytes .outgoing continuedResponse] (by simp)).2.1
  revert hsettled
  decide

end OddBox.H2

import OddBox.H2.Contents

/-!
The two directions of a connection share the slot for an unfinished header
block and the stream table. Here the observer of both is compared with two
observers that see one direction each (`alone`). While each direction's frames
find the slot and their stream free of the other direction, the shared observer
reports for either direction what the observer of that direction alone reports,
whatever the other direction sends and however the two are interleaved.
-/

namespace OddBox.H2

open Incremental

variable {hpack : HpackDecoder}

/-! ## When one direction yields to the other -/

/-- Frames that read and write the contents of their stream: DATA, and the
frame that ends a header block. -/
def FrameHeader.touchesStream (frame : FrameHeader) : Bool :=
  frame.frameType == 0x0 ||
    ((frame.frameType == 0x1 || frame.frameType == 0x9) && hasFlag frame.flags 0x4)

/-- The observer `other` of the frames of direction `d` leaves room for a frame
of the opposite direction: it is not in the middle of a header block if the
frame opens one, and has nothing unfinished on the frame's stream if the frame
touches it. -/
structure Yields (other : H2Observer hpack) (d : H2FrameDirection) (frame : FrameHeader) :
    Prop where
  slot : frame.opensBlock = true → other.heldFor d = none
  stream : frame.touchesStream = true → other.contents frame.streamId = .empty

instance (other : H2Observer hpack) (d : H2FrameDirection) (frame : FrameHeader) :
    Decidable (Yields other d frame) :=
  decidable_of_iff
    ((frame.opensBlock = true → other.heldFor d = none) ∧
      (frame.touchesStream = true → other.contents frame.streamId = .empty))
    ⟨fun h => ⟨h.1, h.2⟩, fun h => ⟨h.slot, h.stream⟩⟩

/-- An observer for each direction. -/
abbrev Alone (hpack : HpackDecoder) := H2FrameDirection → H2Observer hpack

def Alone.new (hpack : HpackDecoder) : Alone hpack := fun _ => H2Observer.new hpack

/-- Passes a frame to the observer of its direction. -/
def Alone.receive (alone : Alone hpack) (direction : H2FrameDirection) (frame : FrameHeader) :
    Alone hpack :=
  Function.update alone direction ((alone direction).processFrame direction frame).2

/-- Every frame finds room left by the other direction: the streams are used
one direction at a time, and so is the slot. -/
def HalfDuplex : Alone hpack → List (H2FrameDirection × FrameHeader) → Prop
  | _, [] => True
  | alone, (direction, frame) :: frames =>
    Yields (alone direction.other) direction.other frame ∧
      HalfDuplex (alone.receive direction frame) frames

instance decidableHalfDuplex : ∀ (alone : Alone hpack)
    (frames : List (H2FrameDirection × FrameHeader)), Decidable (HalfDuplex alone frames)
  | _, [] => isTrue trivial
  | alone, (direction, frame) :: frames =>
    have := decidableHalfDuplex (alone.receive direction frame) frames
    inferInstanceAs (Decidable (_ ∧ _))

/-! ## What an action is about -/

theorem action_hold {direction : H2FrameDirection} {held : Option PartialHeadersState}
    {frame : FrameHeader} {next : PartialHeadersState}
    (h : frame.action direction held = .hold next) :
    frame.opensBlock = true ∨ ∃ before, held = some before := by
  cases held with
  | some before => exact Or.inr ⟨before, rfl⟩
  | none =>
    left
    simp only [FrameHeader.action, FrameHeader.regularAction] at h
    split at h
    case h_2 htype =>
      split at h
      · cases h
      · rename_i block hparse
        simp [FrameHeader.opensBlock, htype, hparse]
      · cases h
    all_goals cases h

theorem parseHeadersPayload_ended {flags : UInt8} {payload block : List UInt8} {ended : Bool}
    (h : parseHeadersPayload flags payload = some (block, ended)) :
    ended = hasFlag flags 0x4 := by
  unfold parseHeadersPayload at h
  split at h
  · cases h
  · dsimp only at h
    split at h
    · cases h
    · split at h
      · cases h
      · cases h
        rfl

theorem regularAction_complete {direction : H2FrameDirection} {frame : FrameHeader}
    {streamId : Nat} {flags : UInt8} {block : List UInt8} {fromSlot : Bool}
    (h : frame.regularAction direction = .complete streamId flags block fromSlot) :
    streamId = frame.streamId ∧ frame.touchesStream = true := by
  simp only [FrameHeader.regularAction] at h
  split at h
  case h_2 htype =>
    split at h
    · rename_i hparse
      cases h
      have hended := parseHeadersPayload_ended hparse
      exact ⟨rfl, by simp [FrameHeader.touchesStream, htype, ← hended]⟩
    · cases h
    · cases h
  all_goals cases h

/-- A block is completed on the stream of the frame that completes it. -/
theorem action_complete {direction : H2FrameDirection} {held : Option PartialHeadersState}
    {frame : FrameHeader} {streamId : Nat} {flags : UInt8} {block : List UInt8}
    {fromSlot : Bool} (h : frame.action direction held = .complete streamId flags block fromSlot) :
    streamId = frame.streamId ∧ frame.touchesStream = true := by
  cases held with
  | none => exact regularAction_complete h
  | some before =>
    simp only [FrameHeader.action] at h
    split at h
    · rename_i hcont
      rw [continues_iff] at hcont
      split at h
      · rename_i hflag
        cases h
        exact ⟨hcont.2.symm, by simp [FrameHeader.touchesStream, hcont.1, hflag]⟩
      · cases h
    · exact regularAction_complete h

theorem action_data {direction : H2FrameDirection} {held : Option PartialHeadersState}
    {frame : FrameHeader} (h : frame.action direction held = .data) :
    frame.touchesStream = true := by
  have hregular : frame.regularAction direction = .data → frame.touchesStream = true := by
    intro h
    simp only [FrameHeader.regularAction] at h
    split at h
    case h_1 htype => simp [FrameHeader.touchesStream, htype]
    case h_2 => split at h <;> cases h
    all_goals cases h
  cases held with
  | none => exact hregular h
  | some before =>
    simp only [FrameHeader.action] at h
    split at h
    · split at h <;> cases h
    · exact hregular h

/-- An action changes the contents of no stream but the one its frame touches. -/
theorem effect_stream {direction : H2FrameDirection} {held : Option PartialHeadersState}
    {frame : FrameHeader} {decoded : List UInt8 → Option (List (List UInt8 × List UInt8))}
    {contents : Nat → StreamContents} {s : Nat} {after : StreamContents}
    (h : ((frame.action direction held).effect direction frame decoded contents).2 =
      some (s, after)) :
    s = frame.streamId ∧ frame.touchesStream = true := by
  cases haction : frame.action direction held with
  | hold next => rw [haction] at h; cases h
  | complete streamId flags block fromSlot =>
    obtain ⟨hstream, htouches⟩ := action_complete haction
    rw [haction] at h
    simp only [FrameAction.effect, Option.some.injEq, Prod.mk.injEq] at h
    exact ⟨h.1.symm.trans hstream, htouches⟩
  | data =>
    rw [haction] at h
    simp only [FrameAction.effect, Option.some.injEq, Prod.mk.injEq] at h
    exact ⟨h.1.symm, action_data haction⟩
  | windowUpdate => rw [haction] at h; cases h
  | report event => rw [haction] at h; cases h

/-- The effect of an action is that of the contents of the frame's stream. -/
theorem effect_congr {direction : H2FrameDirection} {held : Option PartialHeadersState}
    {frame : FrameHeader} (decoded : List UInt8 → Option (List (List UInt8 × List UInt8)))
    {contents contents' : Nat → StreamContents}
    (h : frame.touchesStream = true → contents frame.streamId = contents' frame.streamId) :
    (frame.action direction held).effect direction frame decoded contents =
      (frame.action direction held).effect direction frame decoded contents' := by
  cases haction : frame.action direction held with
  | complete streamId flags block fromSlot =>
    obtain ⟨rfl, htouches⟩ := action_complete haction
    simp only [FrameAction.effect, h htouches]
  | data => simp only [FrameAction.effect, h (action_data haction)]
  | _ => rfl

/-! ## The simulation -/

/-- The shared observer is in the states of the two observers that see one
direction each, and each stream belongs to one of them. -/
structure Simulates (shared : H2Observer hpack) (alone : Alone hpack) : Prop where
  decoder : ∀ d, shared.hpackDecoder d = (alone d).hpackDecoder d
  held : ∀ d, shared.heldFor d = (alone d).heldFor d
  stream : ∀ s, ∃ d, (alone d.other).contents s = .empty ∧
    shared.contents s = (alone d).contents s

theorem simulates_new (hpack : HpackDecoder) :
    Simulates (H2Observer.new hpack) (Alone.new hpack) where
  decoder _ := rfl
  held _ := rfl
  stream _ := ⟨.incoming, rfl, rfl⟩

theorem eq_or_other (d d' : H2FrameDirection) : d' = d ∨ d' = d.other := by
  cases d <;> cases d' <;> decide

@[simp] theorem other_other (d : H2FrameDirection) : d.other.other = d := by cases d <;> rfl

@[simp] theorem other_ne (d : H2FrameDirection) : d.other ≠ d := by cases d <;> decide

/-- Where the other direction has nothing on a stream, the shared contents are
those of this direction. -/
theorem Simulates.contents_of_empty {shared : H2Observer hpack} {alone : Alone hpack}
    (h : Simulates shared alone) {d : H2FrameDirection} {s : Nat}
    (hempty : (alone d.other).contents s = .empty) :
    shared.contents s = (alone d).contents s := by
  obtain ⟨owner, hidle, hshared⟩ := h.stream s
  rcases eq_or_other d owner with rfl | rfl
  · exact hshared
  · rw [other_other] at hidle
    rw [hshared, hempty, hidle]

section Step

variable {shared : H2Observer hpack} {alone : Alone hpack} {d : H2FrameDirection}
  {frame : FrameHeader}

/-- The shared observer and the one that sees this direction decide and report
the same. -/
theorem Simulates.same_effect (hsim : Simulates shared alone)
    (hyields : Yields (alone d.other) d.other frame) :
    frame.action d (shared.heldFor d) = frame.action d ((alone d).heldFor d) ∧
      (frame.action d (shared.heldFor d)).effect d frame
          (fun block => (hpack.decode (shared.hpackDecoder d) block).2) shared.contents =
        (frame.action d ((alone d).heldFor d)).effect d frame
          (fun block => (hpack.decode ((alone d).hpackDecoder d) block).2)
          (alone d).contents := by
  have haction : frame.action d (shared.heldFor d) = frame.action d ((alone d).heldFor d) := by
    rw [hsim.held d]
  refine ⟨haction, ?_⟩
  rw [haction, hsim.decoder d]
  apply effect_congr
  intro htouches
  exact hsim.contents_of_empty (hyields.stream htouches)

theorem Simulates.same_event (hsim : Simulates shared alone)
    (hyields : Yields (alone d.other) d.other frame) :
    (shared.processFrame d frame).1 = ((alone d).processFrame d frame).1 := by
  obtain ⟨-, heffect⟩ := hsim.same_effect hyields
  rw [processFrame_perform, processFrame_perform]
  rw [(perform_contents shared d frame _).1, (perform_contents (alone d) d frame _).1, heffect]

theorem Simulates.step_decoder (hsim : Simulates shared alone)
    (hyields : Yields (alone d.other) d.other frame) (d' : H2FrameDirection) :
    (shared.processFrame d frame).2.hpackDecoder d' =
      (alone.receive d frame d').hpackDecoder d' := by
  obtain ⟨haction, -⟩ := hsim.same_effect hyields
  rw [processFrame_perform, hpackDecoder_perform, haction]
  rcases eq_or_other d d' with rfl | rfl
  · rw [Alone.receive, Function.update_self, processFrame_perform, hpackDecoder_perform,
      hsim.decoder]
  · rw [Alone.receive, Function.update_of_ne (other_ne d), hsim.decoder d.other]
    cases frame.action d ((alone d).heldFor d) with
    | complete => exact if_neg (other_ne d)
    | _ => rfl

theorem Simulates.step_held (hsim : Simulates shared alone)
    (hyields : Yields (alone d.other) d.other frame) (d' : H2FrameDirection) :
    (shared.processFrame d frame).2.heldFor d' = (alone.receive d frame d').heldFor d' := by
  obtain ⟨haction, -⟩ := hsim.same_effect hyields
  rw [processFrame_perform, heldFor_perform, haction]
  rcases eq_or_other d d' with rfl | rfl
  · rw [Alone.receive, Function.update_self, processFrame_perform, heldFor_perform, hsim.held]
  · rw [Alone.receive, Function.update_of_ne (other_ne d)]
    cases hact : frame.action d ((alone d).heldFor d) with
    | hold next =>
      -- the slot is taken only where the other direction holds nothing
      simp only [if_neg (other_ne d)]
      rcases action_hold hact with hopens | ⟨before, hbefore⟩
      · exact (hyields.slot hopens).symm
      · rw [← hsim.held d] at hbefore
        rw [← hsim.held d.other, heldFor_other shared d hbefore]
    | complete streamId flags block fromSlot =>
      cases fromSlot with
      | false => exact hsim.held d.other
      | true =>
        have hheld : ∃ before, shared.heldFor d = some before := by
          rw [hsim.held d]
          cases h : (alone d).heldFor d with
          | some before => exact ⟨before, rfl⟩
          | none =>
            rw [h] at hact
            simp only [FrameHeader.action, FrameHeader.regularAction] at hact
            split at hact
            case h_2 => split at hact <;> cases hact
            all_goals cases hact
        obtain ⟨before, hbefore⟩ := hheld
        rw [← hsim.held d.other, heldFor_other shared d hbefore]
    | data => exact hsim.held d.other
    | windowUpdate => exact hsim.held d.other
    | report event => exact hsim.held d.other

/-- A stream that the frame leaves alone keeps its owner. -/
theorem Simulates.stream_kept (hsim : Simulates shared alone) {s : Nat}
    (hshared : (shared.processFrame d frame).2.contents s = shared.contents s)
    (halone : ((alone d).processFrame d frame).2.contents s = (alone d).contents s) :
    ∃ owner, (alone.receive d frame owner.other).contents s = .empty ∧
      (shared.processFrame d frame).2.contents s = (alone.receive d frame owner).contents s := by
  have hsame : ∀ d', (alone.receive d frame d').contents s = (alone d').contents s := by
    intro d'
    by_cases hd : d' = d
    · rw [hd, Alone.receive, Function.update_self]
      exact halone
    · rw [Alone.receive, Function.update_of_ne hd]
  obtain ⟨owner, hempty, howner⟩ := hsim.stream s
  refine ⟨owner, ?_, ?_⟩
  · rw [hsame]
    exact hempty
  · rw [hshared, howner, hsame]

theorem Simulates.step_stream (hsim : Simulates shared alone)
    (hyields : Yields (alone d.other) d.other frame) (s : Nat) :
    ∃ owner, (alone.receive d frame owner.other).contents s = .empty ∧
      (shared.processFrame d frame).2.contents s = (alone.receive d frame owner).contents s := by
  obtain ⟨haction, heffect⟩ := hsim.same_effect hyields
  have hshared := (perform_contents shared d frame (frame.action d (shared.heldFor d))).2 s
  have halone := (perform_contents (alone d) d frame (frame.action d ((alone d).heldFor d))).2 s
  rw [← processFrame_perform] at hshared halone
  rw [heffect] at hshared
  cases htarget : ((frame.action d ((alone d).heldFor d)).effect d frame
      (fun block => (hpack.decode ((alone d).hpackDecoder d) block).2) (alone d).contents).2 with
  | some changed =>
    obtain ⟨streamId, after⟩ := changed
    obtain ⟨rfl, htouches⟩ := effect_stream htarget
    by_cases hs : s = frame.streamId
    · -- the stream of the frame now belongs to its direction
      subst hs
      simp only [htarget, if_true] at hshared halone
      refine ⟨d, ?_, ?_⟩
      · rw [Alone.receive, Function.update_of_ne (other_ne d)]
        exact hyields.stream htouches
      · rw [Alone.receive, Function.update_self, hshared, halone]
    · simp only [htarget, if_neg hs] at hshared halone
      exact hsim.stream_kept hshared halone
  | none =>
    simp only [htarget] at hshared halone
    exact hsim.stream_kept hshared halone

/-- One frame keeps the simulation. -/
theorem Simulates.step (hsim : Simulates shared alone)
    (hyields : Yields (alone d.other) d.other frame) :
    Simulates (shared.processFrame d frame).2 (alone.receive d frame) where
  decoder := hsim.step_decoder hyields
  held := hsim.step_held hyields
  stream := hsim.step_stream hyields

end Step

/-! ## Whole runs -/

/-- The events reported for one direction. -/
def eventsOf (d : H2FrameDirection) (events : List (H2FrameDirection × H2Event)) :
    List H2Event :=
  (events.filter (·.1 = d)).map (·.2)

theorem eventsOf_tagged (d direction : H2FrameDirection) (event : Option H2Event)
    (events : List (H2FrameDirection × H2Event)) :
    eventsOf d (event.toList.map (direction, ·) ++ events) =
      (if direction = d then event.toList else []) ++ eventsOf d events := by
  cases event with
  | none => simp [eventsOf]
  | some event => by_cases h : direction = d <;> simp [eventsOf, h]

/-- What an observer of the frames of one direction reports. -/
def H2Observer.observeAlone (self : H2Observer hpack) (d : H2FrameDirection)
    (frames : List FrameHeader) : List H2Event :=
  eventsOf d (self.observe (frames.map (d, ·))).1

theorem observeAlone_cons (self : H2Observer hpack) (d : H2FrameDirection) (frame : FrameHeader)
    (frames : List FrameHeader) :
    self.observeAlone d (frame :: frames) = (self.processFrame d frame).1.toList ++
      (self.processFrame d frame).2.observeAlone d frames := by
  simp only [H2Observer.observeAlone, List.map_cons, H2Observer.observe, eventsOf_tagged]
  rfl

/-- Over a half-duplex run the shared observer reports for each direction what
the observer of that direction alone reports. -/
theorem Simulates.observe {shared : H2Observer hpack} {alone : Alone hpack}
    (hsim : Simulates shared alone) (d : H2FrameDirection)
    (frames : List (H2FrameDirection × FrameHeader)) (hhalf : HalfDuplex alone frames) :
    eventsOf d (shared.observe frames).1 = (alone d).observeAlone d (framesOf d frames) := by
  induction frames generalizing shared alone with
  | nil => rfl
  | cons tagged frames ih =>
    obtain ⟨direction, frame⟩ := tagged
    obtain ⟨hyields, hrest⟩ := hhalf
    have hnext := ih (hsim.step hyields) hrest
    simp only [H2Observer.observe, eventsOf_tagged, framesOf_cons, hnext]
    by_cases hd : direction = d
    · subst hd
      rw [if_pos rfl, if_pos rfl, observeAlone_cons, hsim.same_event hyields, Alone.receive,
        Function.update_self]
    · rw [if_neg hd, if_neg hd, Alone.receive, Function.update_of_ne (Ne.symm hd)]
      rfl

/-- The events of a drained half-duplex run are a function of the direction's
own bytes. -/
theorem events_of_bytes (d : H2FrameDirection) (ops : List ObserverOp)
    (hbytes : Prefaced d (writtenBytes d ops))
    (hdrained : ((H2Observer.new hpack).runOps ops).2.nextFrame d = none)
    (hhalf : HalfDuplex (Alone.new hpack) ((H2Observer.new hpack).opsTrace ops)) :
    eventsOf d ((H2Observer.new hpack).runOps ops).1 =
      (H2Observer.new hpack).observeAlone d
        (frameDecoder.decodeAll (frameBytes d (writtenBytes d ops))).1 := by
  have hleft : (frameDecoder.decodeAll
      (((H2Observer.new hpack).runOps ops).2.buffer d).buffer).1 = [] := by
    rw [H2Observer.nextFrame, Option.map_eq_none_iff] at hdrained
    rw [frameDecoder.decodeAll_none hdrained]
  have htrace := opsTrace_new hpack d ops hbytes
  rw [hleft, List.append_nil] at htrace
  rw [(runOps_observe (H2Observer.new hpack) ops).1, htrace]
  exact (simulates_new hpack).observe d _ hhalf

/-- **Direction noninterference**: two drained half-duplex runs that receive
the same bytes in one direction report the same events for it, those of an
observer that sees nothing of the other direction, whatever bytes the other
direction carries and however the chunks of the two are interleaved. -/
theorem direction_noninterference (hpack : HpackDecoder) (d : H2FrameDirection)
    (ops ops' : List ObserverOp) (hsame : writtenBytes d ops = writtenBytes d ops')
    (hbytes : Prefaced d (writtenBytes d ops))
    (hdrained : ((H2Observer.new hpack).runOps ops).2.nextFrame d = none)
    (hdrained' : ((H2Observer.new hpack).runOps ops').2.nextFrame d = none)
    (hhalf : HalfDuplex (Alone.new hpack) ((H2Observer.new hpack).opsTrace ops))
    (hhalf' : HalfDuplex (Alone.new hpack) ((H2Observer.new hpack).opsTrace ops')) :
    eventsOf d ((H2Observer.new hpack).runOps ops).1 =
        eventsOf d ((H2Observer.new hpack).runOps ops').1 ∧
      eventsOf d ((H2Observer.new hpack).runOps ops).1 =
        (H2Observer.new hpack).observeAlone d
          (frameDecoder.decodeAll (frameBytes d (writtenBytes d ops))).1 := by
  have h := events_of_bytes d ops hbytes hdrained hhalf
  have h' := events_of_bytes d ops' (hsame ▸ hbytes) hdrained' hhalf'
  rw [← hsame] at h'
  exact ⟨h.trans h'.symm, h⟩

/-- A server answers a GET. -/
def answeredGet : List ObserverOp :=
  [.write .incoming (preface ++ encodeFrame false ⟨0x1, 0x5, 1, [0x82]⟩), .poll .incoming,
    .write .outgoing (encodeFrame false ⟨0x1, 0x4, 1, [0x88]⟩), .poll .outgoing,
    .write .outgoing (encodeFrame false ⟨0x0, 0x1, 1, [66]⟩), .poll .outgoing]

/-- The same answer while nothing has come from the client. -/
def answerOnly : List ObserverOp :=
  [.write .outgoing (encodeFrame false ⟨0x1, 0x4, 1, [0x88]⟩ ++
      encodeFrame false ⟨0x0, 0x1, 1, [66]⟩), .poll .outgoing, .poll .outgoing]

theorem answer_undisturbed :
    eventsOf .outgoing ((H2Observer.new staticHpack).runOps answeredGet).1 =
        eventsOf .outgoing ((H2Observer.new staticHpack).runOps answerOnly).1 ∧
      eventsOf .outgoing ((H2Observer.new staticHpack).runOps answeredGet).1 =
        (H2Observer.new staticHpack).observeAlone .outgoing
          (frameDecoder.decodeAll (frameBytes .outgoing (writtenBytes .outgoing answeredGet))).1 :=
  direction_noninterference staticHpack .outgoing answeredGet answerOnly (by decide) trivial
    (by decide +kernel) (by decide +kernel) (by decide +kernel) (by decide +kernel)

/-- The same answer to a POST that is still being sent. -/
def answeredEarly : List ObserverOp :=
  [.write .incoming (preface ++ encodeFrame false ⟨0x1, 0x4, 1, [0x83]⟩ ++
      encodeFrame false ⟨0x0, 0x0, 1, [65]⟩), .poll .incoming, .poll .incoming,
    .write .outgoing (encodeFrame false ⟨0x1, 0x4, 1, [0x88]⟩), .poll .outgoing,
    .write .outgoing (encodeFrame false ⟨0x0, 0x1, 1, [66]⟩), .poll .outgoing]

/-- The server sends the same bytes, and its answer to the POST is reported
with the client's byte in front of its own. -/
theorem answeredEarly_disturbed :
    writtenBytes .outgoing answeredEarly = writtenBytes .outgoing answeredGet ∧
      (∀ ops ∈ [answeredEarly, answeredGet],
        ((H2Observer.new staticHpack).runOps ops).2.nextFrame .incoming = none ∧
          ((H2Observer.new staticHpack).runOps ops).2.nextFrame .outgoing = none) ∧
      .outgoingResponse ⟨1, "200", [(":status", "200")], [65, 66]⟩ ∈
        eventsOf .outgoing ((H2Observer.new staticHpack).runOps answeredEarly).1 ∧
      eventsOf .outgoing ((H2Observer.new staticHpack).runOps answeredEarly).1 ≠
        eventsOf .outgoing ((H2Observer.new staticHpack).runOps answeredGet).1 := by
  decide +kernel

end OddBox.H2

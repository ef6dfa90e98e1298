import OddBox.H2.HeaderBlocks
import OddBox.H2.Noninterference

/-!
Responses as a backend sends them. `ResponseLedger` follows the frames of the
outgoing direction by the rules of HTTP/2: every header block goes to the
decoder, a block with `:status` starts a response, DATA extends its body, and
END_STREAM on either of them or on a block of trailers completes it. The
observer reports exactly these responses in half-duplex runs in which every
header block of the backend is a response head.
-/

namespace OddBox.H2

variable {hpack : HpackDecoder}

/-! ## The responses sent -/

structure ResponseLedger (hpack : HpackDecoder) where
  decoder : hpack.State
  held : Option OpenBlock
  streams : Nat → StreamContents

def ResponseLedger.new (hpack : HpackDecoder) : ResponseLedger hpack :=
  ⟨hpack.new, none, fun _ => .empty⟩

def ResponseLedger.setStream (ledger : ResponseLedger hpack) (streamId : Nat)
    (contents : StreamContents) : ResponseLedger hpack :=
  { ledger with streams := Function.update ledger.streams streamId contents }

/-- The response whose head and body these are. -/
def StreamContents.response (contents : StreamContents) (streamId : Nat) : Option H2Response :=
  contents.headers.map fun headers =>
    { streamId
      status := (headers.get? ":status").getD ""
      headers
      body := contents.body }

/-- Takes over what a frame makes of its stream, and completes the response
there if the frame ends the stream. -/
def ResponseLedger.extend (ledger : ResponseLedger hpack) (streamId : Nat)
    (contents : StreamContents) (endStream : Bool) :
    Option H2Response × ResponseLedger hpack :=
  match endStream, contents.response streamId with
  | true, some response => (some response, ledger.setStream streamId .empty)
  | _, _ => (none, ledger.setStream streamId contents)

/-- A decoded header block: a response head if it has a `:status`, else trailers. -/
def ResponseLedger.receiveHeaders (ledger : ResponseLedger hpack) (streamId : Nat)
    (endStream : Bool) (headers : HeaderMap) : Option H2Response × ResponseLedger hpack :=
  let contents := ledger.streams streamId
  if headers.containsKey ":status" then
    ledger.extend streamId { contents with headers := some headers } endStream
  else ledger.extend streamId contents endStream

def ResponseLedger.receive (ledger : ResponseLedger hpack) (frame : FrameHeader) :
    Option H2Response × ResponseLedger hpack :=
  match assembleFrame ledger.held frame with
  | (some block, held) =>
    let (decoder, decoded) := hpack.decode ledger.decoder block.fragment
    let ledger := { ledger with decoder, held }
    match decoded with
    | some fields =>
      if block.pushed then (none, ledger) -- the head of a promised request
      else ledger.receiveHeaders block.streamId (hasFlag block.flags 0x1) (headersMap fields)
    | none => (none, ledger)
  | (none, held) =>
    let ledger := { ledger with held }
    if frame.frameType = 0x0 then
      match parseDataPayload frame.flags frame.payload with
      | some (data, endStream) =>
        let contents := ledger.streams frame.streamId
        ledger.extend frame.streamId { contents with body := contents.body ++ data } endStream
      | none => (none, ledger)
    else (none, ledger)

/-- The responses completed by the frames of the outgoing direction, in order. -/
def ResponseLedger.responses : ResponseLedger hpack → List FrameHeader → List H2Response
  | _, [] => []
  | ledger, frame :: frames =>
    let (response, ledger) := ledger.receive frame
    response.toList ++ ResponseLedger.responses ledger frames

/-! ## Plain responses -/

/-- The head of a response and of nothing else. -/
def HeaderMap.isResponseHead (headers : HeaderMap) : Bool :=
  headers.containsKey ":status" && !headers.containsKey ":method"

/-- The frame promises nothing, and if it completes a header block that
decodes, the block is the head of a response. -/
structure ResponseLedger.Plain (ledger : ResponseLedger hpack) (frame : FrameHeader) : Prop where
  noPush : frame.frameType ≠ 0x5
  heads : ∀ block fields, (assembleFrame ledger.held frame).1 = some block →
    (hpack.decode ledger.decoder block.fragment).2 = some fields →
    (headersMap fields).isResponseHead = true

/-- The backend pushes nothing and sends no trailers. -/
def ResponseLedger.AllPlain : ResponseLedger hpack → List FrameHeader → Prop
  | _, [] => True
  | ledger, frame :: frames =>
    ledger.Plain frame ∧ ResponseLedger.AllPlain (ledger.receive frame).2 frames

/-! ## The observer keeps the ledger -/

def OpenBlock.slot (block : OpenBlock) : PartialHeadersState :=
  ⟨block.streamId, block.flags, block.fragment⟩

theorem startBlock_unpushed {frame : FrameHeader} {block : OpenBlock} {ended : Bool}
    (hpush : frame.frameType ≠ 0x5) (hstart : frame.startBlock = some (block, ended)) :
    block.pushed = false := by
  simp only [FrameHeader.startBlock, if_neg hpush] at hstart
  split at hstart
  · rw [Option.map_eq_some_iff] at hstart
    obtain ⟨parsed, -, hparsed⟩ := hstart
    cases hparsed
    rfl
  · cases hstart

/-- Without pushed blocks the observer assembles the blocks that are sent. -/
theorem action_assemble (direction : H2FrameDirection) {held : Option OpenBlock}
    {frame : FrameHeader}
    (hcont : ∀ block, held = some block → frame.continues block.streamId = true)
    (hheld : ∀ block, held = some block → block.pushed = false)
    (hpush : frame.frameType ≠ 0x5) :
    match assembleFrame held frame with
    | (some block, opened) => block.pushed = false ∧ opened = none ∧
        frame.action direction (held.map OpenBlock.slot) =
          .complete block.streamId block.flags block.fragment held.isSome
    | (none, some block) => block.pushed = false ∧
        frame.action direction (held.map OpenBlock.slot) = .hold block.slot
    | (none, none) => held = none ∧ frame.action direction (held.map OpenBlock.slot) =
        frame.regularAction direction ∧ (frame.regularAction direction).quiet = true := by
  cases held with
  | some block =>
    have hcontinues := hcont block rfl
    have hunpushed := hheld block rfl
    simp only [assembleFrame, hcontinues, if_true, Option.map_some, FrameHeader.action,
      OpenBlock.slot]
    cases hasFlag frame.flags 0x4 with
    | true => exact ⟨hunpushed, rfl, rfl⟩
    | false => exact ⟨hunpushed, rfl⟩
  | none =>
    have hregular := regularAction_startBlock direction frame
    simp only [assembleFrame, Option.map_none, FrameHeader.action]
    cases hstart : frame.startBlock with
    | none =>
      rw [hstart] at hregular
      exact ⟨trivial, trivial, hregular⟩
    | some started =>
      obtain ⟨block, ended⟩ := started
      have hunpushed := startBlock_unpushed hpush hstart
      rw [hstart] at hregular
      simp only [hunpushed, Bool.false_eq_true, if_false] at hregular
      cases ended with
      | true => exact ⟨hunpushed, rfl, hregular⟩
      | false => exact ⟨hunpushed, hregular⟩

/-- The response that an event reports. -/
def H2Event.response? : H2Event → Option H2Response
  | .outgoingResponse response => some response
  | _ => none

theorem regularAction_data {direction : H2FrameDirection} {frame : FrameHeader} :
    frame.regularAction direction = .data ↔ frame.frameType = 0x0 := by
  constructor
  · intro h
    simp only [FrameHeader.regularAction] at h
    split at h
    case h_1 htype => exact htype
    case h_2 => split at h <;> cases h
    all_goals cases h
  · intro h
    simp only [FrameHeader.regularAction, h]

/-- Frames other than HEADERS, CONTINUATION and DATA report no response. -/
theorem regularAction_report {direction : H2FrameDirection} {frame : FrameHeader}
    {event : H2Event} (h : frame.regularAction direction = .report event) :
    event.response? = none := by
  simp only [FrameHeader.regularAction] at h
  split at h
  case h_1 => cases h
  case h_2 => split at h <;> cases h; rfl
  case h_9 => cases h
  all_goals
    cases h
    first
      | rfl
      | (simp only [handlePriorityFrame]; split <;> rfl)
      | (simp only [handleRstStream]; split <;> rfl)
      | (simp only [handlePushPromise]; split <;> rfl)
      | (simp only [handlePing]; split <;> rfl)
      | (simp only [handleGoaway]; split <;> rfl)

theorem windowUpdateEvent_response (direction : H2FrameDirection) (frame : FrameHeader) :
    (frame.windowUpdateEvent direction).response? = none := by
  simp only [FrameHeader.windowUpdateEvent]
  split <;> rfl

theorem response_of_head (contents : StreamContents) {headers : HeaderMap} (streamId : Nat)
    (hcontents : contents.headers = some headers) (hhead : headers.isResponseHead = true) :
    contents.response streamId = some (contents.toResponse streamId) := by
  simp only [HeaderMap.isResponseHead, Bool.and_eq_true] at hhead
  simp only [StreamContents.response, hcontents, Option.map_some, StreamContents.toResponse,
    StreamState.toResponse, Option.getD_some]
  cases hstatus : headers.get? ":status" with
  | none => simp [HeaderMap.containsKey, hstatus] at hhead
  | some status => rfl

/-- The observer of the outgoing direction and the ledger agree. -/
structure KeepsLedger (observer : H2Observer hpack) (ledger : ResponseLedger hpack) : Prop where
  decoder : observer.hpackDecoder .outgoing = ledger.decoder
  held : observer.heldFor .outgoing = ledger.held.map OpenBlock.slot
  unpushed : ∀ block, ledger.held = some block → block.pushed = false
  contents : ∀ s, observer.contents s = ledger.streams s
  heads : ∀ s headers, (ledger.streams s).headers = some headers →
    headers.isResponseHead = true

theorem keepsLedger_new : KeepsLedger (H2Observer.new hpack) (ResponseLedger.new hpack) where
  decoder := rfl
  held := rfl
  unpushed _ h := by cases h
  contents _ := rfl
  heads _ _ h := by cases h

section Extend

variable (ledger : ResponseLedger hpack) (streamId : Nat) (contents : StreamContents)
  (endStream : Bool)

theorem extend_response : (ledger.extend streamId contents endStream).1 =
    if endStream then contents.response streamId else none := by
  simp only [ResponseLedger.extend]
  cases endStream <;> cases contents.response streamId <;> rfl

theorem extend_streams (s : Nat) : (ledger.extend streamId contents endStream).2.streams s =
    if s = streamId then
      if endStream && contents.headers.isSome then .empty else contents
    else ledger.streams s := by
  simp only [ResponseLedger.extend, StreamContents.response]
  cases endStream <;> cases contents.headers <;>
    simp [ResponseLedger.setStream, Function.update_apply]

theorem extend_decoder : (ledger.extend streamId contents endStream).2.decoder =
    ledger.decoder := by
  simp only [ResponseLedger.extend]
  split <;> rfl

theorem extend_held : (ledger.extend streamId contents endStream).2.held = ledger.held := by
  simp only [ResponseLedger.extend]
  split <;> rfl

end Extend

/-- The head of a response on a stream. -/
theorem receiveHeaders_head (contents : StreamContents) (streamId : Nat) (endStream : Bool)
    {headers : HeaderMap} (hhead : headers.isResponseHead = true) :
    let received := contents.receiveHeaders .outgoing streamId endStream headers
    let extended : StreamContents := { contents with headers := some headers }
    received.1.response? = (if endStream then extended.response streamId else none) ∧
      received.2 = if endStream && extended.headers.isSome then .empty else extended := by
  have hresponse := response_of_head { contents with headers := some headers } streamId rfl hhead
  simp only [HeaderMap.isResponseHead, Bool.and_eq_true, Bool.not_eq_true'] at hhead
  simp only [StreamContents.receiveHeaders, hhead.1, hhead.2, if_true, Bool.false_eq_true,
    if_false, hresponse]
  cases endStream with
  | true => exact ⟨rfl, rfl⟩
  | false => exact ⟨rfl, rfl⟩

/-- DATA on a stream whose headers, if it has any, are the head of a response. -/
theorem receiveData_head (contents : StreamContents) (frame : FrameHeader)
    (hhead : ∀ headers, contents.headers = some headers → headers.isResponseHead = true) :
    let received := contents.receiveData .outgoing frame
    match parseDataPayload frame.flags frame.payload with
    | some (data, endStream) =>
      let extended : StreamContents := { contents with body := contents.body ++ data }
      received.1.response? = (if endStream then extended.response frame.streamId else none) ∧
        received.2 = if endStream && extended.headers.isSome then .empty else extended
    | none => received.1.response? = none ∧ received.2 = contents := by
  simp only [StreamContents.receiveData]
  cases parseDataPayload frame.flags frame.payload with
  | none => exact ⟨rfl, rfl⟩
  | some parsed =>
    obtain ⟨data, endStream⟩ := parsed
    cases hheaders : contents.headers with
    | none => cases endStream <;> simp [H2Event.response?, StreamContents.response]
    | some headers =>
      have hheadHere := hhead headers hheaders
      have hresponse := response_of_head ⟨some headers, contents.body ++ data⟩
        frame.streamId rfl hheadHere
      simp only [HeaderMap.isResponseHead, Bool.and_eq_true, Bool.not_eq_true'] at hheadHere
      cases endStream with
      | true =>
        simp only [if_true, hheadHere.1, hheadHere.2, Bool.false_eq_true, if_false, hresponse]
        exact ⟨rfl, rfl⟩
      | false => exact ⟨rfl, rfl⟩

/-- A stream that is extended by what the ledger is extended by. -/
theorem KeepsLedger.extend {next : H2Observer hpack} {ledger : ResponseLedger hpack}
    {streamId : Nat} {extended : StreamContents} {endStream : Bool}
    (hdecoder : next.hpackDecoder .outgoing = ledger.decoder)
    (hheld : next.heldFor .outgoing = ledger.held.map OpenBlock.slot)
    (hunpushed : ∀ block, ledger.held = some block → block.pushed = false)
    (hcontents : ∀ s, next.contents s = if s = streamId then
      if endStream && extended.headers.isSome then .empty else extended
      else ledger.streams s)
    (hheads : ∀ s headers, (ledger.streams s).headers = some headers →
      headers.isResponseHead = true)
    (hextended : ∀ headers, extended.headers = some headers → headers.isResponseHead = true) :
    KeepsLedger next (ledger.extend streamId extended endStream).2 where
  decoder := by rw [hdecoder, extend_decoder]
  held := by rw [hheld, extend_held]
  unpushed := by
    rw [extend_held]
    exact hunpushed
  contents s := by rw [hcontents s, extend_streams]
  heads s headers h := by
    rw [extend_streams] at h
    split at h
    · split at h
      · cases h
      · exact hextended headers h
    · exact hheads s headers h

/-- A stream that is given what it has. -/
theorem ite_same_stream (streams : Nat → StreamContents) (streamId s : Nat) :
    (if s = streamId then streams streamId else streams s) = streams s := by
  split
  · rename_i hs
    rw [hs]
  · rfl

section Step

variable {self : H2Observer hpack} {ledger : ResponseLedger hpack} {frame : FrameHeader}

theorem KeepsLedger.action (hkeeps : KeepsLedger self ledger) {action : FrameAction}
    (haction : frame.action .outgoing (ledger.held.map OpenBlock.slot) = action) :
    let effect := action.effect .outgoing frame
      (fun block => (hpack.decode ledger.decoder block).2) ledger.streams
    self.processFrame .outgoing frame = self.perform .outgoing frame action ∧
      (self.perform .outgoing frame action).1 = effect.1 ∧
      ∀ s, (self.perform .outgoing frame action).2.contents s =
        match effect.2 with
        | some (streamId, after) => if s = streamId then after else ledger.streams s
        | none => ledger.streams s := by
  have hcontents : self.contents = ledger.streams := funext hkeeps.contents
  obtain ⟨hevent, hafter⟩ := perform_contents self .outgoing frame action
  rw [hkeeps.decoder, hcontents] at hevent hafter
  exact ⟨by rw [processFrame_perform, hkeeps.held, haction], hevent, hafter⟩

/-- A complete header block. -/
theorem KeepsLedger.step_complete (hkeeps : KeepsLedger self ledger)
    {block : OpenBlock} (fromSlot : Bool) (hplain : ledger.Plain frame)
    (hassemble : assembleFrame ledger.held frame = (some block, none))
    (hunpushed : block.pushed = false) (hslot : fromSlot = ledger.held.isSome)
    (haction : frame.action .outgoing (ledger.held.map OpenBlock.slot) =
      .complete block.streamId block.flags block.fragment fromSlot) :
    (self.processFrame .outgoing frame).1.bind H2Event.response? = (ledger.receive frame).1 ∧
      KeepsLedger (self.processFrame .outgoing frame).2 (ledger.receive frame).2 := by
  obtain ⟨hprocess, hevent, hafter⟩ := hkeeps.action haction
  have hdecoder := hpackDecoder_perform self .outgoing .outgoing frame
    (.complete block.streamId block.flags block.fragment fromSlot)
  have hheld := heldFor_perform self .outgoing .outgoing frame
    (.complete block.streamId block.flags block.fragment fromSlot)
  have hheld' : (self.perform .outgoing frame
      (.complete block.streamId block.flags block.fragment fromSlot)).2.heldFor .outgoing =
      none := by
    rw [hheld]
    cases fromSlot with
    | true => rfl
    | false =>
      rw [hkeeps.held]
      cases hopen : ledger.held with
      | none => rfl
      | some open_ => rw [hopen] at hslot; cases hslot
  rw [hprocess]
  simp only [if_true, hkeeps.decoder] at hdecoder
  have hheads := hplain.heads block
  rw [hassemble] at hheads
  simp only [FrameAction.effect] at hevent hafter
  simp only [ResponseLedger.receive, hassemble, hunpushed]
  cases hdecode : (hpack.decode ledger.decoder block.fragment).2 with
  | none =>
    rw [hdecode] at hevent hafter
    simp only [StreamContents.receiveBlock] at hevent hafter
    refine ⟨by rw [hevent]; rfl, hdecoder, hheld', (fun _ h => by cases h), ?_, hkeeps.heads⟩
    intro s
    exact (hafter s).trans (ite_same_stream ledger.streams block.streamId s)
  | some fields =>
    have hhead := hheads fields rfl hdecode
    obtain ⟨hresponse, hcontents⟩ := receiveHeaders_head (ledger.streams block.streamId)
      block.streamId (hasFlag block.flags 0x1) hhead
    have hstatus := hhead
    simp only [HeaderMap.isResponseHead, Bool.and_eq_true] at hstatus
    rw [hdecode] at hevent hafter
    simp only [StreamContents.receiveBlock, hcontents] at hevent hafter
    simp only [Bool.false_eq_true, if_false, ResponseLedger.receiveHeaders, hstatus.1, if_true]
    constructor
    · rw [hevent, extend_response]
      exact hresponse
    · refine .extend hdecoder hheld' (fun _ h => by cases h) hafter hkeeps.heads ?_
      intro headers h
      cases h
      exact hhead

/-- A frame of an unfinished header block. -/
theorem KeepsLedger.step_hold (hkeeps : KeepsLedger self ledger) {block : OpenBlock}
    (hassemble : assembleFrame ledger.held frame = (none, some block))
    (hunpushed : block.pushed = false) (hdata : frame.frameType ≠ 0x0)
    (haction : frame.action .outgoing (ledger.held.map OpenBlock.slot) = .hold block.slot) :
    (self.processFrame .outgoing frame).1.bind H2Event.response? = (ledger.receive frame).1 ∧
      KeepsLedger (self.processFrame .outgoing frame).2 (ledger.receive frame).2 := by
  obtain ⟨hprocess, hevent, hafter⟩ := hkeeps.action haction
  rw [hprocess]
  simp only [ResponseLedger.receive, hassemble, if_neg hdata]
  refine ⟨by rw [hevent]; rfl, ?_, ?_, ?_, hafter, hkeeps.heads⟩
  · rw [hpackDecoder_perform]
    exact hkeeps.decoder
  · rw [heldFor_perform]
    rfl
  · intro _ h
    cases h
    exact hunpushed

/-- DATA goes to the body of its stream. -/
theorem KeepsLedger.step_data (hkeeps : KeepsLedger self ledger)
    (hassemble : assembleFrame ledger.held frame = (none, none)) (hopen : ledger.held = none)
    (htype : frame.frameType = 0x0)
    (haction : frame.action .outgoing (ledger.held.map OpenBlock.slot) = .data) :
    (self.processFrame .outgoing frame).1.bind H2Event.response? = (ledger.receive frame).1 ∧
      KeepsLedger (self.processFrame .outgoing frame).2 (ledger.receive frame).2 := by
  obtain ⟨hprocess, hevent, hafter⟩ := hkeeps.action haction
  have hdecoder : (self.perform .outgoing frame .data).2.hpackDecoder .outgoing =
      ledger.decoder :=
    (hpackDecoder_quiet self .outgoing .outgoing frame rfl).trans hkeeps.decoder
  have hheld : (self.perform .outgoing frame .data).2.heldFor .outgoing =
      ledger.held.map OpenBlock.slot :=
    (heldFor_quiet self .outgoing .outgoing frame rfl).trans hkeeps.held
  have hnone : (none : Option OpenBlock) = ledger.held := hopen.symm
  have hdata := receiveData_head (ledger.streams frame.streamId) frame
    (hkeeps.heads frame.streamId)
  simp only [FrameAction.effect] at hevent hafter
  rw [hprocess]
  simp only [ResponseLedger.receive, hassemble, if_pos htype]
  rw [hnone]
  cases hparse : parseDataPayload frame.flags frame.payload with
  | none =>
    rw [hparse] at hdata
    simp only at hdata
    rw [hdata.2] at hafter
    refine ⟨by rw [hevent]; exact hdata.1, hdecoder, hheld, hkeeps.unpushed, ?_, hkeeps.heads⟩
    intro s
    exact (hafter s).trans (ite_same_stream ledger.streams frame.streamId s)
  | some parsed =>
    obtain ⟨data, endStream⟩ := parsed
    rw [hparse] at hdata
    simp only at hdata
    rw [hdata.2] at hafter
    constructor
    · rw [hevent, extend_response]
      exact hdata.1
    · exact .extend hdecoder hheld hkeeps.unpushed hafter hkeeps.heads
        (hkeeps.heads frame.streamId)

/-- A frame that reports no response and changes no stream. -/
theorem KeepsLedger.step_idle (hkeeps : KeepsLedger self ledger)
    (hassemble : assembleFrame ledger.held frame = (none, none)) (hopen : ledger.held = none)
    {action : FrameAction} (haction : frame.action .outgoing (ledger.held.map OpenBlock.slot) =
      action) (hquiet : action.quiet = true) (htype : frame.frameType ≠ 0x0)
    (hresponse : (self.perform .outgoing frame action).1.bind H2Event.response? = none)
    (hcontents : ∀ s, (self.perform .outgoing frame action).2.contents s = ledger.streams s) :
    (self.processFrame .outgoing frame).1.bind H2Event.response? = (ledger.receive frame).1 ∧
      KeepsLedger (self.processFrame .outgoing frame).2 (ledger.receive frame).2 := by
  have hnone : (none : Option OpenBlock) = ledger.held := hopen.symm
  rw [(hkeeps.action haction).1]
  simp only [ResponseLedger.receive, hassemble, if_neg htype]
  rw [hnone]
  refine ⟨hresponse, ?_, ?_, hkeeps.unpushed, hcontents, hkeeps.heads⟩
  · exact (hpackDecoder_quiet self .outgoing .outgoing frame hquiet).trans hkeeps.decoder
  · exact (heldFor_quiet self .outgoing .outgoing frame hquiet).trans hkeeps.held

/-- A frame of no header block. -/
theorem KeepsLedger.step_quiet (hkeeps : KeepsLedger self ledger)
    (hassemble : assembleFrame ledger.held frame = (none, none)) (hopen : ledger.held = none)
    (haction : frame.action .outgoing (ledger.held.map OpenBlock.slot) =
      frame.regularAction .outgoing)
    (hquiet : (frame.regularAction .outgoing).quiet = true) :
    (self.processFrame .outgoing frame).1.bind H2Event.response? = (ledger.receive frame).1 ∧
      KeepsLedger (self.processFrame .outgoing frame).2 (ledger.receive frame).2 := by
  cases hregular : frame.regularAction .outgoing with
  | hold held => rw [hregular] at hquiet; cases hquiet
  | complete streamId flags block fromSlot => rw [hregular] at hquiet; cases hquiet
  | data =>
    exact hkeeps.step_data hassemble hopen (regularAction_data.mp hregular)
      (haction.trans hregular)
  | windowUpdate =>
    have htype : frame.frameType ≠ 0x0 := by
      intro htype
      rw [regularAction_data.mpr htype] at hregular
      cases hregular
    rw [hregular] at haction
    obtain ⟨-, hevent, hafter⟩ := hkeeps.action haction
    refine hkeeps.step_idle hassemble hopen haction rfl htype ?_ hafter
    rw [hevent]
    exact windowUpdateEvent_response .outgoing frame
  | report event =>
    have htype : frame.frameType ≠ 0x0 := by
      intro htype
      rw [regularAction_data.mpr htype] at hregular
      cases hregular
    rw [hregular] at haction
    obtain ⟨-, hevent, hafter⟩ := hkeeps.action haction
    refine hkeeps.step_idle hassemble hopen haction rfl htype ?_ hafter
    rw [hevent]
    exact regularAction_report hregular

/-- One frame: the observer reports the response that the ledger completes. -/
theorem KeepsLedger.step (hkeeps : KeepsLedger self ledger) (hplain : ledger.Plain frame)
    (hcont : ∀ block, ledger.held = some block → frame.continues block.streamId = true) :
    (self.processFrame .outgoing frame).1.bind H2Event.response? = (ledger.receive frame).1 ∧
      KeepsLedger (self.processFrame .outgoing frame).2 (ledger.receive frame).2 := by
  have haction := action_assemble .outgoing hcont hkeeps.unpushed hplain.noPush
  cases hassemble : assembleFrame ledger.held frame with
  | mk completed opened =>
    rw [hassemble] at haction
    cases completed with
    | some block =>
      obtain ⟨hunpushed, rfl, haction⟩ := haction
      exact hkeeps.step_complete _ hplain hassemble hunpushed rfl haction
    | none =>
      cases opened with
      | some block =>
        obtain ⟨hunpushed, haction⟩ := haction
        apply hkeeps.step_hold hassemble hunpushed _ haction
        intro htype
        have hdata : frame.action .outgoing (ledger.held.map OpenBlock.slot) = .data := by
          cases hopen : ledger.held with
          | none => exact regularAction_data.mpr htype
          | some open_ =>
            have hcontinues := hcont open_ hopen
            rw [continues_iff, htype] at hcontinues
            cases hcontinues.1
        rw [hdata] at haction
        cases haction
      | none =>
        obtain ⟨hopen, haction, hquiet⟩ := haction
        exact hkeeps.step_quiet hassemble hopen haction hquiet

end Step

/-! ## Whole runs -/

/-- The responses that events report. -/
def reportedResponses (events : List H2Event) : List H2Response :=
  events.filterMap H2Event.response?

theorem receive_held (ledger : ResponseLedger hpack) (frame : FrameHeader) :
    (ledger.receive frame).2.held = (assembleFrame ledger.held frame).2 := by
  simp only [ResponseLedger.receive]
  cases hassemble : assembleFrame ledger.held frame with
  | mk completed opened =>
    cases completed with
    | some block =>
      simp only
      split
      · split
        · rfl
        · simp only [ResponseLedger.receiveHeaders]
          split
          all_goals rw [extend_held]
      · rfl
    | none =>
      simp only
      split
      · split
        · rw [extend_held]
        · rfl
      · rfl

theorem KeepsLedger.observeAlone {self : H2Observer hpack} {ledger : ResponseLedger hpack}
    (hkeeps : KeepsLedger self ledger) (frames : List FrameHeader)
    (hcont : ContiguousBlocks ledger.held frames) (hplain : ledger.AllPlain frames) :
    reportedResponses (self.observeAlone .outgoing frames) = ledger.responses frames := by
  induction frames generalizing self ledger with
  | nil => rfl
  | cons frame frames ih =>
    obtain ⟨hhere, hrest⟩ := hcont
    obtain ⟨hplainHere, hplainRest⟩ := hplain
    obtain ⟨hresponse, hnext⟩ := hkeeps.step hplainHere hhere
    rw [← receive_held] at hrest
    have htail := ih hnext hrest hplainRest
    rw [observeAlone_cons, reportedResponses, List.filterMap_append]
    simp only [ResponseLedger.responses, ← hresponse, ← htail]
    cases (self.processFrame .outgoing frame).1 with
    | none => rfl
    | some event => cases hevent : event.response? <;> simp [hevent, reportedResponses]

theorem action_report {direction : H2FrameDirection} {held : Option PartialHeadersState}
    {frame : FrameHeader} {event : H2Event} (h : frame.action direction held = .report event) :
    event.response? = none := by
  cases held with
  | none => exact regularAction_report h
  | some before =>
    simp only [FrameHeader.action] at h
    split at h
    · split at h <;> cases h
    · exact regularAction_report h

/-- Frames of the client report no response. -/
theorem processFrame_incoming_response (self : H2Observer hpack) (frame : FrameHeader) :
    (self.processFrame .incoming frame).1.bind H2Event.response? = none := by
  rw [processFrame_perform]
  cases haction : frame.action .incoming (self.heldFor .incoming) with
  | hold held => rfl
  | complete streamId flags block fromSlot =>
    rw [(perform_contents self .incoming frame _).1]
    simp only [FrameAction.effect, StreamContents.receiveBlock, StreamContents.receiveHeaders]
    split
    · rfl
    · split <;> rfl
  | data =>
    rw [(perform_contents self .incoming frame _).1]
    simp only [FrameAction.effect, StreamContents.receiveData]
    split
    · simp only [FrameHeader.unknownEvent]
      rfl
    · split
      · split <;> rfl
      · rfl
  | windowUpdate =>
    rw [(perform_contents self .incoming frame _).1]
    exact windowUpdateEvent_response .incoming frame
  | report event => exact action_report haction

theorem reportedResponses_outgoing (self : H2Observer hpack)
    (frames : List (H2FrameDirection × FrameHeader)) :
    reportedResponses ((self.observe frames).1.map (·.2)) =
      reportedResponses (eventsOf .outgoing (self.observe frames).1) := by
  induction frames generalizing self with
  | nil => rfl
  | cons tagged frames ih =>
    obtain ⟨direction, frame⟩ := tagged
    have htail := ih (self.processFrame direction frame).2
    simp only [reportedResponses] at htail
    simp only [H2Observer.observe, eventsOf_tagged, List.map_append, reportedResponses,
      List.filterMap_append, htail]
    cases direction with
    | outgoing => cases (self.processFrame .outgoing frame).1 <;> rfl
    | incoming =>
      have hnone := processFrame_incoming_response self frame
      cases hevent : (self.processFrame .incoming frame).1 with
      | none => rfl
      | some event =>
        rw [hevent, Option.bind_some] at hnone
        simp [hnone]

/-- **Responses are reassembled**: over every half-duplex run whose backend
sends contiguous header blocks, each a response head, the observer reports the
responses that the backend completed, each once and in order, with their own
stream, status, headers and body. -/
theorem responses_reassembled (hpack : HpackDecoder) (ops : List ObserverOp)
    (hframes : ContiguousBlocks none
      (framesOf .outgoing ((H2Observer.new hpack).opsTrace ops)))
    (hhalf : HalfDuplex (Alone.new hpack) ((H2Observer.new hpack).opsTrace ops))
    (hplain : (ResponseLedger.new hpack).AllPlain
      (framesOf .outgoing ((H2Observer.new hpack).opsTrace ops))) :
    reportedResponses (((H2Observer.new hpack).runOps ops).1.map (·.2)) =
      (ResponseLedger.new hpack).responses
        (framesOf .outgoing ((H2Observer.new hpack).opsTrace ops)) := by
  rw [(runOps_observe (H2Observer.new hpack) ops).1, reportedResponses_outgoing]
  rw [(simulates_new hpack).observe .outgoing _ hhalf]
  exact keepsLedger_new.observeAlone _ hframes hplain

instance (ledger : ResponseLedger hpack) (frame : FrameHeader) : Decidable (ledger.Plain frame) :=
  decidable_of_iff
    (frame.frameType ≠ 0x5 ∧
      ((assembleFrame ledger.held frame).1.all fun block =>
        (hpack.decode ledger.decoder block.fragment).2.all fun fields =>
          (headersMap fields).isResponseHead) = true)
    (by
      simp only [Option.all_eq_true]
      constructor
      · rintro ⟨hpush, hheads⟩
        exact ⟨hpush, fun block fields hblock hfields => hheads block hblock fields hfields⟩
      · rintro ⟨hpush, hheads⟩
        exact ⟨hpush, fun block hblock fields hfields => hheads block fields hblock hfields⟩)

instance decidableAllPlain : ∀ (ledger : ResponseLedger hpack) (frames : List FrameHeader),
    Decidable (ledger.AllPlain frames)
  | _, [] => isTrue trivial
  | ledger, frame :: frames =>
    have := decidableAllPlain (ledger.receive frame).2 frames
    inferInstanceAs (Decidable (_ ∧ _))

theorem answeredGet_reassembled :
    reportedResponses (((H2Observer.new staticHpack).runOps answeredGet).1.map (·.2)) =
      (ResponseLedger.new staticHpack).responses
        (framesOf .outgoing ((H2Observer.new staticHpack).opsTrace answeredGet)) :=
  responses_reassembled staticHpack answeredGet (by decide +kernel) (by decide +kernel)
    (by decide +kernel)

/-- A GET is answered by a head, a body and a block of trailers. -/
def answeredWithTrailers : List ObserverOp :=
  [.write .incoming (preface ++ encodeFrame false ⟨0x1, 0x5, 1, [0x82]⟩), .poll .incoming,
    .write .outgoing (encodeFrame false ⟨0x1, 0x4, 1, [0x88]⟩), .poll .outgoing,
    .write .outgoing (encodeFrame false ⟨0x0, 0x0, 1, [66]⟩), .poll .outgoing,
    .write .outgoing (encodeFrame false ⟨0x1, 0x5, 1, [0xB6]⟩), .poll .outgoing]

/-- The response is complete with its trailers and is never reported. -/
theorem answeredWithTrailers_unreported :
    (ContiguousBlocks none (framesOf .incoming
        ((H2Observer.new staticHpack).opsTrace answeredWithTrailers)) ∧
      ContiguousBlocks none (framesOf .outgoing
        ((H2Observer.new staticHpack).opsTrace answeredWithTrailers))) ∧
    (ResponseLedger.new staticHpack).responses (framesOf .outgoing
        ((H2Observer.new staticHpack).opsTrace answeredWithTrailers)) =
      [⟨1, "200", [(":status", "200")], [66]⟩] ∧
    reportedResponses
      (((H2Observer.new staticHpack).runOps answeredWithTrailers).1.map (·.2)) = [] := by
  decide +kernel

end OddBox.H2

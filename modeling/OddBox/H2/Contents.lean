import OddBox.H2.Actions

/-!
The stream table as its users see it: for each stream the headers and the body
collected so far, a stream that is absent counting as empty. What a frame makes
of the contents of its stream, and the event it reports, are functions of those
contents alone (`receiveHeaders`, `receiveData`). The window of a stream is
never read back, so it is not part of the contents.
-/

namespace OddBox.H2

variable {hpack : HpackDecoder}

/-- The headers and the body collected on a stream. -/
structure StreamContents where
  headers : Option HeaderMap
  body : List UInt8
  deriving DecidableEq, Repr

def StreamContents.empty : StreamContents := ⟨none, []⟩

def StreamState.contents (st : StreamState) : StreamContents := ⟨st.headers, st.body⟩

def H2Observer.contents (self : H2Observer hpack) (streamId : Nat) : StreamContents :=
  (self.entry streamId).contents

def StreamContents.toRequest (contents : StreamContents) (streamId : Nat) : HttpRequest :=
  StreamState.toRequest ⟨contents.headers, contents.body, 0⟩ streamId

def StreamContents.toResponse (contents : StreamContents) (streamId : Nat) : H2Response :=
  StreamState.toResponse ⟨contents.headers, contents.body, 0⟩ streamId

/-- The event of a decoded header block, and what it leaves on the stream. -/
def StreamContents.receiveHeaders (contents : StreamContents) (direction : H2FrameDirection)
    (streamId : Nat) (endStream : Bool) (headers : HeaderMap) : H2Event × StreamContents :=
  let contents := { contents with headers := some headers }
  match direction with
  | .incoming =>
    if endStream && !isContinuousStream headers then
      (.incomingRequest (contents.toRequest streamId), .empty)
    else (.incomingHeaders streamId headers, contents)
  | .outgoing =>
    if headers.containsKey ":method" then
      (.outgoingRequest (contents.toRequest streamId),
        if endStream && !isContinuousStream headers then .empty else contents)
    else if headers.containsKey ":status" then
      if endStream then (.outgoingResponse (contents.toResponse streamId), .empty)
      else (.partialOutgoingResponse (contents.toResponse streamId), contents)
    else (.outgoingHeaders streamId headers, contents)

/-- The event of a header block once its decoder has run. -/
def StreamContents.receiveBlock (contents : StreamContents) (direction : H2FrameDirection)
    (streamId : Nat) (flags : UInt8) :
    Option (List (List UInt8 × List UInt8)) → H2Event × StreamContents
  | none => (.unknown (.rstStream streamId 0x1), contents)
  | some fields =>
    contents.receiveHeaders direction streamId (hasFlag flags 0x1) (headersMap fields)

/-- The event of a DATA frame, and what it leaves on the stream. -/
def StreamContents.receiveData (contents : StreamContents) (direction : H2FrameDirection)
    (frame : FrameHeader) : H2Event × StreamContents :=
  match parseDataPayload frame.flags frame.payload with
  | none => (frame.unknownEvent, contents)
  | some (data, endStream) =>
    let contents := { contents with body := contents.body ++ data }
    let plain := H2Event.data frame.streamId data direction endStream
    match contents.headers with
    | some hm =>
      if endStream then
        match direction with
        | .incoming => (plain, if !isContinuousStream hm then .empty else contents)
        | .outgoing =>
          if hm.containsKey ":method" then
            (.outgoingRequest (contents.toRequest frame.streamId), .empty)
          else if hm.containsKey ":status" then
            (.outgoingResponse (contents.toResponse frame.streamId), .empty)
          else (plain, contents)
      else (plain, contents)
    | none => (plain, contents)

/-- The event of a WINDOW_UPDATE frame. -/
def FrameHeader.windowUpdateEvent (direction : H2FrameDirection) (frame : FrameHeader) :
    H2Event :=
  match frame.payload with
  | [p0, p1, p2, p3] =>
    .windowUpdate direction frame.streamId (be32 (p0 &&& 0x7F) p1 p2 p3)
  | _ => frame.unknownEvent

/-! ## The handlers on contents -/

section Handlers

variable (self : H2Observer hpack) (d : H2FrameDirection) (streamId s : Nat)

theorem contents_setStream (st : Option StreamState) :
    (self.setStream streamId st).contents s =
      if s = streamId then (st.getD StreamState.new).contents else self.contents s := by
  simp only [H2Observer.contents, H2Observer.entry, H2Observer.setStream, Function.update_apply]
  split <;> rfl

@[simp] theorem contents_setHpackDecoder (state : hpack.State) :
    (self.setHpackDecoder d state).contents s = self.contents s := by
  cases d <;> rfl

@[simp] theorem contents_setSlot (held : PartialHeadersState) :
    (self.setSlot d held).contents s = self.contents s := rfl

@[simp] theorem contents_clearSlot : self.clearSlot.contents s = self.contents s := rfl

/-- A change of one stream. -/
def ContentsSet (before after : H2Observer hpack) (streamId : Nat) (contents : StreamContents) :
    Prop :=
  ∀ s, after.contents s = if s = streamId then contents else before.contents s

theorem contentsSet_same : ContentsSet self self streamId (self.contents streamId) := by
  intro s
  split
  · rename_i hs
    rw [hs]
  · rfl

theorem contentsSet_setStream (st : Option StreamState) :
    ContentsSet self (self.setStream streamId st) streamId (st.getD StreamState.new).contents :=
  fun s => contents_setStream self streamId s st

theorem ContentsSet.setStream {before after : H2Observer hpack} {contents : StreamContents}
    (h : ContentsSet before after streamId contents) (st : Option StreamState) :
    ContentsSet before (after.setStream streamId st) streamId
      (st.getD StreamState.new).contents := by
  intro s
  rw [contents_setStream, h s]
  split <;> rfl

theorem reportHeaders_contents (endStream : Bool) (headers : HeaderMap) (st : StreamState) :
    let received := self.reportHeaders d streamId endStream headers
      { st with headers := some headers }
    let expected := st.contents.receiveHeaders d streamId endStream headers
    received.1 = expected.1 ∧
      (self.contents streamId = ⟨some headers, st.body⟩ →
        ContentsSet self received.2 streamId expected.2) := by
  have hempty := contentsSet_setStream self streamId none
  simp only [H2Observer.reportHeaders, StreamContents.receiveHeaders]
  have hsame : self.contents streamId = ⟨some headers, st.body⟩ →
      ContentsSet self self streamId ⟨some headers, st.body⟩ := by
    intro h
    rw [← h]
    exact contentsSet_same self streamId
  cases d with
  | incoming =>
    simp only
    split
    · exact ⟨rfl, fun _ => hempty⟩
    · exact ⟨rfl, hsame⟩
  | outgoing =>
    simp only
    split
    · split
      · exact ⟨rfl, fun _ => hempty⟩
      · exact ⟨rfl, hsame⟩
    · split
      · split
        · exact ⟨rfl, fun _ => hempty⟩
        · exact ⟨rfl, hsame⟩
      · exact ⟨rfl, hsame⟩

theorem afterDecode_contents (flags : UInt8)
    (decoded : Option (List (List UInt8 × List UInt8))) :
    let expected := (self.contents streamId).receiveBlock d streamId flags decoded
    (self.afterDecode d streamId flags decoded).1 = some expected.1 ∧
      ContentsSet self (self.afterDecode d streamId flags decoded).2 streamId expected.2 := by
  cases decoded with
  | none => exact ⟨rfl, contentsSet_same self streamId⟩
  | some fields =>
    let headers := headersMap fields
    let st := { self.entry streamId with headers := some headers }
    have hset := contentsSet_setStream self streamId (some st)
    obtain ⟨hevent, hafter⟩ := reportHeaders_contents (self.setStream streamId (some st)) d
      streamId (hasFlag flags 0x1) headers (self.entry streamId)
    refine ⟨congrArg some hevent, ?_⟩
    intro s
    refine (hafter ?_ s).trans ?_
    · rw [hset streamId, if_pos rfl]
      rfl
    · split
      · rfl
      · rename_i hs
        rw [hset s, if_neg hs]

theorem handleDataFrame_contents (frame : FrameHeader) :
    let expected := (self.contents frame.streamId).receiveData d frame
    (self.handleDataFrame d frame).1 = expected.1 ∧
      ContentsSet self (self.handleDataFrame d frame).2 frame.streamId expected.2 := by
  simp only [H2Observer.handleDataFrame, StreamContents.receiveData]
  cases parseDataPayload frame.flags frame.payload with
  | none => exact ⟨rfl, contentsSet_same self frame.streamId⟩
  | some parsed =>
    obtain ⟨data, endStream⟩ := parsed
    cases hentry : self.entry frame.streamId with
    | mk headers body window =>
      have hset := contentsSet_setStream self frame.streamId
        (some ⟨headers, body ++ data, window⟩)
      have hempty := hset.setStream frame.streamId none
      simp only [H2Observer.contents, hentry, StreamState.contents]
      cases headers with
      | none => exact ⟨rfl, hset⟩
      | some headers =>
        cases endStream with
        | false => exact ⟨rfl, hset⟩
        | true =>
          cases d with
          | incoming =>
            simp only [if_true]
            split
            · exact ⟨rfl, hempty⟩
            · exact ⟨rfl, hset⟩
          | outgoing =>
            simp only [if_true]
            split
            · exact ⟨rfl, hempty⟩
            · split
              · exact ⟨rfl, hempty⟩
              · exact ⟨rfl, hset⟩

theorem handleWindowUpdate_contents (frame : FrameHeader) :
    (self.handleWindowUpdate d frame).1 = frame.windowUpdateEvent d ∧
      ∀ s, (self.handleWindowUpdate d frame).2.contents s = self.contents s := by
  simp only [H2Observer.handleWindowUpdate, FrameHeader.windowUpdateEvent]
  split
  · rename_i hpayload
    simp only [hpayload, true_and]
    intro s
    split
    · rfl
    · rw [contents_setStream]
      split
      · rename_i hs
        rw [hs]
        rfl
      · rfl
  · simp_all

end Handlers

/-! ## An action on contents -/

/-- The event of an action and, where it changes the table, the stream and its
contents afterwards. -/
def FrameAction.effect (direction : H2FrameDirection) (frame : FrameHeader)
    (decoded : List UInt8 → Option (List (List UInt8 × List UInt8)))
    (contents : Nat → StreamContents) :
    FrameAction → Option H2Event × Option (Nat × StreamContents)
  | .hold _ => (none, none)
  | .complete streamId flags block _ =>
    let (event, after) :=
      (contents streamId).receiveBlock direction streamId flags (decoded block)
    (some event, some (streamId, after))
  | .data =>
    let (event, after) := (contents frame.streamId).receiveData direction frame
    (some event, some (frame.streamId, after))
  | .windowUpdate => (some (frame.windowUpdateEvent direction), none)
  | .report event => (some event, none)

/-- **One action**: its event and its effect on the table are those of the
contents of the one stream it is about. -/
theorem perform_contents (self : H2Observer hpack) (d : H2FrameDirection) (frame : FrameHeader)
    (action : FrameAction) :
    let effect := action.effect d frame (fun block => (hpack.decode (self.hpackDecoder d) block).2)
      self.contents
    (self.perform d frame action).1 = effect.1 ∧
      ∀ s, (self.perform d frame action).2.contents s =
        match effect.2 with
        | some (streamId, after) => if s = streamId then after else self.contents s
        | none => self.contents s := by
  cases action with
  | hold held => exact ⟨rfl, fun s => contents_setSlot self d s held⟩
  | complete streamId flags block fromSlot =>
    have hcomplete : ∀ self' : H2Observer hpack, self'.hpackDecoder d = self.hpackDecoder d →
        self'.contents = self.contents →
        (self'.handleCompleteHeaders d streamId flags block).1 = some
            ((self.contents streamId).receiveBlock d streamId flags
              (hpack.decode (self.hpackDecoder d) block).2).1 ∧
          ContentsSet self (self'.handleCompleteHeaders d streamId flags block).2 streamId
            ((self.contents streamId).receiveBlock d streamId flags
              (hpack.decode (self.hpackDecoder d) block).2).2 := by
      intro self' hdecoder hcontents
      rw [handleCompleteHeaders_eq, hdecoder]
      obtain ⟨hevent, hafter⟩ := afterDecode_contents
        (self'.setHpackDecoder d (hpack.decode (self.hpackDecoder d) block).1) d streamId flags
        (hpack.decode (self.hpackDecoder d) block).2
      rw [contents_setHpackDecoder, hcontents] at hevent hafter
      refine ⟨hevent, fun s => (hafter s).trans ?_⟩
      rw [contents_setHpackDecoder, hcontents]
    cases fromSlot with
    | false => exact hcomplete self rfl rfl
    | true => exact hcomplete self.clearSlot (hpackDecoder_clearSlot self d) rfl
  | data =>
    obtain ⟨hevent, hafter⟩ := handleDataFrame_contents self d frame
    exact ⟨congrArg some hevent, hafter⟩
  | windowUpdate =>
    obtain ⟨hevent, hafter⟩ := handleWindowUpdate_contents self d frame
    exact ⟨congrArg some hevent, hafter⟩
  | report event => exact ⟨rfl, fun s => rfl⟩

end OddBox.H2

import Mathlib
import OddBox.H2.Wire

/-!
`H2Observer` of `h2_parser.rs`. Both directions of one connection share the
slot for an unfinished header block and the stream table, and have their own
buffer and HPACK decoder. A hash map of streams is a function to `Option`; the
fields of `StreamState` and the enum members that no code reads or builds are
left out, as is the waker.
-/

namespace OddBox.H2

inductive H2FrameDirection where
  | incoming
  | outgoing
  deriving DecidableEq, Repr

def H2FrameDirection.other : H2FrameDirection → H2FrameDirection
  | .incoming => .outgoing
  | .outgoing => .incoming

/-- A `HashMap<String, String>` of header fields, with one entry for a name. -/
abbrev HeaderMap := List (String × String)

def HeaderMap.insert (map : HeaderMap) (name value : String) : HeaderMap :=
  (name, value) :: map.filter (fun field => field.1 ≠ name)

def HeaderMap.get? (map : HeaderMap) (name : String) : Option String :=
  List.lookup name map

def HeaderMap.containsKey (map : HeaderMap) (name : String) : Bool :=
  (map.get? name).isSome

/-- `collect` into a map: a name that is repeated keeps its last value. -/
def HeaderMap.collect (fields : List (String × String)) : HeaderMap :=
  fields.foldl (fun map field => map.insert field.1 field.2) []

/-- The HPACK decoder crate as an opaque stateful function: from its state and
a header block to the next state and the decoded fields, or an error. -/
structure HpackDecoder where
  State : Type
  new : State
  decode : State → List UInt8 → State × Option (List (List UInt8 × List UInt8))

/-- Stores partial HEADERS that we are still collecting (HEADERS + CONTINUATION). -/
structure PartialHeadersState where
  streamId : Nat
  flags : UInt8
  headerBlock : List UInt8
  deriving DecidableEq, Repr

structure HttpRequest where
  streamId : Nat
  method : String
  path : String
  headers : HeaderMap
  body : List UInt8
  deriving DecidableEq, Repr

structure H2Response where
  streamId : Nat
  status : String
  headers : HeaderMap
  body : List UInt8
  deriving DecidableEq, Repr

inductive SettingIdentifier where
  | headerTableSize
  | enablePush
  | maxConcurrentStreams
  | initialWindowSize
  | maxFrameSize
  | maxHeaderListSize
  | enableConnectProtocol
  | unknown (id : Nat)
  deriving DecidableEq, Repr

def SettingIdentifier.fromU16 : Nat → SettingIdentifier
  | 0x1 => .headerTableSize
  | 0x2 => .enablePush
  | 0x3 => .maxConcurrentStreams
  | 0x4 => .initialWindowSize
  | 0x5 => .maxFrameSize
  | 0x6 => .maxHeaderListSize
  | 0x8 => .enableConnectProtocol
  | other => .unknown other

structure DecodedSettings where
  identifier : SettingIdentifier
  value : Nat
  deriving DecidableEq, Repr

/-- The two variants of `H2Frame` that the observer builds. -/
inductive H2Frame where
  | rstStream (streamId errorCode : Nat)
  | unknown (frameType : UInt8) (streamId : Nat) (flags : UInt8) (payload : List UInt8)
  deriving DecidableEq, Repr

/-- Events we can produce after decoding frames. -/
inductive H2Event where
  | incomingRequest (request : HttpRequest)
  | outgoingRequest (request : HttpRequest)
  | outgoingResponse (response : H2Response)
  | partialOutgoingResponse (response : H2Response)
  | outgoingHeaders (streamId : Nat) (headers : HeaderMap)
  | incomingHeaders (streamId : Nat) (headers : HeaderMap)
  | data (streamId : Nat) (data : List UInt8) (direction : H2FrameDirection) (endStream : Bool)
  | priority (streamId : Nat) (exclusive : Bool) (streamDependency : Nat) (weight : UInt8)
  | goAway (lastStreamId errorCode : Nat) (debugData : List UInt8)
  | windowUpdate (direction : H2FrameDirection) (streamId windowSizeIncrement : Nat)
  | settings (direction : H2FrameDirection) (flags : UInt8) (settings : List DecodedSettings)
  | ping (direction : H2FrameDirection) (flags : UInt8) (opaqueData : List UInt8)
  | pushPromise (streamId promisedStreamId : Nat) (headerBlockFragment : List UInt8)
  | unknown (frame : H2Frame)
  deriving DecidableEq, Repr

structure StreamState where
  headers : Option HeaderMap
  body : List UInt8
  streamWindowSize : Nat
  deriving DecidableEq, Repr

def StreamState.new : StreamState := ⟨none, [], 65535⟩

def StreamState.toRequest (st : StreamState) (streamId : Nat) : HttpRequest :=
  let hdrs := st.headers.getD []
  { streamId
    method := (hdrs.get? ":method").getD "GET"
    path := (hdrs.get? ":path").getD "/"
    headers := hdrs
    body := st.body }

def StreamState.toResponse (st : StreamState) (streamId : Nat) : H2Response :=
  let hdrs := st.headers.getD []
  { streamId
    status := (hdrs.get? ":status").getD "200"
    headers := hdrs
    body := st.body }

/-! ## The buffer of one direction -/

structure H2Buffer where
  buffer : List UInt8
  needsPreface : Bool
  prefaceConsumed : Bool
  deriving DecidableEq, Repr

def H2Buffer.new (needsPreface : Bool) : H2Buffer := ⟨[], needsPreface, false⟩

/-- `b"PRI * HTTP/2.0\r\n\r\nSM\r\n\r\n"`. -/
def preface : List UInt8 :=
  [80, 82, 73, 32, 42, 32, 72, 84, 84, 80, 47, 50, 46, 48, 13, 10, 13, 10,
    83, 77, 13, 10, 13, 10]

def H2Buffer.consumePreface (b : H2Buffer) : H2Buffer :=
  if b.buffer.length < preface.length then b -- wait for more data
  else if b.buffer.take preface.length = preface then
    { b with buffer := b.buffer.drop preface.length, prefaceConsumed := true }
  else { b with buffer := [] }

def H2Buffer.write (b : H2Buffer) (data : List UInt8) : H2Buffer :=
  let b := { b with buffer := b.buffer ++ data }
  if !b.prefaceConsumed && b.needsPreface then b.consumePreface else b

/-! ## The observer -/

structure H2Observer (hpack : HpackDecoder) where
  connectionWindowSize : Nat
  incoming : H2Buffer
  outgoing : H2Buffer
  hpackDecoderIncoming : hpack.State
  hpackDecoderOutgoing : hpack.State
  streams : Nat → Option StreamState
  partialHeaders : Option PartialHeadersState
  partialHeadersDirection : Option H2FrameDirection

variable {hpack : HpackDecoder}

def H2Observer.new (hpack : HpackDecoder) : H2Observer hpack where
  connectionWindowSize := 65535
  incoming := H2Buffer.new true
  outgoing := H2Buffer.new false
  hpackDecoderIncoming := hpack.new
  hpackDecoderOutgoing := hpack.new
  streams := fun _ => none
  partialHeaders := none
  partialHeadersDirection := none

def H2Observer.buffer (self : H2Observer hpack) : H2FrameDirection → H2Buffer
  | .incoming => self.incoming
  | .outgoing => self.outgoing

def H2Observer.setBuffer (self : H2Observer hpack) (direction : H2FrameDirection)
    (b : H2Buffer) : H2Observer hpack :=
  match direction with
  | .incoming => { self with incoming := b }
  | .outgoing => { self with outgoing := b }

def H2Observer.hpackDecoder (self : H2Observer hpack) : H2FrameDirection → hpack.State
  | .incoming => self.hpackDecoderIncoming
  | .outgoing => self.hpackDecoderOutgoing

def H2Observer.setHpackDecoder (self : H2Observer hpack) (direction : H2FrameDirection)
    (state : hpack.State) : H2Observer hpack :=
  match direction with
  | .incoming => { self with hpackDecoderIncoming := state }
  | .outgoing => { self with hpackDecoderOutgoing := state }

/-- `write_incoming` and `write_outgoing`. -/
def H2Observer.write (self : H2Observer hpack) (direction : H2FrameDirection)
    (data : List UInt8) : H2Observer hpack :=
  self.setBuffer direction ((self.buffer direction).write data)

def H2Observer.setStream (self : H2Observer hpack) (streamId : Nat)
    (st : Option StreamState) : H2Observer hpack :=
  { self with streams := Function.update self.streams streamId st }

/-- `streams.entry(stream_id).or_insert_with(StreamState::new)`. -/
def H2Observer.entry (self : H2Observer hpack) (streamId : Nat) : StreamState :=
  (self.streams streamId).getD StreamState.new

/-- If `:method` is a known HTTP method, we treat it as a normal request. If
not, we treat it as "continuous". -/
def isContinuousStream (headers : HeaderMap) : Bool :=
  match headers.get? ":method" with
  | some m => !(["GET", "POST", "PUT", "DELETE", "PATCH", "HEAD", "OPTIONS"].contains m)
  | none => true

/-- Convert a vector to a string (falling back if invalid UTF-8). -/
def vecToString (bytes : List UInt8) : String :=
  (String.fromUTF8? ⟨bytes.toArray⟩).getD "failed to convert to string.."

/-- The header map of a decoded block. -/
def headersMap (fields : List (List UInt8 × List UInt8)) : HeaderMap :=
  HeaderMap.collect (fields.map fun field => (vecToString field.1, vecToString field.2))

def hasFlag (flags mask : UInt8) : Bool := flags &&& mask != 0

/-- The event of a complete header block that decoded to `headers`, once the
stream's state `st` holds them. -/
def H2Observer.reportHeaders (self : H2Observer hpack) (direction : H2FrameDirection)
    (streamId : Nat) (endStream : Bool) (headers : HeaderMap) (st : StreamState) :
    H2Event × H2Observer hpack :=
  match direction with
  | .incoming =>
    if endStream && !isContinuousStream headers then
      (.incomingRequest (st.toRequest streamId), self.setStream streamId none)
    else (.incomingHeaders streamId headers, self)
  | .outgoing =>
    if headers.containsKey ":method" then
      if endStream && !isContinuousStream headers then
        (.outgoingRequest (st.toRequest streamId), self.setStream streamId none)
      else (.outgoingRequest (st.toRequest streamId), self)
    else if headers.containsKey ":status" then
      if endStream then
        (.outgoingResponse (st.toResponse streamId), self.setStream streamId none)
      else (.partialOutgoingResponse (st.toResponse streamId), self)
    else (.outgoingHeaders streamId headers, self)

/-- Called once HEADERS+CONTINUATION are done. We'll decode HPACK and produce
an event. -/
def H2Observer.handleCompleteHeaders (self : H2Observer hpack)
    (direction : H2FrameDirection) (streamId : Nat) (flags : UInt8)
    (headerBlock : List UInt8) : Option H2Event × H2Observer hpack :=
  let (state, decodeResult) := hpack.decode (self.hpackDecoder direction) headerBlock
  let self := self.setHpackDecoder direction state
  match decodeResult with
  | none => (some (.unknown (.rstStream streamId 0x1)), self)
  | some headersList =>
    let headers := headersMap headersList
    let st := { self.entry streamId with headers := some headers }
    let (event, self) := (self.setStream streamId (some st)).reportHeaders direction streamId
      (hasFlag flags 0x1) headers st
    (some event, self)

def FrameHeader.unknownEvent (frame : FrameHeader) : H2Event :=
  .unknown (.unknown frame.frameType frame.streamId frame.flags frame.payload)

def handlePriorityFrame (frame : FrameHeader) : H2Event :=
  match frame.payload with
  | [p0, p1, p2, p3, weight] =>
    .priority frame.streamId (hasFlag p0 0x80) (be32 (p0 &&& 0x7F) p1 p2 p3) weight
  | _ => frame.unknownEvent

def handlePushPromise (frame : FrameHeader) : H2Event :=
  match frame.payload with
  | p0 :: p1 :: p2 :: p3 :: headerBlockFragment =>
    .pushPromise frame.streamId (be32 (p0 &&& 0x7F) p1 p2 p3) headerBlockFragment
  | _ => frame.unknownEvent

def handleGoaway (frame : FrameHeader) : H2Event :=
  match frame.payload with
  | p0 :: p1 :: p2 :: p3 :: p4 :: p5 :: p6 :: p7 :: debugData =>
    .goAway (be32 (p0 &&& 0x7F) p1 p2 p3) (be32 p4 p5 p6 p7) debugData
  | _ => frame.unknownEvent

def handlePing (direction : H2FrameDirection) (frame : FrameHeader) : H2Event :=
  if frame.payload.length = 8 then .ping direction frame.flags frame.payload
  else frame.unknownEvent

/-- The settings of a payload, in chunks of six bytes; leftover bytes are ignored. -/
def readSettings : List UInt8 → List DecodedSettings
  | i0 :: i1 :: v0 :: v1 :: v2 :: v3 :: cursor =>
    ⟨.fromU16 ((i0.toNat <<< 8) ||| i1.toNat), be32 v0 v1 v2 v3⟩ :: readSettings cursor
  | _ => []

def handleSettingsFrame (direction : H2FrameDirection) (frame : FrameHeader) : H2Event :=
  .settings direction frame.flags (readSettings frame.payload)

def handleRstStream (frame : FrameHeader) : H2Event :=
  match frame.payload with
  | [p0, p1, p2, p3] => .unknown (.rstStream frame.streamId (be32 p0 p1 p2 p3))
  | _ => frame.unknownEvent

/-- `a.checked_add(b).unwrap_or(u32::MAX)`. -/
def saturatingAdd (a b : Nat) : Nat := if a + b < 2 ^ 32 then a + b else 2 ^ 32 - 1

def H2Observer.handleWindowUpdate (self : H2Observer hpack) (direction : H2FrameDirection)
    (frame : FrameHeader) : H2Event × H2Observer hpack :=
  match frame.payload with
  | [p0, p1, p2, p3] =>
    let increment := be32 (p0 &&& 0x7F) p1 p2 p3
    let self :=
      if frame.streamId = 0 then
        { self with connectionWindowSize := saturatingAdd self.connectionWindowSize increment }
      else
        let st := self.entry frame.streamId
        self.setStream frame.streamId
          (some { st with streamWindowSize := saturatingAdd st.streamWindowSize increment })
    (.windowUpdate direction frame.streamId increment, self)
  | _ => (frame.unknownEvent, self)

/-- Handle a DATA frame (including PADDED logic). -/
def H2Observer.handleDataFrame (self : H2Observer hpack) (direction : H2FrameDirection)
    (frame : FrameHeader) : H2Event × H2Observer hpack :=
  match parseDataPayload frame.flags frame.payload with
  | none => (frame.unknownEvent, self) -- invalid padding
  | some (data, endStream) =>
    let old := self.entry frame.streamId
    let st := { old with body := old.body ++ data }
    let self := self.setStream frame.streamId (some st)
    let plain := H2Event.data frame.streamId data direction endStream
    match st.headers with
    | some hm =>
      if endStream then
        match direction with
        | .incoming =>
          if !isContinuousStream hm then (plain, self.setStream frame.streamId none)
          else (plain, self)
        | .outgoing =>
          if hm.containsKey ":method" then
            (.outgoingRequest (st.toRequest frame.streamId), self.setStream frame.streamId none)
          else if hm.containsKey ":status" then
            (.outgoingResponse (st.toResponse frame.streamId), self.setStream frame.streamId none)
          else (plain, self)
      else (plain, self)
    | none => (plain, self)

/-- The main dispatch for a newly parsed frame (DATA, HEADERS, etc.). -/
def H2Observer.handleRegularFrame (self : H2Observer hpack) (direction : H2FrameDirection)
    (frame : FrameHeader) : Option H2Event × H2Observer hpack :=
  match frame.frameType with
  | 0x0 => let (event, self) := self.handleDataFrame direction frame; (some event, self)
  | 0x1 =>
    match parseHeadersPayload frame.flags frame.payload with
    | some (block, true) =>
      self.handleCompleteHeaders direction frame.streamId frame.flags block
    | some (block, false) =>
      -- partial HEADERS => store until CONTINUATION, no event
      (none, { self with
        partialHeaders := some ⟨frame.streamId, frame.flags, block⟩
        partialHeadersDirection := some direction })
    | none => (some (.unknown (.rstStream frame.streamId 0x1)), self)
  | 0x2 => (some (handlePriorityFrame frame), self)
  | 0x3 => (some (handleRstStream frame), self)
  | 0x4 => (some (handleSettingsFrame direction frame), self)
  | 0x5 => (some (handlePushPromise frame), self)
  | 0x6 => (some (handlePing direction frame), self)
  | 0x7 => (some (handleGoaway frame), self)
  | 0x8 => let (event, self) := self.handleWindowUpdate direction frame; (some event, self)
  | _ => (some frame.unknownEvent, self) -- 0x9 out of place, or an extension frame

/-- The last part of `poll_one_frame`: not in partial HEADERS mode for this
direction, parse a new frame. -/
def H2Observer.pollNewFrame (self : H2Observer hpack) (direction : H2FrameDirection) :
    Option H2Event × H2Observer hpack :=
  let b := self.buffer direction
  match parseNextFrame b.buffer with
  | some (frame, rest) =>
    (self.setBuffer direction { b with buffer := rest }).handleRegularFrame direction frame
  | none => (none, self)

/-- Attempt to parse exactly one frame from the given direction. -/
def H2Observer.pollOneFrame (self : H2Observer hpack) (direction : H2FrameDirection) :
    Option H2Event × H2Observer hpack :=
  match self.partialHeaders with
  | some held =>
    if self.partialHeadersDirection != some direction then self.pollNewFrame direction
    else
      let b := self.buffer direction
      match parseNextFrame b.buffer with
      | some (frame, rest) =>
        let self := self.setBuffer direction { b with buffer := rest }
        -- not CONTINUATION or not same stream: treat it as new, the slot stays
        if frame.frameType != 0x9 || frame.streamId != held.streamId then
          self.handleRegularFrame direction frame
        else
          let combined := held.headerBlock ++ frame.payload
          if hasFlag frame.flags 0x4 then
            let self := { self with partialHeaders := none, partialHeadersDirection := none }
            self.handleCompleteHeaders direction held.streamId held.flags combined
          else
            (none, { self with partialHeaders := some { held with headerBlock := combined } })
      | none => (none, self)
  | none => self.pollNewFrame direction

/-- `while let Some(e) = self.poll_one_frame(direction)`. Every event takes at
least nine bytes off the buffer, so its length bounds the iterations. -/
def H2Observer.drainDirection (direction : H2FrameDirection) :
    Nat → H2Observer hpack → List H2Event × H2Observer hpack
  | 0, self => ([], self)
  | fuel + 1, self =>
    match self.pollOneFrame direction with
    | (some event, next) =>
      let (events, last) := H2Observer.drainDirection direction fuel next
      (event :: events, last)
    | (none, next) => ([], next)

def H2Observer.getAllEvents (self : H2Observer hpack) : List H2Event × H2Observer hpack :=
  let (incoming, self) :=
    H2Observer.drainDirection .incoming (self.incoming.buffer.length + 1) self
  let (outgoing, self) :=
    H2Observer.drainDirection .outgoing (self.outgoing.buffer.length + 1) self
  (incoming ++ outgoing, self)

/-- `Stream::poll_next`: `none` is `Poll::Pending`. -/
def H2Observer.pollNext (self : H2Observer hpack) : Option H2Event × H2Observer hpack :=
  match self.pollOneFrame .incoming with
  | (some event, next) => (some event, next)
  | (none, next) => next.pollOneFrame .outgoing

/-- Calling `poll_next` until it yields nothing. -/
def H2Observer.pollAll : Nat → H2Observer hpack → List H2Event × H2Observer hpack
  | 0, self => ([], self)
  | fuel + 1, self =>
    match self.pollNext with
    | (some event, next) =>
      let (events, last) := H2Observer.pollAll fuel next
      (event :: events, last)
    | (none, next) => ([], next)

/-! ## A decoder to run the observer with -/

/-- Six entries of the HPACK static table, by index. -/
def staticTable : Nat → Option (List UInt8 × List UInt8)
  | 2 => some ([58, 109, 101, 116, 104, 111, 100], [71, 69, 84]) -- :method GET
  | 3 => some ([58, 109, 101, 116, 104, 111, 100], [80, 79, 83, 84]) -- :method POST
  | 4 => some ([58, 112, 97, 116, 104], [47]) -- :path /
  | 8 => some ([58, 115, 116, 97, 116, 117, 115], [50, 48, 48]) -- :status 200
  | 13 => some ([58, 115, 116, 97, 116, 117, 115], [52, 48, 52]) -- :status 404
  | 54 => some ([115, 101, 114, 118, 101, 114], []) -- server
  | _ => none

/-- The HPACK decoder on blocks of indexed fields of that table: each field is
one byte with its top bit set, and the dynamic table stays empty. -/
def staticHpack : HpackDecoder where
  State := Unit
  new := ()
  decode _ block := ((), block.mapM fun byte => staticTable (byte.toNat - 128))

end OddBox.H2

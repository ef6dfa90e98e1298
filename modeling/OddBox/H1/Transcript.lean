import OddBox.H1.Observer

/-!
What a connection carries: complete requests and responses whose bodies have the
announced length, then possibly an accepted upgrade and complete frames.
-/

namespace OddBox.H1

open OddBox.Incremental

/-! ## Messages -/

/-- A head and a body of the length that its headers announce. -/
structure Message {α : Type} (parser : HeadParser α)
    (headersOf : α → List (String × List UInt8)) where
  text : List UInt8
  head : α
  body : List UInt8
  isHead : parser.IsHead text head
  announced : body.length = contentLength (headerTexts (headersOf head))

section Messages

variable {α : Type} {parser : HeadParser α} {headersOf : α → List (String × List UInt8)}

def Message.bytes (message : Message parser headersOf) : List UInt8 :=
  message.text ++ message.body

def Message.raw (message : Message parser headersOf) : RawMessage α where
  head := message.head
  headers := headerTexts (headersOf message.head)
  body := if message.body = [] then none else some message.body

theorem Message.bytes_ne_nil (message : Message parser headersOf) : message.bytes ≠ [] := by
  intro h
  exact parser.nonempty message.isHead (List.append_eq_nil_iff.mp h).1

/-- The bytes of a message are read as that message. -/
theorem Message.parse (message : Message parser headersOf) :
    parseMessage parser headersOf message.bytes = some (message.raw, message.bytes.length) := by
  apply parseMessage_eq_some.mpr
  refine ⟨message.text, message.body, rfl, message.isHead, rfl, ?_, ?_, ?_⟩
  · exact Nat.le_of_eq message.announced.symm
  · simp only [Message.raw, ← message.announced, List.take_length, gt_iff_lt,
      List.length_pos_iff, ne_eq]
    split <;> simp_all
  · simp only [Message.raw, Message.bytes, List.length_append, message.announced]

end Messages

variable (httparse : Httparse)

abbrev RequestMessage := Message httparse.request RequestHead.headers

abbrev ResponseMessage := Message httparse.response ResponseHead.headers

/-- A complete frame. Its first byte starts no response head. -/
structure FrameMessage where
  bytes : List UInt8
  frame : WebSocketFrame
  complete : parseWebsocketFrame bytes = some (frame, bytes.length)
  notHead : ∀ {text head}, httparse.response.IsHead text head → text.head? ≠ bytes.head?

variable {httparse}

def Message.request (message : RequestMessage httparse) : ParsedRequest := message.raw.toRequest

def Message.response (message : ResponseMessage httparse) : ParsedResponse :=
  message.raw.toResponse

theorem FrameMessage.bytes_ne_nil (message : FrameMessage httparse) : message.bytes ≠ [] := by
  intro h
  have hpos := (frameParser.consumes message.complete).1
  rw [h] at hpos
  exact absurd hpos (Nat.lt_irrefl 0)

theorem requests_encode : (requests httparse).Encodes
    (fun message : RequestMessage httparse => message.bytes) Message.request where
  next_encode message rest := by
    apply FrontParser.next_append
    rw [requestParser_parse, parseHttpRequest, message.parse]
    rfl

theorem responses_encode : (responses httparse).Encodes
    (fun message : ResponseMessage httparse => message.bytes) Message.response where
  next_encode message rest := by
    apply FrontParser.next_append
    rw [responseParser_parse, parseHttpResponse, message.parse]
    rfl

theorem frames_encode : frames.Encodes (fun message : FrameMessage httparse => message.bytes)
    (fun message => message.frame) where
  next_encode message rest := FrontParser.next_append message.complete rest

/-! ## Pushes -/

/-- Everything that is pushed in one direction. -/
def bytesOf (direction : DataDirection) (pushes : List (DataDirection × List UInt8)) :
    List UInt8 :=
  (pushes.filter (·.1 == direction)).flatMap (·.2)

@[simp] theorem bytesOf_nil (direction : DataDirection) : bytesOf direction [] = [] := rfl

@[simp] theorem bytesOf_append (direction : DataDirection)
    (first second : List (DataDirection × List UInt8)) :
    bytesOf direction (first ++ second) = bytesOf direction first ++ bytesOf direction second := by
  simp only [bytesOf, List.filter_append, List.flatMap_append]

theorem bytesOf_cons (direction : DataDirection) (push : DataDirection × List UInt8)
    (pushes : List (DataDirection × List UInt8)) :
    bytesOf direction (push :: pushes) =
      (if push.1 = direction then push.2 else []) ++ bytesOf direction pushes := by
  simp only [bytesOf, List.filter_cons, beq_iff_eq]
  split
  · rfl
  · rfl

/-! ## Transcripts -/

variable (httparse)

inductive HttpMessage where
  | request (message : RequestMessage httparse)
  | response (message : ResponseMessage httparse)

/-- An accepted upgrade and the frames after it. -/
structure WebSocketPart where
  accepted : ResponseMessage httparse
  isUpgrade : accepted.response.isUpgrade = true
  frames : List (DataDirection × FrameMessage httparse)

variable {httparse}

def HttpMessage.isRequest : HttpMessage httparse → Bool
  | .request _ => true
  | .response _ => false

def HttpMessage.isUpgradeRequest : HttpMessage httparse → Bool
  | .request message => message.request.isUpgrade
  | .response _ => false

def HttpMessage.accepts : HttpMessage httparse → Bool
  | .request _ => false
  | .response message => message.response.isUpgrade

/-- A message as one push. -/
def HttpMessage.piece : HttpMessage httparse → DataDirection × List UInt8
  | .request message => (.clientToServer, message.bytes)
  | .response message => (.serverToClient, message.bytes)

def requestsOf (http : List (HttpMessage httparse)) : List (RequestMessage httparse) :=
  http.filterMap fun
    | .request message => some message
    | .response _ => none

def responsesOf (http : List (HttpMessage httparse)) : List (ResponseMessage httparse) :=
  http.filterMap fun
    | .request _ => none
    | .response message => some message

def framesOf (direction : DataDirection) (frames : List (DataDirection × FrameMessage httparse)) :
    List (FrameMessage httparse) :=
  (frames.filter (·.1 == direction)).map (·.2)

def WebSocketPart.pieces (part : WebSocketPart httparse) : List (DataDirection × List UInt8) :=
  part.frames.map fun (direction, frame) => (direction, frame.bytes)

variable (httparse) in
/-- The messages of a connection in their order. A websocket is opened only by the
answer to an upgrade request. -/
structure Transcript where
  http : List (HttpMessage httparse)
  notAccepted : ∀ message ∈ http, message.accepts = false
  upgrade : Option (WebSocketPart httparse)
  asked : upgrade.isSome = true → ∃ message ∈ http, message.isUpgradeRequest = true

/-- The accepting response and the frames. -/
def upgradePieces : Option (WebSocketPart httparse) → List (DataDirection × List UInt8)
  | none => []
  | some part => (.serverToClient, part.accepted.bytes) :: part.pieces

/-- The transcript pushed message by message. -/
def Transcript.pieces (transcript : Transcript httparse) : List (DataDirection × List UInt8) :=
  transcript.http.map HttpMessage.piece ++ upgradePieces transcript.upgrade

/-- The pushes carry the bytes of the transcript in each direction. -/
def Transcript.Splits (transcript : Transcript httparse)
    (pushes : List (DataDirection × List UInt8)) : Prop :=
  ∀ direction, bytesOf direction pushes = bytesOf direction transcript.pieces

theorem clientBytes_http (http : List (HttpMessage httparse)) :
    bytesOf .clientToServer (http.map HttpMessage.piece) =
      ((requestsOf http).map fun message => message.bytes).flatten := by
  induction http with
  | nil => rfl
  | cons message http ih =>
    rw [List.map_cons, bytesOf_cons, ih]
    cases message <;> rfl

theorem serverBytes_http (http : List (HttpMessage httparse)) :
    bytesOf .serverToClient (http.map HttpMessage.piece) =
      ((responsesOf http).map fun message => message.bytes).flatten := by
  induction http with
  | nil => rfl
  | cons message http ih =>
    rw [List.map_cons, bytesOf_cons, ih]
    cases message <;> rfl

theorem bytesOf_frames (part : WebSocketPart httparse) (direction : DataDirection) :
    bytesOf direction part.pieces =
      ((framesOf direction part.frames).map fun message => message.bytes).flatten := by
  unfold WebSocketPart.pieces
  induction part.frames with
  | nil => rfl
  | cons frame frames ih =>
    obtain ⟨side, message⟩ := frame
    rw [List.map_cons, bytesOf_cons, ih]
    by_cases h : side = direction
    · simp [framesOf, h]
    · simp [framesOf, h]

end OddBox.H1

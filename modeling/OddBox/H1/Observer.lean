import OddBox.H1.Messages
import OddBox.Machine

/-!
The observer of `h1_parser.rs`: a buffer for each direction and the state of the
connection, from HTTP over a requested upgrade to a websocket.
-/

namespace OddBox.H1

open OddBox.Incremental OddBox.Str

/-- The `httparse` crate, for requests and for responses. -/
structure Httparse where
  request : HeadParser RequestHead
  response : HeadParser ResponseHead

inductive HttpData where
  | request (request : ParsedRequest)
  | response (response : ParsedResponse)
  | webSocketSend (frame : WebSocketFrame)
  | webSocketReceive (frame : WebSocketFrame)
  | webSocketOpened
  | webSocketClosed
  | protocolSwitchedToWebSocket
  deriving DecidableEq, Repr

inductive ConnectionState where
  | http
  | upgradeRequested
  | webSocket
  deriving DecidableEq, Repr

inductive DataDirection where
  | clientToServer
  | serverToClient
  deriving DecidableEq, Repr

/-! ## Upgrades -/

/-- `Upgrade: websocket` together with a `Connection` header that names it. -/
def hasUpgradeHeaders (headers : List (String × String)) : Bool :=
  (headers.any fun (name, value) =>
      eqIgnoreAsciiCase name "Upgrade" && eqIgnoreAsciiCase value "websocket") &&
    headers.any fun (name, value) =>
      eqIgnoreAsciiCase name "Connection" &&
        decide ("upgrade".toList <:+: value.toList.map Char.toLower)

def isWebsocketUpgrade : HttpData → Bool
  | .request req => hasUpgradeHeaders req.headers
  | .response resp => resp.statusCode == 101 && hasUpgradeHeaders resp.headers
  | _ => false

def ParsedRequest.isUpgrade (req : ParsedRequest) : Bool := isWebsocketUpgrade (.request req)

def ParsedResponse.isUpgrade (resp : ParsedResponse) : Bool := isWebsocketUpgrade (.response resp)

/-- `frame.opcode == 0x8`. -/
def WebSocketFrame.isClose (frame : WebSocketFrame) : Bool := frame.opcode == 0x8

/-! ## The events of a message -/

def requestEvents (req : ParsedRequest) : List HttpData :=
  .request req :: if req.isUpgrade then [.protocolSwitchedToWebSocket] else []

def responseEvents (resp : ParsedResponse) : List HttpData :=
  .response resp :: if resp.isUpgrade then [.webSocketOpened] else []

def sendEvents (frame : WebSocketFrame) : List HttpData :=
  .webSocketSend frame :: if frame.isClose then [.webSocketClosed] else []

def receiveEvents (frame : WebSocketFrame) : List HttpData :=
  .webSocketReceive frame :: if frame.isClose then [.webSocketClosed] else []

/-! ## The observer -/

structure H1Observer where
  clientToServer : List UInt8
  serverToClient : List UInt8
  state : ConnectionState
  deriving DecidableEq, Repr

def H1Observer.default : H1Observer := ⟨[], [], .http⟩

def H1Observer.push (self : H1Observer) (direction : DataDirection) (data : List UInt8) :
    H1Observer :=
  match direction with
  | .clientToServer => { self with clientToServer := self.clientToServer ++ data }
  | .serverToClient => { self with serverToClient := self.serverToClient ++ data }

section Loops

variable (httparse : Httparse)

def requests : Decoder UInt8 ParsedRequest := (requestParser httparse.request).decoder

def responses : Decoder UInt8 ParsedResponse := (responseParser httparse.response).decoder

def frames : Decoder UInt8 WebSocketFrame := frameParser.decoder

/-- The loop over `parse_http_request`. It goes on after an upgrade request. -/
def H1Observer.readRequests (self : H1Observer) : List HttpData × H1Observer :=
  let (read, rest) := (requests httparse).decodeAll self.clientToServer
  (read.flatMap requestEvents, { self with
    clientToServer := rest
    state := if read.any ParsedRequest.isUpgrade then .upgradeRequested else self.state })

/-- The loop over `parse_http_response`, the same before and after an upgrade was
requested. -/
def H1Observer.readResponses (self : H1Observer) : List HttpData × H1Observer :=
  let (read, rest) := (responses httparse).decodeAll self.serverToClient
  (read.flatMap responseEvents, { self with
    serverToClient := rest
    state := if read.any ParsedResponse.isUpgrade then .webSocket else self.state })

/-- A close frame takes the connection back to HTTP. -/
def H1Observer.readSent (self : H1Observer) : List HttpData × H1Observer :=
  let (read, rest) := frames.decodeAll self.clientToServer
  (read.flatMap sendEvents, { self with
    clientToServer := rest
    state := if read.any WebSocketFrame.isClose then .http else self.state })

def H1Observer.readReceived (self : H1Observer) : List HttpData × H1Observer :=
  let (read, rest) := frames.decodeAll self.serverToClient
  (read.flatMap receiveEvents, { self with
    serverToClient := rest
    state := if read.any WebSocketFrame.isClose then .http else self.state })

/-- `parse`: the branch is chosen once, by the state at the call. The client's
events, which come first, and the server's are kept apart. -/
def H1Observer.parse (self : H1Observer) : (List HttpData × List HttpData) × H1Observer :=
  match self.state with
  | .http =>
    let (sent, self) := self.readRequests httparse
    let (received, self) := self.readResponses httparse
    ((sent, received), self)
  | .upgradeRequested =>
    let (received, self) := self.readResponses httparse
    (([], received), self)
  | .webSocket =>
    let (sent, self) := self.readSent
    let (received, self) := self.readReceived
    ((sent, received), self)

/-! ## A connection -/

/-- The observer with the events of each direction so far. -/
structure Observation where
  sent : List HttpData
  received : List HttpData
  observer : H1Observer
  deriving DecidableEq, Repr

def Observation.start : Observation := ⟨[], [], .default⟩

/-- A chunk is pushed, and all that is complete is parsed. -/
def Observation.step (self : Observation) (push : DataDirection × List UInt8) : Observation :=
  let ((sent, received), observer) := (self.observer.push push.1 push.2).parse httparse
  ⟨self.sent ++ sent, self.received ++ received, observer⟩

def observe (pushes : List (DataDirection × List UInt8)) : Observation :=
  Machine.run (Observation.step httparse) .start pushes

end Loops

end OddBox.H1

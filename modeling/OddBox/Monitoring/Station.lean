import OddBox.H1.Observer
import OddBox.H2.Observer
import OddBox.Proxy.ActiveConnections

/-!
`MonitoringStation` of `observer.rs`: the traffic of the open connections, decoded as it is
observed. The maps are functions to `Option`; the clock, the look-up of local processes and
the crates that decode are what the station is given. The packets that no code builds are
left out.
-/

namespace OddBox.Monitoring

open OddBox.H1 (DataDirection H1Observer HttpData Httparse)
open OddBox.H2 (H2Event H2FrameDirection H2Observer HpackDecoder HeaderMap)
open OddBox.Proxy (ProxyActiveTCPConnection SocketAddr)

abbrev ConnectionKey := Nat

inductive DecodedPacket where
  | http0or1 (data : HttpData)
  | http2 (event : H2Event)
  deriving DecidableEq, Repr

inductive TCPConnectionState where
  | opened
  | closed
  deriving DecidableEq, Repr

structure TCPConnection where
  id : ConnectionKey
  packets : List DecodedPacket
  state : TCPConnectionState
  connection : ProxyActiveTCPConnection
  extraLog : List String
  bytesSent : Nat
  bytesRec : Nat
  createdTimestamp : Nat
  localProcessNameAndPid : Option (String × Int)
  deriving DecidableEq

/-- The events that the station sends to websocket clients. -/
inductive EventForWebsocketClients where
  | http1Event (key : ConnectionKey) (packet : DecodedPacket)
  | http2Event (key : ConnectionKey) (streamId : Option Nat) (packet : DecodedPacket)
  | sentReqToBackend (key : ConnectionKey) (text : String)
  | receivedResFromBackend (key : ConnectionKey) (text : String)
  deriving DecidableEq, Repr

inductive TCPEvent where
  | opened (connection : ProxyActiveTCPConnection)
  | closed (key : ConnectionKey)
  | updated (connection : ProxyActiveTCPConnection)
  | rawBytesFromClientToOddBox (key : ConnectionKey) (isHttp2 : Bool) (data : List UInt8)
  | rawBytesFromOddBoxToClient (key : ConnectionKey) (isHttp2 : Bool) (data : List UInt8)
  deriving DecidableEq

inductive GlobalEvent where
  | tcpEvent (event : TCPEvent)
  | sentHttpRequestToBackend (key : ConnectionKey) (text : String)
  | gotResponseFromBackend (key : ConnectionKey) (text : String)
  deriving DecidableEq

/-- What is outside of the station. -/
structure Surroundings where
  hpack : HpackDecoder
  httparse : Httparse
  /-- `get_process_by_socket`, from the socket of the client and that of the proxy. -/
  processBySocket : SocketAddr → SocketAddr → Option (String × Int)

variable {env : Surroundings}

structure MonitoringStation (env : Surroundings) where
  tcpConnections : ConnectionKey → Option TCPConnection
  h2Observers : ConnectionKey → Option (H2Observer env.hpack)
  h1Observers : ConnectionKey → Option H1Observer
  /-- What was sent to the websocket clients so far. -/
  sent : List EventForWebsocketClients

/-! ## gRPC -/

def contentTypeIsGrpc (headers : HeaderMap) : Bool :=
  match headers.get? "content-type" with
  | some contentType => contentType.startsWith "application/grpc"
  | none => false

def checkIfGrpc (event : H2Event) (decodeAsGrpc : Bool) : Bool :=
  match event with
  | .incomingHeaders _ headers => decodeAsGrpc || contentTypeIsGrpc headers
  | .incomingRequest request => decodeAsGrpc || contentTypeIsGrpc request.headers
  | _ => decodeAsGrpc

/-- Whether one of the events shows gRPC. -/
def anyGrpc (events : List H2Event) : Bool :=
  events.foldl (fun isGrpc event => isGrpc || checkIfGrpc event isGrpc) false

/-! ## The station -/

/-- The stream that an event of HTTP/2 is about. -/
def h2StreamId : H2Event → Option Nat
  | .incomingRequest request => some request.streamId
  | .outgoingRequest request => some request.streamId
  | .outgoingResponse response => some response.streamId
  | .partialOutgoingResponse response => some response.streamId
  | .outgoingHeaders streamId _ => some streamId
  | .incomingHeaders streamId _ => some streamId
  | .data streamId _ _ _ => some streamId
  | .priority streamId _ _ _ => some streamId
  | .goAway _ _ _ => none
  | .windowUpdate _ streamId _ => some streamId
  | .settings _ _ _ => none
  | .ping _ _ _ => none
  | .pushPromise streamId _ _ => some streamId
  | .unknown _ => none

def handlePacket (key : ConnectionKey) (packet : DecodedPacket) : EventForWebsocketClients :=
  match packet with
  | .http2 event => .http2Event key (h2StreamId event) packet
  | .http0or1 _ => .http1Event key packet

namespace MonitoringStation

def new (env : Surroundings) : MonitoringStation env where
  tcpConnections := fun _ => none
  h2Observers := fun _ => none
  h1Observers := fun _ => none
  sent := []

variable (self : MonitoringStation env)

def reset : MonitoringStation env :=
  { self with
    tcpConnections := fun _ => none
    h2Observers := fun _ => none
    h1Observers := fun _ => none }

def updateConnection (key : ConnectionKey) (f : TCPConnection → TCPConnection) :
    MonitoringStation env :=
  match self.tcpConnections key with
  | some connection =>
    { self with tcpConnections := Function.update self.tcpConnections key (some (f connection)) }
  | none => self

/-- Packets are sent to the websocket clients where their connection is known. -/
def pushPackets (key : ConnectionKey) (packets : List DecodedPacket)
    (f : TCPConnection → TCPConnection) : MonitoringStation env :=
  match self.tcpConnections key with
  | some _ =>
    let updated := self.updateConnection key fun connection =>
      { f connection with packets := connection.packets ++ packets }
    { updated with sent := updated.sent ++ packets.map (handlePacket key) }
  | none => self

def pushExtra (key : ConnectionKey) (text : String) (outgoing : Bool) : MonitoringStation env :=
  let updated := self.updateConnection key fun connection =>
    { connection with extraLog := connection.extraLog ++ [text] }
  { updated with
    sent := updated.sent ++
      [if outgoing then .sentReqToBackend key text else .receivedResFromBackend key text] }

/-- A connection as it is first seen. -/
def newConnection (now : Nat) (connection : ProxyActiveTCPConnection) : TCPConnection where
  id := connection.connectionKey
  packets := []
  state := .opened
  connection := connection
  extraLog := []
  bytesSent := 0
  bytesRec := 0
  createdTimestamp := now
  localProcessNameAndPid := none

/-- `Open`: the connection itself was inserted before the event. -/
def pushOpened (connection : ProxyActiveTCPConnection) : MonitoringStation env :=
  match connection.clientSocketAddress, connection.oddBoxSocket with
  | some client, some oddBox =>
    match env.processBySocket client oddBox with
    | some process =>
      self.updateConnection connection.connectionKey fun found =>
        { found with localProcessNameAndPid := some process }
    | none => self
  | _, _ => self

def pushUpdated (now : Nat) (connection : ProxyActiveTCPConnection) : MonitoringStation env :=
  let key := connection.connectionKey
  match self.tcpConnections key with
  | some _ => self.updateConnection key fun found => { found with connection := connection }
  | none =>
    { self with
      tcpConnections :=
        Function.update self.tcpConnections key (some (newConnection now connection)) }

def h2Observer (key : ConnectionKey) : H2Observer env.hpack :=
  (self.h2Observers key).getD (H2Observer.new env.hpack)

def h1Observer (key : ConnectionKey) : H1Observer := (self.h1Observers key).getD .default

/-- The bytes of one direction are decoded as frames, and every event that is ready is
taken. A frame has at least nine bytes, so the buffers bound the number of events. -/
def readHttp2 (key : ConnectionKey) (direction : H2FrameDirection) (data : List UInt8) :
    List H2Event × MonitoringStation env :=
  let observer := (self.h2Observer key).write direction data
  let (events, observer) := observer.pollAll
    (observer.incoming.buffer.length + observer.outgoing.buffer.length + 1)
  (events, { self with h2Observers := Function.update self.h2Observers key (some observer) })

def pushBytesFromOddBoxToClient (key : ConnectionKey) (isHttp2 : Bool) (data : List UInt8) :
    MonitoringStation env :=
  if isHttp2 then
    let (events, read) := self.readHttp2 key .outgoing data
    read.pushPackets key (events.map .http2) fun found =>
      { found with
        bytesSent := found.bytesSent + data.length
        connection := { found.connection with
          isGrpc :=
            if anyGrpc events && found.connection.isGrpc == none then some true
            else found.connection.isGrpc } }
  else
    let observer := (self.h1Observer key).push .serverToClient data
    match self.tcpConnections key with
    | some _ =>
      let ((sent, received), observer) := observer.parse env.httparse
      let read := { self with
        h1Observers := Function.update self.h1Observers key (some observer) }
      read.pushPackets key ((sent ++ received).map .http0or1) fun found =>
        { found with bytesSent := found.bytesSent + data.length }
    -- the bytes of an unknown connection are kept, but not parsed
    | none =>
      { self with h1Observers := Function.update self.h1Observers key (some observer) }

def isSwitch (event : HttpData) : Bool := event == .protocolSwitchedToWebSocket

def pushBytesFromClientToOddBox (key : ConnectionKey) (isHttp2 : Bool) (data : List UInt8) :
    MonitoringStation env :=
  if isHttp2 then
    let (events, read) := self.readHttp2 key .incoming data
    read.pushPackets key (events.map .http2) fun found =>
      { found with
        bytesRec := found.bytesRec + data.length
        connection := { found.connection with
          isGrpc := if anyGrpc events then some true else found.connection.isGrpc } }
  else
    let ((sent, received), observer) :=
      ((self.h1Observer key).push .clientToServer data).parse env.httparse
    let events := sent ++ received
    let read := { self with h1Observers := Function.update self.h1Observers key (some observer) }
    -- what comes behind a switch of the protocol is not shown
    read.pushPackets key ((events.takeWhile fun event => !isSwitch event).map .http0or1)
      fun found => { found with
        bytesRec := found.bytesRec + data.length
        connection := { found.connection with
          isWebsocket := if events.any isSwitch then some true else found.connection.isWebsocket } }

def push (now : Nat) (event : TCPEvent) : MonitoringStation env :=
  match event with
  | .opened connection => self.pushOpened connection
  | .closed key => self.updateConnection key fun found => { found with state := .closed }
  | .updated connection => self.pushUpdated now connection
  | .rawBytesFromOddBoxToClient key isHttp2 data =>
    self.pushBytesFromOddBoxToClient key isHttp2 data
  | .rawBytesFromClientToOddBox key isHttp2 data =>
    self.pushBytesFromClientToOddBox key isHttp2 data

/-! ## The observer task -/

/-- One message that `run` has received; without inspection it forgets everything. -/
def receive (inspection : Bool) (now : Nat) (msg : GlobalEvent) : MonitoringStation env :=
  if inspection then
    match msg with
    | .gotResponseFromBackend key data =>
      self.pushExtra key ("Odd-Box got a response from backend service: " ++ data) false
    | .sentHttpRequestToBackend key data =>
      self.pushExtra key ("Odd-Box sent a request to the backend service - " ++ data) true
    | .tcpEvent (.closed key) =>
      { self with tcpConnections := Function.update self.tcpConnections key none }
    | .tcpEvent event => self.push now event
  else self.reset

/-- What `add_or_update_connection` puts into the station, outside of the task and before it
sends `Open`. -/
def insertConnection (inspection : Bool) (now : Nat) (connection : ProxyActiveTCPConnection) :
    MonitoringStation env :=
  if inspection then
    { self with
      tcpConnections := Function.update self.tcpConnections connection.connectionKey
        (some (newConnection now connection)) }
  else self

end MonitoringStation

end OddBox.Monitoring

import OddBox.Configuration.IpText
import OddBox.Proxy.ActiveConnections
import OddBox.Proxy.Admission

/-!
The record of a connection, from `track` until the connection is dropped: every function that
writes to it, in the order of the calls. The events that are broadcast, and what is observed
of the data, are left out.
-/

namespace OddBox.Proxy

open OddBox.Configuration OddBox.Routing OddBox.Str OddBox.TcpProxy
open OddBox.H2 (HpackDecoder)

/-- All values that the record of a connection has had, the newest first. There is none before
the connection is tracked. -/
abbrev History := List ProxyActiveTCPConnection

/-- What the system says of the two ends of a connection. -/
structure Sockets where
  peerAddr : Option SocketAddr
  localAddr : Option SocketAddr
  /-- Whether the API can still read the address of the client. -/
  clientReadable : Bool
  /-- Whether a tunnel can read the address of its backend. -/
  backendReadable : Bool

def SocketAddr.fmt (self : SocketAddr) : String :=
  match self.ip with
  | .v4 .. => s!"{self.ip.fmt}:{self.port.toNat}"
  | .v6 .. => s!"[{self.ip.fmt}]:{self.port.toNat}"

/-- The name that a peek writes to the record: that of a client hello or of an HTTP/2
request. -/
def nameOfPeek (result : PeekResult) : Option String :=
  match result.typ, result.httpVersion with
  | .tls, _ => result.sni
  | .clearText, some .http2 => result.hostHeader
  | .clearText, _ => none

namespace History

/-! ## The record -/

def addOrUpdateConnection (connection : ProxyActiveTCPConnection) (history : History) :
    History :=
  connection.resolve :: history

def mutateTrackedConnection
    (mutator : ProxyActiveTCPConnection → ProxyActiveTCPConnection) : History → History
  | [] => []
  | conn :: earlier => { mutator conn with version := conn.version + 1 } :: conn :: earlier

variable {Tcp Tls : InnerStream} {hpack : HpackDecoder}

def track (stream : GenericManagedStream Tcp Tls hpack) (sockets : Sockets)
    (storedResult : Option PeekResult) (history : History) : History :=
  history.addOrUpdateConnection {
    incomingSni := match stream with
      | .tcp _ => storedResult.bind PeekResult.sni
      | .terminatedTls _ => none
    clientSocketAddress := sockets.peerAddr
    oddBoxSocket := sockets.localAddr
    connectionKey := match stream with
      | .tcp stream => stream.tcpConnectionId
      | .terminatedTls stream => stream.tcpConnectionId
    clientAddrString := (sockets.peerAddr.map SocketAddr.fmt).getD "???"
    incomingConnectionUsesTls := match stream with
      | .tcp stream => stream.isTls
      | .terminatedTls _ => true
    tlsTerminated := match stream with
      | .tcp stream => stream.isTlsTerminated
      | .terminatedTls _ => true
    httpTerminated := false
    version := 1
    resolvedConnectionType := none
    isGrpc := none
    httpVersion := none
    isWebsocket := none
    -- each request might still end up being terminated
    outgoingTunnelType := none }

/-- What the stream is known to be. No stream is ever marked as one whose HTTP is terminated. -/
def refresh (stream : GenericManagedStream Tcp Tls hpack) (x : ProxyActiveTCPConnection) :
    ProxyActiveTCPConnection :=
  match stream with
  | .tcp stream => { x with
      incomingConnectionUsesTls := stream.isTls
      tlsTerminated := stream.isTlsTerminated
      httpTerminated := false }
  | .terminatedTls stream => { x with
      incomingConnectionUsesTls := stream.isTls
      tlsTerminated := stream.isTlsTerminated
      httpTerminated := false }

def updateTrackedInfo (stream : GenericManagedStream Tcp Tls hpack)
    (f : ProxyActiveTCPConnection → ProxyActiveTCPConnection) (history : History) : History :=
  history.mutateTrackedConnection fun x => f (refresh stream x)

/-- What a peek that ends with the stream has written. -/
def peek (outcome : PeekOutcome) (stream : GenericManagedStream Tcp Tls hpack)
    (history : History) : History :=
  match outcome with
  | .ok result =>
    match nameOfPeek result with
    | some name => history.updateTrackedInfo stream fun x => { x with incomingSni := some name }
    | none => history
  | _ => history

/-! ## The ways of a connection -/

section

variable (system : TunnelSystem Tcp Tls hpack) (sockets : Sockets)

/-- `OddBoxAPI::handle_stream`, up to the requests of the session. -/
def handleStream (rustlsConfig : Bool) (stream : GenericManagedStream Tcp Tls hpack)
    (history : History) : History :=
  if rustlsConfig && sockets.clientReadable then
    match stream with
    | .tcp stream =>
      if (system.accept stream.seal).isSome then
        history.mutateTrackedConnection fun c =>
          { c with tlsTerminated := true, httpTerminated := true }
      else history
    | .terminatedTls _ =>
      history.mutateTrackedConnection fun c =>
        { c with tlsTerminated := true, httpTerminated := true }
  else history

/-- The session of a stream, terminated and looked into. -/
def peekSession (session : Tls.State) (serverName : Option String)
    (stream : PeekStream Tcp hpack) : PeekOutcome × PeekStream Tls hpack :=
  (PeekStream.fromTerminatedTlsStream hpack session serverName
    stream.tcpConnectionId).peekManagedStream system.fuel

def useFallbackMode (rustlsConfig : Bool) (stream : GenericManagedStream Tcp Tls hpack)
    (reason : FallbackReason) (history : History) : History :=
  match reason with
  | .unknown _ => history
  | _ =>
    match rustlsConfig, stream with
    | true, .tcp stream =>
      match system.accept stream with
      | some (session, serverName) =>
        -- only its marks and its writes matter here, not what it finds
        let peeked := peekSession system session serverName stream
        let history := history.peek peeked.1 (.terminatedTls peeked.2 :
          GenericManagedStream Tcp Tls hpack)
        match peeked.1 with
        | .panicked => history
        | .peeking => history
        | _ =>
          history.updateTrackedInfo (.terminatedTls peeked.2.seal :
            GenericManagedStream Tcp Tls hpack) fun x =>
              { x with
                httpTerminated := true
                tlsTerminated := true
                incomingConnectionUsesTls := true
                incomingSni := serverName }
      | none => history
    | true, .terminatedTls stream =>
      history.updateTrackedInfo (.terminatedTls stream : GenericManagedStream Tcp Tls hpack)
        fun x => { x with httpTerminated := true, tlsTerminated := true }
    | false, stream => history.updateTrackedInfo stream fun x => { x with httpTerminated := true }

variable (localAddr : String) (counts : AccessCounts) (rustlsConfig : Bool)

/-- The end of `ReverseTcpProxy::tunnel`, and the fallback for a stream that it hands back. -/
def tunnelled (target : ReverseTcpProxyTarget) (incoming : Incoming)
    (outcome : TunnelOutcome Tcp Tls hpack) (history : History) : History :=
  match outcome with
  | .noUsableBackendFound stream =>
    history.useFallbackMode system rustlsConfig stream .noBackendFound
  | .connected stream backend _ =>
    if sockets.backendReadable then
      history.updateTrackedInfo stream fun x =>
        { x with
          incomingConnectionUsesTls := incoming.isTls
          outgoingTunnelType := some (if backend.https.getD false then .tls target backend
            else .raw target backend) }
    else history
  | _ => history

def tunnel (target : ReverseTcpProxyTarget) (incoming : Incoming)
    (stream : PeekStream Tcp hpack) (history : History) : History :=
  let history :=
    if terminateIncoming target incoming.isTls && rustlsConfig then
      match system.accept stream with
      | some (session, serverName) =>
        let peeked := peekSession system session serverName stream
        history.peek peeked.1 (.terminatedTls peeked.2 : GenericManagedStream Tcp Tls hpack)
      | none => history
    else history
  history.tunnelled system sockets rustlsConfig target incoming
    (TcpProxy.tunnel system target localAddr counts (.tcp stream) incoming rustlsConfig)

def handle (handling : Handling) (stream : PeekStream Tcp hpack) (history : History) : History :=
  match handling with
  | .api =>
    (history.updateTrackedInfo (.tcp stream : GenericManagedStream Tcp Tls hpack) fun x =>
      { x with httpTerminated := true }).handleStream system sockets rustlsConfig (.tcp stream)
  | .fallback reason _ => history.useFallbackMode system rustlsConfig (.tcp stream) reason
  | .tunnel target incoming =>
    history.tunnel system sockets localAddr counts rustlsConfig target incoming stream
  | _ => history

/-- The record of a connection that `handle_new_tcp_stream` gets. Only the listener for TLS has
the API. -/
def handleNewTcpStream (mapping : CaseMapping) (siteStatusMap : String → Option ProcState)
    (state : GlobalState) (peeked : PeekOutcome × PeekStream Tcp hpack) : History :=
  -- nothing is tracked yet
  let history := History.peek peeked.1 (.tcp peeked.2 : GenericManagedStream Tcp Tls hpack) []
  match peeked.1 with
  | .panicked => history
  | .peeking => history
  | outcome =>
    let stream := peeked.2.seal
    let history := history.track (.tcp stream : GenericManagedStream Tcp Tls hpack) sockets none
    history.handle system sockets localAddr counts rustlsConfig
      (Proxy.handleNewTcpStream mapping siteStatusMap rustlsConfig state outcome).1 stream

end

end History

end OddBox.Proxy

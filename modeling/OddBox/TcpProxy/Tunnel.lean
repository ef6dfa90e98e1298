import OddBox.Configuration.Backends
import OddBox.Routing.Lookups
import OddBox.TcpProxy.Peek

/-!
`ReverseTcpProxy::tunnel`: the client's stream is passed through to a backend, or its TLS
session is terminated first. The TLS library, the network and the counters of the load
balancer are what a call is given. Tracking and statistics are left out.
-/

namespace OddBox.TcpProxy

open OddBox.Configuration OddBox.Routing
open OddBox.H2 (HpackDecoder)

/-! ## The system -/

/-- The client side of the TLS library. -/
structure TlsConnector where
  /-- Whether a text is a `ServerName`. -/
  isServerName : String → Bool
  /-- Whether the backend of that name completes the handshake. -/
  connects : String → Bool
  /-- What goes out over the connection while the bytes are written to the session. -/
  send : String → List UInt8 → List UInt8
  /-- A session starts with a handshake record. -/
  send_head : ∀ name bytes, (send name bytes).head? = some 0x16

/-- The server side of the TLS library, and the network. -/
structure TunnelSystem (Tcp Tls : InnerStream) (hpack : HpackDecoder) where
  /-- The session with the client and its server name, if the handshake succeeds. -/
  accept : PeekStream Tcp hpack → Option (Tls.State × Option String)
  /-- Whether a backend accepts a connection. -/
  connects : String → Bool
  connector : TlsConnector
  /-- The rounds that the peek into a session may take. -/
  fuel : Nat

inductive GenericManagedStream (Tcp Tls : InnerStream) (hpack : HpackDecoder) where
  | tcp (stream : PeekStream Tcp hpack)
  | terminatedTls (stream : PeekStream Tls hpack)

variable {Tcp Tls : InnerStream} {hpack : HpackDecoder}

def PeekStream.seal {T : InnerStream} (self : PeekStream T hpack) : PeekStream T hpack :=
  { self with toManagedStream := self.toManagedStream.seal }

/-! ## The backend filter -/

def peekresultToBackendFilter (infoAboutIncomingData : PeekResult)
    (incomingIsTlsTerminated isH2cUpgradeRequest : Bool) : Option BackendFilter :=
  match infoAboutIncomingData.httpVersion, infoAboutIncomingData.typ, incomingIsTlsTerminated,
    isH2cUpgradeRequest with
  -- HTTP/2 with prior knowledge
  | some .http2, .clearText, false, false => some .h2cPriorKnowledge
  | some .http11, .clearText, false, true => some .h2c
  -- HTTP/2 in a TLS session that was not terminated
  | some .http2, .tls, false, false => some .http2
  | some .http10, _, _, false => some .http1
  | some .http11, _, _, false => some .http1
  | none, scheme, terminated, _ =>
    -- no insight into the data, but a site that allows to tunnel it
    if scheme = .tls ∧ terminated = false then some .anyTls else none
  -- the session was terminated, and a new one is made if needed
  | some .http2, .clearText, true, false => some .h2OrH2cpk
  | _, _, _, _ => none

/-! ## The tunnel -/

inductive TunnelOutcome (Tcp Tls : InnerStream) (hpack : HpackDecoder) where
  | noUsableBackendFound (stream : GenericManagedStream Tcp Tls hpack)
  | unknown (message : String)
  /-- `Unknown`, with the text of the failed peek into the session. -/
  | unreadable (e : PeekError)
  /-- The call ends without an error and without a connection. -/
  | dropped
  /-- The peek into the session panics, or has not ended within the rounds. -/
  | stuck
  /-- What the backend is sent is what is read from the stream, in a new TLS session with it
  or as it is. -/
  | connected (stream : GenericManagedStream Tcp Tls hpack) (backend : Backend)
      (erectTlsTunnel : Bool)

def terminateIncoming (target : ReverseTcpProxyTarget) (incomingTrafficIsTls : Bool) : Bool :=
  if target.terminateTls then incomingTrafficIsTls
  else if incomingTrafficIsTls then
    -- without a backend that speaks TLS the clear text has to be forwarded
    !target.backends.any fun backend => backend.https.getD false
  else false

def nextBackend (target : ReverseTcpProxyTarget) (localAddr : String) (counts : AccessCounts)
    (backendFilter : BackendFilter) : Option Backend :=
  match target.site with
  | .remoteTarget remote => remote.nextBackend counts backendFilter
  | .docker _ remote => remote.nextBackend counts backendFilter
  | .hostedProcess process => process.nextBackend localAddr counts backendFilter
  | .dirServer _ => none

def erectTlsTunnelToBackend (incomingTrafficIsTls backendIsTls clientTlsIsTerminated : Bool) :
    Bool :=
  match incomingTrafficIsTls, backendIsTls, clientTlsIsTerminated with
  | _, false, _ => false
  | true, true, true => true
  | true, true, false => false
  | false, true, _ => true

/-- What a call is told about the stream. -/
structure Incoming where
  isTls : Bool
  hostHeaderOrSni : String
  httpVersion : Option Version
  isH2cUpgradeRequest : Bool
  deriving DecidableEq, Repr

/-- What `handle_new_tcp_stream` tells of a peeked stream. -/
def PeekResult.incoming (result : PeekResult) (host : String) : Incoming where
  isTls := decide (result.typ = .tls)
  hostHeaderOrSni := host
  httpVersion := result.httpVersion
  isH2cUpgradeRequest := result.isH2cUpgrade

/-- What a call without termination knows of the stream. -/
def Incoming.result (incoming : Incoming) : PeekResult where
  typ := if incoming.isTls then .tls else .clearText
  httpVersion := incoming.httpVersion
  targetHost := some incoming.hostHeaderOrSni
  isH2cUpgrade := incoming.isH2cUpgradeRequest
  sni := none
  hostHeader := none

section

variable (system : TunnelSystem Tcp Tls hpack) (target : ReverseTcpProxyTarget)
  (localAddr : String) (counts : AccessCounts)

/-- The part of `tunnel` after the filter is known. -/
def connectBackend (incomingTrafficIsTls clientTlsIsTerminated : Bool)
    (stream : GenericManagedStream Tcp Tls hpack) (backendFilter : Option BackendFilter) :
    TunnelOutcome Tcp Tls hpack :=
  match backendFilter with
  | none => .noUsableBackendFound stream
  | some backendFilter =>
    match nextBackend target localAddr counts backendFilter with
    | none => .noUsableBackendFound stream
    | some backend =>
      if system.connects (backend.address ++ ":" ++ portText backend.port) then
        .connected stream backend
          (erectTlsTunnelToBackend incomingTrafficIsTls (backend.https.getD false)
            clientTlsIsTerminated)
      else .dropped

/-- The part of `tunnel` that terminates the client's session and looks into it. -/
def terminateAndConnect (stream : PeekStream Tcp hpack) (isH2cUpgradeRequest : Bool) :
    TunnelOutcome Tcp Tls hpack :=
  match system.accept stream with
  | none => .dropped
  | some (session, serverName) =>
    let inner : PeekStream Tls hpack :=
      PeekStream.fromTerminatedTlsStream hpack session serverName stream.tcpConnectionId
    match inner.peekManagedStream system.fuel with
    | (.ok result, inner) =>
      connectBackend system target localAddr counts true true (.terminatedTls inner.seal)
        (peekresultToBackendFilter result true isH2cUpgradeRequest)
    | (.error e, _) => .unreadable e
    | (_, _) => .stuck

def tunnel (clientTcpStream : GenericManagedStream Tcp Tls hpack) (incoming : Incoming)
    (rustlsConfig : Bool) : TunnelOutcome Tcp Tls hpack :=
  if terminateIncoming target incoming.isTls then
    if rustlsConfig then
      match clientTcpStream with
      | .tcp stream =>
        terminateAndConnect system target localAddr counts stream incoming.isH2cUpgradeRequest
      | .terminatedTls _ => .dropped
    else .unknown
      "TLS termination is required but no rustls config provided. Stream cannot be processed further."
  else
    connectBackend system target localAddr counts incoming.isTls false clientTcpStream
      (peekresultToBackendFilter incoming.result false incoming.isH2cUpgradeRequest)

end

/-- `run_managed_bidirectional_tunnel`, towards the backend: what goes out over the
connection while the given bytes are read from the client's stream. -/
def runManagedBidirectionalTunnel (connector : TlsConnector) (read : List UInt8)
    (backendIsTls : Bool) (serverName : Option String) (erectTlsTunnel : Bool) : List UInt8 :=
  if backendIsTls && erectTlsTunnel then
    match serverName with
    | none => []
    | some serverName =>
      if connector.isServerName serverName then
        connector.send serverName (if connector.connects serverName then read else [])
      else []
  else read

end OddBox.TcpProxy

import OddBox.Proxy.Listeners
import OddBox.Routing.Lookups

/-!
`ProxyActiveTCPConnection` of `proxy_state.rs`: what is known of an open connection, and the
type of connection that this amounts to. The weak pointer to the key is left out.
-/

namespace OddBox.Proxy

open OddBox.Configuration OddBox.Routing

inductive OutgoingTunnelType where
  | tls (target : ReverseTcpProxyTarget) (backend : Backend)
  | raw (target : ReverseTcpProxyTarget) (backend : Backend)
  deriving DecidableEq

inductive ConnectionType where
  | tlsTerminatedWithOutgoingClearText (target : ReverseTcpProxyTarget) (backend : Backend)
  | tlsTerminatedWithOutgoingTls (target : ReverseTcpProxyTarget) (backend : Backend)
  | tlsTermination
  | tlsPassthru (target : ReverseTcpProxyTarget) (backend : Backend)
  | httpPassthru (target : ReverseTcpProxyTarget) (backend : Backend)
  | httpTermination
  | httpWithOutgoingTls (target : ReverseTcpProxyTarget) (backend : Backend)
  | pendingInit
  /-- With the values that the text of the error shows. -/
  | invalid (incomingConnectionUsesTls tlsTerminated httpTerminated : Bool)
      (outgoingTunnelType : Option OutgoingTunnelType)
  deriving DecidableEq

structure ProxyActiveTCPConnection where
  incomingSni : Option String
  clientSocketAddress : Option SocketAddr
  oddBoxSocket : Option SocketAddr
  connectionKey : Nat
  clientAddrString : String
  incomingConnectionUsesTls : Bool
  tlsTerminated : Bool
  httpTerminated : Bool
  version : Nat
  resolvedConnectionType : Option ConnectionType
  isGrpc : Option Bool
  httpVersion : Option Bool
  isWebsocket : Option Bool
  outgoingTunnelType : Option OutgoingTunnelType
  deriving DecidableEq

namespace ProxyActiveTCPConnection

variable (self : ProxyActiveTCPConnection)

def getConnectionType : ConnectionType :=
  if self.version = 1 then .pendingInit
  else
    match self.incomingConnectionUsesTls, self.tlsTerminated, self.httpTerminated,
      self.outgoingTunnelType with
    -- clear text
    | false, _, _, some (.raw target backend) => .httpPassthru target backend
    | false, _, _, some (.tls target backend) => .httpWithOutgoingTls target backend
    | false, false, true, none => .httpTermination
    -- TLS
    | true, true, false, some (.tls target backend) => .tlsTerminatedWithOutgoingTls target backend
    | true, true, false, some (.raw target backend) =>
      .tlsTerminatedWithOutgoingClearText target backend
    | true, false, false, some (.raw target backend) => .tlsPassthru target backend
    | true, true, true, none => .tlsTermination
    -- impossible
    | usesTls, tlsTerminated, httpTerminated, tunnel =>
      .invalid usesTls tlsTerminated httpTerminated tunnel

/-- The type is resolved when the connection is added, unless it is known. -/
def resolve : ProxyActiveTCPConnection :=
  if self.resolvedConnectionType = none then
    { self with resolvedConnectionType := some self.getConnectionType }
  else self

end ProxyActiveTCPConnection

end OddBox.Proxy

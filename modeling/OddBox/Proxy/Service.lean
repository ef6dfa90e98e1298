import OddBox.Api.Router
import OddBox.Configuration.Parse

/-!
What a connection is served by, and what is done for a request that is read from it: by the
admin API, or by the service that terminates HTTP. How a request is forwarded and answered
is left out.
-/

namespace OddBox.Proxy

open OddBox.Api OddBox.Configuration OddBox.Routing OddBox.TcpProxy
open OddBox.H2 (HpackDecoder)
open OddBox.Str (CaseMapping)

/-! ## The terminating service -/

/-- The configuration is the one of the time when the connection was accepted. -/
structure ReverseProxyService where
  isHttps : Bool
  resolvedTarget : Option ReverseTcpProxyTarget
  configuration : OddBoxV3Config

def ReverseProxyService.resolvedHostName (service : ReverseProxyService) (req : HttpRequest) :
    Option String :=
  service.resolvedTarget.map (·.hostName) <|> req.hostName

/-- What `intercept_local_commands` sends. -/
def localCommand (outside : Outside) (req : HttpRequest) : ProcMessage :=
  if req.path = "/STOP" then .stop (req.proc outside) else .start (req.proc outside)

/-- A process that is not up is started, unless the request is redirected. -/
def autoStart (siteStatusMap : String → Option ProcState) (isHttps : Bool)
    (process : InProcessSiteConfig) : List ProcMessage :=
  if !isHttps && process.redirectToHttps.getD false then []
  else
    match siteStatusMap process.hostName with
    | some .running => []
    | some .faulty => []
    | some .starting => []
    | _ => [.start process.hostName]

/-- The state as `handle_http_request` sees it. -/
def ReverseProxyService.view (service : ReverseProxyService) (app : AppState) : GlobalState :=
  { app.global with config := service.configuration }

/-- The messages of `handle_http_request`. -/
def ReverseProxyService.handleHttpRequest (service : ReverseProxyService) (outside : Outside)
    (app : AppState) (req : HttpRequest) : List ProcMessage :=
  match (service.view app).handleHttpRequest req.toRequest service.isHttps
    service.resolvedTarget with
  | .localCommand => [localCommand outside req]
  | .site (.hostedProcess process) => autoStart app.siteStatusMap service.isHttps process
  | _ => []

/-- Whether a request comes to `handle_http_request`: websockets, the test of HTTP/2 streams
and the challenges of Let's Encrypt are handled elsewhere. -/
def isOrdinary (req : HttpRequest) : Bool :=
  !req.isUpgradeRequest &&
    !(req.version == .http2 &&
      req.query.any fun query => Configuration.contains query "stream_test_odd_box") &&
    !startsWith req.path "/.well-known/acme-challenge/"

def ReverseProxyService.call (service : ReverseProxyService) (outside : Outside)
    (app : AppState) (req : HttpRequest) : List ProcMessage :=
  if isOrdinary req then service.handleHttpRequest outside app req else []

/-! ## Connections -/

/-- What the requests of a connection are handled by, if they are. -/
inductive Door where
  | api
  | service (service : ReverseProxyService)
  | closed

def Door.handle (outside : Outside) (app : AppState) (req : HttpRequest) : Door → Effect
  | .api => Api.handleRequest outside app req
  | .service terminating => { app.unchanged with messages := terminating.call outside app req }
  | .closed => app.unchanged

variable {Tcp Tls : InnerStream} {hpack : HpackDecoder}

/-- A stream that is not of TLS comes to nothing on the listener for TLS. -/
def useFallbackMode (system : TunnelSystem Tcp Tls hpack) (rustlsConfig : Bool)
    (stream : GenericManagedStream Tcp Tls hpack) (service : ReverseProxyService) :
    FallbackReason → Door
  | .unknown _ => .closed
  | _ =>
    match rustlsConfig, stream with
    | true, .tcp stream =>
      if (system.accept stream).isSome then .service { service with isHttps := true } else .closed
    | true, .terminatedTls _ => .service { service with isHttps := true }
    | false, _ => .service service

/-- A connection that has been handed on. -/
structure Accepted where
  door : Door
  messages : List ProcMessage
  state : GlobalState

section

variable (system : TunnelSystem Tcp Tls hpack) (configuration : OddBoxV3Config)
  (localAddr : String) (counts : AccessCounts) (rustlsConfig : Bool)

/-- The service for a connection on which HTTP may be terminated. -/
def serviceTemplate (resolvedTarget : Option ReverseTcpProxyTarget) : ReverseProxyService where
  isHttps := false
  resolvedTarget := resolvedTarget
  configuration := configuration

def Handling.door (stream : PeekStream Tcp hpack) : Handling → Door
  | .api => if rustlsConfig && (system.accept stream).isSome then .api else .closed
  | .terminating => .service (serviceTemplate configuration none)
  | .fallback reason resolvedTarget =>
    useFallbackMode system rustlsConfig (.tcp stream)
      (serviceTemplate configuration resolvedTarget) reason
  | .tunnel target incoming =>
    match TcpProxy.tunnel system target localAddr counts (.tcp stream) incoming rustlsConfig with
    | .noUsableBackendFound stream =>
      useFallbackMode system rustlsConfig stream (serviceTemplate configuration (some target))
        .noBackendFound
    | _ => .closed
  | _ => .closed

/-- `handle_new_tcp_stream` with the peek before it. Only the listener for TLS has the API. -/
def accept (mapping : CaseMapping) (siteStatusMap : String → Option ProcState)
    (state : GlobalState) (peeked : PeekOutcome × PeekStream Tcp hpack) : Accepted :=
  let (handling, messages, state) :=
    handleNewTcpStream mapping siteStatusMap rustlsConfig state peeked.1
  { door := handling.door system configuration localAddr counts rustlsConfig peeked.2.seal
    messages := messages
    state := state }

end

end OddBox.Proxy

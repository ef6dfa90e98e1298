import OddBox.Configuration.Reload
import OddBox.TcpProxy.Tunnel

/-!
`handle_new_tcp_stream`: once a connection has been peeked, it is handed to the admin API,
to the tunnel, or to the service that terminates HTTP.
-/

namespace OddBox.Proxy

open OddBox.Configuration OddBox.Routing OddBox.Str OddBox.TcpProxy

/-- What the loops of the hosted processes are told. -/
inductive ProcMessage where
  | startAll
  | stopAll
  | start (site : String)
  | stop (site : String)
  | delete (site : String)
  deriving DecidableEq, Repr

inductive FallbackReason where
  | httpTerminationEnforced (reason : String)
  | incomingHttp2ButTargetDoesNotSupportIt
  | h2cPriorKnowledge
  /-- With the text of the failed peek. -/
  | unknown (e : PeekError)
  | noBackendFound
  | noTargetFound
  deriving DecidableEq, Repr

/-! ## May a target be tunnelled? -/

/-- The hints of the target have to allow what the client speaks. -/
def hintAdmission (hints : List Hint) (result : PeekResult) (http2Reason : FallbackReason) :
    Option FallbackReason :=
  let isTls := decide (result.typ = .tls)
  if result.httpVersion = some .http2 then
    if hints.any fun hint =>
        -- for this hint a new session is made if needed
        hint == .h2 || !isTls && !result.isH2cUpgrade && hint == .h2cpk then none
    else some http2Reason
  else if result.isH2cUpgrade then
    if hints.any fun hint => hint == .h2c then none else some .noBackendFound
  else none

def hostedAdmission (cfg : InProcessSiteConfig) (result : PeekResult) :
    Option FallbackReason :=
  if result.typ ≠ .tls ∧ cfg.redirectToHttps.getD false then
    some (.httpTerminationEnforced
      "Redirect to https is enabled, will do so using terminating proxy.")
  else if cfg.terminateHttp.getD false then
    some (.httpTerminationEnforced "terminate_http is set to true for the site.")
  else if cfg.enableLetsEncrypt.getD false then
    some (.httpTerminationEnforced "Lets encrypt is enabled for the site")
  else hintAdmission (cfg.hints.getD []) result .incomingHttp2ButTargetDoesNotSupportIt

def isLocal (backend : Backend) : Bool :=
  backend.address == "127.0.0.1" || backend.address == "localhost"

/-- Where the host header has to be rewritten, the request has to be terminated. -/
def remoteAdmission (cfg : RemoteSiteConfig) (result : PeekResult) :
    Option FallbackReason :=
  if result.typ ≠ .tls ∧ cfg.redirectToHttps.getD false then
    some (.httpTerminationEnforced
      "Redirect to https is enabled, will do so using terminating proxy.")
  else if cfg.terminateHttp.getD false then
    some (.httpTerminationEnforced "terminate_http is set to true for the site.")
  else if cfg.enableLetsEncrypt.getD false then
    some (.httpTerminationEnforced "Lets encrypt is enabled for the site")
  else if !cfg.keepOriginalHostHeader.getD false && !cfg.backends.all isLocal then
    some (.httpTerminationEnforced
      "keep_original_host_header is false while not all backends are local")
  else hintAdmission (cfg.backends.flatMap Backend.hintList) result .noBackendFound

/-- Why a connection for the target is not tunnelled, if it is not. -/
def admission (target : ReverseTcpProxyTarget) (result : PeekResult) : Option FallbackReason :=
  match target.isHosted, target.site with
  | true, .hostedProcess cfg => hostedAdmission cfg result
  | false, .remoteTarget cfg => remoteAdmission cfg result
  | false, .docker _ cfg => remoteAdmission cfg result
  | _, _ => none

/-! ## Where a connection goes -/

inductive Handling where
  | api
  /-- The terminating service, without a target. -/
  | terminating
  /-- The terminating service, after the TLS session if the listener is one for TLS. -/
  | fallback (reason : FallbackReason) (resolvedTarget : Option ReverseTcpProxyTarget)
  | tunnel (target : ReverseTcpProxyTarget) (incoming : Incoming)
  | closed
  | panicked
  | peeking
  deriving DecidableEq

/-- The host names under which the admin API is reached. -/
def isApiHost (config : OddBoxV3Config) (host : String) : Bool :=
  host == "oddbox.localhost" || host == "odd-box.localhost" || host == "localhost" ||
    host == config.oddBoxUrl.getD "!"

/-- A stopped process is started when a connection for it is tunnelled. -/
def startMessages (siteStatusMap : String → Option ProcState) (target : ReverseTcpProxyTarget) :
    List ProcMessage :=
  if target.isHosted && siteStatusMap target.hostName == some .stopped then
    [.start target.hostName]
  else []

/-- A connection whose host is known. -/
def handleHost (mapping : CaseMapping) (siteStatusMap : String → Option ProcState)
    (state : GlobalState) (result : PeekResult) (targetHostName : String) :
    Handling × List ProcMessage × GlobalState :=
  match state.tryFindSite mapping targetHostName with
  | (.yes target, state) =>
    match admission target result with
    | some reason => (.fallback reason (some target), [], state)
    | none => (.tunnel target (result.incoming targetHostName),
        startMessages siteStatusMap target, state)
  | (.no, state) => (.fallback .noTargetFound none, [], state)
  | (.failed, state) => (.panicked, [], state)

def handleNewTcpStream (mapping : CaseMapping) (siteStatusMap : String → Option ProcState)
    (api : Bool) (state : GlobalState) (peekResult : PeekOutcome) :
    Handling × List ProcMessage × GlobalState :=
  match peekResult with
  | .ok result =>
    if api && result.targetHost.any (isApiHost state.config) then (.api, [], state)
    else
      match result.targetHost <|> result.sni with
      | none => (.terminating, [], state)
      | some targetHostName => handleHost mapping siteStatusMap state result targetHostName
  | .error .h2PriorKnowledgeNeedsToBeTerminated => (.fallback .h2cPriorKnowledge none, [], state)
  | .error .streamIsClosed => (.closed, [], state)
  | .error e => (.fallback (.unknown e) none, [], state)
  | .panicked => (.panicked, [], state)
  | .peeking => (.peeking, [], state)

end OddBox.Proxy

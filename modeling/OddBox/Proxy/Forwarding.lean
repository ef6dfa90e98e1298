import OddBox.Proxy.Service

/-!
What the terminating service sends to a backend for a request: `perform_remote_forwarding`,
the branch of `handle_http_request` for hosted processes, `proxy` and `handle_ws`. Of the
request that goes out the model has where it goes and the host that it names; the other
headers, the body and the answer are left out.
-/

namespace OddBox.Proxy

open OddBox.Api OddBox.Configuration OddBox.Routing OddBox.Str OddBox.TcpProxy
open OddBox.FirstMatch (Answer)

/-! ## URIs -/

/-- Of a `Uri` what a client connects by. -/
structure Uri where
  scheme : String
  host : String
  port : Option UInt16
  deriving DecidableEq, Repr

/-- The `http` crate. -/
structure HttpCrate where
  parseUri : String → Option Uri
  /-- Whether `HeaderValue::from_str` takes the text. -/
  isHeaderValue : String → Bool

/-- A request with all that its URI has. -/
structure IncomingRequest extends HttpRequest where
  uriScheme : Option String
  authority : Option String
  pathAndQuery : Option String
  /-- The `Upgrade` header, where it is visible ASCII. -/
  upgradeType : Option String
  /-- The `User-Agent` header; one that is not visible ASCII counts as empty. -/
  userAgent : Option String
  deriving DecidableEq

def targetUrl (scheme address : String) (port : UInt16) (path : String) : String :=
  s!"{scheme}://{address}:{portText port}{path}"

/-- What is appended to the address of a backend. -/
def IncomingRequest.originalPathAndQuery (req : IncomingRequest) : String :=
  let original := req.pathAndQuery.getD ""
  if original = "/" then "" else original

def standardPort (useHttps : Bool) : UInt16 := if useHttps then 443 else 80

/-- The port is left out where it is the one of the scheme. -/
def updatePort (uri : Uri) (newPort : UInt16) (useHttps : Bool) : Uri :=
  { uri with port := if newPort = standardPort useHttps then none else some newPort }

/-! ## The request that goes out -/

/-- A request for a backend as it is handed to the client. -/
structure Outgoing where
  site : Site
  backend : Backend
  uri : Uri
  hostHeader : HostHeader
  /-- Whether it is handed to the client for HTTP/2 with prior knowledge. -/
  h2Only : Bool
  deriving DecidableEq

/-- The client takes the port of the scheme where the URI has none. -/
def Uri.connectPort (uri : Uri) : UInt16 := uri.port.getD (standardPort (uri.scheme == "https"))

/-- The connector of the clients is one for both schemes. -/
def Outgoing.tls (outgoing : Outgoing) : Bool := outgoing.uri.scheme == "https"

/-- The host that a client derives from a URI. -/
def Uri.authorityText (uri : Uri) : String :=
  match uri.port with
  | none => uri.host
  | some port => s!"{uri.host}:{portText port}"

/-- The client keeps a `Host` header, and derives one where there is none. -/
def Outgoing.receivedHost (outgoing : Outgoing) : HostHeader :=
  match outgoing.hostHeader with
  | .absent => .text outgoing.uri.authorityText
  | header => header

section

variable (http : HttpCrate)

/-- The URI and the `Host` header of the new request. An override that is no header value is
passed over. -/
def createProxiedRequest (backendTargetUrl : String) (req : IncomingRequest)
    (hostHeaderOverride : Option String) : Option (Uri × HostHeader) :=
  (http.parseUri backendTargetUrl).map fun uri =>
    (uri, match hostHeaderOverride with
      | some host => if http.isHeaderValue host then .text host else req.hostHeader
      | none => req.hostHeader)

/-- Whether the backend is spoken to in HTTP/2 without TLS from the start. -/
def useH2cPrior (hints : List Hint) (req : IncomingRequest) (originalConnectionIsHttps : Bool) :
    Bool :=
  let h2cUpgrade := req.upgradeType.any fun typ =>
    typ.toList.map Char.toUpper == "H2C".toList
  let incomingH2c := !originalConnectionIsHttps && (req.version == .http2 || h2cUpgrade)
  if incomingH2c then hints.contains .h2cpk
  else hints.contains .h2cpk && !hints.contains .h1

def proxy (site : Site) (hostHeaderOverride : Option String) (originalConnectionIsHttps : Bool)
    (req : IncomingRequest) (backendTargetUrl : String) (useHttpsToBackendTarget : Bool)
    (backend : Backend) : Option Outgoing :=
  match createProxiedRequest http backendTargetUrl req hostHeaderOverride with
  | none => none
  | some (uri, hostHeader) => some
    { site := site
      backend := backend
      uri := updatePort uri (uri.port.getD (standardPort useHttpsToBackendTarget))
        useHttpsToBackendTarget
      hostHeader := hostHeader
      h2Only := useH2cPrior backend.hintList req originalConnectionIsHttps }

end

/-! ## The two kinds of targets -/

/-- What the service finds besides its configuration and the request. -/
structure Network where
  http : HttpCrate
  mapping : CaseMapping
  /-- The port of a process of `PROC_THREAD_MAP` that has a pid, if one is found in time. -/
  activePort : ProcId → Option UInt16

section

variable (network : Network) (counts : AccessCounts)

/-- The host that a remote site is asked for; `failed` is a panic. -/
def remoteOverride (mapping : CaseMapping) (reqHostName : String) (site : RemoteSiteConfig)
    (backend : Backend) : Answer String :=
  if site.keepOriginalHostHeader.getD false then .no
  else if site.forwardSubdomains.getD false then
    (getSubdomain mapping reqHostName site.hostName).map fun subdomain =>
      s!"{subdomain}.{backend.address}"
  else .no

def schemeOf (useHttps : Bool) : String := if useHttps then "https" else "http"

def performRemoteForwarding (found : Site) (reqHostName : String) (originalIsHttps : Bool)
    (site : RemoteSiteConfig) (req : IncomingRequest) : Option Outgoing :=
  match site.nextBackend counts .any with
  | none => none
  | some backend =>
    let useHttps := backend.https.getD false
    let url := targetUrl (schemeOf useHttps) backend.address backend.port req.originalPathAndQuery
    match remoteOverride network.mapping reqHostName site backend with
    | .failed => none
    | .yes host => proxy network.http found (some host) originalIsHttps req url useHttps backend
    | .no => proxy network.http found none originalIsHttps req url useHttps backend

/-- The host that a hosted process is asked for; `failed` is a panic. -/
def processOverride (mapping : CaseMapping) (resolvedHostName : String)
    (process : InProcessSiteConfig) : Answer String :=
  if process.captureSubdomains.getD false || process.forwardSubdomains.getD false then
    match getSubdomain mapping resolvedHostName process.hostName with
    | .failed => .failed
    | .yes subdomain =>
      .yes (if process.forwardSubdomains.getD false then s!"{subdomain}.{process.hostName}"
        else process.hostName)
    | .no => .yes process.hostName
  else .no

def processAddress (config : OddBoxV3Config) : String :=
  if config.useLoopbackIpForProcs.getD false then "127.0.0.1" else "localhost"

/-- The record of a hosted process that a request is forwarded to. -/
def processBackend (config : OddBoxV3Config) (process : InProcessSiteConfig) (port : UInt16) :
    Backend where
  hints := process.hints
  address := processAddress config
  port := port
  https := some (process.https.getD false)

/-- A browser is shown a page while the process is not up. -/
def showsPleaseWait (status : Option ProcState) (req : IncomingRequest) : Bool :=
  let isWaiting := status == some .stopped || status == some .starting || status == some .faulty
  isWaiting && req.method == .get && req.userAgent.any fun userAgent =>
    let shouted := String.ofList (userAgent.toList.map Char.toUpper)
    ["MOZILLA", "SAFARI", "CHROME", "EDGE"].any fun name => Configuration.contains shouted name

/-- The branch of `handle_http_request` for a hosted process. -/
def forwardToProcess (config : OddBoxV3Config) (resolvedHostName : String) (isHttps : Bool)
    (process : InProcessSiteConfig) (req : IncomingRequest) : Option Outgoing :=
  match network.activePort process.procId with
  | none => none
  | some port =>
    let useHttps := process.https.getD false
    let url := targetUrl (schemeOf useHttps) (processAddress config) port req.originalPathAndQuery
    let backend := processBackend config process port
    match processOverride network.mapping resolvedHostName process with
    | .failed => none
    | .yes host => proxy network.http (.hostedProcess process) (some host) isHttps req url useHttps
        backend
    | .no => proxy network.http (.hostedProcess process) none isHttps req url useHttps backend

end

/-! ## The service -/

/-- `fetch_add` of an `AtomicUsize`, or a new counter. -/
def increment (counts : AccessCounts) (name : String) : AccessCounts :=
  Function.update counts name (some (((counts name).getD 0 + 1) % 2 ^ 64))

namespace ReverseProxyService

variable (service : ReverseProxyService) (network : Network) (counts : AccessCounts)
  (app : AppState) (req : IncomingRequest)

/-- Requests for odd-box itself, which are not counted. -/
def isOwn (resolvedHostName : String) : Bool :=
  service.resolvedTarget.isNone && !service.isHttps &&
    (interceptLocalCommands resolvedHostName req.path ||
      isUi service.configuration resolvedHostName)

/-- The termination counter after `handle_http_request`. -/
def counted : AccessCounts :=
  match service.resolvedHostName req.toHttpRequest with
  | none => counts
  | some name => if service.isOwn req name then counts else increment counts name

/-- Whether the answer is a redirection to TLS. A container is asked only if it was peeked. -/
def redirectsToHttps (site : Site) : Bool :=
  !service.isHttps &&
    match site with
    | .dirServer dir => dir.redirectToHttps.getD false
    | .hostedProcess process => process.redirectToHttps.getD false
    | .remoteTarget remote => remote.redirectToHttps.getD false
    | .docker _ remote => service.resolvedTarget.isSome && remote.redirectToHttps.getD false

/-- What `handle_http_request` sends to a backend. -/
def forwardHttp : Option Outgoing :=
  match (service.view app).handleHttpRequest req.toRequest service.isHttps service.resolvedTarget,
    service.resolvedHostName req.toHttpRequest with
  | .site site, some resolvedHostName =>
    if service.redirectsToHttps site then none
    else
      match site with
      | .dirServer _ => none
      | .hostedProcess process =>
        if showsPleaseWait (app.siteStatusMap process.hostName) req then none
        else forwardToProcess network service.configuration resolvedHostName service.isHttps
          process req
      | .remoteTarget remote =>
        performRemoteForwarding network (service.counted counts req) site resolvedHostName
          service.isHttps remote req
      | .docker _ remote =>
        performRemoteForwarding network (service.counted counts req) site resolvedHostName
          service.isHttps remote req
  | _, _ => none

end ReverseProxyService

/-! ## Websockets -/

/-- A websocket that is opened to a backend. -/
structure WsConnection where
  site : Site
  port : UInt16
  tls : Bool
  deriving DecidableEq

/-- `connect_async_tls_with_config`: a URI of another scheme is refused. -/
def connectAsync (http : HttpCrate) (site : Site) (wsUrl : String) : Option WsConnection :=
  match http.parseUri wsUrl with
  | none => none
  | some uri =>
    if uri.scheme = "wss" then some ⟨site, uri.port.getD 443, true⟩
    else if uri.scheme = "ws" then some ⟨site, uri.port.getD 80, false⟩
    else none

/-- The address, the port and the TLS setting of the target of `handle_ws`. -/
def wsTarget (counts : AccessCounts) : Site → Option (String × UInt16 × Bool)
  | .remoteTarget site => (site.nextBackend counts .any).map fun backend =>
      (backend.address, backend.port, backend.https.getD false)
  | .hostedProcess process =>
    some (process.hostName, process.activePort.getD 0, process.https.getD false)
  | _ => none

/-- The scheme of the websocket to the backend. -/
def ReverseProxyService.wsProto (service : ReverseProxyService) (enforceHttps : Bool)
    (req : IncomingRequest) : String :=
  if enforceHttps then "wss" else req.uriScheme.getD (if service.isHttps then "wss" else "ws")

/-- `handle_ws`, which reads the running configuration and not that of the service. -/
def ReverseProxyService.forwardWs (service : ReverseProxyService) (http : HttpCrate)
    (counts : AccessCounts) (app : AppState) (req : IncomingRequest) : Option WsConnection :=
  match app.global.handleWs req.toRequest with
  | .site site =>
    match wsTarget counts site with
    | none => none
    | some (targetHost, port, enforceHttps) =>
      if port = 0 then none
      else connectAsync http site
        (targetUrl (service.wsProto enforceHttps req) targetHost port (req.pathAndQuery.getD ""))
  | _ => none

/-! ## What goes out -/

section

variable {network : Network} {counts : AccessCounts} {found : Site} {reqHostName : String}
  {isHttps : Bool} {req : IncomingRequest} {outgoing : Outgoing}

theorem proxy_eq_some {backend : Backend} {override : Option String} {url : String}
    {useHttps : Bool} {uri : Uri} (hparse : network.http.parseUri url = some uri)
    (h : proxy network.http found override isHttps req url useHttps backend = some outgoing) :
    outgoing.site = found ∧ outgoing.backend = backend ∧
      outgoing.uri = updatePort uri (uri.port.getD (standardPort useHttps)) useHttps ∧
      outgoing.hostHeader =
        match override.filter network.http.isHeaderValue with
        | some host => .text host
        | none => req.hostHeader := by
  unfold proxy createProxiedRequest at h
  rw [hparse] at h
  cases h
  refine ⟨rfl, rfl, rfl, ?_⟩
  cases override with
  | none => rfl
  | some host =>
    dsimp only
    rw [Option.filter_some]
    split_ifs <;> rfl

theorem proxy_site {backend : Backend} {override : Option String} {url : String}
    {useHttps : Bool}
    (h : proxy network.http found override isHttps req url useHttps backend = some outgoing) :
    outgoing.site = found ∧ outgoing.backend = backend := by
  cases hparse : network.http.parseUri url with
  | none =>
    unfold proxy createProxiedRequest at h
    rw [hparse] at h
    contradiction
  | some uri =>
    obtain ⟨hsite, hbackend, -⟩ := proxy_eq_some hparse h
    exact ⟨hsite, hbackend⟩

/-- The override that is used for a forwarded request. -/
theorem performRemoteForwarding_eq {site : RemoteSiteConfig}
    (h : performRemoteForwarding network counts found reqHostName isHttps site req =
      some outgoing) :
    site.nextBackend counts .any = some outgoing.backend ∧ outgoing.site = found ∧
      ∃ override, (override = none ∧
          remoteOverride network.mapping reqHostName site outgoing.backend = .no ∨
        ∃ host, override = some host ∧
          remoteOverride network.mapping reqHostName site outgoing.backend = .yes host) ∧
      proxy network.http found override isHttps req
        (targetUrl (schemeOf (outgoing.backend.https.getD false)) outgoing.backend.address
          outgoing.backend.port req.originalPathAndQuery) (outgoing.backend.https.getD false)
          outgoing.backend = some outgoing := by
  unfold performRemoteForwarding at h
  split at h
  · contradiction
  · next backend hbackend =>
    dsimp only at h
    split at h
    · contradiction
    · next host hoverride =>
      obtain ⟨hsite, rfl⟩ := proxy_site h
      exact ⟨hbackend, hsite, some host, .inr ⟨host, rfl, hoverride⟩, h⟩
    · next hoverride =>
      obtain ⟨hsite, rfl⟩ := proxy_site h
      exact ⟨hbackend, hsite, none, .inl ⟨rfl, hoverride⟩, h⟩

theorem forwardToProcess_eq {config : OddBoxV3Config} {process : InProcessSiteConfig}
    (h : forwardToProcess network config reqHostName isHttps process req = some outgoing) :
    ∃ port override, network.activePort process.procId = some port ∧
      outgoing.site = .hostedProcess process ∧
      outgoing.backend = processBackend config process port ∧
      proxy network.http (.hostedProcess process) override isHttps req
        (targetUrl (schemeOf (process.https.getD false)) (processAddress config) port
          req.originalPathAndQuery) (process.https.getD false)
          (processBackend config process port) = some outgoing := by
  unfold forwardToProcess at h
  split at h
  · contradiction
  · next port hport =>
    dsimp only at h
    split at h
    · contradiction
    · next host _ =>
      obtain ⟨hsite, hbackend⟩ := proxy_site h
      exact ⟨port, some host, hport, hsite, hbackend, h⟩
    · obtain ⟨hsite, hbackend⟩ := proxy_site h
      exact ⟨port, none, hport, hsite, hbackend, h⟩

/-- Whatever goes out goes to its backend, by the TLS setting that the backend has. -/
theorem forwardHttp_proxy {service : ReverseProxyService} {app : AppState}
    (h : service.forwardHttp network counts app req = some outgoing) :
    service.redirectsToHttps outgoing.site = false ∧
      ∃ override, proxy network.http outgoing.site override service.isHttps req
        (targetUrl (schemeOf (outgoing.backend.https.getD false)) outgoing.backend.address
          outgoing.backend.port req.originalPathAndQuery) (outgoing.backend.https.getD false)
          outgoing.backend = some outgoing := by
  unfold ReverseProxyService.forwardHttp at h
  split at h
  · next found name _ _ =>
    split_ifs at h with hredirect
    have hclear := Bool.eq_false_iff.mpr hredirect
    split at h
    · contradiction
    · split_ifs at h
      obtain ⟨port, override, -, hsite, hbackend, hproxy⟩ := forwardToProcess_eq h
      rw [hsite, hbackend]
      exact ⟨hclear, override, hproxy⟩
    · obtain ⟨-, hsite, override, -, hproxy⟩ := performRemoteForwarding_eq h
      rw [hsite]
      exact ⟨hclear, override, hproxy⟩
    · obtain ⟨-, hsite, override, -, hproxy⟩ := performRemoteForwarding_eq h
      rw [hsite]
      exact ⟨hclear, override, hproxy⟩
  · contradiction

end

/-! ## A small network -/

/-- Reads URLs that have a port and no user. -/
def readUri (url : String) : Option Uri :=
  let rest := (url.toList.dropWhile (· ≠ ':')).drop 3
  let digits := ((rest.dropWhile (· ≠ ':')).drop 1).takeWhile Char.isDigit
  some
    { scheme := String.ofList (url.toList.takeWhile (· ≠ ':'))
      host := String.ofList (rest.takeWhile (· ≠ ':'))
      port := some (UInt16.ofNat (digits.foldl (fun n c => 10 * n + (c.toNat - 48)) 0)) }

/-- Processes are up on one port. -/
def networkOn (port : UInt16) : Network where
  http := ⟨readUri, fun _ => true⟩
  mapping := asciiOnly
  activePort _ := some port

/-- The service of a connection that has not been peeked. -/
def unpeekedService (config : OddBoxV3Config) (isHttps : Bool) : ReverseProxyService where
  isHttps := isHttps
  resolvedTarget := none
  configuration := config

def freshApp (config : OddBoxV3Config) : AppState where
  global := freshState config
  siteStatusMap _ := none

/-- A request for the root of a site. -/
def rootRequest (host : HostHeader) (isUpgradeRequest : Bool) : IncomingRequest where
  hostHeader := host
  authorityHost := none
  path := "/"
  method := .get
  version := .http11
  query := none
  authorization := none
  isUpgradeRequest := isUpgradeRequest
  body := []
  uriScheme := none
  authority := none
  pathAndQuery := some "/"
  upgradeType := none
  userAgent := none

end OddBox.Proxy

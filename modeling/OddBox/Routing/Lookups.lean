import Mathlib
import OddBox.Configuration.Validity
import OddBox.Routing.HostNames

/-!
The three lookups that choose a site for a host name: `try_find_site` for raw
streams, `handle_http_request` for terminated HTTP and `handle_ws` for
websockets. Of the handlers only the choice is modelled, not what they do with
the site.
-/

namespace OddBox.Routing

open OddBox.FirstMatch OddBox.Str OddBox.Configuration

/-! ## Sites -/

structure ContainerProxyTarget where
  containerName : String
  hostNameLabel : Option String
  targetAddr : String
  tls : Bool
  hints : List Hint
  port : UInt16
  captureSubdomains : Option Bool
  terminateTls : Option Bool
  terminateHttp : Option Bool
  forwardSubdomains : Option Bool
  enableLetsEncrypt : Option Bool
  keepOriginalHostHeader : Option Bool
  redirectToHttps : Option Bool
  deriving DecidableEq, Repr

def ContainerProxyTarget.generateHostName (container : ContainerProxyTarget) : String :=
  container.hostNameLabel.getD s!"{container.containerName}.odd-box.localhost"

def ContainerProxyTarget.generateRemoteConfig (container : ContainerProxyTarget) :
    RemoteSiteConfig where
  hostName := container.generateHostName
  backends := [{
    address := container.targetAddr
    port := container.port
    https := some container.tls
    hints := if container.hints.isEmpty then none else some container.hints }]
  captureSubdomains := container.captureSubdomains
  terminateTls := container.terminateTls
  terminateHttp := container.terminateHttp
  forwardSubdomains := container.forwardSubdomains
  enableLetsEncrypt := container.enableLetsEncrypt
  keepOriginalHostHeader := container.keepOriginalHostHeader
  redirectToHttps := container.redirectToHttps

/-- A site as a lookup finds it; a container with its generated configuration. -/
inductive Site where
  | dirServer (site : DirServer)
  | docker (hostName : String) (site : RemoteSiteConfig)
  | hostedProcess (site : InProcessSiteConfig)
  | remoteTarget (site : RemoteSiteConfig)
  deriving DecidableEq, Repr

inductive SiteKind where
  | dirServer
  | docker
  | hostedProcess
  | remoteTarget
  deriving DecidableEq, Repr

def Site.kind : Site → SiteKind
  | .dirServer _ => .dirServer
  | .docker _ _ => .docker
  | .hostedProcess _ => .hostedProcess
  | .remoteTarget _ => .remoteTarget

def Site.hostName : Site → String
  | .dirServer site => site.hostName
  | .docker hostName _ => hostName
  | .hostedProcess site => site.hostName
  | .remoteTarget site => site.hostName

/-- Sites of one kind are told apart by their host names. -/
def Site.Same (a b : Site) : Prop := a.kind = b.kind ∧ a.hostName = b.hostName

/-- `site` stands for `hosted_target_config` and `remote_target_config`. Only a
hosted process gives a target a process. -/
structure ReverseTcpProxyTarget where
  procId : Option ProcId
  terminateTls : Bool
  site : Site
  captureSubdomains : Bool
  forwardWildcard : Bool
  backends : List Backend
  hostName : String
  isHosted : Bool
  subDomain : Option String
  hosted : ∀ id, procId = some id → ∃ process, site = .hostedProcess process
  deriving DecidableEq

/-! ## The state -/

/-- The containers stand in the order in which their map is iterated. -/
structure GlobalState where
  config : OddBoxV3Config
  dockerContainers : List (String × ContainerProxyTarget)
  reverseTcpProxyTargetCache : String → Option ReverseTcpProxyTarget
  /-- The processes that `PROC_THREAD_MAP` has an entry for. -/
  procThreadMap : ProcId → Bool
  /-- Whether the directories of the configuration can be resolved. -/
  resolvesDirectories : Bool

def GlobalState.localAddr (self : GlobalState) : String :=
  if self.config.useLoopbackIpForProcs.getD false then "127.0.0.1" else "localhost"

/-! ## The resolver of raw streams -/

def containerTarget (hostName : String) (container : ContainerProxyTarget)
    (subDomain : Option String) : ReverseTcpProxyTarget where
  procId := none
  terminateTls := false
  site := .docker hostName container.generateRemoteConfig
  captureSubdomains := true
  forwardWildcard := true
  backends := container.generateRemoteConfig.backends
  hostName := hostName
  isHosted := false
  subDomain := subDomain
  hosted := by
    intro id h
    cases h

def processTarget (localAddr : String) (process : InProcessSiteConfig)
    (subDomain : Option String) : ReverseTcpProxyTarget where
  procId := some process.procId
  terminateTls := process.terminateTls.getD false
  site := .hostedProcess process
  captureSubdomains := process.captureSubdomains.getD false
  forwardWildcard := process.forwardSubdomains.getD false
  backends := [{
    address := localAddr
    port := process.activePort.getD 0
    https := process.https
    hints := process.hints }]
  hostName := process.hostName
  isHosted := true
  subDomain := subDomain
  hosted := by
    intro id h
    exact ⟨process, rfl⟩

def remoteTarget (remote : RemoteSiteConfig) (subDomain : Option String) :
    ReverseTcpProxyTarget where
  procId := none
  terminateTls := remote.terminateTls.getD false
  site := .remoteTarget remote
  captureSubdomains := remote.captureSubdomains.getD false
  forwardWildcard := remote.forwardSubdomains.getD false
  backends := remote.backends
  hostName := remote.hostName
  isHosted := false
  subDomain := subDomain
  hosted := by
    intro id h
    cases h

section Resolver

variable (mapping : CaseMapping) (host : String)

def containerAnswer (container : String × ContainerProxyTarget) : Answer (Option String) :=
  filterFun mapping host container.1 true

def isRunning (process : InProcessSiteConfig) : Bool := process.activePort.getD 0 > 0

/-- A process that is found but has no active port is passed over. -/
def processAnswer (process : InProcessSiteConfig) : Answer (Option String) :=
  match filterFun mapping host process.hostName (process.captureSubdomains.getD false) with
  | .yes subDomain => if isRunning process then .yes subDomain else .no
  | other => other

/-- The filter before the loop over the remote targets. -/
def mentions (hostName : String) : Bool :=
  decide (mapping.toUppercase hostName <:+: mapping.toUppercase host)

def remoteAnswer (remote : RemoteSiteConfig) : Answer (Option String) :=
  if mentions mapping host remote.hostName then
    filterFun mapping host remote.hostName (remote.captureSubdomains.getD false)
  else .no

/-- A cached target is used as long as its process lives. -/
def GlobalState.cachedTarget (self : GlobalState) : Option ReverseTcpProxyTarget :=
  (self.reverseTcpProxyTargetCache host).filter fun target =>
    target.procId.any self.procThreadMap

/-- What one of the loops found is cached and replaces the result so far. -/
def GlobalState.remember (self : GlobalState) :
    Answer ReverseTcpProxyTarget → GlobalState
  | .yes target => { self with
      reverseTcpProxyTargetCache :=
        Function.update self.reverseTcpProxyTargetCache host (some target) }
  | _ => self

def GlobalState.findContainer (self : GlobalState) : Answer ReverseTcpProxyTarget :=
  (firstMatch (containerAnswer mapping host) self.dockerContainers).map
    fun (container, subDomain) => containerTarget container.1 container.2 subDomain

def GlobalState.findProcess (self : GlobalState) : Answer ReverseTcpProxyTarget :=
  (firstMatch (processAnswer mapping host) self.config.sites).map
    fun (process, subDomain) => processTarget self.localAddr process subDomain

def GlobalState.findRemote (self : GlobalState) : Answer ReverseTcpProxyTarget :=
  (firstMatch (remoteAnswer mapping host) self.config.remoteTargets).map
    fun (remote, subDomain) => remoteTarget remote subDomain

/-- `try_find_site`, with the state it leaves. -/
def GlobalState.tryFindSite (self : GlobalState) :
    Answer ReverseTcpProxyTarget × GlobalState :=
  match self.cachedTarget host with
  | some target => (.yes target, self)
  | none =>
    let container := self.findContainer mapping host
    if container = .failed then (.failed, self)
    else
      let self := self.remember host container
      let process := self.findProcess mapping host
      if process = .failed then (.failed, self)
      else
        let self := self.remember host process
        let remote := self.findRemote mapping host
        if remote = .failed then (.failed, self)
        else ((container.replacedBy process).replacedBy remote, self.remember host remote)

end Resolver

/-! ## The HTTP handler -/

inductive HostHeader where
  | absent
  /-- Not visible ASCII. -/
  | unreadable
  | text (value : String)
  deriving DecidableEq, Repr

structure Request where
  hostHeader : HostHeader
  /-- The host of the authority in the request's URI. -/
  authorityHost : Option String
  path : String
  deriving DecidableEq, Repr

def Request.hostName (req : Request) : Option String :=
  match req.hostHeader with
  | .text value => some (stripPort value)
  | .unreadable => none
  | .absent => req.authorityHost

inductive Selection where
  | site (site : Site)
  | localCommand
  | redirectToUi (location : String)
  | unknown
  | error
  deriving DecidableEq, Repr

def interceptLocalCommands (reqHostName reqPath : String) : Bool :=
  (reqHostName == "127.0.0.1" || reqHostName == "localhost") &&
    (reqPath == "/STOP" || reqPath == "/START")

def isUi (config : OddBoxV3Config) (hostName : String) : Bool :=
  hostName == config.oddBoxUrl.getD "!" || hostName == "localhost" ||
    hostName == "oddbox.localhost" || hostName == "odd-box.localhost"

def uiLocation (config : OddBoxV3Config) (hostName : String) : String :=
  s!"https://{hostName}:{portText (config.tlsPort.getD 4343)}"

def processNamed (requested : String) (process : InProcessSiteConfig) : Bool :=
  namesSite requested process.hostName process.captureSubdomains

def remoteNamed (requested : String) (remote : RemoteSiteConfig) : Bool :=
  namesSite requested remote.hostName remote.captureSubdomains

/-- The process or remote target of a peeked target. -/
def peekedProcess (peekedTarget : Option ReverseTcpProxyTarget) : Option InProcessSiteConfig :=
  match peekedTarget.map ReverseTcpProxyTarget.site with
  | some (.hostedProcess process) => some process
  | _ => none

def peekedRemote (peekedTarget : Option ReverseTcpProxyTarget) : Option Site :=
  match peekedTarget.map ReverseTcpProxyTarget.site with
  | some (.remoteTarget remote) => some (.remoteTarget remote)
  | some (.docker hostName container) => some (.docker hostName container)
  | _ => none

/-- The directory server that has the requested name. -/
def GlobalState.dirTarget (self : GlobalState) (requested : String) : Option DirServer :=
  self.config.dirServers.find? fun dir =>
    dir.hostName == requested && self.resolvesDirectories

def GlobalState.containerNamed (self : GlobalState) (requested : String) :
    Option ContainerProxyTarget :=
  self.dockerContainers.lookup requested

/-- The choice that `handle_http_request` makes. -/
def GlobalState.handleHttpRequest (self : GlobalState) (req : Request) (isHttps : Bool)
    (peekedTarget : Option ReverseTcpProxyTarget) : Selection :=
  match peekedTarget.map (·.hostName) <|> req.hostName with
  | none => .error
  | some resolvedHostName =>
    if peekedTarget.isNone && !isHttps &&
        interceptLocalCommands resolvedHostName req.path then .localCommand
    else if peekedTarget.isNone && !isHttps && isUi self.config resolvedHostName then
      .redirectToUi (uiLocation self.config resolvedHostName)
    else if interceptLocalCommands resolvedHostName req.path then .localCommand
    else
      match if peekedTarget.isSome then none else self.dirTarget resolvedHostName with
      | some dir => .site (.dirServer dir)
      | none =>
        match if peekedTarget.isSome then none else self.containerNamed resolvedHostName with
        | some container => .site (.docker resolvedHostName container.generateRemoteConfig)
        | none =>
          match peekedProcess peekedTarget <|>
              self.config.sites.find? (processNamed resolvedHostName) with
          | some process => .site (.hostedProcess process)
          | none =>
            match peekedRemote peekedTarget with
            | some remote => .site remote
            | none =>
              match self.config.remoteTargets.find?
                  (remoteNamed resolvedHostName) with
              | some remote => .site (.remoteTarget remote)
              | none => .unknown

/-! ## The websocket handler -/

/-- The choice that `handle_ws` makes. -/
def GlobalState.handleWs (self : GlobalState) (req : Request) : Selection :=
  match req.hostName with
  | none => .error
  | some reqHostName =>
    match self.config.sites.find? (processNamed reqHostName) with
    | some process => .site (.hostedProcess process)
    | none =>
      match self.config.remoteTargets.find? (remoteNamed reqHostName) with
      | some remote => .site (.remoteTarget remote)
      | none => .error

end OddBox.Routing

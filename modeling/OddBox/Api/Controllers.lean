import OddBox.Configuration.Comparison
import OddBox.Configuration.IpText
import OddBox.Configuration.ToString
import OddBox.Proxy.Admission
import OddBox.Routing.CacheCoherence

/-!
The handlers of the admin API: the commands that they send, the configuration that they
hand to the file system, and what they change in the running program themselves. A written
configuration is adopted by the reload, which is not theirs. Their answers are left out.
-/

namespace OddBox.Api

open OddBox.Configuration OddBox.Routing OddBox.TcpProxy
open OddBox.Proxy (ProcMessage)

/-! ## Requests -/

inductive Method where
  | get
  | head
  | post
  | put
  | delete
  | other (name : String)
  deriving DecidableEq, Repr

/-- A request as the `hyper` server reads it. -/
structure HttpRequest extends Request where
  method : Method
  version : Version
  query : Option String
  /-- The bytes of the first `Authorization` header. -/
  authorization : Option (List UInt8)
  /-- Whether `hyper_tungstenite` takes it for a websocket upgrade. -/
  isUpgradeRequest : Bool
  body : List UInt8
  deriving DecidableEq

inductive ConfigItem where
  | remoteSite (site : RemoteSiteConfig)
  | hostedProcess (process : InProcessSiteConfig)
  | dirServer (dir : DirServer)
  deriving DecidableEq

/-- The log level and the log format have the values of the types that they are converted
to. -/
structure SaveGlobalConfig where
  letsEncryptAccountEmail : String
  oddBoxUrl : String
  oddBoxPassword : String
  rootDir : String
  logLevel : LogLevel
  alpn : Bool
  portRangeStart : UInt16
  defaultLogFormat : LogFormat
  ip : String
  httpPort : UInt16
  tlsPort : UInt16
  autoStart : Bool
  envVars : List EnvVar

/-- What a handler is told by the libraries, the file system and the reload. -/
structure Outside where
  /-- `form_urlencoded::parse`, in the order of the text. -/
  formUrlencoded : String → List (String × String)
  /-- The `Json` extractors. -/
  updateRequest : HttpRequest → Option ConfigItem
  saveGlobalConfig : HttpRequest → Option SaveGlobalConfig
  /-- The characters that are written unescaped. -/
  printable : Char → Bool
  /-- Whether `std::fs::write` succeeds. -/
  writes : String → String → Bool
  /-- Whether a newer configuration is adopted while the handler waits. -/
  adopts : Bool

structure AppState where
  global : GlobalState
  siteStatusMap : String → Option ProcState

/-- What is done for a request. -/
structure Effect where
  app : AppState
  messages : List ProcMessage
  /-- The path and the text of a call of `std::fs::write`. -/
  written : Option (String × String)

def AppState.unchanged (app : AppState) : Effect where
  app := app
  messages := []
  written := none

def AppState.sending (app : AppState) (message : ProcMessage) : Effect :=
  { app.unchanged with messages := [message] }

section Handlers

variable (outside : Outside)

def HttpRequest.pairs (req : HttpRequest) : List (String × String) :=
  match req.query with
  | some query => outside.formUrlencoded query
  | none => []

/-- A parameter of a map that the pairs are collected in: the last one stays. -/
def HttpRequest.param (req : HttpRequest) (name : String) : Option String :=
  (req.pairs outside).reverse.lookup name

/-- The field `hostname` of a query; a second one is an error. -/
def HttpRequest.hostnames (req : HttpRequest) : List String :=
  ((req.pairs outside).filter fun pair => pair.1 == "hostname").map (·.2)

/-! ## Starting and stopping -/

/-- The process that `/STOP` and `/START` are for. -/
def HttpRequest.proc (req : HttpRequest) : String := (req.param outside "proc").getD "all"

def stopHandler (app : AppState) (req : HttpRequest) : Effect :=
  app.sending (.stop (req.proc outside))

def startHandler (app : AppState) (req : HttpRequest) : Effect :=
  app.sending (.start (req.proc outside))

/-- The handlers of `/api/sites` for which the query has to name a site. -/
def signalHandler (all : ProcMessage) (one : String → ProcMessage) (app : AppState)
    (req : HttpRequest) : Effect :=
  match req.hostnames outside with
  | [hostname] => app.sending (if hostname = "*" then all else one hostname)
  | _ => app.unchanged

def sitesStopHandler : AppState → HttpRequest → Effect := signalHandler outside .stopAll .stop

def sitesStartHandler : AppState → HttpRequest → Effect := signalHandler outside .startAll .start

/-! ## Changing the configuration -/

/-- Out with the old, in with the new. -/
def addOrReplace {α : Type} (hostName : α → String) (old : String) (item : α) :
    Option (List α) → Option (List α)
  | some items =>
    some ((items.filter fun x => hostName x != old && hostName x != hostName item) ++ [item])
  | none => some [item]

def addOrReplaceHostedProcess (config : OddBoxV3Config) (hostname : String)
    (item : InProcessSiteConfig) : OddBoxV3Config :=
  { config with hostedProcess := addOrReplace (·.hostName) hostname item config.hostedProcess }

def addOrReplaceDirSite (config : OddBoxV3Config) (oldHostname : String) (item : DirServer) :
    OddBoxV3Config :=
  { config with dirServer := addOrReplace (·.hostName) oldHostname item config.dirServer }

def addOrReplaceRemoteSite (config : OddBoxV3Config) (hostname : String)
    (item : RemoteSiteConfig) : OddBoxV3Config :=
  { config with remoteTarget := addOrReplace (·.hostName) hostname item config.remoteTarget }

/-- The call of `std::fs::write` that `write_to_disk` makes, unless it has no path. -/
def writeToDisk (config : OddBoxV3Config) : Option (String × String) :=
  config.path.map fun path => (path, config.toString outside.printable)

def writeSucceeds (written : Option (String × String)) : Bool :=
  written.any fun (path, text) => outside.writes path text

def AppState.invalidateCache (app : AppState) : AppState :=
  { app with global := app.global.invalidateCache }

/-- The three cases of `update_handler`, after the new configuration is made. -/
def saveSites (app : AppState) (config : OddBoxV3Config) : Effect :=
  let written := writeToDisk outside config
  { app := if writeSucceeds outside written then app.invalidateCache else app
    messages := []
    written := written }

def withItem (config : OddBoxV3Config) (hostname : Option String) : ConfigItem → OddBoxV3Config
  | .dirServer dir => addOrReplaceDirSite config (hostname.getD dir.hostName) dir
  | .remoteSite site => addOrReplaceRemoteSite config (hostname.getD site.hostName) site
  | .hostedProcess process =>
    addOrReplaceHostedProcess config (hostname.getD process.hostName) process

def updateHandler (app : AppState) (req : HttpRequest) : Effect :=
  let hostname := (req.hostnames outside).head?
  match (req.hostnames outside).tail, outside.updateRequest req with
  | [], some item =>
    -- containers are managed through their labels
    if hostname.any fun h => app.global.dockerContainers.any fun (_, container) =>
        container.generateHostName == h then app.unchanged
    else saveSites outside app (withItem app.global.config hostname item)
  | _, _ => app.unchanged

/-- The configuration without the sites of that name. -/
def withoutSite (config : OddBoxV3Config) (hostname : String) : OddBoxV3Config :=
  { config with
    hostedProcess := config.hostedProcess.map fun sites =>
      sites.filter fun x => x.hostName != hostname
    remoteTarget := config.remoteTarget.map fun sites =>
      sites.filter fun x => x.hostName != hostname
    dirServer := config.dirServer.map fun sites =>
      sites.filter fun x => x.hostName != hostname }

/-- The cache is invalidated last, unless the handler fails before. -/
def deleteHandler (app : AppState) (req : HttpRequest) : Effect :=
  match req.hostnames outside with
  | [hostname] =>
    if hostname ∈ app.global.config.hostNames then
      let written := writeToDisk outside (withoutSite app.global.config hostname)
      let app := { app with siteStatusMap := Function.update app.siteStatusMap hostname none }
      { app := if writeSucceeds outside written && outside.adopts then app.invalidateCache else app
        messages := []
        written := written }
    else app.invalidateCache.unchanged
  | _ => app.unchanged

/-- `char::is_whitespace`. -/
def isWhitespace (c : Char) : Bool :=
  9 ≤ c.toNat && c.toNat ≤ 13 || 0x2000 ≤ c.toNat && c.toNat ≤ 0x200A ||
    [0x20, 0x85, 0xA0, 0x1680, 0x2028, 0x2029, 0x202F, 0x205F, 0x3000].contains c.toNat

/-- An empty text stands for a setting that is left out. -/
def nonEmpty (text : String) : Option String := if text = "" then none else some text

def withSettings (config : OddBoxV3Config) (new : SaveGlobalConfig) (ip : IpAddr) :
    OddBoxV3Config :=
  { config with
    letsEncryptAccountEmail := nonEmpty new.letsEncryptAccountEmail
    oddBoxUrl := nonEmpty new.oddBoxUrl
    oddBoxPassword := nonEmpty new.oddBoxPassword
    httpPort := some new.httpPort
    tlsPort := some new.tlsPort
    portRangeStart := new.portRangeStart
    alpn := some new.alpn
    autoStart := some new.autoStart
    defaultLogFormat := new.defaultLogFormat
    envVars := new.envVars
    ip := some ip
    logLevel := some new.logLevel
    rootDir := if new.rootDir.toList.all isWhitespace then none else some new.rootDir }

def setSettingsHandler (app : AppState) (req : HttpRequest) : Effect :=
  match outside.saveGlobalConfig req with
  | none => app.unchanged
  | some new =>
    match IpAddr.parse new.ip with
    | none => app.unchanged
    | some ip =>
      let config := withSettings app.global.config new ip
      if config.eq app.global.config then app.unchanged
      else { app.unchanged with written := writeToDisk outside config }

end Handlers

end OddBox.Api

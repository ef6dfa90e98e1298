import OddBox.Configuration.Parse

/-!
The conversions from each version to the next one and
`AnyOddBoxConfig::try_upgrade_to_latest_version`, which chains them. Every conversion
to version 2 or 3 generates new process identifiers.
-/

namespace OddBox.Configuration

/-! ## From no version to version 1 -/

def V1.InProcessSiteConfig.ofLegacy (x : Legacy.SiteConfig) : V1.InProcessSiteConfig :=
  { forwardSubdomains := none
    disableTcpTunnelMode := x.disableTcpTunnelMode
    args := x.args
    autoStart := x.autoStart
    bin := x.bin
    captureSubdomains := none
    envVars := x.envVars
    hostName := x.hostName
    port := if x.https.getD false then some x.port else none
    logFormat := x.logFormat
    dir := x.path
    https := x.https
    h2Hint := x.h2Hint
    disabled := none }

def V1.OddBoxV1Config.tryFrom (oldConfig : Legacy.OddBoxLegacyConfig) :
    Except String V1.OddBoxV1Config :=
  .ok {
    path := none
    version := .v1
    adminApiPort := none
    -- `alpn` would change what h2c clients of an old configuration get
    alpn := some false
    autoStart := oldConfig.autoStart
    defaultLogFormat := oldConfig.defaultLogFormat.getD .standard
    envVars := oldConfig.envVars
    ip := oldConfig.ip
    logLevel := oldConfig.logLevel
    httpPort := oldConfig.port
    portRangeStart := oldConfig.portRangeStart
    hostedProcess := some (oldConfig.processes.map V1.InProcessSiteConfig.ofLegacy)
    remoteTarget := oldConfig.remoteSites
    rootDir := oldConfig.rootDir
    tlsPort := oldConfig.tlsPort }

/-! ## From version 1 to version 2 -/

def V1.H2Hint.toHints : Option V1.H2Hint → Option (List V2.Hint)
  | some .h2 => some [.h2]
  | some .h2c => some [.h2c]
  | none => none

def V2.InProcessSiteConfig.ofV1 (procId : ProcId) (x : V1.InProcessSiteConfig) :
    V2.InProcessSiteConfig :=
  { logLevel := none
    enableLetsEncrypt := some false
    procId := procId
    activePort := none
    forwardSubdomains := x.forwardSubdomains
    disableTcpTunnelMode := x.disableTcpTunnelMode
    args := if x.args.length > 0 then some x.args else none
    autoStart := x.autoStart
    bin := x.bin
    captureSubdomains := x.captureSubdomains
    envVars := if x.envVars.length > 0 then some x.envVars else none
    hostName := x.hostName
    port := x.port
    logFormat := x.logFormat
    dir := if x.dir.isEmpty then none else some x.dir
    https := x.https
    hints := V1.H2Hint.toHints x.h2Hint
    excludeFromStartAll := x.disabled }

def V2.RemoteSiteConfig.ofV1 (x : V1.RemoteSiteConfig) : V2.RemoteSiteConfig :=
  { keepOriginalHostHeader := none
    enableLetsEncrypt := some false
    disableTcpTunnelMode := x.disableTcpTunnelMode
    captureSubdomains := x.captureSubdomains
    forwardSubdomains := x.forwardSubdomains
    backends := [{
      hints := V1.H2Hint.toHints x.h2Hint
      address := x.targetHostname
      port := match x.port with
        | some p => p
        | none => if x.https.getD false then 443 else 80
      https := x.https }]
    hostName := x.hostName }

def V2.OddBoxV2Config.tryFrom (newId : Nat → ProcId) (oldConfig : V1.OddBoxV1Config) :
    Except String V2.OddBoxV2Config :=
  .ok {
    oddBoxPassword := none
    oddBoxUrl := none
    dirServer := none
    letsEncryptAccountEmail := none
    path := none
    version := .v2
    adminApiPort := none
    alpn := some false
    autoStart := oldConfig.autoStart
    defaultLogFormat := oldConfig.defaultLogFormat
    envVars := oldConfig.envVars
    ip := oldConfig.ip
    logLevel := oldConfig.logLevel
    httpPort := oldConfig.httpPort
    portRangeStart := oldConfig.portRangeStart
    hostedProcess := some ((oldConfig.hostedProcess.getD []).zipIdx.map fun item =>
      V2.InProcessSiteConfig.ofV1 (newId item.2) item.1)
    remoteTarget := some ((oldConfig.remoteTarget.getD []).map V2.RemoteSiteConfig.ofV1)
    rootDir := oldConfig.rootDir
    tlsPort := oldConfig.tlsPort }

/-! ## From version 2 to version 3 -/

/-- `NOH2` is no longer supported. -/
def Hint.ofV2 : V2.Hint → Option Hint
  | .h2 => some .h2
  | .h2c => some .h2c
  | .h2cpk => some .h2cpk
  | .noh2 => none

/-- Next to other hints, version 3 takes HTTP/1 to be supported only when it is hinted. -/
def newHints (hints : Option (List V2.Hint)) : Option (List Hint) :=
  let supported := (hints.getD []).filterMap Hint.ofV2
  let supported := if supported.length > 0 then supported ++ [.h1] else supported
  if supported.length = 0 then none else some supported

def InProcessSiteConfig.ofV2 (procId : ProcId) (x : V2.InProcessSiteConfig) :
    InProcessSiteConfig :=
  { redirectToHttps := none
    logLevel := none
    enableLetsEncrypt := some false
    procId := procId
    activePort := none
    forwardSubdomains := x.forwardSubdomains
    terminateTls := x.disableTcpTunnelMode
    terminateHttp := none
    args := x.args
    autoStart := x.autoStart
    bin := x.bin
    captureSubdomains := x.captureSubdomains
    envVars := x.envVars
    hostName := x.hostName
    port := x.port
    logFormat := x.logFormat
    dir := x.dir
    https := x.https
    hints := newHints x.hints
    excludeFromStartAll := x.excludeFromStartAll }

def Backend.ofV2 (b : V2.Backend) : Backend :=
  { address := b.address
    port := b.port
    https := b.https
    hints := newHints b.hints }

def RemoteSiteConfig.ofV2 (x : V2.RemoteSiteConfig) : RemoteSiteConfig :=
  { redirectToHttps := none
    -- there was only the tunnel mode to disable, which both come from
    terminateHttp := x.disableTcpTunnelMode
    keepOriginalHostHeader := none
    enableLetsEncrypt := some false
    terminateTls := x.disableTcpTunnelMode
    captureSubdomains := x.captureSubdomains
    forwardSubdomains := x.forwardSubdomains
    backends := x.backends.map Backend.ofV2
    hostName := x.hostName }

def OddBoxV3Config.tryFrom (newId : Nat → ProcId) (oldConfig : V2.OddBoxV2Config) :
    Except String OddBoxV3Config :=
  .ok {
    useLoopbackIpForProcs := none
    oddBoxPassword := none
    oddBoxUrl := none
    dirServer := none
    letsEncryptAccountEmail := none
    path := none
    version := .v3
    alpn := some false
    autoStart := oldConfig.autoStart
    defaultLogFormat := oldConfig.defaultLogFormat
    envVars := oldConfig.envVars
    ip := oldConfig.ip
    logLevel := oldConfig.logLevel
    httpPort := oldConfig.httpPort
    portRangeStart := oldConfig.portRangeStart
    hostedProcess := some ((oldConfig.hostedProcess.getD []).zipIdx.map fun item =>
      InProcessSiteConfig.ofV2 (newId item.2) item.1)
    remoteTarget := some ((oldConfig.remoteTarget.getD []).map RemoteSiteConfig.ofV2)
    rootDir := oldConfig.rootDir
    tlsPort := oldConfig.tlsPort }

/-! ## To the latest version -/

/-- The configuration, the version it was read as, and whether it was upgraded.
`newId` gives the identifiers that the conversion to a version generates. -/
def AnyOddBoxConfig.tryUpgradeToLatestVersion (newId : OddBoxConfigVersion → Nat → ProcId) :
    AnyOddBoxConfig → Except String (OddBoxV3Config × OddBoxConfigVersion × Bool)
  | .legacy legacyConfig => do
    let v1Config ← V1.OddBoxV1Config.tryFrom legacyConfig
    let v2Config ← V2.OddBoxV2Config.tryFrom (newId .v2) v1Config
    let v3Config ← OddBoxV3Config.tryFrom (newId .v3) v2Config
    .ok (v3Config, .unmarked, true)
  | .v1 v1Config => do
    let v2Config ← V2.OddBoxV2Config.tryFrom (newId .v2) v1Config
    let v3Config ← OddBoxV3Config.tryFrom (newId .v3) v2Config
    .ok (v3Config, .v1, true)
  | .v2 v2Config => do
    let v3Config ← OddBoxV3Config.tryFrom (newId .v3) v2Config
    .ok (v3Config, .v2, true)
  | .v3 v3Config => .ok (v3Config, .v3, false)

end OddBox.Configuration

import Mathlib
import OddBox.Configuration.Settings
import OddBox.Configuration.Upgrade

/-!
What the upgrades keep. The counterpart of a configuration says in version 3 what the
configuration says, without regard to how the conversions fill the fields in; an
upgrade is right when it has the settings of the counterpart. Only `alpn` is taken
from the conversions, which switch it off on purpose.
-/

namespace OddBox.Configuration

/-! ## Counterparts -/

/-- HTTP/1 needs no hint before version 3. -/
def supported : List Hint → List Hint
  | [] => []
  | hints => hints ++ [.h1]

def V2.Backend.counterpart (b : V2.Backend) : Configuration.Backend :=
  { address := b.address
    port := b.port
    https := b.https
    hints := some (supported ((b.hints.getD []).filterMap Hint.ofV2)) }

/-- The tunnel mode before version 3 ends both TLS and HTTP where it is disabled. -/
def V2.RemoteSiteConfig.counterpart (site : V2.RemoteSiteConfig) :
    Configuration.RemoteSiteConfig :=
  { hostName := site.hostName
    backends := site.backends.map V2.Backend.counterpart
    captureSubdomains := site.captureSubdomains
    terminateTls := site.disableTcpTunnelMode
    terminateHttp := site.disableTcpTunnelMode
    forwardSubdomains := site.forwardSubdomains
    enableLetsEncrypt := site.enableLetsEncrypt
    keepOriginalHostHeader := site.keepOriginalHostHeader
    redirectToHttps := none }

def V2.InProcessSiteConfig.counterpart (process : V2.InProcessSiteConfig) :
    Configuration.InProcessSiteConfig :=
  { procId := process.procId
    activePort := none
    terminateTls := process.disableTcpTunnelMode
    terminateHttp := process.disableTcpTunnelMode
    hints := some (supported ((process.hints.getD []).filterMap Hint.ofV2))
    hostName := process.hostName
    dir := process.dir
    bin := process.bin
    args := process.args
    envVars := process.envVars
    logFormat := process.logFormat
    autoStart := process.autoStart
    port := process.port
    https := process.https
    captureSubdomains := process.captureSubdomains
    forwardSubdomains := process.forwardSubdomains
    excludeFromStartAll := process.excludeFromStartAll
    enableLetsEncrypt := process.enableLetsEncrypt
    logLevel := process.logLevel
    redirectToHttps := none }

def V2.DirServer.counterpart (s : V2.DirServer) : Configuration.DirServer :=
  { dir := s.dir
    hostName := s.hostName
    captureSubdomains := s.captureSubdomains
    enableLetsEncrypt := s.enableLetsEncrypt
    enableDirectoryBrowsing := s.enableDirectoryBrowsing
    redirectToHttps := s.redirectToHttps
    renderMarkdown := s.renderMarkdown
    cacheControlMaxAgeInSeconds := none }

def V2.OddBoxV2Config.counterpart (config : V2.OddBoxV2Config) : OddBoxV3Config :=
  { path := none
    version := .v3
    rootDir := config.rootDir
    logLevel := config.logLevel
    alpn := some false
    portRangeStart := config.portRangeStart
    defaultLogFormat := config.defaultLogFormat
    ip := config.ip
    httpPort := config.httpPort
    tlsPort := config.tlsPort
    autoStart := config.autoStart
    envVars := config.envVars
    remoteTarget := config.remoteTarget.map (·.map V2.RemoteSiteConfig.counterpart)
    hostedProcess := config.hostedProcess.map (·.map V2.InProcessSiteConfig.counterpart)
    dirServer := config.dirServer.map (·.map V2.DirServer.counterpart)
    letsEncryptAccountEmail := config.letsEncryptAccountEmail
    oddBoxUrl := config.oddBoxUrl
    oddBoxPassword := config.oddBoxPassword
    useLoopbackIpForProcs := none }

def V1.H2Hint.counterpart : V1.H2Hint → Hint
  | .h2 => .h2
  | .h2c => .h2c

/-- A backend without a port is reached at that of its scheme. -/
def V1.RemoteSiteConfig.counterpart (site : V1.RemoteSiteConfig) :
    Configuration.RemoteSiteConfig :=
  { hostName := site.hostName
    backends := [{
      address := site.targetHostname
      port := site.port.getD (if site.https = some true then 443 else 80)
      https := site.https
      hints := some (supported (site.h2Hint.map V1.H2Hint.counterpart).toList) }]
    captureSubdomains := site.captureSubdomains
    terminateTls := site.disableTcpTunnelMode
    terminateHttp := site.disableTcpTunnelMode
    forwardSubdomains := site.forwardSubdomains
    enableLetsEncrypt := none
    keepOriginalHostHeader := none
    redirectToHttps := none }

/-- No directory is configured by the empty text. -/
def directory (dir : String) : Option String := if dir = "" then none else some dir

def V1.InProcessSiteConfig.counterpart (process : V1.InProcessSiteConfig) :
    Configuration.InProcessSiteConfig :=
  { procId := ⟨""⟩
    activePort := none
    terminateTls := process.disableTcpTunnelMode
    terminateHttp := process.disableTcpTunnelMode
    hints := some (supported (process.h2Hint.map V1.H2Hint.counterpart).toList)
    hostName := process.hostName
    dir := directory process.dir
    bin := process.bin
    args := some process.args
    envVars := some process.envVars
    logFormat := process.logFormat
    autoStart := process.autoStart
    port := process.port
    https := process.https
    captureSubdomains := process.captureSubdomains
    forwardSubdomains := process.forwardSubdomains
    excludeFromStartAll := process.disabled
    enableLetsEncrypt := none
    logLevel := none
    redirectToHttps := none }

def V1.OddBoxV1Config.counterpart (config : V1.OddBoxV1Config) : OddBoxV3Config :=
  { path := none
    version := .v3
    rootDir := config.rootDir
    logLevel := config.logLevel
    alpn := some false
    portRangeStart := config.portRangeStart
    defaultLogFormat := config.defaultLogFormat
    ip := config.ip
    httpPort := config.httpPort
    tlsPort := config.tlsPort
    autoStart := config.autoStart
    envVars := config.envVars
    remoteTarget := config.remoteTarget.map (·.map V1.RemoteSiteConfig.counterpart)
    hostedProcess := config.hostedProcess.map (·.map V1.InProcessSiteConfig.counterpart)
    dirServer := none
    letsEncryptAccountEmail := none
    oddBoxUrl := none
    oddBoxPassword := none
    useLoopbackIpForProcs := none }

/-- The port that the deserialiser leaves is no configured one. -/
def Legacy.SiteConfig.counterpart (site : Legacy.SiteConfig) : InProcessSiteConfig :=
  { procId := ⟨""⟩
    activePort := none
    terminateTls := site.disableTcpTunnelMode
    terminateHttp := site.disableTcpTunnelMode
    hints := some (supported (site.h2Hint.map V1.H2Hint.counterpart).toList)
    hostName := site.hostName
    dir := directory site.path
    bin := site.bin
    args := some site.args
    envVars := some site.envVars
    logFormat := site.logFormat
    autoStart := site.autoStart
    port := if site.port = 0 then none else some site.port
    https := site.https
    captureSubdomains := site.captureSubdomains
    forwardSubdomains := none
    excludeFromStartAll := none
    enableLetsEncrypt := none
    logLevel := none
    redirectToHttps := none }

def Legacy.OddBoxLegacyConfig.counterpart (config : Legacy.OddBoxLegacyConfig) :
    OddBoxV3Config :=
  { path := none
    version := .v3
    rootDir := config.rootDir
    logLevel := config.logLevel
    alpn := some false
    portRangeStart := config.portRangeStart
    defaultLogFormat := config.defaultLogFormat.getD .standard
    ip := config.ip
    httpPort := config.port
    tlsPort := config.tlsPort
    autoStart := config.autoStart
    envVars := config.envVars
    remoteTarget := config.remoteSites.map (·.map V1.RemoteSiteConfig.counterpart)
    hostedProcess := some (config.processes.map Legacy.SiteConfig.counterpart)
    dirServer := none
    letsEncryptAccountEmail := none
    oddBoxUrl := none
    oddBoxPassword := none
    useLoopbackIpForProcs := none }

def AnyOddBoxConfig.counterpart : AnyOddBoxConfig → OddBoxV3Config
  | .legacy config => config.counterpart
  | .v1 config => config.counterpart
  | .v2 config => config.counterpart
  | .v3 config => config

/-! ## What the conversions carry -/

def V2.RemoteSiteConfig.Carried (site : V2.RemoteSiteConfig) : Prop :=
  site.enableLetsEncrypt ≠ some true ∧ site.keepOriginalHostHeader ≠ some true

def V2.InProcessSiteConfig.Carried (process : V2.InProcessSiteConfig) : Prop :=
  process.disableTcpTunnelMode ≠ some true ∧ process.enableLetsEncrypt ≠ some true ∧
    process.logLevel.getD .info = .info

structure V2.OddBoxV2Config.Carried (config : V2.OddBoxV2Config) : Prop where
  dirServer : config.dirServer.getD [] = []
  letsEncryptAccountEmail : config.letsEncryptAccountEmail = none
  oddBoxUrl : config.oddBoxUrl = none
  oddBoxPassword : config.oddBoxPassword = none
  remoteTargets : ∀ site ∈ config.remoteTarget.getD [], site.Carried
  hostedProcesses : ∀ process ∈ config.hostedProcess.getD [], process.Carried

def Legacy.SiteConfig.Carried (site : Legacy.SiteConfig) : Prop :=
  site.disableTcpTunnelMode ≠ some true ∧ (site.https = some true ↔ site.port ≠ 0) ∧
    site.captureSubdomains ≠ some true

/-- No setting is made that the conversions drop. -/
def AnyOddBoxConfig.Carried : AnyOddBoxConfig → Prop
  | .legacy config => ∀ site ∈ config.processes, site.Carried
  | .v1 config => ∀ process ∈ config.hostedProcess.getD [],
      process.disableTcpTunnelMode ≠ some true
  | .v2 config => config.Carried
  | .v3 _ => True

/-! ## One site -/

theorem flag_some_false : flag (some false) = flag none := rfl

theorem entries_newHints (hints : Option (List V2.Hint)) :
    entries (newHints hints) = some (supported ((hints.getD []).filterMap Hint.ofV2)) := by
  unfold newHints
  cases (hints.getD []).filterMap Hint.ofV2 with
  | nil => rfl
  | cons h hints => simp [entries, supported]

theorem backend_upgraded (b : V2.Backend) : (Backend.ofV2 b).settings = b.counterpart.settings := by
  simp only [Backend.settings, Backend.ofV2, V2.Backend.counterpart, entries_newHints]
  rfl

theorem remoteSite_upgraded (site : V2.RemoteSiteConfig) :
    (RemoteSiteConfig.ofV2 site).settings = site.counterpart.settings ↔ site.Carried := by
  have hbackends : (site.backends.map Backend.ofV2).map Backend.settings =
      (site.backends.map V2.Backend.counterpart).map Backend.settings := by
    rw [List.map_map, List.map_map]
    exact List.map_congr_left fun b _ => backend_upgraded b
  simp only [RemoteSiteConfig.settings, RemoteSiteConfig.ofV2, V2.RemoteSiteConfig.counterpart,
    hbackends, RemoteSiteConfig.mk.injEq, true_and, and_true, flag_none_iff, flag_some_false,
    V2.RemoteSiteConfig.Carried]

theorem process_upgraded (procId : ProcId) (defaults : Defaults)
    (process : V2.InProcessSiteConfig) :
    (InProcessSiteConfig.ofV2 procId process).settings defaults =
      process.counterpart.settings defaults ↔ process.Carried := by
  have hhints : entries (newHints process.hints) =
      entries (some (supported ((process.hints.getD []).filterMap Hint.ofV2))) :=
    entries_newHints process.hints
  simp only [InProcessSiteConfig.settings, InProcessSiteConfig.ofV2,
    V2.InProcessSiteConfig.counterpart, hhints, InProcessSiteConfig.mk.injEq, true_and,
    and_true, flag_none_iff, flag_some_false, V2.InProcessSiteConfig.Carried,
    Option.getD_none, Option.some.injEq]
  rw [@eq_comm _ LogLevel.info]

theorem toHints_counterpart (h2Hint : Option V1.H2Hint) :
    ((V1.H2Hint.toHints h2Hint).getD []).filterMap Hint.ofV2 =
      (h2Hint.map V1.H2Hint.counterpart).toList := by
  match h2Hint with
  | none => rfl
  | some .h2 => rfl
  | some .h2c => rfl

theorem v1_remoteSite_settings (site : V1.RemoteSiteConfig) :
    (V2.RemoteSiteConfig.ofV1 site).counterpart.settings = site.counterpart.settings := by
  obtain ⟨h2Hint, hostName, targetHostname, port, https, captures, tunnel, forwards⟩ := site
  rcases port with _ | p <;> rcases https with _ | _ | _ <;> rcases h2Hint with _ | _ | _ <;> rfl

theorem v1_remoteSite_upgraded (site : V1.RemoteSiteConfig) :
    (RemoteSiteConfig.ofV2 (V2.RemoteSiteConfig.ofV1 site)).settings =
      site.counterpart.settings := by
  rw [← v1_remoteSite_settings, remoteSite_upgraded]
  simp [V2.RemoteSiteConfig.Carried, V2.RemoteSiteConfig.ofV1]

theorem entries_of_length {α : Type} (items : List α) :
    entries (if items.length > 0 then some items else none) = entries (some items) := by
  cases items <;> rfl

theorem directory_isEmpty (dir : String) :
    (if dir.isEmpty then none else some dir) = directory dir := by
  simp only [directory, String.isEmpty_iff]

theorem v1_process_settings (procId : ProcId) (defaults : Defaults)
    (process : V1.InProcessSiteConfig) :
    (V2.InProcessSiteConfig.ofV1 procId process).counterpart.settings defaults =
      process.counterpart.settings defaults := by
  simp only [InProcessSiteConfig.settings, V2.InProcessSiteConfig.counterpart,
    V2.InProcessSiteConfig.ofV1, V1.InProcessSiteConfig.counterpart, toHints_counterpart,
    entries_of_length, directory_isEmpty]
  rfl

/-- A process of a legacy configuration keeps what every conversion on its way keeps. -/
theorem legacy_process_upgraded (procId procId' : ProcId) (defaults : Defaults)
    (site : Legacy.SiteConfig) :
    (InProcessSiteConfig.ofV2 procId (V2.InProcessSiteConfig.ofV1 procId'
        (V1.InProcessSiteConfig.ofLegacy site))).settings defaults =
      site.counterpart.settings defaults ↔ site.Carried := by
  have hhints : entries (newHints (V1.H2Hint.toHints site.h2Hint)) =
      entries (some (supported (site.h2Hint.map V1.H2Hint.counterpart).toList)) := by
    rw [entries_newHints, toHints_counterpart]
    rfl
  have hport : (if site.https.getD false = true then some site.port else none) =
      (if site.port = 0 then none else some site.port) ↔
        (site.https = some true ↔ site.port ≠ 0) := by
    rcases site.https with _ | _ | _ <;> by_cases hzero : site.port = 0 <;> simp [hzero]
  dsimp only [InProcessSiteConfig.settings, InProcessSiteConfig.ofV2,
    V2.InProcessSiteConfig.ofV1, V1.InProcessSiteConfig.ofLegacy, Legacy.SiteConfig.counterpart]
  simp only [hhints, entries_of_length, directory_isEmpty, InProcessSiteConfig.mk.injEq, true_and,
    and_true, flag_none_iff, flag_some_false, hport, Legacy.SiteConfig.Carried]

/-! ## The document -/

theorem getD_map {α β : Type} (f : α → β) (option : Option (List α)) :
    (option.map (·.map f)).getD [] = (option.getD []).map f := by
  cases option <;> rfl

theorem v2_settings_iff (newId : Nat → ProcId) {config : V2.OddBoxV2Config}
    {v3 : OddBoxV3Config} (h : OddBoxV3Config.tryFrom newId config = .ok v3) :
    v3.settings = config.counterpart.settings ↔ config.Carried := by
  obtain rfl := Except.ok.inj h
  have hremotes : ((config.remoteTarget.getD []).map RemoteSiteConfig.ofV2).map
      RemoteSiteConfig.settings = ((config.remoteTarget.getD []).map
        V2.RemoteSiteConfig.counterpart).map RemoteSiteConfig.settings ↔
      ∀ site ∈ config.remoteTarget.getD [], site.Carried := by
    rw [List.map_map, List.map_map, List.map_inj_left]
    exact forall₂_congr fun site _ => remoteSite_upgraded site
  have hprocesses (defaults : Defaults) : ((config.hostedProcess.getD []).zipIdx.map fun item =>
      InProcessSiteConfig.ofV2 (newId item.2) item.1).map (InProcessSiteConfig.settings defaults) =
        ((config.hostedProcess.getD []).map V2.InProcessSiteConfig.counterpart).map
          (InProcessSiteConfig.settings defaults) ↔
      ∀ process ∈ config.hostedProcess.getD [], process.Carried := by
    rw [map_numbered (fun process n => InProcessSiteConfig.ofV2 (newId n) process)
      (g := fun process => (InProcessSiteConfig.ofV2 ⟨""⟩ process).settings defaults)
      fun _ _ => rfl, List.map_map, List.map_inj_left]
    exact forall₂_congr fun process _ => process_upgraded ⟨""⟩ defaults process
  have hdirs : [] = ((config.dirServer.getD []).map V2.DirServer.counterpart).map
      DirServer.settings ↔ config.dirServer.getD [] = [] := by
    rw [eq_comm, List.map_eq_nil_iff, List.map_eq_nil_iff]
  simp only [OddBoxV3Config.settings, OddBoxV3Config.defaults, V2.OddBoxV2Config.counterpart,
    getD_map, Option.getD_some, Option.getD_none, OddBoxV3Config.mk.injEq, true_and, and_true,
    Option.some.injEq, List.map_nil, hremotes, hprocesses, hdirs]
  constructor
  · rintro ⟨hremote, hprocess, hdir, hemail, hurl, hpassword⟩
    exact ⟨hdir, hemail.symm, hurl.symm, hpassword.symm, hremote, hprocess⟩
  · rintro ⟨hdir, hemail, hurl, hpassword, hremote, hprocess⟩
    exact ⟨hremote, hprocess, hdir, hemail.symm, hurl.symm, hpassword.symm⟩

theorem v1_settings (newId : Nat → ProcId) {config : V1.OddBoxV1Config}
    {v2 : V2.OddBoxV2Config} (h : V2.OddBoxV2Config.tryFrom newId config = .ok v2) :
    v2.counterpart.settings = config.counterpart.settings := by
  obtain rfl := Except.ok.inj h
  have hremotes : (((config.remoteTarget.getD []).map V2.RemoteSiteConfig.ofV1).map
      V2.RemoteSiteConfig.counterpart).map RemoteSiteConfig.settings =
        ((config.remoteTarget.getD []).map V1.RemoteSiteConfig.counterpart).map
          RemoteSiteConfig.settings := by
    rw [List.map_map, List.map_map, List.map_map]
    exact List.map_congr_left fun site _ => v1_remoteSite_settings site
  have hprocesses (defaults : Defaults) : (((config.hostedProcess.getD []).zipIdx.map fun item =>
      V2.InProcessSiteConfig.ofV1 (newId item.2) item.1).map
        V2.InProcessSiteConfig.counterpart).map (InProcessSiteConfig.settings defaults) =
      ((config.hostedProcess.getD []).map V1.InProcessSiteConfig.counterpart).map
        (InProcessSiteConfig.settings defaults) := by
    rw [List.map_map,
      map_numbered (fun process n => V2.InProcessSiteConfig.ofV1 (newId n) process)
        fun process n => v1_process_settings (newId n) defaults process, List.map_map]
    rfl
  simp only [OddBoxV3Config.settings, OddBoxV3Config.defaults, V2.OddBoxV2Config.counterpart,
    V1.OddBoxV1Config.counterpart, getD_map, Option.getD_some, Option.map_some, hremotes,
    hprocesses]
  rfl

theorem v1_carried_iff (newId : Nat → ProcId) {config : V1.OddBoxV1Config}
    {v2 : V2.OddBoxV2Config} (h : V2.OddBoxV2Config.tryFrom newId config = .ok v2) :
    v2.Carried ↔ (AnyOddBoxConfig.v1 config).Carried := by
  obtain rfl := Except.ok.inj h
  have hprocess : ∀ (process : V1.InProcessSiteConfig) (n : Nat),
      (V2.InProcessSiteConfig.ofV1 (newId n) process).Carried ↔
        process.disableTcpTunnelMode ≠ some true := by
    intro process n
    simp [V2.InProcessSiteConfig.Carried, V2.InProcessSiteConfig.ofV1]
  have hprocesses := forall_numbered hprocess (config.hostedProcess.getD [])
  constructor
  · intro hcarried
    exact hprocesses.mp hcarried.hostedProcesses
  · intro hcarried
    refine ⟨rfl, rfl, rfl, rfl, ?_, hprocesses.mpr hcarried⟩
    intro site hsite
    obtain ⟨old, -, rfl⟩ := List.mem_map.mp hsite
    exact ⟨by simp [V2.RemoteSiteConfig.ofV1], by simp [V2.RemoteSiteConfig.ofV1]⟩

/-- The conversions of a legacy configuration, one after the other. -/
theorem legacy_settings_iff (newId : OddBoxConfigVersion → Nat → ProcId)
    {config : Legacy.OddBoxLegacyConfig} {v1 : V1.OddBoxV1Config} {v2 : V2.OddBoxV2Config}
    {v3 : OddBoxV3Config} (hv1 : V1.OddBoxV1Config.tryFrom config = .ok v1)
    (hv2 : V2.OddBoxV2Config.tryFrom (newId .v2) v1 = .ok v2)
    (hv3 : OddBoxV3Config.tryFrom (newId .v3) v2 = .ok v3) :
    v3.settings = config.counterpart.settings ↔ ∀ site ∈ config.processes, site.Carried := by
  obtain rfl := Except.ok.inj hv1
  obtain rfl := Except.ok.inj hv2
  obtain rfl := Except.ok.inj hv3
  have hremotes : (((config.remoteSites.getD []).map V2.RemoteSiteConfig.ofV1).map
      RemoteSiteConfig.ofV2).map RemoteSiteConfig.settings =
        ((config.remoteSites.getD []).map V1.RemoteSiteConfig.counterpart).map
          RemoteSiteConfig.settings := by
    rw [List.map_map, List.map_map, List.map_map]
    exact List.map_congr_left fun site _ => v1_remoteSite_upgraded site
  have hprocesses (defaults : Defaults) : ((((config.processes.map
      V1.InProcessSiteConfig.ofLegacy).zipIdx.map fun item =>
        V2.InProcessSiteConfig.ofV1 (newId .v2 item.2) item.1).zipIdx.map fun item =>
          InProcessSiteConfig.ofV2 (newId .v3 item.2) item.1).map
            (InProcessSiteConfig.settings defaults) =
      (config.processes.map Legacy.SiteConfig.counterpart).map
        (InProcessSiteConfig.settings defaults)) ↔
      ∀ site ∈ config.processes, site.Carried := by
    rw [map_numbered (fun process n => InProcessSiteConfig.ofV2 (newId .v3 n) process)
        (g := fun process => (InProcessSiteConfig.ofV2 ⟨""⟩ process).settings defaults)
        fun _ _ => rfl,
      map_numbered (fun process n => V2.InProcessSiteConfig.ofV1 (newId .v2 n) process)
        (g := fun process => (InProcessSiteConfig.ofV2 ⟨""⟩
          (V2.InProcessSiteConfig.ofV1 ⟨""⟩ process)).settings defaults)
        fun _ _ => rfl, List.map_map, List.map_map, List.map_inj_left]
    exact forall₂_congr fun site _ => legacy_process_upgraded _ _ defaults site
  simp only [OddBoxV3Config.settings, OddBoxV3Config.defaults,
    Legacy.OddBoxLegacyConfig.counterpart, getD_map, Option.getD_some, Option.getD_none,
    OddBoxV3Config.mk.injEq, true_and, and_true, Option.some.injEq, hremotes, hprocesses]

/-- An upgrade has the settings of the counterpart exactly when nothing is set that
the conversions drop. -/
theorem upgrade_settings_iff (newId : OddBoxConfigVersion → Nat → ProcId)
    (config : AnyOddBoxConfig) :
    (∃ v3 version upgraded,
      config.tryUpgradeToLatestVersion newId = .ok (v3, version, upgraded) ∧
        v3.settings = config.counterpart.settings) ↔ config.Carried := by
  have hunique {v3 : OddBoxV3Config} {version : OddBoxConfigVersion} {upgraded : Bool}
      (h : config.tryUpgradeToLatestVersion newId = .ok (v3, version, upgraded)) :
      (∃ v3 version upgraded,
        config.tryUpgradeToLatestVersion newId = .ok (v3, version, upgraded) ∧
          v3.settings = config.counterpart.settings) ↔
        v3.settings = config.counterpart.settings := by
    constructor
    · rintro ⟨other, _, _, hupgrade, hsettings⟩
      rw [h] at hupgrade
      obtain ⟨rfl, -⟩ := Prod.mk.inj (Except.ok.inj hupgrade)
      exact hsettings
    · intro hsettings
      exact ⟨v3, version, upgraded, h, hsettings⟩
  cases config with
  | legacy old => exact (hunique rfl).trans (legacy_settings_iff newId rfl rfl rfl)
  | v1 old =>
    have hv1 := @v1_settings (newId .v2) old _ rfl
    rw [hunique rfl]
    exact (hv1 ▸ v2_settings_iff (newId .v3) rfl).trans (v1_carried_iff (newId .v2) rfl)
  | v2 old => exact (hunique rfl).trans (v2_settings_iff (newId .v3) rfl)
  | v3 latest => exact (hunique rfl).trans (iff_of_true rfl trivial)

/-- A version 2 configuration with a password for the administration. -/
def passwordConfig : V2.OddBoxV2Config :=
  { path := none
    version := .v2
    rootDir := none
    logLevel := some .info
    alpn := some true
    portRangeStart := 4200
    defaultLogFormat := .standard
    ip := none
    httpPort := some 8080
    tlsPort := some 4343
    autoStart := some true
    envVars := []
    remoteTarget := none
    hostedProcess := none
    dirServer := none
    adminApiPort := none
    letsEncryptAccountEmail := none
    oddBoxUrl := some "admin.example.com"
    oddBoxPassword := some "secret" }

theorem passwordConfig_not_kept :
    ¬∃ v3 version upgraded,
      (AnyOddBoxConfig.v2 passwordConfig).tryUpgradeToLatestVersion (fun _ _ => ⟨"id"⟩) =
        .ok (v3, version, upgraded) ∧
          v3.settings = (AnyOddBoxConfig.v2 passwordConfig).counterpart.settings := by
  rintro ⟨v3, version, upgraded, hupgrade, hsettings⟩
  obtain ⟨rfl, -⟩ := Prod.mk.inj (Except.ok.inj hupgrade)
  have hpassword := congrArg OddBoxV3Config.oddBoxPassword hsettings
  contradiction

end OddBox.Configuration

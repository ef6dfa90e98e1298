import OddBox.Configuration.IpText
import OddBox.Configuration.V3
import OddBox.Toml.Fields

/-!
The derived deserialisers of the version 3 configuration with the `serde`
attributes of their fields. A deserialised process gets a new identifier; the path
and the active ports are skipped.
-/

namespace OddBox.Configuration

open Toml (Table Value aliasField defaultField optionField requiredField someOf)

/-! ## Choices and numbers -/

def V3VersionEnum.deserialize (value : Value) : Option V3VersionEnum := do
  match ← value.string? with
  | "V3" => pure .v3
  | _ => none

/-- The visitor of `LogLevel` puts the name in lower case first. -/
def LogLevel.deserialize (value : Value) : Option LogLevel := do
  match (← value.string?).toLower with
  | "trace" => pure .trace
  | "debug" => pure .debug
  | "info" => pure .info
  | "warn" => pure .warn
  | "error" => pure .error
  | _ => none

def LogFormat.deserialize (value : Value) : Option LogFormat := do
  match ← value.string? with
  | "standard" => pure .standard
  | "dotnet" => pure .dotnet
  | _ => none

def Hint.deserialize (value : Value) : Option Hint := do
  match ← value.string? with
  | "H2" => pure .h2
  | "H2C" => pure .h2c
  | "H2CPK" => pure .h2cpk
  | "H1" => pure .h1
  | "H3" => pure .h3
  | _ => none

def IpAddr.deserialize (value : Value) : Option IpAddr := do
  IpAddr.parse (← value.string?)

def u16 (value : Value) : Option UInt16 := do
  pure (UInt16.ofNat (← value.unsigned? 16))

def u64 (value : Value) : Option UInt64 := do
  pure (UInt64.ofNat (← value.unsigned? 64))

/-! ## Records -/

def EnvVar.deserialize (value : Value) : Option EnvVar := do
  let table ← value.table?
  pure {
    key := ← requiredField Value.string? table "key"
    value := ← requiredField Value.string? table "value" }

def DirServer.deserialize (value : Value) : Option DirServer := do
  let table ← value.table?
  pure {
    dir := ← requiredField Value.string? table "dir"
    hostName := ← requiredField Value.string? table "host_name"
    captureSubdomains := ← optionField Value.boolean? table "capture_subdomains"
    enableLetsEncrypt := ← optionField Value.boolean? table "enable_lets_encrypt"
    enableDirectoryBrowsing := ← optionField Value.boolean? table "enable_directory_browsing"
    redirectToHttps := ← optionField Value.boolean? table "redirect_to_https"
    renderMarkdown := ← optionField Value.boolean? table "render_markdown"
    cacheControlMaxAgeInSeconds := ← optionField u64 table "cache_control_max_age_in_seconds" }

def Backend.deserialize (value : Value) : Option Backend := do
  let table ← value.table?
  pure {
    address := ← requiredField Value.string? table "address"
    port := ← requiredField u16 table "port"
    https := ← optionField Value.boolean? table "https"
    hints := ← optionField (Value.list? Hint.deserialize) table "hints" }

def RemoteSiteConfig.deserialize (value : Value) : Option RemoteSiteConfig := do
  let table ← value.table?
  pure {
    hostName := ← requiredField Value.string? table "host_name"
    backends := ← requiredField (Value.list? Backend.deserialize) table "backends"
    captureSubdomains := ← optionField Value.boolean? table "capture_subdomains"
    terminateTls := ← aliasField Value.boolean? table "terminate_tls" "disable_tcp_tunnel_mode"
    terminateHttp := ← optionField Value.boolean? table "terminate_http"
    forwardSubdomains := ← optionField Value.boolean? table "forward_subdomains"
    enableLetsEncrypt := ← optionField Value.boolean? table "enable_lets_encrypt"
    keepOriginalHostHeader := ← optionField Value.boolean? table "keep_original_host_header"
    redirectToHttps := ← optionField Value.boolean? table "redirect_to_https" }

def InProcessSiteConfig.deserialize (procId : ProcId) (value : Value) :
    Option InProcessSiteConfig := do
  let table ← value.table?
  pure {
    procId := procId
    activePort := none
    terminateTls := ← aliasField Value.boolean? table "terminate_tls" "disable_tcp_tunnel_mode"
    terminateHttp := ← optionField Value.boolean? table "terminate_http"
    hints := ← optionField (Value.list? Hint.deserialize) table "hints"
    hostName := ← requiredField Value.string? table "host_name"
    dir := ← optionField Value.string? table "dir"
    bin := ← requiredField Value.string? table "bin"
    args := ← optionField (Value.list? Value.string?) table "args"
    envVars := ← optionField (Value.list? EnvVar.deserialize) table "env_vars"
    logFormat := ← optionField LogFormat.deserialize table "log_format"
    autoStart := ← optionField Value.boolean? table "auto_start"
    port := ← optionField u16 table "port"
    https := ← optionField Value.boolean? table "https"
    captureSubdomains := ← optionField Value.boolean? table "capture_subdomains"
    forwardSubdomains := ← optionField Value.boolean? table "forward_subdomains"
    excludeFromStartAll := ← optionField Value.boolean? table "exclude_from_start_all"
    enableLetsEncrypt := ← optionField Value.boolean? table "enable_lets_encrypt"
    logLevel := ← optionField LogLevel.deserialize table "log_level"
    redirectToHttps := ← optionField Value.boolean? table "redirect_to_https" }

/-- The identifiers are generated one after the other. -/
def deserializeProcesses {α : Type} (deserialize : ProcId → Value → Option α)
    (newId : Nat → ProcId) (value : Value) : Option (List α) := do
  let items ← value.array?
  items.zipIdx.mapM fun item => deserialize (newId item.2) item.1

def OddBoxV3Config.deserialize (newId : Nat → ProcId) (table : Table) : Option OddBoxV3Config := do
  pure {
    path := none
    version := ← requiredField V3VersionEnum.deserialize table "version"
    rootDir := ← optionField Value.string? table "root_dir"
    logLevel := ← defaultField (some .info) (someOf LogLevel.deserialize) table "log_level"
    alpn := ← defaultField (some true) (someOf Value.boolean?) table "alpn"
    portRangeStart := ← defaultField 4200 u16 table "port_range_start"
    defaultLogFormat := ← defaultField .standard LogFormat.deserialize table "default_log_format"
    ip := ← optionField IpAddr.deserialize table "ip"
    httpPort := ← defaultField (some 8080) (someOf u16) table "http_port"
    tlsPort := ← defaultField (some 4343) (someOf u16) table "tls_port"
    autoStart := ← defaultField (some true) (someOf Value.boolean?) table "auto_start"
    envVars := ← defaultField [] (Value.list? EnvVar.deserialize) table "env_vars"
    remoteTarget := ← optionField (Value.list? RemoteSiteConfig.deserialize) table "remote_target"
    hostedProcess := ← optionField
      (deserializeProcesses InProcessSiteConfig.deserialize newId) table "hosted_process"
    dirServer := ← optionField (Value.list? DirServer.deserialize) table "dir_server"
    letsEncryptAccountEmail := ← optionField Value.string? table "lets_encrypt_account_email"
    oddBoxUrl := ← optionField Value.string? table "odd_box_url"
    oddBoxPassword := ← optionField Value.string? table "odd_box_password"
    useLoopbackIpForProcs :=
      ← defaultField (some true) (someOf Value.boolean?) table "use_loopback_ip_for_procs" }

end OddBox.Configuration

import OddBox.Configuration.V1

/-!
The version 2 configuration of `configuration/v2.rs`, its records with their
derived deserialisers.
-/

namespace OddBox.Configuration.V2

open Toml (Table Value defaultField optionField requiredField someOf)

structure DirServer where
  dir : String
  hostName : String
  captureSubdomains : Option Bool
  enableLetsEncrypt : Option Bool
  enableDirectoryBrowsing : Option Bool
  redirectToHttps : Option Bool
  renderMarkdown : Option Bool
  deriving DecidableEq, Repr

inductive Hint where
  | h2
  | h2c
  | h2cpk
  | noh2
  deriving DecidableEq, Repr

structure InProcessSiteConfig where
  procId : ProcId
  activePort : Option UInt16
  disableTcpTunnelMode : Option Bool
  hints : Option (List Hint)
  hostName : String
  dir : Option String
  bin : String
  args : Option (List String)
  envVars : Option (List EnvVar)
  logFormat : Option LogFormat
  autoStart : Option Bool
  port : Option UInt16
  https : Option Bool
  captureSubdomains : Option Bool
  forwardSubdomains : Option Bool
  excludeFromStartAll : Option Bool
  enableLetsEncrypt : Option Bool
  logLevel : Option LogLevel
  deriving DecidableEq, Repr

structure Backend where
  address : String
  port : UInt16
  https : Option Bool
  hints : Option (List Hint)
  deriving DecidableEq, Repr

structure RemoteSiteConfig where
  hostName : String
  backends : List Backend
  captureSubdomains : Option Bool
  disableTcpTunnelMode : Option Bool
  forwardSubdomains : Option Bool
  enableLetsEncrypt : Option Bool
  keepOriginalHostHeader : Option Bool
  deriving DecidableEq, Repr

structure OddBoxV2Config where
  path : Option String
  version : OddBoxConfigVersion
  rootDir : Option String
  logLevel : Option LogLevel
  alpn : Option Bool
  portRangeStart : UInt16
  defaultLogFormat : LogFormat
  ip : Option IpAddr
  httpPort : Option UInt16
  tlsPort : Option UInt16
  autoStart : Option Bool
  envVars : List EnvVar
  remoteTarget : Option (List RemoteSiteConfig)
  hostedProcess : Option (List InProcessSiteConfig)
  dirServer : Option (List DirServer)
  adminApiPort : Option UInt16
  letsEncryptAccountEmail : Option String
  oddBoxUrl : Option String
  oddBoxPassword : Option String
  deriving DecidableEq, Repr

def DirServer.deserialize (value : Value) : Option DirServer := do
  let table ← value.table?
  pure {
    dir := ← requiredField Value.string? table "dir"
    hostName := ← requiredField Value.string? table "host_name"
    captureSubdomains := ← optionField Value.boolean? table "capture_subdomains"
    enableLetsEncrypt := ← optionField Value.boolean? table "enable_lets_encrypt"
    enableDirectoryBrowsing := ← optionField Value.boolean? table "enable_directory_browsing"
    redirectToHttps := ← optionField Value.boolean? table "redirect_to_https"
    renderMarkdown := ← optionField Value.boolean? table "render_markdown" }

def Hint.deserialize (value : Value) : Option Hint := do
  match ← value.string? with
  | "H2" => pure .h2
  | "H2C" => pure .h2c
  | "H2CPK" => pure .h2cpk
  | "NOH2" => pure .noh2
  | _ => none

def Backend.deserialize (value : Value) : Option Backend := do
  let table ← value.table?
  pure {
    address := ← requiredField Value.string? table "address"
    port := ← requiredField u16 table "port"
    https := ← optionField Value.boolean? table "https"
    hints := ← optionField (Value.list? Hint.deserialize) table "hints" }

def RemoteSiteConfig.deserialize (value : Value) : Option RemoteSiteConfig := do
  let table ← value.table?
  pure {
    hostName := ← requiredField Value.string? table "host_name"
    backends := ← requiredField (Value.list? Backend.deserialize) table "backends"
    captureSubdomains := ← optionField Value.boolean? table "capture_subdomains"
    disableTcpTunnelMode := ← optionField Value.boolean? table "disable_tcp_tunnel_mode"
    forwardSubdomains := ← optionField Value.boolean? table "forward_subdomains"
    enableLetsEncrypt := ← optionField Value.boolean? table "enable_lets_encrypt"
    keepOriginalHostHeader := ← optionField Value.boolean? table "keep_original_host_header" }

def InProcessSiteConfig.deserialize (procId : ProcId) (value : Value) :
    Option InProcessSiteConfig := do
  let table ← value.table?
  pure {
    procId := procId
    activePort := none
    disableTcpTunnelMode := ← optionField Value.boolean? table "disable_tcp_tunnel_mode"
    hints := ← optionField (Value.list? Hint.deserialize) table "hints"
    hostName := ← requiredField Value.string? table "host_name"
    dir := ← optionField Value.string? table "dir"
    bin := ← requiredField Value.string? table "bin"
    args := ← optionField (Value.list? Value.string?) table "args"
    envVars := ← optionField (Value.list? EnvVar.deserialize) table "env_vars"
    logFormat := ← optionField LogFormat.deserialize table "log_format"
    autoStart := ← optionField Value.boolean? table "auto_start"
    port := ← optionField u16 table "port"
    https := ← optionField Value.boolean? table "https"
    captureSubdomains := ← optionField Value.boolean? table "capture_subdomains"
    forwardSubdomains := ← optionField Value.boolean? table "forward_subdomains"
    excludeFromStartAll := ← optionField Value.boolean? table "exclude_from_start_all"
    enableLetsEncrypt := ← optionField Value.boolean? table "enable_lets_encrypt"
    logLevel := ← optionField LogLevel.deserialize table "log_level" }

def OddBoxV2Config.deserialize (newId : Nat → ProcId) (table : Table) : Option OddBoxV2Config := do
  pure {
    path := none
    version := ← requiredField OddBoxConfigVersion.deserialize table "version"
    rootDir := ← optionField Value.string? table "root_dir"
    logLevel := ← defaultField (some .info) (someOf LogLevel.deserialize) table "log_level"
    alpn := ← defaultField (some true) (someOf Value.boolean?) table "alpn"
    portRangeStart := ← defaultField 4200 u16 table "port_range_start"
    defaultLogFormat := ← defaultField .standard LogFormat.deserialize table "default_log_format"
    ip := ← optionField IpAddr.deserialize table "ip"
    httpPort := ← defaultField (some 8080) (someOf u16) table "http_port"
    tlsPort := ← defaultField (some 4343) (someOf u16) table "tls_port"
    autoStart := ← defaultField (some true) (someOf Value.boolean?) table "auto_start"
    envVars := ← defaultField [] (Value.list? EnvVar.deserialize) table "env_vars"
    remoteTarget := ← optionField (Value.list? RemoteSiteConfig.deserialize) table "remote_target"
    hostedProcess := ← optionField
      (deserializeProcesses InProcessSiteConfig.deserialize newId) table "hosted_process"
    dirServer := ← optionField (Value.list? DirServer.deserialize) table "dir_server"
    adminApiPort := ← optionField u16 table "admin_api_port"
    letsEncryptAccountEmail := ← optionField Value.string? table "lets_encrypt_account_email"
    oddBoxUrl := ← optionField Value.string? table "odd_box_url"
    oddBoxPassword := ← optionField Value.string? table "odd_box_password" }

end OddBox.Configuration.V2

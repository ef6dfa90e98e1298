import OddBox.Configuration.Deserialize

/-!
The version 1 configuration of `configuration/v1.rs`, its records with their
derived deserialisers, and the version marks that versions 1 and 2 share.
-/

namespace OddBox.Configuration

open Toml (Table Value defaultField optionField requiredField someOf)

inductive OddBoxConfigVersion where
  | unmarked
  | v1
  | v2
  | v3
  deriving DecidableEq, Repr

def OddBoxConfigVersion.fmt : OddBoxConfigVersion → String
  | .unmarked => "Unmarked"
  | .v1 => "V1"
  | .v2 => "V2"
  | .v3 => "V3"

def OddBoxConfigVersion.deserialize (value : Value) : Option OddBoxConfigVersion := do
  match ← value.string? with
  | "Unmarked" => pure .unmarked
  | "V1" => pure .v1
  | "V2" => pure .v2
  | "V3" => pure .v3
  | _ => none

namespace V1

inductive H2Hint where
  | h2
  | h2c
  deriving DecidableEq, Repr

structure InProcessSiteConfig where
  disableTcpTunnelMode : Option Bool
  h2Hint : Option H2Hint
  hostName : String
  dir : String
  bin : String
  args : List String
  envVars : List EnvVar
  logFormat : Option LogFormat
  autoStart : Option Bool
  port : Option UInt16
  https : Option Bool
  captureSubdomains : Option Bool
  forwardSubdomains : Option Bool
  disabled : Option Bool
  deriving DecidableEq, Repr

structure RemoteSiteConfig where
  h2Hint : Option H2Hint
  hostName : String
  targetHostname : String
  port : Option UInt16
  https : Option Bool
  captureSubdomains : Option Bool
  disableTcpTunnelMode : Option Bool
  forwardSubdomains : Option Bool
  deriving DecidableEq, Repr

structure OddBoxV1Config where
  version : OddBoxConfigVersion
  rootDir : Option String
  logLevel : Option LogLevel
  alpn : Option Bool
  portRangeStart : UInt16
  defaultLogFormat : LogFormat
  ip : Option IpAddr
  httpPort : Option UInt16
  tlsPort : Option UInt16
  autoStart : Option Bool
  envVars : List EnvVar
  remoteTarget : Option (List RemoteSiteConfig)
  hostedProcess : Option (List InProcessSiteConfig)
  adminApiPort : Option UInt16
  path : Option String
  deriving DecidableEq, Repr

def H2Hint.deserialize (value : Value) : Option H2Hint := do
  match ← value.string? with
  | "H2" => pure .h2
  | "H2C" => pure .h2c
  | _ => none

def InProcessSiteConfig.deserialize (value : Value) : Option InProcessSiteConfig := do
  let table ← value.table?
  pure {
    disableTcpTunnelMode := ← optionField Value.boolean? table "disable_tcp_tunnel_mode"
    h2Hint := ← optionField H2Hint.deserialize table "h2_hint"
    hostName := ← requiredField Value.string? table "host_name"
    dir := ← requiredField Value.string? table "dir"
    bin := ← requiredField Value.string? table "bin"
    args := ← requiredField (Value.list? Value.string?) table "args"
    envVars := ← requiredField (Value.list? EnvVar.deserialize) table "env_vars"
    logFormat := ← optionField LogFormat.deserialize table "log_format"
    autoStart := ← optionField Value.boolean? table "auto_start"
    port := ← optionField u16 table "port"
    https := ← optionField Value.boolean? table "https"
    captureSubdomains := ← optionField Value.boolean? table "capture_subdomains"
    forwardSubdomains := ← optionField Value.boolean? table "forward_subdomains"
    disabled := ← optionField Value.boolean? table "disabled" }

def RemoteSiteConfig.deserialize (value : Value) : Option RemoteSiteConfig := do
  let table ← value.table?
  pure {
    h2Hint := ← optionField H2Hint.deserialize table "h2_hint"
    hostName := ← requiredField Value.string? table "host_name"
    targetHostname := ← requiredField Value.string? table "target_hostname"
    port := ← optionField u16 table "port"
    https := ← optionField Value.boolean? table "https"
    captureSubdomains := ← optionField Value.boolean? table "capture_subdomains"
    disableTcpTunnelMode := ← optionField Value.boolean? table "disable_tcp_tunnel_mode"
    forwardSubdomains := ← optionField Value.boolean? table "forward_subdomains" }

def OddBoxV1Config.deserialize (table : Table) : Option OddBoxV1Config := do
  pure {
    version := ← requiredField OddBoxConfigVersion.deserialize table "version"
    rootDir := ← optionField Value.string? table "root_dir"
    logLevel := ← defaultField (some .info) (someOf LogLevel.deserialize) table "log_level"
    alpn := ← defaultField (some true) (someOf Value.boolean?) table "alpn"
    portRangeStart := ← requiredField u16 table "port_range_start"
    defaultLogFormat := ← defaultField .standard LogFormat.deserialize table "default_log_format"
    ip := ← optionField IpAddr.deserialize table "ip"
    httpPort := ← defaultField (some 8080) (someOf u16) table "http_port"
    tlsPort := ← defaultField (some 4343) (someOf u16) table "tls_port"
    autoStart := ← defaultField (some true) (someOf Value.boolean?) table "auto_start"
    envVars := ← requiredField (Value.list? EnvVar.deserialize) table "env_vars"
    remoteTarget := ← optionField (Value.list? RemoteSiteConfig.deserialize) table "remote_target"
    hostedProcess :=
      ← optionField (Value.list? InProcessSiteConfig.deserialize) table "hosted_process"
    adminApiPort := ← optionField u16 table "admin_api_port"
    path := ← optionField Value.string? table "path" }

end V1

end OddBox.Configuration

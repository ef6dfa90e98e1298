import OddBox.Configuration.V1

/-!
The configuration without a version of `configuration/legacy.rs`. The port of its
processes is skipped by the deserialiser.
-/

namespace OddBox.Configuration.Legacy

open Toml (Table Value optionField requiredField)

structure SiteConfig where
  hostName : String
  path : String
  bin : String
  args : List String
  envVars : List EnvVar
  logFormat : Option LogFormat
  autoStart : Option Bool
  https : Option Bool
  captureSubdomains : Option Bool
  port : UInt16
  h2Hint : Option V1.H2Hint
  disableTcpTunnelMode : Option Bool
  deriving DecidableEq, Repr

structure OddBoxLegacyConfig where
  processes : List SiteConfig
  envVars : List EnvVar
  rootDir : Option String
  logLevel : Option LogLevel
  portRangeStart : UInt16
  defaultLogFormat : Option LogFormat
  port : Option UInt16
  tlsPort : Option UInt16
  autoStart : Option Bool
  ip : Option IpAddr
  remoteSites : Option (List V1.RemoteSiteConfig)
  deriving DecidableEq, Repr

def SiteConfig.deserialize (value : Value) : Option SiteConfig := do
  let table ← value.table?
  pure {
    hostName := ← requiredField Value.string? table "host_name"
    path := ← requiredField Value.string? table "path"
    bin := ← requiredField Value.string? table "bin"
    args := ← requiredField (Value.list? Value.string?) table "args"
    envVars := ← requiredField (Value.list? EnvVar.deserialize) table "env_vars"
    logFormat := ← optionField LogFormat.deserialize table "log_format"
    autoStart := ← optionField Value.boolean? table "auto_start"
    https := ← optionField Value.boolean? table "https"
    captureSubdomains := ← optionField Value.boolean? table "capture_subdomains"
    port := 0
    h2Hint := ← optionField V1.H2Hint.deserialize table "h2_hint"
    disableTcpTunnelMode := ← optionField Value.boolean? table "disable_tcp_tunnel_mode" }

def OddBoxLegacyConfig.deserialize (table : Table) : Option OddBoxLegacyConfig := do
  pure {
    processes := ← requiredField (Value.list? SiteConfig.deserialize) table "processes"
    envVars := ← requiredField (Value.list? EnvVar.deserialize) table "env_vars"
    rootDir := ← optionField Value.string? table "root_dir"
    logLevel := ← optionField LogLevel.deserialize table "log_level"
    portRangeStart := ← requiredField u16 table "port_range_start"
    defaultLogFormat := ← optionField LogFormat.deserialize table "default_log_format"
    port := ← optionField u16 table "port"
    tlsPort := ← optionField u16 table "tls_port"
    autoStart := ← optionField Value.boolean? table "auto_start"
    ip := ← optionField IpAddr.deserialize table "ip"
    remoteSites :=
      ← optionField (Value.list? V1.RemoteSiteConfig.deserialize) table "remote_sites" }

end OddBox.Configuration.Legacy

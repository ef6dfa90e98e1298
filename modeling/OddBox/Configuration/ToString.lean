import Mathlib
import OddBox.Configuration.V3
import OddBox.Configuration.IpText

/-!
`OddBoxV3Config::to_string`: the lines that are pushed, in the order of the
source. A pushed text may itself hold line breaks.
-/

namespace OddBox.Configuration

/-! ## `Debug` and `Display` texts -/

def unicodeEscape (c : Char) : List Char :=
  ['\\', 'u', '\x7b'] ++ Nat.toDigits 16 c.toNat ++ ['\x7d']

/-- `char::escape_debug` inside a string; the characters outside ASCII that are
printed as they are come from the Unicode tables. -/
def escapeDebug (printable : Char → Bool) (c : Char) : List Char :=
  if c = '\x00' then ['\\', '0']
  else if c = '\t' then ['\\', 't']
  else if c = '\r' then ['\\', 'r']
  else if c = '\n' then ['\\', 'n']
  else if c = '"' ∨ c = '\\' then ['\\', c]
  else if c.val < 128 then
    if ' ' ≤ c ∧ c ≠ '\x7f' then [c] else unicodeEscape c
  else if printable c then [c]
  else unicodeEscape c

/-- The `Debug` text of a string. -/
def quoted (printable : Char → Bool) (text : String) : String :=
  "\"" ++ String.ofList (text.toList.flatMap (escapeDebug printable)) ++ "\""

def V3VersionEnum.fmt : V3VersionEnum → String
  | .v3 => "V3"

def LogLevel.fmt : LogLevel → String
  | .trace => "Trace"
  | .debug => "Debug"
  | .info => "Info"
  | .warn => "Warn"
  | .error => "Error"

def LogFormat.fmt : LogFormat → String
  | .standard => "standard"
  | .dotnet => "dotnet"

def Hint.fmt : Hint → String
  | .h2 => "H2"
  | .h2c => "H2C"
  | .h2cpk => "H2CPK"
  | .h1 => "H1"
  | .h3 => "H3"

/-! ## The lines -/

section

variable (printable : Char → Bool)

/-- Lines that are pushed when the option is there. -/
def pushAll {α : Type} (option : Option α) (lines : α → List String) : List String :=
  match option with
  | some value => lines value
  | none => []

def pushIf {α : Type} (option : Option α) (line : α → String) : List String :=
  pushAll option fun value => [line value]

/-- A line that is pushed in either case. -/
def pushOr {α : Type} (option : Option α) (line : α → String) (absent : String) : String :=
  match option with
  | some value => line value
  | none => absent

/-- A line that is pushed for `Some(true)` only. -/
def pushIfTrue (option : Option Bool) (line : String) : List String :=
  match option with
  | some true => [line]
  | _ => []

def EnvVar.line (envVar : EnvVar) : String :=
  "\t\x7b key = " ++ quoted printable envVar.key ++ ", value = " ++
    quoted printable envVar.value ++ " \x7d,"

def envVarLines (envVars : List EnvVar) : List String :=
  ["env_vars = ["] ++ envVars.map (EnvVar.line printable) ++ ["]"]

def DirServer.lines (s : DirServer) : List String :=
  ["\n[[dir_server]]",
    "host_name = " ++ quoted printable s.hostName,
    "dir = " ++ quoted printable s.dir] ++
  pushIfTrue s.captureSubdomains "capture_subdomains = true" ++
  pushIfTrue s.enableDirectoryBrowsing "enable_directory_browsing = true" ++
  pushIfTrue s.enableLetsEncrypt "enable_lets_encrypt = true" ++
  pushIfTrue s.renderMarkdown "render_markdown = true" ++
  pushIfTrue s.redirectToHttps "redirect_to_https = true" ++
  pushIf s.cacheControlMaxAgeInSeconds fun v =>
    "cache_control_max_age_in_seconds = " ++ toString v.toNat

def hintTexts (hints : List Hint) : String :=
  ", ".intercalate (hints.map fun h => "'" ++ h.fmt ++ "'")

def httpsText : Option Bool → String
  | some true => "https = true, "
  | _ => ""

def hintsText : Option (List Hint) → String
  | some hints => ", hints = [" ++ hintTexts hints ++ "]"
  | none => ""

def Backend.line (b : Backend) : String :=
  "\t\x7b " ++ httpsText b.https ++ "address=\"" ++ b.address ++ "\", port=" ++
    toString b.port.toNat ++ hintsText b.hints ++ "\x7d"

def RemoteSiteConfig.lines (site : RemoteSiteConfig) : List String :=
  ["\n[[remote_target]]",
    "host_name = " ++ quoted printable site.hostName] ++
  pushIfTrue site.forwardSubdomains "forward_subdomains = true" ++
  pushIfTrue site.redirectToHttps "redirect_to_https = true" ++
  pushIfTrue site.captureSubdomains "capture_subdomains = true" ++
  pushIfTrue site.terminateTls "terminate_tls = true" ++
  pushIfTrue site.enableLetsEncrypt "enable_lets_encrypt = true" ++
  ["backends = [", ",\n".intercalate (site.backends.map Backend.line), "]"]

def InProcessSiteConfig.lines (process : InProcessSiteConfig) : List String :=
  ["\n[[hosted_process]]",
    "host_name = " ++ quoted printable process.hostName] ++
  (pushIf process.dir fun d => "dir = " ++ quoted printable d) ++
  ["bin = " ++ quoted printable process.bin] ++
  (pushAll process.hints fun hint => ["hints = [", hintTexts hint, "]"]) ++
  ["args = [" ++ ", ".intercalate ((process.args.getD []).map fun arg =>
    "\n  " ++ quoted printable arg) ++ "]"] ++
  (pushIf process.autoStart fun autoStart => "auto_start = " ++ toString autoStart) ++
  (pushIf process.logLevel fun logLevel => "log_level = \"" ++ logLevel.fmt ++ "\"") ++
  pushIfTrue process.redirectToHttps "redirect_to_https = true" ++
  pushIfTrue process.enableLetsEncrypt "enable_lets_encrypt = true" ++
  pushIfTrue process.excludeFromStartAll "exclude_from_start_all = true" ++
  (pushIf process.https fun b => "https = " ++ toString b) ++
  (pushIf process.port fun port => "port = " ++ toString port.toNat) ++
  pushIfTrue process.captureSubdomains "capture_subdomains = true" ++
  pushIfTrue process.terminateTls "terminate_tls = true" ++
  pushAll process.envVars (envVarLines printable)

/-- The lines before the first table. -/
def OddBoxV3Config.rootLines (config : OddBoxV3Config) : List String :=
  ["#:schema https://raw.githubusercontent.com/OlofBlomqvist/odd-box/main/odd-box-schema-v3.1.json",
    "version = \"" ++ config.version.fmt ++ "\"",
    pushOr config.alpn (fun alpn => "alpn = " ++ toString alpn) "alpn = false"] ++
  (pushIf config.httpPort fun port => "http_port = " ++ toString port.toNat) ++
  (pushIf config.tlsPort fun tlsPort => "tls_port = " ++ toString tlsPort.toNat) ++
  [pushOr config.ip (fun ip => "ip = \"" ++ ip.fmt ++ "\"") "ip = \"127.0.0.1\"",
    pushOr config.autoStart (fun autoStart => "auto_start = " ++ toString autoStart)
      "auto_start = false",
    pushOr config.rootDir (fun rootDir => "root_dir = " ++ quoted printable rootDir)
      "root_dir = \"~\""] ++
  (pushIf config.logLevel fun logLevel => "log_level = \"" ++ logLevel.fmt ++ "\"") ++
  (pushIf config.oddBoxUrl fun oddBoxUrl => "odd_box_url = " ++ quoted printable oddBoxUrl) ++
  (pushIf config.oddBoxPassword fun oddBoxPassword =>
    "odd_box_password = " ++ quoted printable oddBoxPassword) ++
  ["port_range_start = " ++ toString config.portRangeStart.toNat,
    "default_log_format = \"" ++ config.defaultLogFormat.fmt ++ "\""] ++
  (pushIf config.letsEncryptAccountEmail fun email =>
    "lets_encrypt_account_email = \"" ++ email ++ "\"") ++
  if config.envVars.length > 0 then envVarLines printable config.envVars else ["env_vars = []"]

def OddBoxV3Config.lines (config : OddBoxV3Config) : List String :=
  config.rootLines printable ++
  (config.dirServer.getD []).flatMap (DirServer.lines printable) ++
  (config.remoteTarget.getD []).flatMap (RemoteSiteConfig.lines printable) ++
  (config.hostedProcess.getD []).flatMap (InProcessSiteConfig.lines printable)

/-- `to_string`; its panic is for versions that the type does not have. -/
def OddBoxV3Config.toString (config : OddBoxV3Config) : String :=
  "\n".intercalate (config.lines printable)

end

end OddBox.Configuration

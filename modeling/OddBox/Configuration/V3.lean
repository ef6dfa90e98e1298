import Mathlib

/-!
The records of `configuration/v3.rs` and the types of `configuration/mod.rs`
they are made of. Optional fields that the file may leave out are `Option`s, as
in the source.
-/

namespace OddBox.Configuration

/-- `ProcId`, a generated identifier. -/
structure ProcId where
  id : String
  deriving DecidableEq, Repr

structure EnvVar where
  key : String
  value : String
  deriving DecidableEq, Repr

inductive LogFormat where
  | standard
  | dotnet
  deriving DecidableEq, Repr

inductive LogLevel where
  | trace
  | debug
  | info
  | warn
  | error
  deriving DecidableEq, Repr

inductive Hint where
  | h2
  | h2c
  | h2cpk
  | h1
  | h3
  deriving DecidableEq, Repr

inductive IpAddr where
  | v4 (a b c d : UInt8)
  | v6 (s0 s1 s2 s3 s4 s5 s6 s7 : UInt16)
  deriving DecidableEq, Repr

structure DirServer where
  dir : String
  hostName : String
  captureSubdomains : Option Bool
  enableLetsEncrypt : Option Bool
  enableDirectoryBrowsing : Option Bool
  redirectToHttps : Option Bool
  renderMarkdown : Option Bool
  cacheControlMaxAgeInSeconds : Option UInt64
  deriving DecidableEq, Repr

structure InProcessSiteConfig where
  procId : ProcId
  activePort : Option UInt16
  terminateTls : Option Bool
  terminateHttp : Option Bool
  hints : Option (List Hint)
  hostName : String
  dir : Option String
  bin : String
  args : Option (List String)
  envVars : Option (List EnvVar)
  logFormat : Option LogFormat
  autoStart : Option Bool
  port : Option UInt16
  https : Option Bool
  captureSubdomains : Option Bool
  forwardSubdomains : Option Bool
  excludeFromStartAll : Option Bool
  enableLetsEncrypt : Option Bool
  logLevel : Option LogLevel
  redirectToHttps : Option Bool
  deriving DecidableEq, Repr

structure Backend where
  address : String
  port : UInt16
  https : Option Bool
  hints : Option (List Hint)
  deriving DecidableEq, Repr

structure RemoteSiteConfig where
  hostName : String
  backends : List Backend
  captureSubdomains : Option Bool
  terminateTls : Option Bool
  terminateHttp : Option Bool
  forwardSubdomains : Option Bool
  enableLetsEncrypt : Option Bool
  keepOriginalHostHeader : Option Bool
  redirectToHttps : Option Bool
  deriving DecidableEq, Repr

inductive V3VersionEnum where
  | v3
  deriving DecidableEq, Repr

structure OddBoxV3Config where
  path : Option String
  version : V3VersionEnum
  rootDir : Option String
  logLevel : Option LogLevel
  alpn : Option Bool
  portRangeStart : UInt16
  defaultLogFormat : LogFormat
  ip : Option IpAddr
  httpPort : Option UInt16
  tlsPort : Option UInt16
  autoStart : Option Bool
  envVars : List EnvVar
  remoteTarget : Option (List RemoteSiteConfig)
  hostedProcess : Option (List InProcessSiteConfig)
  dirServer : Option (List DirServer)
  letsEncryptAccountEmail : Option String
  oddBoxUrl : Option String
  oddBoxPassword : Option String
  useLoopbackIpForProcs : Option Bool
  deriving DecidableEq, Repr

end OddBox.Configuration

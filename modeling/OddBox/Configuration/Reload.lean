import Mathlib
import OddBox.Configuration.Comparison
import OddBox.Configuration.Parse
import OddBox.Configuration.Upgrade
import OddBox.Routing.Lookups

/-!
`reload_from_disk`: the new configuration is read and checked, the loops of changed
processes are marked and leave, and only then the new loops are started and the new
configuration is adopted. Of the running program the model has what the reload
changes.
-/

namespace OddBox.Configuration

open Routing (ContainerProxyTarget)

/-! ## The system -/

/-- `std::path::PathBuf`; a path that is no UTF-8 is displayed all the same. -/
structure PathBuf where
  toStr : Option String
  display : String

/-- What the program asks of the system, of the `toml` crate and of the generator
of identifiers. -/
structure Environment where
  readFile : String → Except String String
  canonicalize : String → Except String PathBuf
  parent : String → Option PathBuf
  homeDir : Option PathBuf
  currentDir : Except String PathBuf
  toml : TomlCrate
  readId : Nat → ProcId
  upgradeId : OddBoxConfigVersion → Nat → ProcId

/-! ## Resolving a process -/

/-- `str::replace`, with the characters of an occurrence still to be passed over. -/
def replaceChars (pattern replacement : List Char) : Nat → List Char → List Char
  | _, [] => []
  | skip + 1, _ :: chars => replaceChars pattern replacement skip chars
  | 0, c :: chars =>
    if pattern.isPrefixOf (c :: chars) then
      replacement ++ replaceChars pattern replacement (pattern.length - 1) chars
    else c :: replaceChars pattern replacement 0 chars

def replace (text pattern replacement : String) : String :=
  String.ofList (replaceChars pattern.toList replacement.toList 0 text.toList)

/-- The fields of a resolved process, after those that `set_active_port` reads. -/
structure ResolvedProcess extends FullyResolvedInProcessSiteConfig where
  excludedFromStartAll : Bool
  terminateTls : Option Bool
  hints : Option (List Hint)
  dir : Option String
  bin : String
  args : Option (List String)
  logFormat : Option LogFormat
  logLevel : Option LogLevel
  autoStart : Option Bool
  https : Option Bool
  captureSubdomains : Option Bool
  forwardSubdomains : Option Bool
  deriving DecidableEq, Repr

section Resolving

variable (environment : Environment) (config : OddBoxV3Config)

def resolveHome : Except String String :=
  match environment.homeDir with
  | none => .error "Failed to resolve home directory."
  | some path =>
    match path.toStr with
    | none => .error "Failed to parse home directory."
    | some text => .ok text

def OddBoxV3Config.getParentPath : Except String String :=
  match config.path with
  | none => .error "Failed to resolve path."
  | some path =>
    match environment.parent path with
    | none => .error "Failed to resolve $cfg_dir"
    | some directory =>
      if directory.toStr.getD "" = "" then .ok "." else .ok (directory.toStr.getD "")

def OddBoxV3Config.resolveRoot (home cfgDir : String) : Except String String :=
  match config.rootDir with
  | none =>
    match environment.currentDir with
    | .error e => .error e
    | .ok path => .ok path.display
  | some rd =>
    if contains rd "$root_dir" then
      .error "it is clearly not a good idea to use $root_dir in the configuration of root dir..."
    else
      let replaced := replace (replace rd "$cfg_dir" cfgDir) "~" home
      match environment.canonicalize replaced with
      | .error e => .error ("root_dir item in configuration (" ++ rd ++
          ") resolved to this: '" ++ replaced ++ "' - error: " ++ e)
      | .ok path => .ok (replace path.display "\\\\?\\" "")

/-- The texts that stand for `~`, `$cfg_dir` and `$root_dir`, in this order. -/
def OddBoxV3Config.resolveVariables : Except String (String × String × String) := do
  let home ← resolveHome environment
  let cfgDir ← config.getParentPath environment
  let rootDir ← config.resolveRoot environment home cfgDir
  pure (home, cfgDir, rootDir)

def withVars (values : String × String × String) (text : String) : String :=
  replace (replace (replace text "$root_dir" values.2.2) "$cfg_dir" values.2.1) "~"
    values.1

def InProcessSiteConfig.resolved (values : String × String × String)
    (proc : InProcessSiteConfig) : ResolvedProcess :=
  { logLevel := proc.logLevel
    excludedFromStartAll := proc.excludeFromStartAll.getD false
    procId := proc.procId
    activePort := proc.activePort
    terminateTls := proc.terminateTls
    hints := proc.hints
    hostName := proc.hostName
    dir := proc.dir.map (withVars values)
    bin := withVars values proc.bin
    args := proc.args.map fun args => args.map (withVars values)
    envVars := proc.envVars
    logFormat := proc.logFormat
    autoStart := proc.autoStart
    port := proc.port
    https := proc.https
    captureSubdomains := proc.captureSubdomains
    forwardSubdomains := proc.forwardSubdomains }

def OddBoxV3Config.resolveProcessConfiguration (proc : InProcessSiteConfig) :
    Except String ResolvedProcess := do
  let values ← config.resolveVariables environment
  pure (proc.resolved values)

end Resolving

/-! ## The running program -/

structure ConfigWrapper where
  internalConfiguration : OddBoxV3Config
  remoteSites : String → Option RemoteSiteConfig
  hostedProcesses : String → Option InProcessSiteConfig
  dockerContainers : List (String × ContainerProxyTarget)
  wrapperCacheMapIsDirty : Bool
  internalVersion : Nat

/-- A map with an entry for every item; of two items with one key the last stays. -/
def byHostName {α : Type} (hostName : α → String) (items : List α) : String → Option α :=
  items.foldl (fun map item => Function.update map (hostName item) (some item)) fun _ => none

def ConfigWrapper.new (config : OddBoxV3Config) : ConfigWrapper where
  internalConfiguration := config
  remoteSites := byHostName RemoteSiteConfig.hostName config.remoteTargets
  hostedProcesses := byHostName InProcessSiteConfig.hostName config.sites
  dockerContainers := []
  wrapperCacheMapIsDirty := false
  internalVersion := 0

def ConfigWrapper.reloadDashmaps (self : ConfigWrapper) : ConfigWrapper :=
  { self with
    remoteSites :=
      byHostName RemoteSiteConfig.hostName self.internalConfiguration.remoteTargets
    hostedProcesses :=
      byHostName InProcessSiteConfig.hostName self.internalConfiguration.sites
    wrapperCacheMapIsDirty := false }

inductive ProcState where
  | faulty
  | stopped
  | starting
  | stopping
  | running
  | remote
  | dirServer
  | docker
  deriving DecidableEq, Repr

/-- The loop of a hosted process, as `PROC_THREAD_MAP` has it. -/
structure ProcInfo where
  config : ResolvedProcess
  markedForRemoval : Bool
  deriving DecidableEq, Repr

/-- The loops stand in the order in which their map is iterated. -/
structure Program where
  config : ConfigWrapper
  siteStatusMap : String → Option ProcState
  procThreadMap : List ProcInfo

/-! ## Reading the new configuration -/

inductive ReloadError where
  | message (text : String)
  /-- The process that no loop can be started for. -/
  | unresolved (process : InProcessSiteConfig) (cause : String)
  deriving DecidableEq, Repr

inductive ReloadResult where
  | reloaded
  /-- The exit for a configuration that has not changed. -/
  | unchanged
  | error (e : ReloadError)
  | panicked (text : String)
  deriving DecidableEq, Repr

/-- Why the reload ends before it compares the configurations. -/
inductive ReadFailure where
  | error (text : String)
  | panicked (text : String)
  deriving DecidableEq, Repr

def failing {α : Type} : Except String α → Except ReadFailure α
  | .ok a => .ok a
  | .error text => .error (.error text)

def ConfigWrapper.setDiskPath (environment : Environment) (self : ConfigWrapper)
    (cfgPath : String) : Except ReadFailure ConfigWrapper := do
  let path ← failing (environment.canonicalize cfgPath)
  pure { self with
    internalConfiguration :=
      { self.internalConfiguration with path := some (path.toStr.getD "") } }

/-- The new configuration, with its path, once it is read, upgraded and checked. -/
def readNewConfiguration (environment : Environment) (active : ConfigWrapper) :
    Except ReadFailure ConfigWrapper := do
  let path ← failing (active.internalConfiguration.path.elim
    (.error "cfg path not valid") .ok)
  let contents ← failing (environment.readFile path)
  let configuration ← failing
    (AnyOddBoxConfig.parse environment.readId environment.toml contents)
  match configuration.tryUpgradeToLatestVersion environment.upgradeId with
  | .error _ => .error (.panicked "configuration upgrade failed. this is a bug in odd-box")
  | .ok (latest, _, _) =>
    let new := { ConfigWrapper.new latest with internalVersion := active.internalVersion + 1 }
    failing new.internalConfiguration.isValid
    new.setDiskPath environment path

/-! ## Changed processes -/

/-- A process of the new configuration, after it has been compared with its loop. -/
structure Compared where
  /-- With the identifier and the port of its loop. -/
  process : InProcessSiteConfig
  modified : Bool
  abort : Bool

def compareProcess (environment : Environment) (new : OddBoxV3Config) (loops : List ProcInfo)
    (newProc : InProcessSiteConfig) : Compared :=
  match loops.find? fun info => info.config.hostName == newProc.hostName with
  | none => ⟨newProc, true, false⟩
  | some existing =>
    match new.resolveProcessConfiguration environment newProc with
    | .error _ => ⟨newProc, false, true⟩
    | .ok resolved =>
      let resolved := { resolved with
        procId := existing.config.procId
        activePort := existing.config.activePort }
      let newProc := { newProc with
        activePort := existing.config.activePort
        procId := existing.config.procId }
      ⟨newProc, existing.config != resolved, false⟩

def markLoop (modified sites : List InProcessSiteConfig) (info : ProcInfo) : ProcInfo :=
  if modified.any fun process => process.hostName == info.config.hostName then
    { info with markedForRemoval := true }
  else if sites.any fun process => process.hostName == info.config.hostName then info
  else { info with markedForRemoval := true }

/-- What a marked loop does to the status of its site before it leaves: it removes it,
unless its process was running. -/
def leave (isRunning : ProcInfo → Bool) (statuses : String → Option ProcState)
    (info : ProcInfo) : String → Option ProcState :=
  Function.update statuses info.config.hostName
    (if isRunning info then some .stopping else none)

/-- Whether the status of a site is kept, given the new configuration. -/
def retainStatus (remotes : List RemoteSiteConfig) (dirs : List DirServer)
    (hostedProcesses : String → Option InProcessSiteConfig) (hostName : String) :
    ProcState → Bool
  | .remote => remotes.any fun site => site.hostName == hostName
  | .dirServer => dirs.any fun s => s.hostName == hostName
  | _ => (hostedProcesses hostName).isSome

def insertStatuses (state : ProcState) (hostNames : List String)
    (statuses : String → Option ProcState) : String → Option ProcState :=
  hostNames.foldl (fun map name => Function.update map name (some state)) statuses

def newStatuses (new : ConfigWrapper) (statuses : String → Option ProcState) :
    String → Option ProcState :=
  let remotes := new.internalConfiguration.remoteTargets
  let dirs := new.internalConfiguration.dirServers
  let retained := fun hostName => (statuses hostName).filter
    (retainStatus remotes dirs new.hostedProcesses hostName)
  insertStatuses .dirServer (dirs.map DirServer.hostName)
    (insertStatuses .remote (remotes.map RemoteSiteConfig.hostName) retained)

/-- The entry of a started loop replaces one with the same identifier. -/
def startLoop (loops : List ProcInfo) (process : ResolvedProcess) : List ProcInfo :=
  loops.filter (fun info => info.config.procId != process.procId) ++ [⟨process, false⟩]

/-- Starts the loops of the processes, up to the first that cannot be resolved. -/
def startLoops (environment : Environment) (new : OddBoxV3Config) :
    List ProcInfo → List InProcessSiteConfig → List ProcInfo × Option ReloadError
  | loops, [] => (loops, none)
  | loops, process :: processes =>
    match new.resolveProcessConfiguration environment process with
    | .error e => (loops, some (.unresolved process e))
    | .ok resolved => startLoops environment new (startLoop loops resolved) processes

/-! ## The reload -/

section

-- the system before the marked loops have left, and after
variable (before after : Environment) (isRunning : ProcInfo → Bool)

def Program.compareAll (program : Program) (new : OddBoxV3Config) : List Compared :=
  new.sites.map (compareProcess before new program.procThreadMap)

/-- The processes to start for the new configuration. -/
def Program.toStart (program : Program) (new : OddBoxV3Config) : List InProcessSiteConfig :=
  ((program.compareAll before new).filter Compared.modified).map Compared.process

/-- The new configuration, with its processes as they were compared. -/
def Program.compared (program : Program) (new : ConfigWrapper) : ConfigWrapper :=
  { new with
    internalConfiguration := { new.internalConfiguration with
      hostedProcess := some
        ((program.compareAll before new.internalConfiguration).map Compared.process) }
    }.reloadDashmaps

/-- The loops of the program, marked where they have to leave. -/
def Program.marked (program : Program) (new : ConfigWrapper) : List ProcInfo :=
  program.procThreadMap.map (markLoop (program.toStart before new.internalConfiguration)
    (program.compared before new).internalConfiguration.sites)

/-- The part of `reload_from_disk` after the comparison of the configurations. -/
def Program.adopt (program : Program) (new : ConfigWrapper) : ReloadResult × Program :=
  if (program.compareAll before new.internalConfiguration).any Compared.abort then
    (.error (.message "Failed to resolve process configuration for some processes"), program)
  else
    let marked := program.marked before new
    -- the loops that are marked leave, and the reload waits for that
    let remaining := marked.filter fun info => !info.markedForRemoval
    let left := (marked.filter ProcInfo.markedForRemoval).foldl (leave isRunning)
      program.siteStatusMap
    let new' := program.compared before new
    let statuses := newStatuses new' left
    match startLoops after new'.internalConfiguration remaining
        (program.toStart before new.internalConfiguration) with
    | (loops, some e) =>
      (.error e, { program with siteStatusMap := statuses, procThreadMap := loops })
    | (loops, none) =>
      (.reloaded, { config := new', siteStatusMap := statuses, procThreadMap := loops })

def Program.reloadFromDisk (program : Program) : ReloadResult × Program :=
  match readNewConfiguration before program.config with
  | .error (.error text) => (.error (.message text), program)
  | .error (.panicked text) => (.panicked text, program)
  | .ok new =>
    if new.internalConfiguration.eq program.config.internalConfiguration then
      (.unchanged, program)
    else program.adopt before after isRunning new

end

end OddBox.Configuration

import Mathlib
import OddBox.Configuration.Reload
import OddBox.Configuration.RoundTrip
import OddBox.Configuration.VersionDispatch

/-!
Which edits the reload takes for no change: the comparison forgets some fields of the
sites, and takes two absent ones for defaults that the document may have changed.
-/

namespace OddBox.Configuration

/-- What is read of a file of version 3 that passes all checks. -/
theorem readNewConfiguration_v3 {environment : Environment} {active : ConfigWrapper}
    {path contents : String} {config : OddBoxV3Config} {canonical : PathBuf}
    (hpath : active.internalConfiguration.path = some path)
    (hfile : environment.readFile path = .ok contents)
    (hparse : AnyOddBoxConfig.parse environment.readId environment.toml contents =
      .ok (.v3 config))
    (hvalid : config.isValid = .ok ())
    (hcanonical : environment.canonicalize path = .ok canonical) :
    readNewConfiguration environment active = .ok
      { ConfigWrapper.new config with
        internalVersion := active.internalVersion + 1
        internalConfiguration := { config with path := some (canonical.toStr.getD "") } } := by
  rw [readNewConfiguration, hpath]
  simp only [Option.elim, failing, hfile, hparse, AnyOddBoxConfig.tryUpgradeToLatestVersion,
    bind, Except.bind]
  rw [show (ConfigWrapper.new config).internalConfiguration = config from rfl, hvalid]
  simp only [ConfigWrapper.setDiskPath, failing, hcanonical, bind, Except.bind]
  rfl

section

variable (before after : Environment) (isRunning : ProcInfo → Bool)

/-- The exit for no change is taken exactly when the comparison finds none. -/
theorem reload_unchanged_iff {program : Program} {new : ConfigWrapper}
    (hread : readNewConfiguration before program.config = .ok new) :
    (program.reloadFromDisk before after isRunning).1 = .unchanged ↔
      new.internalConfiguration.eq program.config.internalConfiguration = true := by
  rw [Program.reloadFromDisk, hread]
  dsimp only
  split_ifs with heq
  · exact iff_of_true rfl heq
  · refine iff_of_false ?_ heq
    rw [Program.adopt]
    dsimp only
    split_ifs
    · simp
    · split <;> simp

/-- A new configuration with other settings is never taken for the running one, exactly
when two configurations that compare as equal also agree in what is not compared. -/
theorem edit_detected_iff {program : Program} {new : ConfigWrapper}
    (hread : readNewConfiguration before program.config = .ok new) :
    (new.internalConfiguration.settings ≠ program.config.internalConfiguration.settings →
        (program.reloadFromDisk before after isRunning).1 ≠ .unchanged) ↔
      (new.internalConfiguration.eq program.config.internalConfiguration = true →
        new.internalConfiguration.SitesAlike program.config.internalConfiguration) := by
  rw [ne_eq, ne_eq, not_imp_not, reload_unchanged_iff before after isRunning hread]
  constructor
  · intro h heq
    exact (config_settings_iff heq).mp (h heq)
  · intro h heq
    exact (config_settings_iff heq).mpr (h heq)

end

/-! ## Two edits -/

/-- A system with one configuration file, where every path is canonical. -/
def oneFile (contents : String) : Environment where
  readFile _ := .ok contents
  canonicalize path := .ok ⟨some path, path⟩
  parent _ := some ⟨some "/srv", "/srv"⟩
  homeDir := some ⟨some "/root", "/root"⟩
  currentDir := .ok ⟨some "/srv", "/srv"⟩
  toml := readerCrate
  readId _ := ⟨"id"⟩
  upgradeId _ _ := ⟨"id"⟩

def redirectingFile : String :=
  "version = \"V3\"\n[[remote_target]]\nhost_name = \"a\"\nbackends = []\nredirect_to_https = true\n"

/-- What the file says, but for the redirection. -/
def oneRemote (redirectToHttps : Option Bool) : OddBoxV3Config where
  path := some "/srv/odd-box.toml"
  version := .v3
  rootDir := none
  logLevel := some .info
  alpn := some true
  portRangeStart := 4200
  defaultLogFormat := .standard
  ip := none
  httpPort := some 8080
  tlsPort := some 4343
  autoStart := some true
  envVars := []
  remoteTarget := some [{
    hostName := "a"
    backends := []
    captureSubdomains := none
    terminateTls := none
    terminateHttp := none
    forwardSubdomains := none
    enableLetsEncrypt := none
    keepOriginalHostHeader := none
    redirectToHttps := redirectToHttps }]
  hostedProcess := none
  dirServer := none
  letsEncryptAccountEmail := none
  oddBoxUrl := none
  oddBoxPassword := none
  useLoopbackIpForProcs := some true

/-- The program with this configuration, and nothing running. -/
def runningWith (config : OddBoxV3Config) : Program where
  config := ConfigWrapper.new config
  siteStatusMap _ := none
  procThreadMap := []

set_option maxRecDepth 20000 in
theorem redirectingFile_parse : readerCrate.parse redirectingFile =
    some [("version", .string "V3"), ("remote_target", .array [.table
      [("host_name", .string "a"), ("backends", .array []),
        ("redirect_to_https", .boolean true)]])] := rfl

theorem redirectingFile_read {program : Program}
    (hpath : program.config.internalConfiguration.path = some "/srv/odd-box.toml") :
    readNewConfiguration (oneFile redirectingFile) program.config = .ok
      { ConfigWrapper.new (oneRemote (some true)) with
        internalVersion := program.config.internalVersion + 1 } := by
  have hparse : AnyOddBoxConfig.parse (fun _ => ⟨"id"⟩) readerCrate redirectingFile =
      .ok (.v3 { oneRemote (some true) with path := none }) := by
    rw [parse_v3_iff, fromStr_of_parse redirectingFile_parse]
    rfl
  exact @readNewConfiguration_v3 (oneFile redirectingFile) program.config _ redirectingFile _
    ⟨some "/srv/odd-box.toml", "/srv/odd-box.toml"⟩ hpath rfl hparse rfl rfl

/-- The file is read as a change of a configuration that also has another setting of `alpn`. -/
theorem alpn_detected :
    (oneRemote (some true)).settings ≠ { oneRemote none with alpn := some false }.settings ∧
      ((runningWith { oneRemote none with alpn := some false }).reloadFromDisk
        (oneFile redirectingFile) (oneFile redirectingFile) fun _ => false).1 ≠ .unchanged := by
  refine ⟨by decide, ?_⟩
  apply (edit_detected_iff _ _ _
    (@redirectingFile_read (runningWith { oneRemote none with alpn := some false }) rfl)).mpr
  · intro heq
    exact absurd heq (by decide)
  · decide

/-- A redirection that is added to the file is not noticed. -/
theorem redirection_ignored :
    ∃ new, readNewConfiguration (oneFile redirectingFile) (runningWith (oneRemote none)).config =
        .ok new ∧
      new.internalConfiguration.settings ≠ (oneRemote none).settings ∧
      ((runningWith (oneRemote none)).reloadFromDisk (oneFile redirectingFile)
        (oneFile redirectingFile) fun _ => false).1 = .unchanged := by
  have hread := @redirectingFile_read (runningWith (oneRemote none)) rfl
  refine ⟨_, hread, ?_, ?_⟩
  · decide
  · rw [reload_unchanged_iff _ _ _ hread]
    decide

end OddBox.Configuration

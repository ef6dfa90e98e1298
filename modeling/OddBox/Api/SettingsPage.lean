import OddBox.Api.FileMonitor
import OddBox.Configuration.ReloadAtomicity

/-!
The settings page: what `get_settings_handler` shows after settings were saved. On the way are
the text of the file, the monitor that notices it, and the reload.
-/

namespace OddBox.Api

open OddBox.Configuration

structure OddBoxConfigGlobalPart extends SaveGlobalConfig where
  path : String

def getSettingsHandler (config : OddBoxV3Config) : OddBoxConfigGlobalPart where
  oddBoxUrl := config.oddBoxUrl.getD ""
  oddBoxPassword := config.oddBoxPassword.getD ""
  letsEncryptAccountEmail := config.letsEncryptAccountEmail.getD ""
  httpPort := config.httpPort.getD 8080
  tlsPort := config.tlsPort.getD 4343
  portRangeStart := config.portRangeStart
  alpn := config.alpn.getD true
  autoStart := config.autoStart.getD true
  defaultLogFormat := config.defaultLogFormat
  envVars := config.envVars
  ip := (config.ip.getD (.v4 127 0 0 1)).fmt
  path := config.path.getD ""
  logLevel := config.logLevel.getD .info
  rootDir := config.rootDir.getD ""

/-- The settings as they come back: an address in its usual form, and no directory as the home
directory. -/
def SaveGlobalConfig.shown (self : SaveGlobalConfig) (ip : IpAddr) : SaveGlobalConfig :=
  { self with
    ip := ip.fmt
    rootDir := if self.rootDir.toList.all isWhitespace then "~" else self.rootDir }

/-! ## What is shown -/

theorem nonEmpty_getD (text : String) : (nonEmpty text).getD "" = text := by
  unfold nonEmpty
  split
  · next hempty => exact hempty.symm
  · rfl

/-- What is shown of settings that were written and read again. -/
theorem getSettings_readBack (newId : Nat → ProcId) (config : OddBoxV3Config)
    (new : SaveGlobalConfig) (ip : IpAddr) (path : Option String) :
    (getSettingsHandler { (withSettings config new ip).readBack newId with
      path := path }).toSaveGlobalConfig = new.shown ip := by
  have hroot : ((some ((if new.rootDir.toList.all isWhitespace then none
      else some new.rootDir : Option String).getD "~")).getD "" : String) =
        if new.rootDir.toList.all isWhitespace then "~" else new.rootDir := by
    split <;> rfl
  simp only [getSettingsHandler, OddBoxV3Config.readBack, withSettings, nonEmpty_getD,
    Option.getD_some, SaveGlobalConfig.shown] at hroot ⊢
  rw [hroot]

/-- The comparison with the loops changes nothing that is shown. -/
theorem getSettings_compared (environment : Environment) (program : Program)
    (new : ConfigWrapper) :
    getSettingsHandler (program.compared environment new).internalConfiguration =
      getSettingsHandler new.internalConfiguration :=
  rfl

theorem getSettings_eq {a b : OddBoxV3Config} (h : a.eq b = true) :
    getSettingsHandler a = getSettingsHandler b := by
  simp only [OddBoxV3Config.eq, Bool.and_eq_true, beq_iff_eq, and_assoc] at h
  obtain ⟨hpath, -, hroot, hlevel, halpn, hrange, hformat, hip, hhttp, htls, hstart, henv,
    -, -, -, hemail, hurl, hpassword, -⟩ := h
  simp only [getSettingsHandler, hpath, hroot, hlevel, halpn, hrange, hformat, hip, hhttp, htls,
    hstart, henv, hemail, hurl, hpassword]

section

variable {toml : TomlCrate} (htoml : toml.ReadsToml) {printable : Char → Bool}
include htoml

/-- The text of a configuration is read as what comes back of it. -/
theorem readNewConfiguration_reading {config : OddBoxV3Config}
    (hwritable : Writable printable config) {before : Environment} (hcrate : before.toml = toml)
    {active new : ConfigWrapper}
    (h : readNewConfiguration (reading before (config.toString printable)) active = .ok new) :
    ∃ path, new.internalConfiguration = { config.readBack before.readId with path := path } := by
  have hparse := hwritable.parsed before.readId htoml
  obtain ⟨_, contents, configuration, latest, _, _, path, -, hcontents, hconfiguration, hlatest,
    -, rfl⟩ := readNewConfiguration_built h
  cases hcontents
  change AnyOddBoxConfig.parse before.readId before.toml (config.toString printable) = _
    at hconfiguration
  rw [hcrate, hparse] at hconfiguration
  cases hconfiguration
  cases hlatest
  exact ⟨path, rfl⟩

theorem Accepted.shown {config running : OddBoxV3Config} {new : SaveGlobalConfig} {ip : IpAddr}
    (hwritable : Writable printable (withSettings config new ip))
    (h : Accepted toml ((withSettings config new ip).toString printable) running) :
    (getSettingsHandler running).toSaveGlobalConfig = new.shown ip := by
  cases h with
  | adopted hcrate hread hadopted =>
    obtain ⟨path, hnew⟩ := readNewConfiguration_reading htoml hwritable hcrate hread
    rw [hadopted, getSettings_compared, hnew, getSettings_readBack]
  | unchanged hcrate hread hsame =>
    obtain ⟨path, hnew⟩ := readNewConfiguration_reading htoml hwritable hcrate hread
    rw [← getSettings_eq hsame, hnew, getSettings_readBack]

end

/-! ## Saving -/

namespace Monitored

/-- A request for another port. -/
def newPort : SaveGlobalConfig where
  letsEncryptAccountEmail := ""
  oddBoxUrl := ""
  oddBoxPassword := ""
  rootDir := ""
  logLevel := .info
  alpn := true
  portRangeStart := 4200
  defaultLogFormat := .standard
  ip := (IpAddr.v4 127 0 0 1).fmt
  httpPort := 8081
  tlsPort := 4343
  autoStart := true
  envVars := []

end Monitored

end OddBox.Api

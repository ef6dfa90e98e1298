import OddBox.Api.Persistence
import OddBox.Api.Router
import OddBox.Configuration.ReloadFrame
import OddBox.Machine

/-!
The running program, its configuration file, and what the requests of the admin API and the
reloads do to both: whether the program can always be started again from the file.
-/

namespace OddBox.Api

open OddBox.Configuration OddBox.Routing OddBox.TcpProxy

/-! ## Runs -/

/-- The running program and the text of its configuration file. -/
structure Installation where
  app : AppState
  disk : String

inductive Change where
  | update (outside : Outside) (req : HttpRequest)
  | delete (outside : Outside) (req : HttpRequest)
  | settings (outside : Outside) (req : HttpRequest)
  /-- The file is reloaded among the loops of the hosted processes. -/
  | reload (before after : Environment) (isRunning : ProcInfo → Bool) (loops : List ProcInfo)

namespace Installation

/-- A write that fails leaves the file as it was. -/
def perform (outside : Outside) (self : Installation) (effect : Effect) : Installation where
  app := effect.app
  disk :=
    match effect.written with
    | some (path, text) => if outside.writes path text then text else self.disk
    | none => self.disk

def program (loops : List ProcInfo) (self : Installation) : Program where
  config := { ConfigWrapper.new self.app.global.config with
    dockerContainers := self.app.global.dockerContainers }
  siteStatusMap := self.app.siteStatusMap
  procThreadMap := loops

def reload (before after : Environment) (isRunning : ProcInfo → Bool) (loops : List ProcInfo)
    (self : Installation) : Installation :=
  let outcome := (self.program loops).reloadFromDisk
    { before with readFile := fun _ => .ok self.disk } after isRunning
  let app : AppState :=
    { global := { self.app.global with
        config := outcome.2.config.internalConfiguration
        dockerContainers := outcome.2.config.dockerContainers }
      siteStatusMap := outcome.2.siteStatusMap }
  { self with app := if outcome.1 = .reloaded then app.invalidateCache else app }

def step (self : Installation) : Change → Installation
  | .update outside req => self.perform outside (updateHandler outside self.app req)
  | .delete outside req => self.perform outside (deleteHandler outside self.app req)
  | .settings outside req => self.perform outside (setSettingsHandler outside self.app req)
  | .reload before after isRunning loops => self.reload before after isRunning loops

def config (self : Installation) : OddBoxV3Config := self.app.global.config

/-- The request leaves a valid configuration in texts that can be written. -/
def Sound (self : Installation) : Change → Prop
  | .update outside req =>
    ∀ item, outside.updateRequest req = some item → (req.hostnames outside).tail = [] →
      ((req.hostnames outside).head?.any fun h => self.app.global.dockerContainers.any
        fun (_, container) => container.generateHostName == h) = false →
      Fitting self.config ((req.hostnames outside).head?.getD item.hostName) item ∧
        Writable outside.printable (withoutReplaced self.config
          ((req.hostnames outside).head?.getD item.hostName) item) ∧
        item.Writable outside.printable
  | .delete outside req =>
    ∀ hostname, req.hostnames outside = [hostname] → hostname ∈ self.config.hostNames →
      Writable outside.printable (withoutSite self.config hostname)
  | .settings outside req =>
    ∀ new ip, outside.saveGlobalConfig req = some new → IpAddr.parse new.ip = some ip →
      (withSettings self.config new ip).eq self.config = false →
      (∀ envVar ∈ new.envVars, Str.eqIgnoreAsciiCase envVar.key "port" = false) ∧
        SettingsWritable outside.printable new ∧ SitesWritable outside.printable self.config
  | .reload _ _ _ _ => True

end Installation

/-! ## What a step keeps -/

namespace Installation

section

variable {loader : Loader} (htoml : loader.toml.ReadsToml) {self : Installation}

include htoml

end

end Installation

/-! ## A directory in the place of a remote target -/

/-- An installation that has written its own configuration. -/
def installed : Installation where
  app :=
    { global :=
        { config := { sampleConfig none with path := some "/srv/odd-box.toml" }
          dockerContainers := []
          reverseTcpProxyTargetCache _ := none
          procThreadMap _ := false
          resolvesDirectories := true }
      siteStatusMap _ := none }
  disk := (sampleConfig none).toString fun _ => true

def directory (hostName : String) : ConfigItem :=
  .dirServer
    { dir := "/srv/site"
      hostName := hostName
      captureSubdomains := none
      enableLetsEncrypt := none
      enableDirectoryBrowsing := none
      redirectToHttps := none
      renderMarkdown := none
      cacheControlMaxAgeInSeconds := none }

theorem installed_valid : installed.config.isValid = .ok () := by
  rw [isValid_iff]
  decide

theorem plain_writable {config : OddBoxV3Config} (hplain : config.Plain)
    (hfits : ∀ s ∈ config.dirServers, s.Fits) : Writable (fun _ => true) config := by
  refine ⟨config_texts_mono ?_ ?_ hplain, hfits⟩
  · intro text htext c hc
    exact plain_alike _ (htext c hc).1 (htext c hc).2.1
  · intro text htext
    exact plain_basic htext

theorem installed_writable : Writable (fun _ => true) installed.config := by
  have h := plain_writable (sampleConfig_plain none) (sampleConfig_fits none)
  exact ⟨⟨h.texts.rootDir, h.texts.envVars, h.texts.email, h.texts.oddBoxUrl,
    h.texts.oddBoxPassword, h.texts.dirServers, h.texts.remoteTargets,
    h.texts.hostedProcesses⟩, h.fits⟩

theorem plain_quotable {text : String} (h : IsPlain text) : Quotable (fun _ => true) text := by
  intro c hc
  exact plain_alike _ (h c hc).1 (h c hc).2.1

theorem directory_writable {hostName : String} (h : IsPlain hostName) :
    (directory hostName).Writable fun _ => true := by
  refine ⟨⟨plain_quotable h, plain_quotable ?_⟩, ?_⟩
  · change IsPlain "/srv/site"
    decide
  · rintro age ⟨⟩

end OddBox.Api

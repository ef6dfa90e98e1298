import Mathlib
import OddBox.Configuration.Parse
import OddBox.Configuration.ReadBack
import OddBox.Configuration.Settings

/-!
Writing a configuration and parsing the text again: which settings come back.
-/

namespace OddBox.Configuration

open Toml

/-! ## What is kept -/

def RemoteSiteConfig.Kept (site : RemoteSiteConfig) : Prop :=
  site.terminateHttp ≠ some true ∧ site.keepOriginalHostHeader ≠ some true

def InProcessSiteConfig.Kept (defaultLogFormat : LogFormat) (process : InProcessSiteConfig) :
    Prop :=
  process.terminateHttp ≠ some true ∧ process.forwardSubdomains ≠ some true ∧
    process.logFormat.getD defaultLogFormat = defaultLogFormat

/-- The settings that are lost on the way are not made, those whose absence is
written as another value are made, and the ages are TOML integers. -/
structure OddBoxV3Config.Kept (config : OddBoxV3Config) : Prop where
  rootDir : config.rootDir ≠ none
  alpn : config.alpn ≠ none
  autoStart : config.autoStart ≠ none
  loopback : config.useLoopbackIpForProcs ≠ some false
  remoteTargets : ∀ site ∈ config.remoteTarget.getD [], site.Kept
  hostedProcesses : ∀ process ∈ config.hostedProcess.getD [],
    process.Kept config.defaultLogFormat
  dirServers : ∀ s ∈ config.dirServer.getD [], s.Fits

theorem flag_trueOnly (option : Option Bool) : flag (trueOnly option) = flag option := by
  match option with
  | some true => rfl
  | some false => rfl
  | none => rfl

theorem dirServer_settings (s : DirServer) : s.readBack.settings = s.settings := by
  simp only [DirServer.settings, DirServer.readBack, flag_trueOnly]

theorem backend_settings (b : Backend) : b.readBack.settings = b.settings := by
  simp only [Backend.settings, Backend.readBack, flag_trueOnly]

theorem remoteSite_settings (site : RemoteSiteConfig) :
    site.readBack.settings = site.settings ↔ site.Kept := by
  have hbackends : (site.backends.map Backend.readBack).map Backend.settings =
      site.backends.map Backend.settings := by
    rw [List.map_map]
    exact List.map_congr_left fun b _ => backend_settings b
  simp only [RemoteSiteConfig.settings, RemoteSiteConfig.readBack, hbackends, flag_trueOnly,
    RemoteSiteConfig.mk.injEq, true_and, and_true, flag_none_iff, RemoteSiteConfig.Kept]

theorem process_settings (procId : ProcId) (defaults : Defaults)
    (process : InProcessSiteConfig) :
    (process.readBack procId).settings defaults = process.settings defaults ↔
      process.Kept defaults.logFormat := by
  simp only [InProcessSiteConfig.settings, InProcessSiteConfig.readBack, flag_trueOnly,
    InProcessSiteConfig.mk.injEq, true_and, and_true, flag_none_iff, Option.getD_none,
    Option.some.injEq, InProcessSiteConfig.Kept, entries, Option.getD_some]
  constructor
  · rintro ⟨hhttp, hformat, hforward⟩
    exact ⟨hhttp, hforward, hformat.symm⟩
  · rintro ⟨hhttp, hforward, hformat⟩
    exact ⟨hhttp, hformat.symm, hforward⟩

theorem nonEmpty_getD {α β : Type} (f : List α → List β) (hnil : f [] = []) (items : List α) :
    ((nonEmpty items).map f).getD [] = f items := by
  cases items with
  | nil => exact hnil.symm
  | cons x items => rfl

/-- The identifiers are no settings, so the order of their generation does not matter. -/
theorem readBackProcesses_settings (newId : Nat → ProcId) (defaults : Defaults)
    (processes : List InProcessSiteConfig) :
    (readBackProcesses newId processes).map (InProcessSiteConfig.settings defaults) =
      processes.map fun process => (process.readBack ⟨""⟩).settings defaults := by
  rw [readBackProcesses]
  refine map_numbered (fun process n => InProcessSiteConfig.readBack (newId n) process) ?_ processes
  intro process n
  rfl

theorem readBack_settings (newId : Nat → ProcId) (config : OddBoxV3Config)
    (hfits : ∀ s ∈ config.dirServer.getD [], s.Fits) :
    (config.readBack newId).settings = config.settings ↔ config.Kept := by
  have hdirs : ((config.dirServer.getD []).map DirServer.readBack).map DirServer.settings =
      (config.dirServer.getD []).map DirServer.settings := by
    rw [List.map_map]
    exact List.map_congr_left fun s _ => dirServer_settings s
  have hremotes : ((config.remoteTarget.getD []).map RemoteSiteConfig.readBack).map
      RemoteSiteConfig.settings = (config.remoteTarget.getD []).map RemoteSiteConfig.settings ↔
        ∀ site ∈ config.remoteTarget.getD [], site.Kept := by
    rw [List.map_map, List.map_inj_left]
    exact forall₂_congr fun site _ => remoteSite_settings site
  have hprocesses : (readBackProcesses newId (config.hostedProcess.getD [])).map
      (InProcessSiteConfig.settings config.defaults) = (config.hostedProcess.getD []).map
        (InProcessSiteConfig.settings config.defaults) ↔
        ∀ process ∈ config.hostedProcess.getD [], process.Kept config.defaultLogFormat := by
    rw [readBackProcesses_settings, List.map_inj_left]
    exact forall₂_congr fun process _ => process_settings _ _ process
  have hroot : some (config.rootDir.getD "~") = config.rootDir ↔ config.rootDir ≠ none := by
    match config.rootDir with
    | some dir => simp
    | none => simp
  have halpn : config.alpn.getD false = config.alpn.getD true ↔ config.alpn ≠ none := by
    match config.alpn with
    | some alpn => simp
    | none => simp
  have hloopback : true = config.useLoopbackIpForProcs.getD true ↔
      config.useLoopbackIpForProcs ≠ some false := by
    match config.useLoopbackIpForProcs with
    | some true => decide
    | some false => decide
    | none => decide
  rcases hauto : config.autoStart with _ | auto
  · refine iff_of_false (fun hsettings => ?_) fun hkept => hkept.autoStart hauto
    have hroot := congrArg OddBoxV3Config.autoStart hsettings
    simp only [OddBoxV3Config.settings, OddBoxV3Config.readBack, hauto] at hroot
    contradiction
  · have hdefaults : (config.readBack newId).defaults = config.defaults := by
      simp only [OddBoxV3Config.defaults, OddBoxV3Config.readBack, hauto, Option.getD_some]
    simp only [OddBoxV3Config.settings, hdefaults]
    simp only [OddBoxV3Config.readBack, OddBoxV3Config.mk.injEq, true_and, Option.getD_some,
      Option.some.injEq, nonEmpty_getD _ List.map_nil, nonEmpty_getD (readBackProcesses newId) rfl,
      hdirs, hremotes, hprocesses, hauto, hroot, halpn, hloopback]
    constructor
    · rintro ⟨hroot, halpn, hremote, hprocess, hloopback⟩
      exact ⟨hroot, halpn, by rw [hauto]; simp, hloopback, hremote, hprocess, hfits⟩
    · rintro ⟨hroot, halpn, -, hloopback, hremote, hprocess, -⟩
      exact ⟨hroot, halpn, hremote, hprocess, hloopback⟩

/-! ## The round trip -/

section

/-- What the reader reads, and the numbers it refuses as too large, the crate reads and
refuses alike. -/
structure TomlCrate.ReadsToml (toml : TomlCrate) : Prop where
  reads : ∀ text table, Toml.read text = .ok table → toml.parse text = some table
  overflows : ∀ text, Toml.read text = .error .overflow → toml.parse text = none

variable {toml : TomlCrate} (newId : Nat → ProcId) (printable : Char → Bool)
  {config : OddBoxV3Config}

theorem v3_toString (htoml : toml.ReadsToml) (h : config.Spelled printable)
    (hfits : ∀ s ∈ config.dirServer.getD [], s.Fits) :
    toml.fromStr .v3 (OddBoxV3Config.deserialize newId) (config.toString printable) =
      .ok (config.readBack newId) := by
  have hread := read_toString printable h
  rw [if_pos hfits] at hread
  rw [TomlCrate.fromStr, htoml.reads _ _ hread]
  simp only [Option.bind_eq_bind, Option.bind_some, config_back]

theorem v3_toString_overflow (htoml : toml.ReadsToml) (h : config.Spelled printable)
    (hfits : ¬∀ s ∈ config.dirServer.getD [], s.Fits) :
    toml.fromStr .v3 (OddBoxV3Config.deserialize newId) (config.toString printable) =
      .error (toml.error .v3 (config.toString printable)) := by
  have hread := read_toString printable h
  rw [if_neg hfits] at hread
  rw [TomlCrate.fromStr, htoml.overflows _ hread]
  rfl

theorem parse_v3_iff (toml : TomlCrate) (content : String) (config : OddBoxV3Config) :
    AnyOddBoxConfig.parse newId toml content = .ok (.v3 config) ↔
      toml.fromStr .v3 (OddBoxV3Config.deserialize newId) content = .ok config := by
  unfold AnyOddBoxConfig.parse
  split
  · next found hfound => rw [hfound, Except.ok.injEq, Except.ok.injEq, AnyOddBoxConfig.v3.injEq]
  · next message hmessage =>
    rw [hmessage]
    refine iff_of_false ?_ (by simp)
    split
    · simp
    · split
      · simp
      · split
        · simp
        · split_ifs <;> simp

/-- The written text is parsed as a configuration with the same settings exactly when
none of the settings that get lost is made. -/
theorem written_settings_parsed_iff (htoml : toml.ReadsToml) (h : config.Plain) :
    (∃ parsed, AnyOddBoxConfig.parse newId toml (config.toString printable) = .ok (.v3 parsed) ∧
      parsed.settings = config.settings) ↔ config.Kept := by
  by_cases hfits : ∀ s ∈ config.dirServer.getD [], s.Fits
  · have hv3 := v3_toString newId printable htoml (plain_spelled printable h) hfits
    rw [← readBack_settings newId config hfits]
    constructor
    · rintro ⟨parsed, hparse, hsettings⟩
      rw [parse_v3_iff, hv3, Except.ok.injEq] at hparse
      rw [hparse, hsettings]
    · intro hsettings
      exact ⟨_, (parse_v3_iff newId _ _ _).mpr hv3, hsettings⟩
  · have hv3 := v3_toString_overflow newId printable htoml (plain_spelled printable h) hfits
    refine ⟨?_, fun hkept => absurd hkept.dirServers hfits⟩
    rintro ⟨parsed, hparse, -⟩
    rw [parse_v3_iff, hv3] at hparse
    contradiction

end

/-- The reader as the crate. -/
def readerCrate : TomlCrate where
  parse text := (Toml.read text).toOption
  error version _ := "not a " ++ version.fmt ++ " configuration"

theorem readerCrate_readsToml : readerCrate.ReadsToml where
  reads _ _ h := congrArg Except.toOption h
  overflows _ h := congrArg Except.toOption h

/-- A configuration with one remote site, all of whose written settings are made. -/
def sampleConfig (terminateHttp : Option Bool) : OddBoxV3Config :=
  { path := none
    version := .v3
    rootDir := some "/srv"
    logLevel := some .info
    alpn := some true
    portRangeStart := 4200
    defaultLogFormat := .standard
    ip := some (.v4 0 0 0 0)
    httpPort := some 80
    tlsPort := some 443
    autoStart := some true
    envVars := [⟨"key", "value"⟩]
    remoteTarget := some [{
      hostName := "site.local"
      backends := [⟨"10.0.0.1", 8443, some true, some [.h1, .h2]⟩]
      captureSubdomains := some true
      terminateTls := none
      terminateHttp := terminateHttp
      forwardSubdomains := none
      enableLetsEncrypt := none
      keepOriginalHostHeader := none
      redirectToHttps := some true }]
    hostedProcess := none
    dirServer := some [{
      dir := "/srv/www"
      hostName := "files.local"
      captureSubdomains := none
      enableLetsEncrypt := none
      enableDirectoryBrowsing := some true
      redirectToHttps := none
      renderMarkdown := none
      cacheControlMaxAgeInSeconds := some 3600 }]
    letsEncryptAccountEmail := none
    oddBoxUrl := none
    oddBoxPassword := some "secret"
    useLoopbackIpForProcs := none }

theorem sampleConfig_plain (terminateHttp : Option Bool) : (sampleConfig terminateHttp).Plain where
  rootDir := by
    rintro _ ⟨⟩
    decide
  envVars := by
    intro envVar henvVar
    obtain rfl := List.mem_singleton.mp henvVar
    exact ⟨by decide, by decide⟩
  email := by
    rintro _ ⟨⟩
  oddBoxUrl := by
    rintro _ ⟨⟩
  oddBoxPassword := by
    rintro _ ⟨⟩
    decide
  dirServers := by
    intro s hs
    obtain rfl := List.mem_singleton.mp hs
    exact ⟨by decide, by decide⟩
  remoteTargets := by
    intro site hsite
    obtain rfl := List.mem_singleton.mp hsite
    refine ⟨?_, ?_⟩
    · change IsPlain "site.local"
      decide
    · intro b hb
      obtain rfl := List.mem_singleton.mp hb
      change IsPlain "10.0.0.1"
      decide
  hostedProcesses := by
    intro process hprocess
    contradiction

theorem sampleConfig_fits (terminateHttp : Option Bool) :
    ∀ s ∈ (sampleConfig terminateHttp).dirServer.getD [], s.Fits := by
  intro s hs
  obtain rfl := List.mem_singleton.mp hs
  rintro _ ⟨⟩
  decide

theorem sampleConfig_kept : (sampleConfig none).Kept where
  rootDir := by decide
  alpn := by decide
  autoStart := by decide
  loopback := by decide
  remoteTargets := by
    intro site hsite
    obtain rfl := List.mem_singleton.mp hsite
    exact ⟨by decide, by decide⟩
  hostedProcesses := by
    intro process hprocess
    contradiction
  dirServers := sampleConfig_fits none

theorem sampleConfig_parsed :
    ∃ parsed, AnyOddBoxConfig.parse (fun _ => ⟨"id"⟩) readerCrate
      ((sampleConfig none).toString fun _ => true) = .ok (.v3 parsed) ∧
        parsed.settings = (sampleConfig none).settings :=
  (written_settings_parsed_iff _ _ readerCrate_readsToml (sampleConfig_plain none)).mpr
    sampleConfig_kept

/-- `terminate_http = true` of a remote site is not written. -/
theorem terminateHttp_lost :
    ¬∃ parsed, AnyOddBoxConfig.parse (fun _ => ⟨"id"⟩) readerCrate
      ((sampleConfig (some true)).toString fun _ => true) = .ok (.v3 parsed) ∧
        parsed.settings = (sampleConfig (some true)).settings := by
  rintro ⟨parsed, hparse, hsettings⟩
  have hv3 := v3_toString (fun _ => ⟨"id"⟩) (fun _ => true) readerCrate_readsToml
    (plain_spelled _ (sampleConfig_plain (some true))) (sampleConfig_fits (some true))
  rw [parse_v3_iff, hv3, Except.ok.injEq] at hparse
  rw [← hparse] at hsettings
  revert hsettings
  decide

end OddBox.Configuration

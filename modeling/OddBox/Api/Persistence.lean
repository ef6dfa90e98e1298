import OddBox.Api.Controllers
import OddBox.Configuration.Literals

/-!
The configuration file under the requests of the admin API: each handler changes one part of
the running configuration and writes the result without a check, while what the loader asks
of a file is about all parts together, and about every text that is written.
-/

namespace OddBox.Api

open OddBox.Configuration OddBox.Routing
open OddBox.Toml (NeedsNoEscape)

/-! ## Loading -/

/-- What is used to read the file. -/
structure Loader where
  toml : TomlCrate
  readId : Nat → ProcId
  upgradeId : OddBoxConfigVersion → Nat → ProcId

/-- What the program makes of the text of its file, when it starts and when it reloads. -/
def Loader.load (loader : Loader) (text : String) : Option OddBoxV3Config :=
  match AnyOddBoxConfig.parse loader.readId loader.toml text with
  | .error _ => none
  | .ok configuration =>
    match configuration.tryUpgradeToLatestVersion loader.upgradeId with
    | .error _ => none
    | .ok (latest, _, _) =>
      match latest.isValid with
      | .error _ => none
      | .ok () => some latest

/-- A text that `Debug` writes as TOML reads it. -/
def Quotable (printable : Char → Bool) (text : String) : Prop :=
  ∀ c ∈ text.toList, EscapesAlike printable c

/-- A text that can stand between quotes as it is. -/
def Bare (text : String) : Prop := ∀ c ∈ text.toList, NeedsNoEscape c

/-- TOML has the texts of the configuration as they are written, and its numbers. -/
structure Writable (printable : Char → Bool) (config : OddBoxV3Config) : Prop where
  texts : config.Texts (Quotable printable) Bare
  fits : ∀ s ∈ config.dirServers, s.Fits

/-- A writable configuration is parsed as one of the latest version. -/
theorem Writable.parsed {toml : TomlCrate} {printable : Char → Bool} {config : OddBoxV3Config}
    (h : Writable printable config) (newId : Nat → ProcId) (htoml : toml.ReadsToml) :
    AnyOddBoxConfig.parse newId toml (config.toString printable) =
      .ok (.v3 (config.readBack newId)) := by
  have hdecodes := config_texts_mono (fun text => (decodes_quoted_iff text).mpr)
    (fun text => (Toml.lexes_basic_iff text).mpr) h.texts
  rw [parse_v3_iff]
  exact v3_toString newId printable htoml (decodes_spelled printable hdecodes) h.fits

theorem trueOnly_getD (option : Option Bool) :
    (trueOnly option).getD false = option.getD false := by
  rcases option with _ | _ | _ <;> rfl

theorem readBack_dirServers (newId : Nat → ProcId) (config : OddBoxV3Config) :
    (config.readBack newId).dirServers = config.dirServers.map DirServer.readBack :=
  nonEmpty_getD _ List.map_nil _

theorem readBack_remoteTargets (newId : Nat → ProcId) (config : OddBoxV3Config) :
    (config.readBack newId).remoteTargets = config.remoteTargets.map RemoteSiteConfig.readBack :=
  nonEmpty_getD _ List.map_nil _

theorem readBack_sites (newId : Nat → ProcId) (config : OddBoxV3Config) :
    (config.readBack newId).sites = readBackProcesses newId config.sites :=
  nonEmpty_getD (readBackProcesses newId) rfl _

/-- What is asked of a process does not depend on its identifier. -/
theorem map_readBackProcesses {α : Type} (newId : Nat → ProcId)
    (processes : List InProcessSiteConfig) (view : InProcessSiteConfig → α)
    (hview : ∀ procId process, view (InProcessSiteConfig.readBack procId process) = view process) :
    (readBackProcesses newId processes).map view = processes.map view := by
  rw [readBackProcesses]
  exact map_numbered (fun process n => InProcessSiteConfig.readBack (newId n) process)
    (fun process n => hview (newId n) process) processes

theorem check_readBack (procId : ProcId) (process : InProcessSiteConfig) :
    (InProcessSiteConfig.readBack procId process).check = process.check := by
  simp only [InProcessSiteConfig.check, InProcessSiteConfig.portMismatch, checkLetsEncrypt,
    InProcessSiteConfig.readBack, trueOnly_getD]

theorem remote_check_readBack (site : RemoteSiteConfig) : site.readBack.check = site.check := by
  simp only [RemoteSiteConfig.check, checkLetsEncrypt, RemoteSiteConfig.readBack, trueOnly_getD]

/-- What `is_valid` asks of a remote target. -/
def remoteView (site : RemoteSiteConfig) : String × Except String Unit :=
  (site.hostName, site.check)

/-- What `is_valid` asks of a hosted process. -/
def processView (process : InProcessSiteConfig) :
    String × Option UInt16 × Except String Unit :=
  (process.hostName, process.port, process.check)

theorem configuredPorts_eq (config : OddBoxV3Config) :
    config.configuredPorts.map (·.1) = (config.sites.map processView).filterMap (·.2.1) := by
  rw [OddBoxV3Config.configuredPorts, List.map_filterMap, List.filterMap_map]
  congr 1
  funext process
  simp only [Function.comp_apply, processView, Option.map_map]
  exact Option.map_id'

/-- Configurations that look alike to `is_valid`. -/
theorem isValid_congr {a b : OddBoxV3Config} (henv : a.envVars = b.envVars)
    (hdirs : a.dirServers.map DirServer.hostName = b.dirServers.map DirServer.hostName)
    (hremotes : a.remoteTargets.map remoteView = b.remoteTargets.map remoteView)
    (hsites : a.sites.map processView = b.sites.map processView) :
    a.isValid = .ok () ↔ b.isValid = .ok () := by
  have hremoteNames : a.remoteTargets.map RemoteSiteConfig.hostName =
      b.remoteTargets.map RemoteSiteConfig.hostName := by
    have h := congrArg (List.map Prod.fst) hremotes
    rw [List.map_map, List.map_map] at h
    exact h
  have hsiteNames : a.sites.map InProcessSiteConfig.hostName =
      b.sites.map InProcessSiteConfig.hostName := by
    have h := congrArg (List.map Prod.fst) hsites
    rw [List.map_map, List.map_map] at h
    exact h
  have hnames : a.hostNames = b.hostNames := by
    rw [OddBoxV3Config.hostNames, OddBoxV3Config.hostNames]
    exact congrArg₂ _ (congrArg₂ _ hdirs hremoteNames) hsiteNames
  have hremoteChecks : (∀ target ∈ a.remoteTargets, target.check = .ok ()) ↔
      ∀ target ∈ b.remoteTargets, target.check = .ok () := by
    have h := congrArg (fun views => ∀ view ∈ views, view.2 = .ok ()) hremotes
    simp only [List.forall_mem_map, remoteView] at h
    exact iff_of_eq h
  have hsiteChecks : (∀ process ∈ a.sites, process.check = .ok ()) ↔
      ∀ process ∈ b.sites, process.check = .ok () := by
    have h := congrArg (fun views => ∀ view ∈ views, view.2.2 = .ok ()) hsites
    simp only [List.forall_mem_map, processView] at h
    exact iff_of_eq h
  rw [isValid_iff, isValid_iff, henv, hnames, configuredPorts_eq, configuredPorts_eq, hsites,
    hremoteChecks, hsiteChecks]

/-- What is left of a valid configuration is valid. -/
theorem isValid_of_sublist {a b : OddBoxV3Config} (henv : a.envVars = b.envVars)
    (hdirs : a.dirServers.Sublist b.dirServers)
    (hremotes : a.remoteTargets.Sublist b.remoteTargets) (hsites : a.sites.Sublist b.sites)
    (hvalid : b.isValid = .ok ()) : a.isValid = .ok () := by
  rw [isValid_iff] at hvalid ⊢
  obtain ⟨hvars, hremote, hprocess, hnames, hports⟩ := hvalid
  refine ⟨?_, ?_, ?_, ?_, ?_⟩
  · rw [henv]
    exact hvars
  · intro target htarget
    exact hremote target (hremotes.subset htarget)
  · intro process hmem
    exact hprocess process (hsites.subset hmem)
  · exact (((hdirs.map _).append (hremotes.map _)).append (hsites.map _)).nodup hnames
  · rw [configuredPorts_eq] at hports ⊢
    exact ((hsites.map _).filterMap _).nodup hports

theorem isValid_readBack (newId : Nat → ProcId) (config : OddBoxV3Config) :
    (config.readBack newId).isValid = .ok () ↔ config.isValid = .ok () := by
  apply isValid_congr
  · rfl
  · rw [readBack_dirServers, List.map_map]
    rfl
  · rw [readBack_remoteTargets, List.map_map]
    apply List.map_congr_left
    intro site _
    simp only [Function.comp_apply, remoteView, remote_check_readBack]
    rfl
  · rw [readBack_sites]
    apply map_readBackProcesses
    intro procId process
    simp only [processView, check_readBack]
    rfl

section

variable (loader : Loader) (htoml : loader.toml.ReadsToml) {printable : Char → Bool}
  {config : OddBoxV3Config}
include htoml

end

/-! ## What the handlers make of a configuration -/

def ConfigItem.hostName : ConfigItem → String
  | .remoteSite site => site.hostName
  | .hostedProcess process => process.hostName
  | .dirServer dir => dir.hostName

/-- The check that `is_valid` makes of the item alone. -/
def ConfigItem.check : ConfigItem → Except String Unit
  | .remoteSite site => site.check
  | .hostedProcess process => process.check
  | .dirServer _ => .ok ()

def ConfigItem.port : ConfigItem → Option UInt16
  | .hostedProcess process => process.port
  | _ => none

/-- The item can be written. -/
def ConfigItem.Writable (printable : Char → Bool) : ConfigItem → Prop
  | .remoteSite site => site.Texts (Quotable printable) Bare
  | .hostedProcess process => process.Texts (Quotable printable)
  | .dirServer dir => dir.Texts (Quotable printable) ∧ dir.Fits

/-- The sites that stay when an item takes the place of the old ones of its kind. -/
def staying {α : Type} (hostName : α → String) (old new : String) (items : Option (List α)) :
    Option (List α) :=
  items.map (·.filter fun x => hostName x != old && hostName x != new)

/-- The configuration without the sites that the item replaces. -/
def withoutReplaced (config : OddBoxV3Config) (old : String) : ConfigItem → OddBoxV3Config
  | .remoteSite site =>
    { config with remoteTarget := staying (·.hostName) old site.hostName config.remoteTarget }
  | .hostedProcess process =>
    { config with hostedProcess := staying (·.hostName) old process.hostName config.hostedProcess }
  | .dirServer dir =>
    { config with dirServer := staying (·.hostName) old dir.hostName config.dirServer }

/-- The item passes its check, and no site that stays has its host name or its port. -/
structure Fitting (config : OddBoxV3Config) (old : String) (item : ConfigItem) : Prop where
  checked : item.check = .ok ()
  hostName : item.hostName ∉ (withoutReplaced config old item).hostNames
  port : ∀ port, item.port = some port →
    ∀ process ∈ (withoutReplaced config old item).sites, process.port ≠ some port

theorem addOrReplace_getD {α : Type} (hostName : α → String) (old : String) (item : α)
    (items : Option (List α)) : (addOrReplace hostName old item items).getD [] =
      (staying hostName old (hostName item) items).getD [] ++ [item] := by
  cases items <;> rfl

theorem staying_sublist {α : Type} (hostName : α → String) (old new : String)
    (items : Option (List α)) :
    ((staying hostName old new items).getD []).Sublist (items.getD []) := by
  cases items with
  | none => exact List.Sublist.refl []
  | some items => exact List.filter_sublist

theorem withoutReplaced_isValid {config : OddBoxV3Config} (old : String) (item : ConfigItem)
    (hvalid : config.isValid = .ok ()) : (withoutReplaced config old item).isValid = .ok () := by
  cases item with
  | remoteSite site =>
    exact isValid_of_sublist (b := config) rfl (List.Sublist.refl _) (staying_sublist _ _ _ _)
      (List.Sublist.refl _) hvalid
  | hostedProcess process =>
    exact isValid_of_sublist (b := config) rfl (List.Sublist.refl _) (List.Sublist.refl _)
      (staying_sublist _ _ _ _) hvalid
  | dirServer dir =>
    exact isValid_of_sublist (b := config) rfl (staying_sublist _ _ _ _) (List.Sublist.refl _)
      (List.Sublist.refl _) hvalid

section

variable (config : OddBoxV3Config) (old : Option String) (item : ConfigItem)

theorem withItem_dirServers : (withItem config old item).dirServers =
    (withoutReplaced config (old.getD item.hostName) item).dirServers ++
      match item with
      | .dirServer dir => [dir]
      | _ => [] := by
  cases item with
  | remoteSite site => exact (List.append_nil _).symm
  | hostedProcess process => exact (List.append_nil _).symm
  | dirServer dir => exact addOrReplace_getD _ _ _ _

theorem withItem_remoteTargets : (withItem config old item).remoteTargets =
    (withoutReplaced config (old.getD item.hostName) item).remoteTargets ++
      match item with
      | .remoteSite site => [site]
      | _ => [] := by
  cases item with
  | remoteSite site => exact addOrReplace_getD _ _ _ _
  | hostedProcess process => exact (List.append_nil _).symm
  | dirServer dir => exact (List.append_nil _).symm

theorem withItem_sites : (withItem config old item).sites =
    (withoutReplaced config (old.getD item.hostName) item).sites ++
      match item with
      | .hostedProcess process => [process]
      | _ => [] := by
  cases item with
  | remoteSite site => exact (List.append_nil _).symm
  | hostedProcess process => exact addOrReplace_getD _ _ _ _
  | dirServer dir => exact (List.append_nil _).symm

theorem withItem_hostNames : (withItem config old item).hostNames.Perm
    (item.hostName :: (withoutReplaced config (old.getD item.hostName) item).hostNames) := by
  unfold OddBoxV3Config.hostNames
  rw [withItem_dirServers, withItem_remoteTargets, withItem_sites]
  cases item with
  | remoteSite site =>
    simp only [List.append_nil, List.map_append, List.append_assoc, List.map_cons, List.map_nil,
      List.cons_append, List.nil_append]
    exact (List.perm_middle.append_left _).trans List.perm_middle
  | hostedProcess process =>
    simp only [List.append_nil, List.map_append, List.map_cons, List.map_nil, ← List.append_assoc]
    exact List.perm_append_comm
  | dirServer dir =>
    simp only [List.append_nil, List.map_append, List.append_assoc, List.map_cons, List.map_nil,
      List.cons_append, List.nil_append]
    exact List.perm_middle

theorem withItem_ports : ((withItem config old item).configuredPorts.map (·.1)).Perm
    (item.port.toList ++
      (withoutReplaced config (old.getD item.hostName) item).configuredPorts.map (·.1)) := by
  rw [configuredPorts_eq, configuredPorts_eq, withItem_sites, List.map_append,
    List.filterMap_append]
  apply List.perm_append_comm.trans
  apply List.Perm.append_right
  cases item with
  | remoteSite site => exact List.Perm.refl _
  | hostedProcess process =>
    cases hport : process.port with
    | none => simp [ConfigItem.port, processView, hport]
    | some port => simp [ConfigItem.port, processView, hport]
  | dirServer dir => exact List.Perm.refl _

theorem withItem_checks : ((∀ target ∈ (withItem config old item).remoteTargets,
      target.check = .ok ()) ∧
    ∀ process ∈ (withItem config old item).sites, process.check = .ok ()) ↔
    item.check = .ok () ∧
      (∀ target ∈ (withoutReplaced config (old.getD item.hostName) item).remoteTargets,
        target.check = .ok ()) ∧
      ∀ process ∈ (withoutReplaced config (old.getD item.hostName) item).sites,
        process.check = .ok () := by
  rw [withItem_remoteTargets, withItem_sites]
  simp only [List.forall_mem_append]
  cases item with
  | remoteSite site =>
    simp only [ConfigItem.check, List.forall_mem_singleton, List.not_mem_nil, false_implies,
      implies_true, and_true]
    tauto
  | hostedProcess process =>
    simp only [ConfigItem.check, List.forall_mem_singleton, List.not_mem_nil, false_implies,
      implies_true, and_true]
    tauto
  | dirServer dir =>
    simp only [ConfigItem.check, List.not_mem_nil, false_implies, implies_true, and_true,
      true_and]

end

/-- The item is added to the sites that stay. -/
theorem withItem_isValid_iff {config : OddBoxV3Config} (old : Option String) (item : ConfigItem)
    (hvalid : config.isValid = .ok ()) :
    (withItem config old item).isValid = .ok () ↔
      Fitting config (old.getD item.hostName) item := by
  have hbase := withoutReplaced_isValid (old.getD item.hostName) item hvalid
  have henv : (withItem config old item).envVars =
      (withoutReplaced config (old.getD item.hostName) item).envVars := by
    cases item <;> rfl
  rw [isValid_iff] at hbase ⊢
  obtain ⟨hvars, hremotes, hsites, hnames, hports⟩ := hbase
  rw [henv, (withItem_hostNames config old item).nodup_iff, List.nodup_cons,
    (withItem_ports config old item).nodup_iff]
  have hchecks := withItem_checks config old item
  have hmem : ∀ port, port ∈ (withoutReplaced config (old.getD item.hostName)
      item).configuredPorts.map (·.1) ↔
        ∃ process ∈ (withoutReplaced config (old.getD item.hostName) item).sites,
          process.port = some port := by
    intro port
    rw [configuredPorts_eq]
    simp [processView]
  constructor
  · rintro ⟨-, hremotes', hsites', ⟨hname, -⟩, hports'⟩
    refine ⟨(hchecks.mp ⟨hremotes', hsites'⟩).1, hname, ?_⟩
    intro port hport process hprocess hsame
    rw [hport] at hports'
    exact (List.nodup_cons.mp hports').1 ((hmem port).mpr ⟨process, hprocess, hsame⟩)
  · rintro ⟨hchecked, hname, hport⟩
    obtain ⟨hremotes', hsites'⟩ := hchecks.mpr ⟨hchecked, hremotes, hsites⟩
    refine ⟨hvars, hremotes', hsites', ⟨hname, hnames⟩, ?_⟩
    cases hitem : item.port with
    | none => exact hports
    | some port =>
      refine List.nodup_cons.mpr ⟨?_, hports⟩
      intro hmember
      obtain ⟨process, hprocess, hsame⟩ := (hmem port).mp hmember
      exact hport port hitem process hprocess hsame

structure SitesWritable (printable : Char → Bool) (config : OddBoxV3Config) : Prop where
  dirServers : ∀ s ∈ config.dirServers, s.Texts (Quotable printable) ∧ s.Fits
  remoteTargets : ∀ site ∈ config.remoteTargets, site.Texts (Quotable printable) Bare
  hostedProcesses : ∀ process ∈ config.sites, process.Texts (Quotable printable)

structure SettingsWritable (printable : Char → Bool) (new : SaveGlobalConfig) : Prop where
  rootDir : new.rootDir.toList.all isWhitespace = false → Quotable printable new.rootDir
  envVars : ∀ envVar ∈ new.envVars, envVar.Texts (Quotable printable)
  email : Bare new.letsEncryptAccountEmail
  oddBoxUrl : Quotable printable new.oddBoxUrl
  oddBoxPassword : Quotable printable new.oddBoxPassword

section

variable {printable : Char → Bool} {config : OddBoxV3Config}

theorem withItem_writable {old : Option String} {item : ConfigItem}
    (hrest : Writable printable (withoutReplaced config (old.getD item.hostName) item))
    (hitem : item.Writable printable) : Writable printable (withItem config old item) := by
  have hsettings : (withItem config old item).rootDir =
        (withoutReplaced config (old.getD item.hostName) item).rootDir ∧
      (withItem config old item).envVars =
        (withoutReplaced config (old.getD item.hostName) item).envVars ∧
      (withItem config old item).letsEncryptAccountEmail =
        (withoutReplaced config (old.getD item.hostName) item).letsEncryptAccountEmail ∧
      (withItem config old item).oddBoxUrl =
        (withoutReplaced config (old.getD item.hostName) item).oddBoxUrl ∧
      (withItem config old item).oddBoxPassword =
        (withoutReplaced config (old.getD item.hostName) item).oddBoxPassword := by
    cases item <;> exact ⟨rfl, rfl, rfl, rfl, rfl⟩
  obtain ⟨hroot, henv, hemail, hurl, hpassword⟩ := hsettings
  have hdirs := withItem_dirServers config old item
  have hremotes := withItem_remoteTargets config old item
  have hsites := withItem_sites config old item
  refine ⟨⟨?_, ?_, ?_, ?_, ?_, ?_, ?_, ?_⟩, ?_⟩
  · rw [hroot]
    exact hrest.texts.rootDir
  · rw [henv]
    exact hrest.texts.envVars
  · rw [hemail]
    exact hrest.texts.email
  · rw [hurl]
    exact hrest.texts.oddBoxUrl
  · rw [hpassword]
    exact hrest.texts.oddBoxPassword
  · change ∀ s ∈ (withItem config old item).dirServers, _
    rw [hdirs, List.forall_mem_append]
    refine ⟨hrest.texts.dirServers, ?_⟩
    cases item with
    | dirServer dir => simpa using hitem.1
    | remoteSite site => simp
    | hostedProcess process => simp
  · change ∀ site ∈ (withItem config old item).remoteTargets, _
    rw [hremotes, List.forall_mem_append]
    refine ⟨hrest.texts.remoteTargets, ?_⟩
    cases item with
    | dirServer dir => simp
    | remoteSite site => exact List.forall_mem_singleton.mpr hitem
    | hostedProcess process => simp
  · change ∀ process ∈ (withItem config old item).sites, _
    rw [hsites, List.forall_mem_append]
    refine ⟨hrest.texts.hostedProcesses, ?_⟩
    cases item with
    | dirServer dir => simp
    | remoteSite site => simp
    | hostedProcess process => exact List.forall_mem_singleton.mpr hitem
  · rw [hdirs, List.forall_mem_append]
    refine ⟨hrest.fits, ?_⟩
    cases item with
    | dirServer dir => simpa using hitem.2
    | remoteSite site => simp
    | hostedProcess process => simp

/-- What stays of a configuration that can be written can be written. -/
theorem withoutReplaced_writable (old : String) (item : ConfigItem)
    (h : Writable printable config) : Writable printable (withoutReplaced config old item) := by
  have hsubset : ∀ {α : Type} (hostName : α → String) (new : String) (items : Option (List α))
      (P : α → Prop), (∀ x ∈ items.getD [], P x) →
        ∀ x ∈ (staying hostName old new items).getD [], P x := by
    intro α hostName new items P hall x hx
    exact hall x ((staying_sublist hostName old new items).subset hx)
  obtain ⟨⟨hroot, henv, hemail, hurl, hpassword, hdirs, hremotes, hsites⟩, hfits⟩ := h
  cases item with
  | remoteSite site =>
    exact ⟨⟨hroot, henv, hemail, hurl, hpassword, hdirs, hsubset _ _ _ _ hremotes, hsites⟩, hfits⟩
  | hostedProcess process =>
    exact ⟨⟨hroot, henv, hemail, hurl, hpassword, hdirs, hremotes, hsubset _ _ _ _ hsites⟩, hfits⟩
  | dirServer dir =>
    exact ⟨⟨hroot, henv, hemail, hurl, hpassword, hsubset _ _ _ _ hdirs, hremotes, hsites⟩,
      hsubset _ _ _ _ hfits⟩

end

end OddBox.Api

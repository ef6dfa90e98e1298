import OddBox.Api.Installation
import OddBox.Transactions

/-!
Two requests of the admin API that change different things, and the reloads among them: each
request writes the whole configuration as it has read it, with its own change.
-/

namespace OddBox.Api

open OddBox.Configuration OddBox.Transactions

/-! ## Edits -/

/-- What a handler does to the configuration that it has read. -/
inductive Edit where
  | update (hostname : Option String) (item : ConfigItem)
  | delete (hostname : String)
  | settings (new : SaveGlobalConfig) (ip : IpAddr)

namespace Edit

def apply (config : OddBoxV3Config) : Edit → OddBoxV3Config
  | .update hostname item => withItem config hostname item
  | .delete hostname => withoutSite config hostname
  | .settings new ip => withSettings config new ip

/-- The handler answers at once: it deletes nothing, or changes no setting. -/
def skips (config : OddBoxV3Config) : Edit → Bool
  | .update _ _ => false
  | .delete hostname => !decide (hostname ∈ config.hostNames)
  | .settings new ip => (withSettings config new ip).eq config

/-- `update_handler` looks for a null-change when it has written. -/
def hurries (config : OddBoxV3Config) : Edit → Bool
  | .update hostname item => (withItem config hostname item).eq config
  | _ => false

/-- `set_settings_handler` does not fail when no reload comes. -/
def succeedsLate : Edit → Bool
  | .settings _ _ => true
  | _ => false

def transaction (edit : Edit) : Transaction OddBoxV3Config where
  edit config := edit.apply config
  skips config := edit.skips config
  hurries config := edit.hurries config
  succeedsLate := edit.succeedsLate

/-- The host names of the sites that are changed. -/
def names : Edit → List String
  | .update hostname item => [hostname.getD item.hostName, item.hostName]
  | .delete hostname => [hostname]
  | .settings _ _ => []

def IsSettings : Edit → Prop
  | .settings _ _ => True
  | _ => False

/-- The edits change different sites, or a site and the settings. -/
structure Apart (a b : Edit) : Prop where
  names : ∀ name ∈ a.names, name ∉ b.names
  settings : a.IsSettings → ¬b.IsSettings

end Edit

section

variable (outside : Outside) (app : AppState) (req : HttpRequest)

/-- What the handlers write is what the edits make of the running configuration. -/
theorem updateHandler_written {item : ConfigItem} (htail : (req.hostnames outside).tail = [])
    (hitem : outside.updateRequest req = some item)
    (hdocker : ((req.hostnames outside).head?.any fun h => app.global.dockerContainers.any
      fun (_, container) => container.generateHostName == h) = false) :
    (updateHandler outside app req).written = writeToDisk outside
      ((Edit.update (req.hostnames outside).head? item).apply app.global.config) := by
  unfold updateHandler
  dsimp only
  rw [htail, hitem]
  dsimp only
  rw [hdocker]
  rfl

theorem deleteHandler_written {hostname : String} (h : req.hostnames outside = [hostname]) :
    (deleteHandler outside app req).written =
      if (Edit.delete hostname).skips app.global.config then none
      else writeToDisk outside ((Edit.delete hostname).apply app.global.config) := by
  unfold deleteHandler
  rw [h]
  by_cases hlisted : hostname ∈ app.global.config.hostNames
  · simp [Edit.skips, Edit.apply, hlisted]
  · simp [Edit.skips, hlisted, AppState.unchanged]

theorem setSettingsHandler_written {new : SaveGlobalConfig} {ip : IpAddr}
    (hnew : outside.saveGlobalConfig req = some new) (hip : IpAddr.parse new.ip = some ip) :
    (setSettingsHandler outside app req).written =
      if (Edit.settings new ip).skips app.global.config then none
      else writeToDisk outside ((Edit.settings new ip).apply app.global.config) := by
  unfold setSettingsHandler
  rw [hnew]
  dsimp only
  rw [hip]
  dsimp only
  unfold Edit.skips
  split_ifs <;> rfl

end

/-! ## The sites of a configuration -/

namespace ConfigItem

def settings (defaults : Defaults) : ConfigItem → ConfigItem
  | .remoteSite site => .remoteSite site.settings
  | .hostedProcess process => .hostedProcess (process.settings defaults)
  | .dirServer dir => .dirServer dir.settings

/-- The items are the same in all settings, whatever the document says of those that are
absent. -/
def Same (a b : ConfigItem) : Prop := ∀ defaults, a.settings defaults = b.settings defaults

/-- All settings of the item are written. -/
def Kept (defaults : Defaults) : ConfigItem → Prop
  | .remoteSite site => site.Kept
  | .hostedProcess process => process.Kept defaults.logFormat
  | .dirServer _ => True

def SameKind : ConfigItem → ConfigItem → Prop
  | .remoteSite _, .remoteSite _ => True
  | .hostedProcess _, .hostedProcess _ => True
  | .dirServer _, .dirServer _ => True
  | _, _ => False

@[simp] theorem settings_hostName (defaults : Defaults) (item : ConfigItem) :
    (item.settings defaults).hostName = item.hostName := by
  cases item <;> rfl

theorem settings_kind (defaults : Defaults) (a b : ConfigItem) :
    (a.settings defaults).SameKind b ↔ a.SameKind b := by
  cases a <;> cases b <;> exact Iff.rfl

theorem Same.hostName {a b : ConfigItem} (h : a.Same b) : a.hostName = b.hostName := by
  have hsettings := h ⟨.standard, true⟩
  rw [← settings_hostName ⟨.standard, true⟩ a, hsettings, settings_hostName]

/-- Whether the settings are written can be told from the settings. -/
theorem Same.kept {a b : ConfigItem} {defaults : Defaults} (h : a.Same b)
    (hkept : b.Kept defaults) : a.Kept defaults := by
  have hsettings := h defaults
  cases a with
  | remoteSite site =>
    cases b with
    | remoteSite other =>
      have heq : site.settings = other.settings := by
        injection hsettings
      simp only [RemoteSiteConfig.settings, RemoteSiteConfig.mk.injEq] at heq
      obtain ⟨-, -, -, -, hhttp, -, -, hkeep, -⟩ := heq
      obtain ⟨hhttp', hkeep'⟩ := hkept
      rw [← flag_none_iff] at hhttp' hkeep'
      exact ⟨(flag_none_iff _).mp (hhttp'.trans hhttp.symm),
        (flag_none_iff _).mp (hkeep'.trans hkeep.symm)⟩
    | hostedProcess other => cases hsettings
    | dirServer other => cases hsettings
  | hostedProcess process =>
    cases b with
    | hostedProcess other =>
      have heq : process.settings defaults = other.settings defaults := by
        injection hsettings
      simp only [InProcessSiteConfig.settings, InProcessSiteConfig.mk.injEq] at heq
      obtain ⟨-, -, -, hhttp, -, -, -, -, -, -, hformat, -, -, -, -, hforward, -⟩ := heq
      obtain ⟨hhttp', hforward', hformat'⟩ := hkept
      rw [← flag_none_iff] at hhttp' hforward'
      refine ⟨(flag_none_iff _).mp (hhttp'.trans hhttp.symm),
        (flag_none_iff _).mp (hforward'.trans hforward.symm), ?_⟩
      rw [Option.some.injEq] at hformat
      exact hformat.trans hformat'
    | remoteSite other => cases hsettings
    | dirServer other => cases hsettings
  | dirServer dir => trivial

end ConfigItem

/-- The sites of the configuration, in the order of their host names. -/
def items (config : OddBoxV3Config) : List ConfigItem :=
  config.dirServers.map .dirServer ++ config.remoteTargets.map .remoteSite ++
    config.sites.map .hostedProcess

theorem hostNames_eq (config : OddBoxV3Config) :
    config.hostNames = (items config).map ConfigItem.hostName := by
  simp only [items, OddBoxV3Config.hostNames, List.map_append, List.map_map]
  rfl

theorem mem_items {config : OddBoxV3Config} {item : ConfigItem} : item ∈ items config ↔
    match item with
    | .remoteSite site => site ∈ config.remoteTargets
    | .hostedProcess process => process ∈ config.sites
    | .dirServer dir => dir ∈ config.dirServers := by
  cases item <;> simp [items]

/-- The sites of the kind that an update is of. -/
theorem mem_replaced {α : Type} {hostName : α → String} {old : String} {sites : Option (List α)}
    {x item : α} : x ∈ (staying hostName old (hostName item) sites).getD [] ++ [item] ↔
      x = item ∨ x ∈ sites.getD [] ∧ (True → hostName x ≠ old ∧ hostName x ≠ hostName item) := by
  cases sites with
  | none => simp [staying]
  | some sites =>
    simp only [staying, Option.map_some, Option.getD_some, List.mem_append, List.mem_filter,
      Bool.and_eq_true, bne_iff_ne, List.mem_singleton, true_implies]
    exact or_comm

/-- The sites of another kind. -/
theorem mem_untouched {α : Type} {x : α} {sites : List α} {found item : ConfigItem} {P : Prop}
    (h : ¬found.SameKind item) : x ∈ sites ++ [] ↔
      found = item ∨ x ∈ sites ∧ (found.SameKind item → P) := by
  have hne : found ≠ item := by
    rintro rfl
    apply h
    cases found <;> trivial
  simp [h, hne]

/-- An update takes the place of the sites of its kind with the old name or the new one. -/
theorem mem_items_withItem {config : OddBoxV3Config} {hostname : Option String}
    {item found : ConfigItem} : found ∈ items (withItem config hostname item) ↔
      found = item ∨ found ∈ items config ∧ (found.SameKind item →
        found.hostName ≠ hostname.getD item.hostName ∧ found.hostName ≠ item.hostName) := by
  rw [mem_items, mem_items]
  cases found with
  | remoteSite site =>
    dsimp only
    rw [withItem_remoteTargets]
    cases item with
    | remoteSite other =>
      rw [ConfigItem.remoteSite.injEq]
      exact mem_replaced
    | hostedProcess other => exact mem_untouched id
    | dirServer other => exact mem_untouched id
  | hostedProcess process =>
    dsimp only
    rw [withItem_sites]
    cases item with
    | hostedProcess other =>
      rw [ConfigItem.hostedProcess.injEq]
      exact mem_replaced
    | remoteSite other => exact mem_untouched id
    | dirServer other => exact mem_untouched id
  | dirServer dir =>
    dsimp only
    rw [withItem_dirServers]
    cases item with
    | dirServer other =>
      rw [ConfigItem.dirServer.injEq]
      exact mem_replaced
    | remoteSite other => exact mem_untouched id
    | hostedProcess other => exact mem_untouched id

theorem mem_items_withoutSite {config : OddBoxV3Config} {hostname : String}
    {found : ConfigItem} : found ∈ items (withoutSite config hostname) ↔
      found ∈ items config ∧ found.hostName ≠ hostname := by
  have hfilter : ∀ {α : Type} (hostName : α → String) (sites : Option (List α)) (x : α),
      x ∈ ((sites.map (·.filter fun x => hostName x != hostname)).getD []) ↔
        x ∈ sites.getD [] ∧ hostName x ≠ hostname := by
    intro α hostName sites x
    cases sites with
    | none => simp
    | some sites => simp
  rw [mem_items, mem_items]
  cases found with
  | remoteSite site => exact hfilter _ _ _
  | hostedProcess process => exact hfilter _ _ _
  | dirServer dir => exact hfilter _ _ _

/-! ## What is changed -/

namespace Edit

/-- The configuration has the change: the item with all its settings and no other site of its
kind in its place, no site of the name, or the settings. -/
def Made (config : OddBoxV3Config) : Edit → Prop
  | .update hostname item =>
    (∃ found ∈ items config, found.Same item) ∧
      ∀ found ∈ items config, found.SameKind item →
        found.hostName ∈ [hostname.getD item.hostName, item.hostName] → found.Same item
  | .delete hostname => ∀ found ∈ items config, found.hostName ≠ hostname
  | .settings new ip => withSettings config new ip = config

/-- Nothing of the change is lost when it is written. -/
def Lossless : Edit → Prop
  | .update _ item => ∀ defaults, item.Kept defaults
  | .delete _ => True
  | .settings new _ => new.rootDir.toList.all isWhitespace = false

theorem made_apply (edit : Edit) (config : OddBoxV3Config) : edit.Made (edit.apply config) := by
  cases edit with
  | update hostname item =>
    refine ⟨⟨item, mem_items_withItem.mpr (.inl rfl), fun _ => rfl⟩, ?_⟩
    intro found hfound hkind hname
    rcases mem_items_withItem.mp hfound with rfl | ⟨-, hother⟩
    · exact fun _ => rfl
    · obtain ⟨hold, hnew⟩ := hother hkind
      simp only [List.mem_cons, List.not_mem_nil, or_false] at hname
      rcases hname with h | h
      · exact absurd h hold
      · exact absurd h hnew
  | delete hostname =>
    intro found hfound
    exact (mem_items_withoutSite.mp hfound).2
  | settings new ip => rfl

/-- An edit of something else keeps the change. -/
theorem Made.apply_other {edit other : Edit} {config : OddBoxV3Config} (hapart : other.Apart edit)
    (h : edit.Made config) : edit.Made (other.apply config) := by
  -- what of the configuration the other edit leaves alone
  have hstays : ∀ found ∈ items config, found.hostName ∉ other.names →
      found ∈ items (other.apply config) := by
    intro found hfound hname
    cases other with
    | update hostname item =>
      simp only [names, List.mem_cons, List.not_mem_nil, or_false, not_or] at hname
      exact mem_items_withItem.mpr (.inr ⟨hfound, fun _ => hname⟩)
    | delete hostname =>
      exact mem_items_withoutSite.mpr ⟨hfound, List.ne_of_not_mem_cons hname⟩
    | settings new ip => exact hfound
  have hcomes : ∀ found ∈ items (other.apply config),
      found ∈ items config ∨ found.hostName ∈ other.names := by
    intro found hfound
    cases other with
    | update hostname item =>
      rcases mem_items_withItem.mp hfound with rfl | ⟨hold, -⟩
      · exact .inr (by simp [names])
      · exact .inl hold
    | delete hostname => exact .inl (mem_items_withoutSite.mp hfound).1
    | settings new ip => exact .inl hfound
  cases edit with
  | update hostname item =>
    obtain ⟨⟨found, hfound, hsame⟩, hall⟩ := h
    refine ⟨⟨found, hstays found hfound ?_, hsame⟩, ?_⟩
    · intro hname
      apply hapart.names found.hostName hname
      rw [hsame.hostName]
      simp [names]
    · intro found hfound hkind hname
      rcases hcomes found hfound with hold | hother
      · exact hall found hold hkind hname
      · exact absurd hname (hapart.names found.hostName hother)
  | delete hostname =>
    intro found hfound
    rcases hcomes found hfound with hold | hother
    · exact h found hold
    · intro hname
      apply hapart.names found.hostName hother
      simp [names, hname]
  | settings new ip =>
    cases other with
    | update hostname item =>
      have hcomm : withSettings (withItem config hostname item) new ip =
          withItem (withSettings config new ip) hostname item := by
        cases item <;> rfl
      exact hcomm.trans (congrArg (withItem · hostname item) h)
    | delete hostname => exact congrArg (withoutSite · hostname) h
    | settings new' ip' => exact absurd trivial (hapart.settings trivial)

end Edit

/-! ## Writing and loading -/

/-- What a reload finds besides the running configuration and the text of the file. -/
structure Surroundings where
  before : Environment
  after : Environment
  isRunning : ProcInfo → Bool
  siteStatusMap : String → Option ProcState
  procThreadMap : List ProcInfo

def Surroundings.program (self : Surroundings) (active : OddBoxV3Config) : Program where
  config := ConfigWrapper.new active
  siteStatusMap := self.siteStatusMap
  procThreadMap := self.procThreadMap

def Surroundings.reading (self : Surroundings) (toml : TomlCrate) (text : String) :
    Environment :=
  { self.before with readFile := fun _ => .ok text, toml := toml }

def loadFile (toml : TomlCrate) (self : Surroundings) (active : OddBoxV3Config)
    (text : String) : Loaded OddBoxV3Config :=
  let outcome := (self.program active).reloadFromDisk (self.reading toml text) self.after
    self.isRunning
  match outcome.1 with
  | .reloaded => .adopted outcome.2.config.internalConfiguration
  | .unchanged => .unchanged
  | _ => .refused

def configStore (printable : Char → Bool) (toml : TomlCrate) :
    Store OddBoxV3Config String Surroundings where
  write config := config.toString printable
  load := loadFile toml

/-- The configurations have the same sites. -/
structure SameSites (a b : OddBoxV3Config) : Prop where
  forth : ∀ x ∈ items b, ∃ y ∈ items a, y.Same x
  back : ∀ y ∈ items a, ∃ x ∈ items b, y.Same x

/-- A site that is read for the one that is written. -/
structure ConfigItem.ReadFor (read written : ConfigItem) : Prop where
  hostName : read.hostName = written.hostName
  kind : read.SameKind written
  settings : ∀ defaults, written.Kept defaults →
    read.settings defaults = written.settings defaults

/-- The sites of a configuration that is read are those of the one that is written. -/
structure Mirrors (read written : OddBoxV3Config) : Prop where
  forth : ∀ x ∈ items written, ∃ y ∈ items read, y.ReadFor x
  back : ∀ y ∈ items read, ∃ x ∈ items written, y.ReadFor x

section

variable {toml : TomlCrate} {printable : Char → Bool} {config : OddBoxV3Config}

/-- The text of a configuration is read as what comes back of it, if it is read at all. -/
theorem readNewConfiguration_written (htoml : toml.ReadsToml)
    (hwritable : Writable printable config)
    {self : Surroundings} {active new : ConfigWrapper}
    (h : readNewConfiguration (self.reading toml (config.toString printable)) active = .ok new) :
    ∃ path, new.internalConfiguration =
      { config.readBack self.before.readId with path := path } := by
  have hparse := hwritable.parsed self.before.readId htoml
  obtain ⟨_, contents, configuration, latest, _, _, path, -, hcontents, hconfiguration, hlatest,
    -, rfl⟩ := readNewConfiguration_built h
  cases hcontents
  change AnyOddBoxConfig.parse self.before.readId toml (config.toString printable) = _
    at hconfiguration
  rw [hparse] at hconfiguration
  cases hconfiguration
  cases hlatest
  exact ⟨path, rfl⟩

/-- What comes back of the sites of a configuration. -/
theorem readBack_mirrors (newId : Nat → ProcId) (path : Option String) :
    Mirrors { config.readBack newId with path := path } config := by
  have hremote : ∀ site : RemoteSiteConfig,
      (ConfigItem.remoteSite site.readBack).ReadFor (.remoteSite site) := by
    intro site
    exact ⟨rfl, trivial, fun _ hkept =>
      congrArg ConfigItem.remoteSite ((remoteSite_settings site).mpr hkept)⟩
  have hprocess : ∀ (process : InProcessSiteConfig) (procId : ProcId),
      (ConfigItem.hostedProcess (process.readBack procId)).ReadFor (.hostedProcess process) := by
    intro process procId
    exact ⟨rfl, trivial, fun _ hkept =>
      congrArg ConfigItem.hostedProcess ((process_settings procId _ process).mpr hkept)⟩
  have hdir : ∀ dir : DirServer, (ConfigItem.dirServer dir.readBack).ReadFor (.dirServer dir) := by
    intro dir
    exact ⟨rfl, trivial, fun _ _ => congrArg ConfigItem.dirServer (dirServer_settings dir)⟩
  have hremotes := readBack_remoteTargets newId config
  have hsites := readBack_sites newId config
  have hdirs := readBack_dirServers newId config
  constructor
  · intro x hx
    rw [mem_items] at hx
    cases x with
    | remoteSite site =>
      refine ⟨.remoteSite site.readBack, mem_items.mpr ?_, hremote site⟩
      change site.readBack ∈ (config.readBack newId).remoteTargets
      rw [hremotes]
      exact List.mem_map_of_mem hx
    | hostedProcess process =>
      dsimp only at hx
      rw [← List.zipIdx_map_fst 0 config.sites] at hx
      obtain ⟨⟨process, n⟩, hitem, rfl⟩ := List.mem_map.mp hx
      refine ⟨.hostedProcess (process.readBack (newId n)), mem_items.mpr ?_, hprocess process _⟩
      change process.readBack (newId n) ∈ (config.readBack newId).sites
      rw [hsites]
      exact List.mem_map.mpr ⟨(process, n), hitem, rfl⟩
    | dirServer dir =>
      refine ⟨.dirServer dir.readBack, mem_items.mpr ?_, hdir dir⟩
      change dir.readBack ∈ (config.readBack newId).dirServers
      rw [hdirs]
      exact List.mem_map_of_mem hx
  · intro y hy
    rw [mem_items] at hy
    cases y with
    | remoteSite site =>
      change site ∈ (config.readBack newId).remoteTargets at hy
      rw [hremotes] at hy
      obtain ⟨written, hwritten, rfl⟩ := List.mem_map.mp hy
      exact ⟨.remoteSite written, mem_items.mpr hwritten, hremote written⟩
    | hostedProcess process =>
      change process ∈ (config.readBack newId).sites at hy
      rw [hsites] at hy
      obtain ⟨⟨written, n⟩, hitem, rfl⟩ := List.mem_map.mp hy
      refine ⟨.hostedProcess written, mem_items.mpr ?_, hprocess written _⟩
      change written ∈ config.sites
      rw [← List.zipIdx_map_fst 0 config.sites]
      exact List.mem_map_of_mem hitem
    | dirServer dir =>
      change dir ∈ (config.readBack newId).dirServers at hy
      rw [hdirs] at hy
      obtain ⟨written, hwritten, rfl⟩ := List.mem_map.mp hy
      exact ⟨.dirServer written, mem_items.mpr hwritten, hdir written⟩

/-- A process takes over the identifier and the port of its loop, which are no settings. -/
theorem compareProcess_settings (environment : Environment) (new : OddBoxV3Config)
    (loops : List ProcInfo) (process : InProcessSiteConfig) (defaults : Defaults) :
    (compareProcess environment new loops process).process.settings defaults =
      process.settings defaults := by
  unfold compareProcess
  split
  · rfl
  · split <;> rfl

theorem compared_sameSites (environment : Environment) (program : Program) (new : ConfigWrapper) :
    SameSites (program.compared environment new).internalConfiguration
      new.internalConfiguration := by
  have hprocess : ∀ process, (ConfigItem.hostedProcess (compareProcess environment
      new.internalConfiguration program.procThreadMap process).process).Same
        (.hostedProcess process) := by
    intro process defaults
    exact congrArg ConfigItem.hostedProcess (compareProcess_settings _ _ _ _ _)
  have hsites : (program.compared environment new).internalConfiguration.sites =
      new.internalConfiguration.sites.map fun process => (compareProcess environment
        new.internalConfiguration program.procThreadMap process).process := by
    change (program.compareAll environment new.internalConfiguration).map Compared.process = _
    rw [Program.compareAll, List.map_map]
    rfl
  constructor
  · intro x hx
    rw [mem_items] at hx
    cases x with
    | remoteSite site => exact ⟨_, mem_items.mpr hx, fun _ => rfl⟩
    | hostedProcess process =>
      refine ⟨_, mem_items.mpr ?_, hprocess process⟩
      dsimp only
      rw [hsites]
      exact List.mem_map_of_mem hx
    | dirServer dir => exact ⟨_, mem_items.mpr hx, fun _ => rfl⟩
  · intro y hy
    rw [mem_items] at hy
    cases y with
    | remoteSite site => exact ⟨_, mem_items.mpr hy, fun _ => rfl⟩
    | hostedProcess process =>
      dsimp only at hy
      rw [hsites] at hy
      obtain ⟨old, hold, rfl⟩ := List.mem_map.mp hy
      exact ⟨.hostedProcess old, mem_items.mpr hold, hprocess old⟩
    | dirServer dir => exact ⟨_, mem_items.mpr hy, fun _ => rfl⟩

end

/-! ## What a reload keeps -/

namespace ConfigItem

theorem Same.trans {a b c : ConfigItem} (hab : a.Same b) (hbc : b.Same c) : a.Same c :=
  fun defaults => (hab defaults).trans (hbc defaults)

theorem Same.kind {a b : ConfigItem} (h : a.Same b) (c : ConfigItem) :
    a.SameKind c ↔ b.SameKind c := by
  rw [← settings_kind ⟨.standard, true⟩ a, h, settings_kind]

theorem ReadFor.kind_iff {a b : ConfigItem} (h : a.ReadFor b) (c : ConfigItem) :
    a.SameKind c ↔ b.SameKind c := by
  obtain ⟨-, hkind, -⟩ := h
  cases a <;> cases b <;> cases c <;> first | exact Iff.rfl | exact absurd hkind not_false

/-- A site that is written without a loss is read as it is. -/
theorem ReadFor.same {a b item : ConfigItem} (h : a.ReadFor b)
    (hlossless : ∀ defaults, item.Kept defaults) (hsame : b.Same item) : a.Same item := by
  intro defaults
  rw [h.settings defaults (hsame.kept (hlossless defaults))]
  exact hsame defaults

end ConfigItem

namespace Edit

variable {edit : Edit} {read written : OddBoxV3Config}

theorem Made.sameSites (hsame : SameSites read written)
    (hsettings : ∀ new ip, edit = .settings new ip → withSettings written new ip = written →
      withSettings read new ip = read)
    (h : edit.Made written) : edit.Made read := by
  cases edit with
  | update hostname item =>
    obtain ⟨⟨found, hfound, hitem⟩, hall⟩ := h
    constructor
    · obtain ⟨y, hy, hyx⟩ := hsame.forth found hfound
      exact ⟨y, hy, hyx.trans hitem⟩
    · intro y hy hkind hname
      obtain ⟨x, hx, hyx⟩ := hsame.back y hy
      rw [hyx.hostName] at hname
      exact hyx.trans (hall x hx ((hyx.kind item).mp hkind) hname)
  | delete hostname =>
    intro y hy
    obtain ⟨x, hx, hyx⟩ := hsame.back y hy
    rw [hyx.hostName]
    exact h x hx
  | settings new ip => exact hsettings new ip rfl h

theorem Made.mirrors (hmirrors : Mirrors read written) (hlossless : edit.Lossless)
    (hsettings : ∀ new ip, new.rootDir.toList.all isWhitespace = false →
      withSettings written new ip = written → withSettings read new ip = read)
    (h : edit.Made written) : edit.Made read := by
  cases edit with
  | update hostname item =>
    obtain ⟨⟨found, hfound, hitem⟩, hall⟩ := h
    constructor
    · obtain ⟨y, hy, hyx⟩ := hmirrors.forth found hfound
      exact ⟨y, hy, hyx.same hlossless hitem⟩
    · intro y hy hkind hname
      obtain ⟨x, hx, hyx⟩ := hmirrors.back y hy
      rw [hyx.hostName] at hname
      exact hyx.same hlossless (hall x hx ((hyx.kind_iff item).mp hkind) hname)
  | delete hostname =>
    intro y hy
    obtain ⟨x, hx, hyx⟩ := hmirrors.back y hy
    rw [hyx.hostName]
    exact h x hx
  | settings new ip => exact hsettings new ip hlossless h

end Edit

/-- The settings are those of the configuration. -/
theorem withSettings_eq_iff {config : OddBoxV3Config} {new : SaveGlobalConfig} {ip : IpAddr} :
    withSettings config new ip = config ↔
      (nonEmpty new.letsEncryptAccountEmail = config.letsEncryptAccountEmail ∧
        nonEmpty new.oddBoxUrl = config.oddBoxUrl ∧
        nonEmpty new.oddBoxPassword = config.oddBoxPassword) ∧
      (some new.httpPort = config.httpPort ∧ some new.tlsPort = config.tlsPort ∧
        new.portRangeStart = config.portRangeStart ∧ some ip = config.ip) ∧
      some new.alpn = config.alpn ∧ some new.autoStart = config.autoStart ∧
      new.defaultLogFormat = config.defaultLogFormat ∧ new.envVars = config.envVars ∧
      some new.logLevel = config.logLevel ∧
      (if new.rootDir.toList.all isWhitespace then none else some new.rootDir) =
        config.rootDir := by
  cases config
  simp only [withSettings, OddBoxV3Config.mk.injEq, true_and, and_true]
  constructor
  · rintro ⟨hroot, hlevel, halpn, hrange, hformat, hip, hhttp, htls, hstart, henv, hemail, hurl,
      hpassword⟩
    exact ⟨⟨hemail, hurl, hpassword⟩, ⟨hhttp, htls, hrange, hip⟩, halpn, hstart, hformat, henv,
      hlevel, hroot⟩
  · rintro ⟨⟨hemail, hurl, hpassword⟩, ⟨hhttp, htls, hrange, hip⟩, halpn, hstart, hformat, henv,
      hlevel, hroot⟩
    exact ⟨hroot, hlevel, halpn, hrange, hformat, hip, hhttp, htls, hstart, henv, hemail, hurl,
      hpassword⟩

/-- Settings that are made and written stay made when they are read. -/
theorem readBack_withSettings {config : OddBoxV3Config} {new : SaveGlobalConfig} {ip : IpAddr}
    (newId : Nat → ProcId) (path : Option String)
    (hdir : new.rootDir.toList.all isWhitespace = false)
    (h : withSettings config new ip = config) :
    withSettings { config.readBack newId with path := path } new ip =
      { config.readBack newId with path := path } := by
  rw [withSettings_eq_iff] at h ⊢
  obtain ⟨htexts, ⟨hhttp, htls, hrange, hip⟩, halpn, hstart, hformat, henv, hlevel, hroot⟩ := h
  refine ⟨htexts, ⟨?_, ?_, hrange, ?_⟩, ?_, ?_, hformat, henv, ?_, ?_⟩
  · simp only [OddBoxV3Config.readBack, ← hhttp, Option.getD_some]
  · simp only [OddBoxV3Config.readBack, ← htls, Option.getD_some]
  · simp only [OddBoxV3Config.readBack, ← hip, Option.getD_some]
  · simp only [OddBoxV3Config.readBack, ← halpn, Option.getD_some]
  · simp only [OddBoxV3Config.readBack, ← hstart, Option.getD_some]
  · simp only [OddBoxV3Config.readBack, ← hlevel, Option.getD_some]
  · simp only [OddBoxV3Config.readBack, ← hroot, hdir, Bool.false_eq_true, if_false,
      Option.getD_some]

/-- What counts as equal has the same settings. -/
theorem eq_withSettings {a b : OddBoxV3Config} {new : SaveGlobalConfig} {ip : IpAddr}
    (heq : a.eq b = true) (h : withSettings a new ip = a) : withSettings b new ip = b := by
  simp only [OddBoxV3Config.eq, Bool.and_eq_true, beq_iff_eq, and_assoc] at heq
  obtain ⟨-, -, hroot, hlevel, halpn, hrange, hformat, hip, hhttp, htls, hstart, henv, -, -, -,
    hemail, hurl, hpassword, -⟩ := heq
  rw [withSettings_eq_iff] at h ⊢
  rw [← hroot, ← hlevel, ← halpn, ← hrange, ← hformat, ← hip, ← hhttp, ← htls, ← hstart, ← henv,
    ← hemail, ← hurl, ← hpassword]
  exact h

section

variable {toml : TomlCrate} {printable : Char → Bool} {config found active : OddBoxV3Config}
  {self : Surroundings} {edit : Edit}

theorem loadFile_adopted {text : String} (h : loadFile toml self active text = .adopted found) :
    ∃ new, readNewConfiguration (self.reading toml text) (ConfigWrapper.new active) = .ok new ∧
      found =
        ((self.program active).compared (self.reading toml text) new).internalConfiguration := by
  unfold loadFile at h
  dsimp only at h
  split at h
  · next hreloaded =>
    obtain ⟨new, hread, -, hadopt⟩ := reloadFromDisk_reloaded hreloaded
    rw [hadopt] at h hreloaded
    obtain ⟨hconfig, -⟩ := adopt_reloaded hreloaded
    rw [hconfig] at h
    cases h
    exact ⟨new, hread, rfl⟩
  · contradiction
  · contradiction

theorem loadFile_unchanged {text : String} (h : loadFile toml self active text = .unchanged) :
    ∃ new, readNewConfiguration (self.reading toml text) (ConfigWrapper.new active) = .ok new ∧
      new.internalConfiguration.eq active = true := by
  unfold loadFile at h
  dsimp only at h
  split at h
  · contradiction
  · next hunchanged =>
    obtain ⟨new, hread, heq, -⟩ := reloadFromDisk_unchanged hunchanged
    exact ⟨new, hread, heq⟩
  · contradiction

/-- A reload that adopts what is written adopts its changes. -/
theorem Edit.Made.adopted (htoml : toml.ReadsToml) (hwritable : Writable printable config)
    (hload : loadFile toml self active (config.toString printable) = .adopted found)
    (hlossless : edit.Lossless) (h : edit.Made config) : edit.Made found := by
  obtain ⟨new, hread, rfl⟩ := loadFile_adopted hload
  obtain ⟨path, hnew⟩ := readNewConfiguration_written htoml hwritable hread
  have hread : edit.Made new.internalConfiguration := by
    rw [hnew]
    apply h.mirrors (readBack_mirrors _ path) hlossless
    intro settings ip hdir hmade
    exact readBack_withSettings _ path hdir hmade
  apply hread.sameSites (compared_sameSites _ _ new)
  intro settings ip _ hmade
  have hfields := withSettings_eq_iff.mp hmade
  exact withSettings_eq_iff.mpr hfields

/-- A reload that sees no difference overlooks none, where the sites are the same. -/
theorem Edit.Made.unchanged (htoml : toml.ReadsToml) (hwritable : Writable printable config)
    (hload : loadFile toml self active (config.toString printable) = .unchanged)
    (hsame : SameSites active config) (hlossless : edit.Lossless) (h : edit.Made config) :
    edit.Made active := by
  obtain ⟨new, hread, heq⟩ := loadFile_unchanged hload
  obtain ⟨path, hnew⟩ := readNewConfiguration_written htoml hwritable hread
  apply h.sameSites hsame
  rintro settings ip rfl hmade
  apply eq_withSettings heq
  rw [hnew]
  exact readBack_withSettings _ path hlossless hmade

end

/-! ## Runs -/

section

variable {ι : Type} [DecidableEq ι] (printable : Char → Bool) (toml : TomlCrate)
  (edits : ι → Edit)

/-- The requests, the running configuration and its file. -/
abbrev Updating (ι : Type) := Transactions.State OddBoxV3Config String ι

def Updating.step (self : Updating ι) (act : Act Surroundings ι) : Updating ι :=
  Transactions.State.step (configStore printable toml) (fun i => (edits i).transaction) self act

def terms : Terms OddBoxV3Config ι where
  legible := Writable printable
  alike := SameSites
  lossless i := (edits i).Lossless
  made i config := (edits i).Made config

variable {printable toml edits}

theorem configStore_write (config : OddBoxV3Config) :
    (configStore printable toml).write config = config.toString printable := by
  simp only [configStore]

theorem configStore_load : (configStore printable toml).load = loadFile toml := rfl

omit [DecidableEq ι] in
theorem terms_independent (htoml : toml.ReadsToml)
    (hapart : ∀ i j, i ≠ j → (edits i).Apart (edits j)) :
    (terms printable edits).Independent (configStore printable toml)
      fun i => (edits i).transaction := by
  constructor
  · intro i config
    exact (edits i).made_apply config
  · intro i j config hij hmade
    exact hmade.apply_other (hapart i j hij)
  · intro self active config found i hwritable hload hlossless hmade
    rw [configStore_write, configStore_load] at hload
    exact Edit.Made.adopted htoml hwritable hload hlossless hmade
  · intro self active config i hwritable hload hsame hlossless hmade
    rw [configStore_write, configStore_load] at hload
    exact Edit.Made.unchanged htoml hwritable hload hsame hlossless hmade

/-- The condition on a step, for the requests at hand. -/
def Updating.Serial (printable : Char → Bool) (toml : TomlCrate) (edits : ι → Edit)
    (self : Updating ι) (act : Act Surroundings ι) : Prop :=
  Transactions.State.Serial (configStore printable toml) (fun i => (edits i).transaction)
    (terms printable edits) self act

/-- **No update is lost**: where requests change different things, every change that is
reported as made is in the file, and in the running configuration after the last reload, if
each request writes what it has read while nothing else was written. -/
theorem updates_kept (htoml : toml.ReadsToml) (hapart : ∀ i j, i ≠ j → (edits i).Apart (edits j))
    {start : Updating ι} {acts first : List (Act Surroundings ι)} (hinitial : start.Initial)
    (hserial : Machine.Meets (Updating.step printable toml edits)
      (Updating.Serial printable toml edits) start acts) (hfirst : first <+: acts) :
    (Machine.run (Updating.step printable toml edits) start first).Keeps
      (configStore printable toml) fun i config => (edits i).Made config :=
  Transactions.State.serial_keeps (terms_independent htoml hapart) hinitial hserial hfirst

end

/-! ## Two directories -/

section

variable {toml : TomlCrate} {printable : Char → Bool} {config active : OddBoxV3Config}
  {self : Surroundings}

/-- A valid configuration without processes is adopted where it differs. -/
theorem loadFile_of_valid (htoml : toml.ReadsToml) (hwritable : Writable printable config)
    (hvalid : config.isValid = .ok ()) {path : String} {canonical : PathBuf}
    (hpath : active.path = some path) (hcanonical : self.before.canonicalize path = .ok canonical)
    (hsites : config.sites = [])
    (hdiffers : ({ config.readBack self.before.readId with
      path := some (canonical.toStr.getD "") } : OddBoxV3Config).eq active = false) :
    loadFile toml self active (config.toString printable) = .adopted
      { config.readBack self.before.readId with
        path := some (canonical.toStr.getD ""), hostedProcess := some [] } := by
  have hparse := hwritable.parsed self.before.readId htoml
  have hvalid' := (isValid_readBack self.before.readId config).mpr hvalid
  have hsites' : (config.readBack self.before.readId).sites = [] := by
    rw [readBack_sites, hsites]
    rfl
  generalize hback : config.readBack self.before.readId = back at hparse hvalid' hsites' hdiffers ⊢
  have hread := @readNewConfiguration_v3 (self.reading toml (config.toString printable))
    (ConfigWrapper.new active) _ _ _ canonical hpath rfl hparse hvalid' hcanonical
  have hcompared : (self.program active).compareAll (self.reading toml (config.toString printable))
      { back with path := some (canonical.toStr.getD "") } = [] := by
    change back.sites.map _ = []
    rw [hsites']
    rfl
  have hadopt : (self.program active).reloadFromDisk
      (self.reading toml (config.toString printable)) self.after self.isRunning =
        (self.program active).adopt (self.reading toml (config.toString printable)) self.after
          self.isRunning { ConfigWrapper.new back with
            internalVersion := (ConfigWrapper.new active).internalVersion + 1
            internalConfiguration := { back with path := some (canonical.toStr.getD "") } } := by
    unfold Program.reloadFromDisk
    rw [show (self.program active).config = ConfigWrapper.new active from rfl, hread]
    exact if_neg (Bool.eq_false_iff.mp hdiffers)
  have hstart : (self.program active).toStart (self.reading toml (config.toString printable))
      { back with path := some (canonical.toStr.getD "") } = [] := by
    rw [Program.toStart, hcompared]
    rfl
  have hreloaded : ((self.program active).adopt (self.reading toml (config.toString printable))
      self.after self.isRunning { ConfigWrapper.new back with
        internalVersion := (ConfigWrapper.new active).internalVersion + 1
        internalConfiguration := { back with path := some (canonical.toStr.getD "") } }).1 =
          .reloaded := by
    unfold Program.adopt
    dsimp only
    rw [hcompared, hstart]
    rfl
  obtain ⟨hconfig, -⟩ := adopt_reloaded hreloaded
  unfold loadFile
  dsimp only
  rw [hadopt, hreloaded, hconfig]
  dsimp only [Program.compared]
  rw [hcompared]
  rfl

end

/-- Two directory servers are added. -/
def twoDirectories (second : Bool) : Edit :=
  .update none (directory (if second then "b.local" else "a.local"))

/-- A system with one configuration file, and nothing running. -/
def quiet : Surroundings where
  before := oneFile ""
  after := oneFile ""
  isRunning _ := false
  siteStatusMap _ := none
  procThreadMap := []

/-- Where the file is, and how the two requests go on. -/
def plainStore : Store OddBoxV3Config String Surroundings :=
  configStore (fun _ => true) readerCrate

def adding (self : Updating Bool) (act : Act Surroundings Bool) : Updating Bool :=
  Updating.step (fun _ => true) readerCrate twoDirectories self act

/-- No request has been made yet. -/
def untouched : Updating Bool where
  memory := installed.config
  version := 0
  file := installed.disk
  reload := none
  current := true
  client _ := .idle

theorem twoDirectories_apart : ∀ i j, i ≠ j → (twoDirectories i).Apart (twoDirectories j) := by
  intro i j hij
  constructor
  · revert i j
    decide
  · rintro ⟨⟩

theorem twoDirectories_waits (second : Bool) :
    (twoDirectories second).transaction.hurries installed.config = false := by
  cases second <;> decide

theorem directory_written (second : Bool) :
    Writable (fun _ => true) ((twoDirectories second).apply installed.config) :=
  withItem_writable (withoutReplaced_writable _ _ installed_writable)
    (directory_writable (by cases second <;> decide))

/-- What comes back of the configuration with the one directory. -/
def directoryRead (second : Bool) : OddBoxV3Config :=
  { ((twoDirectories second).apply installed.config).readBack (fun _ => ⟨"id"⟩) with
    path := some "/srv/odd-box.toml"
    hostedProcess := some [] }

theorem directory_loads (second : Bool) :
    plainStore.load quiet installed.config
      (plainStore.write ((twoDirectories second).apply installed.config)) =
        .adopted (directoryRead second) := by
  have hwritable := directory_written second
  have hvalid : ((twoDirectories second).apply installed.config).isValid = .ok () := by
    apply (withItem_isValid_iff none _ installed_valid).mpr
    refine ⟨rfl, ?_, ?_⟩
    · cases second <;> decide
    · rintro port ⟨⟩
  have hload := @loadFile_of_valid readerCrate (fun _ => true) _ installed.config quiet
    readerCrate_readsToml hwritable hvalid "/srv/odd-box.toml"
    ⟨some "/srv/odd-box.toml", "/srv/odd-box.toml"⟩ rfl rfl rfl (by cases second <;> decide)
  unfold plainStore
  rw [configStore_write, configStore_load, hload]
  rfl

-- what is written and read is not computed
attribute [local irreducible] loadFile OddBoxV3Config.toString

/-- The one directory is added and reloaded, and only then the configuration is read for the
other. -/
def oneAfterTheOther : List (Act Surroundings Bool) :=
  [.read false, .write false, .reloadRead quiet, .reloadFinish, .poll false, .read true]

theorem oneAfterTheOther_kept :
    (Machine.run (Updating.step (fun _ => true) readerCrate twoDirectories) untouched
      oneAfterTheOther).Keeps (configStore (fun _ => true) readerCrate)
        fun i config => (twoDirectories i).Made config := by
  refine @updates_kept Bool _ (fun _ => true) readerCrate twoDirectories readerCrate_readsToml
    twoDirectories_apart untouched oneAfterTheOther oneAfterTheOther ⟨fun _ => rfl, rfl, rfl⟩ ?_
    (List.prefix_refl _)
  refine ⟨trivial, ?_, ?_, trivial, trivial, trivial, trivial⟩
  · intro snapshot version latest hclient _
    have hread : Client.hasRead installed.config 0 true = .hasRead snapshot version latest :=
      hclient
    injection hread with hsnapshot _ hlatest
    refine ⟨hlatest.symm, ?_, fun _ => trivial⟩
    rw [← hsnapshot]
    exact directory_written false
  · exact Transactions.State.serial_of_adopted (directory_loads false)

/-- The configuration is read for both directories before either is written. -/
def overtaking : List (Act Surroundings Bool) :=
  [.read false, .read true, .write false, .write true]

def overtaken : Updating Bool :=
  { untouched with
    file := plainStore.write ((twoDirectories true).apply installed.config)
    current := false
    client := fun _ => .hasWritten 0 }

theorem overtaking_run : Machine.run adding untouched overtaking = overtaken := by
  unfold overtaking
  simp only [Machine.run_cons, Machine.run_nil]
  unfold adding Updating.step
  rw [Transactions.State.step_read rfl, Transactions.State.step_read rfl,
    @Transactions.State.step_write _ _ _ _ _ _ (fun i => (twoDirectories i).transaction) _ false
      installed.config 0 true rfl rfl (twoDirectories_waits false),
    @Transactions.State.step_write _ _ _ _ _ _ (fun i => (twoDirectories i).transaction) _ true
      installed.config 0 false rfl rfl (twoDirectories_waits true)]
  unfold Transactions.State.setClient
  congr 1
  funext second
  cases second <;> rfl

/-- After that a reload adopts what is written last, and both requests see it. -/
def oneOverTheOther : List (Act Surroundings Bool) :=
  overtaking ++ ([Act.reloadRead quiet, .reloadFinish] ++ [Act.poll false, .poll true])

theorem oneOverTheOther_run : Machine.run adding untouched oneOverTheOther =
    { overtaken with
      memory := directoryRead true
      version := 1
      current := true
      client := fun _ => .succeeded } := by
  have hadopted : Machine.run adding overtaken [.reloadRead quiet, .reloadFinish] =
      { overtaken with memory := directoryRead true, version := 1, current := true } := by
    rw [Machine.run_cons, Machine.run_cons, Machine.run_nil]
    unfold adding Updating.step
    exact @Transactions.State.reload_adopted _ _ _ _ _ plainStore
      (fun i => (twoDirectories i).transaction) overtaken quiet _ rfl (directory_loads true)
  unfold oneOverTheOther
  rw [Machine.run_append, Machine.run_append, overtaking_run, hadopted, Machine.run_cons,
    Machine.run_cons, Machine.run_nil]
  unfold adding Updating.step
  rw [@Transactions.State.step_poll _ _ _ _ _ _ _ _ false 0 rfl Nat.one_pos,
    @Transactions.State.step_poll _ _ _ _ _ _ _ _ true 0 rfl Nat.one_pos]
  unfold Transactions.State.setClient
  congr 1
  funext second
  cases second <;> rfl

/-- Both requests report success, and the first directory is nowhere. -/
theorem oneOverTheOther_lost :
    untouched.Initial ∧ (∀ i j, i ≠ j → (twoDirectories i).Apart (twoDirectories j)) ∧
      (∀ second, (Machine.run adding untouched oneOverTheOther).client second = .succeeded) ∧
      ¬(Machine.run adding untouched oneOverTheOther).Keeps plainStore
        fun i config => (twoDirectories i).Made config := by
  rw [oneOverTheOther_run]
  refine ⟨⟨fun _ => rfl, rfl, rfl⟩, twoDirectories_apart, fun _ => rfl, ?_⟩
  intro hkeeps
  obtain ⟨⟨found, hfound, hsame⟩, -⟩ := hkeeps.memory rfl false rfl
  have hname : "a.local" ∈ (directoryRead true).hostNames := by
    rw [hostNames_eq]
    exact List.mem_map.mpr ⟨found, hfound, hsame.hostName⟩
  exact absurd hname (by decide)

end OddBox.Api

import Mathlib
import OddBox.Configuration.ChangeDetection

/-!
What a failed reload leaves behind: nothing where it fails before the loops are
marked, and otherwise all that it has done to the loops and the statuses by then.
-/

namespace OddBox.Configuration

/-! ## Resolving -/

theorem resolveProcess_eq (environment : Environment) (config : OddBoxV3Config)
    (process : InProcessSiteConfig) :
    config.resolveProcessConfiguration environment process =
      (config.resolveVariables environment).map process.resolved := by
  rw [OddBoxV3Config.resolveProcessConfiguration]
  cases config.resolveVariables environment <;> rfl

theorem startLoops_error_iff {environment : Environment} {config : OddBoxV3Config}
    {loops : List ProcInfo} {processes : List InProcessSiteConfig} :
    (∃ e, (startLoops environment config loops processes).2 = some e) ↔
      processes ≠ [] ∧ ∀ values, config.resolveVariables environment ≠ .ok values := by
  induction processes generalizing loops with
  | nil => simp [startLoops]
  | cons process processes ih =>
    rw [startLoops, resolveProcess_eq]
    cases hvalues : config.resolveVariables environment with
    | error e => simp [Except.map]
    | ok values =>
      simp only [Except.map]
      rw [ih, hvalues]
      simp

/-- Where a loop cannot be started, none is. -/
theorem startLoops_failed {environment : Environment} {config : OddBoxV3Config}
    {loops : List ProcInfo} {processes : List InProcessSiteConfig}
    (h : ∀ values, config.resolveVariables environment ≠ .ok values) :
    (startLoops environment config loops processes).1 = loops := by
  cases processes with
  | nil => rfl
  | cons process processes =>
    rw [startLoops, resolveProcess_eq]
    cases hvalues : config.resolveVariables environment with
    | error e => rfl
    | ok values => exact absurd hvalues (h values)

/-! ## Comparing -/

section

variable {environment : Environment} {new : OddBoxV3Config} {loops : List ProcInfo}

theorem compareProcess_hostName (process : InProcessSiteConfig) :
    (compareProcess environment new loops process).process.hostName = process.hostName := by
  unfold compareProcess
  split
  · rfl
  · split <;> rfl

theorem compareProcess_abort (process : InProcessSiteConfig) :
    (compareProcess environment new loops process).abort = true ↔
      (∃ info ∈ loops, info.config.hostName = process.hostName) ∧
        ∀ values, new.resolveVariables environment ≠ .ok values := by
  unfold compareProcess
  split
  · next hnone =>
    refine iff_of_false (by simp) ?_
    rintro ⟨⟨info, hinfo, hname⟩, -⟩
    have hother := List.find?_eq_none.mp hnone info hinfo
    exact hother (beq_iff_eq.mpr hname)
  · next existing hsome =>
    have hname := List.find?_some hsome
    have hmem := List.mem_of_find?_eq_some hsome
    rw [resolveProcess_eq]
    cases hvalues : new.resolveVariables environment with
    | error e =>
      exact iff_of_true rfl ⟨⟨existing, hmem, beq_iff_eq.mp hname⟩, by simp⟩
    | ok values =>
      refine iff_of_false (by simp [Except.map]) ?_
      rintro ⟨-, hall⟩
      exact hall values rfl

end

/-! ## The statuses -/

theorem byHostName_isSome {α : Type} (hostName : α → String) (items : List α) (name : String) :
    (byHostName hostName items name).isSome = true ↔ name ∈ items.map hostName := by
  have hgeneral : ∀ start : String → Option α,
      ((items.foldl (fun map item => Function.update map (hostName item) (some item)) start)
        name).isSome = true ↔ name ∈ items.map hostName ∨ (start name).isSome = true := by
    induction items with
    | nil => simp
    | cons item items ih =>
      intro start
      rw [List.foldl_cons, ih, List.map_cons, List.mem_cons]
      by_cases hname : name = hostName item
      · simp [hname]
      · simp [hname]
  rw [byHostName, hgeneral]
  simp

theorem insertStatuses_apply (state : ProcState) (hostNames : List String)
    (statuses : String → Option ProcState) (name : String) :
    insertStatuses state hostNames statuses name =
      if name ∈ hostNames then some state else statuses name := by
  induction hostNames generalizing statuses with
  | nil => rfl
  | cons first hostNames ih =>
    rw [insertStatuses, List.foldl_cons, ← insertStatuses, ih]
    by_cases hname : name = first
    · simp [hname]
    · simp [hname]

/-- The status of a site that the new configuration has as well. -/
def StatusKept (new : OddBoxV3Config) (name : String) : ProcState → Prop
  | .remote => name ∈ new.remoteTargets.map RemoteSiteConfig.hostName
  | .dirServer => name ∈ new.dirServers.map DirServer.hostName
  | _ => name ∈ new.sites.map InProcessSiteConfig.hostName

/-- What is asked of the statuses for the new configuration to change none. -/
structure StatusesFit (new : OddBoxV3Config) (statuses : String → Option ProcState) : Prop where
  kept : ∀ name state, statuses name = some state → StatusKept new name state
  remotes : ∀ site ∈ new.remoteTargets, statuses site.hostName = some .remote
  dirServers : ∀ s ∈ new.dirServers, statuses s.hostName = some .dirServer

theorem retainStatus_iff {new : OddBoxV3Config} {processes : String → Option InProcessSiteConfig}
    (hprocesses : ∀ name, (processes name).isSome = true ↔
      name ∈ new.sites.map InProcessSiteConfig.hostName) (name : String) (state : ProcState) :
    retainStatus new.remoteTargets new.dirServers processes name state = true ↔
      StatusKept new name state := by
  cases state with
  | remote => simp [retainStatus, StatusKept]
  | dirServer => simp [retainStatus, StatusKept]
  | faulty => exact hprocesses name
  | stopped => exact hprocesses name
  | starting => exact hprocesses name
  | stopping => exact hprocesses name
  | running => exact hprocesses name
  | docker => exact hprocesses name

theorem newStatuses_apply (new : ConfigWrapper) (statuses : String → Option ProcState)
    (name : String) : newStatuses new statuses name =
      if name ∈ new.internalConfiguration.dirServers.map DirServer.hostName then some .dirServer
      else if name ∈ new.internalConfiguration.remoteTargets.map RemoteSiteConfig.hostName then
        some .remote
      else (statuses name).filter (retainStatus new.internalConfiguration.remoteTargets
        new.internalConfiguration.dirServers new.hostedProcesses name) := by
  rw [newStatuses, insertStatuses_apply, insertStatuses_apply]

theorem newStatuses_eq_iff {new : ConfigWrapper} {statuses : String → Option ProcState}
    (hprocesses : ∀ name, (new.hostedProcesses name).isSome = true ↔
      name ∈ new.internalConfiguration.sites.map InProcessSiteConfig.hostName)
    (hnames : new.internalConfiguration.hostNames.Nodup) :
    newStatuses new statuses = statuses ↔ StatusesFit new.internalConfiguration statuses := by
  constructor
  · intro h
    have hstatus : ∀ name, statuses name = newStatuses new statuses name := by
      intro name
      rw [h]
    refine ⟨?_, ?_, ?_⟩
    · intro name state hstate
      have hfound := (hstatus name).symm.trans hstate
      rw [newStatuses_apply] at hfound
      split_ifs at hfound with hdir hremote
      · obtain rfl := Option.some.inj hfound
        exact hdir
      · obtain rfl := Option.some.inj hfound
        exact hremote
      · exact (retainStatus_iff hprocesses name state).mp (Option.filter_eq_some_iff.mp hfound).2
    · intro site hsite
      have hremote := List.mem_map_of_mem (f := RemoteSiteConfig.hostName) hsite
      rw [hstatus, newStatuses_apply, if_neg ?_, if_pos hremote]
      intro hdir
      rw [OddBoxV3Config.hostNames, List.append_assoc] at hnames
      exact List.disjoint_of_nodup_append hnames hdir (List.mem_append_left _ hremote)
    · intro s hs
      rw [hstatus, newStatuses_apply, if_pos (List.mem_map_of_mem (f := DirServer.hostName) hs)]
  · intro hfit
    funext name
    rw [newStatuses_apply]
    split_ifs with hdir hremote
    · obtain ⟨s, hs, rfl⟩ := List.mem_map.mp hdir
      exact (hfit.dirServers s hs).symm
    · obtain ⟨site, hsite, rfl⟩ := List.mem_map.mp hremote
      exact (hfit.remotes site hsite).symm
    · cases hstate : statuses name with
      | none => rfl
      | some state =>
        have hkept := (retainStatus_iff hprocesses name state).mpr (hfit.kept name state hstate)
        rw [Option.filter_some, if_pos hkept]

/-! ## The loops -/

theorem markLoop_stays_iff (modified sites : List InProcessSiteConfig) (info : ProcInfo) :
    (markLoop modified sites info).markedForRemoval = false ↔
      info.markedForRemoval = false ∧
        (∃ process ∈ sites, process.hostName = info.config.hostName) ∧
        ∀ process ∈ modified, process.hostName ≠ info.config.hostName := by
  unfold markLoop
  split_ifs with hmodified hsites
  · simp only [List.any_eq_true, beq_iff_eq] at hmodified
    obtain ⟨process, hprocess, hname⟩ := hmodified
    refine iff_of_false (by simp) ?_
    rintro ⟨-, -, hall⟩
    exact hall process hprocess hname
  · simp only [List.any_eq_true, beq_iff_eq, not_exists, not_and] at hmodified hsites
    exact ⟨fun h => ⟨h, hsites, hmodified⟩, fun h => h.1⟩
  · simp only [List.any_eq_true, beq_iff_eq] at hsites
    refine iff_of_false (by simp) ?_
    rintro ⟨-, hexists, -⟩
    exact hsites hexists

@[simp] theorem markLoop_config (modified sites : List InProcessSiteConfig) (info : ProcInfo) :
    (markLoop modified sites info).config = info.config := by
  unfold markLoop
  split_ifs <;> rfl

theorem markLoop_of_stays {modified sites : List InProcessSiteConfig} {info : ProcInfo}
    (h : (markLoop modified sites info).markedForRemoval = false) :
    markLoop modified sites info = info := by
  unfold markLoop at h ⊢
  split_ifs at h ⊢ with hmodified hsites
  rfl

/-- All loops stay exactly when none of them is marked. -/
theorem remaining_eq_iff (modified sites : List InProcessSiteConfig) (loops : List ProcInfo) :
    (loops.map (markLoop modified sites)).filter (fun info => !info.markedForRemoval) = loops ↔
      ∀ info ∈ loops, (markLoop modified sites info).markedForRemoval = false := by
  constructor
  · intro h info hinfo
    have hlength := congrArg List.length h
    rw [← @List.length_map _ _ loops (markLoop modified sites),
      List.length_filter_eq_length_iff] at hlength
    have hstays := hlength _ (List.mem_map_of_mem hinfo)
    simpa using hstays
  · intro h
    have hmap : loops.map (markLoop modified sites) = loops := by
      rw [List.map_congr_left fun info hinfo => markLoop_of_stays (h info hinfo), List.map_id']
    rw [hmap, List.filter_eq_self]
    intro info hinfo
    have hstays := h info hinfo
    rw [markLoop_of_stays hstays] at hstays
    rw [hstays]
    rfl

/-! ## A failed reload -/

section

variable (before after : Environment) (isRunning : ProcInfo → Bool)

/-- The reload gets past its last check, and then a loop cannot be started. -/
structure Program.FailsLate (program : Program) (new : OddBoxV3Config) : Prop where
  changed : new.eq program.config.internalConfiguration = false
  compared : (∃ values, new.resolveVariables before = .ok values) ∨
    ∀ process ∈ new.sites, ∀ info ∈ program.procThreadMap,
      info.config.hostName ≠ process.hostName
  starts : ∃ process ∈ new.sites,
    (compareProcess before new program.procThreadMap process).modified = true
  fails : ∀ values, new.resolveVariables after ≠ .ok values

/-- No loop has to leave for the new configuration, and no status changes. -/
structure Program.Undisturbed (program : Program) (new : OddBoxV3Config) : Prop where
  unmarked : ∀ info ∈ program.procThreadMap, info.markedForRemoval = false
  listed : ∀ info ∈ program.procThreadMap, ∃ process ∈ new.sites,
    process.hostName = info.config.hostName
  unmodified : ∀ info ∈ program.procThreadMap, ∀ process ∈ new.sites,
    process.hostName = info.config.hostName →
      (compareProcess before new program.procThreadMap process).modified = false
  statuses : StatusesFit new program.siteStatusMap

variable {before after isRunning} {program : Program} {new : ConfigWrapper}

theorem of_bind_eq_ok {ε α β : Type} {x : Except ε α} {f : α → Except ε β} {b : β}
    (h : x >>= f = .ok b) : ∃ a, x = .ok a ∧ f a = .ok b := by
  cases x with
  | error e => contradiction
  | ok a => exact ⟨a, rfl, h⟩

theorem failing_eq_ok {α : Type} {x : Except String α} {a : α} :
    failing x = .ok a ↔ x = .ok a := by
  cases x <;> simp [failing]

/-- What is read was found at the path of the active configuration, upgraded and checked, and
then got its own path. -/
theorem readNewConfiguration_built {active : ConfigWrapper}
    (h : readNewConfiguration before active = .ok new) :
    ∃ file contents configuration latest version upgraded path,
      active.internalConfiguration.path = some file ∧ before.readFile file = .ok contents ∧
      AnyOddBoxConfig.parse before.readId before.toml contents = .ok configuration ∧
      configuration.tryUpgradeToLatestVersion before.upgradeId =
        .ok (latest, version, upgraded) ∧
      OddBoxV3Config.isValid latest = .ok () ∧
      new = { ConfigWrapper.new latest with
        internalConfiguration := { latest with path := path }
        internalVersion := active.internalVersion + 1 } := by
  rw [readNewConfiguration] at h
  obtain ⟨file, hfile, h⟩ := of_bind_eq_ok h
  obtain ⟨contents, hcontents, h⟩ := of_bind_eq_ok h
  obtain ⟨configuration, hconfiguration, h⟩ := of_bind_eq_ok h
  have hpath : active.internalConfiguration.path = some file := by
    cases hactive : active.internalConfiguration.path with
    | none =>
      rw [hactive] at hfile
      contradiction
    | some path =>
      rw [hactive] at hfile
      cases hfile
      rfl
  split at h
  · contradiction
  · next latest version upgraded hlatest =>
    obtain ⟨⟨⟩, hvalid, h⟩ := of_bind_eq_ok h
    rw [ConfigWrapper.setDiskPath] at h
    obtain ⟨canonical, -, h⟩ := of_bind_eq_ok h
    rw [← Except.ok.inj h]
    exact ⟨file, contents, configuration, latest, version, upgraded, _, hpath,
      failing_eq_ok.mp hcontents, failing_eq_ok.mp hconfiguration, hlatest,
      failing_eq_ok.mp hvalid, rfl⟩

/-- A configuration that is read has passed the checks, before it got its path. -/
theorem readNewConfiguration_valid (h : readNewConfiguration before program.config = .ok new) :
    ∃ latest path, OddBoxV3Config.isValid latest = .ok () ∧
      new.internalConfiguration = { latest with path := path } := by
  obtain ⟨_, _, _, latest, _, _, path, -, -, -, -, hvalid, rfl⟩ := readNewConfiguration_built h
  exact ⟨latest, path, hvalid, rfl⟩

theorem readNewConfiguration_names (h : readNewConfiguration before program.config = .ok new) :
    new.internalConfiguration.hostNames.Nodup := by
  obtain ⟨latest, path, hvalid, hnew⟩ := readNewConfiguration_valid h
  rw [hnew]
  exact (isValid_iff.mp hvalid).2.2.2.1

theorem adopt_abort_iff :
    (program.compareAll before new.internalConfiguration).any Compared.abort = true ↔
      (∃ process ∈ new.internalConfiguration.sites, ∃ info ∈ program.procThreadMap,
        info.config.hostName = process.hostName) ∧
        ∀ values, new.internalConfiguration.resolveVariables before ≠ .ok values := by
  simp only [Program.compareAll, List.any_map, List.any_eq_true, Function.comp_apply,
    compareProcess_abort]
  constructor
  · rintro ⟨process, hprocess, hloop, hall⟩
    exact ⟨⟨process, hprocess, hloop⟩, hall⟩
  · rintro ⟨⟨process, hprocess, hloop⟩, hall⟩
    exact ⟨process, hprocess, hloop, hall⟩

/-- What can be resolved before the comparison, or needs not be, does not abort. -/
theorem adopt_passes_iff :
    (program.compareAll before new.internalConfiguration).any Compared.abort = false ↔
      (∃ values, new.internalConfiguration.resolveVariables before = .ok values) ∨
        ∀ process ∈ new.internalConfiguration.sites, ∀ info ∈ program.procThreadMap,
          info.config.hostName ≠ process.hostName := by
  rw [← Bool.not_eq_true, adopt_abort_iff, not_and_or, or_comm]
  simp only [not_forall, not_not, not_exists, not_and, ne_eq]

theorem toStart_ne_nil : program.toStart before new.internalConfiguration ≠ [] ↔
    ∃ process ∈ new.internalConfiguration.sites, (compareProcess before
      new.internalConfiguration program.procThreadMap process).modified = true := by
  rw [Program.toStart, Program.compareAll, ne_eq, List.map_eq_nil_iff, List.filter_eq_nil_iff]
  simp

theorem compared_names : (program.compared before new).internalConfiguration.sites.map
    InProcessSiteConfig.hostName =
      new.internalConfiguration.sites.map InProcessSiteConfig.hostName := by
  change ((program.compareAll before new.internalConfiguration).map Compared.process).map
    InProcessSiteConfig.hostName = _
  rw [Program.compareAll, List.map_map, List.map_map]
  apply List.map_congr_left
  intro process _
  exact compareProcess_hostName process

/-- A loop is not marked exactly when it goes on unchanged. -/
theorem marked_stays_iff (info : ProcInfo) :
    (markLoop (program.toStart before new.internalConfiguration)
      (program.compared before new).internalConfiguration.sites info).markedForRemoval = false ↔
      info.markedForRemoval = false ∧
        (∃ process ∈ new.internalConfiguration.sites, process.hostName = info.config.hostName) ∧
        ∀ process ∈ new.internalConfiguration.sites,
          process.hostName = info.config.hostName →
            (compareProcess before new.internalConfiguration program.procThreadMap
              process).modified = false := by
  have hlisted : ∀ name, (∃ process ∈ (program.compared before new).internalConfiguration.sites,
      process.hostName = name) ↔
        ∃ process ∈ new.internalConfiguration.sites, process.hostName = name := by
    intro name
    have hnames := congrArg (name ∈ ·) (@compared_names before program new)
    simpa [List.mem_map] using hnames
  have hmodified : ∀ name, (∀ process ∈ program.toStart before new.internalConfiguration,
      process.hostName ≠ name) ↔ ∀ process ∈ new.internalConfiguration.sites,
        process.hostName = name → (compareProcess before new.internalConfiguration
          program.procThreadMap process).modified = false := by
    intro name
    constructor
    · intro h process hprocess hname
      by_contra hmodified
      rw [Bool.not_eq_false] at hmodified
      refine h _ (List.mem_map_of_mem (List.mem_filter.mpr
        ⟨List.mem_map_of_mem hprocess, hmodified⟩)) ?_
      rw [compareProcess_hostName, hname]
    · intro h process hprocess hname
      obtain ⟨compared, hcompared, rfl⟩ := List.mem_map.mp hprocess
      obtain ⟨hcompared, hmodified⟩ := List.mem_filter.mp hcompared
      obtain ⟨process, hsite, rfl⟩ := List.mem_map.mp hcompared
      rw [compareProcess_hostName] at hname
      rw [h process hsite hname] at hmodified
      contradiction
  simp only [markLoop_stays_iff, hlisted, hmodified]

theorem marked_stay_iff :
    (∀ info ∈ program.procThreadMap,
      (markLoop (program.toStart before new.internalConfiguration)
        (program.compared before new).internalConfiguration.sites info).markedForRemoval = false) ↔
      ∀ info ∈ program.procThreadMap, info.markedForRemoval = false ∧
        (∃ process ∈ new.internalConfiguration.sites,
          process.hostName = info.config.hostName) ∧
        ∀ process ∈ new.internalConfiguration.sites,
          process.hostName = info.config.hostName →
            (compareProcess before new.internalConfiguration program.procThreadMap
              process).modified = false :=
  forall₂_congr fun info _ => marked_stays_iff info

theorem statusKept_compared :
    StatusKept (program.compared before new).internalConfiguration =
      StatusKept new.internalConfiguration := by
  funext name state
  cases state <;> simp only [StatusKept, compared_names] <;> rfl

theorem hostNames_compared :
    (program.compared before new).internalConfiguration.hostNames =
      new.internalConfiguration.hostNames := by
  rw [OddBoxV3Config.hostNames, compared_names]
  rfl

theorem program_eq_iff {statuses : String → Option ProcState} {loops : List ProcInfo} :
    { program with siteStatusMap := statuses, procThreadMap := loops } = program ↔
      statuses = program.siteStatusMap ∧ loops = program.procThreadMap := by
  cases program
  simp

/-- The statuses and the loops after a late failure are those before it exactly when the
new configuration asks for no change. -/
theorem undisturbed_iff (hnames : new.internalConfiguration.hostNames.Nodup) :
    newStatuses (program.compared before new)
        (((program.marked before new).filter ProcInfo.markedForRemoval).foldl (leave isRunning)
          program.siteStatusMap) = program.siteStatusMap ∧
      (program.marked before new).filter (fun info => !info.markedForRemoval) =
        program.procThreadMap ↔
      program.Undisturbed before new.internalConfiguration := by
  have hprocesses : ∀ name, ((program.compared before new).hostedProcesses name).isSome = true ↔
      name ∈ (program.compared before new).internalConfiguration.sites.map
        InProcessSiteConfig.hostName := byHostName_isSome _ _
  have hnames' : (program.compared before new).internalConfiguration.hostNames.Nodup := by
    rw [hostNames_compared]
    exact hnames
  have hfit : ∀ statuses, StatusesFit (program.compared before new).internalConfiguration
      statuses ↔ StatusesFit new.internalConfiguration statuses := by
    intro statuses
    constructor
    · rintro ⟨hall, hremotes, hdirs⟩
      exact ⟨by rwa [statusKept_compared] at hall, hremotes, hdirs⟩
    · rintro ⟨hall, hremotes, hdirs⟩
      exact ⟨by rwa [statusKept_compared], hremotes, hdirs⟩
  have hleft : (∀ info ∈ program.procThreadMap,
      (markLoop (program.toStart before new.internalConfiguration)
        (program.compared before new).internalConfiguration.sites info).markedForRemoval =
          false) → (program.marked before new).filter ProcInfo.markedForRemoval = [] := by
    intro hstay
    rw [List.filter_eq_nil_iff, Program.marked, List.forall_mem_map]
    intro info hinfo
    rw [hstay info hinfo]
    exact Bool.false_ne_true
  constructor
  · rintro ⟨hstatuses, hloops⟩
    have hstay := (remaining_eq_iff _ _ _).mp hloops
    rw [hleft hstay, List.foldl_nil, newStatuses_eq_iff hprocesses hnames', hfit] at hstatuses
    have hall := marked_stay_iff.mp hstay
    exact ⟨fun info hinfo => (hall info hinfo).1, fun info hinfo => (hall info hinfo).2.1,
      fun info hinfo => (hall info hinfo).2.2, hstatuses⟩
  · rintro ⟨hunmarked, hlisted, hunmodified, hstatuses⟩
    have hstay := marked_stay_iff.mpr fun info hinfo =>
      ⟨hunmarked info hinfo, hlisted info hinfo, hunmodified info hinfo⟩
    rw [hleft hstay, List.foldl_nil, newStatuses_eq_iff hprocesses hnames', hfit]
    exact ⟨hstatuses, (remaining_eq_iff _ _ _).mpr hstay⟩

/-- A late failure is an error, and leaves the program as it was only by chance. -/
theorem adopt_failed (hnames : new.internalConfiguration.hostNames.Nodup)
    (hlate : program.FailsLate before after new.internalConfiguration) :
    (∃ e, (program.adopt before after isRunning new).1 = .error e) ∧
      ((program.adopt before after isRunning new).2 = program ↔
        program.Undisturbed before new.internalConfiguration) := by
  have hpasses := adopt_passes_iff.mpr hlate.compared
  obtain ⟨e, herror⟩ := (@startLoops_error_iff after
    (program.compared before new).internalConfiguration
    ((program.marked before new).filter fun info => !info.markedForRemoval) _).mpr
    ⟨toStart_ne_nil.mpr hlate.starts, hlate.fails⟩
  have hloops := @startLoops_failed after (program.compared before new).internalConfiguration
    ((program.marked before new).filter fun info => !info.markedForRemoval)
    (program.toStart before new.internalConfiguration) hlate.fails
  rw [Program.adopt, if_neg (by rw [hpasses]; exact Bool.false_ne_true)]
  dsimp only
  split
  · next loops e' hstart =>
    refine ⟨⟨e', rfl⟩, ?_⟩
    obtain rfl : loops = (program.marked before new).filter fun info => !info.markedForRemoval := by
      rw [hstart] at hloops
      exact hloops
    rw [program_eq_iff]
    exact undisturbed_iff hnames
  · next loops hstart =>
    rw [hstart] at herror
    contradiction

theorem adopt_error_early
    (hearly : ¬program.FailsLate before after new.internalConfiguration)
    (hchanged : new.internalConfiguration.eq program.config.internalConfiguration = false)
    {e : ReloadError} (h : (program.adopt before after isRunning new).1 = .error e) :
    (program.adopt before after isRunning new).2 = program := by
  rw [Program.adopt] at h ⊢
  split_ifs at h ⊢ with habort
  · rfl
  · rw [Bool.not_eq_true] at habort
    dsimp only at h ⊢
    split at h
    · next loops e' hstart =>
      have herror := startLoops_error_iff.mp ⟨e', congrArg Prod.snd hstart⟩
      exact absurd ⟨hchanged, adopt_passes_iff.mp habort, toStart_ne_nil.mp herror.1, herror.2⟩
        hearly
    · contradiction

variable (before after isRunning program)

/-- A reload that returns an error leaves the program as it was, exactly when the new
configuration fails no later than at the last check, or asks for no change anyway. -/
theorem reload_atomic_iff :
    (∀ e, (program.reloadFromDisk before after isRunning).1 = .error e →
        (program.reloadFromDisk before after isRunning).2 = program) ↔
      ∀ new, readNewConfiguration before program.config = .ok new →
        program.FailsLate before after new.internalConfiguration →
          program.Undisturbed before new.internalConfiguration := by
  rw [Program.reloadFromDisk]
  cases hread : readNewConfiguration before program.config with
  | error failure =>
    cases failure with
    | error text => simp
    | panicked text => simp
  | ok new =>
    simp only [Except.ok.injEq, forall_eq']
    cases heq : new.internalConfiguration.eq program.config.internalConfiguration with
    | true =>
      refine iff_of_true (by simp) ?_
      intro hlate
      rw [hlate.changed] at heq
      contradiction
    | false =>
      rw [if_neg Bool.false_ne_true]
      by_cases hlate : program.FailsLate before after new.internalConfiguration
      · have hfailed := @adopt_failed before after isRunning program new
          (readNewConfiguration_names hread) hlate
        obtain ⟨⟨e, he⟩, hstate⟩ := hfailed
        rw [← hstate]
        exact ⟨fun h _ => h e he, fun h _ _ => h hlate⟩
      · exact iff_of_true (fun e he => adopt_error_early hlate heq he) fun h => absurd h hlate

end

/-! ## A root directory that does not exist -/

/-- A new process, in a root directory that does not exist. -/
def missingRootFile : String :=
  "version = \"V3\"\nroot_dir = \"/gone\"\n[[hosted_process]]\nhost_name = \"b\"\nbin = \"run\"\n"

def missingRoot : Environment :=
  { oneFile missingRootFile with
    canonicalize := fun path =>
      if path = "/gone" then .error "No such file or directory (os error 2)"
      else .ok ⟨some path, path⟩
    readId := fun _ => ⟨"b"⟩ }

def oneProcess (rootDir : Option String) (process : InProcessSiteConfig) : OddBoxV3Config :=
  { oneRemote none with
    rootDir := rootDir
    remoteTarget := none
    hostedProcess := some [process] }

/-- A program with one process, which is running. -/
def runningA : Program where
  config := ConfigWrapper.new (oneProcess none (plainSite "a" (some 4200)))
  siteStatusMap := Function.update (fun _ => none) "a" (some .running)
  procThreadMap := [⟨(plainSite "a" (some 4200)).resolved ("/root", "/srv", "/srv"), false⟩]

set_option maxRecDepth 20000 in
theorem missingRootFile_parse : readerCrate.parse missingRootFile =
    some [("version", .string "V3"), ("root_dir", .string "/gone"),
      ("hosted_process", .array [.table [("host_name", .string "b"), ("bin", .string "run")]])] :=
  rfl

theorem missingRootFile_read : readNewConfiguration missingRoot runningA.config =
    .ok { ConfigWrapper.new (oneProcess (some "/gone") (plainSite "b" none)) with
      internalVersion := 1 } := by
  have hparse : AnyOddBoxConfig.parse (fun _ => ⟨"b"⟩) readerCrate missingRootFile =
      .ok (.v3 { oneProcess (some "/gone") (plainSite "b" none) with path := none }) := by
    rw [parse_v3_iff, fromStr_of_parse missingRootFile_parse]
    rfl
  exact @readNewConfiguration_v3 missingRoot runningA.config _ missingRootFile _
    ⟨some "/srv/odd-box.toml", "/srv/odd-box.toml"⟩ rfl rfl hparse rfl rfl

set_option maxRecDepth 20000 in
theorem missingRoot_fails (values : String × String × String) :
    (oneProcess (some "/gone") (plainSite "b" none)).resolveVariables missingRoot ≠
      .ok values := by
  rintro ⟨⟩

/-- The loop of the running process has left, and the new configuration is not adopted. -/
theorem runningA_stopped :
    (∃ e, (runningA.reloadFromDisk missingRoot missingRoot fun _ => true).1 = .error e) ∧
      (runningA.reloadFromDisk missingRoot missingRoot fun _ => true).2 ≠ runningA := by
  have hlate : runningA.FailsLate missingRoot missingRoot
      (oneProcess (some "/gone") (plainSite "b" none)) :=
    ⟨by decide, .inr (by decide), ⟨_, List.mem_singleton_self _, rfl⟩, missingRoot_fails⟩
  have hfailed := @adopt_failed missingRoot missingRoot (fun _ => true) runningA _
    (readNewConfiguration_names missingRootFile_read) hlate
  rw [Program.reloadFromDisk, missingRootFile_read]
  dsimp only
  rw [if_neg (by exact Bool.eq_false_iff.mp hlate.changed)]
  refine ⟨hfailed.1, ?_⟩
  intro hstate
  obtain ⟨process, hprocess, hname⟩ := (hfailed.2.mp hstate).listed _ (List.mem_singleton_self _)
  obtain rfl := List.mem_singleton.mp hprocess
  exact absurd hname (by decide)

end OddBox.Configuration

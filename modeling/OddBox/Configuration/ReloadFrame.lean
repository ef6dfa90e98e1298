import OddBox.Configuration.ReloadAtomicity

/-!
What a reload that succeeds does to the sites that the file says nothing about, and to
the statuses of those it does: the containers of docker are known to the running program
only, and their statuses stand in one map with the statuses of all other sites.
-/

namespace OddBox.Configuration

open Routing (ContainerProxyTarget)

/-! ## Reloads that succeed -/

section

variable (before : Environment) {after : Environment} (isRunning : ProcInfo → Bool)
  {program : Program}

/-- The statuses after the loops that are marked have left. -/
def Program.left (program : Program) (new : ConfigWrapper) : String → Option ProcState :=
  ((program.marked before new).filter ProcInfo.markedForRemoval).foldl (leave isRunning)
    program.siteStatusMap

variable {before isRunning}

theorem adopt_reloaded {new : ConfigWrapper}
    (h : (program.adopt before after isRunning new).1 = .reloaded) :
    (program.adopt before after isRunning new).2.config = program.compared before new ∧
      (program.adopt before after isRunning new).2.siteStatusMap =
        newStatuses (program.compared before new) (program.left before isRunning new) := by
  unfold Program.adopt at h ⊢
  split_ifs at h ⊢ with habort
  dsimp only at h ⊢
  split at h
  · contradiction
  · exact ⟨rfl, rfl⟩

theorem adopt_ne_unchanged (new : ConfigWrapper) :
    (program.adopt before after isRunning new).1 ≠ .unchanged := by
  unfold Program.adopt
  split_ifs with habort
  · rintro ⟨⟩
  · dsimp only
    split <;> rintro ⟨⟩

/-- A reload that succeeds has read a configuration. One that equals the active one changes
nothing, and any other one is adopted with the processes as they were compared. -/
theorem reloadFromDisk_cases
    (h : (program.reloadFromDisk before after isRunning).1 = .reloaded ∨
      (program.reloadFromDisk before after isRunning).1 = .unchanged) :
    ∃ new, readNewConfiguration before program.config = .ok new ∧
      (new.internalConfiguration.eq program.config.internalConfiguration = true ∧
          program.reloadFromDisk before after isRunning = (.unchanged, program) ∨
        new.internalConfiguration.eq program.config.internalConfiguration = false ∧
          program.reloadFromDisk before after isRunning =
            program.adopt before after isRunning new) := by
  unfold Program.reloadFromDisk at h ⊢
  split at h
  · rcases h with h | h <;> contradiction
  · rcases h with h | h <;> contradiction
  · rename_i new hread
    refine ⟨new, hread, ?_⟩
    split_ifs with heq
    · exact .inl ⟨heq, rfl⟩
    · exact .inr ⟨Bool.eq_false_iff.mpr heq, rfl⟩

theorem reloadFromDisk_reloaded
    (h : (program.reloadFromDisk before after isRunning).1 = .reloaded) :
    ∃ new, readNewConfiguration before program.config = .ok new ∧
      new.internalConfiguration.eq program.config.internalConfiguration = false ∧
      program.reloadFromDisk before after isRunning = program.adopt before after isRunning new := by
  obtain ⟨new, hread, ⟨-, hsame⟩ | ⟨heq, hadopt⟩⟩ := reloadFromDisk_cases (.inl h)
  · rw [hsame] at h
    contradiction
  · exact ⟨new, hread, heq, hadopt⟩

/-- A reload for a configuration that has not changed does nothing. -/
theorem reloadFromDisk_unchanged
    (h : (program.reloadFromDisk before after isRunning).1 = .unchanged) :
    ∃ new, readNewConfiguration before program.config = .ok new ∧
      new.internalConfiguration.eq program.config.internalConfiguration = true ∧
      (program.reloadFromDisk before after isRunning).2 = program := by
  obtain ⟨new, hread, ⟨heq, hsame⟩ | ⟨-, hadopt⟩⟩ := reloadFromDisk_cases (.inr h)
  · exact ⟨new, hread, heq, congrArg Prod.snd hsame⟩
  · rw [hadopt] at h
    exact absurd h (adopt_ne_unchanged new)

end

/-! ## Statuses -/

section

/-- A loop that leaves takes the status of its site along, also where that is a container's. -/
theorem foldl_leave_docker (isRunning : ProcInfo → Bool) (infos : List ProcInfo)
    (statuses : String → Option ProcState) (name : String) :
    (infos.foldl (leave isRunning) statuses) name = some .docker ↔
      statuses name = some .docker ∧ ∀ info ∈ infos, info.config.hostName ≠ name := by
  induction infos generalizing statuses with
  | nil => simp
  | cons info infos ih =>
    rw [List.foldl_cons, ih, leave, List.forall_mem_cons]
    by_cases hname : name = info.config.hostName
    · subst hname
      rw [Function.update_self]
      refine iff_of_false ?_ ?_
      · rintro ⟨h, -⟩
        split_ifs at h
        cases h
      · rintro ⟨-, h, -⟩
        exact h rfl
    · rw [Function.update_of_ne hname]
      constructor
      · rintro ⟨h, hall⟩
        exact ⟨h, Ne.symm hname, hall⟩
      · rintro ⟨h, -, hall⟩
        exact ⟨h, hall⟩

variable {before : Environment} {isRunning : ProcInfo → Bool} {program : Program}
  {new : ConfigWrapper}

/-- The status of a container outlives the reload where a hosted process of the new
configuration has the container's name, and no loop of that name leaves. -/
structure Program.KeepsDocker (before : Environment) (program : Program) (new : OddBoxV3Config)
    (name : String) : Prop where
  listed : ∃ process ∈ new.sites, process.hostName = name
  unmarked : ∀ info ∈ program.procThreadMap, info.config.hostName = name →
    info.markedForRemoval = false
  unmodified : ∀ info ∈ program.procThreadMap, info.config.hostName = name →
    ∀ process ∈ new.sites, process.hostName = name →
      (compareProcess before new program.procThreadMap process).modified = false

theorem left_docker_iff (name : String)
    (hlisted : ∃ process ∈ new.internalConfiguration.sites, process.hostName = name) :
    program.left before isRunning new name = some .docker ↔
      program.siteStatusMap name = some .docker ∧
        program.KeepsDocker before new.internalConfiguration name := by
  rw [Program.left, foldl_leave_docker]
  apply and_congr_right
  intro _
  have hmarked : (∀ info ∈ (program.marked before new).filter ProcInfo.markedForRemoval,
      info.config.hostName ≠ name) ↔ ∀ info ∈ program.procThreadMap, info.config.hostName = name →
        (markLoop (program.toStart before new.internalConfiguration)
          (program.compared before new).internalConfiguration.sites info).markedForRemoval =
            false := by
    rw [Program.marked]
    constructor
    · intro h info hinfo hname
      by_contra hleaves
      rw [Bool.not_eq_false] at hleaves
      have hmem := List.mem_filter.mpr ⟨List.mem_map_of_mem hinfo, hleaves⟩
      apply h _ hmem
      rw [markLoop_config, hname]
    · intro h info hinfo hname
      obtain ⟨hinfo, hleaves⟩ := List.mem_filter.mp hinfo
      obtain ⟨info, hloop, rfl⟩ := List.mem_map.mp hinfo
      rw [markLoop_config] at hname
      rw [h info hloop hname] at hleaves
      contradiction
  rw [hmarked]
  simp only [marked_stays_iff]
  constructor
  · intro h
    refine ⟨hlisted, ?_, ?_⟩
    · intro info hinfo hname
      exact (h info hinfo hname).1
    · intro info hinfo hname process hprocess hsame
      exact (h info hinfo hname).2.2 process hprocess (hsame.trans hname.symm)
  · rintro ⟨-, hunmarked, hunmodified⟩ info hinfo hname
    refine ⟨hunmarked info hinfo hname, ?_, ?_⟩
    · rw [hname]
      exact hlisted
    · intro process hprocess hsame
      exact hunmodified info hinfo hname process hprocess (hsame.trans hname)

theorem newStatuses_docker_iff (hnames : new.internalConfiguration.hostNames.Nodup)
    (name : String) :
    newStatuses (program.compared before new) (program.left before isRunning new) name =
        some .docker ↔
      program.siteStatusMap name = some .docker ∧
        program.KeepsDocker before new.internalConfiguration name := by
  have hprocesses : ∀ name, ((program.compared before new).hostedProcesses name).isSome = true ↔
      name ∈ (program.compared before new).internalConfiguration.sites.map
        InProcessSiteConfig.hostName := byHostName_isSome _ _
  rw [newStatuses_apply]
  by_cases hlisted : name ∈ new.internalConfiguration.sites.map InProcessSiteConfig.hostName
  · have hother : name ∉ new.internalConfiguration.dirServers.map DirServer.hostName ∧
        name ∉ new.internalConfiguration.remoteTargets.map RemoteSiteConfig.hostName := by
      rw [OddBoxV3Config.hostNames] at hnames
      have hdisjoint := List.disjoint_of_nodup_append hnames
      constructor
      · intro hdir
        exact hdisjoint (List.mem_append_left _ hdir) hlisted
      · intro hremote
        exact hdisjoint (List.mem_append_right _ hremote) hlisted
    rw [if_neg (by exact hother.1), if_neg (by exact hother.2), Option.filter_eq_some_iff,
      retainStatus_iff hprocesses, statusKept_compared,
        left_docker_iff name (by simpa using hlisted)]
    constructor
    · intro h
      exact h.1
    · intro h
      exact ⟨h, hlisted⟩
  · refine iff_of_false ?_ ?_
    · intro h
      split_ifs at h with hdir hremote
      · cases h
      · cases h
      · rw [Option.filter_eq_some_iff, retainStatus_iff hprocesses, statusKept_compared] at h
        exact hlisted h.2
    · rintro ⟨-, ⟨process, hprocess, rfl⟩, -, -⟩
      exact hlisted (List.mem_map_of_mem hprocess)

theorem newStatuses_kept {name : String} {state : ProcState}
    (h : newStatuses (program.compared before new) (program.left before isRunning new) name =
      some state) :
    StatusKept new.internalConfiguration name state := by
  have hprocesses : ∀ name, ((program.compared before new).hostedProcesses name).isSome = true ↔
      name ∈ (program.compared before new).internalConfiguration.sites.map
        InProcessSiteConfig.hostName := byHostName_isSome _ _
  rw [newStatuses_apply] at h
  split_ifs at h with hdir hremote
  · cases h
    exact hdir
  · cases h
    exact hremote
  · rw [Option.filter_eq_some_iff, retainStatus_iff hprocesses, statusKept_compared] at h
    exact h.2

theorem statusKept_hostName {config : OddBoxV3Config} {name : String} {state : ProcState}
    (h : StatusKept config name state) : name ∈ config.hostNames := by
  rw [OddBoxV3Config.hostNames, List.mem_append, List.mem_append]
  cases state with
  | remote => exact .inl (.inr h)
  | dirServer => exact .inl (.inl h)
  | faulty => exact .inr h
  | stopped => exact .inr h
  | starting => exact .inr h
  | stopping => exact .inr h
  | running => exact .inr h
  | docker => exact .inr h

end

/-! ## The frame of a reload -/

/-- What a reload from one configuration to another leaves alone, adds and removes. -/
structure Framed (old new : OddBoxV3Config) (program program' : Program) : Prop where
  containers : program'.config.dockerContainers = program.config.dockerContainers
  dockers : ∀ name, program'.siteStatusMap name = some .docker ↔
    program.siteStatusMap name = some .docker
  remotes : ∀ site ∈ new.remoteTargets, program'.siteStatusMap site.hostName ≠ none
  dirServers : ∀ s ∈ new.dirServers, program'.siteStatusMap s.hostName ≠ none
  removed : ∀ name ∈ old.hostNames, name ∉ new.hostNames → program'.siteStatusMap name = none
  /-- A name that stays for a site of another kind does not keep the entry of its old site. -/
  retyped : ∀ name state, state ≠ .docker → StatusKept old name state →
    program'.siteStatusMap name = some state → StatusKept new name state

/-- When a reload for this configuration does no harm: where it is another one, there are no
containers that could get lost, and where it is the active one, no entry is missing. -/
structure Program.Harmless (before : Environment) (program : Program) (new : OddBoxV3Config) :
    Prop where
  containers : new.eq program.config.internalConfiguration = false →
    program.config.dockerContainers = []
  dockers : new.eq program.config.internalConfiguration = false →
    ∀ name, program.siteStatusMap name = some .docker → program.KeepsDocker before new name
  remotes : new.eq program.config.internalConfiguration = true →
    ∀ site ∈ new.remoteTargets, program.siteStatusMap site.hostName ≠ none
  dirServers : new.eq program.config.internalConfiguration = true →
    ∀ s ∈ new.dirServers, program.siteStatusMap s.hostName ≠ none

section

variable {before after : Environment} {isRunning : ProcInfo → Bool} {program : Program}
  {new : ConfigWrapper}

/-- A configuration from the file knows no containers. -/
theorem readNewConfiguration_containers
    (h : readNewConfiguration before program.config = .ok new) : new.dockerContainers = [] := by
  obtain ⟨_, _, _, latest, _, _, path, -, -, -, -, -, rfl⟩ := readNewConfiguration_built h
  rfl

/-- A reload that adopts the configuration of the file respects the frame exactly where no
container is known before and the containers' statuses outlive it. -/
theorem framed_adopt (hread : readNewConfiguration before program.config = .ok new)
    (hreloaded : (program.adopt before after isRunning new).1 = .reloaded) :
    Framed program.config.internalConfiguration new.internalConfiguration program
        (program.adopt before after isRunning new).2 ↔
      program.config.dockerContainers = [] ∧ ∀ name, program.siteStatusMap name = some .docker →
        program.KeepsDocker before new.internalConfiguration name := by
  obtain ⟨hconfig, hstatuses⟩ := adopt_reloaded hreloaded
  have hcontainers : (program.adopt before after isRunning new).2.config.dockerContainers =
      [] := by
    rw [hconfig]
    change new.dockerContainers = []
    exact readNewConfiguration_containers hread
  have hdocker := @newStatuses_docker_iff before isRunning program new
    (readNewConfiguration_names hread)
  constructor
  · intro hframed
    constructor
    · rw [← hframed.containers, hcontainers]
    · intro name hname
      have hkept := (hframed.dockers name).mpr hname
      rw [hstatuses, hdocker] at hkept
      exact hkept.2
  · rintro ⟨hempty, hkeeps⟩
    constructor
    · rw [hcontainers, hempty]
    · intro name
      rw [hstatuses, hdocker]
      constructor
      · intro h
        exact h.1
      · intro h
        exact ⟨h, hkeeps name h⟩
    · intro site hsite
      have hmem : site.hostName ∈
          (program.compared before new).internalConfiguration.remoteTargets.map
            RemoteSiteConfig.hostName := List.mem_map_of_mem hsite
      rw [hstatuses, newStatuses_apply, if_pos hmem]
      split_ifs <;> simp
    · intro s hs
      have hmem : s.hostName ∈ (program.compared before new).internalConfiguration.dirServers.map
          DirServer.hostName := List.mem_map_of_mem hs
      rw [hstatuses, newStatuses_apply, if_pos hmem]
      simp
    · intro name _ hgone
      rw [hstatuses, Option.eq_none_iff_forall_ne_some]
      intro state hstate
      exact hgone (statusKept_hostName (newStatuses_kept hstate))
    · intro name state _ _ hstate
      rw [hstatuses] at hstate
      exact newStatuses_kept hstate

theorem map_eq_of_forall₂ {α β : Type} {R : α → α → Prop} {f : α → β} {xs ys : List α}
    (h : List.Forall₂ R xs ys) (hitem : ∀ x y, R x y → f x = f y) : xs.map f = ys.map f := by
  induction h with
  | nil => rfl
  | cons hfirst _ ih => rw [List.map_cons, List.map_cons, hitem _ _ hfirst, ih]

theorem processNames_of_eq {new old : OddBoxV3Config} (heq : new.eq old = true) :
    new.sites.map InProcessSiteConfig.hostName = old.sites.map InProcessSiteConfig.hostName := by
  simp only [OddBoxV3Config.eq, Bool.and_eq_true, beq_iff_eq, and_assoc] at heq
  obtain ⟨-, -, -, -, -, -, -, -, -, -, -, -, -, hprocesses, -⟩ := heq
  apply map_eq_of_forall₂ (forall₂_of_optionVecEq hprocesses)
  intro x y h
  simp only [InProcessSiteConfig.eq, Bool.and_eq_true, beq_iff_eq, and_assoc] at h
  exact h.2.2.2.2.1

/-- Configurations that count as equal are for the same sites. -/
theorem statusKept_of_eq {new old : OddBoxV3Config} (heq : new.eq old = true) :
    StatusKept new = StatusKept old ∧ new.hostNames = old.hostNames := by
  have hprocesses := processNames_of_eq heq
  simp only [OddBoxV3Config.eq, Bool.and_eq_true, beq_iff_eq, and_assoc] at heq
  obtain ⟨-, -, -, -, -, -, -, -, -, -, -, -, hremotes, -, hdirs, -⟩ := heq
  have hdirs : new.dirServers = old.dirServers := congrArg (Option.getD · []) hdirs
  have hremotes : new.remoteTargets.map RemoteSiteConfig.hostName =
      old.remoteTargets.map RemoteSiteConfig.hostName := by
    apply map_eq_of_forall₂ (forall₂_of_optionVecEq hremotes)
    intro x y h
    simp only [RemoteSiteConfig.eq, Bool.and_eq_true, beq_iff_eq, and_assoc] at h
    exact h.1
  constructor
  · funext name state
    cases state <;> simp only [StatusKept, hremotes, hprocesses, hdirs]
  · rw [OddBoxV3Config.hostNames, OddBoxV3Config.hostNames, hdirs, hremotes, hprocesses]

theorem framed_unchanged
    (heq : new.internalConfiguration.eq program.config.internalConfiguration = true) :
    Framed program.config.internalConfiguration new.internalConfiguration program program ↔
      (∀ site ∈ new.internalConfiguration.remoteTargets,
        program.siteStatusMap site.hostName ≠ none) ∧
      ∀ s ∈ new.internalConfiguration.dirServers, program.siteStatusMap s.hostName ≠ none := by
  obtain ⟨hkept, hnames⟩ := statusKept_of_eq heq
  constructor
  · intro hframed
    exact ⟨hframed.remotes, hframed.dirServers⟩
  · rintro ⟨hremotes, hdirs⟩
    constructor
    · rfl
    · intro name
      rfl
    · exact hremotes
    · exact hdirs
    · intro name hname hgone
      rw [hnames] at hgone
      exact absurd hname hgone
    · intro name state _ hstate _
      rw [hkept]
      exact hstate

variable (program before after isRunning new)

/-- **The frame of a reload**: a reload that succeeds leaves the containers and their statuses
alone, has an entry for every remote target and directory server, and none for a site that is
gone, exactly where it is harmless. -/
theorem reload_framed_iff (hread : readNewConfiguration before program.config = .ok new)
    (hsuccess : (program.reloadFromDisk before after isRunning).1 = .reloaded ∨
      (program.reloadFromDisk before after isRunning).1 = .unchanged) :
    Framed program.config.internalConfiguration new.internalConfiguration program
        (program.reloadFromDisk before after isRunning).2 ↔
      program.Harmless before new.internalConfiguration := by
  rcases hsuccess with hreloaded | hunchanged
  · obtain ⟨other, hother, heq, hadopt⟩ := reloadFromDisk_reloaded hreloaded
    rw [hread] at hother
    cases hother
    rw [hadopt] at hreloaded ⊢
    rw [framed_adopt hread hreloaded]
    constructor
    · rintro ⟨hempty, hkeeps⟩
      have hnot : ¬new.internalConfiguration.eq program.config.internalConfiguration = true := by
        rw [heq]
        exact Bool.false_ne_true
      exact ⟨fun _ => hempty, fun _ => hkeeps, fun h => absurd h hnot, fun h => absurd h hnot⟩
    · intro hharmless
      exact ⟨hharmless.containers heq, hharmless.dockers heq⟩
  · obtain ⟨other, hother, heq, hsame⟩ := reloadFromDisk_unchanged hunchanged
    rw [hread] at hother
    cases hother
    rw [hsame, framed_unchanged heq]
    constructor
    · rintro ⟨hremotes, hdirs⟩
      have hnot : ¬new.internalConfiguration.eq program.config.internalConfiguration = false := by
        rw [heq]
        rintro ⟨⟩
      exact ⟨fun h => absurd h hnot, fun h => absurd h hnot, fun _ => hremotes, fun _ => hdirs⟩
    · intro hharmless
      exact ⟨hharmless.remotes heq, hharmless.dirServers heq⟩

end

/-! ## A container that is running -/

def container : ContainerProxyTarget where
  containerName := "web"
  hostNameLabel := none
  targetAddr := "172.17.0.2"
  tls := false
  hints := []
  port := 80
  captureSubdomains := none
  terminateTls := none
  terminateHttp := none
  forwardSubdomains := none
  enableLetsEncrypt := none
  keepOriginalHostHeader := none
  redirectToHttps := none

/-- A program that has found one container. -/
def withContainer : Program where
  config := { ConfigWrapper.new { oneRemote none with alpn := some false } with
    dockerContainers := [("web.odd-box.localhost", container)] }
  siteStatusMap := Function.update (fun _ => none) "web.odd-box.localhost" (some .docker)
  procThreadMap := []

theorem withContainer_reloaded : (withContainer.reloadFromDisk (oneFile redirectingFile)
    (oneFile redirectingFile) fun _ => false).1 = .reloaded := by
  unfold Program.reloadFromDisk
  rw [@redirectingFile_read withContainer rfl]
  rfl

theorem reload_framed_container :
    Framed withContainer.config.internalConfiguration (oneRemote (some true)) withContainer
        (withContainer.reloadFromDisk (oneFile redirectingFile) (oneFile redirectingFile)
          fun _ => false).2 ↔
      withContainer.Harmless (oneFile redirectingFile) (oneRemote (some true)) :=
  reload_framed_iff (oneFile redirectingFile) (oneFile redirectingFile) (fun _ => false)
    withContainer _ (@redirectingFile_read withContainer rfl) (.inl withContainer_reloaded)

/-- Another setting of `alpn` takes the route and the status of the container away. -/
theorem container_lost :
    (withContainer.reloadFromDisk (oneFile redirectingFile) (oneFile redirectingFile)
        fun _ => false).1 = .reloaded ∧
      ¬Framed withContainer.config.internalConfiguration (oneRemote (some true)) withContainer
        (withContainer.reloadFromDisk (oneFile redirectingFile) (oneFile redirectingFile)
          fun _ => false).2 := by
  constructor
  · exact withContainer_reloaded
  · intro hframed
    have hcontainers := hframed.containers
    unfold Program.reloadFromDisk at hcontainers
    rw [@redirectingFile_read withContainer rfl] at hcontainers
    have hlost : [] = [("web.odd-box.localhost", container)] := hcontainers
    contradiction

end OddBox.Configuration

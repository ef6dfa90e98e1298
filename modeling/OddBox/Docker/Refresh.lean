import OddBox.Configuration.ReloadAtomicity
import OddBox.Docker.Targets
import OddBox.Machine

/-!
The thread that asks Docker for the containers again and again: what it lists replaces the
containers that are routed to, and the statuses say which these are. Both are touched by
others: the loops of the processes write statuses, and a reload drops the containers.
-/

namespace OddBox.Docker

open OddBox.Configuration OddBox.Routing

/-! ## The thread -/

/-- The order in which a map is iterated. -/
structure Iteration where
  order : List (String × ContainerProxyTarget) → List (String × ContainerProxyTarget)
  perm : ∀ map, (order map).Perm map

structure DockerState where
  siteStatusMap : String → Option ProcState
  dockerContainers : List (String × ContainerProxyTarget)

def DockerState.new : DockerState := ⟨fun _ => none, []⟩

/-- What happens to the statuses and the containers. -/
inductive DockerOp where
  /-- A turn of `docker_thread`: whether it connects, and what is listed, unless that fails. -/
  | refresh (connects : Bool) (listing : Option (List ContainerSummary))
  /-- A status is written, or removed, by any other part of the program. -/
  | write (hostName : String) (state : Option ProcState) (other : state ≠ some .docker)
  /-- The reload writes the statuses for a new configuration. -/
  | retain (new : ConfigWrapper)
  /-- A new configuration comes without containers. -/
  | adopt

namespace DockerState

variable (iteration : Iteration) (toLowercase : String → String)

/-- `running_container_targets_dash_map`. -/
def listed (listing : Option (List ContainerSummary)) :
    List (String × ContainerProxyTarget) :=
  iteration.order (KeyedList.collect ContainerProxyTarget.generateHostName
    (getContainerProxyTargets toLowercase (listing.getD [])))

def refresh (self : DockerState) (listing : Option (List ContainerSummary)) : DockerState :=
  let containers := listed iteration toLowercase listing
  let retained := fun hostName => (self.siteStatusMap hostName).filter fun state =>
    state != .docker || (containers.lookup hostName).isSome
  { siteStatusMap := insertStatuses .docker (containers.map Prod.fst) retained
    dockerContainers := containers }

def step (self : DockerState) : DockerOp → DockerState
  | .refresh connects listing =>
    if connects then self.refresh iteration toLowercase listing else self
  | .write hostName state _ =>
    { self with siteStatusMap := Function.update self.siteStatusMap hostName state }
  | .retain new => { self with siteStatusMap := newStatuses new self.siteStatusMap }
  | .adopt => { self with dockerContainers := [] }

/-- The statuses name exactly the containers that are routed to. -/
def Truthful (self : DockerState) : Prop :=
  ∀ hostName, self.siteStatusMap hostName = some .docker ↔
    (self.dockerContainers.lookup hostName).isSome = true

/-- What the others do does not touch a host name of a container. -/
def Undisturbed (self : DockerState) : DockerOp → Prop
  | .refresh _ _ => True
  | .write hostName _ _ => self.dockerContainers.lookup hostName = none
  | .retain new => ∀ hostName, (self.dockerContainers.lookup hostName).isSome = true →
      hostName ∉ new.internalConfiguration.dirServers.map DirServer.hostName ∧
        hostName ∉ new.internalConfiguration.remoteTargets.map RemoteSiteConfig.hostName ∧
        (new.hostedProcesses hostName).isSome = true
  | .adopt => self.dockerContainers = []

end DockerState

/-! ## What a refresh leaves -/

section

variable {iteration : Iteration} {toLowercase : String → String}

theorem mem_keys_iff {map : List (String × ContainerProxyTarget)} {hostName : String} :
    hostName ∈ map.map Prod.fst ↔ (map.lookup hostName).isSome = true := by
  rw [List.lookup_isSome_iff, List.mem_map]
  constructor
  · rintro ⟨entry, hentry, rfl⟩
    exact ⟨entry, hentry, beq_self_eq_true _⟩
  · rintro ⟨entry, hentry, hname⟩
    exact ⟨entry, hentry, (beq_iff_eq.mp hname).symm⟩

/-- Where no container is, a status stays, but that of a container is removed. -/
theorem refresh_status (self : DockerState) (listing : Option (List ContainerSummary))
    (hostName : String) :
    (self.refresh iteration toLowercase listing).siteStatusMap hostName =
      if ((self.refresh iteration toLowercase listing).dockerContainers.lookup
          hostName).isSome then some .docker
      else (self.siteStatusMap hostName).filter (· != .docker) := by
  change insertStatuses .docker ((DockerState.listed iteration toLowercase listing).map Prod.fst)
    _ hostName = if ((DockerState.listed iteration toLowercase listing).lookup
      hostName).isSome then _ else _
  rw [insertStatuses_apply]
  by_cases hlisted : ((DockerState.listed iteration toLowercase listing).lookup
      hostName).isSome = true
  · rw [if_pos (mem_keys_iff.mpr hlisted), if_pos hlisted]
  · rw [if_neg (fun hmem => hlisted (mem_keys_iff.mp hmem)), if_neg hlisted]
    apply congrFun (congrArg Option.filter _)
    funext state
    rw [Bool.not_eq_true] at hlisted
    rw [hlisted, Bool.or_false]

/-- After a refresh the statuses are right, whatever they were. -/
theorem refresh_truthful (self : DockerState) (listing : Option (List ContainerSummary)) :
    (self.refresh iteration toLowercase listing).Truthful := by
  intro hostName
  rw [refresh_status]
  split
  · rename_i hlisted
    exact iff_of_true rfl hlisted
  · rename_i hlisted
    refine iff_of_false ?_ hlisted
    rw [Option.filter_eq_some_iff]
    rintro ⟨-, hother⟩
    exact bne_iff_ne.mp hother rfl

/-! ## Statuses and containers -/

theorem newStatuses_docker {new : ConfigWrapper} {statuses : String → Option ProcState}
    {hostName : String} :
    newStatuses new statuses hostName = some .docker ↔
      statuses hostName = some .docker ∧
        hostName ∉ new.internalConfiguration.dirServers.map DirServer.hostName ∧
        hostName ∉ new.internalConfiguration.remoteTargets.map RemoteSiteConfig.hostName ∧
        (new.hostedProcesses hostName).isSome = true := by
  rw [newStatuses_apply]
  split
  · rename_i hdir
    exact iff_of_false (by rintro ⟨⟩) (fun h => h.2.1 hdir)
  · rename_i hdir
    split
    · rename_i hremote
      exact iff_of_false (by rintro ⟨⟩) (fun h => h.2.2.1 hremote)
    · rename_i hremote
      rw [Option.filter_eq_some_iff, and_iff_right hremote, and_iff_right hdir]
      rfl

theorem truthful_write_iff {self : DockerState} (h : self.Truthful) {hostName : String}
    {state : Option ProcState} (other : state ≠ some .docker) :
    (self.step iteration toLowercase (.write hostName state other)).Truthful ↔
      self.dockerContainers.lookup hostName = none := by
  have hwritten : Function.update self.siteStatusMap hostName state hostName = state :=
    Function.update_self _ _ _
  constructor
  · intro hafter
    have hhost : Function.update self.siteStatusMap hostName state hostName = some .docker ↔
        (self.dockerContainers.lookup hostName).isSome = true := hafter hostName
    rw [hwritten] at hhost
    rw [← Option.not_isSome_iff_eq_none, ← hhost]
    exact other
  · intro hnone name
    change Function.update self.siteStatusMap hostName state name = some .docker ↔
      (self.dockerContainers.lookup name).isSome = true
    by_cases hname : name = hostName
    · rw [hname, hwritten, hnone]
      exact iff_of_false other Bool.false_ne_true
    · rw [Function.update_of_ne hname]
      exact h name

theorem truthful_retain_iff {self : DockerState} (h : self.Truthful) {new : ConfigWrapper} :
    (self.step iteration toLowercase (.retain new)).Truthful ↔
      self.Undisturbed (.retain new) := by
  constructor
  · intro hafter hostName hsome
    exact (newStatuses_docker.mp ((hafter hostName).mpr hsome)).2
  · intro hkept hostName
    change newStatuses new self.siteStatusMap hostName = some .docker ↔ _
    rw [newStatuses_docker, h hostName]
    exact and_iff_left_of_imp (hkept hostName)

theorem truthful_adopt_iff {self : DockerState} (h : self.Truthful) :
    (self.step iteration toLowercase .adopt).Truthful ↔ self.dockerContainers = [] := by
  constructor
  · intro hafter
    rw [List.eq_nil_iff_forall_not_mem]
    intro entry hentry
    have hsome : (self.dockerContainers.lookup entry.1).isSome = true :=
      mem_keys_iff.mp (List.mem_map_of_mem hentry)
    have hnone := (hafter entry.1).mp ((h entry.1).mpr hsome)
    cases hnone
  · intro hempty hostName
    change self.siteStatusMap hostName = some .docker ↔ _
    rw [h hostName, hempty]
    rfl

theorem truthful_step_iff {self : DockerState} (h : self.Truthful) (op : DockerOp) :
    (self.step iteration toLowercase op).Truthful ↔ self.Undisturbed op := by
  cases op with
  | refresh connects listing =>
    refine iff_of_true ?_ trivial
    rw [DockerState.step]
    split
    · exact refresh_truthful self listing
    · exact h
  | write hostName state other => exact truthful_write_iff h other
  | retain new => exact truthful_retain_iff h
  | adopt => exact truthful_adopt_iff h

/-- **Statuses**: in every state of a run the sites that are shown as containers are those that
are routed to as containers, exactly if nothing else writes the status of a container's host
name, no reload gives one to another site, and none comes while there are containers. -/
theorem docker_statuses_iff (iteration : Iteration) (toLowercase : String → String)
    (ops : List DockerOp) :
    (∀ first, first <+: ops →
      (Machine.run (DockerState.step iteration toLowercase) .new first).Truthful) ↔
      Machine.Meets (DockerState.step iteration toLowercase) DockerState.Undisturbed .new ops := by
  apply Machine.meets_iff (J := fun _ => True)
  · intro _ _ _
    trivial
  · intro self op _ h
    exact truthful_step_iff h op
  · trivial
  · intro hostName
    exact iff_of_false (by rintro ⟨⟩) Bool.false_ne_true

/-! ## Requests for a container -/

end

end OddBox.Docker

import OddBox.Configuration.Reconciliation
import OddBox.Machine

/-!
What is true of a reload in every order in which the marked loops leave, the new loops
register and ports are picked: the loops that stay are never touched, a process is started
only after all marked loops have left, and in the end each process has one loop.
-/

namespace OddBox.Configuration

/-! ## What holds in the course of a reload -/

section

variable (before after : Environment) (program : Program) (new : ConfigWrapper)

/-- No loop that stays picks another port than it has. -/
def Act.KeepsPort : Act → Prop
  | .choose procId port | .setPort procId port =>
    ∀ info ∈ program.procThreadMap, info.config.procId = procId →
      Unchanged before new.internalConfiguration info → info.config.activePort = some port
  | _ => True

def ProcInfo.key (info : ProcInfo) : String × ProcId := (info.config.hostName, info.config.procId)

def ResolvedProcess.key (process : ResolvedProcess) : String × ProcId :=
  (process.hostName, process.procId)

def InProcessSiteConfig.key (process : InProcessSiteConfig) : String × ProcId :=
  (process.hostName, process.procId)

/-- While the marked loops leave. -/
structure Waiting (state : Reconciling) (left : List ProcId) : Prop where
  stay : state.loops.filter (fun info => !info.markedForRemoval) = program.staying before new
  leave : ∀ info ∈ program.procThreadMap, ¬Unchanged before new.internalConfiguration info →
    info.config.procId ∈ left ∨
      ∃ marked ∈ state.loops, marked.config.procId = info.config.procId ∧
        marked.markedForRemoval = true
  spawned : state.spawned = []
  events : state.events = left.map Event.left

/-- After the marked loops have left: which of the processes have been started, and which of
their loops are in the map. -/
structure Starting (state : Reconciling) (left : List ProcId) (started : List ResolvedProcess)
    (registered : List ProcInfo) (rest : List InProcessSiteConfig) : Prop where
  toStart : (program.toStart before new.internalConfiguration).map InProcessSiteConfig.key =
    started.map ResolvedProcess.key ++ rest.map InProcessSiteConfig.key
  loops : state.loops = program.staying before new ++ registered
  unmarked : ∀ info ∈ registered, info.markedForRemoval = false
  spawned : (registered.map ProcInfo.key ++ state.spawned.map ResolvedProcess.key).Perm
    (started.map ResolvedProcess.key)
  events : state.events = left.map Event.left ++ started.map Event.spawned
  leave : ∀ info ∈ program.procThreadMap, ¬Unchanged before new.internalConfiguration info →
    info.config.procId ∈ left

/-- What holds of a reload that marks loops, at every step. -/
inductive Reconciling.Invariant (self : Reconciling) : Prop where
  | waiting (left : List ProcId)
      (phase : self.phase = .waiting (program.compared before new)
        (program.toStart before new.internalConfiguration))
      (waiting : Waiting before program new self left)
  | starting (left : List ProcId) (started : List ResolvedProcess) (registered : List ProcInfo)
      (rest : List InProcessSiteConfig)
      (phase : self.phase = .starting (program.compared before new) rest)
      (starting : Starting before program new self left started registered rest)
  | reloaded (left : List ProcId) (started : List ResolvedProcess) (registered : List ProcInfo)
      (phase : self.phase = .finished .reloaded)
      (hostNames : self.config.internalConfiguration.sites.map InProcessSiteConfig.hostName =
        new.internalConfiguration.sites.map InProcessSiteConfig.hostName)
      (carried : ∀ info ∈ program.staying before new,
        Carries self.config.internalConfiguration.sites info)
      (starting : Starting before program new self left started registered [])
  | failed (e : ReloadError) (phase : self.phase = .finished (.error e))

variable {before after program new}

theorem staying_unmarked {info : ProcInfo} (h : info ∈ program.staying before new) :
    info.markedForRemoval = false := by
  have hkept := (List.mem_filter.mp h).2
  rwa [Bool.not_eq_true'] at hkept

theorem Starting.unmarked_loops {self : Reconciling} {left : List ProcId}
    {started : List ResolvedProcess} {registered : List ProcInfo}
    {rest : List InProcessSiteConfig}
    (h : Starting before program new self left started registered rest) :
    ∀ info ∈ self.loops, info.markedForRemoval = false := by
  intro info hinfo
  rw [h.loops, List.mem_append] at hinfo
  rcases hinfo with hstays | hregistered
  · exact staying_unmarked hstays
  · exact h.unmarked info hregistered

theorem leave_of_unmarked {self : Reconciling} (procId : ProcId)
    (h : ∀ info ∈ self.loops, info.markedForRemoval = false) : self.leave procId = self := by
  unfold Reconciling.leave
  rw [if_neg]
  rw [List.any_eq_true]
  rintro ⟨info, hinfo, hleaves⟩
  rw [Reconciling.leaves, h info hinfo, Bool.and_false] at hleaves
  contradiction

theorem Waiting.leave_loop {self : Reconciling} {left : List ProcId} (procId : ProcId)
    (h : Waiting before program new self left) :
    Waiting before program new { self with
      loops := self.loops.filter fun info => !Reconciling.leaves procId info
      events := self.events ++ [.left procId] } (left ++ [procId]) := by
  constructor
  · rw [← h.stay, List.filter_filter]
    apply List.filter_congr
    intro info _
    unfold Reconciling.leaves
    cases info.markedForRemoval <;> simp
  · intro info hinfo hchanged
    rcases h.leave info hinfo hchanged with hleft | ⟨marked, hmarked, hid, hmark⟩
    · exact .inl (List.mem_append_left _ hleft)
    · by_cases hsame : info.config.procId = procId
      · exact .inl (List.mem_append_right _ (List.mem_singleton.mpr hsame))
      · refine .inr ⟨marked, List.mem_filter.mpr ⟨hmarked, ?_⟩, hid, hmark⟩
        simp [Reconciling.leaves, hid, hsame]
  · exact h.spawned
  · rw [h.events, List.map_append]
    rfl

theorem invariant_leave {self : Reconciling} (procId : ProcId)
    (h : self.Invariant before program new) : (self.leave procId).Invariant before program new := by
  cases h with
  | waiting left hphase hwaiting =>
    unfold Reconciling.leave
    split_ifs with hany
    · exact .waiting (left ++ [procId]) hphase (hwaiting.leave_loop procId)
    · exact .waiting left hphase hwaiting
  | starting left started registered rest hphase hstarting =>
    rw [leave_of_unmarked procId hstarting.unmarked_loops]
    exact .starting left started registered rest hphase hstarting
  | reloaded left started registered hphase hnames hcarried hstarting =>
    rw [leave_of_unmarked procId hstarting.unmarked_loops]
    exact .reloaded left started registered hphase hnames hcarried hstarting
  | failed e hphase =>
    apply Reconciling.Invariant.failed e
    unfold Reconciling.leave
    split_ifs
    · exact hphase
    · exact hphase

/-! ### Ports -/

@[simp] theorem withPort_key (procId : ProcId) (port : UInt16) (info : ProcInfo) :
    (Reconciling.withPort procId port info).key = info.key := by
  unfold Reconciling.withPort
  split_ifs <;> rfl

@[simp] theorem withPort_marked (procId : ProcId) (port : UInt16) (info : ProcInfo) :
    (Reconciling.withPort procId port info).markedForRemoval = info.markedForRemoval := by
  unfold Reconciling.withPort
  split_ifs <;> rfl

theorem withPort_procId (procId : ProcId) (port : UInt16) (info : ProcInfo) :
    (Reconciling.withPort procId port info).config.procId = info.config.procId := by
  unfold Reconciling.withPort
  split_ifs <;> rfl

theorem withPort_of_kept {procId : ProcId} {port : UInt16} {info : ProcInfo}
    (h : info.config.procId = procId → info.config.activePort = some port) :
    Reconciling.withPort procId port info = info := by
  unfold Reconciling.withPort
  split_ifs with hid
  · rw [← h hid]
  · rfl

/-! ### The configuration -/

theorem markActive_hostName (procId : ProcId) (port : UInt16) (sites : List InProcessSiteConfig) :
    (markActive procId port sites).map InProcessSiteConfig.hostName =
      sites.map InProcessSiteConfig.hostName := by
  induction sites with
  | nil => rfl
  | cons site sites ih =>
    unfold markActive
    split_ifs
    · rfl
    · rw [List.map_cons, List.map_cons, ih]

theorem Carries.markActive {sites : List InProcessSiteConfig} {info : ProcInfo}
    {procId : ProcId} {port : UInt16}
    (hkept : info.config.procId = procId → info.config.activePort = some port)
    (h : Carries sites info) : Carries (Configuration.markActive procId port sites) info := by
  obtain ⟨process, hprocess, hname, hid, hport⟩ := h
  induction sites with
  | nil => contradiction
  | cons site sites ih =>
    unfold Configuration.markActive
    split_ifs with hsite
    · rcases List.mem_cons.mp hprocess with rfl | hrest
      · refine ⟨_, List.mem_cons_self, hname, hid, ?_⟩
        exact (hkept (hid.symm.trans hsite)).symm
      · exact ⟨process, List.mem_cons_of_mem _ hrest, hname, hid, hport⟩
    · rcases List.mem_cons.mp hprocess with rfl | hrest
      · exact ⟨process, List.mem_cons_self, hname, hid, hport⟩
      · obtain ⟨other, hother, hcarries⟩ := ih hrest
        exact ⟨other, List.mem_cons_of_mem _ hother, hcarries⟩

theorem choose_sites (procId : ProcId) (port : UInt16) (self : Reconciling) :
    (self.choose procId port).config.internalConfiguration.sites =
      markActive procId port self.config.internalConfiguration.sites := by
  unfold Reconciling.choose OddBoxV3Config.sites
  cases self.config.internalConfiguration.hostedProcess <;> rfl

/-- Nothing that is known of a reload under way depends on the active configuration. -/
theorem Starting.choose {self : Reconciling} {left : List ProcId}
    {started : List ResolvedProcess} {registered : List ProcInfo}
    {rest : List InProcessSiteConfig} (procId : ProcId) (port : UInt16)
    (h : Starting before program new self left started registered rest) :
    Starting before program new (self.choose procId port) left started registered rest :=
  ⟨h.toStart, h.loops, h.unmarked, h.spawned, h.events, h.leave⟩

/-! ### Starting the loops -/

theorem Waiting.all_left {self : Reconciling} {left : List ProcId}
    (hnone : self.loops.any ProcInfo.markedForRemoval = false)
    (h : Waiting before program new self left) :
    Starting before program new { self with
      phase := .starting (program.compared before new)
        (program.toStart before new.internalConfiguration) } left [] []
      (program.toStart before new.internalConfiguration) := by
  have hunmarked : ∀ info ∈ self.loops, info.markedForRemoval = false := by
    intro info hinfo
    exact Bool.eq_false_iff.mpr (List.any_eq_false.mp hnone info hinfo)
  constructor
  · rfl
  · rw [← h.stay, List.append_nil, List.filter_eq_self.mpr]
    intro info hinfo
    rw [hunmarked info hinfo]
    rfl
  · intro info hinfo
    contradiction
  · change ([] ++ self.spawned.map ResolvedProcess.key).Perm []
    rw [h.spawned]
    exact List.Perm.refl []
  · rw [List.map_nil, List.append_nil]
    exact h.events
  · intro info hinfo hchanged
    rcases h.leave info hinfo hchanged with hleft | ⟨marked, hmarked, -, hmark⟩
    · exact hleft
    · rw [hunmarked marked hmarked] at hmark
      contradiction

theorem Starting.spawn {self : Reconciling} {left : List ProcId} {started : List ResolvedProcess}
    {registered : List ProcInfo} {process : InProcessSiteConfig}
    {rest : List InProcessSiteConfig} {resolved : ResolvedProcess} {config : OddBoxV3Config}
    (hresolved : config.resolveProcessConfiguration after process = .ok resolved)
    (h : Starting before program new self left started registered (process :: rest)) :
    Starting before program new { self with
        spawned := self.spawned ++ [resolved]
        events := self.events ++ [.spawned resolved]
        phase := .starting (program.compared before new) rest }
      left (started ++ [resolved]) registered rest := by
  have hkey : resolved.key = process.key := by
    rw [resolveProcess_eq] at hresolved
    cases hvalues : config.resolveVariables after with
    | error e =>
      rw [hvalues] at hresolved
      contradiction
    | ok values =>
      rw [hvalues] at hresolved
      cases hresolved
      rfl
  constructor
  · rw [h.toStart, List.map_append, List.map_cons, List.append_assoc, List.map_cons, hkey]
    rfl
  · exact h.loops
  · exact h.unmarked
  · change (registered.map ProcInfo.key ++
      (self.spawned ++ [resolved]).map ResolvedProcess.key).Perm _
    rw [List.map_append, List.map_append, ← List.append_assoc]
    exact h.spawned.append_right _
  · change self.events ++ [.spawned resolved] = _
    rw [h.events, List.map_append, List.append_assoc]
    rfl
  · exact h.leave

/-! ### The steps of the loops and of the reload -/

section

variable (hloops : program.OneLoopEach) (hnames : new.internalConfiguration.hostNames.Nodup)
  (hpasses : (program.compareAll before new.internalConfiguration).any Compared.abort = false)
include hloops hnames hpasses

theorem staying_withPort {procId : ProcId} {port : UInt16}
    (hkeeps : (Act.setPort procId port).KeepsPort before program new) :
    (program.staying before new).map (Reconciling.withPort procId port) =
      program.staying before new := by
  apply (List.map_congr_left ?_).trans (List.map_id' _)
  intro info hinfo
  obtain ⟨hinfo, hunchanged⟩ := (mem_staying_iff hloops hnames hpasses info).mp hinfo
  apply withPort_of_kept
  intro hid
  exact hkeeps info hinfo hid hunchanged

theorem Starting.setPort {self : Reconciling} {left : List ProcId}
    {started : List ResolvedProcess} {registered : List ProcInfo}
    {rest : List InProcessSiteConfig} {procId : ProcId} {port : UInt16}
    (hkeeps : (Act.setPort procId port).KeepsPort before program new)
    (h : Starting before program new self left started registered rest) :
    Starting before program new (self.setPort procId port) left started
      (registered.map (Reconciling.withPort procId port)) rest := by
  constructor
  · exact h.toStart
  · change self.loops.map _ = _
    rw [h.loops, List.map_append, staying_withPort hloops hnames hpasses hkeeps]
  · intro info hinfo
    obtain ⟨old, hold, rfl⟩ := List.mem_map.mp hinfo
    rw [withPort_marked]
    exact h.unmarked old hold
  · have hkeys : (registered.map (Reconciling.withPort procId port)).map ProcInfo.key =
        registered.map ProcInfo.key := by
      rw [List.map_map]
      apply List.map_congr_left
      intro info _
      exact withPort_key procId port info
    rw [hkeys]
    exact h.spawned
  · exact h.events
  · exact h.leave

theorem Waiting.setPort {self : Reconciling} {left : List ProcId} {procId : ProcId}
    {port : UInt16} (hkeeps : (Act.setPort procId port).KeepsPort before program new)
    (h : Waiting before program new self left) :
    Waiting before program new (self.setPort procId port) left := by
  constructor
  · change (self.loops.map _).filter _ = _
    rw [List.filter_map, ← staying_withPort hloops hnames hpasses hkeeps, ← h.stay]
    congr 1
    apply List.filter_congr
    intro info _
    rw [Function.comp_apply, withPort_marked]
  · intro info hinfo hchanged
    rcases h.leave info hinfo hchanged with hleft | ⟨marked, hmarked, hid, hmark⟩
    · exact .inl hleft
    · refine .inr ⟨_, List.mem_map_of_mem hmarked, ?_, ?_⟩
      · rw [withPort_procId]
        exact hid
      · rw [withPort_marked]
        exact hmark
  · exact h.spawned
  · exact h.events

theorem invariant_setPort {self : Reconciling} {procId : ProcId} {port : UInt16}
    (hkeeps : (Act.setPort procId port).KeepsPort before program new)
    (h : self.Invariant before program new) :
    (self.setPort procId port).Invariant before program new := by
  cases h with
  | waiting left hphase hwaiting =>
    exact .waiting left hphase (hwaiting.setPort hloops hnames hpasses hkeeps)
  | starting left started registered rest hphase hstarting =>
    exact .starting left started _ rest hphase (hstarting.setPort hloops hnames hpasses hkeeps)
  | reloaded left started registered hphase hnames' hcarried hstarting =>
    exact .reloaded left started _ hphase hnames' hcarried
      (hstarting.setPort hloops hnames hpasses hkeeps)
  | failed e hphase => exact .failed e hphase

theorem invariant_choose {self : Reconciling} {procId : ProcId} {port : UInt16}
    (hkeeps : (Act.choose procId port).KeepsPort before program new)
    (h : self.Invariant before program new) :
    (self.choose procId port).Invariant before program new := by
  cases h with
  | waiting left hphase hwaiting =>
    exact .waiting left hphase
      ⟨hwaiting.stay, hwaiting.leave, hwaiting.spawned, hwaiting.events⟩
  | starting left started registered rest hphase hstarting =>
    exact .starting left started registered rest hphase (hstarting.choose procId port)
  | reloaded left started registered hphase hnames' hcarried hstarting =>
    refine .reloaded left started registered hphase ?_ ?_ (hstarting.choose procId port)
    · rw [choose_sites, markActive_hostName]
      exact hnames'
    · intro info hstays
      obtain ⟨hinfo, hunchanged⟩ := (mem_staying_iff hloops hnames hpasses info).mp hstays
      rw [choose_sites]
      apply (hcarried info hstays).markActive
      intro hid
      exact hkeeps info hinfo hid hunchanged
  | failed e hphase => exact .failed e hphase

/-- The identifiers of the loops that stay, of those that are in the map since, and of those
that are not yet are all different. -/
theorem Starting.procIds_nodup (hfresh : program.Fresh new.internalConfiguration)
    {self : Reconciling} {left : List ProcId} {started : List ResolvedProcess}
    {registered : List ProcInfo} {rest : List InProcessSiteConfig}
    (h : Starting before program new self left started registered rest) :
    (((program.staying before new).map ProcInfo.key ++
      (registered.map ProcInfo.key ++ self.spawned.map ResolvedProcess.key)).map
        Prod.snd).Nodup := by
  have hall : (((program.staying before new).map ProcInfo.key ++
      (program.toStart before new.internalConfiguration).map InProcessSiteConfig.key).map
        Prod.snd).Nodup := by
    rw [List.map_append, List.map_map, List.map_map]
    exact staying_toStart_procIds hloops hnames hpasses hfresh
  rw [h.toStart, ← List.append_assoc, List.map_append] at hall
  exact (((h.spawned.append_left _).map _).nodup_iff).mpr hall.of_append_left

theorem Starting.register {self : Reconciling} (hfresh : program.Fresh new.internalConfiguration)
    {left : List ProcId} {started : List ResolvedProcess} {registered : List ProcInfo}
    {rest : List InProcessSiteConfig} {process : ResolvedProcess}
    (hprocess : process ∈ self.spawned)
    (h : Starting before program new self left started registered rest) :
    Starting before program new { self with
        loops := startLoop self.loops process
        spawned := self.spawned.erase process } left started
      (registered ++ [⟨process, false⟩]) rest := by
  constructor
  · exact h.toStart
  · have hother : ∀ info ∈ self.loops, info.config.procId ≠ process.procId := by
      have hnodup := h.procIds_nodup hloops hnames hpasses hfresh
      rw [← List.append_assoc, ← List.map_append, ← h.loops, List.map_append, List.map_map,
        List.map_map] at hnodup
      intro info hinfo hid
      apply List.disjoint_of_nodup_append hnodup
      · exact List.mem_map_of_mem hinfo
      · have hsame : (Prod.snd ∘ ProcInfo.key) info = (Prod.snd ∘ ResolvedProcess.key) process :=
          hid
        rw [hsame]
        exact List.mem_map_of_mem hprocess
    change startLoop self.loops process = _
    unfold startLoop
    rw [List.filter_eq_self.mpr, h.loops, List.append_assoc]
    intro info hinfo
    exact bne_iff_ne.mpr (hother info hinfo)
  · intro info hinfo
    rcases List.mem_append.mp hinfo with hold | hnew
    · exact h.unmarked info hold
    · obtain rfl := List.mem_singleton.mp hnew
      rfl
  · apply List.Perm.trans _ h.spawned
    rw [List.map_append, List.append_assoc]
    apply List.Perm.append_left
    change (process.key :: (self.spawned.erase process).map ResolvedProcess.key).Perm _
    rw [← List.map_cons]
    exact ((List.perm_cons_erase hprocess).map _).symm
  · exact h.events
  · exact h.leave

theorem invariant_register {self : Reconciling} (hfresh : program.Fresh new.internalConfiguration)
    (procId : ProcId) (h : self.Invariant before program new) :
    (self.register procId).Invariant before program new := by
  cases hfind : self.spawned.find? fun process => process.procId == procId with
  | none =>
    have hsame : self.register procId = self := by
      unfold Reconciling.register
      rw [hfind]
    rw [hsame]
    exact h
  | some process =>
    have hprocess := List.mem_of_find?_eq_some hfind
    have hregister : self.register procId = { self with
        loops := startLoop self.loops process
        spawned := self.spawned.erase process } := by
      unfold Reconciling.register
      rw [hfind]
    rw [hregister]
    cases h with
    | waiting left hphase hwaiting =>
      rw [hwaiting.spawned] at hprocess
      contradiction
    | starting left started registered rest hphase hstarting =>
      exact .starting left started _ rest hphase
        (hstarting.register hloops hnames hpasses hfresh hprocess)
    | reloaded left started registered hphase hnames' hcarried hstarting =>
      exact .reloaded left started _ hphase hnames' hcarried
        (hstarting.register hloops hnames hpasses hfresh hprocess)
    | failed e hphase => exact .failed e hphase

/-- A loop that stays finds its identifier and its port in the new configuration. -/
theorem carries_compared {info : ProcInfo} (hstays : info ∈ program.staying before new) :
    Carries (program.compared before new).internalConfiguration.sites info := by
  obtain ⟨hinfo, process, hprocess, hname, resolved, hresolved, -⟩ :=
    (mem_staying_iff hloops hnames hpasses info).mp hstays
  have hcompared := compareProcess_of_loop hloops hinfo hname hresolved
  refine ⟨(compareProcess before new.internalConfiguration program.procThreadMap
    process).process, List.mem_map_of_mem (List.mem_map_of_mem hprocess), ?_, ?_, ?_⟩
  · rw [compareProcess_hostName]
    exact hname
  · rw [hcompared]
  · rw [hcompared]

theorem invariant_proceed {self : Reconciling} (h : self.Invariant before program new) :
    (self.proceed after).Invariant before program new := by
  unfold Reconciling.proceed
  cases h with
  | waiting left hphase hwaiting =>
    rw [hphase]
    dsimp only
    split_ifs with hany
    · exact .waiting left hphase hwaiting
    · rw [Bool.not_eq_true] at hany
      exact .starting left [] [] _ rfl (hwaiting.all_left hany)
  | starting left started registered rest hphase hstarting =>
    rw [hphase]
    cases rest with
    | nil =>
      refine .reloaded left started registered rfl ?_ ?_ ⟨hstarting.toStart, hstarting.loops,
        hstarting.unmarked, hstarting.spawned, hstarting.events, hstarting.leave⟩
      · exact compared_names
      · intro info hinfo
        exact carries_compared hloops hnames hpasses hinfo
    | cons process rest =>
      dsimp only
      split
      · next e _ => exact .failed _ rfl
      · next resolved hresolved =>
        exact .starting left _ registered rest rfl (hstarting.spawn hresolved)
  | reloaded left started registered hphase hnames' hcarried hstarting =>
    rw [hphase]
    exact .reloaded left started registered hphase hnames' hcarried hstarting
  | failed e hphase =>
    rw [hphase]
    exact .failed e hphase

theorem invariant_step (hfresh : program.Fresh new.internalConfiguration) {self : Reconciling}
    {act : Act} (hkeeps : act.KeepsPort before program new)
    (h : self.Invariant before program new) :
    (self.step after act).Invariant before program new := by
  cases act with
  | proceed => exact invariant_proceed hloops hnames hpasses h
  | leave procId => exact invariant_leave procId h
  | register procId => exact invariant_register hloops hnames hpasses hfresh procId h
  | choose procId port => exact invariant_choose hloops hnames hpasses hkeeps h
  | setPort procId port => exact invariant_setPort hloops hnames hpasses hkeeps h

theorem invariant_begin (hread : readNewConfiguration before program.config = .ok new)
    (hchanged : new.internalConfiguration.eq program.config.internalConfiguration = false) :
    (program.beginReload before).Invariant before program new := by
  have hbegin : program.beginReload before =
      { config := program.config
        loops := program.marked before new
        spawned := []
        events := []
        phase := .waiting (program.compared before new)
          (program.toStart before new.internalConfiguration) } := by
    unfold Program.beginReload
    rw [hread]
    dsimp only
    rw [if_neg (by rw [hchanged]; exact Bool.false_ne_true),
      if_neg (by rw [hpasses]; exact Bool.false_ne_true)]
  rw [hbegin]
  refine .waiting [] rfl ⟨rfl, ?_, rfl, rfl⟩
  intro info hinfo hchanged
  refine .inr ⟨_, List.mem_map_of_mem hinfo, by rw [markLoop_config], ?_⟩
  rw [← stays_iff_unchanged hloops hnames hpasses hinfo, Bool.not_eq_false] at hchanged
  exact hchanged

end

end

/-! ## A reload for a configuration that has not changed -/

/-- The loops of a program are those of its configuration. -/
structure Program.InStep (program : Program) : Prop where
  hostNames : (program.procThreadMap.map fun info => info.config.hostName).Perm
    (program.config.internalConfiguration.sites.map InProcessSiteConfig.hostName)
  carried : ∀ info ∈ program.procThreadMap,
    Carries program.config.internalConfiguration.sites info

section

variable (before after : Environment) (program : Program) (new : ConfigWrapper)

/-- What holds at every step of a reload that has nothing to do. -/
structure Idle (state : Reconciling) : Prop where
  phase : state.phase = .finished .unchanged
  spawned : state.spawned = []
  events : state.events = []
  keys : state.loops.map ProcInfo.key = program.procThreadMap.map ProcInfo.key
  unmarked : ∀ info ∈ state.loops, info.markedForRemoval = false
  hostNames : state.config.internalConfiguration.sites.map InProcessSiteConfig.hostName =
    program.config.internalConfiguration.sites.map InProcessSiteConfig.hostName
  kept : ∀ info ∈ program.procThreadMap, Unchanged before new.internalConfiguration info →
    info ∈ state.loops ∧ Carries state.config.internalConfiguration.sites info

variable {before after program new}

theorem idle_step {state : Reconciling} {act : Act} (hkeeps : act.KeepsPort before program new)
    (h : Idle before program new state) : Idle before program new (state.step after act) := by
  cases act with
  | proceed =>
    have hsame : state.proceed after = state := by
      unfold Reconciling.proceed
      rw [h.phase]
    change Idle before program new (state.proceed after)
    rw [hsame]
    exact h
  | leave procId =>
    change Idle before program new (state.leave procId)
    rw [leave_of_unmarked procId h.unmarked]
    exact h
  | register procId =>
    have hsame : state.register procId = state := by
      unfold Reconciling.register
      rw [h.spawned]
      rfl
    change Idle before program new (state.register procId)
    rw [hsame]
    exact h
  | choose procId port =>
    refine ⟨h.phase, h.spawned, h.events, h.keys, h.unmarked, ?_, ?_⟩
    · change (state.choose procId port).config.internalConfiguration.sites.map _ = _
      rw [choose_sites, markActive_hostName]
      exact h.hostNames
    · intro info hinfo hunchanged
      obtain ⟨hmem, hcarries⟩ := h.kept info hinfo hunchanged
      refine ⟨hmem, ?_⟩
      change Carries (state.choose procId port).config.internalConfiguration.sites info
      rw [choose_sites]
      apply hcarries.markActive
      intro hid
      exact hkeeps info hinfo hid hunchanged
  | setPort procId port =>
    refine ⟨h.phase, h.spawned, h.events, ?_, ?_, h.hostNames, ?_⟩
    · change (state.loops.map _).map _ = _
      rw [← h.keys, List.map_map]
      apply List.map_congr_left
      intro info _
      exact withPort_key procId port info
    · intro info hinfo
      obtain ⟨old, hold, rfl⟩ := List.mem_map.mp hinfo
      rw [withPort_marked]
      exact h.unmarked old hold
    · intro info hinfo hunchanged
      obtain ⟨hmem, hcarries⟩ := h.kept info hinfo hunchanged
      refine ⟨?_, hcarries⟩
      have hsame : Reconciling.withPort procId port info = info :=
        withPort_of_kept fun hid => hkeeps info hinfo hid hunchanged
      rw [← hsame]
      exact List.mem_map_of_mem hmem

theorem idle_begin (hloops : program.OneLoopEach) (hstep : program.InStep)
    (hread : readNewConfiguration before program.config = .ok new)
    (hsame : new.internalConfiguration.eq program.config.internalConfiguration = true) :
    Idle before program new (program.beginReload before) := by
  have hbegin : program.beginReload before =
      ⟨program.config, program.procThreadMap, [], [], .finished .unchanged⟩ := by
    unfold Program.beginReload
    rw [hread]
    dsimp only
    rw [if_pos hsame]
  rw [hbegin]
  refine ⟨rfl, rfl, rfl, rfl, hloops.unmarked, rfl, ?_⟩
  intro info hinfo _
  exact ⟨hinfo, hstep.carried info hinfo⟩

end

/-! ## Reconciliation -/

section

variable (before after : Environment) (program : Program) (new : ConfigWrapper)

/-- What a reload that succeeds is to bring about. -/
structure Reconciled (state : Reconciling) : Prop where
  onePerProcess : (state.loops.map fun info => info.config.hostName).Perm
    (state.config.internalConfiguration.sites.map InProcessSiteConfig.hostName)
  adopted : state.config.internalConfiguration.sites.map InProcessSiteConfig.hostName =
    new.internalConfiguration.sites.map InProcessSiteConfig.hostName
  kept : ∀ info ∈ program.procThreadMap, Unchanged before new.internalConfiguration info →
    (∀ process, Event.spawned process ∈ state.events →
      process.hostName ≠ info.config.hostName) ∧
    ∃ now ∈ state.loops, now.markedForRemoval = false ∧ now.key = info.key ∧
      { now.config with activePort := info.config.activePort } = info.config ∧
      Carries state.config.internalConfiguration.sites now
  leftFirst : ∀ info ∈ program.procThreadMap, ¬Unchanged before new.internalConfiguration info →
    ∀ earlier process later, state.events = earlier ++ Event.spawned process :: later →
      Event.left info.config.procId ∈ earlier

variable {before after program new}

theorem Idle.reconciled {state : Reconciling} (hstep : program.InStep)
    (hsame : new.internalConfiguration.eq program.config.internalConfiguration = true)
    (h : Idle before program new state) : Reconciled before program new state := by
  constructor
  · have hkeys := congrArg (List.map Prod.fst) h.keys
    rw [List.map_map, List.map_map] at hkeys
    change state.loops.map (fun info => info.config.hostName) =
      program.procThreadMap.map (fun info => info.config.hostName) at hkeys
    rw [hkeys, h.hostNames]
    exact hstep.hostNames
  · rw [h.hostNames, processNames_of_eq hsame]
  · intro info hinfo hunchanged
    obtain ⟨hmem, hcarries⟩ := h.kept info hinfo hunchanged
    constructor
    · intro process hspawned
      rw [h.events] at hspawned
      contradiction
    · exact ⟨info, hmem, h.unmarked info hmem, rfl, rfl, hcarries⟩
  · intro info _ _ earlier process later hevents
    rw [h.events] at hevents
    simp at hevents

theorem Starting.reconciled (hloops : program.OneLoopEach)
    (hnames : new.internalConfiguration.hostNames.Nodup)
    (hpasses : (program.compareAll before new.internalConfiguration).any Compared.abort = false)
    {state : Reconciling} {left : List ProcId} {started : List ResolvedProcess}
    {registered : List ProcInfo} (hspawned : state.spawned = [])
    (hadopted : state.config.internalConfiguration.sites.map InProcessSiteConfig.hostName =
      new.internalConfiguration.sites.map InProcessSiteConfig.hostName)
    (hcarried : ∀ info ∈ program.staying before new,
      Carries state.config.internalConfiguration.sites info)
    (h : Starting before program new state left started registered []) :
    Reconciled before program new state := by
  have hperm := staying_toStart_perm hloops hnames hpasses
  have hstart : (program.toStart before new.internalConfiguration).map
      InProcessSiteConfig.hostName = (started.map ResolvedProcess.key).map Prod.fst := by
    have htoStart := congrArg (List.map Prod.fst) h.toStart
    rw [List.map_map, List.map_nil, List.append_nil] at htoStart
    exact htoStart
  constructor
  · have hregistered := h.spawned.map Prod.fst
    rw [hspawned, List.map_nil, List.append_nil, List.map_map, ← hstart] at hregistered
    rw [hadopted, h.loops, List.map_append]
    exact (hregistered.append_left _).trans hperm
  · exact hadopted
  · intro info hinfo hunchanged
    have hstays := (mem_staying_iff hloops hnames hpasses info).mpr ⟨hinfo, hunchanged⟩
    constructor
    · intro process hevent hname
      rw [h.events, List.mem_append] at hevent
      have hmem : process ∈ started := by
        rcases hevent with hleft | hstarted
        · simp at hleft
        · simpa using hstarted
      have hnodup := hperm.nodup_iff.mpr (sites_nodup hnames)
      apply List.disjoint_of_nodup_append hnodup (List.mem_map_of_mem hstays)
      rw [hstart, List.map_map, ← hname]
      exact List.mem_map_of_mem (f := Prod.fst ∘ ResolvedProcess.key) hmem
    · refine ⟨info, ?_, staying_unmarked hstays, rfl, rfl, hcarried info hstays⟩
      rw [h.loops]
      exact List.mem_append_left _ hstays
  · intro info hinfo hchanged earlier process later hevents
    have hleft := h.leave info hinfo hchanged
    rw [h.events] at hevents
    rcases List.append_eq_append_iff.mp hevents with ⟨middle, hearlier, -⟩ |
      ⟨middle, hlefts, hrest⟩
    · rw [hearlier]
      exact List.mem_append_left _ (List.mem_map_of_mem hleft)
    · -- the event of a start cannot stand among those of the loops that leave
      have hnil : middle = [] := by
        cases middle with
        | nil => rfl
        | cons event middle =>
          have hevent : event = Event.spawned process := (List.cons.inj hrest).1.symm
          have hmem : event ∈ left.map Event.left := by
            rw [hlefts]
            exact List.mem_append_right _ List.mem_cons_self
          rw [hevent] at hmem
          simp at hmem
      rw [hnil, List.append_nil] at hlefts
      rw [← hlefts]
      exact List.mem_map_of_mem hleft

/-- A reload that marks loops, once it is done. -/
theorem Reconciling.Invariant.reconciled (hloops : program.OneLoopEach)
    (hnames : new.internalConfiguration.hostNames.Nodup)
    (hpasses : (program.compareAll before new.internalConfiguration).any Compared.abort = false)
    {state : Reconciling} (hspawned : state.spawned = [])
    (hsuccess : state.phase = .finished .reloaded ∨ state.phase = .finished .unchanged)
    (h : state.Invariant before program new) : Reconciled before program new state := by
  cases h with
  | waiting left hphase _ =>
    rw [hphase] at hsuccess
    simp at hsuccess
  | starting left started registered rest hphase _ =>
    rw [hphase] at hsuccess
    simp at hsuccess
  | reloaded left started registered _ hadopted hcarried hstarting =>
    exact hstarting.reconciled hloops hnames hpasses hspawned hadopted hcarried
  | failed e hphase =>
    rw [hphase] at hsuccess
    simp at hsuccess

/-- Once a reload has failed nothing changes that. -/
theorem failed_step {state : Reconciling} {e : ReloadError} (act : Act)
    (h : state.phase = .finished (.error e)) :
    (state.step after act).phase = .finished (.error e) := by
  cases act with
  | proceed =>
    change (state.proceed after).phase = _
    unfold Reconciling.proceed
    rw [h]
    exact h
  | leave procId =>
    change (state.leave procId).phase = _
    unfold Reconciling.leave
    split_ifs <;> exact h
  | register procId =>
    change (state.register procId).phase = _
    unfold Reconciling.register
    split <;> exact h
  | choose procId port => exact h
  | setPort procId port => exact h

theorem failed_run (after : Environment) (acts : List Act) {state : Reconciling} {e : ReloadError}
    (h : state.phase = .finished (.error e)) :
    (Machine.run (Reconciling.step after) state acts).phase = .finished (.error e) :=
  @Machine.run_invariant Reconciling Act (Reconciling.step after)
    (fun state => state.phase = .finished (.error e)) (fun _ act h => failed_step act h) state h
    acts

variable (before after program new)

/-- **Reconciliation**: whatever the order in which the marked loops leave and the new ones
register, a reload that succeeds leaves one loop for each process of the new configuration and
no other, has not touched the loops of unchanged processes, and has started no loop before the
marked ones had left, if no loop that stays picks another port meanwhile, and the loops were
in step with the active configuration where the file holds no other. -/
theorem reload_reconciled (acts : List Act)
    (hread : readNewConfiguration before program.config = .ok new)
    (hloops : program.OneLoopEach) (hfresh : program.Fresh new.internalConfiguration)
    (hchanged : new.internalConfiguration.eq program.config.internalConfiguration = false ∨
      program.InStep)
    (hkeeps : ∀ act ∈ acts, act.KeepsPort before program new)
    (hsuccess : (Machine.run (Reconciling.step after) (program.beginReload before) acts).phase =
        .finished .reloaded ∨
      (Machine.run (Reconciling.step after) (program.beginReload before) acts).phase =
        .finished .unchanged)
    (hregistered : (Machine.run (Reconciling.step after) (program.beginReload before)
      acts).spawned = []) :
    Reconciled before program new
      (Machine.run (Reconciling.step after) (program.beginReload before) acts) := by
  have hnames := readNewConfiguration_names hread
  cases heq : new.internalConfiguration.eq program.config.internalConfiguration with
  | true =>
    have hstep : program.InStep := by
      rcases hchanged with hfalse | hstep
      · rw [heq] at hfalse
        contradiction
      · exact hstep
    apply Idle.reconciled hstep heq
    apply (Machine.meets_of_forall hkeeps _).invariant
    · intro state act hidle hkept
      exact idle_step hkept hidle
    · exact idle_begin hloops hstep hread heq
  | false =>
    cases hpasses : (program.compareAll before new.internalConfiguration).any Compared.abort with
    | true =>
      have hbegin : (program.beginReload before).phase = .finished (.error
          (.message "Failed to resolve process configuration for some processes")) := by
        unfold Program.beginReload
        rw [hread]
        dsimp only
        rw [if_neg (by rw [heq]; exact Bool.false_ne_true), if_pos hpasses]
      have hfailed := failed_run after acts hbegin
      rw [hfailed] at hsuccess
      simp at hsuccess
    | false =>
      apply Reconciling.Invariant.reconciled hloops hnames hpasses hregistered hsuccess
      apply (Machine.meets_of_forall hkeeps _).invariant
      · intro state act h hkept
        exact invariant_step hloops hnames hpasses hfresh hkept h
      · exact invariant_begin hloops hnames hpasses hread heq

end

/-! ## The reload as one step -/

section

variable {before after : Environment} {isRunning : ProcInfo → Bool} {program : Program}
  {new : ConfigWrapper}

theorem startLoops_keys {config : OddBoxV3Config} {loops : List ProcInfo}
    {processes : List InProcessSiteConfig}
    (hnodup : (loops.map (fun info => info.config.procId) ++
      processes.map InProcessSiteConfig.procId).Nodup)
    (h : (startLoops after config loops processes).2 = none) :
    (startLoops after config loops processes).1.map ProcInfo.key =
      loops.map ProcInfo.key ++ processes.map InProcessSiteConfig.key := by
  induction processes generalizing loops with
  | nil => rw [startLoops, List.map_nil, List.append_nil]
  | cons process processes ih =>
    rw [startLoops, resolveProcess_eq] at h ⊢
    cases hvalues : config.resolveVariables after with
    | error e =>
      rw [hvalues] at h
      contradiction
    | ok values =>
      rw [hvalues] at h
      simp only [Except.map] at h ⊢
      have hstart : startLoop loops (process.resolved values) =
          loops ++ [⟨process.resolved values, false⟩] := by
        unfold startLoop
        rw [List.filter_eq_self.mpr]
        intro info hinfo
        rw [bne_iff_ne]
        intro hid
        apply List.disjoint_of_nodup_append hnodup (List.mem_map_of_mem hinfo)
        rw [hid]
        exact List.mem_cons_self
      rw [ih ?_ h, hstart, List.map_append, List.append_assoc]
      · rfl
      · rw [hstart, List.map_append, List.append_assoc]
        exact hnodup

/-- In every order of steps the reload ends with the loops it ends with in one step. -/
theorem reload_agrees (acts : List Act)
    (hread : readNewConfiguration before program.config = .ok new)
    (hloops : program.OneLoopEach) (hfresh : program.Fresh new.internalConfiguration)
    (hkeeps : ∀ act ∈ acts, act.KeepsPort before program new)
    (hatOnce : (program.reloadFromDisk before after isRunning).1 = .reloaded)
    (hsuccess : (Machine.run (Reconciling.step after) (program.beginReload before) acts).phase =
      .finished .reloaded)
    (hregistered : (Machine.run (Reconciling.step after) (program.beginReload before)
      acts).spawned = []) :
    ((Machine.run (Reconciling.step after) (program.beginReload before) acts).loops.map
      ProcInfo.key).Perm
      ((program.reloadFromDisk before after isRunning).2.procThreadMap.map ProcInfo.key) := by
  obtain ⟨other, hother, hchanged, hadopt⟩ := reloadFromDisk_reloaded hatOnce
  rw [hread] at hother
  cases hother
  have hnames := readNewConfiguration_names hread
  rw [hadopt] at hatOnce ⊢
  unfold Program.adopt at hatOnce ⊢
  split_ifs at hatOnce ⊢ with habort
  rw [Bool.not_eq_true] at habort
  dsimp only at hatOnce ⊢
  split at hatOnce
  · contradiction
  · next started hstarted =>
    have hkeys := @startLoops_keys after (program.compared before new).internalConfiguration _ _
      (staying_toStart_procIds hloops hnames habort hfresh) (congrArg Prod.snd hstarted)
    have hsame : started = (startLoops after (program.compared before new).internalConfiguration
        (program.staying before new) (program.toStart before new.internalConfiguration)).1 :=
      (congrArg Prod.fst hstarted).symm
    change (List.map _ _).Perm (started.map ProcInfo.key)
    rw [hsame, hkeys]
    have hinvariant : (Machine.run (Reconciling.step after) (program.beginReload before)
        acts).Invariant before program new := by
      apply (Machine.meets_of_forall hkeeps _).invariant
      · intro state act h hkept
        exact invariant_step hloops hnames habort hfresh hkept h
      · exact invariant_begin hloops hnames habort hread hchanged
    cases hinvariant with
    | waiting left hphase _ =>
      rw [hphase] at hsuccess
      contradiction
    | starting left started registered rest hphase _ =>
      rw [hphase] at hsuccess
      contradiction
    | reloaded left started registered _ _ _ hstarting =>
      have hperm := hstarting.spawned
      rw [hregistered, List.map_nil, List.append_nil] at hperm
      rw [hstarting.loops, List.map_append, hstarting.toStart, List.map_nil, List.append_nil]
      exact hperm.append_left _
    | failed e hphase =>
      rw [hphase] at hsuccess
      simp at hsuccess

end

/-! ## Two loops, of which one stays -/

def onlyAFile : String := "version = \"V3\"\n[[hosted_process]]\nhost_name = \"a\"\nbin = \"run\"\n"

def onlyA : OddBoxV3Config :=
  oneProcess none { plainSite "a" none with procId := ⟨"id"⟩ }

/-- A program with the idle loops of two processes. -/
def twoLoops : Program where
  config := ConfigWrapper.new { onlyA with
    hostedProcess := some [plainSite "a" none, plainSite "b" none] }
  siteStatusMap _ := none
  procThreadMap :=
    [⟨(plainSite "a" none).resolved ("/root", "/srv", "/srv"), false⟩,
      ⟨(plainSite "b" none).resolved ("/root", "/srv", "/srv"), false⟩]

set_option maxRecDepth 20000 in
theorem onlyAFile_parse : readerCrate.parse onlyAFile =
    some [("version", .string "V3"),
      ("hosted_process", .array [.table [("host_name", .string "a"), ("bin", .string "run")]])] :=
  rfl

theorem onlyAFile_read : readNewConfiguration (oneFile onlyAFile) twoLoops.config =
    .ok { ConfigWrapper.new onlyA with internalVersion := 1 } := by
  have hparse : AnyOddBoxConfig.parse (fun _ => ⟨"id"⟩) readerCrate onlyAFile =
      .ok (.v3 { onlyA with path := none }) := by
    rw [parse_v3_iff, fromStr_of_parse onlyAFile_parse]
    rfl
  exact @readNewConfiguration_v3 (oneFile onlyAFile) twoLoops.config _ onlyAFile _
    ⟨some "/srv/odd-box.toml", "/srv/odd-box.toml"⟩ rfl rfl hparse rfl rfl

theorem twoLoops_begin : twoLoops.beginReload (oneFile onlyAFile) =
    { config := twoLoops.config
      loops := [⟨(plainSite "a" none).resolved ("/root", "/srv", "/srv"), false⟩,
        ⟨(plainSite "b" none).resolved ("/root", "/srv", "/srv"), true⟩]
      spawned := []
      events := []
      phase := .waiting (twoLoops.compared (oneFile onlyAFile)
        { ConfigWrapper.new onlyA with internalVersion := 1 }) [] } := by
  unfold Program.beginReload
  rw [onlyAFile_read]
  rfl

/-- The loop of `b` leaves, and that of `a` goes on. -/
def bLeaves : List Act := [.leave ⟨"b"⟩, .proceed, .proceed]

/-- Before that the process of `a` is started, on a port of its own. -/
def aStarts : List Act := [Act.choose ⟨"a"⟩ 4200, .setPort ⟨"a"⟩ 4200] ++ bLeaves

theorem twoLoops_reconciled :
    Reconciled (oneFile onlyAFile) twoLoops { ConfigWrapper.new onlyA with internalVersion := 1 }
      (Machine.run (Reconciling.step (oneFile onlyAFile))
        (twoLoops.beginReload (oneFile onlyAFile)) bLeaves) := by
  apply reload_reconciled (oneFile onlyAFile) (oneFile onlyAFile) twoLoops _ bLeaves onlyAFile_read
  · exact ⟨by decide, by decide, by decide⟩
  · exact ⟨by decide, by decide⟩
  · left
    decide
  · intro act hact
    fin_cases hact <;> trivial
  · left
    rw [twoLoops_begin]
    rfl
  · rw [twoLoops_begin]
    rfl

/-- The reload has copied the port of `a` before it waits for `b`, and the new configuration
does not know the one that is picked meanwhile. -/
theorem aStarts_unreconciled :
    (Machine.run (Reconciling.step (oneFile onlyAFile)) (twoLoops.beginReload (oneFile onlyAFile))
        aStarts).phase = .finished .reloaded ∧
      (Machine.run (Reconciling.step (oneFile onlyAFile))
        (twoLoops.beginReload (oneFile onlyAFile)) aStarts).spawned = [] ∧
      ¬Reconciled (oneFile onlyAFile) twoLoops
        { ConfigWrapper.new onlyA with internalVersion := 1 }
        (Machine.run (Reconciling.step (oneFile onlyAFile))
          (twoLoops.beginReload (oneFile onlyAFile)) aStarts) := by
  rw [twoLoops_begin]
  refine ⟨rfl, rfl, ?_⟩
  intro hreconciled
  have hunchanged : Unchanged (oneFile onlyAFile) onlyA
      ⟨(plainSite "a" none).resolved ("/root", "/srv", "/srv"), false⟩ :=
    ⟨_, List.mem_singleton_self _, rfl, _, rfl, rfl⟩
  obtain ⟨-, now, hnow, -, -, -, process, hprocess, -, -, hport⟩ :=
    hreconciled.kept _ List.mem_cons_self hunchanged
  obtain rfl := List.mem_singleton.mp hnow
  obtain rfl := List.mem_singleton.mp hprocess
  contradiction

end OddBox.Configuration

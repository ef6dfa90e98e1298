import OddBox.Configuration.ReloadFrame

/-!
A reload among the loops of the hosted processes: the loops that are marked leave one by one
while `reload_from_disk` waits, the loops that it spawns register some time after, and any
loop may pick a port in between. Which loop belongs to which process is told by the host
name when the configurations are compared, and by the identifier in the map of the loops.
-/

namespace OddBox.Configuration

/-! ## The steps of a reload -/

inductive Event where
  | left (procId : ProcId)
  | spawned (process : ResolvedProcess)

inductive Phase where
  /-- Until all loops that are marked have left. -/
  | waiting (new : ConfigWrapper) (toStart : List InProcessSiteConfig)
  | starting (new : ConfigWrapper) (toStart : List InProcessSiteConfig)
  | finished (result : ReloadResult)

structure Reconciling where
  config : ConfigWrapper
  /-- `PROC_THREAD_MAP`. -/
  loops : List ProcInfo
  /-- The loops that have been spawned and are not in the map yet. -/
  spawned : List ResolvedProcess
  events : List Event
  phase : Phase

/-- What the reload or one of the loops does next. -/
inductive Act where
  | proceed
  /-- A loop finds its mark, leaves, and is cleaned up. -/
  | leave (procId : ProcId)
  /-- A loop that was spawned enters the map. -/
  | register (procId : ProcId)
  /-- `set_active_port` for a loop saves its port in the active configuration. -/
  | choose (procId : ProcId) (port : UInt16)
  /-- The loop has started its process and saves the port in its entry. -/
  | setPort (procId : ProcId) (port : UInt16)

/-- The reload up to the point where it waits for the loops it has marked. -/
def Program.beginReload (before : Environment) (program : Program) : Reconciling :=
  let start : Reconciling := ⟨program.config, program.procThreadMap, [], [], .finished .unchanged⟩
  match readNewConfiguration before program.config with
  | .error (.error text) => { start with phase := .finished (.error (.message text)) }
  | .error (.panicked text) => { start with phase := .finished (.panicked text) }
  | .ok new =>
    if new.internalConfiguration.eq program.config.internalConfiguration then start
    else if (program.compareAll before new.internalConfiguration).any Compared.abort then
      { start with phase := .finished (.error
          (.message "Failed to resolve process configuration for some processes")) }
    else
      { start with
        loops := program.marked before new
        phase := .waiting (program.compared before new)
          (program.toStart before new.internalConfiguration) }

namespace Reconciling

def proceed (after : Environment) (self : Reconciling) : Reconciling :=
  match self.phase with
  | .waiting new toStart =>
    if self.loops.any ProcInfo.markedForRemoval then self
    else { self with phase := .starting new toStart }
  | .starting new [] => { self with config := new, phase := .finished .reloaded }
  | .starting new (process :: toStart) =>
    match new.internalConfiguration.resolveProcessConfiguration after process with
    | .error e => { self with phase := .finished (.error (.unresolved process e)) }
    | .ok resolved =>
      { self with
        spawned := self.spawned ++ [resolved]
        events := self.events ++ [.spawned resolved]
        phase := .starting new toStart }
  | .finished _ => self

def leaves (procId : ProcId) (info : ProcInfo) : Bool :=
  info.config.procId == procId && info.markedForRemoval

def leave (procId : ProcId) (self : Reconciling) : Reconciling :=
  if self.loops.any (leaves procId) then
    { self with
      loops := self.loops.filter fun info => !leaves procId info
      events := self.events ++ [.left procId] }
  else self

def register (procId : ProcId) (self : Reconciling) : Reconciling :=
  match self.spawned.find? fun process => process.procId == procId with
  | none => self
  | some process =>
    { self with
      loops := startLoop self.loops process
      spawned := self.spawned.erase process }

def choose (procId : ProcId) (port : UInt16) (self : Reconciling) : Reconciling :=
  { self with
    config := { self.config with
      internalConfiguration := { self.config.internalConfiguration with
        hostedProcess := self.config.internalConfiguration.hostedProcess.map
          (markActive procId port) } } }

def withPort (procId : ProcId) (port : UInt16) (info : ProcInfo) : ProcInfo :=
  if info.config.procId = procId then
    { info with config := { info.config with activePort := some port } }
  else info

def setPort (procId : ProcId) (port : UInt16) (self : Reconciling) : Reconciling :=
  { self with loops := self.loops.map (withPort procId port) }

def step (after : Environment) (self : Reconciling) : Act → Reconciling
  | .proceed => self.proceed after
  | .leave procId => self.leave procId
  | .register procId => self.register procId
  | .choose procId port => self.choose procId port
  | .setPort procId port => self.setPort procId port

end Reconciling

/-! ## Which loops are to stay -/

/-- The process of the new configuration that the loop is for resolves to what it runs. -/
def Unchanged (before : Environment) (new : OddBoxV3Config) (info : ProcInfo) : Prop :=
  ∃ process ∈ new.sites, process.hostName = info.config.hostName ∧
    ∃ resolved, new.resolveProcessConfiguration before process = .ok resolved ∧
      { resolved with
        procId := info.config.procId
        activePort := info.config.activePort } = info.config

/-- The loops of a program between two reloads. -/
structure Program.OneLoopEach (program : Program) : Prop where
  hostNames : (program.procThreadMap.map fun info => info.config.hostName).Nodup
  procIds : (program.procThreadMap.map fun info => info.config.procId).Nodup
  unmarked : ∀ info ∈ program.procThreadMap, info.markedForRemoval = false

/-- The identifiers that the processes of the new configuration get are all new. -/
structure Program.Fresh (program : Program) (new : OddBoxV3Config) : Prop where
  distinct : (new.sites.map InProcessSiteConfig.procId).Nodup
  unused : ∀ process ∈ new.sites, ∀ info ∈ program.procThreadMap,
    process.procId ≠ info.config.procId

/-- The entry of the configuration for a loop has its identifier and its port. -/
def Carries (sites : List InProcessSiteConfig) (info : ProcInfo) : Prop :=
  ∃ process ∈ sites, process.hostName = info.config.hostName ∧
    process.procId = info.config.procId ∧ process.activePort = info.config.activePort

section

variable {before after : Environment} {program : Program} {new : ConfigWrapper}

theorem eq_of_hostName (hloops : program.OneLoopEach) {a b : ProcInfo}
    (ha : a ∈ program.procThreadMap) (hb : b ∈ program.procThreadMap)
    (hname : a.config.hostName = b.config.hostName) : a = b :=
  List.inj_on_of_nodup_map hloops.hostNames ha hb hname

theorem eq_of_procId (hloops : program.OneLoopEach) {a b : ProcInfo}
    (ha : a ∈ program.procThreadMap) (hb : b ∈ program.procThreadMap)
    (hid : a.config.procId = b.config.procId) : a = b :=
  List.inj_on_of_nodup_map hloops.procIds ha hb hid

/-- What the comparison makes of a process that has a loop. -/
theorem compareProcess_of_loop (hloops : program.OneLoopEach) {info : ProcInfo}
    (hinfo : info ∈ program.procThreadMap) {process : InProcessSiteConfig}
    (hname : process.hostName = info.config.hostName) {resolved : ResolvedProcess}
    (hresolved : new.internalConfiguration.resolveProcessConfiguration before process =
      .ok resolved) :
    compareProcess before new.internalConfiguration program.procThreadMap process =
      ⟨{ process with
          activePort := info.config.activePort
          procId := info.config.procId },
        info.config != { resolved with
          procId := info.config.procId
          activePort := info.config.activePort }, false⟩ := by
  have hfind : program.procThreadMap.find? (fun info => info.config.hostName == process.hostName) =
      some info := by
    cases hfind : program.procThreadMap.find?
        fun info => info.config.hostName == process.hostName with
    | none =>
      have hother := List.find?_eq_none.mp hfind info hinfo
      exact absurd (beq_iff_eq.mpr hname.symm) hother
    | some other =>
      have hother : other.config.hostName = process.hostName := by
        simpa using List.find?_some hfind
      rw [eq_of_hostName hloops (List.mem_of_find?_eq_some hfind) hinfo (hother.trans hname)]
  unfold compareProcess
  rw [hfind]
  dsimp only
  rw [hresolved]

/-- A process without a loop is started as it is. -/
theorem compareProcess_of_no_loop {process : InProcessSiteConfig}
    (hnone : ∀ info ∈ program.procThreadMap, info.config.hostName ≠ process.hostName) :
    compareProcess before new.internalConfiguration program.procThreadMap process =
      ⟨process, true, false⟩ := by
  have hfind : program.procThreadMap.find? (fun info => info.config.hostName == process.hostName) =
      none := by
    rw [List.find?_eq_none]
    intro info hinfo
    rw [beq_iff_eq]
    exact hnone info hinfo
  unfold compareProcess
  rw [hfind]

/-- The loops that stay in the map. -/
def Program.staying (before : Environment) (program : Program) (new : ConfigWrapper) :
    List ProcInfo :=
  (program.marked before new).filter fun info => !info.markedForRemoval

/-- Where nothing aborts, either the variables of the new configuration can be resolved or
none of its processes has a loop. -/
theorem resolved_of_passes
    (hpasses : (program.compareAll before new.internalConfiguration).any Compared.abort = false)
    {process : InProcessSiteConfig} (hprocess : process ∈ new.internalConfiguration.sites)
    {info : ProcInfo} (hinfo : info ∈ program.procThreadMap)
    (hname : process.hostName = info.config.hostName) :
    ∃ resolved, new.internalConfiguration.resolveProcessConfiguration before process =
      .ok resolved := by
  rcases adopt_passes_iff.mp hpasses with ⟨values, hvalues⟩ | hnone
  · exact ⟨process.resolved values, by rw [resolveProcess_eq, hvalues]; rfl⟩
  · exact absurd hname.symm (hnone process hprocess info hinfo)

/-- A loop goes on unchanged exactly when the reload does not mark it. -/
theorem stays_iff_unchanged (hloops : program.OneLoopEach)
    (hnames : new.internalConfiguration.hostNames.Nodup)
    (hpasses : (program.compareAll before new.internalConfiguration).any Compared.abort = false)
    {info : ProcInfo} (hinfo : info ∈ program.procThreadMap) :
    (markLoop (program.toStart before new.internalConfiguration)
      (program.compared before new).internalConfiguration.sites info).markedForRemoval = false ↔
      Unchanged before new.internalConfiguration info := by
  rw [marked_stays_iff]
  constructor
  · rintro ⟨-, ⟨process, hprocess, hname⟩, hunmodified⟩
    obtain ⟨resolved, hresolved⟩ := resolved_of_passes hpasses hprocess hinfo hname
    have hsame := hunmodified process hprocess hname
    rw [compareProcess_of_loop hloops hinfo hname hresolved] at hsame
    refine ⟨process, hprocess, hname, resolved, hresolved, ?_⟩
    have heq := bne_eq_false_iff_eq.mp hsame
    exact heq.symm
  · rintro ⟨process, hprocess, hname, resolved, hresolved, heq⟩
    refine ⟨hloops.unmarked info hinfo, ⟨process, hprocess, hname⟩, ?_⟩
    intro other hother hsame
    have hsites : (new.internalConfiguration.sites.map InProcessSiteConfig.hostName).Nodup := by
      rw [OddBoxV3Config.hostNames] at hnames
      exact hnames.of_append_right
    obtain rfl : other = process :=
      List.inj_on_of_nodup_map hsites hother hprocess (hsame.trans hname.symm)
    rw [compareProcess_of_loop hloops hinfo hname hresolved]
    exact bne_eq_false_iff_eq.mpr heq.symm

theorem mem_staying_iff (hloops : program.OneLoopEach)
    (hnames : new.internalConfiguration.hostNames.Nodup)
    (hpasses : (program.compareAll before new.internalConfiguration).any Compared.abort = false)
    (info : ProcInfo) : info ∈ program.staying before new ↔
      info ∈ program.procThreadMap ∧ Unchanged before new.internalConfiguration info := by
  rw [Program.staying, List.mem_filter, Bool.not_eq_true', Program.marked, List.mem_map]
  constructor
  · rintro ⟨⟨old, hold, rfl⟩, hstays⟩
    rw [markLoop_of_stays hstays]
    exact ⟨hold, (stays_iff_unchanged hloops hnames hpasses hold).mp hstays⟩
  · rintro ⟨hinfo, hunchanged⟩
    have hstays := (stays_iff_unchanged hloops hnames hpasses hinfo).mpr hunchanged
    have hsame := markLoop_of_stays hstays
    refine ⟨⟨info, hinfo, hsame⟩, ?_⟩
    rw [hsame] at hstays
    exact hstays

theorem sites_nodup (hnames : new.internalConfiguration.hostNames.Nodup) :
    (new.internalConfiguration.sites.map InProcessSiteConfig.hostName).Nodup := by
  rw [OddBoxV3Config.hostNames] at hnames
  exact hnames.of_append_right

/-- The comparison gives a process the identifier of its loop, or leaves it its own. -/
theorem compareProcess_procId (hloops : program.OneLoopEach)
    (hnames : new.internalConfiguration.hostNames.Nodup)
    (hpasses : (program.compareAll before new.internalConfiguration).any Compared.abort = false)
    {process : InProcessSiteConfig} (hprocess : process ∈ new.internalConfiguration.sites) :
    let compared := compareProcess before new.internalConfiguration program.procThreadMap process
    (∃ info ∈ program.procThreadMap, info.config.hostName = process.hostName ∧
      compared.process.procId = info.config.procId ∧
      (compared.modified = false ↔ Unchanged before new.internalConfiguration info)) ∨
    ((∀ info ∈ program.procThreadMap, info.config.hostName ≠ process.hostName) ∧
      compared.process.procId = process.procId ∧ compared.modified = true) := by
  intro compared
  by_cases hloop : ∃ info ∈ program.procThreadMap, info.config.hostName = process.hostName
  · obtain ⟨info, hinfo, hname⟩ := hloop
    obtain ⟨resolved, hresolved⟩ := resolved_of_passes hpasses hprocess hinfo hname.symm
    have hcompared : compared = _ := compareProcess_of_loop hloops hinfo hname.symm hresolved
    refine .inl ⟨info, hinfo, hname, ?_, ?_⟩
    · rw [hcompared]
    · rw [hcompared, ← stays_iff_unchanged hloops hnames hpasses hinfo, marked_stays_iff]
      constructor
      · intro hsame
        refine ⟨hloops.unmarked info hinfo, ⟨process, hprocess, hname.symm⟩, ?_⟩
        intro other hother hsameName
        obtain rfl : other = process := List.inj_on_of_nodup_map (sites_nodup hnames) hother
          hprocess (hsameName.trans hname)
        rw [compareProcess_of_loop hloops hinfo hname.symm hresolved]
        exact hsame
      · rintro ⟨-, -, hunmodified⟩
        have hsame := hunmodified process hprocess hname.symm
        rw [compareProcess_of_loop hloops hinfo hname.symm hresolved] at hsame
        exact hsame
  · have hnone : ∀ info ∈ program.procThreadMap, info.config.hostName ≠ process.hostName := by
      intro info hinfo hname
      exact hloop ⟨info, hinfo, hname⟩
    have hcompared : compared = _ := @compareProcess_of_no_loop before program new process hnone
    refine .inr ⟨hnone, ?_, ?_⟩
    · rw [hcompared]
    · rw [hcompared]

theorem staying_sublist : (program.staying before new).Sublist program.procThreadMap := by
  have hstaying : program.staying before new = program.procThreadMap.filter fun info =>
      !(markLoop (program.toStart before new.internalConfiguration)
        (program.compared before new).internalConfiguration.sites info).markedForRemoval := by
    rw [Program.staying, Program.marked, List.filter_map]
    apply (List.map_congr_left ?_).trans (List.map_id' _)
    intro info hinfo
    have hstays := (List.mem_filter.mp hinfo).2
    exact markLoop_of_stays (Bool.not_eq_true' _ ▸ hstays)
  rw [hstaying]
  exact List.filter_sublist

theorem toStart_eq (new : OddBoxV3Config) : program.toStart before new =
    (new.sites.filter fun process =>
      (compareProcess before new program.procThreadMap process).modified).map fun process =>
        (compareProcess before new program.procThreadMap process).process := by
  rw [Program.toStart, Program.compareAll, List.filter_map, List.map_map]
  rfl

section

variable (hloops : program.OneLoopEach) (hnames : new.internalConfiguration.hostNames.Nodup)
  (hpasses : (program.compareAll before new.internalConfiguration).any Compared.abort = false)
include hloops hnames hpasses

/-- The loops that stay and those to start are for different processes, and all
processes of the new configuration have one. -/
theorem staying_toStart_perm :
    ((program.staying before new).map (fun info => info.config.hostName) ++
      (program.toStart before new.internalConfiguration).map InProcessSiteConfig.hostName).Perm
      (new.internalConfiguration.sites.map InProcessSiteConfig.hostName) := by
  have hstart : (program.toStart before new.internalConfiguration).map
      InProcessSiteConfig.hostName = (new.internalConfiguration.sites.filter fun process =>
        (compareProcess before new.internalConfiguration program.procThreadMap
          process).modified).map InProcessSiteConfig.hostName := by
    rw [toStart_eq, List.map_map]
    apply List.map_congr_left
    intro process _
    exact compareProcess_hostName process
  have hstay : ((program.staying before new).map fun info => info.config.hostName).Perm
      ((new.internalConfiguration.sites.filter fun process =>
        !(compareProcess before new.internalConfiguration program.procThreadMap
          process).modified).map InProcessSiteConfig.hostName) := by
    rw [List.perm_ext_iff_of_nodup]
    · intro name
      simp only [List.mem_map, mem_staying_iff hloops hnames hpasses, List.mem_filter,
        Bool.not_eq_true']
      constructor
      · rintro ⟨info, ⟨hinfo, hunchanged⟩, rfl⟩
        obtain ⟨process, hprocess, hname, -⟩ := id hunchanged
        rcases compareProcess_procId hloops hnames hpasses hprocess with
          ⟨other, hother, hsame, -, hiff⟩ | ⟨hnone, -⟩
        · obtain rfl := eq_of_hostName hloops hother hinfo (hsame.trans hname)
          exact ⟨process, ⟨hprocess, hiff.mpr hunchanged⟩, hname⟩
        · exact absurd hname.symm (hnone info hinfo)
      · rintro ⟨process, ⟨hprocess, hunmodified⟩, rfl⟩
        rcases compareProcess_procId hloops hnames hpasses hprocess with
          ⟨info, hinfo, hname, -, hiff⟩ | ⟨-, -, hmodified⟩
        · exact ⟨info, ⟨hinfo, hiff.mp hunmodified⟩, hname⟩
        · rw [hmodified] at hunmodified
          contradiction
    · have hsublist := (@staying_sublist before program new).map
        fun info => info.config.hostName
      exact hsublist.nodup hloops.hostNames
    · exact ((List.filter_sublist).map InProcessSiteConfig.hostName).nodup (sites_nodup hnames)
  rw [hstart]
  apply List.perm_append_comm.trans
  apply (hstay.append_left _).trans
  rw [← List.map_append]
  exact (List.filter_append_perm _ _).map _

theorem staying_toStart_procIds (hfresh : program.Fresh new.internalConfiguration) :
    ((program.staying before new).map (fun info => info.config.procId) ++
      (program.toStart before new.internalConfiguration).map InProcessSiteConfig.procId).Nodup := by
  have hstart : (program.toStart before new.internalConfiguration).map
      InProcessSiteConfig.procId = (new.internalConfiguration.sites.filter fun process =>
        (compareProcess before new.internalConfiguration program.procThreadMap
          process).modified).map fun process => (compareProcess before new.internalConfiguration
            program.procThreadMap process).process.procId := by
    rw [toStart_eq, List.map_map]
    rfl
  rw [hstart]
  apply List.Nodup.append
  · have hsublist := (@staying_sublist before program new).map
      fun info => info.config.procId
    exact hsublist.nodup hloops.procIds
  · apply List.Nodup.map_on
    · intro a ha b hb hid
      obtain ⟨ha, -⟩ := List.mem_filter.mp ha
      obtain ⟨hb, -⟩ := List.mem_filter.mp hb
      rcases compareProcess_procId hloops hnames hpasses ha with
        ⟨info, hinfo, hname, haid, -⟩ | ⟨-, haid, -⟩ <;>
      rcases compareProcess_procId hloops hnames hpasses hb with
        ⟨other, hother, hotherName, hbid, -⟩ | ⟨-, hbid, -⟩ <;>
      rw [haid, hbid] at hid
      · obtain rfl := eq_of_procId hloops hinfo hother hid
        exact List.inj_on_of_nodup_map (sites_nodup hnames) ha hb (hname.symm.trans hotherName)
      · exact absurd hid.symm (hfresh.unused b hb info hinfo)
      · exact absurd hid (hfresh.unused a ha other hother)
      · exact List.inj_on_of_nodup_map hfresh.distinct ha hb hid
    · exact (List.Nodup.of_map _ (sites_nodup hnames)).filter _
  · intro id hstay hstart
    obtain ⟨info, hinfo, rfl⟩ := List.mem_map.mp hstay
    obtain ⟨hinfo, hunchanged⟩ := (mem_staying_iff hloops hnames hpasses info).mp hinfo
    obtain ⟨process, hprocess, hid⟩ := List.mem_map.mp hstart
    obtain ⟨hprocess, hmodified⟩ := List.mem_filter.mp hprocess
    rcases compareProcess_procId hloops hnames hpasses hprocess with
      ⟨other, hother, -, hother', hiff⟩ | ⟨-, hown, -⟩
    · obtain rfl := eq_of_procId hloops hother hinfo (hother'.symm.trans hid)
      rw [hiff.mpr hunchanged] at hmodified
      contradiction
    · exact absurd (hown.symm.trans hid) (hfresh.unused process hprocess info hinfo)

end

end

end OddBox.Configuration

import Mathlib
import OddBox.Configuration.Ports
import OddBox.Machine
import OddBox.Routing.Agreement

/-!
The cache of `try_find_site` over time: lookups fill it, and process loops, the
container refresh and the reload change what it is filled from. Only a cached target
of a live process is ever used, so only these have to stay right.
-/

namespace OddBox.Routing

open OddBox.FirstMatch OddBox.Str OddBox.Configuration

/-! ## What happens to the state -/

inductive CacheEvent where
  | lookup (host : String)
  /-- The loop of a process asks for its port before it starts the process. -/
  | setActivePort (call : PortCall)
  /-- The entries of `PROC_THREAD_MAP` after loops have started or ended. -/
  | loops (alive : ProcId → Bool)
  | refreshContainers (containers : List (String × ContainerProxyTarget))
  /-- The reload replaces the configuration; it invalidates the cache afterwards. -/
  | adopt (config : OddBoxV3Config)
  | invalidateCache

def GlobalState.invalidateCache (self : GlobalState) : GlobalState :=
  { self with reverseTcpProxyTargetCache := fun _ => none }

def GlobalState.setActivePort (self : GlobalState) (call : PortCall) : GlobalState :=
  { self with config := self.config.call call }

/-- A new configuration comes without containers; an invalid one is not adopted. -/
def GlobalState.adopt (self : GlobalState) (config : OddBoxV3Config) : GlobalState :=
  match config.isValid with
  | .ok () => { self with config := config, dockerContainers := [] }
  | .error _ => self

def GlobalState.cacheStep (mapping : CaseMapping) (self : GlobalState) :
    CacheEvent → GlobalState
  | .lookup host => (self.tryFindSite mapping host).2
  | .setActivePort call => self.setActivePort call
  | .loops alive => { self with procThreadMap := alive }
  | .refreshContainers containers => { self with dockerContainers := containers }
  | .adopt config => self.adopt config
  | .invalidateCache => self.invalidateCache

/-! ## Coherence -/

/-- The site of a target, with the addresses and the ports of its backends. -/
def ReverseTcpProxyTarget.view (target : ReverseTcpProxyTarget) :
    SiteKind × String × List (String × UInt16) :=
  (target.site.kind, target.site.hostName, target.backends.map fun b => (b.address, b.port))

/-- For every host the resolver answers what it would answer with an empty cache. -/
def GlobalState.Coherent (mapping : CaseMapping) (self : GlobalState) : Prop :=
  ∀ host, (self.tryFindSite mapping host).1.map ReverseTcpProxyTarget.view =
    (self.invalidateCache.tryFindSite mapping host).1.map ReverseTcpProxyTarget.view

/-- The target is what the lists of sites give for the host now: the first process that
answers, with its port, and no remote target. -/
def GlobalState.Serves (mapping : CaseMapping) (self : GlobalState) (host : String)
    (target : ReverseTcpProxyTarget) : Prop :=
  Calm (containerAnswer mapping host) self.dockerContainers ∧
    Silent (remoteAnswer mapping host) self.config.remoteTargets ∧
    ∃ process subDomain, IsFirst (processAnswer mapping host) self.config.sites process subDomain ∧
      (processTarget self.localAddr process subDomain).view = target.view

section

variable {mapping : CaseMapping} {host : String} {state : GlobalState}

theorem cachedTarget_eq_some {target : ReverseTcpProxyTarget} :
    state.cachedTarget host = some target ↔ state.reverseTcpProxyTargetCache host = some target ∧
      ∃ id, target.procId = some id ∧ state.procThreadMap id = true := by
  rw [GlobalState.cachedTarget, Option.filter_eq_some_iff, Option.any_eq_true]

theorem kind_of_cachedTarget {target : ReverseTcpProxyTarget}
    (h : state.cachedTarget host = some target) : target.site.kind = .hostedProcess := by
  obtain ⟨-, id, hid, -⟩ := cachedTarget_eq_some.mp h
  obtain ⟨process, hsite⟩ := target.hosted id hid
  rw [hsite]
  rfl

/-- With an empty cache the answer is that of the lists. -/
theorem fresh_eq_iff {target : ReverseTcpProxyTarget}
    (hkind : target.site.kind = .hostedProcess) :
    (state.invalidateCache.tryFindSite mapping host).1.map ReverseTcpProxyTarget.view =
        .yes target.view ↔ state.Serves mapping host target := by
  rw [map_eq_yes]
  constructor
  · rintro ⟨found, hfound, hview⟩
    have hfoundKind : found.site.kind = .hostedProcess := by
      rw [← hkind]
      exact congrArg Prod.fst hview
    cases tryFindSite_eq_yes.mp hfound with
    | cached hhit => contradiction
    | remote => contradiction
    | container => contradiction
    | process _ hcontainers hfirst hremotes =>
      exact ⟨hcontainers, hremotes, _, _, hfirst, hview⟩
  · rintro ⟨hcontainers, hremotes, process, subDomain, hfirst, hview⟩
    exact ⟨_, tryFindSite_eq_yes.mpr (.process rfl hcontainers hfirst hremotes), hview⟩

/-- Nothing but a used cached target tells the state from one with an empty cache. -/
theorem tryFindSite_fresh (hmiss : state.cachedTarget host = none) :
    (state.tryFindSite mapping host).1 = (state.invalidateCache.tryFindSite mapping host).1 := by
  rw [tryFindSite_miss hmiss, tryFindSite_miss rfl]
  rfl

theorem coherent_iff : state.Coherent mapping ↔ ∀ host target,
    state.cachedTarget host = some target → state.Serves mapping host target := by
  constructor
  · intro h host target hcached
    have hhit : (state.tryFindSite mapping host).1 = .yes target :=
      tryFindSite_eq_yes.mpr (.cached hcached)
    have hanswer := h host
    rw [hhit] at hanswer
    exact (fresh_eq_iff (kind_of_cachedTarget hcached)).mp hanswer.symm
  · intro h host
    cases hcached : state.cachedTarget host with
    | none => rw [tryFindSite_fresh hcached]
    | some target =>
      have hhit : (state.tryFindSite mapping host).1 = .yes target :=
        tryFindSite_eq_yes.mpr (.cached hcached)
      rw [hhit, (fresh_eq_iff (kind_of_cachedTarget hcached)).mpr (h host target hcached)]
      rfl

/-! ## What each event asks -/

variable (mapping state)

/-- What an event must not do to the hosts for which a target of a live process is cached. -/
def GlobalState.Keeps : CacheEvent → Prop
  -- the process is cached before the comparison with a remote target panics
  | .lookup host => state.cachedTarget host = none →
      Calm (containerAnswer mapping host) state.dockerContainers →
      ∀ process subDomain,
        IsFirst (processAnswer mapping host) state.config.sites process subDomain →
        state.procThreadMap process.procId = true →
        Calm (remoteAnswer mapping host) state.config.remoteTargets
  -- a process that gets another port answers to none of the hosts, or not first
  | .setActivePort call => ∀ before process after port,
      state.config.sites = before ++ process :: after →
      (state.config.call call).sites =
        before ++ { process with activePort := some port } :: after →
      port ≠ process.activePort.getD 0 → ∀ host, state.cachedTarget host ≠ none →
        filterFun mapping host process.hostName (process.captureSubdomains.getD false) = .no ∨
          ¬Silent (processAnswer mapping host) before
  | .loops alive => ∀ host target id, state.reverseTcpProxyTargetCache host = some target →
      target.procId = some id → alive id = true → state.procThreadMap id = false →
      state.Serves mapping host target
  | .refreshContainers containers => ∀ host, state.cachedTarget host ≠ none →
      Calm (containerAnswer mapping host) containers
  | .adopt config => ∀ host target, state.cachedTarget host = some target →
      (state.adopt config).Serves mapping host target
  | .invalidateCache => True

variable {mapping state}

/-! ### Lookups -/

/-- What a lookup that misses the cache leaves behind. -/
theorem tryFindSite_after (hmiss : state.cachedTarget host = none) :
    (state.tryFindSite mapping host).2 =
      if state.findContainer mapping host = .failed then state
      else if state.findProcess mapping host = .failed then
        state.remember host (state.findContainer mapping host)
      else ((state.remember host (state.findContainer mapping host)).remember host
        (state.findProcess mapping host)).remember host (state.findRemote mapping host) := by
  simp only [GlobalState.tryFindSite, hmiss, (remember_find _).1, (remember_find _).2]
  split_ifs with hcontainer hprocess hremote
  · rfl
  · rfl
  · rw [hremote]
    rfl
  · rfl

theorem remember_eq (found : Answer ReverseTcpProxyTarget) (host : String) :
    ∃ cache, state.remember host found = { state with reverseTcpProxyTargetCache := cache } ∧
      ∀ other, other ≠ host → cache other = state.reverseTcpProxyTargetCache other := by
  cases found with
  | yes target =>
    exact ⟨_, rfl, fun other hother => Function.update_of_ne hother _ _⟩
  | no => exact ⟨_, rfl, fun _ _ => rfl⟩
  | failed => exact ⟨_, rfl, fun _ _ => rfl⟩

/-- A lookup changes the cache for its host only, and nothing else. -/
theorem tryFindSite_eq (state : GlobalState) (host : String) :
    ∃ cache, (state.tryFindSite mapping host).2 =
        { state with reverseTcpProxyTargetCache := cache } ∧
      ∀ other, other ≠ host → cache other = state.reverseTcpProxyTargetCache other := by
  cases hcached : state.cachedTarget host with
  | some target =>
    refine ⟨state.reverseTcpProxyTargetCache, ?_, fun _ _ => rfl⟩
    simp only [GlobalState.tryFindSite, hcached]
  | none =>
    rw [tryFindSite_after hcached]
    split_ifs with hcontainer hprocess
    · exact ⟨_, rfl, fun _ _ => rfl⟩
    · exact remember_eq _ _
    · obtain ⟨first, hfirst, hfirstOther⟩ :=
        @remember_eq state (state.findContainer mapping host) host
      rw [hfirst]
      obtain ⟨second, hsecond, hsecondOther⟩ := @remember_eq
        { state with reverseTcpProxyTargetCache := first } (state.findProcess mapping host) host
      rw [hsecond]
      obtain ⟨third, hthird, hthirdOther⟩ := @remember_eq
        { state with reverseTcpProxyTargetCache := second } (state.findRemote mapping host) host
      refine ⟨third, hthird, ?_⟩
      intro other hother
      rw [hthirdOther other hother]
      exact (hsecondOther other hother).trans (hfirstOther other hother)

theorem cachedTarget_remember (found : Answer ReverseTcpProxyTarget) :
    (state.remember host found).cachedTarget host =
      match found with
      | .yes target => if target.procId.any state.procThreadMap then some target else none
      | _ => state.cachedTarget host := by
  cases found with
  | yes target =>
    simp only [GlobalState.remember, GlobalState.cachedTarget, Function.update_self,
      Option.filter_some]
  | no => rfl
  | failed => rfl

theorem findContainer_procId {target : ReverseTcpProxyTarget}
    (h : state.findContainer mapping host = .yes target) : target.procId = none := by
  obtain ⟨_, _, _, rfl⟩ := firstMatch_map_eq_yes.mp h
  rfl

theorem findRemote_procId {target : ReverseTcpProxyTarget}
    (h : state.findRemote mapping host = .yes target) : target.procId = none := by
  obtain ⟨_, _, _, rfl⟩ := firstMatch_map_eq_yes.mp h
  rfl

theorem remember_procThreadMap (found : Answer ReverseTcpProxyTarget) :
    (state.remember host found).procThreadMap = state.procThreadMap := by
  cases found <;> rfl

/-- A target without a process is not used from the cache. -/
theorem cachedTarget_remember_other {found : Answer ReverseTcpProxyTarget}
    (hother : ∀ target, found = .yes target → target.procId = none)
    (hmiss : state.cachedTarget host = none) :
    (state.remember host found).cachedTarget host = none := by
  rw [cachedTarget_remember]
  cases hfound : found with
  | yes target => simp only [hother target hfound, Option.any_none, Bool.false_eq_true, if_false]
  | no => exact hmiss
  | failed => exact hmiss

/-- What is cached for the host of a lookup that missed: the process that was found, if it
lives and no remote target was found after it. -/
theorem lookup_cached_iff (hmiss : state.cachedTarget host = none)
    {target : ReverseTcpProxyTarget} :
    (state.tryFindSite mapping host).2.cachedTarget host = some target ↔
      state.findContainer mapping host ≠ .failed ∧
        (∀ remote, state.findRemote mapping host ≠ .yes remote) ∧
        state.findProcess mapping host = .yes target ∧
        target.procId.any state.procThreadMap = true := by
  have hcontainerMiss :=
    cachedTarget_remember_other (@findContainer_procId mapping host state) hmiss
  rw [tryFindSite_after hmiss]
  by_cases hcontainer : state.findContainer mapping host = .failed
  · rw [if_pos hcontainer, hmiss]
    refine iff_of_false (by simp) ?_
    rintro ⟨hcalm, -⟩
    exact hcalm hcontainer
  rw [if_neg hcontainer]
  by_cases hprocess : state.findProcess mapping host = .failed
  · rw [if_pos hprocess, hcontainerMiss]
    refine iff_of_false (by simp) ?_
    rintro ⟨-, -, hfound, -⟩
    rw [hprocess] at hfound
    cases hfound
  rw [if_neg hprocess, cachedTarget_remember]
  have hbefore : ((state.remember host (state.findContainer mapping host)).remember host
      (state.findProcess mapping host)).cachedTarget host = some target ↔
        state.findProcess mapping host = .yes target ∧
          target.procId.any state.procThreadMap = true := by
    rw [cachedTarget_remember, remember_procThreadMap, hcontainerMiss]
    cases hfound : state.findProcess mapping host with
    | failed => exact absurd hfound hprocess
    | no => simp only [reduceCtorEq, false_and]
    | yes found =>
      simp only [Option.ite_none_right_eq_some, Option.some.injEq, Answer.yes.injEq]
      constructor
      · rintro ⟨halive, rfl⟩
        exact ⟨rfl, halive⟩
      · rintro ⟨rfl, halive⟩
        exact ⟨halive, rfl⟩
  cases hremote : state.findRemote mapping host with
  | yes remote =>
    simp only [findRemote_procId hremote, Option.any_none, Bool.false_eq_true, if_false,
      reduceCtorEq, false_iff]
    rintro ⟨-, hno, -⟩
    exact hno remote rfl
  | no =>
    simp only [hbefore, hcontainer, reduceCtorEq, not_false_eq_true, implies_true, true_and, ne_eq]
  | failed =>
    simp only [hbefore, hcontainer, reduceCtorEq, not_false_eq_true, implies_true, true_and, ne_eq]

theorem findRemote_calm :
    state.findRemote mapping host ≠ .failed ↔
      Calm (remoteAnswer mapping host) state.config.remoteTargets := by
  rw [calm_iff, ne_eq, GlobalState.findRemote, map_eq_failed]

theorem findProcess_eq_yes {target : ReverseTcpProxyTarget} :
    state.findProcess mapping host = .yes target ↔ ∃ process subDomain,
      IsFirst (processAnswer mapping host) state.config.sites process subDomain ∧
        processTarget state.localAddr process subDomain = target :=
  firstMatch_map_eq_yes

/-- The lists serve the process that the resolver finds. -/
theorem serves_findProcess {target : ReverseTcpProxyTarget}
    (hfound : state.findProcess mapping host = .yes target) :
    state.Serves mapping host target ↔
      Calm (containerAnswer mapping host) state.dockerContainers ∧
        Silent (remoteAnswer mapping host) state.config.remoteTargets := by
  constructor
  · rintro ⟨hcontainers, hremotes, -⟩
    exact ⟨hcontainers, hremotes⟩
  · rintro ⟨hcontainers, hremotes⟩
    obtain ⟨process, subDomain, hfirst, rfl⟩ := findProcess_eq_yes.mp hfound
    exact ⟨hcontainers, hremotes, process, subDomain, hfirst, rfl⟩

theorem coherent_lookup (hcoherent : state.Coherent mapping) :
    (state.cacheStep mapping (.lookup host)).Coherent mapping ↔
      state.Keeps mapping (.lookup host) := by
  obtain ⟨cache, hstate, hcache⟩ := @tryFindSite_eq mapping state host
  have hserves : ∀ other target,
      (state.tryFindSite mapping host).2.Serves mapping other target ↔
        state.Serves mapping other target := by
    intro other target
    rw [hstate]
    rfl
  have hother : ∀ other, other ≠ host →
      (state.tryFindSite mapping host).2.cachedTarget other = state.cachedTarget other := by
    intro other hne
    simp only [hstate, GlobalState.cachedTarget, hcache other hne]
  rw [coherent_iff] at hcoherent ⊢
  simp only [GlobalState.cacheStep, hserves]
  constructor
  · intro h hmiss hcontainers process subDomain hfirst halive
    rw [← findRemote_calm]
    intro hfailed
    have hfound : state.findProcess mapping host =
        .yes (processTarget state.localAddr process subDomain) :=
      findProcess_eq_yes.mpr ⟨process, subDomain, hfirst, rfl⟩
    have hcached := (lookup_cached_iff hmiss).mpr ⟨findContainer_calm.mpr hcontainers,
      by simp [hfailed], hfound, halive⟩
    have hsilent := ((serves_findProcess hfound).mp (h host _ hcached)).2
    rw [findRemote_silent.mpr hsilent] at hfailed
    cases hfailed
  · intro hkeeps other target hcached
    by_cases hne : other = host
    · rw [hne] at hcached ⊢
      cases hmiss : state.cachedTarget host with
      | some kept =>
        have hsame : (state.tryFindSite mapping host).2 = state := by
          simp only [GlobalState.tryFindSite, hmiss]
        rw [hsame] at hcached
        exact hcoherent host target hcached
      | none =>
        obtain ⟨hcontainers, hno, hfound, halive⟩ := (lookup_cached_iff hmiss).mp hcached
        have hcalm := findContainer_calm.mp hcontainers
        obtain ⟨process, subDomain, hfirst, rfl⟩ := findProcess_eq_yes.mp hfound
        rw [serves_findProcess hfound]
        refine ⟨hcalm, ?_⟩
        have hremotes := findRemote_calm.mpr (hkeeps hmiss hcalm process subDomain hfirst halive)
        rw [← findRemote_silent]
        cases hremote : state.findRemote mapping host with
        | no => rfl
        | yes remote => exact absurd hremote (hno remote)
        | failed => exact absurd hremote hremotes
    · rw [hother other hne] at hcached
      exact hcoherent other target hcached

/-! ### Ports -/

theorem markActive_eq (procId : ProcId) (port : UInt16) (sites : List InProcessSiteConfig) :
    markActive procId port sites = sites ∨ ∃ before process after,
      sites = before ++ process :: after ∧
        markActive procId port sites =
          before ++ { process with activePort := some port } :: after := by
  induction sites with
  | nil => exact Or.inl rfl
  | cons first sites ih =>
    by_cases hfirst : first.procId = procId
    · right
      refine ⟨[], first, sites, rfl, ?_⟩
      rw [markActive, if_pos hfirst]
      rfl
    · rw [markActive, if_neg hfirst]
      rcases ih with h | ⟨before, process, after, hsites, h⟩
      · left
        rw [h]
      · right
        refine ⟨first :: before, process, after, ?_, ?_⟩
        · rw [hsites]
          rfl
        · rw [h]
          rfl

/-- A call saves a port at one site or at none, and changes nothing else. -/
theorem call_eq (config : OddBoxV3Config) (call : PortCall) :
    config.call call = config ∨ ∃ port, config.call call =
      { config with
        hostedProcess := config.hostedProcess.map (markActive call.proc.procId port) } := by
  rw [OddBoxV3Config.call]
  rcases setActivePort_eq config call.proc call.oracle call.fuel with ⟨_, heq, -⟩ | ⟨-, heq⟩
  · left
    rw [heq]
  · rw [heq]
    simp only [OddBoxV3Config.finishActivePort]
    split
    · rename_i port _
      exact Or.inr ⟨port, rfl⟩
    · exact Or.inl rfl

theorem sites_call (config : OddBoxV3Config) (call : PortCall) :
    (config.call call).sites = config.sites ∨ ∃ before process after port,
      config.sites = before ++ process :: after ∧
        (config.call call).sites =
          before ++ { process with activePort := some port } :: after := by
  rcases call_eq config call with h | ⟨port, h⟩
  · left
    rw [h]
  · rw [h]
    simp only [OddBoxV3Config.sites]
    cases config.hostedProcess with
    | none => exact Or.inl rfl
    | some sites =>
      rcases markActive_eq call.proc.procId port sites with hsame | ⟨before, process, after, hsites⟩
      · exact Or.inl hsame
      · exact Or.inr ⟨before, process, after, port, hsites⟩

theorem call_other (config : OddBoxV3Config) (call : PortCall) :
    (config.call call).remoteTargets = config.remoteTargets ∧
      (config.call call).useLoopbackIpForProcs = config.useLoopbackIpForProcs := by
  rcases call_eq config call with h | ⟨port, h⟩
  · rw [h]
    exact ⟨rfl, rfl⟩
  · rw [h]
    exact ⟨rfl, rfl⟩

/-- The address and the port at which a process is reached. -/
def processView (localAddr : String) (process : InProcessSiteConfig) :
    SiteKind × String × List (String × UInt16) :=
  (.hostedProcess, process.hostName, [(localAddr, process.activePort.getD 0)])

/-- What the scan of the processes finds for a host. -/
def scanView (mapping : CaseMapping) (host localAddr : String) (sites : List InProcessSiteConfig) :
    Answer (SiteKind × String × List (String × UInt16)) :=
  (firstMatch (processAnswer mapping host) sites).map fun found => processView localAddr found.1

theorem serves_iff {target : ReverseTcpProxyTarget} :
    state.Serves mapping host target ↔
      Calm (containerAnswer mapping host) state.dockerContainers ∧
        Silent (remoteAnswer mapping host) state.config.remoteTargets ∧
        scanView mapping host state.localAddr state.config.sites = .yes target.view := by
  rw [scanView, firstMatch_map_eq_yes]
  rfl

variable {before after : List InProcessSiteConfig} {process : InProcessSiteConfig} {port : UInt16}

theorem scanView_append (localAddr : String) (sites rest : List InProcessSiteConfig) :
    scanView mapping host localAddr (sites ++ rest) =
      (scanView mapping host localAddr rest).replacedBy
        (scanView mapping host localAddr sites) := by
  rw [scanView, firstMatch_append]
  cases hsites : firstMatch (processAnswer mapping host) sites <;> simp [scanView, hsites] <;> rfl

theorem scanView_cons (localAddr : String) (rest : List InProcessSiteConfig) :
    scanView mapping host localAddr (process :: rest) =
      match processAnswer mapping host process with
      | .no => scanView mapping host localAddr rest
      | .yes _ => .yes (processView localAddr process)
      | .failed => .failed := by
  rw [scanView, firstMatch]
  cases processAnswer mapping host process <;> rfl

theorem scanView_eq_no {localAddr : String} {sites : List InProcessSiteConfig} :
    scanView mapping host localAddr sites = .no ↔ Silent (processAnswer mapping host) sites := by
  rw [scanView, map_eq_no, firstMatch_eq_no]

/-- What a scan finds has the name of a site that it goes through. -/
theorem scanView_mem {localAddr : String} {sites : List InProcessSiteConfig}
    {view : SiteKind × String × List (String × UInt16)}
    (h : scanView mapping host localAddr sites = .yes view) :
    view.2.1 ∈ sites.map (·.hostName) := by
  obtain ⟨found, _, hfirst, rfl⟩ := firstMatch_map_eq_yes.mp h
  exact List.mem_map_of_mem hfirst.mem

theorem scanView_silent {localAddr : String} {rest : List InProcessSiteConfig}
    (hsilent : Silent (processAnswer mapping host) before) :
    scanView mapping host localAddr (before ++ rest) = scanView mapping host localAddr rest := by
  rw [scanView_append, scanView_eq_no.mpr hsilent]
  rfl

theorem scanView_not_silent {localAddr : String} {rest : List InProcessSiteConfig}
    (hsilent : ¬Silent (processAnswer mapping host) before) :
    scanView mapping host localAddr (before ++ rest) = scanView mapping host localAddr before := by
  rw [scanView_append]
  cases hfound : scanView mapping host localAddr before with
  | no => exact absurd (scanView_eq_no.mp hfound) hsilent
  | yes view => rfl
  | failed => rfl

theorem scanView_skipped {localAddr : String}
    (h : filterFun mapping host process.hostName (process.captureSubdomains.getD false) = .no) :
    scanView mapping host localAddr (process :: after) = scanView mapping host localAddr after := by
  rw [scanView_cons, processAnswer, h]

theorem isRunning_eq : isRunning process = true ↔ process.activePort.getD 0 ≠ 0 := by
  rw [isRunning, decide_eq_true_eq, gt_iff_lt, UInt16.pos_iff_ne_zero]

/-- A site that the scan comes to and that answers to the host is found with its port, or
passed over where it has none. -/
theorem scanView_answering {localAddr : String} {subDomain : Option String}
    (h : filterFun mapping host process.hostName (process.captureSubdomains.getD false) =
      .yes subDomain) :
    scanView mapping host localAddr (process :: after) =
      if process.activePort.getD 0 = 0 then scanView mapping host localAddr after
      else .yes (processView localAddr process) := by
  rw [scanView_cons, processAnswer, h]
  by_cases hport : process.activePort.getD 0 = 0
  · have hrunning : isRunning process = false := by
      rw [← Bool.not_eq_true, isRunning_eq, not_not]
      exact hport
    simp only [hrunning, hport, Bool.false_eq_true, if_false, if_true]
  · simp only [isRunning_eq.mpr hport, hport, if_false, if_true]

/-- A process that gets another port is found as before exactly where the scan does not
come to it, or it does not answer to the host. -/
theorem scanView_port {localAddr : String} {view : SiteKind × String × List (String × UInt16)}
    (hnames : ((before ++ process :: after).map (·.hostName)).Nodup)
    (hfound : scanView mapping host localAddr (before ++ process :: after) = .yes view) :
    scanView mapping host localAddr
        (before ++ { process with activePort := some port } :: after) = .yes view ↔
      (port ≠ process.activePort.getD 0 →
        filterFun mapping host process.hostName (process.captureSubdomains.getD false) = .no ∨
          ¬Silent (processAnswer mapping host) before) := by
  by_cases hsilent : Silent (processAnswer mapping host) before
  · rw [scanView_silent hsilent] at hfound ⊢
    simp only [hsilent, not_true_eq_false, or_false]
    rw [List.map_append, List.map_cons] at hnames
    have hafter : process.hostName ∉ after.map (·.hostName) :=
      (List.nodup_cons.mp hnames.of_append_right).1
    cases hanswer : filterFun mapping host process.hostName
        (process.captureSubdomains.getD false) with
    | failed =>
      rw [scanView_cons, processAnswer, hanswer] at hfound
      cases hfound
    | no =>
      refine iff_of_true ?_ fun _ => rfl
      rw [scanView_skipped hanswer] at hfound
      exact (@scanView_skipped mapping host after { process with activePort := some port } localAddr
        hanswer).trans hfound
    | yes subDomain =>
      have hnext : ∀ port', scanView mapping host localAddr
          ({ process with activePort := some port' } :: after) =
            if port' = 0 then scanView mapping host localAddr after
            else .yes (.hostedProcess, process.hostName, [(localAddr, port')]) := by
        intro port'
        exact scanView_answering hanswer
      rw [scanView_answering hanswer] at hfound
      rw [hnext]
      simp only [reduceCtorEq, imp_false, not_not]
      constructor
      · intro hagain
        split_ifs at hfound hagain with hold hnew hnew
        · rw [hold, hnew]
        · cases hagain
          exact absurd (scanView_mem hfound) hafter
        · cases hfound
          exact absurd (scanView_mem hagain) hafter
        · cases hfound
          cases hagain
          rfl
      · intro hport
        rw [hport]
        exact hfound
  · rw [scanView_not_silent hsilent] at hfound ⊢
    exact iff_of_true hfound fun _ => Or.inr hsilent

theorem coherent_setActivePort {call : PortCall}
    (hnames : (state.config.sites.map (·.hostName)).Nodup) (hcoherent : state.Coherent mapping) :
    (state.cacheStep mapping (.setActivePort call)).Coherent mapping ↔
      state.Keeps mapping (.setActivePort call) := by
  obtain ⟨hremotes, hloopback⟩ := call_other state.config call
  have haddr : (state.setActivePort call).localAddr = state.localAddr := by
    rw [GlobalState.localAddr, GlobalState.localAddr, GlobalState.setActivePort, hloopback]
  have hserves : ∀ host target, state.Serves mapping host target →
      ((state.setActivePort call).Serves mapping host target ↔
        scanView mapping host state.localAddr (state.config.call call).sites =
          .yes target.view) := by
    intro host target h
    rw [serves_iff, haddr]
    simp only [GlobalState.setActivePort, hremotes, (serves_iff.mp h).1, (serves_iff.mp h).2.1,
      true_and]
  rw [coherent_iff] at hcoherent ⊢
  have hscan : (∀ host target, (state.setActivePort call).cachedTarget host = some target →
      (state.setActivePort call).Serves mapping host target) ↔
        ∀ host target, state.cachedTarget host = some target →
          scanView mapping host state.localAddr (state.config.call call).sites =
            .yes target.view := by
    apply forall_congr'
    intro host
    apply forall_congr'
    intro target
    apply forall_congr'
    intro hcached
    exact hserves host target (hcoherent host target hcached)
  rw [GlobalState.cacheStep, hscan]
  constructor
  · intro h before process after port hbefore hafter hport host hcached
    obtain ⟨target, htarget⟩ := Option.ne_none_iff_exists'.mp hcached
    have hfound := (serves_iff.mp (hcoherent host target htarget)).2.2
    have hagain := h host target htarget
    rw [hbefore] at hnames hfound
    rw [hafter] at hagain
    exact (scanView_port hnames hfound).mp hagain hport
  · intro hkeeps host target htarget
    have hfound := (serves_iff.mp (hcoherent host target htarget)).2.2
    rcases sites_call state.config call with hsame | ⟨before, process, after, port, hbefore, hafter⟩
    · rw [hsame]
      exact hfound
    · rw [hafter]
      rw [hbefore] at hnames hfound
      apply (scanView_port hnames hfound).mpr
      intro hport
      apply hkeeps before process after port hbefore hafter hport host
      rw [htarget]
      exact Option.some_ne_none target

/-! ### The other events -/

theorem coherent_loops {alive : ProcId → Bool} (hcoherent : state.Coherent mapping) :
    (state.cacheStep mapping (.loops alive)).Coherent mapping ↔
      state.Keeps mapping (.loops alive) := by
  rw [coherent_iff] at hcoherent ⊢
  constructor
  · intro h host target id hcache hid halive _
    exact h host target (cachedTarget_eq_some.mpr ⟨hcache, id, hid, halive⟩)
  · intro hkeeps host target hcached
    obtain ⟨hcache, id, hid, halive⟩ := cachedTarget_eq_some.mp hcached
    cases hbefore : state.procThreadMap id with
    | true => exact hcoherent host target (cachedTarget_eq_some.mpr ⟨hcache, id, hid, hbefore⟩)
    | false => exact hkeeps host target id hcache hid halive hbefore

theorem coherent_refreshContainers {containers : List (String × ContainerProxyTarget)}
    (hcoherent : state.Coherent mapping) :
    (state.cacheStep mapping (.refreshContainers containers)).Coherent mapping ↔
      state.Keeps mapping (.refreshContainers containers) := by
  rw [coherent_iff] at hcoherent ⊢
  constructor
  · intro h host hcached
    obtain ⟨target, htarget⟩ := Option.ne_none_iff_exists'.mp hcached
    exact (h host target htarget).1
  · intro hkeeps host target htarget
    refine ⟨hkeeps host ?_, (hcoherent host target htarget).2⟩
    intro hnone
    rw [GlobalState.cacheStep, GlobalState.cachedTarget] at htarget
    rw [GlobalState.cachedTarget, htarget] at hnone
    cases hnone

theorem cachedTarget_adopt (config : OddBoxV3Config) :
    (state.adopt config).cachedTarget host = state.cachedTarget host := by
  rw [GlobalState.adopt]
  split <;> rfl

theorem coherent_adopt {config : OddBoxV3Config} :
    (state.cacheStep mapping (.adopt config)).Coherent mapping ↔
      state.Keeps mapping (.adopt config) := by
  rw [coherent_iff, GlobalState.cacheStep]
  simp only [cachedTarget_adopt]
  rfl

theorem coherent_invalidateCache : state.invalidateCache.Coherent mapping := by
  intro host
  rfl

/-- An event keeps the cache coherent exactly under its condition. -/
theorem coherent_cacheStep (state : GlobalState) (event : CacheEvent)
    (hnames : (state.config.sites.map (·.hostName)).Nodup) (hcoherent : state.Coherent mapping) :
    (state.cacheStep mapping event).Coherent mapping ↔ state.Keeps mapping event := by
  cases event with
  | lookup host => exact coherent_lookup hcoherent
  | setActivePort call => exact coherent_setActivePort hnames hcoherent
  | loops alive => exact coherent_loops hcoherent
  | refreshContainers containers => exact coherent_refreshContainers hcoherent
  | adopt config => exact coherent_adopt
  | invalidateCache => exact iff_of_true coherent_invalidateCache trivial

/-- Host names stay distinct: calls do not change them, and of new configurations only
valid ones are adopted. -/
theorem names_cacheStep (state : GlobalState) (event : CacheEvent)
    (hnames : (state.config.sites.map (·.hostName)).Nodup) :
    ((state.cacheStep mapping event).config.sites.map (·.hostName)).Nodup := by
  cases event with
  | lookup host =>
    obtain ⟨cache, hstate, -⟩ := @tryFindSite_eq mapping state host
    rw [GlobalState.cacheStep, hstate]
    exact hnames
  | setActivePort call =>
    rw [GlobalState.cacheStep, GlobalState.setActivePort]
    rcases sites_call state.config call with hsame | ⟨before, process, after, port, hbefore, hafter⟩
    · rw [hsame]
      exact hnames
    · rw [hbefore] at hnames
      rw [hafter]
      rw [List.map_append, List.map_cons] at hnames ⊢
      exact hnames
  | loops alive => exact hnames
  | refreshContainers containers => exact hnames
  | adopt config =>
    rw [GlobalState.cacheStep, GlobalState.adopt]
    split
    · rename_i hvalid
      exact (isValid_iff.mp hvalid).2.2.2.1.of_append_right
    · exact hnames
  | invalidateCache => exact hnames

/-- **Cache coherence**: from the start with a valid configuration and an empty cache, the
resolver answers as with an empty cache in every state of a run exactly when no event of the
run touches a cached process: gives it another port, brings its loop back, hides it behind a
container or a failing comparison, or replaces the configuration it comes from. -/
theorem cache_coherence_iff (mapping : CaseMapping) (initial : GlobalState)
    (events : List CacheEvent) (hvalid : initial.config.isValid = .ok ())
    (hempty : initial.reverseTcpProxyTargetCache = fun _ => none) :
    (∀ first, first <+: events →
      (Machine.run (GlobalState.cacheStep mapping) initial first).Coherent mapping) ↔
    Machine.Meets (GlobalState.cacheStep mapping) (GlobalState.Keeps mapping) initial events := by
  apply Machine.meets_iff (J := fun state => (state.config.sites.map (·.hostName)).Nodup)
  · exact names_cacheStep
  · exact coherent_cacheStep
  · exact (isValid_iff.mp hvalid).2.2.2.1.of_append_right
  · intro host
    rw [tryFindSite_fresh]
    rw [GlobalState.cachedTarget, hempty]
    rfl

end

/-! ## A restarted process -/

/-- The loop of the first site is alive. -/
def firstAlive (id : ProcId) : Bool := id == ⟨"a"⟩

/-- The first site is started again while its old port is still in use. -/
def restartFirst : PortCall where
  proc := ⟨⟨"a"⟩, some 4200, "a", none, none⟩
  oracle := ⟨false, fun _ port => port != 4200, none, false⟩
  fuel := 2

/-- The first site as it is reached on a port. -/
def firstOn (port : UInt16) : SiteKind × String × List (String × UInt16) :=
  (.hostedProcess, "a", [("localhost", port)])

/-- With the cache cleared before the restart, the new port is found. -/
theorem cleared_coherent :
    (Machine.run (GlobalState.cacheStep asciiOnly) (freshState twoSites)
        [.loops firstAlive, .lookup "a", .invalidateCache, .setActivePort restartFirst,
          .lookup "a"]).Coherent asciiOnly ∧
      (((Machine.run (GlobalState.cacheStep asciiOnly) (freshState twoSites)
        [.loops firstAlive, .lookup "a", .invalidateCache,
          .setActivePort restartFirst]).tryFindSite asciiOnly "a").1.map
        ReverseTcpProxyTarget.view) = .yes (firstOn 4201) := by
  refine ⟨?_, by decide +kernel⟩
  apply (cache_coherence_iff asciiOnly (freshState twoSites) _ (by rfl) rfl).mpr _ _
    List.prefix_rfl
  refine ⟨?_, ?_, trivial, ?_, ?_, trivial⟩
  · intro host target id hcache
    cases hcache
  · intro _ _ process subDomain _ _
    exact Or.inl Silent.nil
  · intro before process after port _ _ _ host hcached
    exact absurd rfl hcached
  · intro _ _ process subDomain _ _
    exact Or.inl Silent.nil

/-- Otherwise the stream goes to the old port, which the process does not have any more. -/
theorem restarted_stale :
    (freshState twoSites).config.isValid = .ok () ∧
      (let state := Machine.run (GlobalState.cacheStep asciiOnly) (freshState twoSites)
        [.loops firstAlive, .lookup "a", .setActivePort restartFirst]
      (state.tryFindSite asciiOnly "a").1.map ReverseTcpProxyTarget.view =
          .yes (firstOn 4200) ∧
        (state.invalidateCache.tryFindSite asciiOnly "a").1.map ReverseTcpProxyTarget.view =
          .yes (firstOn 4201) ∧
        ¬state.Coherent asciiOnly) := by
  have hcached : ((Machine.run (GlobalState.cacheStep asciiOnly) (freshState twoSites)
      [.loops firstAlive, .lookup "a", .setActivePort restartFirst]).tryFindSite asciiOnly
        "a").1.map ReverseTcpProxyTarget.view = .yes (firstOn 4200) := by
    decide +kernel
  have hfresh : ((Machine.run (GlobalState.cacheStep asciiOnly) (freshState twoSites)
      [.loops firstAlive, .lookup "a", .setActivePort restartFirst]).invalidateCache.tryFindSite
        asciiOnly "a").1.map ReverseTcpProxyTarget.view = .yes (firstOn 4201) := by
    decide +kernel
  refine ⟨by rfl, hcached, hfresh, ?_⟩
  intro hcoherent
  have hsame := hcoherent "a"
  rw [hcached, hfresh] at hsame
  cases hsame

end OddBox.Routing

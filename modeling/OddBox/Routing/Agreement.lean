import OddBox.Routing.Resolution

/-!
When the three lookups agree on the site that serves a host name.
-/

namespace OddBox.Routing

open OddBox.FirstMatch OddBox.Str OddBox.Configuration

section Names

variable {config : OddBoxV3Config}

/-- In a valid configuration a host name belongs to one process. -/
theorem process_eq_of_hostName (hvalid : config.isValid = .ok ())
    {a b : InProcessSiteConfig} (ha : a ∈ config.sites) (hb : b ∈ config.sites)
    (h : a.hostName = b.hostName) : a = b := by
  have hnodup := (isValid_iff.mp hvalid).2.2.2.1
  exact List.inj_on_of_nodup_map (List.Nodup.of_append_right hnodup) ha hb h

theorem remote_eq_of_hostName (hvalid : config.isValid = .ok ())
    {a b : RemoteSiteConfig} (ha : a ∈ config.remoteTargets) (hb : b ∈ config.remoteTargets)
    (h : a.hostName = b.hostName) : a = b := by
  have hnodup := (isValid_iff.mp hvalid).2.2.2.1
  exact List.inj_on_of_nodup_map
    (List.Nodup.of_append_right (List.Nodup.of_append_left hnodup)) ha hb h

end Names

section Agreement

variable (state : GlobalState) (mapping : CaseMapping) (host : String) (req : Request)
  (isHttps : Bool)

/-- A site that the resolver returns is the one that both handlers select. -/
def GlobalState.Agrees : Prop :=
  ∀ target, (state.tryFindSite mapping host).1 = .yes target →
    (∃ site, state.handleHttpRequest req isHttps none = .site site ∧ site.Same target.site) ∧
    ∃ site, state.handleWs req = .site site ∧ site.Same target.site

/-- Whatever can answer the resolver is also what the handlers' narrower test
finds: the cached process is the first process of the requested name; else a
remote target that answers first has the requested name and no process has it;
else a running process that answers first is the first process, running or not,
of the requested name; and no container answers in place of these. Nor does the
HTTP handler take the request before it looks at the processes. -/
structure GlobalState.RoutesAlike : Prop where
  cached : ∀ target process, state.cachedTarget host = some target →
    target.site = .hostedProcess process →
    state.Undiverted req isHttps (stripPort host) ∧
      ∃ named, state.config.sites.find? (processNamed (stripPort host)) = some named ∧
        named.hostName = process.hostName
  remote : ∀ remote subDomain, state.cachedTarget host = none →
    Calm (containerAnswer mapping host) state.dockerContainers →
    Calm (processAnswer mapping host) state.config.sites →
    IsFirst (remoteAnswer mapping host) state.config.remoteTargets remote subDomain →
    state.Undiverted req isHttps (stripPort host) ∧
      remoteNamed (stripPort host) remote = true ∧
      ∀ process ∈ state.config.sites, processNamed (stripPort host) process = false
  process : ∀ process subDomain, state.cachedTarget host = none →
    Calm (containerAnswer mapping host) state.dockerContainers →
    IsFirst (processAnswer mapping host) state.config.sites process subDomain →
    Silent (remoteAnswer mapping host) state.config.remoteTargets →
    state.Undiverted req isHttps (stripPort host) ∧
      state.config.sites.find? (processNamed (stripPort host)) = some process
  container : ∀ container subDomain, state.cachedTarget host = none →
    Silent (processAnswer mapping host) state.config.sites →
    Silent (remoteAnswer mapping host) state.config.remoteTargets →
    ¬ IsFirst (containerAnswer mapping host) state.dockerContainers container subDomain

end Agreement

section Handlers

variable {state : GlobalState} {mapping : CaseMapping} {host : String} {req : Request}
  {isHttps : Bool} {requested : String}

/-- A cached target that is used is a process. -/
theorem cachedTarget_hosted {target : ReverseTcpProxyTarget}
    (h : state.cachedTarget host = some target) :
    ∃ process, target.site = .hostedProcess process := by
  obtain ⟨-, hlive⟩ := Option.filter_eq_some_iff.mp h
  cases hid : target.procId with
  | none =>
    rw [hid] at hlive
    cases hlive
  | some id => exact target.hosted id hid

/-- Both handlers select a process: it is the first that has the requested name. -/
theorem handlers_process_iff {process : InProcessSiteConfig}
    (hreq : req.hostName = some requested) :
    ((∃ site, state.handleHttpRequest req isHttps none = .site site ∧
        site.Same (.hostedProcess process)) ∧
      ∃ site, state.handleWs req = .site site ∧ site.Same (.hostedProcess process)) ↔
    state.Undiverted req isHttps requested ∧
      ∃ named, state.config.sites.find? (processNamed requested) = some named ∧
        named.hostName = process.hostName := by
  constructor
  · rintro ⟨⟨site, hhttp, hkind, hname⟩, -⟩
    rw [handleHttpRequest_eq_site hreq] at hhttp
    cases hhttp with
    | dirServer _ _ => cases hkind
    | docker _ _ _ => cases hkind
    | remoteTarget _ _ _ => cases hkind
    | hostedProcess hun hprocess => exact ⟨hun, _, hprocess, hname⟩
  · rintro ⟨hun, named, hnamed, hname⟩
    exact ⟨⟨_, (handleHttpRequest_eq_site hreq).mpr (.hostedProcess hun hnamed), rfl, hname⟩,
      _, (handleWs_eq_process hreq).mpr hnamed, rfl, hname⟩

/-- Both handlers select a remote target: no process has the requested name. -/
theorem handlers_remote_iff {remote : RemoteSiteConfig}
    (hreq : req.hostName = some requested) :
    ((∃ site, state.handleHttpRequest req isHttps none = .site site ∧
        site.Same (.remoteTarget remote)) ∧
      ∃ site, state.handleWs req = .site site ∧ site.Same (.remoteTarget remote)) ↔
    state.Undiverted req isHttps requested ∧
      state.config.sites.find? (processNamed requested) = none ∧
      ∃ named, state.config.remoteTargets.find? (remoteNamed requested) = some named ∧
        named.hostName = remote.hostName := by
  constructor
  · rintro ⟨⟨site, hhttp, hkind, hname⟩, -⟩
    rw [handleHttpRequest_eq_site hreq] at hhttp
    cases hhttp with
    | dirServer _ _ => cases hkind
    | docker _ _ _ => cases hkind
    | hostedProcess _ _ => cases hkind
    | remoteTarget hun hprocess hremote => exact ⟨hun, hprocess, _, hremote, hname⟩
  · rintro ⟨hun, hprocess, named, hnamed, hname⟩
    exact ⟨⟨_, (handleHttpRequest_eq_site hreq).mpr (.remoteTarget hun hprocess hnamed), rfl,
      hname⟩, _, (handleWs_eq_remote hreq).mpr ⟨hprocess, hnamed⟩, rfl, hname⟩

/-- The first process that answers is the first of the requested name, if their
host names are the same. -/
theorem first_process_iff (hvalid : state.config.isValid = .ok ())
    {process : InProcessSiteConfig} (hprocess : process ∈ state.config.sites) :
    (∃ named, state.config.sites.find? (processNamed requested) = some named ∧
      named.hostName = process.hostName) ↔
    state.config.sites.find? (processNamed requested) = some process := by
  constructor
  · rintro ⟨named, hnamed, hname⟩
    rw [hnamed, process_eq_of_hostName hvalid (List.mem_of_find?_eq_some hnamed) hprocess hname]
  · intro h
    exact ⟨process, h, rfl⟩

theorem first_remote_iff (hvalid : state.config.isValid = .ok ())
    {remote : RemoteSiteConfig} {subDomain : Option String}
    (hfirst : IsFirst (remoteAnswer mapping host) state.config.remoteTargets remote subDomain) :
    (∃ named, state.config.remoteTargets.find? (remoteNamed (stripPort host)) = some named ∧
      named.hostName = remote.hostName) ↔ remoteNamed (stripPort host) remote = true := by
  constructor
  · rintro ⟨named, hnamed, hname⟩
    rw [← remote_eq_of_hostName hvalid (List.mem_of_find?_eq_some hnamed) hfirst.mem hname]
    exact List.find?_some hnamed
  · intro h
    refine ⟨remote, hfirst.find? h ?_, rfl⟩
    intro other _ hother
    obtain ⟨subDomain, hanswer⟩ := remoteAnswer_of_named mapping hother
    rw [hanswer]
    intro hno
    cases hno

/-- **Routing agreement**: for every request to a host, the handlers select the
site that the resolver returns if and only if they are routed alike. -/
theorem routing_agreement (hvalid : state.config.isValid = .ok ())
    (hreq : req.hostName = some (stripPort host)) :
    state.Agrees mapping host req isHttps ↔ state.RoutesAlike mapping host req isHttps := by
  simp only [GlobalState.Agrees, tryFindSite_eq_yes]
  constructor
  · intro h
    refine ⟨?_, ?_, ?_, ?_⟩
    · intro target process hhit hsite
      have hagree := h target (.cached hhit)
      rw [hsite, handlers_process_iff hreq] at hagree
      exact hagree
    · intro remote subDomain hmiss hcontainers hprocesses hfirst
      have hagree := h _ (.remote hmiss hcontainers hprocesses hfirst)
      obtain ⟨hun, hprocess, hnamed⟩ := (handlers_remote_iff hreq).mp hagree
      refine ⟨hun, (first_remote_iff hvalid hfirst).mp hnamed, ?_⟩
      simpa only [List.find?_eq_none, Bool.not_eq_true] using hprocess
    · intro process subDomain hmiss hcontainers hfirst hremotes
      have hagree := h _ (.process hmiss hcontainers hfirst hremotes)
      obtain ⟨hun, hnamed⟩ := (handlers_process_iff hreq).mp hagree
      exact ⟨hun, (first_process_iff hvalid hfirst.mem).mp hnamed⟩
    · intro container subDomain hmiss hprocesses hremotes hfirst
      obtain ⟨-, site, hws, hkind, -⟩ := h _ (.container hmiss hfirst hprocesses hremotes)
      cases site with
      | docker hostName container => exact handleWs_ne_docker hws
      | dirServer _ => cases hkind
      | hostedProcess _ => cases hkind
      | remoteTarget _ => cases hkind
  · intro h target htarget
    cases htarget with
    | cached hhit =>
      obtain ⟨process, hsite⟩ := cachedTarget_hosted hhit
      rw [hsite, handlers_process_iff hreq]
      exact h.cached target process hhit hsite
    | remote hmiss hcontainers hprocesses hfirst =>
      obtain ⟨hun, hnamed, hprocess⟩ := h.remote _ _ hmiss hcontainers hprocesses hfirst
      apply (handlers_remote_iff hreq).mpr
      refine ⟨hun, ?_, (first_remote_iff hvalid hfirst).mpr hnamed⟩
      simpa only [List.find?_eq_none, Bool.not_eq_true] using hprocess
    | process hmiss hcontainers hfirst hremotes =>
      obtain ⟨hun, hnamed⟩ := h.process _ _ hmiss hcontainers hfirst hremotes
      apply (handlers_process_iff hreq).mpr
      exact ⟨hun, (first_process_iff hvalid hfirst.mem).mpr hnamed⟩
    | container hmiss hfirst hprocesses hremotes =>
      exact absurd hfirst (h.container _ _ hmiss hprocesses hremotes)

end Handlers

/-! ## A remote target alone -/

/-- Only the ASCII letters have upper case. -/
def asciiOnly : CaseMapping where
  upper c := [c.toUpper]
  ascii _ _ := rfl

/-- A remote target without settings of its own. -/
def plainRemote (hostName : String) (captureSubdomains : Option Bool) : RemoteSiteConfig where
  hostName := hostName
  backends := []
  captureSubdomains := captureSubdomains
  terminateTls := none
  terminateHttp := none
  forwardSubdomains := none
  enableLetsEncrypt := none
  keepOriginalHostHeader := none
  redirectToHttps := none

/-- A fresh state: no container, nothing cached and no process alive. -/
def freshState (config : OddBoxV3Config) : GlobalState where
  config := config
  dockerContainers := []
  reverseTcpProxyTargetCache := fun _ => none
  procThreadMap := fun _ => false
  resolvesDirectories := true

def getRequest (host : String) : Request where
  hostHeader := .text host
  authorityHost := none
  path := "/"

def withRemotes (remotes : List RemoteSiteConfig) : OddBoxV3Config :=
  { twoSites with
    hostedProcess := none
    remoteTarget := some remotes }

def remoteOnly : OddBoxV3Config := withRemotes [plainRemote "a.test" none]

/-- Asked in its own letters, the remote target is what all three lookups find. -/
theorem remoteOnly_agrees :
    ((freshState remoteOnly).tryFindSite asciiOnly "a.test:80").1 =
        .yes (remoteTarget (plainRemote "a.test" none) none) ∧
      (freshState remoteOnly).Agrees asciiOnly "a.test:80" (getRequest "a.test:80") true := by
  refine ⟨by decide +kernel, ?_⟩
  apply (routing_agreement (by rfl) (by decide +kernel)).mpr
  have hundiverted : (freshState remoteOnly).Undiverted (getRequest "a.test:80") true
      (stripPort "a.test:80") := by
    refine ⟨⟨by decide +kernel, Or.inl rfl⟩, ?_, ?_⟩
    · intro dir hdir
      cases hdir
    · intro container hcontainer
      cases hcontainer
  refine ⟨?_, ?_, ?_, ?_⟩
  · intro target process hhit
    cases hhit
  · intro remote subDomain _ _ _ hfirst
    obtain rfl : remote = plainRemote "a.test" none := List.mem_singleton.mp hfirst.mem
    refine ⟨hundiverted, by decide +kernel, ?_⟩
    intro process hprocess
    cases hprocess
  · intro process subDomain _ _ hfirst
    cases hfirst.mem
  · intro container subDomain _ _ _ hfirst
    cases hfirst.mem

/-- Asked in other letters, only the resolver finds it. -/
theorem otherLetters_disagree :
    remoteOnly.isValid = .ok () ∧
      ((freshState remoteOnly).tryFindSite asciiOnly "A.test").1 =
        .yes (remoteTarget (plainRemote "a.test" none) none) ∧
      (freshState remoteOnly).handleHttpRequest (getRequest "A.test") true none = .unknown ∧
      (freshState remoteOnly).handleWs (getRequest "A.test") = .error ∧
      ¬ (freshState remoteOnly).Agrees asciiOnly "A.test" (getRequest "A.test") true := by
  have hresolver : ((freshState remoteOnly).tryFindSite asciiOnly "A.test").1 =
      .yes (remoteTarget (plainRemote "a.test" none) none) := by decide +kernel
  have hws : (freshState remoteOnly).handleWs (getRequest "A.test") = .error := by
    decide +kernel
  refine ⟨by rfl, hresolver, by decide +kernel, hws, ?_⟩
  intro hagrees
  obtain ⟨-, site, hsite, -⟩ := hagrees _ hresolver
  rw [hws] at hsite
  cases hsite

end OddBox.Routing

import OddBox.Routing.Lookups

/-!
What each lookup chooses, said once: the resolver's result by the place it comes
from, and the choices of the two handlers by the sites that the requested name
hits.
-/

namespace OddBox.Routing

open OddBox.FirstMatch OddBox.Str OddBox.Configuration

/-! ## The resolver -/

/-- Where a result of the resolver comes from. Remote targets come before
processes and processes before containers, but all containers and processes up
to the first that answers are asked first. -/
inductive GlobalState.Resolves (state : GlobalState) (mapping : CaseMapping) (host : String) :
    ReverseTcpProxyTarget → Prop where
  | cached {target : ReverseTcpProxyTarget} (hhit : state.cachedTarget host = some target) :
      Resolves state mapping host target
  | remote {remote : RemoteSiteConfig} {subDomain : Option String}
      (hmiss : state.cachedTarget host = none)
      (hcontainers : Calm (containerAnswer mapping host) state.dockerContainers)
      (hprocesses : Calm (processAnswer mapping host) state.config.sites)
      (hfirst : IsFirst (remoteAnswer mapping host) state.config.remoteTargets remote subDomain) :
      Resolves state mapping host (remoteTarget remote subDomain)
  | process {process : InProcessSiteConfig} {subDomain : Option String}
      (hmiss : state.cachedTarget host = none)
      (hcontainers : Calm (containerAnswer mapping host) state.dockerContainers)
      (hfirst : IsFirst (processAnswer mapping host) state.config.sites process subDomain)
      (hremotes : Silent (remoteAnswer mapping host) state.config.remoteTargets) :
      Resolves state mapping host (processTarget state.localAddr process subDomain)
  | container {container : String × ContainerProxyTarget} {subDomain : Option String}
      (hmiss : state.cachedTarget host = none)
      (hfirst : IsFirst (containerAnswer mapping host) state.dockerContainers container subDomain)
      (hprocesses : Silent (processAnswer mapping host) state.config.sites)
      (hremotes : Silent (remoteAnswer mapping host) state.config.remoteTargets) :
      Resolves state mapping host (containerTarget container.1 container.2 subDomain)

section Resolver

variable {mapping : CaseMapping} {host : String} {state : GlobalState}

theorem remember_find (found : Answer ReverseTcpProxyTarget) :
    (state.remember host found).findProcess mapping host = state.findProcess mapping host ∧
      (state.remember host found).findRemote mapping host = state.findRemote mapping host := by
  cases found <;> exact ⟨rfl, rfl⟩

/-- Without a cached target the result is the last of what the loops find. -/
theorem tryFindSite_miss (hmiss : state.cachedTarget host = none) :
    (state.tryFindSite mapping host).1 =
      if state.findContainer mapping host = .failed then .failed
      else if state.findProcess mapping host = .failed then .failed
      else ((state.findContainer mapping host).replacedBy
        (state.findProcess mapping host)).replacedBy (state.findRemote mapping host) := by
  simp only [GlobalState.tryFindSite, hmiss, (remember_find _).1, (remember_find _).2]
  split
  · rfl
  · split
    · rfl
    · split
      · rename_i hremote
        rw [hremote]
        rfl
      · rfl

theorem findContainer_calm :
    state.findContainer mapping host ≠ .failed ↔
      Calm (containerAnswer mapping host) state.dockerContainers := by
  rw [calm_iff, ne_eq, GlobalState.findContainer, map_eq_failed]

theorem findProcess_calm :
    state.findProcess mapping host ≠ .failed ↔
      Calm (processAnswer mapping host) state.config.sites := by
  rw [calm_iff, ne_eq, GlobalState.findProcess, map_eq_failed]

theorem findProcess_silent :
    state.findProcess mapping host = .no ↔
      Silent (processAnswer mapping host) state.config.sites := by
  rw [GlobalState.findProcess, map_eq_no, firstMatch_eq_no]

theorem findRemote_silent :
    state.findRemote mapping host = .no ↔
      Silent (remoteAnswer mapping host) state.config.remoteTargets := by
  rw [GlobalState.findRemote, map_eq_no, firstMatch_eq_no]

/-- The resolver returns a target exactly where the target has a source. -/
theorem tryFindSite_eq_yes {target : ReverseTcpProxyTarget} :
    (state.tryFindSite mapping host).1 = .yes target ↔ state.Resolves mapping host target := by
  constructor
  · intro h
    cases hcached : state.cachedTarget host with
    | some cached =>
      simp only [GlobalState.tryFindSite, hcached, Answer.yes.injEq] at h
      rw [← h]
      exact .cached hcached
    | none =>
      rw [tryFindSite_miss hcached] at h
      split at h
      · cases h
      · rename_i hcontainer
        split at h
        · cases h
        · rename_i hprocess
          cases hremote : state.findRemote mapping host with
          | failed =>
            rw [hremote] at h
            cases h
          | yes found =>
            rw [hremote] at h
            cases h
            obtain ⟨remote, subDomain, hfirst, rfl⟩ := firstMatch_map_eq_yes.mp hremote
            exact .remote hcached (findContainer_calm.mp hcontainer)
              (findProcess_calm.mp hprocess) hfirst
          | no =>
            have hsilent := findRemote_silent.mp hremote
            rw [hremote] at h
            cases hfound : state.findProcess mapping host with
            | failed => exact absurd hfound hprocess
            | yes found =>
              rw [hfound] at h
              cases h
              obtain ⟨process, subDomain, hfirst, rfl⟩ := firstMatch_map_eq_yes.mp hfound
              exact .process hcached (findContainer_calm.mp hcontainer) hfirst hsilent
            | no =>
              rw [hfound] at h
              obtain ⟨container, subDomain, hfirst, rfl⟩ := firstMatch_map_eq_yes.mp h
              exact .container hcached hfirst (findProcess_silent.mp hfound) hsilent
  · intro h
    cases h with
    | cached hhit => simp only [GlobalState.tryFindSite, hhit]
    | remote hmiss hcontainers hprocesses hfirst =>
      rw [tryFindSite_miss hmiss, if_neg (findContainer_calm.mpr hcontainers),
        if_neg (findProcess_calm.mpr hprocesses), GlobalState.findRemote,
        firstMatch_eq_yes.mpr hfirst]
      rfl
    | process hmiss hcontainers hfirst hremotes =>
      rw [tryFindSite_miss hmiss, if_neg (findContainer_calm.mpr hcontainers),
        if_neg (findProcess_calm.mpr (Or.inr ⟨_, _, hfirst⟩)), findRemote_silent.mpr hremotes,
        GlobalState.findProcess, firstMatch_eq_yes.mpr hfirst]
      rfl
    | container hmiss hfirst hprocesses hremotes =>
      rw [tryFindSite_miss hmiss, if_neg (findContainer_calm.mpr (Or.inr ⟨_, _, hfirst⟩)),
        if_neg (findProcess_calm.mpr (Or.inl hprocesses)), findRemote_silent.mpr hremotes,
        findProcess_silent.mpr hprocesses, GlobalState.findContainer,
        firstMatch_eq_yes.mpr hfirst]
      rfl

theorem mentions_of_suffix {hostName : String}
    (h : mapping.toUppercase hostName <:+ mapping.toUppercase (stripPort host)) :
    mentions mapping host hostName = true := by
  obtain ⟨front, hfront⟩ := h
  rw [CaseMapping.toUppercase, CaseMapping.toUppercase, stripPort, String.toList_ofList] at hfront
  rw [mentions, decide_eq_true_eq]
  refine ⟨front, (host.toList.dropWhile (· ≠ ':')).flatMap mapping.upper, ?_⟩
  rw [CaseMapping.toUppercase, CaseMapping.toUppercase, hfront, ← List.flatMap_append,
    List.takeWhile_append_dropWhile]

variable (mapping) in
theorem remoteAnswer_of_named {remote : RemoteSiteConfig}
    (hnamed : remoteNamed (stripPort host) remote = true) :
    ∃ subDomain, remoteAnswer mapping host remote = .yes subDomain := by
  have hsuffix : remote.hostName.toList <:+ (stripPort host).toList := by
    simp only [remoteNamed, namesSite, Bool.or_eq_true, beq_iff_eq, Bool.and_eq_true,
      List.isSuffixOf_iff_suffix] at hnamed
    rcases hnamed with h | ⟨-, h⟩
    · rw [h]
    · exact (List.suffix_cons _ _).trans h
  rw [remoteAnswer, if_pos (mentions_of_suffix (toUppercase_suffix hsuffix))]
  exact filterFun_of_namesSite mapping hnamed

end Resolver

/-! ## The HTTP handler -/

/-- The request is neither a local command nor one for the user interface. -/
structure GlobalState.Unintercepted (state : GlobalState) (req : Request) (isHttps : Bool)
    (requested : String) : Prop where
  command : interceptLocalCommands requested req.path = false
  ui : isHttps = true ∨ isUi state.config requested = false

/-- Nothing that the handler looks at before the processes takes the request. -/
structure GlobalState.Undiverted (state : GlobalState) (req : Request) (isHttps : Bool)
    (requested : String) : Prop extends state.Unintercepted req isHttps requested where
  dir : ∀ dir ∈ state.config.dirServers, dir.hostName = requested →
    state.resolvesDirectories = false
  container : ∀ container ∈ state.dockerContainers, container.1 ≠ requested

/-- What the handler chooses without a peeked target. -/
inductive GlobalState.Handles (state : GlobalState) (req : Request) (isHttps : Bool)
    (requested : String) : Site → Prop where
  | dirServer {dir : DirServer} (hun : state.Unintercepted req isHttps requested)
      (hdir : state.dirTarget requested = some dir) :
      Handles state req isHttps requested (.dirServer dir)
  | docker {container : ContainerProxyTarget} (hun : state.Unintercepted req isHttps requested)
      (hdir : state.dirTarget requested = none)
      (hcontainer : state.containerNamed requested = some container) :
      Handles state req isHttps requested (.docker requested container.generateRemoteConfig)
  | hostedProcess {process : InProcessSiteConfig}
      (hun : state.Undiverted req isHttps requested)
      (hprocess : state.config.sites.find? (processNamed requested) = some process) :
      Handles state req isHttps requested (.hostedProcess process)
  | remoteTarget {remote : RemoteSiteConfig} (hun : state.Undiverted req isHttps requested)
      (hprocess : state.config.sites.find? (processNamed requested) = none)
      (hremote : state.config.remoteTargets.find? (remoteNamed requested) = some remote) :
      Handles state req isHttps requested (.remoteTarget remote)

section Handlers

variable {state : GlobalState} {req : Request} {isHttps : Bool} {requested : String}

theorem dirTarget_eq_none :
    state.dirTarget requested = none ↔
      ∀ dir ∈ state.config.dirServers, dir.hostName = requested →
        state.resolvesDirectories = false := by
  simp only [GlobalState.dirTarget, List.find?_eq_none, Bool.and_eq_true, beq_iff_eq, not_and,
    Bool.not_eq_true]

theorem containerNamed_eq_none :
    state.containerNamed requested = none ↔
      ∀ container ∈ state.dockerContainers, container.1 ≠ requested := by
  rw [GlobalState.containerNamed, List.lookup_eq_none_iff]
  apply forall₂_congr
  intro container _
  rw [bne_iff_ne, ne_comm]

/-- The handler without a peeked target. -/
theorem handleHttpRequest_unpeeked (hreq : req.hostName = some requested) :
    state.handleHttpRequest req isHttps none =
      if !isHttps && interceptLocalCommands requested req.path then .localCommand
      else if !isHttps && isUi state.config requested then
        .redirectToUi (uiLocation state.config requested)
      else if interceptLocalCommands requested req.path then .localCommand
      else match state.dirTarget requested with
        | some dir => .site (.dirServer dir)
        | none => match state.containerNamed requested with
          | some container => .site (.docker requested container.generateRemoteConfig)
          | none => match state.config.sites.find? (processNamed requested) with
            | some process => .site (.hostedProcess process)
            | none => match state.config.remoteTargets.find? (remoteNamed requested) with
              | some remote => .site (.remoteTarget remote)
              | none => .unknown := by
  simp only [GlobalState.handleHttpRequest, hreq]
  rfl

/-- The handler with a peeked target. -/
theorem handleHttpRequest_some {target : ReverseTcpProxyTarget} :
    state.handleHttpRequest req isHttps (some target) =
      if interceptLocalCommands target.hostName req.path then .localCommand
      else match peekedProcess (some target) <|>
          state.config.sites.find? (processNamed target.hostName) with
        | some process => .site (.hostedProcess process)
        | none => match peekedRemote (some target) with
          | some remote => .site remote
          | none => match state.config.remoteTargets.find? (remoteNamed target.hostName) with
            | some remote => .site (.remoteTarget remote)
            | none => .unknown := rfl

/-- The handler's choice, branch by branch. -/
theorem handleHttpRequest_eq_site {site : Site} (hreq : req.hostName = some requested) :
    state.handleHttpRequest req isHttps none = .site site ↔
      state.Handles req isHttps requested site := by
  rw [handleHttpRequest_unpeeked hreq]
  constructor
  · intro h
    split at h
    · cases h
    · split at h
      · cases h
      · split at h
        · cases h
        · rename_i hui hcommand
          have hun : state.Unintercepted req isHttps requested := by
            refine ⟨by simpa only [Bool.not_eq_true] using hcommand, ?_⟩
            cases isHttps with
            | true => exact Or.inl rfl
            | false => exact Or.inr (by simpa using hui)
          cases hdir : state.dirTarget requested with
          | some dir =>
            simp only [hdir, Selection.site.injEq] at h
            rw [← h]
            exact .dirServer hun hdir
          | none =>
            cases hcontainer : state.containerNamed requested with
            | some container =>
              simp only [hdir, hcontainer, Selection.site.injEq] at h
              rw [← h]
              exact .docker hun hdir hcontainer
            | none =>
              have hundiverted : state.Undiverted req isHttps requested :=
                { hun with
                  dir := dirTarget_eq_none.mp hdir
                  container := containerNamed_eq_none.mp hcontainer }
              simp only [hdir, hcontainer] at h
              split at h
              · rename_i process hprocess
                cases h
                exact .hostedProcess hundiverted hprocess
              · rename_i hprocess
                split at h
                · rename_i remote hremote
                  cases h
                  exact .remoteTarget hundiverted hprocess hremote
                · cases h
  · intro h
    have hskip : ∀ hun : state.Unintercepted req isHttps requested,
        (!isHttps && isUi state.config requested) = false := by
      intro hun
      rcases hun.ui with hhttps | hui
      · rw [hhttps, Bool.not_true, Bool.false_and]
      · rw [hui, Bool.and_false]
    cases h with
    | dirServer hun hdir =>
      simp only [hskip hun, hun.command, hdir, Bool.and_false, Bool.false_eq_true,
        if_false]
    | docker hun hdir hcontainer =>
      simp only [hskip hun, hun.command, hdir, hcontainer, Bool.and_false,
        Bool.false_eq_true, if_false]
    | hostedProcess hun hprocess =>
      simp only [hskip hun.toUnintercepted, hun.command, dirTarget_eq_none.mpr hun.dir,
        containerNamed_eq_none.mpr hun.container, hprocess, Bool.and_false,
        Bool.false_eq_true, if_false]
    | remoteTarget hun hprocess hremote =>
      simp only [hskip hun.toUnintercepted, hun.command, dirTarget_eq_none.mpr hun.dir,
        containerNamed_eq_none.mpr hun.container, hprocess, hremote, Bool.and_false,
        Bool.false_eq_true, if_false]

theorem handleWs_eq_process {process : InProcessSiteConfig}
    (hreq : req.hostName = some requested) :
    state.handleWs req = .site (.hostedProcess process) ↔
      state.config.sites.find? (processNamed requested) = some process := by
  simp only [GlobalState.handleWs, hreq]
  constructor
  · intro h
    split at h
    · rename_i found hfound
      cases h
      exact hfound
    · split at h
      · cases h
      · cases h
  · intro h
    simp only [h]

theorem handleWs_eq_remote {remote : RemoteSiteConfig}
    (hreq : req.hostName = some requested) :
    state.handleWs req = .site (.remoteTarget remote) ↔
      state.config.sites.find? (processNamed requested) = none ∧
        state.config.remoteTargets.find? (remoteNamed requested) = some remote := by
  simp only [GlobalState.handleWs, hreq]
  constructor
  · intro h
    split at h
    · cases h
    · rename_i hprocess
      split at h
      · rename_i found hfound
        cases h
        exact ⟨hprocess, hfound⟩
      · cases h
  · rintro ⟨hprocess, hremote⟩
    simp only [hprocess, hremote]

/-- A websocket never goes to a container. -/
theorem handleWs_ne_docker {hostName : String} {container : RemoteSiteConfig} :
    state.handleWs req ≠ .site (.docker hostName container) := by
  intro h
  unfold GlobalState.handleWs at h
  split at h
  · cases h
  · split at h
    · cases h
    · split at h
      · cases h
      · cases h

end Handlers

end OddBox.Routing

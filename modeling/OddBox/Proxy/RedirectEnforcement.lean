import OddBox.Proxy.BackendAgreement

/-!
Sites that are for TLS only: what a connection without TLS has sent to their backends, and what
it is answered with, over the tunnel and over the terminating service.
-/

namespace OddBox.Proxy

open OddBox.Api OddBox.Configuration OddBox.Routing OddBox.Str OddBox.TcpProxy
open OddBox.FirstMatch (Answer firstMatch_map_eq_yes)
open OddBox.H2 (HpackDecoder)

/-! ## The policy -/

section

variable (peeked : PeekOutcome) (handling : Handling) (door : Door) (network : Network)
  (counts : AccessCounts) (app : AppState) (req : IncomingRequest)

end

/-! ## The tunnel -/

/-- A target says that it is hosted exactly where its site is a process. -/
def Flagged (target : ReverseTcpProxyTarget) : Prop :=
  target.isHosted = true ↔ target.site.kind = .hostedProcess

def CacheFlagged (state : GlobalState) : Prop :=
  ∀ host target, state.reverseTcpProxyTargetCache host = some target → Flagged target

section

variable {mapping : CaseMapping} {state : GlobalState} {host : String}
  {target : ReverseTcpProxyTarget}

theorem containerTarget_flagged (hostName : String) (container : ContainerProxyTarget)
    (subDomain : Option String) : Flagged (containerTarget hostName container subDomain) := by
  constructor
  · rintro ⟨⟩
  · rintro ⟨⟩

theorem processTarget_flagged (localAddr : String) (process : InProcessSiteConfig)
    (subDomain : Option String) : Flagged (processTarget localAddr process subDomain) := by
  constructor
  · intro _
    rfl
  · intro _
    rfl

theorem remoteTarget_flagged (remote : RemoteSiteConfig) (subDomain : Option String) :
    Flagged (remoteTarget remote subDomain) := by
  constructor
  · rintro ⟨⟩
  · rintro ⟨⟩

theorem CacheFlagged.remember {found : Answer ReverseTcpProxyTarget}
    (hcache : CacheFlagged state) (host : String)
    (hfound : ∀ target, found = .yes target → Flagged target) :
    CacheFlagged (state.remember host found) := by
  cases found with
  | no => exact hcache
  | failed => exact hcache
  | yes kept =>
    intro other target hother
    unfold GlobalState.remember at hother
    dsimp only at hother
    by_cases hsame : other = host
    · subst hsame
      rw [Function.update_self] at hother
      cases hother
      exact hfound kept rfl
    · rw [Function.update_of_ne hsame] at hother
      exact hcache other target hother

theorem CacheFlagged.lookup (hcache : CacheFlagged state) :
    CacheFlagged (state.tryFindSite mapping host).2 := by
  cases hcached : state.cachedTarget host with
  | some target =>
    unfold GlobalState.tryFindSite
    rw [hcached]
    exact hcache
  | none =>
    have hcontainer : CacheFlagged
        (state.remember host (state.findContainer mapping host)) := by
      apply hcache.remember
      intro target hfound
      obtain ⟨_, _, _, rfl⟩ := firstMatch_map_eq_yes.mp hfound
      exact containerTarget_flagged _ _ _
    rw [tryFindSite_after hcached]
    split_ifs
    · exact hcache
    · exact hcontainer
    · apply CacheFlagged.remember
      · apply hcontainer.remember
        intro target hfound
        obtain ⟨_, _, _, rfl⟩ := firstMatch_map_eq_yes.mp hfound
        exact processTarget_flagged _ _ _
      · intro target hfound
        obtain ⟨_, _, _, rfl⟩ := firstMatch_map_eq_yes.mp hfound
        exact remoteTarget_flagged _ _

/-- No event brings another kind of target into the cache. -/
theorem CacheFlagged.step (hcache : CacheFlagged state) (event : CacheEvent) :
    CacheFlagged (state.cacheStep mapping event) := by
  cases event with
  | lookup host => exact hcache.lookup
  | setActivePort call => exact hcache
  | loops alive => exact hcache
  | refreshContainers containers => exact hcache
  | adopt config =>
    rw [GlobalState.cacheStep, GlobalState.adopt]
    split <;> exact hcache
  | invalidateCache =>
    rintro host target ⟨⟩

/-- Whatever is found for a host, the target says what it is. -/
theorem Flagged.of_resolves (hcache : CacheFlagged state)
    (h : state.Resolves mapping host target) : Flagged target := by
  cases h with
  | cached hhit => exact hcache host target (cachedTarget_eq_some.mp hhit).1
  | remote _ _ _ _ => exact remoteTarget_flagged _ _
  | process _ _ _ _ => exact processTarget_flagged _ _ _
  | container _ _ _ _ => exact containerTarget_flagged _ _ _

theorem Flagged.isHosted_eq_false (hflagged : Flagged target)
    (hkind : target.site.kind ≠ .hostedProcess) : target.isHosted = false := by
  rw [Bool.eq_false_iff]
  intro hhosted
  exact hkind (hflagged.mp hhosted)

/-- Every target that the cache holds in a run was put there by it. -/
theorem cacheFlagged_run (hempty : state.reverseTcpProxyTargetCache = fun _ => none)
    (events : List CacheEvent) :
    CacheFlagged (Machine.run (GlobalState.cacheStep mapping) state events) := by
  apply Machine.run_invariant
  · intro state event hcache
    exact hcache.step event
  · intro host target hcached
    rw [hempty] at hcached
    contradiction

/-- A target that is tunnelled to was found. -/
theorem tunnel_resolves {siteStatusMap : String → Option ProcState} {api : Bool}
    {peeked : PeekOutcome} {incoming : Incoming}
    (h : (handleNewTcpStream mapping siteStatusMap api state peeked).1 =
      .tunnel target incoming) : ∃ host, state.Resolves mapping host target := by
  have hhanded : HandedOn mapping state peeked
      (handleNewTcpStream mapping siteStatusMap api state peeked) :=
    handleNewTcpStream_handedOn api peeked
  obtain ⟨_, host, _, _, hresolves⟩ := hhanded.target _ (congrArg Handling.target h)
  exact ⟨host, hresolves⟩

theorem tunnel_admitted {siteStatusMap : String → Option ProcState} {api : Bool}
    {peeked : PeekOutcome} {incoming : Incoming}
    (h : (handleNewTcpStream mapping siteStatusMap api state peeked).1 =
      .tunnel target incoming) :
    ∃ result, peeked = .ok result ∧ admission target result = none := by
  unfold handleNewTcpStream at h
  split at h
  · next result =>
    refine ⟨result, rfl, ?_⟩
    split_ifs at h
    split at h
    · contradiction
    · unfold handleHost at h
      split at h
      · next found _ _ =>
        split at h
        · contradiction
        · next hadmission =>
          cases h
          exact hadmission
      · contradiction
      · contradiction
  · contradiction
  · contradiction
  · contradiction
  · contradiction
  · contradiction

end

/-! ## The terminating service -/

section

variable {service : ReverseProxyService} {network : Network} {counts : AccessCounts}
  {app : AppState} {req : IncomingRequest}

end

/-! ## The policy on every path -/

section

variable {Tcp Tls : InnerStream} {hpack : HpackDecoder}

end

/-! ## A websocket without TLS -/

end OddBox.Proxy

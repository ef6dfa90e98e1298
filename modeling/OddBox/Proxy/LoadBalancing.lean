import OddBox.RoundRobin
import OddBox.Proxy.BackendAgreement

/-!
How often the backends of a remote site are selected: the counter that `next_backend` reads is
moved elsewhere, by the tunnel after the selection and by the terminating service before it.
-/

namespace OddBox.Proxy

open OddBox.Api OddBox.Configuration OddBox.Routing OddBox.Str OddBox.TcpProxy
open OddBox.RoundRobin

/-! ## Selections -/

section

variable (site : RemoteSiteConfig) (filter : BackendFilter)

def acceptedBackends : List Backend :=
  site.backends.filter fun backend => filterBackend backend filter

/-- The place of the selected backend among those that are accepted. -/
def chosenIndex (counts : AccessCounts) : Nat :=
  (counts site.hostName).getD 0 % (acceptedBackends site filter).length

theorem nextBackend_eq (counts : AccessCounts) :
    site.nextBackend counts filter =
      (acceptedBackends site filter)[chosenIndex site filter counts]? := by
  unfold RemoteSiteConfig.nextBackend selectBackend chosenIndex acceptedBackends
  split
  · next hnone =>
    rw [hnone]
    rfl
  · next backend hone =>
    rw [hone, List.length_singleton, Nat.mod_one]
    rfl
  · rfl

/-! ## Visits -/

/-- A connection or a request, with what decides what becomes of it. -/
inductive Visit where
  /-- A connection that is tunnelled; `connects` says which addresses accept a connection. -/
  | tunnelled (target : ReverseTcpProxyTarget) (connects : String → Bool)
  | terminated (service : ReverseProxyService) (app : AppState) (req : IncomingRequest)
  | websocket (app : AppState) (req : IncomingRequest)

/-- The counters, with the selections so far. -/
structure Balance where
  counts : AccessCounts
  chosen : List Nat

/-- The backend that is selected is the one of the given counters. -/
def Balance.select (self : Balance) (counts : AccessCounts) : Balance :=
  { self with chosen := self.chosen ++ [chosenIndex site filter counts] }

/-- Whether the backend whose turn it is accepts a connection. -/
def accepts (counts : AccessCounts) (connects : String → Bool) : Bool :=
  (site.nextBackend counts filter).any fun backend =>
    connects (backend.address ++ ":" ++ portText backend.port)

/-- The tunnel counts a connection that has been accepted, the terminating service every request
that is not for odd-box itself, and `handle_ws` nothing. -/
def visit (self : Balance) : Visit → Balance
  | .tunnelled target connects =>
    if accepts site filter self.counts connects then
      { self.select site filter self.counts with
        counts := increment self.counts target.hostName }
    else self.select site filter self.counts
  | .terminated service _ req =>
    let counts := service.counted self.counts req
    if service.redirectsToHttps (.remoteTarget site) then { self with counts := counts }
    else { self.select site filter counts with counts := counts }
  | .websocket _ _ => self.select site filter self.counts

/-- The visit is for the site, and is one for which the filter is used. -/
def ForSite : Visit → Prop
  | .tunnelled target _ => target.site = .remoteTarget site ∧ target.hostName = site.hostName
  | .terminated service app req => filter = .any ∧
      (service.view app).handleHttpRequest req.toRequest service.isHttps service.resolvedTarget =
        .site (.remoteTarget site)
  | .websocket app req => filter = .any ∧
      app.global.handleWs req.toRequest = .site (.remoteTarget site)

inductive Route where
  | tunnel
  | termination
  deriving DecidableEq, Repr

/-- A visit of the one route that selects and counts, under the name of the site. -/
def OnRoute (counts : AccessCounts) : Route → Visit → Prop
  | .tunnel, .tunnelled _ connects => accepts site filter counts connects = true
  | .termination, .terminated service _ req =>
      service.redirectsToHttps (.remoteTarget site) = false ∧
        service.resolvedHostName req.toHttpRequest = some site.hostName
  | _, _ => False

/-- The visit keeps to the route, and the counter does not come to its end, unless it begins
again with the first backend there. -/
structure KeepsTurn (route : Route) (before : Balance) (next : Visit) : Prop where
  onRoute : OnRoute site filter before.counts route next
  counter : (before.counts site.hostName).getD 0 + 1 < 2 ^ 64 ∨
    (acceptedBackends site filter).length ∣ 2 ^ 64

end

/-! ## The selections are those of the code -/

section

variable {site : RemoteSiteConfig} {filter : BackendFilter} {counts : AccessCounts}
  {service : ReverseProxyService} {app : AppState} {req : IncomingRequest}

/-- The backend of a request that goes out is the one of the counters after the request. -/
theorem forwardHttp_selected {network : Network} {outgoing : Outgoing}
    (hforward : service.forwardHttp network counts app req = some outgoing)
    (hsite : outgoing.site = .remoteTarget site) :
    (acceptedBackends site .any)[chosenIndex site .any (service.counted counts req)]? =
      some outgoing.backend := by
  obtain ⟨_, -, -, hsent⟩ := forwardHttp_remote hforward
    (show outgoing.remote = some site by rw [Outgoing.remote, hsite])
  rw [← nextBackend_eq]
  exact (performRemoteForwarding_eq hsent).1

theorem wsTarget_selected {address : String} {port : UInt16} {enforceHttps : Bool}
    (h : wsTarget counts (.remoteTarget site) = some (address, port, enforceHttps)) :
    ∃ backend, (acceptedBackends site .any)[chosenIndex site .any counts]? = some backend ∧
      address = backend.address ∧ port = backend.port := by
  obtain ⟨backend, hbackend, hsame⟩ := Option.map_eq_some_iff.mp h
  cases hsame
  rw [← nextBackend_eq]
  exact ⟨backend, hbackend, rfl, rfl⟩

theorem tunnel_selected {target : ReverseTcpProxyTarget} {localAddr : String}
    (hsite : target.site = .remoteTarget site) :
    TcpProxy.nextBackend target localAddr counts filter =
      (acceptedBackends site filter)[chosenIndex site filter counts]? := by
  unfold TcpProxy.nextBackend
  rw [hsite]
  exact nextBackend_eq site filter counts

/-! ## Counting -/

theorem increment_self (name : String) :
    (increment counts name name).getD 0 = ((counts name).getD 0 + 1) % 2 ^ 64 := by
  unfold increment
  rw [Function.update_self]
  rfl

/-- What is selected for is not a request for odd-box itself. -/
theorem not_own {name : String} {found : Site}
    (hname : service.resolvedHostName req.toHttpRequest = some name)
    (hselect : (service.view app).handleHttpRequest req.toRequest service.isHttps
      service.resolvedTarget = .site found) : service.isOwn req name = false := by
  unfold ReverseProxyService.resolvedHostName at hname
  unfold GlobalState.handleHttpRequest at hselect
  rw [hname] at hselect
  dsimp only at hselect
  rw [Bool.eq_false_iff]
  intro hown
  unfold ReverseProxyService.isOwn at hown
  rw [Bool.and_or_distrib_left, Bool.or_eq_true] at hown
  rcases hown with hlocal | hui
  · rw [if_pos hlocal] at hselect
    contradiction
  · split at hselect
    · contradiction
    · have huiView : (service.resolvedTarget.isNone && !service.isHttps &&
          isUi (service.view app).config name) = true := hui
      rw [if_pos huiView] at hselect
      contradiction

/-- Such a request is counted under the name that it is resolved by. -/
theorem counted_self {name : String} {found : Site}
    (hname : service.resolvedHostName req.toHttpRequest = some name)
    (hselect : (service.view app).handleHttpRequest req.toRequest service.isHttps
      service.resolvedTarget = .site found) :
    (service.counted counts req name).getD 0 = ((counts name).getD 0 + 1) % 2 ^ 64 := by
  unfold ReverseProxyService.counted
  rw [hname]
  dsimp only
  rw [not_own hname hselect, if_neg Bool.false_ne_true]
  exact increment_self name

/-! ## Fairness -/

/-- How far the counter is behind the selection of the next visit. -/
def Route.ahead : Route → Nat
  | .tunnel => 0
  | .termination => 1

/-- The next visit on the route gets the backend that is next. -/
def InTurn (site : RemoteSiteConfig) (filter : BackendFilter) (route : Route) (start : Nat)
    (self : Balance) : Prop :=
  Aligned (acceptedBackends site filter).length start
    ((self.counts site.hostName).getD 0 + route.ahead) self.chosen

/-- The counter goes on by one also where it is modulo a power of two. -/
theorem next_mod {counter n : Nat} (h : counter + 1 < 2 ^ 64 ∨ n ∣ 2 ^ 64) :
    (counter + 1) % 2 ^ 64 % n = (counter + 1) % n := by
  rcases h with hsmall | hdivides
  · rw [Nat.mod_eq_of_lt hsmall]
  · exact Nat.mod_mod_of_dvd _ hdivides

/-- A tunnelled connection that is accepted gets the backend of the counter it finds. -/
theorem visit_tunnelled {before : Balance} {target : ReverseTcpProxyTarget}
    {connects : String → Bool} (haccepts : accepts site filter before.counts connects = true) :
    visit site filter before (.tunnelled target connects) =
      ⟨increment before.counts target.hostName,
        before.chosen ++ [chosenIndex site filter before.counts]⟩ := by
  unfold visit
  dsimp only
  rw [if_pos haccepts]
  rfl

/-- A terminated request gets the backend of the counter that it leaves. -/
theorem visit_terminated {before : Balance}
    (hredirect : service.redirectsToHttps (.remoteTarget site) = false) :
    visit site filter before (.terminated service app req) =
      ⟨service.counted before.counts req,
        before.chosen ++ [chosenIndex site filter (service.counted before.counts req)]⟩ := by
  unfold visit
  dsimp only
  rw [hredirect, if_neg Bool.false_ne_true]
  rfl

/-- A visit of the route keeps the turns. -/
theorem inTurn_visit {route : Route} {start : Nat} {before : Balance} {next : Visit}
    (hsite : ForSite site filter next) (hturn : KeepsTurn site filter route before next)
    (h : InTurn site filter route start before) :
    InTurn site filter route start (visit site filter before next) := by
  have hcounter := next_mod hturn.counter
  cases next with
  | tunnelled target connects =>
    cases route with
    | termination => exact absurd hturn.onRoute id
    | tunnel =>
      rw [visit_tunnelled hturn.onRoute, hsite.2]
      unfold InTurn Route.ahead at h ⊢
      rw [increment_self]
      exact h.choose hcounter
  | terminated service app req =>
    cases route with
    | tunnel => exact absurd hturn.onRoute id
    | termination =>
      obtain ⟨hredirect, hname⟩ := hturn.onRoute
      have hcounted := @counted_self before.counts _ _ _ _ _ hname hsite.2
      rw [visit_terminated hredirect]
      unfold InTurn Route.ahead at h ⊢
      unfold chosenIndex
      rw [hcounted, hcounter]
      apply h.choose
      rw [Nat.add_mod, hcounter, ← Nat.add_mod]
  | websocket app req =>
    cases route with
    | tunnel => exact absurd hturn.onRoute id
    | termination => exact absurd hturn.onRoute id

/-- **Load balancing**: in every run of visits for a site that all keep to one route, over the
tunnel to backends that accept the connection or over the terminating service under the name of
the site, no accepted backend is ever selected more than once more often than another. -/
theorem balance_fair {route : Route} {initial : Balance} {visits : List Visit}
    (hfresh : initial.chosen = []) (hsite : ∀ next ∈ visits, ForSite site filter next)
    (hturns : Machine.Meets (visit site filter) (KeepsTurn site filter route) initial visits) :
    ∀ first, first <+: visits →
      Fair (acceptedBackends site filter).length
        (Machine.run (visit site filter) initial first).chosen := by
  intro first hfirst
  have hstart : InTurn site filter route ((initial.counts site.hostName).getD 0 + route.ahead)
      initial := by
    unfold InTurn
    rw [hfresh]
    exact .init rfl
  have hmeets := (Machine.meets_of_forall hsite initial).and hturns
  refine Aligned.fair (hmeets.always ?_ hstart hfirst)
  rintro before next hinTurn ⟨hnext, hturn⟩
  exact inTurn_visit hnext hturn hinTurn

end

/-! ## Two backends -/

def pairSite : RemoteSiteConfig :=
  { plainRemote "site.test" none with
    backends := [otherMachine, { otherMachine with port := 8081 }] }

def noVisits : Balance := ⟨fun _ => none, []⟩

def tunnelledPair : Visit := .tunnelled (remoteTarget pairSite none) fun _ => true

def websocketPair : Visit :=
  .websocket (freshApp (withRemotes [pairSite])) (rootRequest (.text "site.test") true)

theorem pair_accepts (counts : AccessCounts) :
    accepts pairSite .http1 counts (fun _ => true) = true := by
  have hlt : chosenIndex pairSite .http1 counts < (acceptedBackends pairSite .http1).length :=
    Nat.mod_lt _ (by decide)
  unfold accepts
  rw [nextBackend_eq, List.getElem?_eq_getElem hlt]
  rfl

theorem tunnelledPair_fair :
    Fair 2 (Machine.run (visit pairSite .http1) noVisits
      [tunnelledPair, tunnelledPair, tunnelledPair]).chosen := by
  have hsite : ∀ next ∈ [tunnelledPair, tunnelledPair, tunnelledPair],
      ForSite pairSite .http1 next := by
    intro next hmem
    simp only [List.mem_cons, List.not_mem_nil, or_false, or_self] at hmem
    rw [hmem]
    exact ⟨rfl, rfl⟩
  refine @balance_fair pairSite .http1 .tunnel noVisits _ rfl hsite ?_ _ List.prefix_rfl
  refine ⟨⟨?_, .inl ?_⟩, ⟨?_, .inl ?_⟩, ⟨?_, .inl ?_⟩, trivial⟩
  · exact pair_accepts _
  · decide +kernel
  · exact pair_accepts _
  · decide +kernel
  · exact pair_accepts _
  · decide +kernel

/-- Websockets all go to one backend. -/
theorem websocketPair_unfair :
    (withRemotes [pairSite]).isValid = .ok () ∧ (acceptedBackends pairSite .any).length = 2 ∧
      (∀ next ∈ [websocketPair, websocketPair], ForSite pairSite .any next) ∧
      (Machine.run (visit pairSite .any) noVisits [websocketPair, websocketPair]).chosen = [0, 0] ∧
      ¬Fair 2 (Machine.run (visit pairSite .any) noVisits
        [websocketPair, websocketPair]).chosen := by
  have hchosen : (Machine.run (visit pairSite .any) noVisits
      [websocketPair, websocketPair]).chosen = [0, 0] := by
    decide +kernel
  refine ⟨by rfl, rfl, ?_, hchosen, ?_⟩
  · intro next hmem
    simp only [List.mem_cons, List.not_mem_nil, or_false, or_self] at hmem
    rw [hmem]
    exact ⟨rfl, by decide +kernel⟩
  · rw [hchosen]
    decide

end OddBox.Proxy

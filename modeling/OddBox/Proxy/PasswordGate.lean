import OddBox.Proxy.Service
import OddBox.TcpProxy.WireSecurity

/-!
What a request can do without the password: the admin API asks for it, while the service
that terminates HTTP sends the commands of two paths for anyone who names the local host.
-/

namespace OddBox.Proxy

open OddBox.Api OddBox.Configuration OddBox.Routing OddBox.TcpProxy
open OddBox.H2 (HpackDecoder)
open OddBox.Str (CaseMapping)

/-! ## What a selection says -/

theorem selection_localCommand {state : GlobalState} {req : Request} {isHttps : Bool}
    {peekedTarget : Option ReverseTcpProxyTarget} :
    state.handleHttpRequest req isHttps peekedTarget = .localCommand ↔
      ∃ requested, (peekedTarget.map (·.hostName) <|> req.hostName) = some requested ∧
        interceptLocalCommands requested req.path = true := by
  unfold GlobalState.handleHttpRequest
  cases hhost : (peekedTarget.map (·.hostName) <|> req.hostName) with
  | none => simp
  | some requested =>
    simp only [Option.some.injEq, exists_eq_left']
    cases hlocal : interceptLocalCommands requested req.path with
    | true =>
      simp only [Bool.and_true, if_true, iff_true]
      cases hclear : (peekedTarget.isNone && !isHttps) with
      | true => rfl
      | false => simp only [Bool.false_and, Bool.false_eq_true, if_false]
    | false =>
      simp only [Bool.and_false, Bool.false_eq_true, if_false, iff_false]
      intro h
      split at h
      · cases h
      · split at h
        · cases h
        · split at h
          · cases h
          · split at h
            · cases h
            · split at h
              · rename_i remote hremote
                cases h
              · split at h <;> cases h

theorem peekedProcess_eq {target : ReverseTcpProxyTarget} {process : InProcessSiteConfig}
    (h : peekedProcess (some target) = some process) : target.site = .hostedProcess process := by
  unfold peekedProcess at h
  split at h
  · rename_i hsite
    cases h
    exact Option.some.inj hsite
  · cases h

/-- No peeked site that is passed on as it is is a process. -/
theorem peekedRemote_ne {peekedTarget : Option ReverseTcpProxyTarget} {remote : Site}
    (h : peekedRemote peekedTarget = some remote) (process : InProcessSiteConfig) :
    remote ≠ .hostedProcess process := by
  rintro rfl
  unfold peekedRemote at h
  split at h
  · cases h
  · cases h
  · cases h

/-- A selected process is the one of the connection, or has the requested name. -/
theorem selection_process {state : GlobalState} {req : Request} {isHttps : Bool}
    {peekedTarget : Option ReverseTcpProxyTarget} {process : InProcessSiteConfig}
    (h : state.handleHttpRequest req isHttps peekedTarget = .site (.hostedProcess process)) :
    (∃ target, peekedTarget = some target ∧ target.site = .hostedProcess process) ∨
      ∃ requested, (peekedTarget.map (·.hostName) <|> req.hostName) = some requested ∧
        process ∈ state.config.sites ∧ processNamed requested process = true := by
  cases peekedTarget with
  | none =>
    cases hreq : req.hostName with
    | none =>
      simp only [GlobalState.handleHttpRequest, hreq] at h
      cases h
    | some requested =>
      rw [handleHttpRequest_eq_site hreq] at h
      cases h with
      | hostedProcess _ hfound =>
        exact Or.inr ⟨requested, rfl, List.mem_of_find?_eq_some hfound, List.find?_some hfound⟩
  | some target =>
    rw [handleHttpRequest_some] at h
    split at h
    · cases h
    · split at h
      · rename_i found hfound
        cases h
        rcases (Option.orElse_eq_some _ _ _).mp hfound with hpeeked | ⟨-, hnamed⟩
        · exact Or.inl ⟨target, rfl, peekedProcess_eq hpeeked⟩
        · exact Or.inr ⟨target.hostName, rfl, List.mem_of_find?_eq_some hnamed,
            List.find?_some hnamed⟩
      · split at h
        · rename_i remote hremote
          cases h
          exact absurd rfl (peekedRemote_ne hremote process)
        · split at h
          · cases h
          · cases h

/-! ## What a connection is resolved to -/

/-- The target that the lookup has for the host of a connection. -/
def ResolvedTo (mapping : CaseMapping) (state : GlobalState) (peeked : PeekOutcome)
    (target : ReverseTcpProxyTarget) : Prop :=
  ∃ result host, peeked = .ok result ∧ (result.targetHost <|> result.sni) = some host ∧
    state.Resolves mapping host target

def Handling.target : Handling → Option ReverseTcpProxyTarget
  | .fallback _ resolvedTarget => resolvedTarget
  | .tunnel target _ => some target
  | _ => none

/-- A connection is handed on with a target only if it is resolved to it, and nothing but
that target is started. -/
structure HandedOn (mapping : CaseMapping) (state : GlobalState) (peeked : PeekOutcome)
    (handed : Handling × List ProcMessage × GlobalState) : Prop where
  target : ∀ target, handed.1.target = some target → ResolvedTo mapping state peeked target
  messages : ∀ message ∈ handed.2.1, ∃ target, ResolvedTo mapping state peeked target ∧
    message = .start target.hostName
  config : handed.2.2.config = state.config

theorem HandedOn.of_no_target {mapping : CaseMapping} {state after : GlobalState}
    {peeked : PeekOutcome} {handling : Handling} (h : handling.target = none)
    (hconfig : after.config = state.config) :
    HandedOn mapping state peeked (handling, [], after) := by
  refine ⟨?_, ?_, hconfig⟩
  · intro target htarget
    rw [h] at htarget
    cases htarget
  · intro message hmessage
    cases hmessage

section Connection

variable {mapping : CaseMapping} {siteStatusMap : String → Option ProcState} {state : GlobalState}

theorem tryFindSite_config (host : String) :
    (state.tryFindSite mapping host).2.config = state.config := by
  obtain ⟨cache, hcache, -⟩ := @tryFindSite_eq mapping state host
  rw [hcache]

theorem handleHost_handedOn {result : PeekResult} {host : String}
    (hhost : (result.targetHost <|> result.sni) = some host) :
    HandedOn mapping state (.ok result) (handleHost mapping siteStatusMap state result host) := by
  have hconfig := @tryFindSite_config mapping state host
  unfold handleHost
  cases hfind : state.tryFindSite mapping host with
  | mk answer after =>
    rw [hfind] at hconfig
    cases answer with
    | no => exact .of_no_target rfl hconfig
    | failed => exact .of_no_target rfl hconfig
    | yes target =>
      have hresolved : ResolvedTo mapping state (.ok result) target :=
        ⟨result, host, rfl, hhost, tryFindSite_eq_yes.mp (congrArg Prod.fst hfind)⟩
      simp only
      split
      · refine ⟨?_, ?_, hconfig⟩
        · intro other hother
          cases hother
          exact hresolved
        · intro message hmessage
          cases hmessage
      · refine ⟨?_, ?_, hconfig⟩
        · intro other hother
          cases hother
          exact hresolved
        · intro message hmessage
          refine ⟨target, hresolved, ?_⟩
          simp only [startMessages] at hmessage
          split at hmessage
          · exact List.mem_singleton.mp hmessage
          · cases hmessage

theorem handleNewTcpStream_handedOn (api : Bool) (peeked : PeekOutcome) :
    HandedOn mapping state peeked
      (handleNewTcpStream mapping siteStatusMap api state peeked) := by
  unfold handleNewTcpStream
  split
  · split
    · exact .of_no_target rfl rfl
    · split
      · exact .of_no_target rfl rfl
      · rename_i host hhost
        exact handleHost_handedOn hhost
  · exact .of_no_target rfl rfl
  · exact .of_no_target rfl rfl
  · exact .of_no_target rfl rfl
  · exact .of_no_target rfl rfl
  · exact .of_no_target rfl rfl

variable {Tcp Tls : InnerStream} {hpack : HpackDecoder} {system : TunnelSystem Tcp Tls hpack}
  {configuration : OddBoxV3Config} {localAddr : String} {counts : AccessCounts}
  {rustlsConfig : Bool}

theorem useFallbackMode_service {stream : GenericManagedStream Tcp Tls hpack}
    {template service : ReverseProxyService} {reason : FallbackReason}
    (h : useFallbackMode system rustlsConfig stream template reason = .service service) :
    service.resolvedTarget = template.resolvedTarget := by
  unfold useFallbackMode at h
  split at h
  · cases h
  · split at h
    · split at h
      · cases h
        rfl
      · cases h
    · cases h
      rfl
    · cases h
      rfl

/-- The service of a connection has the target that the connection was handed on with. -/
theorem door_service {stream : PeekStream Tcp hpack} {handling : Handling}
    {service : ReverseProxyService}
    (h : handling.door system configuration localAddr counts rustlsConfig stream =
      .service service) : service.resolvedTarget = handling.target := by
  cases handling with
  | api =>
    simp only [Handling.door] at h
    split at h <;> cases h
  | terminating =>
    cases h
    rfl
  | fallback reason resolvedTarget => exact useFallbackMode_service h
  | tunnel target incoming =>
    simp only [Handling.door] at h
    split at h
    · exact useFallbackMode_service h
    · cases h
  | closed => cases h
  | panicked => cases h
  | peeking => cases h

end Connection

/-! ## The gate -/

/-- The sites that a request is addressed to: the target of its connection, and the processes
that the host has for which it is handled. -/
inductive Addressed (mapping : CaseMapping) (state : GlobalState) (peeked : PeekOutcome)
    (door : Door) (req : HttpRequest) : String → Prop where
  | connection {target : ReverseTcpProxyTarget}
      (hresolved : ResolvedTo mapping state peeked target) :
      Addressed mapping state peeked door req target.hostName
  | process {target : ReverseTcpProxyTarget} {process : InProcessSiteConfig}
      (hresolved : ResolvedTo mapping state peeked target)
      (hsite : target.site = .hostedProcess process) :
      Addressed mapping state peeked door req process.hostName
  | named {service : ReverseProxyService} {requested : String} {process : InProcessSiteConfig}
      (hdoor : door = .service service) (hhost : service.resolvedHostName req = some requested)
      (hmem : process ∈ service.configuration.sites)
      (hnamed : processNamed requested process = true) :
      Addressed mapping state peeked door req process.hostName

/-- What may be done for a request that does not have the password. -/
structure Gated (addressed : String → Prop) (before : AppState) (effect : Effect) : Prop where
  stop : ∀ site, .stop site ∉ effect.messages
  stopAll : .stopAll ∉ effect.messages
  startAll : .startAll ∉ effect.messages
  start : ∀ site, .start site ∈ effect.messages → addressed site
  config : effect.app.global.config = before.global.config
  written : effect.written = none

/-- Starting an addressed site is all that may be sent. -/
theorem Gated.of_starts {addressed : String → Prop} {before : AppState} {effect : Effect}
    (hmessages : ∀ message ∈ effect.messages, ∃ site, message = .start site ∧ addressed site)
    (hconfig : effect.app.global.config = before.global.config) (hwritten : effect.written = none) :
    Gated addressed before effect := by
  refine ⟨?_, ?_, ?_, ?_, hconfig, hwritten⟩
  · intro site hmem
    obtain ⟨other, hother, -⟩ := hmessages _ hmem
    cases hother
  · intro hmem
    obtain ⟨other, hother, -⟩ := hmessages _ hmem
    cases hother
  · intro hmem
    obtain ⟨other, hother, -⟩ := hmessages _ hmem
    cases hother
  · intro site hmem
    obtain ⟨other, hother, haddressed⟩ := hmessages _ hmem
    cases hother
    exact haddressed

/-- The request comes to `intercept_local_commands` with a command that is not for a site it
is addressed to. -/
def CommandsOthers (outside : Outside) (addressed : String → Prop) (door : Door)
    (req : HttpRequest) : Prop :=
  ∃ service requested, door = .service service ∧ isOrdinary req = true ∧
    service.resolvedHostName req = some requested ∧
    interceptLocalCommands requested req.path = true ∧
    (req.path = "/STOP" ∨ ¬addressed (req.proc outside))

theorem autoStart_mem {siteStatusMap : String → Option ProcState} {isHttps : Bool}
    {process : InProcessSiteConfig} {message : ProcMessage}
    (h : message ∈ autoStart siteStatusMap isHttps process) :
    message = .start process.hostName := by
  unfold autoStart at h
  split at h
  · cases h
  · split at h
    · cases h
    · cases h
    · cases h
    · exact List.mem_singleton.mp h

section Gate

variable {outside : Outside} {app : AppState} {req : HttpRequest} {service : ReverseProxyService}
  {message : ProcMessage}

/-- The service sends a command for a local host, or starts the process it has selected. -/
theorem call_mem (h : message ∈ service.call outside app req) :
    isOrdinary req = true ∧
      ((message = localCommand outside req ∧
          ∃ requested, service.resolvedHostName req = some requested ∧
            interceptLocalCommands requested req.path = true) ∨
        ∃ process, message = .start process.hostName ∧
          ((∃ target, service.resolvedTarget = some target ∧ target.site = .hostedProcess process) ∨
            ∃ requested, service.resolvedHostName req = some requested ∧
              process ∈ service.configuration.sites ∧ processNamed requested process = true)) := by
  unfold ReverseProxyService.call at h
  split at h
  · rename_i hordinary
    refine ⟨hordinary, ?_⟩
    unfold ReverseProxyService.handleHttpRequest at h
    split at h
    · rename_i hselection
      exact Or.inl ⟨List.mem_singleton.mp h, selection_localCommand.mp hselection⟩
    · rename_i process hselection
      exact Or.inr ⟨process, autoStart_mem h, selection_process hselection⟩
    · cases h
  · cases h

theorem call_localCommand {requested : String} (hordinary : isOrdinary req = true)
    (hhost : service.resolvedHostName req = some requested)
    (hlocal : interceptLocalCommands requested req.path = true) :
    service.call outside app req = [localCommand outside req] := by
  have hselection : (service.view app).handleHttpRequest req.toRequest service.isHttps
      service.resolvedTarget = .localCommand :=
    selection_localCommand.mpr ⟨requested, hhost, hlocal⟩
  simp only [ReverseProxyService.call, hordinary, if_true, ReverseProxyService.handleHttpRequest,
    hselection]

end Gate

/-- What is done for a request on a connection, and before for the connection itself. -/
def Accepted.handle (outside : Outside) (accepted : Accepted) (app : AppState)
    (req : HttpRequest) : Effect :=
  let effect := accepted.door.handle outside app req
  { effect with messages := accepted.messages ++ effect.messages }

section Handle

variable {outside : Outside} {accepted : Accepted} {app : AppState} {req : HttpRequest}
  {addressed : String → Prop}

/-- Of what the doors do only the commands for a local host have to be looked at. -/
theorem Accepted.handle_gated (hunauthorized : authorized app.global.config req = false)
    (hconnection : ∀ message ∈ accepted.messages, ∃ site, message = .start site ∧ addressed site)
    (hservice : ∀ service, accepted.door = .service service →
      ∀ message ∈ service.call outside app req, ∃ site, message = .start site ∧ addressed site) :
    Gated addressed app (accepted.handle outside app req) := by
  unfold Accepted.handle
  cases hdoor : accepted.door with
  | api =>
    simp only [Door.handle, handleRequest_unauthorized hunauthorized]
    apply Gated.of_starts
    · intro message hmem
      exact hconnection message (List.append_nil accepted.messages ▸ hmem)
    · rfl
    · rfl
  | service service =>
    apply Gated.of_starts
    · intro message hmem
      rcases List.mem_append.mp hmem with hmem | hmem
      · exact hconnection message hmem
      · exact hservice service hdoor message hmem
    · rfl
    · rfl
  | closed =>
    apply Gated.of_starts
    · intro message hmem
      exact hconnection message (List.append_nil accepted.messages ▸ hmem)
    · rfl
    · rfl

theorem Gated.not_commandsOthers (h : Gated addressed app (accepted.handle outside app req)) :
    ¬CommandsOthers outside addressed accepted.door req := by
  rintro ⟨service, requested, hdoor, hordinary, hhost, hlocal, hothers⟩
  have hsent : localCommand outside req ∈ (accepted.handle outside app req).messages := by
    simp only [Accepted.handle, hdoor, Door.handle, call_localCommand hordinary hhost hlocal]
    exact List.mem_append_right _ (List.mem_singleton_self _)
  unfold localCommand at hsent
  split at hsent
  · exact h.stop _ hsent
  · rename_i hpath
    rcases hothers with hstop | hnot
    · exact hpath hstop
    · exact hnot (h.start _ hsent)

end Handle

/-- **Password gate**: a request without the password that is set stops nothing, starts only
what it is addressed to and leaves the configuration alone, exactly where it is not one for
`/STOP`, or for `/START` of another site, that comes to the terminating service under the
name of the local host. -/
theorem password_gate_iff {Tcp Tls : InnerStream} {hpack : HpackDecoder}
    (system : TunnelSystem Tcp Tls hpack) (configuration : OddBoxV3Config) (localAddr : String)
    (counts : AccessCounts) (rustlsConfig : Bool) (mapping : CaseMapping)
    (siteStatusMap : String → Option ProcState) (state : GlobalState) (socket : Tcp.State)
    (tcpConnectionId fuel : Nat) (outside : Outside) (app : AppState) (req : HttpRequest)
    (password : String) (hpassword : app.global.config.oddBoxPassword = some password)
    (hauthorization : req.authorization ≠ some password.toUTF8.toList) :
    let peeked := (PeekStream.fromTcpStream hpack socket tcpConnectionId).peekManagedStream fuel
    let accepted := accept system configuration localAddr counts rustlsConfig mapping siteStatusMap
      state peeked
    let addressed := Addressed mapping state peeked.1 accepted.door req
    accepted.state.config = state.config ∧
        Gated addressed app (accepted.handle outside app req) ↔
      ¬CommandsOthers outside addressed accepted.door req := by
  intro peeked accepted addressed
  have hhanded : HandedOn mapping state peeked.1
      (handleNewTcpStream mapping siteStatusMap rustlsConfig state peeked.1) :=
    handleNewTcpStream_handedOn rustlsConfig peeked.1
  have hunauthorized : authorized app.global.config req = false := by
    simp only [authorized, hpassword]
    exact beq_false_of_ne hauthorization
  constructor
  · rintro ⟨-, hgated⟩
    exact hgated.not_commandsOthers
  · intro hothers
    refine ⟨hhanded.config, Accepted.handle_gated hunauthorized ?_ ?_⟩
    · intro message hmem
      obtain ⟨target, hresolved, rfl⟩ := hhanded.messages message hmem
      exact ⟨_, rfl, .connection hresolved⟩
    · intro service hdoor message hmem
      obtain ⟨hordinary, ⟨rfl, requested, hhost, hlocal⟩ | ⟨process, rfl, hprocess⟩⟩ :=
        call_mem hmem
      · have hpath : req.path ≠ "/STOP" := fun hstop =>
          hothers ⟨service, requested, hdoor, hordinary, hhost, hlocal, Or.inl hstop⟩
        refine ⟨req.proc outside, if_neg hpath, ?_⟩
        by_contra hnot
        exact hothers ⟨service, requested, hdoor, hordinary, hhost, hlocal, Or.inr hnot⟩
      · refine ⟨process.hostName, rfl, ?_⟩
        rcases hprocess with ⟨target, htarget, hsite⟩ | ⟨requested, hhost, hmember, hnamed⟩
        · have hresolved := hhanded.target target (door_service hdoor ▸ htarget)
          exact .process hresolved hsite
        · exact .named hdoor hhost hmember hnamed

/-! ## A command without the password -/

/-- Nothing is decoded and nothing can be written. -/
def sealedOutside : Outside where
  formUrlencoded _ := []
  updateRequest _ := none
  saveGlobalConfig _ := none
  printable _ := true
  writes _ _ := false
  adopts := false

def securedConfig : OddBoxV3Config := { withRemotes [] with oddBoxPassword := some "secret" }

def securedApp : AppState where
  global := freshState securedConfig
  siteStatusMap _ := none

def getPath (host path : String) : HttpRequest where
  hostHeader := .text host
  authorityHost := none
  path := path
  method := .get
  version := .http11
  query := none
  authorization := none
  isUpgradeRequest := false
  body := []

/-- A connection on the clear listener, with the sites that a request on it is addressed to. -/
def acceptClear (peeked : PeekOutcome × PeekStream scripted H2.staticHpack) : Accepted :=
  accept (openSystem fun _ => none) securedConfig "localhost" (fun _ => none) false asciiOnly
    (fun _ => none) securedApp.global peeked

def AddressedClear (peeked : PeekOutcome × PeekStream scripted H2.staticHpack)
    (req : HttpRequest) : String → Prop :=
  Addressed asciiOnly securedApp.global peeked.1 (acceptClear peeked).door req

/-- An ordinary request for a host that no site has. -/
theorem getRequest_gated :
    (acceptClear getPeek).state.config = securedConfig ∧
      Gated (AddressedClear getPeek (getPath "a.test" "/")) securedApp
        ((acceptClear getPeek).handle sealedOutside securedApp (getPath "a.test" "/")) := by
  apply (password_gate_iff (openSystem fun _ => none) securedConfig "localhost" (fun _ => none)
    false asciiOnly (fun _ => none) securedApp.global getSocket 1 1 sealedOutside securedApp
    (getPath "a.test" "/") "secret" rfl ?_).mpr
  · rintro ⟨service, requested, -, -, -, hlocal, -⟩
    simp [interceptLocalCommands, getPath] at hlocal
  · intro h
    cases h

def stopBytes : List UInt8 := ascii "GET /STOP HTTP/1.1\r\nHost: 127.0.0.1\r\n\r\n"

def stopPeek : PeekOutcome × PeekStream scripted H2.staticHpack :=
  (PeekStream.fromTcpStream H2.staticHpack (([], [some (71, stopBytes.tail)]) : scripted.State)
    1).peekManagedStream 1

/-- On the clear listener everything is stopped for a request without the password. -/
theorem stop_unauthorized :
    securedApp.global.config.oddBoxPassword = some "secret" ∧
      (getPath "127.0.0.1" "/STOP").authorization = none ∧
      ((acceptClear stopPeek).handle sealedOutside securedApp
        (getPath "127.0.0.1" "/STOP")).messages = [.stop "all"] ∧
      ¬Gated (AddressedClear stopPeek (getPath "127.0.0.1" "/STOP")) securedApp
        ((acceptClear stopPeek).handle sealedOutside securedApp (getPath "127.0.0.1" "/STOP")) := by
  have hmessages : ((acceptClear stopPeek).handle sealedOutside securedApp
      (getPath "127.0.0.1" "/STOP")).messages = [.stop "all"] := by decide +kernel
  refine ⟨rfl, rfl, hmessages, ?_⟩
  intro hgated
  apply hgated.stop "all"
  rw [hmessages]
  exact List.mem_singleton_self _

end OddBox.Proxy

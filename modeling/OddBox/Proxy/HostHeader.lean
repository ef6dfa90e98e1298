import OddBox.Proxy.Forwarding
import OddBox.Proxy.PasswordGate
import OddBox.Routing.CacheCoherence

/-!
The `Host` that a remote backend receives for a terminated request, against the rule that
`keep_original_host_header` and `forward_subdomains` stand for.
-/

namespace OddBox.Proxy

open OddBox.Api OddBox.Configuration OddBox.Routing OddBox.Str OddBox.TcpProxy
open OddBox.FirstMatch (Answer)
open OddBox.H2 (HpackDecoder)

/-! ## The rule -/

/-- The host that the client has asked for. -/
def IncomingRequest.originalHost (req : IncomingRequest) : HostHeader :=
  match req.hostHeader with
  | .absent => req.authority.elim .absent .text
  | header => header

/-- What a client derives from the URL of the backend. -/
def Backend.authorityText (backend : Backend) : String :=
  if backend.port = standardPort (backend.https.getD false) then backend.address
  else s!"{backend.address}:{portText backend.port}"

/-- The original host is kept where the site says so, or where all backends are local. -/
def keepsHost (site : RemoteSiteConfig) : Bool :=
  site.keepOriginalHostHeader.getD false || site.backends.all isLocal

def IsSubdomain (req : IncomingRequest) (site : RemoteSiteConfig) (sub : String) : Prop :=
  site.forwardSubdomains.getD false = true ∧ req.hostName = some (sub ++ "." ++ site.hostName)

/-- The host that a backend of the site has to be asked for. -/
structure HostRule (site : RemoteSiteConfig) (backend : Backend) (req : IncomingRequest)
    (host : HostHeader) : Prop where
  kept : keepsHost site = true → host = req.originalHost
  subdomain : keepsHost site = false → ∀ sub, IsSubdomain req site sub →
    host = .text (sub ++ "." ++ backend.address)
  backend : keepsHost site = false → (∀ sub, ¬IsSubdomain req site sub) →
    host = .text backend.address ∨ host = .text s!"{backend.address}:{portText backend.port}"

/-! ## What is sent -/

/-- The remote site that a request goes out for. -/
def Outgoing.remote (outgoing : Outgoing) : Option RemoteSiteConfig :=
  match outgoing.site with
  | .remoteTarget site => some site
  | .docker _ site => some site
  | _ => none

/-- The map of containers has them under their host names. -/
def ContainersNamed (containers : List (String × ContainerProxyTarget)) : Prop :=
  ∀ container ∈ containers, container.1 = container.2.generateHostName

/-- The names of targets and containers are those of their configurations, and directories
are not peeked. -/
structure Named (peekedTarget : Option ReverseTcpProxyTarget)
    (containers : List (String × ContainerProxyTarget)) : Prop where
  remote : ∀ target site, peekedTarget = some target → target.site = .remoteTarget site →
    target.hostName = site.hostName
  docker : ∀ target name site, peekedTarget = some target → target.site = .docker name site →
    target.hostName = site.hostName
  dirServer : ∀ target dir, peekedTarget = some target → target.site ≠ .dirServer dir
  container : ContainersNamed containers

/-- Targets are made with these names, and only processes are cached. -/
theorem Named.of_resolves {mapping : CaseMapping} {state : GlobalState} {host : String}
    {target : ReverseTcpProxyTarget} {containers : List (String × ContainerProxyTarget)}
    (hbefore : ContainersNamed state.dockerContainers) (hnow : ContainersNamed containers)
    (h : state.Resolves mapping host target) : Named (some target) containers := by
  cases h with
  | cached hhit =>
    have hkind := kind_of_cachedTarget hhit
    constructor
    · rintro _ site ⟨⟩ hsite
      rw [hsite] at hkind
      contradiction
    · rintro _ name site ⟨⟩ hsite
      rw [hsite] at hkind
      contradiction
    · rintro _ dir ⟨⟩ hsite
      rw [hsite] at hkind
      contradiction
    · exact hnow
  | remote _ _ _ _ =>
    constructor
    · rintro _ site ⟨⟩ hsite
      cases hsite
      rfl
    · rintro _ name site ⟨⟩ ⟨⟩
    · rintro _ dir ⟨⟩ ⟨⟩
    · exact hnow
  | process _ _ _ _ =>
    constructor
    · rintro _ site ⟨⟩ ⟨⟩
    · rintro _ name site ⟨⟩ ⟨⟩
    · rintro _ dir ⟨⟩ ⟨⟩
    · exact hnow
  | container _ hfirst _ _ =>
    constructor
    · rintro _ site ⟨⟩ ⟨⟩
    · rintro _ name site ⟨⟩ hsite
      cases hsite
      exact hbefore _ hfirst.mem
    · rintro _ dir ⟨⟩ ⟨⟩
    · exact hnow

/-- Without a peeked target the names are those of the containers. -/
theorem Named.of_none {containers : List (String × ContainerProxyTarget)}
    (hnow : ContainersNamed containers) : Named none containers := by
  constructor
  · rintro target site ⟨⟩
  · rintro target name site ⟨⟩
  · rintro target dir ⟨⟩
  · exact hnow

section

variable {Tcp Tls : InnerStream} {hpack : HpackDecoder} {system : TunnelSystem Tcp Tls hpack}
  {configuration : OddBoxV3Config} {localAddr : String} {counts : AccessCounts}
  {rustlsConfig : Bool} {mapping : CaseMapping} {siteStatusMap : String → Option ProcState}
  {state : GlobalState} {peeked : PeekOutcome × PeekStream Tcp hpack}

/-- The service of a connection has the target that is resolved for it. -/
theorem accept_named {service : ReverseProxyService}
    {containers : List (String × ContainerProxyTarget)}
    (hbefore : ContainersNamed state.dockerContainers) (hnow : ContainersNamed containers)
    (hdoor : (accept system configuration localAddr counts rustlsConfig mapping siteStatusMap state
      peeked).door = .service service) : Named service.resolvedTarget containers := by
  have hhanded : HandedOn mapping state peeked.1
      (handleNewTcpStream mapping siteStatusMap rustlsConfig state peeked.1) :=
    handleNewTcpStream_handedOn rustlsConfig peeked.1
  cases htarget : service.resolvedTarget with
  | none => exact .of_none hnow
  | some target =>
    rw [door_service hdoor] at htarget
    obtain ⟨_, _, _, _, hresolves⟩ := hhanded.target target htarget
    exact .of_resolves hbefore hnow hresolves

end

/-- The subdomain without dots at its end. -/
def trimDots (sub : String) : String := String.ofList (sub.toList.rdropWhile (· == '.'))

/-- The subdomain is passed on to the backend: the connection was not peeked, the site asks for
it, and what comes out is a header value. -/
structure PassesOn (http : HttpCrate) (peekedTarget : Option ReverseTcpProxyTarget)
    (req : IncomingRequest) (site : RemoteSiteConfig) (backend : Backend) (sub : String) :
    Prop where
  unpeeked : peekedTarget = none
  rewritten : site.keepOriginalHostHeader.getD false = false
  subdomain : IsSubdomain req site sub
  readable : http.isHeaderValue s!"{trimDots sub}.{backend.address}" = true

/-- What goes out where the header is not replaced. -/
def passedHost (backend : Backend) (req : IncomingRequest) : HostHeader :=
  match req.hostHeader with
  | .absent => .text (Backend.authorityText backend)
  | header => header

/-- The request names the host itself, or has no header and the backend is known by it. -/
def Carries (backend : Backend) (req : IncomingRequest) (host : String) : Prop :=
  req.hostHeader = .text host ∨
    req.hostHeader = .absent ∧ Backend.authorityText backend = host

/-- Where the rule comes out. A header that is to be kept has to be there, and may not be
replaced for a subdomain; one that is to be replaced is so for a subdomain only, and only where
the connection was not peeked. -/
structure HostAgrees (http : HttpCrate) (peekedTarget : Option ReverseTcpProxyTarget)
    (site : RemoteSiteConfig) (backend : Backend) (req : IncomingRequest) : Prop where
  kept : keepsHost site = true → (∀ sub, ¬PassesOn http peekedTarget req site backend sub) →
    req.hostHeader = .absent → req.authority = some (Backend.authorityText backend)
  replaced : keepsHost site = true → ∀ sub, PassesOn http peekedTarget req site backend sub →
    req.originalHost = .text (trimDots sub ++ "." ++ backend.address)
  passed : keepsHost site = false → ∀ sub, PassesOn http peekedTarget req site backend sub →
    trimDots sub = sub
  unpassed : keepsHost site = false → ∀ sub, IsSubdomain req site sub →
    ¬PassesOn http peekedTarget req site backend sub →
      Carries backend req (sub ++ "." ++ backend.address)
  backend : keepsHost site = false → (∀ sub, ¬IsSubdomain req site sub) →
    req.hostHeader = .absent ∨ req.hostHeader = .text backend.address ∨
      req.hostHeader = .text s!"{backend.address}:{portText backend.port}"

/-- The URL of the backend is read as it is written. -/
def HttpCrate.Reads (http : HttpCrate) (backend : Backend) (req : IncomingRequest) : Prop :=
  http.parseUri (targetUrl (schemeOf (backend.https.getD false)) backend.address backend.port
    req.originalPathAndQuery) =
      some ⟨schemeOf (backend.https.getD false), backend.address, some backend.port⟩

section

variable {network : Network} {counts : AccessCounts} {found : Site} {reqHostName : String}
  {isHttps : Bool} {site : RemoteSiteConfig} {req : IncomingRequest} {outgoing : Outgoing}

theorem updatePort_authorityText (backend : Backend) (scheme : String) :
    (updatePort ⟨scheme, backend.address, some backend.port⟩ backend.port
      (backend.https.getD false)).authorityText = Backend.authorityText backend := by
  unfold updatePort Uri.authorityText Backend.authorityText
  dsimp only
  split_ifs <;> rfl

theorem proxy_receivedHost {backend : Backend} {override : Option String}
    (hreads : network.http.Reads backend req)
    (h : proxy network.http found override isHttps req
      (targetUrl (schemeOf (backend.https.getD false)) backend.address backend.port
        req.originalPathAndQuery) (backend.https.getD false) backend = some outgoing) :
    outgoing.receivedHost =
      match override.filter network.http.isHeaderValue with
      | some host => .text host
      | none => passedHost backend req := by
  obtain ⟨-, -, huri, hheader⟩ := proxy_eq_some hreads h
  unfold Outgoing.receivedHost
  rw [hheader, huri]
  cases override.filter network.http.isHeaderValue with
  | some host => rfl
  | none =>
    unfold passedHost
    dsimp only
    cases req.hostHeader with
    | absent =>
      dsimp only [Option.getD_some]
      rw [updatePort_authorityText]
    | unreadable => rfl
    | text value => rfl

end

section

variable {service : ReverseProxyService} {network : Network} {counts : AccessCounts}
  {app : AppState} {req : IncomingRequest} {outgoing : Outgoing} {site : RemoteSiteConfig}

/-- A remote site that a request is forwarded for has been found by the name that is resolved. -/
theorem forwardHttp_remote (h : service.forwardHttp network counts app req = some outgoing)
    (hremote : outgoing.remote = some site) :
    ∃ name, service.resolvedHostName req.toHttpRequest = some name ∧
      (service.view app).handleHttpRequest req.toRequest service.isHttps service.resolvedTarget =
        .site outgoing.site ∧
      performRemoteForwarding network (service.counted counts req) outgoing.site name
        service.isHttps site req = some outgoing := by
  unfold ReverseProxyService.forwardHttp at h
  split at h
  · next found name hselect hname =>
    split_ifs at h with hredirect
    split at h
    · contradiction
    · split_ifs at h
      obtain ⟨_, _, -, hsite, -⟩ := forwardToProcess_eq h
      unfold Outgoing.remote at hremote
      rw [hsite] at hremote
      contradiction
    · next remote =>
      obtain ⟨-, hsite, -⟩ := performRemoteForwarding_eq h
      unfold Outgoing.remote at hremote
      rw [hsite] at hremote
      cases hremote
      rw [hsite]
      exact ⟨name, hname, hselect, h⟩
    · next container remote =>
      obtain ⟨-, hsite, -⟩ := performRemoteForwarding_eq h
      unfold Outgoing.remote at hremote
      rw [hsite] at hremote
      cases hremote
      rw [hsite]
      exact ⟨name, hname, hselect, h⟩
  · contradiction

/-- The requests of a peeked connection are for a hosted process or for the peeked site. -/
theorem handleHttpRequest_peeked {state : GlobalState} {request : Request} {isHttps : Bool}
    {target : ReverseTcpProxyTarget} {found : Site}
    (h : state.handleHttpRequest request isHttps (some target) = .site found) :
    (∃ process, found = .hostedProcess process) ∨ found = target.site ∨
      ∃ dir, target.site = .dirServer dir := by
  rw [handleHttpRequest_some] at h
  split_ifs at h
  cases hsite : target.site with
  | dirServer dir => exact .inr (.inr ⟨dir, rfl⟩)
  | hostedProcess process =>
    simp only [peekedProcess, Option.map_some, hsite] at h
    cases h
    exact .inl ⟨process, rfl⟩
  | docker containerName config =>
    split at h
    · cases h
      exact .inl ⟨_, rfl⟩
    · simp only [peekedRemote, Option.map_some, hsite] at h
      cases h
      exact .inr (.inl rfl)
  | remoteTarget config =>
    split at h
    · cases h
      exact .inl ⟨_, rfl⟩
    · simp only [peekedRemote, Option.map_some, hsite] at h
      cases h
      exact .inr (.inl rfl)

/-- A remote site that is found for a peeked target is the target's; one that is found for a
request has its name, or one below it. -/
theorem remote_named {state : GlobalState} {isHttps : Bool}
    {peekedTarget : Option ReverseTcpProxyTarget} {name : String}
    (hnamed : Named peekedTarget state.dockerContainers)
    (hname : (peekedTarget.map (·.hostName) <|> req.hostName) = some name)
    (hselect : state.handleHttpRequest req.toRequest isHttps peekedTarget = .site outgoing.site)
    (hremote : outgoing.remote = some site) :
    (∀ target, peekedTarget = some target → name = site.hostName) ∧
      (peekedTarget = none → req.hostName = some name ∧
        (name = site.hostName ∨ ∃ sub, name = sub ++ "." ++ site.hostName)) := by
  unfold Outgoing.remote at hremote
  cases peekedTarget with
  | none =>
    refine ⟨by rintro target ⟨⟩, ?_⟩
    intro _
    have hreq : req.hostName = some name := hname
    refine ⟨hreq, ?_⟩
    rw [handleHttpRequest_eq_site hreq] at hselect
    generalize outgoing.site = found at hselect hremote
    cases hselect with
    | dirServer _ _ => contradiction
    | docker _ _ hcontainer =>
      cases hremote
      left
      obtain ⟨before, after, hsplit, -⟩ := List.lookup_eq_some_iff.mp hcontainer
      exact hnamed.container (name, _) (by rw [hsplit]; simp)
    | hostedProcess _ _ => contradiction
    | remoteTarget _ _ hfound =>
      cases hremote
      have hnames := List.find?_some hfound
      simp only [remoteNamed, namesSite, Bool.or_eq_true, beq_iff_eq, Bool.and_eq_true,
        List.isSuffixOf_iff_suffix] at hnames
      rcases hnames with hsame | ⟨-, front, hfront⟩
      · exact .inl hsame
      · refine .inr ⟨String.ofList front, ?_⟩
        apply String.toList_inj.mp
        rw [← hfront]
        simp
  | some target =>
    refine ⟨?_, by rintro ⟨⟩⟩
    rintro _ ⟨⟩
    have htarget : target.hostName = name := Option.some.inj hname
    subst htarget
    generalize outgoing.site = found at hselect hremote
    obtain ⟨process, rfl⟩ | rfl | ⟨dir, hdir⟩ := handleHttpRequest_peeked hselect
    · contradiction
    · split at hremote
      · next hsite =>
        cases hremote
        exact hnamed.remote target site rfl hsite
      · next containerName _ hsite =>
        cases hremote
        exact hnamed.docker target containerName site rfl hsite
      · contradiction
    · exact absurd hdir (hnamed.dirServer target dir rfl)

/-- The subdomain of a host is one only. -/
theorem IsSubdomain.unique {sub sub' : String} (h : IsSubdomain req site sub)
    (h' : IsSubdomain req site sub') : sub = sub' := by
  have heq : sub ++ "." ++ site.hostName = sub' ++ "." ++ site.hostName :=
    Option.some.inj (h.2.symm.trans h'.2)
  rw [String.append_assoc, String.append_assoc] at heq
  exact (String.append_left_inj _).mp heq

theorem IsSubdomain.none_passed {http : HttpCrate} {peekedTarget : Option ReverseTcpProxyTarget}
    {backend : Backend} {sub : String} (h : IsSubdomain req site sub)
    (hnot : ¬PassesOn http peekedTarget req site backend sub) (other : String) :
    ¬PassesOn http peekedTarget req site backend other := by
  intro hother
  rw [hother.subdomain.unique h] at hother
  exact hnot hother

/-- For the name of the site itself nothing is replaced. -/
theorem remoteOverride_same (mapping : CaseMapping) (backend : Backend) :
    remoteOverride mapping site.hostName site backend = .no := by
  unfold remoteOverride getSubdomain
  rw [if_pos rfl]
  split_ifs <;> rfl

theorem remoteOverride_subdomain {mapping : CaseMapping} {backend : Backend} {sub : String}
    (hkeep : site.keepOriginalHostHeader.getD false = false)
    (hsubdomains : site.forwardSubdomains.getD false = true) :
    remoteOverride mapping (sub ++ "." ++ site.hostName) site backend =
      .yes s!"{trimDots sub}.{backend.address}" := by
  unfold remoteOverride
  rw [hkeep, hsubdomains, getSubdomain_append]
  rfl

theorem remoteOverride_yes {mapping : CaseMapping} {backend : Backend} {name host : String}
    (h : remoteOverride mapping name site backend = .yes host) :
    site.keepOriginalHostHeader.getD false = false ∧
      site.forwardSubdomains.getD false = true ∧ name ≠ site.hostName := by
  refine ⟨?_, ?_, ?_⟩
  · by_contra hkeep
    unfold remoteOverride at h
    rw [if_pos (Bool.eq_true_of_not_eq_false hkeep)] at h
    contradiction
  · by_contra hsubdomains
    unfold remoteOverride at h
    rw [if_neg hsubdomains] at h
    split_ifs at h
  · rintro rfl
    rw [remoteOverride_same] at h
    contradiction

/-- Exactly where a subdomain is passed on the header is replaced. -/
theorem receivedHost_eq (hnamed : Named service.resolvedTarget app.global.dockerContainers)
    (hforward : service.forwardHttp network counts app req = some outgoing)
    (hremote : outgoing.remote = some site)
    (hreads : network.http.Reads outgoing.backend req) :
    (∀ sub, PassesOn network.http service.resolvedTarget req site outgoing.backend sub →
      outgoing.receivedHost = .text (trimDots sub ++ "." ++ outgoing.backend.address)) ∧
    ((∀ sub, ¬PassesOn network.http service.resolvedTarget req site outgoing.backend sub) →
      outgoing.receivedHost = passedHost outgoing.backend req) := by
  obtain ⟨name, hname, hselect, hsent⟩ := forwardHttp_remote hforward hremote
  obtain ⟨hpeeked, hunpeeked⟩ :=
    @remote_named _ _ _ (service.view app) _ _ _ hnamed hname hselect hremote
  obtain ⟨-, -, override, hoverride, hproxy⟩ := performRemoteForwarding_eq hsent
  rw [proxy_receivedHost hreads hproxy]
  constructor
  · intro sub hpasses
    obtain ⟨hreq, -⟩ := hunpeeked hpasses.unpeeked
    have hsub : name = sub ++ "." ++ site.hostName :=
      Option.some.inj (hreq.symm.trans hpasses.subdomain.2)
    rw [hsub, remoteOverride_subdomain hpasses.rewritten hpasses.subdomain.1] at hoverride
    obtain ⟨-, h⟩ | ⟨host, rfl, h⟩ := hoverride
    · contradiction
    · cases h
      rw [Option.filter_some, if_pos hpasses.readable]
      rfl
  · intro hnone
    obtain ⟨rfl, -⟩ | ⟨host, rfl, h⟩ := hoverride
    · rfl
    · obtain ⟨hkeep, hsubdomains, hdiffer⟩ := remoteOverride_yes h
      have htarget : service.resolvedTarget = none := by
        by_contra hsome
        obtain ⟨target, htarget⟩ := Option.ne_none_iff_exists'.mp hsome
        exact hdiffer (hpeeked target htarget)
      obtain ⟨hreq, hsame | ⟨sub, rfl⟩⟩ := hunpeeked htarget
      · exact absurd hsame hdiffer
      · rw [remoteOverride_subdomain hkeep hsubdomains] at h
        cases h
        rw [Option.filter_some, if_neg]
        intro hreadable
        exact hnone sub ⟨htarget, hkeep, ⟨hsubdomains, hreq⟩, hreadable⟩

theorem passedHost_eq_text {backend : Backend} {host : String} :
    passedHost backend req = .text host ↔ Carries backend req host := by
  unfold passedHost Carries
  cases req.hostHeader with
  | absent => simp
  | unreadable => simp
  | text value => simp

theorem passedHost_eq_original {backend : Backend} :
    passedHost backend req = req.originalHost ↔
      (req.hostHeader = .absent → req.authority = some (Backend.authorityText backend)) := by
  unfold passedHost IncomingRequest.originalHost
  cases req.hostHeader with
  | absent =>
    cases req.authority with
    | none => simp
    | some authority => simp [eq_comm]
  | unreadable => simp
  | text value => simp

/-- Without a header a client takes the address, with the port where it is not the usual one. -/
theorem passedHost_backend {backend : Backend} :
    (passedHost backend req = .text backend.address ∨
        passedHost backend req = .text s!"{backend.address}:{portText backend.port}") ↔
      req.hostHeader = .absent ∨ req.hostHeader = .text backend.address ∨
        req.hostHeader = .text s!"{backend.address}:{portText backend.port}" := by
  unfold passedHost
  cases req.hostHeader with
  | absent =>
    unfold Backend.authorityText
    dsimp only
    split_ifs <;> simp
  | unreadable => simp
  | text value => simp

/-- The backend is asked for the host of the rule exactly where what goes out anyway is that
host. -/
theorem hostRule_iff (hnamed : Named service.resolvedTarget app.global.dockerContainers)
    (hforward : service.forwardHttp network counts app req = some outgoing)
    (hremote : outgoing.remote = some site)
    (hreads : network.http.Reads outgoing.backend req) :
    HostRule site outgoing.backend req outgoing.receivedHost ↔
      HostAgrees network.http service.resolvedTarget site outgoing.backend req := by
  obtain ⟨hpass, hunpassed⟩ := receivedHost_eq hnamed hforward hremote hreads
  constructor
  · intro hrule
    constructor
    · intro hkeeps hnone
      have hkept := hrule.kept hkeeps
      rw [hunpassed hnone] at hkept
      exact passedHost_eq_original.mp hkept
    · intro hkeeps sub hpasses
      rw [← hrule.kept hkeeps]
      exact hpass sub hpasses
    · intro hkeeps sub hpasses
      have hsub := hrule.subdomain hkeeps sub hpasses.subdomain
      rw [hpass sub hpasses, HostHeader.text.injEq] at hsub
      rw [String.append_assoc, String.append_assoc] at hsub
      exact (String.append_left_inj _).mp hsub
    · intro hkeeps sub hsubdomain hnot
      have hnone := hsubdomain.none_passed hnot
      have hsub := hrule.subdomain hkeeps sub hsubdomain
      rw [hunpassed hnone] at hsub
      exact passedHost_eq_text.mp hsub
    · intro hkeeps hnone
      have hbackend := hrule.backend hkeeps hnone
      rw [hunpassed fun sub hpasses => hnone sub hpasses.subdomain] at hbackend
      exact passedHost_backend.mp hbackend
  · intro hagrees
    constructor
    · intro hkeeps
      by_cases hpasses : ∃ sub,
          PassesOn network.http service.resolvedTarget req site outgoing.backend sub
      · obtain ⟨sub, hpasses⟩ := hpasses
        rw [hpass sub hpasses]
        exact (hagrees.replaced hkeeps sub hpasses).symm
      · have hnone := not_exists.mp hpasses
        rw [hunpassed hnone]
        exact passedHost_eq_original.mpr (hagrees.kept hkeeps hnone)
    · intro hkeeps sub hsubdomain
      by_cases hpasses : PassesOn network.http service.resolvedTarget req site outgoing.backend sub
      · rw [hpass sub hpasses, hagrees.passed hkeeps sub hpasses]
      · rw [hunpassed (hsubdomain.none_passed hpasses)]
        exact passedHost_eq_text.mpr (hagrees.unpassed hkeeps sub hsubdomain hpasses)
    · intro hkeeps hnone
      rw [hunpassed fun sub hpasses => hnone sub hpasses.subdomain]
      exact passedHost_backend.mpr (hagrees.backend hkeeps hnone)

end

/-! ## A backend that is asked for another host -/

def otherMachine : Backend where
  address := "backend.test"
  port := 8080
  https := none
  hints := none

/-- A site with one backend on another machine. -/
def elsewhere (keepOriginalHostHeader : Option Bool) : RemoteSiteConfig :=
  { plainRemote "site.test" none with
    backends := [otherMachine]
    keepOriginalHostHeader := keepOriginalHostHeader }

/-- What goes out for a request for the site. -/
def sentElsewhere (keepOriginalHostHeader : Option Bool) : Outgoing where
  site := .remoteTarget (elsewhere keepOriginalHostHeader)
  backend := otherMachine
  uri := ⟨"http", "backend.test", some 8080⟩
  hostHeader := .text "site.test"
  h2Only := false

theorem forwardHttp_elsewhere (keepOriginalHostHeader : Option Bool) :
    (unpeekedService (withRemotes [elsewhere keepOriginalHostHeader]) true).forwardHttp
        (networkOn 0) (fun _ => none) (freshApp (withRemotes [elsewhere keepOriginalHostHeader]))
        (rootRequest (.text "site.test") false) =
      some (sentElsewhere keepOriginalHostHeader) := by
  cases keepOriginalHostHeader with
  | none => decide +kernel
  | some keep => cases keep <;> decide +kernel

theorem reads_otherMachine :
    (networkOn 0).http.Reads otherMachine (rootRequest (.text "site.test") false) := by
  unfold HttpCrate.Reads
  decide +kernel

/-- The header that is kept is the one that the client has sent. -/
theorem keptHost_rule :
    HostRule (elsewhere (some true)) otherMachine (rootRequest (.text "site.test") false)
      (sentElsewhere (some true)).receivedHost := by
  apply (hostRule_iff (.of_none (by rintro container ⟨⟩)) (forwardHttp_elsewhere (some true)) rfl
    reads_otherMachine).mpr
  constructor
  · intro _ _ habsent
    contradiction
  · intro _ sub hpasses
    exact absurd hpasses.rewritten (by decide)
  · intro hkeeps
    contradiction
  · intro hkeeps
    contradiction
  · intro hkeeps
    contradiction

/-- The header that is not to be kept is the one that the client has sent too. -/
theorem passedHost_notRule :
    (unpeekedService (withRemotes [elsewhere none]) true).forwardHttp (networkOn 0)
        (fun _ => none) (freshApp (withRemotes [elsewhere none]))
        (rootRequest (.text "site.test") false) = some (sentElsewhere none) ∧
      (sentElsewhere none).receivedHost = .text "site.test" ∧
      ¬HostRule (elsewhere none) otherMachine (rootRequest (.text "site.test") false)
        (sentElsewhere none).receivedHost := by
  refine ⟨forwardHttp_elsewhere none, rfl, ?_⟩
  intro hrule
  have hnone : ∀ sub,
      ¬IsSubdomain (rootRequest (.text "site.test") false) (elsewhere none) sub := by
    rintro sub ⟨hsubdomains, -⟩
    contradiction
  have hbackend := hrule.backend rfl hnone
  revert hbackend
  decide

end OddBox.Proxy

import OddBox.Proxy.RedirectEnforcement

/-!
The terms on which a connection is tunnelled, whatever kind of target has been found for it.
Hosted and remote targets have them checked by ladders of their own.
-/

namespace OddBox.Proxy

open OddBox.Configuration OddBox.Routing OddBox.Str OddBox.TcpProxy

/-! ## The terms -/

/-- What the configuration of a site says for itself; directories say nothing. -/
def Site.setting (ofProcess : InProcessSiteConfig → Option Bool)
    (ofRemote : RemoteSiteConfig → Option Bool) : Site → Option Bool
  | .hostedProcess process => ofProcess process
  | .remoteTarget remote => ofRemote remote
  | .docker _ remote => ofRemote remote
  | .dirServer _ => none

/-- A remote target, or what a container is taken for. -/
def Site.remoteConfig : Site → Option RemoteSiteConfig
  | .remoteTarget remote => some remote
  | .docker _ remote => some remote
  | _ => none

/-- The backends a connection for the site can get. -/
def Site.allBackends (localAddr : String) : Site → List Backend
  | .hostedProcess process => [process.backend localAddr]
  | .remoteTarget remote => remote.backends
  | .docker _ remote => remote.backends
  | .dirServer _ => []

/-- Some backend can go on with what the client speaks. -/
structure Continues (backends : List Backend) (result : PeekResult) : Prop where
  http2 : result.httpVersion = some .http2 → ∃ backend ∈ backends,
    Hint.h2 ∈ backend.hintList ∨
      result.typ ≠ .tls ∧ result.isH2cUpgrade = false ∧ Hint.h2cpk ∈ backend.hintList
  h2cUpgrade : result.httpVersion ≠ some .http2 → result.isH2cUpgrade = true →
    ∃ backend ∈ backends, Hint.h2c ∈ backend.hintList

/-- Nothing about the site needs the proxy to read the requests. -/
structure TunnelTerms (localAddr : String) (site : Site) (result : PeekResult) : Prop where
  isSite : site.kind ≠ .dirServer
  terminateHttp : Site.setting (·.terminateHttp) (·.terminateHttp) site ≠ some true
  letsEncrypt : Site.setting (·.enableLetsEncrypt) (·.enableLetsEncrypt) site ≠ some true
  redirect : result.typ = .tls ∨
    Site.setting (·.redirectToHttps) (·.redirectToHttps) site ≠ some true
  hostHeader : ∀ config, Site.remoteConfig site = some config →
    config.keepOriginalHostHeader = some true ∨
      ∀ backend ∈ config.backends,
        backend.address = "127.0.0.1" ∨ backend.address = "localhost"
  continues : Continues (Site.allBackends localAddr site) result

/-! ## The ladders -/

section

variable {result : PeekResult} {localAddr : String}

theorem getD_false_eq_false {setting : Option Bool} :
    setting.getD false = false ↔ setting ≠ some true := by
  cases setting with
  | none => simp
  | some value => cases value <;> simp

/-- A connection that a ladder does not redirect. -/
theorem tls_or_unset {setting : Option Bool}
    (h : ¬(result.typ ≠ .tls ∧ setting.getD false = true)) :
    result.typ = .tls ∨ setting ≠ some true := by
  rcases Classical.em (result.typ = .tls) with htls | hclear
  · exact .inl htls
  · right
    apply getD_false_eq_false.mp
    exact Bool.eq_false_of_not_eq_true fun hset => h ⟨hclear, hset⟩

/-- The hints of all backends are searched as one list. -/
theorem continues_of_hintAdmission {backends : List Backend} {reason : FallbackReason}
    (h : hintAdmission (backends.flatMap Backend.hintList) result reason = none) :
    Continues backends result := by
  unfold hintAdmission at h
  constructor
  · intro hhttp2
    rw [if_pos hhttp2] at h
    split at h
    · next hany =>
      obtain ⟨hint, hmem, hhint⟩ := List.any_eq_true.mp hany
      obtain ⟨backend, hbackend, hlisted⟩ := List.mem_flatMap.mp hmem
      refine ⟨backend, hbackend, ?_⟩
      rcases Bool.or_eq_true _ _ ▸ hhint with hh2 | hclear
      · rw [beq_iff_eq] at hh2
        exact .inl (hh2 ▸ hlisted)
      · simp only [Bool.and_eq_true, Bool.not_eq_true', decide_eq_false_iff_not,
          beq_iff_eq] at hclear
        obtain ⟨⟨htls, hupgrade⟩, hpriorKnowledge⟩ := hclear
        exact .inr ⟨htls, hupgrade, hpriorKnowledge ▸ hlisted⟩
    · contradiction
  · intro hother hupgrade
    rw [if_neg hother, if_pos hupgrade] at h
    split at h
    · next hany =>
      obtain ⟨hint, hmem, hhint⟩ := List.any_eq_true.mp hany
      rw [beq_iff_eq] at hhint
      exact List.mem_flatMap.mp (hhint ▸ hmem)
    · contradiction

theorem terms_of_hostedAdmission {process : InProcessSiteConfig}
    (h : hostedAdmission process result = none) :
    TunnelTerms localAddr (.hostedProcess process) result := by
  unfold hostedAdmission at h
  split_ifs at h with hredirect hterminate hletsEncrypt
  exact {
    isSite := by rintro ⟨⟩
    terminateHttp := getD_false_eq_false.mp (Bool.eq_false_of_not_eq_true hterminate)
    letsEncrypt := getD_false_eq_false.mp (Bool.eq_false_of_not_eq_true hletsEncrypt)
    redirect := tls_or_unset hredirect
    hostHeader := by rintro config ⟨⟩
    continues := by
      apply continues_of_hintAdmission
      rw [Site.allBackends, List.flatMap_singleton]
      exact h }

theorem isLocal_iff {backend : Backend} :
    isLocal backend = true ↔
      backend.address = "127.0.0.1" ∨ backend.address = "localhost" := by
  simp [isLocal]

/-- The ladder of remote targets, for the site that the configuration stands for. -/
theorem terms_of_remoteAdmission {remote : RemoteSiteConfig} {site : Site}
    (hsite : site = .remoteTarget remote ∨ ∃ name, site = .docker name remote)
    (h : remoteAdmission remote result = none) : TunnelTerms localAddr site result := by
  have hsetting (ofProcess : InProcessSiteConfig → Option Bool)
      (ofRemote : RemoteSiteConfig → Option Bool) :
      Site.setting ofProcess ofRemote site = ofRemote remote := by
    rcases hsite with rfl | ⟨name, rfl⟩ <;> rfl
  have hbackends : Site.allBackends localAddr site = remote.backends := by
    rcases hsite with rfl | ⟨name, rfl⟩ <;> rfl
  have hconfig : Site.remoteConfig site = some remote := by
    rcases hsite with rfl | ⟨name, rfl⟩ <;> rfl
  unfold remoteAdmission at h
  split_ifs at h with hredirect hterminate hletsEncrypt hrewrite
  exact {
    isSite := by rcases hsite with rfl | ⟨name, rfl⟩ <;> rintro ⟨⟩
    terminateHttp := by
      rw [hsetting]
      exact getD_false_eq_false.mp (Bool.eq_false_of_not_eq_true hterminate)
    letsEncrypt := by
      rw [hsetting]
      exact getD_false_eq_false.mp (Bool.eq_false_of_not_eq_true hletsEncrypt)
    redirect := by
      rw [hsetting]
      exact tls_or_unset hredirect
    hostHeader := by
      rw [hconfig]
      rintro config ⟨⟩
      rcases Classical.em (remote.keepOriginalHostHeader = some true) with hkept | hkept
      · exact .inl hkept
      · right
        rw [getD_false_eq_false.mpr hkept] at hrewrite
        intro backend hbackend
        apply isLocal_iff.mp
        have hall : remote.backends.all isLocal = true := by simpa using hrewrite
        exact List.all_eq_true.mp hall backend hbackend
    continues := by
      rw [hbackends]
      exact continues_of_hintAdmission h }

end

/-! ## The targets -/

section

variable {mapping : CaseMapping} {state : GlobalState} {host : String}
  {target : ReverseTcpProxyTarget} {result : PeekResult}

/-- No directory is ever found for a connection. -/
theorem kind_of_resolves (h : state.Resolves mapping host target) :
    target.site.kind ≠ .dirServer := by
  cases h with
  | cached hhit =>
    rw [kind_of_cachedTarget hhit]
    rintro ⟨⟩
  | remote _ _ _ _ => rintro ⟨⟩
  | process _ _ _ _ => rintro ⟨⟩
  | container _ _ _ _ => rintro ⟨⟩

theorem terms_of_admission {localAddr : String} (hflagged : Flagged target)
    (hkind : target.site.kind ≠ .dirServer) (h : admission target result = none) :
    TunnelTerms localAddr target.site result := by
  unfold admission at h
  cases hsite : target.site with
  | dirServer dir =>
    rw [hsite] at hkind
    exact absurd rfl hkind
  | hostedProcess process =>
    have hhosted : target.isHosted = true := hflagged.mpr (by rw [hsite]; rfl)
    rw [hsite, hhosted] at h
    exact terms_of_hostedAdmission h
  | remoteTarget remote =>
    have hkind : target.site.kind ≠ .hostedProcess := by rw [hsite]; rintro ⟨⟩
    rw [hsite, hflagged.isHosted_eq_false hkind] at h
    exact terms_of_remoteAdmission (.inl rfl) h
  | docker name remote =>
    have hkind : target.site.kind ≠ .hostedProcess := by rw [hsite]; rintro ⟨⟩
    rw [hsite, hflagged.isHosted_eq_false hkind] at h
    exact terms_of_remoteAdmission (.inr ⟨name, rfl⟩) h

/-- **Admission to the tunnel**: in every state that a run of the cache leads to, whatever was
peeked, a connection that is tunnelled meets the terms of its target. -/
theorem tunnel_terms (mapping : CaseMapping) (siteStatusMap : String → Option ProcState)
    (rustlsConfig : Bool) (initial : GlobalState) (events : List CacheEvent)
    (hempty : initial.reverseTcpProxyTargetCache = fun _ => none) (peeked : PeekOutcome)
    (target : ReverseTcpProxyTarget) (incoming : Incoming)
    (htunnel : (handleNewTcpStream mapping siteStatusMap rustlsConfig
      (Machine.run (GlobalState.cacheStep mapping) initial events) peeked).1 =
        .tunnel target incoming) :
    ∃ result, peeked = .ok result ∧
      ∀ localAddr, TunnelTerms localAddr target.site result := by
  have hcache : CacheFlagged (Machine.run (GlobalState.cacheStep mapping) initial events) :=
    cacheFlagged_run hempty events
  obtain ⟨host, hresolves⟩ := tunnel_resolves htunnel
  obtain ⟨result, hresult, hadmission⟩ := tunnel_admitted htunnel
  refine ⟨result, hresult, fun localAddr => ?_⟩
  exact terms_of_admission (.of_resolves hcache hresolves) (kind_of_resolves hresolves) hadmission

end

/-! ## A tunnelled connection -/

/-- A site on this machine that is spoken to over HTTP/2 without TLS. -/
def priorKnowledge : RemoteSiteConfig :=
  { plainRemote "site.test" none with
    backends := [{
      address := "127.0.0.1"
      port := 8080
      https := none
      hints := some [.h2cpk] }] }

/-- What is peeked of an HTTP/2 request without TLS. -/
def clearHttp2 : PeekResult where
  typ := .clearText
  httpVersion := some .http2
  targetHost := some "site.test"
  isH2cUpgrade := false
  sni := none
  hostHeader := none

theorem priorKnowledge_tunnelled :
    (handleNewTcpStream asciiOnly (fun _ => none) false
        (freshState (withRemotes [priorKnowledge])) (.ok clearHttp2)).1 =
        .tunnel (remoteTarget priorKnowledge none) (clearHttp2.incoming "site.test") ∧
      ∃ result, PeekOutcome.ok clearHttp2 = .ok result ∧
        ∀ localAddr, TunnelTerms localAddr (.remoteTarget priorKnowledge) result := by
  have htunnel : (handleNewTcpStream asciiOnly (fun _ => none) false
      (freshState (withRemotes [priorKnowledge])) (.ok clearHttp2)).1 =
      .tunnel (remoteTarget priorKnowledge none) (clearHttp2.incoming "site.test") := by
    decide +kernel
  exact ⟨htunnel, tunnel_terms asciiOnly (fun _ => none) false
    (freshState (withRemotes [priorKnowledge])) [] rfl _ _ _ htunnel⟩

end OddBox.Proxy

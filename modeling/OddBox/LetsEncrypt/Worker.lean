import OddBox.Certs.Independence
import OddBox.Configuration.Validity
import OddBox.LetsEncrypt.CleanUp
import OddBox.Machine
import OddBox.Routing.HostNames

/-!
The worker that orders certificates for the sites, round after round, while the resolver
answers TLS clients from what it has got and the proxy answers the challenges of Let's Encrypt.
The orders of a round are made one after the other.
-/

namespace OddBox.LetsEncrypt

open OddBox.Certs OddBox.Configuration

/-! ## The domains of a round -/

section

variable (config : OddBoxV3Config)

/-- The host names of the sites that Let's Encrypt is enabled for, and the URL of odd-box. -/
def enabledHostNames : List String :=
  (config.remoteTargets.filter (·.enableLetsEncrypt.getD false)).map RemoteSiteConfig.hostName ++
    (config.sites.filter (·.enableLetsEncrypt.getD false)).map InProcessSiteConfig.hostName ++
    (config.dirServers.filter (·.enableLetsEncrypt.getD false)).map DirServer.hostName ++
    config.oddBoxUrl.toList

def endsWith (text suffix : String) : Bool := suffix.toList.isSuffixOf text.toList

def isLocal (name : String) : Bool :=
  endsWith name ".localtest.me" || endsWith name ".localhost" || name == "localhost"

/-- The elements of a list after one that came before it. -/
def dedupAfter (previous : String) : List String → List String
  | [] => []
  | name :: names =>
    if name = previous then dedupAfter previous names else name :: dedupAfter name names

/-- `Vec::dedup`. -/
def dedup : List String → List String
  | [] => []
  | name :: names => name :: dedupAfter name names

def allSitesWithLetsEncryptEnabled : List String :=
  dedup (((enabledHostNames config).filter (!isLocal ·)).mergeSort fun a b => decide (a ≤ b))

end

/-! ## The worker -/

variable {libs : CertLibraries} {acme : AcmeLibraries}

structure LetsEncryptWorker (libs : CertLibraries) where
  challenges : Challenges
  resolver : DynamicCertResolver libs
  /-- The task is gone. -/
  panicked : Bool

inductive WorkerOp (acme : AcmeLibraries) where
  /-- The turn of a round for a domain, with the account and the configuration that the round
  has read. -/
  | attempt (mail : Option String) (config : OddBoxV3Config) (outcomes : Outcomes acme)
    (now : Int) (domain : String)
  /-- A TLS client asks for a certificate. -/
  | resolve (files : Files) (now : Int) (serverName : Option String)

namespace LetsEncryptWorker

def new (enableLetsEncrypt : Bool) : LetsEncryptWorker libs where
  challenges := ⟨fun _ => none, fun _ => none⟩
  resolver := ⟨enableLetsEncrypt, fun _ => none, fun _ => none⟩
  panicked := false

/-- The turn comes to an order. -/
def Serves (mail : Option String) (config : OddBoxV3Config) (domain : String) : Prop :=
  mail.isSome = true ∧ domain ∈ allSitesWithLetsEncryptEnabled config

instance (mail : Option String) (config : OddBoxV3Config) (domain : String) :
    Decidable (Serves mail config domain) :=
  inferInstanceAs (Decidable (_ ∧ _))

variable (manager : LECertManager acme)

/-- A domain without a certificate in memory. -/
def order (self : LetsEncryptWorker libs) (outcomes : Outcomes acme) (domain : String) :
    LetsEncryptWorker libs :=
  match run (manager.getOrCreateCert libs outcomes domain) self.challenges with
  | (.ok cert, challenges) =>
    { self with
      challenges := challenges
      resolver := self.resolver.addLetsEncryptSignedCertToMemCache domain cert }
  | (.error (.error _), challenges) => { self with challenges := challenges }
  | (.error .panic, challenges) => { self with challenges := challenges, panicked := true }

def step (self : LetsEncryptWorker libs) : WorkerOp acme → LetsEncryptWorker libs
  | .attempt mail config outcomes now domain =>
    if self.panicked = false ∧ Serves mail config domain then
      match self.resolver.getLetsEncryptSignedCertFromMemCache now domain with
      | (some _, resolver) => { self with resolver := resolver }
      | (none, resolver) => { self with resolver := resolver }.order manager outcomes domain
    else self
  | .resolve files now serverName =>
    { self with resolver := (self.resolver.resolve files now serverName).2.1 }

end LetsEncryptWorker

/-- What `ReverseProxyService` answers to a request for a challenge; the host is the header
`host`. The path plays no part. -/
def challengeResponse (challenges : Challenges) (host : String) : String :=
  match challenges.domainToChallengeTokenMap (Routing.stripPort host) with
  | some challengeToken =>
    match challenges.challengeMap challengeToken with
    | some response => response
    | none => "nothing here 1"
  | none => "nothing here 2"

/-! ## The domains -/

theorem mem_dedupAfter {previous name : String} {names : List String} :
    name ∈ previous :: dedupAfter previous names ↔ name ∈ previous :: names := by
  induction names generalizing previous with
  | nil => rfl
  | cons first names ih =>
    rw [dedupAfter]
    split
    · rename_i hsame
      rw [ih, hsame]
      simp
    · rw [List.mem_cons, ih]
      exact List.mem_cons.symm

theorem mem_dedup {name : String} {names : List String} : name ∈ dedup names ↔ name ∈ names := by
  cases names with
  | nil => rfl
  | cons first names => exact mem_dedupAfter

theorem mem_allSites_iff {config : OddBoxV3Config} {domain : String} :
    domain ∈ allSitesWithLetsEncryptEnabled config ↔
      domain ∈ enabledHostNames config ∧ isLocal domain = false := by
  rw [allSitesWithLetsEncryptEnabled, mem_dedup, List.mem_mergeSort, List.mem_filter,
    Bool.not_eq_true']

/-! ## What a step does to the resolver -/

section

variable {resolver : DynamicCertResolver libs}

theorem getFromCache_fst {cache : String → Option (CertifiedKey libs)} {now : Int}
    {domain : String} {cert : CertifiedKey libs}
    (h : (resolver.getFromCache cache now domain).1 = some cert) : cache domain = some cert := by
  rcases getFromCache_cases resolver cache now domain with
      ⟨found, hget, hcache, -⟩ | ⟨-, after, hget, -⟩
  · rw [hget] at h
    rw [hcache, ← h]
  · rw [hget] at h
    cases h

/-- A lookup adds nothing. -/
theorem getFromCache_letsEncrypt {cache : String → Option (CertifiedKey libs)} {now : Int}
    {domain name : String} {cert : CertifiedKey libs}
    (h : (resolver.getFromCache cache now domain).2.letsEncryptSignedCerts name = some cert) :
    resolver.letsEncryptSignedCerts name = some cert := by
  unfold DynamicCertResolver.getFromCache at h
  split at h
  · split at h
    · exact h
    · by_cases hname : name = domain
      · rw [hname, DynamicCertResolver.purge] at h
        dsimp only at h
        rw [Function.update_self] at h
        cases h
      · rw [DynamicCertResolver.purge] at h
        dsimp only at h
        rw [Function.update_of_ne hname] at h
        exact h
  · exact h

theorem resolveFromFiles_caches (files : Files) (now : Int) (serverName : String) :
    (resolver.resolveFromFiles files now serverName).2.1.letsEncryptSignedCerts =
        resolver.letsEncryptSignedCerts ∧
      ∀ name cert,
        (resolver.resolveFromFiles files now serverName).2.1.selfSignedCertCache name =
          some cert →
        resolver.selfSignedCertCache name = some cert ∨
          name = serverName ∧
            (resolver.resolveFromFiles files now serverName).1 = some cert := by
  unfold DynamicCertResolver.resolveFromFiles
  split
  · split
    · exact ⟨rfl, fun name cert h => .inl h⟩
    · split
      · exact ⟨rfl, fun name cert h => .inl h⟩
      · exact ⟨rfl, fun name cert h => .inl h⟩
      · split
        · exact ⟨rfl, fun name cert h => .inl h⟩
        · split
          · refine ⟨rfl, ?_⟩
            intro name cert h
            by_cases hname : name = serverName
            · rw [hname] at h
              dsimp only at h
              rw [Function.update_self] at h
              exact .inr ⟨hname, h⟩
            · dsimp only at h
              rw [Function.update_of_ne hname] at h
              exact .inl h
          · exact ⟨rfl, fun name cert h => .inl h⟩
  · exact ⟨rfl, fun name cert h => .inl h⟩

/-- Where the certificates of a resolution come from: the one that is returned, those of Let's
Encrypt that are kept after it, and the other ones. -/
structure Resolved (resolver after : DynamicCertResolver libs) (files : Files) (now : Int)
    (host : String) (found : Option (CertifiedKey libs)) : Prop where
  found : ∀ cert, found = some cert → resolver.letsEncryptSignedCerts host = some cert ∨
    resolver.selfSignedCertCache host = some cert ∨
    (resolver.resolveFromFiles files now host).1 = some cert
  letsEncrypt : ∀ name cert, after.letsEncryptSignedCerts name = some cert →
    resolver.letsEncryptSignedCerts name = some cert
  selfSigned : ∀ name cert, after.selfSignedCertCache name = some cert →
    resolver.selfSignedCertCache name = some cert ∨
      name = host ∧ (resolver.resolveFromFiles files now host).1 = some cert

/-- The part of a resolution after the Let's Encrypt certificates. -/
def resolveSelfSigned (resolver : DynamicCertResolver libs) (files : Files) (now : Int)
    (host : String) : Option (CertifiedKey libs) × DynamicCertResolver libs × Files :=
  match resolver.getSelfSignedCertFromCache now host with
  | (some certifiedKey, resolver) => (some certifiedKey, resolver, files)
  | (none, resolver) => resolver.resolveFromFiles files now host

theorem resolved_selfSigned (files : Files) (now : Int) (host : String) :
    Resolved resolver (resolveSelfSigned resolver files now host).2.1 files now host
      (resolveSelfSigned resolver files now host).1 := by
  unfold resolveSelfSigned
  have hfst := @getFromCache_fst libs resolver resolver.selfSignedCertCache now host
  have hcerts := @getFromCache_letsEncrypt libs resolver resolver.selfSignedCertCache now host
  have hself : (resolver.getSelfSignedCertFromCache now host).2.selfSignedCertCache =
      resolver.selfSignedCertCache := resolver.getFromCache_selfSigned
  unfold DynamicCertResolver.getSelfSignedCertFromCache at hself ⊢
  rcases hget : resolver.getFromCache resolver.selfSignedCertCache now host with ⟨found, after⟩
  rw [hget] at hfst hcerts hself
  cases found with
  | some cert =>
    refine ⟨?_, fun name other h => hcerts h, ?_⟩
    · rintro _ ⟨⟩
      exact .inr (.inl (hfst rfl))
    · intro name other h
      dsimp only at h hself
      rw [hself] at h
      exact .inl h
  | none =>
    obtain ⟨hkept, hadded⟩ := @resolveFromFiles_caches libs after files now host
    dsimp only at hself
    refine ⟨?_, ?_, ?_⟩
    · intro cert h
      refine .inr (.inr ?_)
      rw [resolveFromFiles_fst resolver after]
      exact h
    · intro name cert h
      dsimp only at h
      rw [hkept] at h
      exact hcerts h
    · intro name cert h
      rw [resolveFromFiles_fst resolver after, ← hself]
      exact hadded name cert h

/-- What follows a lookup of a Let's Encrypt certificate that finds none. -/
theorem Resolved.of_after {after last : DynamicCertResolver libs} {files : Files} {now : Int}
    {host : String} {found : Option (CertifiedKey libs)}
    (hself : after.selfSignedCertCache = resolver.selfSignedCertCache)
    (hcerts : ∀ name cert, after.letsEncryptSignedCerts name = some cert →
      resolver.letsEncryptSignedCerts name = some cert)
    (h : Resolved after last files now host found) :
    Resolved resolver last files now host found := by
  refine ⟨?_, fun name cert hcert => hcerts name cert (h.letsEncrypt name cert hcert), ?_⟩
  · intro cert hfound
    rw [resolveFromFiles_fst resolver after, ← hself]
    exact (h.found cert hfound).imp_left (hcerts host cert)
  · intro name cert hcert
    rw [resolveFromFiles_fst resolver after, ← hself]
    exact h.selfSigned name cert hcert

theorem resolve_eq (files : Files) (now : Int) (serverName : String) :
    resolver.resolve files now (some serverName) =
      match (if resolver.asksLetsEncrypt (DynamicCertResolver.hostOf serverName) then
          resolver.getLetsEncryptSignedCertFromMemCache now
            (DynamicCertResolver.hostOf serverName)
        else (none, resolver)) with
      | (some certifiedKey, resolver) => (some certifiedKey, resolver, files)
      | (none, resolver) =>
        resolveSelfSigned resolver files now (DynamicCertResolver.hostOf serverName) := by
  unfold DynamicCertResolver.resolve
  dsimp only
  generalize (if resolver.asksLetsEncrypt (DynamicCertResolver.hostOf serverName) then
    resolver.getLetsEncryptSignedCertFromMemCache now (DynamicCertResolver.hostOf serverName)
    else (none, resolver)) = lookup
  obtain ⟨found, after⟩ := lookup
  cases found with
  | some cert => rfl
  | none => rfl

theorem resolved (files : Files) (now : Int) (serverName : String) :
    Resolved resolver (resolver.resolve files now (some serverName)).2.1 files now
      (DynamicCertResolver.hostOf serverName)
      (resolver.resolve files now (some serverName)).1 := by
  rw [resolve_eq]
  generalize DynamicCertResolver.hostOf serverName = host
  by_cases hasks : resolver.asksLetsEncrypt host = true
  · rw [if_pos hasks, DynamicCertResolver.getLetsEncryptSignedCertFromMemCache]
    have hfst := @getFromCache_fst libs resolver resolver.letsEncryptSignedCerts now host
    have hcerts := @getFromCache_letsEncrypt libs resolver resolver.letsEncryptSignedCerts now
      host
    have hself : (resolver.getFromCache resolver.letsEncryptSignedCerts now
        host).2.selfSignedCertCache = resolver.selfSignedCertCache :=
      resolver.getFromCache_selfSigned
    rcases hget : resolver.getFromCache resolver.letsEncryptSignedCerts now host with
      ⟨found, after⟩
    rw [hget] at hfst hcerts hself
    cases found with
    | some cert =>
      refine ⟨?_, fun name other h => hcerts h, ?_⟩
      · rintro _ ⟨⟩
        exact .inl (hfst rfl)
      · intro name other h
        dsimp only at h hself
        rw [hself] at h
        exact .inl h
    | none =>
      exact (resolved_selfSigned files now host).of_after hself (fun name cert h => hcerts h)
  · rw [if_neg hasks]
    exact resolved_selfSigned files now host

end

/-! ## Certificates -/

namespace LetsEncryptWorker

/-- What is said of every certificate that is kept for a name. -/
structure Owned (ordered stored : String → CertifiedKey libs → Prop)
    (worker : LetsEncryptWorker libs) : Prop where
  letsEncrypt : ∀ name cert, worker.resolver.letsEncryptSignedCerts name = some cert →
    ordered name cert
  selfSigned : ∀ name cert, worker.resolver.selfSignedCertCache name = some cert →
    stored name cert

/-- It is true of every certificate that the step can get for a name. -/
def Grants (manager : LECertManager acme) (ordered stored : String → CertifiedKey libs → Prop) :
    WorkerOp acme → Prop
  | .attempt mail config outcomes _ domain => Serves mail config domain → ∀ challenges cert,
      (run (manager.getOrCreateCert libs outcomes domain) challenges).1 = .ok cert →
        ordered domain cert
  | .resolve files now serverName => ∀ name, serverName = some name →
      ∀ (resolver : DynamicCertResolver libs) cert,
        (resolver.resolveFromFiles files now (DynamicCertResolver.hostOf name)).1 = some cert →
          stored (DynamicCertResolver.hostOf name) cert

section

variable {manager : LECertManager acme} {ordered stored : String → CertifiedKey libs → Prop}
  {self : LetsEncryptWorker libs}

theorem Owned.order (h : self.Owned ordered stored) {outcomes : Outcomes acme} {domain : String}
    (hgrants : ∀ cert, (run (manager.getOrCreateCert libs outcomes domain)
      self.challenges).1 = .ok cert → ordered domain cert) :
    (self.order manager outcomes domain).Owned ordered stored := by
  unfold LetsEncryptWorker.order
  split
  · rename_i cert challenges hrun
    refine ⟨?_, h.selfSigned⟩
    intro name other hother
    rw [DynamicCertResolver.addLetsEncryptSignedCertToMemCache] at hother
    dsimp only at hother
    by_cases hname : name = domain
    · rw [hname, Function.update_self, Option.some_inj] at hother
      rw [hname, ← hother]
      apply hgrants
      rw [hrun]
    · rw [Function.update_of_ne hname] at hother
      exact h.letsEncrypt name other hother
  · exact ⟨h.letsEncrypt, h.selfSigned⟩
  · exact ⟨h.letsEncrypt, h.selfSigned⟩

theorem Owned.step (h : self.Owned ordered stored) {op : WorkerOp acme}
    (hgrants : Grants manager ordered stored op) :
    (self.step manager op).Owned ordered stored := by
  cases op with
  | resolve files now serverName =>
    cases serverName with
    | none => exact h
    | some name =>
      have hresolved := @resolved libs self.resolver files now name
      refine ⟨?_, ?_⟩
      · intro other cert hcert
        exact h.letsEncrypt other cert (hresolved.letsEncrypt other cert hcert)
      · intro other cert hcert
        rcases hresolved.selfSigned other cert hcert with hbefore | ⟨rfl, hfiles⟩
        · exact h.selfSigned other cert hbefore
        · exact hgrants name rfl self.resolver cert hfiles
  | attempt mail config outcomes now domain =>
    rw [LetsEncryptWorker.step]
    split
    · rename_i hserves
      have hlooked : ∀ after,
          (self.resolver.getLetsEncryptSignedCertFromMemCache now domain).2 = after →
          ({ self with resolver := after } : LetsEncryptWorker libs).Owned ordered stored := by
        rintro after rfl
        refine ⟨?_, ?_⟩
        · intro name cert hcert
          exact h.letsEncrypt name cert (getFromCache_letsEncrypt hcert)
        · intro name cert hcert
          have hsame : (self.resolver.getLetsEncryptSignedCertFromMemCache now
              domain).2.selfSignedCertCache = self.resolver.selfSignedCertCache :=
            self.resolver.getFromCache_selfSigned
          dsimp only at hcert
          rw [hsame] at hcert
          exact h.selfSigned name cert hcert
      split
      · rename_i cert after hget
        exact hlooked after (by rw [hget])
      · rename_i after hget
        exact (hlooked after (by rw [hget])).order (fun cert => hgrants hserves.2 _ cert)
    · exact h

end

/-- A certificate was obtained in an order for the name, in the turn of a round that has an
account and whose configuration enables Let's Encrypt for it; the name is not a local one. -/
def Ordered (manager : LECertManager acme) (ops : List (WorkerOp acme)) (name : String)
    (cert : CertifiedKey libs) : Prop :=
  ∃ mail config outcomes now challenges, .attempt mail config outcomes now name ∈ ops ∧
    mail.isSome = true ∧ name ∈ enabledHostNames config ∧ isLocal name = false ∧
    (run (manager.getOrCreateCert libs outcomes name) challenges).1 = .ok cert

/-- A certificate was read from the files of the name, for a client that asked for it. -/
def FromFiles (ops : List (WorkerOp acme)) (name : String) (cert : CertifiedKey libs) : Prop :=
  ∃ files now serverName, ∃ resolver : DynamicCertResolver libs,
    .resolve files now (some serverName) ∈ ops ∧ DynamicCertResolver.hostOf serverName = name ∧
    (resolver.resolveFromFiles files now name).1 = some cert

theorem owned_run (manager : LECertManager acme) (enableLetsEncrypt : Bool)
    (ops : List (WorkerOp acme)) :
    (Machine.run (step manager) (new enableLetsEncrypt : LetsEncryptWorker libs) ops).Owned
      (Ordered manager ops) (FromFiles ops) := by
  have hgrants : ∀ op ∈ ops, Grants manager (Ordered manager ops)
      (FromFiles ops : String → CertifiedKey libs → Prop) op := by
    intro op hop
    cases op with
    | attempt mail config outcomes now domain =>
      rintro ⟨hmail, hdomain⟩ challenges cert hcert
      obtain ⟨henabled, hlocal⟩ := mem_allSites_iff.mp hdomain
      exact ⟨mail, config, outcomes, now, challenges, hop, hmail, henabled, hlocal, hcert⟩
    | resolve files now serverName =>
      rintro name rfl resolver cert hcert
      exact ⟨files, now, name, resolver, hop, rfl, hcert⟩
  apply (Machine.meets_of_forall hgrants _).invariant
    (I := Owned (Ordered manager ops) (FromFiles ops))
  · intro self op h hop
    exact h.step hop
  · refine ⟨?_, ?_⟩
    · rintro name cert ⟨⟩
    · rintro name cert ⟨⟩

/-- **Certificates**: whatever the worker and the clients did before, a client is only given a
certificate that was ordered for the very name it asks for, or that is or was in the files of
that name. -/
theorem certificates_own (manager : LECertManager acme) (enableLetsEncrypt : Bool)
    (ops : List (WorkerOp acme)) (files : Files) (now : Int) (serverName : String)
    {cert : CertifiedKey libs}
    (hcert : ((Machine.run (step manager) (new enableLetsEncrypt : LetsEncryptWorker libs)
      ops).resolver.resolve files now (some serverName)).1 = some cert) :
    Ordered manager ops (DynamicCertResolver.hostOf serverName) cert ∨
      FromFiles (ops ++ [.resolve files now (some serverName)])
        (DynamicCertResolver.hostOf serverName) cert := by
  have howned := @owned_run libs acme manager enableLetsEncrypt ops
  rcases (resolved files now serverName).found cert hcert with hkept | hkept | hfiles
  · exact .inl (howned.letsEncrypt _ _ hkept)
  · right
    obtain ⟨earlier, before, name, resolver, hop, hname, hread⟩ := howned.selfSigned _ _ hkept
    exact ⟨earlier, before, name, resolver, List.mem_append_left _ hop, hname, hread⟩
  · right
    exact ⟨files, now, serverName, _, List.mem_append_right _ (List.mem_singleton.mpr rfl), rfl,
      hfiles⟩

/-- An old certificate in the files, before the first round. -/
theorem certificates_own_from_files :
    ∃ cert : CertifiedKey sampleLibraries,
      ((new true : LetsEncryptWorker sampleLibraries).resolver.resolve sampleFiles 1700000000
        (some "example.com")).1 = some cert ∧
      (Ordered sampleManager [] (DynamicCertResolver.hostOf "example.com") cert ∨
        FromFiles ([] ++ [.resolve sampleFiles 1700000000 (some "example.com")] :
          List (WorkerOp sampleAcme)) (DynamicCertResolver.hostOf "example.com") cert) :=
  ⟨⟨[⟨0, 100⟩], ()⟩, rfl,
    certificates_own sampleManager true [] sampleFiles 1700000000 "example.com" rfl⟩

end LetsEncryptWorker

end OddBox.LetsEncrypt

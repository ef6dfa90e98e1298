import OddBox.Certs.Expiry
import OddBox.Machine

/-!
The two caches of certificates. Each lookup has five outcomes, and removes a certificate on four
of them: always from the cache of Let's Encrypt certificates.
-/

namespace OddBox.Certs

open OddBox.Machine

variable {libs : CertLibraries}

/-! ## Outcomes -/

/-- What a lookup tells of a certificate that it has found. -/
inductive Outcome where
  | valid (days : Nat)
  | nearExpiry (days : Nat)
  | expired
  | unparsable
  | noCertificate
  deriving DecidableEq, Repr

def CertifiedKey.outcome (self : CertifiedKey libs) (now : Int) : Outcome :=
  match self.cert.head? with
  | none => .noCertificate
  | some der =>
    match libs.validity der with
    | none => .unparsable
    | some validity =>
      match libs.timeToExpiration validity now with
      | none => .expired
      | some left =>
        let days := left / 86400
        if days < 30 then .nearExpiry days else .valid days

namespace DynamicCertResolver

theorem keeps_iff_valid (certifiedKey : CertifiedKey libs) (now : Int) :
    keeps certifiedKey now = true ↔ ∃ days, certifiedKey.outcome now = .valid days := by
  unfold keeps CertifiedKey.timeToExpiration CertifiedKey.outcome
  cases certifiedKey.cert.head? with
  | none => simp
  | some der =>
    simp only [bind, Option.bind]
    cases libs.validity der with
    | none => simp
    | some validity =>
      dsimp only
      cases libs.timeToExpiration validity now with
      | none => simp
      | some left =>
        by_cases hdays : left / 86400 < 30
        · simp [hdays]
        · simp [hdays]
          omega

/-! ## Lookups -/

/-- A cache has a certificate that is not kept. -/
def Stale (cache : String → Option (CertifiedKey libs)) (now : Int) (domain : String) : Prop :=
  ∃ certifiedKey, cache domain = some certifiedKey ∧ keeps certifiedKey now = false

theorem stale_iff_outcome {cache : String → Option (CertifiedKey libs)} {now : Int}
    {domain : String} :
    Stale cache now domain ↔
      ∃ certifiedKey, cache domain = some certifiedKey ∧
        ∀ days, certifiedKey.outcome now ≠ .valid days := by
  constructor
  · rintro ⟨certifiedKey, hcache, hkeeps⟩
    refine ⟨certifiedKey, hcache, fun days hvalid => ?_⟩
    have hkept := (keeps_iff_valid certifiedKey now).mpr ⟨days, hvalid⟩
    rw [hkeeps] at hkept
    contradiction
  · rintro ⟨certifiedKey, hcache, hinvalid⟩
    refine ⟨certifiedKey, hcache, Bool.eq_false_iff.mpr fun hkept => ?_⟩
    obtain ⟨days, hvalid⟩ := (keeps_iff_valid certifiedKey now).mp hkept
    exact hinvalid days hvalid

variable (self : DynamicCertResolver libs) {cache : String → Option (CertifiedKey libs)}
  {now : Int} {domain : String}

theorem getFromCache_stale (h : Stale cache now domain) :
    self.getFromCache cache now domain = (none, self.purge domain) := by
  obtain ⟨certifiedKey, hcache, hkeeps⟩ := h
  simp only [getFromCache, hcache, hkeeps, Bool.false_eq_true, if_false]

theorem getFromCache_fresh (h : ¬Stale cache now domain) :
    self.getFromCache cache now domain = (cache domain, self) := by
  unfold getFromCache
  cases hcache : cache domain with
  | none => rfl
  | some certifiedKey =>
    have hkeeps : keeps certifiedKey now = true := by
      by_contra hkeeps
      exact h ⟨certifiedKey, hcache, Bool.eq_false_iff.mpr hkeeps⟩
    simp only [hkeeps, if_true]

/-- Neither lookup changes the cache of self-signed certificates. -/
theorem getFromCache_selfSigned :
    (self.getFromCache cache now domain).2.selfSignedCertCache = self.selfSignedCertCache := by
  by_cases hstale : Stale cache now domain
  · rw [getFromCache_stale self hstale]
    rfl
  · rw [getFromCache_fresh self hstale]

/-- The lookups of a domain keep to their own caches, and what they do not find is not there
any more. -/
structure Independent (resolver : DynamicCertResolver libs) (now : Int) (domain : String) :
    Prop where
  letsEncrypt : (resolver.getSelfSignedCertFromCache now domain).2.letsEncryptSignedCerts =
    resolver.letsEncryptSignedCerts
  selfSigned : (resolver.getLetsEncryptSignedCertFromMemCache now domain).2.selfSignedCertCache =
    resolver.selfSignedCertCache
  selfSignedGone : (resolver.getSelfSignedCertFromCache now domain).1 = none →
    (resolver.getSelfSignedCertFromCache now domain).2.selfSignedCertCache domain = none
  letsEncryptGone : (resolver.getLetsEncryptSignedCertFromMemCache now domain).1 = none →
    (resolver.getLetsEncryptSignedCertFromMemCache now domain).2.letsEncryptSignedCerts domain =
      none

/-- The lookup of Let's Encrypt certificates purges its own cache. -/
theorem getLetsEncrypt_gone
    (h : (self.getLetsEncryptSignedCertFromMemCache now domain).1 = none) :
    (self.getLetsEncryptSignedCertFromMemCache now domain).2.letsEncryptSignedCerts domain =
      none := by
  unfold getLetsEncryptSignedCertFromMemCache at h ⊢
  by_cases hstale : Stale self.letsEncryptSignedCerts now domain
  · rw [getFromCache_stale self hstale]
    exact Function.update_self ..
  · rw [getFromCache_fresh self hstale] at h ⊢
    exact h

/-- The lookup of self-signed certificates purges the other cache. -/
theorem getSelfSigned_keeps_letsEncrypt_iff :
    (self.getSelfSignedCertFromCache now domain).2.letsEncryptSignedCerts =
        self.letsEncryptSignedCerts ↔
      (Stale self.selfSignedCertCache now domain →
        self.letsEncryptSignedCerts domain = none) := by
  unfold getSelfSignedCertFromCache
  by_cases hstale : Stale self.selfSignedCertCache now domain
  · rw [getFromCache_stale self hstale, forall_prop_of_true hstale]
    change Function.update self.letsEncryptSignedCerts domain none = _ ↔ _
    rw [Function.update_eq_self_iff, eq_comm]
  · rw [getFromCache_fresh self hstale]
    exact iff_of_true rfl fun h => absurd h hstale

theorem getSelfSigned_gone_iff :
    ((self.getSelfSignedCertFromCache now domain).1 = none →
        (self.getSelfSignedCertFromCache now domain).2.selfSignedCertCache domain = none) ↔
      ¬Stale self.selfSignedCertCache now domain := by
  unfold getSelfSignedCertFromCache
  rw [getFromCache_selfSigned]
  constructor
  · intro hgone hstale
    have hnone := hgone (congrArg Prod.fst (getFromCache_stale self hstale))
    obtain ⟨certifiedKey, hcache, -⟩ := hstale
    rw [hnone] at hcache
    contradiction
  · intro hstale
    rw [getFromCache_fresh self hstale]
    exact id

/-- **Independence of the caches**: the lookups of a domain keep to their own caches and leave
nothing that they do not serve, exactly if the cache of self-signed certificates has none for
the domain that is not kept. -/
theorem independent_iff_not_stale (self : DynamicCertResolver libs) (now : Int)
    (domain : String) :
    self.Independent now domain ↔ ¬Stale self.selfSignedCertCache now domain := by
  constructor
  · intro h
    exact self.getSelfSigned_gone_iff.mp h.selfSignedGone
  · intro hstale
    refine ⟨?_, self.getFromCache_selfSigned, self.getSelfSigned_gone_iff.mpr hstale,
      self.getLetsEncrypt_gone⟩
    exact self.getSelfSigned_keeps_letsEncrypt_iff.mpr fun h => absurd h hstale

/-- A self-signed certificate near its end, and a Let's Encrypt certificate that is kept. -/
def nearExpiry : DynamicCertResolver sampleLibraries where
  enableLetsEncrypt := true
  selfSignedCertCache := Function.update (fun _ => none) "a.test" (some ⟨[⟨0, 100⟩], ()⟩)
  letsEncryptSignedCerts :=
    Function.update (fun _ => none) "a.test" (some ⟨[⟨0, 8640000⟩], ()⟩)

/-- The certificate that is kept is dropped, and the other one stays. -/
theorem kept_certificate_dropped :
    ¬nearExpiry.Independent 50 "a.test" ∧
      nearExpiry.letsEncryptSignedCerts "a.test" = some ⟨[⟨0, 8640000⟩], ()⟩ ∧
      @keeps sampleLibraries ⟨[⟨0, 8640000⟩], ()⟩ 50 = true ∧
      (nearExpiry.getSelfSignedCertFromCache 50 "a.test").2.letsEncryptSignedCerts "a.test" =
        none ∧
      (nearExpiry.getSelfSignedCertFromCache 50 "a.test").2.selfSignedCertCache "a.test" =
        some ⟨[⟨0, 100⟩], ()⟩ := by
  refine ⟨fun h => ?_, rfl, rfl, rfl, rfl⟩
  have hgone := h.selfSignedGone rfl
  contradiction

/-! ## Runs -/

def addSelfSignedCertToCache (domain : String) (cert : CertifiedKey libs) :
    DynamicCertResolver libs :=
  { self with
    selfSignedCertCache := Function.update self.selfSignedCertCache domain (some cert) }

def addLetsEncryptSignedCertToMemCache (domain : String) (cert : CertifiedKey libs) :
    DynamicCertResolver libs :=
  { self with
    letsEncryptSignedCerts := Function.update self.letsEncryptSignedCerts domain (some cert) }

end DynamicCertResolver

/-- What is done with a resolver. -/
inductive Operation (libs : CertLibraries) where
  | addSelfSigned (domain : String) (cert : CertifiedKey libs)
  | addLetsEncrypt (domain : String) (cert : CertifiedKey libs)
  | getSelfSigned (now : Int) (domain : String)
  | getLetsEncrypt (now : Int) (domain : String)
  /-- `enable_lets_encrypt` and `disable_lets_encrypt`. -/
  | switch (enable : Bool)

namespace Operation

def addsSelfSigned : Operation libs → Bool
  | .addSelfSigned _ _ => true
  | _ => false

def concernsLetsEncrypt : Operation libs → Bool
  | .addLetsEncrypt _ _ => true
  | .getLetsEncrypt _ _ => true
  | _ => false

end Operation

namespace DynamicCertResolver

def step (self : DynamicCertResolver libs) : Operation libs → DynamicCertResolver libs
  | .addSelfSigned domain cert => self.addSelfSignedCertToCache domain cert
  | .addLetsEncrypt domain cert => self.addLetsEncryptSignedCertToMemCache domain cert
  | .getSelfSigned now domain => (self.getSelfSignedCertFromCache now domain).2
  | .getLetsEncrypt now domain => (self.getLetsEncryptSignedCertFromMemCache now domain).2
  | .switch enable => { self with enableLetsEncrypt := enable }

theorem step_selfSigned {self : DynamicCertResolver libs} {operation : Operation libs}
    (h : operation.addsSelfSigned = false) :
    (self.step operation).selfSignedCertCache = self.selfSignedCertCache := by
  cases operation with
  | addSelfSigned domain cert => contradiction
  | addLetsEncrypt domain cert => rfl
  | getSelfSigned now domain => exact self.getFromCache_selfSigned
  | getLetsEncrypt now domain => exact self.getFromCache_selfSigned
  | switch enable => rfl

/-- What is in the cache of self-signed certificates is what was added: no lookup removes it. -/
theorem run_selfSigned (self : DynamicCertResolver libs) (operations : List (Operation libs)) :
    (run step self operations).selfSignedCertCache =
      (run step self (operations.filter Operation.addsSelfSigned)).selfSignedCertCache := by
  have hall : Meets step (fun _ _ => True) self operations := meets_true self operations
  apply view_run _ _ hall rfl
  · intro resolver operation hunseen _
    exact step_selfSigned hunseen
  · intro first second operation hseen hview
    cases operation with
    | addSelfSigned domain cert =>
      exact congrArg (Function.update · domain (some cert)) hview
    | addLetsEncrypt | getSelfSigned | getLetsEncrypt | switch => contradiction

/-- The operation is not a lookup of a self-signed certificate that is not kept. -/
def Undisturbed (self : DynamicCertResolver libs) : Operation libs → Prop
  | .getSelfSigned now domain => ¬Stale self.selfSignedCertCache now domain
  | _ => True

/-- As long as no lookup finds a self-signed certificate that is not kept, the Let's Encrypt
certificates do not depend on anything that is done with self-signed ones. -/
theorem run_letsEncrypt {self : DynamicCertResolver libs} {operations : List (Operation libs)}
    (h : Meets step Undisturbed self operations) :
    (run step self operations).letsEncryptSignedCerts =
      (run step self (operations.filter Operation.concernsLetsEncrypt)).letsEncryptSignedCerts := by
  apply view_run _ _ h rfl
  · intro resolver operation hunseen hundisturbed
    cases operation with
    | addSelfSigned domain cert => rfl
    | addLetsEncrypt domain cert => contradiction
    | getSelfSigned now domain =>
      exact resolver.getSelfSigned_keeps_letsEncrypt_iff.mpr fun hstale =>
        absurd hstale hundisturbed
    | getLetsEncrypt now domain => contradiction
    | switch enable => rfl
  · intro first second operation hseen hview
    cases operation with
    | addLetsEncrypt domain cert =>
      exact congrArg (Function.update · domain (some cert)) hview
    | getLetsEncrypt now domain =>
      change (first.getFromCache first.letsEncryptSignedCerts now domain).2.letsEncryptSignedCerts =
        (second.getFromCache second.letsEncryptSignedCerts now domain).2.letsEncryptSignedCerts
      by_cases hstale : Stale second.letsEncryptSignedCerts now domain
      · rw [getFromCache_stale second hstale, getFromCache_stale first (hview ▸ hstale)]
        exact congrArg (Function.update · domain none) hview
      · rw [getFromCache_fresh second hstale, getFromCache_fresh first (hview ▸ hstale)]
        exact hview
    | addSelfSigned | getSelfSigned | switch => contradiction

end DynamicCertResolver

end OddBox.Certs

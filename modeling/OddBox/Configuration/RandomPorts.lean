import OddBox.Configuration.Validity

/-!
What `is_valid` accepts, and port 0: it stands for a port that is chosen at random, and is checked
as if it were one that is fixed.
-/

namespace OddBox.Configuration

open OddBox.Str

/-- The port that the process is to have, if it is not chosen for it. -/
def InProcessSiteConfig.fixedPort (self : InProcessSiteConfig) : Option UInt16 :=
  self.port.filter (· ≠ 0)

/-- Where certificates are ordered, TLS is terminated and subdomains are not captured. -/
def LetsEncryptFits (enableLetsEncrypt terminateTls captureSubdomains : Option Bool) : Prop :=
  enableLetsEncrypt.getD false = true →
    terminateTls.getD false = true ∧ captureSubdomains.getD false = false

/-- No variable of the process names, as a number, a port other than this. -/
def InProcessSiteConfig.PortVarsFit (self : InProcessSiteConfig) (port : UInt16) : Prop :=
  ∀ envVar ∈ self.envVars.getD [], eqIgnoreAsciiCase envVar.key "port" = true →
    ∀ envPort, parseU16 envVar.value = some envPort → envPort = port

/-- What a configuration is meant to be checked for. -/
structure OddBoxV3Config.Consistent (self : OddBoxV3Config) : Prop where
  envVars : ∀ envVar ∈ self.envVars, eqIgnoreAsciiCase envVar.key "port" = false
  hostNames : self.hostNames.Nodup
  ports : self.sites.Pairwise fun a b => ∀ port, a.fixedPort = some port → b.fixedPort ≠ some port
  remoteTargets : ∀ target ∈ self.remoteTargets,
    LetsEncryptFits target.enableLetsEncrypt target.terminateTls target.captureSubdomains
  processes : ∀ process ∈ self.sites,
    LetsEncryptFits process.enableLetsEncrypt process.terminateTls process.captureSubdomains
  portVars : ∀ process ∈ self.sites, ∀ port, process.fixedPort = some port →
    process.PortVarsFit port

/-- Port 0 is configured once at most, and without a variable for another port. -/
structure OddBoxV3Config.ZeroFits (self : OddBoxV3Config) : Prop where
  once : self.sites.Pairwise fun a b => a.port = some 0 → b.port ≠ some 0
  portVars : ∀ process ∈ self.sites, process.port = some 0 → process.PortVarsFit 0

theorem fixedPort_eq_some {process : InProcessSiteConfig} {port : UInt16} :
    process.fixedPort = some port ↔ process.port = some port ∧ port ≠ 0 := by
  rw [InProcessSiteConfig.fixedPort, Option.filter_eq_some_iff]
  simp

/-- A port is fixed or 0. -/
theorem forall_port_iff {process : InProcessSiteConfig} {P : UInt16 → Prop} :
    (∀ port, process.port = some port → P port) ↔
      (∀ port, process.fixedPort = some port → P port) ∧ (process.port = some 0 → P 0) := by
  simp only [fixedPort_eq_some]
  constructor
  · exact fun h => ⟨fun port hport => h port hport.1, h 0⟩
  · rintro ⟨hfixed, hzero⟩ port hport
    by_cases hkind : port = 0
    · subst hkind
      exact hzero hport
    · exact hfixed port ⟨hport, hkind⟩

theorem checkLetsEncrypt_eq_ok {what hostName : String}
    {enableLetsEncrypt terminateTls captureSubdomains : Option Bool} :
    checkLetsEncrypt what hostName enableLetsEncrypt terminateTls captureSubdomains = .ok () ↔
      LetsEncryptFits enableLetsEncrypt terminateTls captureSubdomains := by
  rw [checkLetsEncrypt, bind_eq_ok, bailIf_eq_ok, bailIf_eq_ok, LetsEncryptFits]
  cases enableLetsEncrypt.getD false <;> simp

theorem portMismatch_eq_false {process : InProcessSiteConfig} :
    process.portMismatch = false ↔
      ∀ port, process.port = some port → process.PortVarsFit port := by
  rw [InProcessSiteConfig.portMismatch]
  cases hport : process.port with
  | none => exact iff_of_true rfl fun _ h => by cases h
  | some port =>
      simp only [Option.some.injEq, forall_eq', InProcessSiteConfig.PortVarsFit,
        List.any_eq_false, Bool.and_eq_true, not_and]
      refine forall₂_congr fun envVar _ => imp_congr_right fun _ => ?_
      cases parseU16 envVar.value <;> simp

theorem process_check_eq_ok {process : InProcessSiteConfig} :
    process.check = .ok () ↔
      LetsEncryptFits process.enableLetsEncrypt process.terminateTls process.captureSubdomains ∧
        ∀ port, process.port = some port → process.PortVarsFit port := by
  rw [InProcessSiteConfig.check, bind_eq_ok, checkLetsEncrypt_eq_ok, bailIf_eq_ok,
    portMismatch_eq_false]

/-- Two processes have different ports. -/
theorem ports_differ_iff (a b : InProcessSiteConfig) :
    (∀ port, a.port = some port → b.port ≠ some port) ↔
      (∀ port, a.fixedPort = some port → b.fixedPort ≠ some port) ∧
        (a.port = some 0 → b.port ≠ some 0) := by
  rw [forall_port_iff]
  refine and_congr_left' (forall₂_congr fun port hport => not_congr ?_)
  rw [fixedPort_eq_some, and_iff_left (fixedPort_eq_some.mp hport).2]

theorem configuredPorts_nodup {self : OddBoxV3Config} :
    (self.configuredPorts.map (·.1)).Nodup ↔
      (self.sites.Pairwise fun a b =>
        ∀ port, a.fixedPort = some port → b.fixedPort ≠ some port) ∧
      self.sites.Pairwise fun a b => a.port = some 0 → b.port ≠ some 0 := by
  have hports : self.configuredPorts.map (·.1) = self.sites.filterMap (·.port) := by
    rw [OddBoxV3Config.configuredPorts, List.map_filterMap]
    refine List.filterMap_congr fun site _ => ?_
    cases site.port <;> rfl
  rw [hports, List.Nodup, List.pairwise_filterMap, ← List.pairwise_and_iff]
  refine List.Pairwise.iff fun {a b} => ?_
  rw [← ports_differ_iff]
  refine forall₂_congr fun port _ => ⟨fun h hsame => h port hsame rfl, ?_⟩
  rintro h other hother rfl
  exact h hother

/-- Accepted is what is consistent, if port 0 is treated as any other. -/
theorem isValid_iff_consistent (self : OddBoxV3Config) :
    self.isValid = .ok () ↔ self.Consistent ∧ self.ZeroFits := by
  rw [isValid_iff, configuredPorts_nodup]
  simp only [process_check_eq_ok, RemoteSiteConfig.check, checkLetsEncrypt_eq_ok, forall_port_iff]
  constructor
  · rintro ⟨henvVars, hremotes, hprocesses, hhostNames, hports, honce⟩
    refine ⟨⟨henvVars, hhostNames, hports, hremotes, ?_, ?_⟩, honce, ?_⟩
    · exact fun process hmem => (hprocesses process hmem).1
    · exact fun process hmem => (hprocesses process hmem).2.1
    · exact fun process hmem => (hprocesses process hmem).2.2
  · rintro ⟨⟨henvVars, hhostNames, hports, hremotes, hprocesses, hportVars⟩, honce, hzero⟩
    refine ⟨henvVars, hremotes, fun process hmem => ?_, hhostNames, hports, honce⟩
    exact ⟨hprocesses process hmem, hportVars process hmem, hzero process hmem⟩

/-- A directory server terminates TLS; where certificates are ordered for it, it does not capture
subdomains. -/
def OddBoxV3Config.DirServersFit (self : OddBoxV3Config) : Prop :=
  ∀ server ∈ self.dirServers,
    LetsEncryptFits server.enableLetsEncrypt (some true) server.captureSubdomains

/-- The check is exact unless all that is wrong with a configuration is its use of port 0; and if
directory servers are counted among the sites, unless it accepts one that captures subdomains. -/
theorem isValid_exact_iff (self : OddBoxV3Config) :
    ((self.isValid = .ok () ↔ self.Consistent) ↔ (self.Consistent → self.ZeroFits)) ∧
      ((self.isValid = .ok () ↔ self.Consistent ∧ self.DirServersFit) ↔
        (self.Consistent → (self.ZeroFits ↔ self.DirServersFit))) := by
  rw [isValid_iff_consistent]
  exact ⟨and_iff_left_iff_imp, and_congr_right_iff⟩

/-- Two processes whose ports are to be chosen at random. -/
def randomPorts : OddBoxV3Config :=
  { twoSites with
    hostedProcess := some [
      { plainSite "a" none with port := some 0 },
      { plainSite "b" none with port := some 0 }] }

theorem two_random_ports_refused : ¬ (randomPorts.isValid = .ok () ↔ randomPorts.Consistent) := by
  have hsites : ∀ process ∈ randomPorts.sites,
      process.port = some 0 ∧ process.enableLetsEncrypt = none := by decide
  have hfixed : ∀ process ∈ randomPorts.sites, ∀ port, process.fixedPort ≠ some port := by
    intro process hmem port hfixed
    obtain ⟨hport, hkind⟩ := fixedPort_eq_some.mp hfixed
    rw [(hsites process hmem).1] at hport
    exact hkind (Option.some.inj hport).symm
  have hconsistent : randomPorts.Consistent := by
    refine ⟨by decide, by decide, ?_, List.forall_mem_nil _, fun process hmem henabled => ?_, ?_⟩
    · exact List.pairwise_of_forall_mem_list fun _ _ b hb port _ => hfixed b hb port
    · rw [(hsites process hmem).2] at henabled
      cases henabled
    · exact fun process hmem port hport => absurd hport (hfixed process hmem port)
  intro h
  have hvalid : randomPorts.isValid = .ok () := h.mpr hconsistent
  revert hvalid
  decide

end OddBox.Configuration

import Mathlib
import OddBox.Configuration.Ports
import OddBox.Str

/-!
`is_valid`: what a configuration is refused for, and what holds of one that is
accepted.
-/

namespace OddBox.Configuration

open OddBox.Str

def OddBoxV3Config.dirServers (self : OddBoxV3Config) : List DirServer :=
  self.dirServer.getD []

def OddBoxV3Config.remoteTargets (self : OddBoxV3Config) : List RemoteSiteConfig :=
  self.remoteTarget.getD []

def OddBoxV3Config.hostNames (self : OddBoxV3Config) : List String :=
  self.dirServers.map (·.hostName) ++ self.remoteTargets.map (·.hostName) ++
    self.sites.map (·.hostName)

/-- The configured ports, each with the host name it is configured for. -/
def OddBoxV3Config.configuredPorts (self : OddBoxV3Config) : List (UInt16 × String) :=
  self.sites.filterMap fun site => site.port.map (·, site.hostName)

/-- `if … { anyhow::bail!(…) }`. -/
def bailIf (refused : Bool) (message : String) : Except String Unit :=
  if refused then .error message else .ok ()

/-- Certificates can be ordered only where the proxy terminates TLS itself, and
not for subdomains. -/
def checkLetsEncrypt (what hostName : String)
    (enableLetsEncrypt terminateTls captureSubdomains : Option Bool) : Except String Unit := do
  bailIf (enableLetsEncrypt.getD false && !terminateTls.getD false)
    s!"Invalid configuration for {what} '{hostName}'. LetsEncrypt cannot be enabled when TCP tunnel mode is enabled."
  bailIf (enableLetsEncrypt.getD false && captureSubdomains.getD false)
    s!"Invalid configuration for {what} '{hostName}'. LetsEncrypt cannot be enabled when capture_subdomains is enabled as odd-box does not yet support wildcard certificates"

def RemoteSiteConfig.check (target : RemoteSiteConfig) : Except String Unit :=
  checkLetsEncrypt "remote target" target.hostName target.enableLetsEncrypt
    target.terminateTls target.captureSubdomains

/-- A variable for the port that is a number other than the configured port. -/
def InProcessSiteConfig.portMismatch (process : InProcessSiteConfig) : Bool :=
  match process.port with
  | some port => (process.envVars.getD []).any fun envVar =>
      eqIgnoreAsciiCase envVar.key "port" &&
        (parseU16 envVar.value).any fun envPort => envPort != port
  | none => false

def InProcessSiteConfig.check (process : InProcessSiteConfig) : Except String Unit := do
  checkLetsEncrypt "hosted process" process.hostName process.enableLetsEncrypt
    process.terminateTls process.captureSubdomains
  bailIf process.portMismatch
    s!"Environment variable PORT for '{process.hostName}' does not match the port specified in the configuration.\nIt is recommended to rely on the port setting - it will automatically inject the port variable to the process-local context."

/-- What occurs more than once. The source takes the order of a hash map. -/
def duplicates {α : Type} [DecidableEq α] (xs : List α) : List α :=
  xs.dedup.filter fun x => 1 < xs.count x

/-- The text for a port that several sites are configured for. -/
def OddBoxV3Config.conflictDetails (self : OddBoxV3Config) (port : UInt16) : String :=
  let sites := (self.configuredPorts.filter (·.1 == port)).map (·.2)
  "Port " ++ portText port ++ ": [" ++ ", ".intercalate sites ++ "]"

def OddBoxV3Config.isValid (self : OddBoxV3Config) : Except String Unit := do
  bailIf (self.envVars.any fun envVar => eqIgnoreAsciiCase envVar.key "port")
    "Invalid configuration. You cannot use 'port' as a global environment variable"
  forM self.remoteTargets RemoteSiteConfig.check
  forM self.sites InProcessSiteConfig.check
  let duplicateHostNames := duplicates self.hostNames
  bailIf (!duplicateHostNames.isEmpty)
    ("Duplicate host names found: " ++ ", ".intercalate duplicateHostNames)
  let duplicatePorts := duplicates (self.configuredPorts.map (·.1))
  bailIf (!duplicatePorts.isEmpty)
    ("Duplicate ports found with conflicting sites: " ++
      "; ".intercalate (duplicatePorts.map self.conflictDetails))

theorem duplicates_eq_nil {α : Type} [DecidableEq α] {xs : List α} :
    duplicates xs = [] ↔ xs.Nodup := by
  rw [duplicates, List.filter_eq_nil_iff, List.nodup_iff_count_le_one]
  simp only [List.mem_dedup, decide_eq_true_eq, Nat.not_lt]
  constructor
  · intro h x
    by_cases hx : x ∈ xs
    · exact h x hx
    · rw [List.count_eq_zero_of_not_mem hx]
      omega
  · intro h x _
    exact h x

theorem bind_eq_ok {ε : Type} {x y : Except ε Unit} :
    (x >>= fun _ => y) = .ok () ↔ x = .ok () ∧ y = .ok () := by
  cases x with
  | error e =>
    constructor
    · intro h
      cases h
    · rintro ⟨h, -⟩
      cases h
  | ok a =>
    constructor
    · intro h
      exact ⟨rfl, h⟩
    · rintro ⟨-, h⟩
      exact h

theorem bailIf_eq_ok {refused : Bool} {message : String} :
    bailIf refused message = .ok () ↔ refused = false := by
  cases refused with
  | false => exact ⟨fun _ => rfl, fun _ => rfl⟩
  | true =>
    constructor
    · intro h
      cases h
    · intro h
      cases h

theorem forM_eq_ok {ε α : Type} {check : α → Except ε Unit} {xs : List α} :
    forM xs check = .ok () ↔ ∀ x ∈ xs, check x = .ok () := by
  induction xs with
  | nil =>
    constructor
    · intro _ x hx
      cases hx
    · intro _
      rfl
  | cons x xs ih =>
    rw [List.forM_cons, bind_eq_ok]
    constructor
    · rintro ⟨hx, hxs⟩ y hy
      rcases List.mem_cons.mp hy with rfl | hy
      · exact hx
      · exact ih.mp hxs y hy
    · intro h
      exact ⟨h x List.mem_cons_self, ih.mpr fun y hy => h y (List.mem_cons_of_mem _ hy)⟩

/-- An accepted configuration passes every check, and no host name and no
configured port occurs in it twice. -/
theorem isValid_iff {self : OddBoxV3Config} :
    self.isValid = .ok () ↔
      (∀ envVar ∈ self.envVars, eqIgnoreAsciiCase envVar.key "port" = false) ∧
      (∀ target ∈ self.remoteTargets, target.check = .ok ()) ∧
      (∀ process ∈ self.sites, process.check = .ok ()) ∧
      self.hostNames.Nodup ∧ (self.configuredPorts.map (·.1)).Nodup := by
  have hempty : ∀ {α : Type} [DecidableEq α] (xs : List α),
      (!(duplicates xs).isEmpty) = false ↔ xs.Nodup := by
    intro α _ xs
    rw [Bool.not_eq_false', List.isEmpty_iff, duplicates_eq_nil]
  rw [OddBoxV3Config.isValid, bind_eq_ok, bind_eq_ok, bind_eq_ok, bind_eq_ok, bailIf_eq_ok,
    bailIf_eq_ok, bailIf_eq_ok, forM_eq_ok, forM_eq_ok, hempty, hempty, List.any_eq_false]
  simp only [Bool.not_eq_true]

end OddBox.Configuration

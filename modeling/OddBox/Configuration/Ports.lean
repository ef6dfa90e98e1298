import OddBox.Configuration.V3
import OddBox.Machine
import OddBox.Str

/-!
How a hosted process gets its port: `busy_ports` and `set_active_port` of
`configuration/mod.rs`. The answers of the operating system (is a port free,
which random port it offers) are parameters of a call. A `u16` is a `UInt16`;
its `+= 1` panics at the end of the range in a build with overflow checks and
wraps around in one without.
-/

namespace OddBox.Configuration

/-! ## Reading a port -/

/-- `str::parse::<u16>`. -/
def parseU16 (text : String) : Option UInt16 := (Str.parseUnsigned 16 text).map UInt16.ofNat

/-- `u16::to_string`. -/
def portText (port : UInt16) : String := Nat.repr port.toNat

/-! ## Choosing a port -/

/-- The ports that are configured for a process or active on it. -/
def InProcessSiteConfig.busyPorts (site : InProcessSiteConfig) : List (ProcId × UInt16) :=
  site.port.toList.map (site.procId, ·) ++ site.activePort.toList.map (site.procId, ·)

def OddBoxV3Config.busyPorts (self : OddBoxV3Config) : List (ProcId × UInt16) :=
  (self.hostedProcess.getD []).flatMap InProcessSiteConfig.busyPorts

/-- The fields of a resolved process that `set_active_port` reads. -/
structure FullyResolvedInProcessSiteConfig where
  procId : ProcId
  activePort : Option UInt16
  hostName : String
  envVars : Option (List EnvVar)
  port : Option UInt16
  deriving DecidableEq, Repr

/-- What the operating system answers during one call. -/
structure PortOracle where
  /-- Whether the port that the process holds is free. -/
  heldIsFree : Bool
  /-- Whether a port is free, asked in a given round of the search. -/
  portIsFree : Nat → UInt16 → Bool
  getRandomFreePort : Option UInt16
  overflowChecks : Bool

inductive PortResult where
  | ok (port : UInt16)
  | bail (message : String)
  /-- `attempt to add with overflow`. -/
  | panicked
  /-- The search has not ended within the given number of rounds. -/
  | searching
  deriving DecidableEq, Repr

/-- The loop that looks for the first port that is neither unavailable nor
taken, from the given port on. -/
def searchPort (oracle : PortOracle) (unavailable : List UInt16) :
    Nat → Nat → UInt16 → PortResult
  | 0, _, _ => .searching
  | fuel + 1, round, port =>
    if !unavailable.contains port && oracle.portIsFree round port then .ok port
    else if oracle.overflowChecks && port == 65535 then .panicked
    else searchPort oracle unavailable fuel (round + 1) (port + 1)

/-- Ports in use or configured for use by other sites. -/
def OddBoxV3Config.unavailablePorts (self : OddBoxV3Config) (procId : ProcId) :
    List (ProcId × UInt16) :=
  self.busyPorts.filter fun busy => busy.1 ≠ procId

/-- The value of the process's environment variable for the port. -/
def FullyResolvedInProcessSiteConfig.portVariable (proc : FullyResolvedInProcessSiteConfig) :
    Option String :=
  ((proc.envVars.getD []).find? fun var => var.key.toLower == "port").map (·.value)

/-- Which port to use: `selected` is what is left of the port the process holds. -/
def preferredPort (proc : FullyResolvedInProcessSiteConfig) (oracle : PortOracle)
    (unavailable : List (ProcId × UInt16)) (selected : Option UInt16) : Option UInt16 :=
  match proc.port with
  | some preferred =>
    if preferred = 0 then oracle.getRandomFreePort
    else if unavailable.any fun busy => busy.2 == preferred then selected
    else some preferred
  | none =>
    match proc.portVariable with
    | some value =>
      if unavailable.any fun busy => portText busy.2 == value then selected
      else match parseU16 value with
        | some port => some port
        | none => selected
    | none => selected

/-- Saves the selected port at the first site of the process. -/
def markActive (procId : ProcId) (port : UInt16) :
    List InProcessSiteConfig → List InProcessSiteConfig
  | [] => []
  | site :: sites =>
    if site.procId = procId then { site with activePort := some port } :: sites
    else site :: markActive procId port sites

/-- The last part of `set_active_port`: search if nothing is selected, save, return. -/
def OddBoxV3Config.finishActivePort (self : OddBoxV3Config)
    (proc : FullyResolvedInProcessSiteConfig) (oracle : PortOracle) (fuel : Nat)
    (unavailable : List (ProcId × UInt16)) (selected : Option UInt16) :
    PortResult × OddBoxV3Config :=
  let result : PortResult := match selected with
    | some port => .ok port
    | none => searchPort oracle (unavailable.map (·.2)) fuel 0 self.portRangeStart
  match result with
  | .ok port => (.ok port, { self with
      hostedProcess := self.hostedProcess.map (markActive proc.procId port) })
  | other => (other, self)

def OddBoxV3Config.setActivePort (self : OddBoxV3Config)
    (proc : FullyResolvedInProcessSiteConfig) (oracle : PortOracle) (fuel : Nat) :
    PortResult × OddBoxV3Config :=
  let unavailable := self.unavailablePorts proc.procId
  match proc.activePort with
  | some current =>
    if unavailable.any fun busy => busy.2 == current then
      self.finishActivePort proc oracle fuel unavailable
        (preferredPort proc oracle unavailable (some current))
    else if oracle.heldIsFree then (.ok current, self)
    else self.finishActivePort proc oracle fuel unavailable
      (preferredPort proc oracle unavailable none)
  | none => self.finishActivePort proc oracle fuel unavailable
      (preferredPort proc oracle unavailable none)

/-! ## Whose port it is -/

def OddBoxV3Config.sites (self : OddBoxV3Config) : List InProcessSiteConfig :=
  self.hostedProcess.getD []

/-- Another site has the port, configured or active. -/
def OddBoxV3Config.isTaken (self : OddBoxV3Config) (procId : ProcId) (port : UInt16) : Bool :=
  (self.unavailablePorts procId).any fun busy => busy.2 == port

def InProcessSiteConfig.Uses (site : InProcessSiteConfig) (port : UInt16) : Prop :=
  site.port = some port ∨ site.activePort = some port

theorem mem_busyPorts {site : InProcessSiteConfig} {procId : ProcId} {port : UInt16} :
    (procId, port) ∈ site.busyPorts ↔ procId = site.procId ∧ site.Uses port := by
  simp only [InProcessSiteConfig.busyPorts, InProcessSiteConfig.Uses, List.mem_append,
    List.mem_map, Option.mem_toList, Prod.mk.injEq]
  constructor
  · rintro (⟨_, h, rfl, rfl⟩ | ⟨_, h, rfl, rfl⟩)
    · exact ⟨rfl, Or.inl h⟩
    · exact ⟨rfl, Or.inr h⟩
  · rintro ⟨rfl, h | h⟩
    · exact Or.inl ⟨port, h, rfl, rfl⟩
    · exact Or.inr ⟨port, h, rfl, rfl⟩

theorem isTaken_iff {self : OddBoxV3Config} {procId : ProcId} {port : UInt16} :
    self.isTaken procId port = true ↔
      ∃ site ∈ self.sites, site.procId ≠ procId ∧ site.Uses port := by
  simp only [OddBoxV3Config.isTaken, List.any_eq_true, OddBoxV3Config.unavailablePorts,
    OddBoxV3Config.busyPorts, List.mem_filter, List.mem_flatMap, beq_iff_eq, decide_eq_true_eq]
  constructor
  · rintro ⟨⟨id, p⟩, ⟨⟨site, hsite, hbusy⟩, hid⟩, rfl⟩
    obtain ⟨rfl, huses⟩ := mem_busyPorts.mp hbusy
    exact ⟨site, hsite, hid, huses⟩
  · rintro ⟨site, hsite, hid, huses⟩
    exact ⟨(site.procId, port), ⟨⟨site, hsite, mem_busyPorts.mpr ⟨rfl, huses⟩⟩, hid⟩, rfl⟩

theorem markActive_other {procId : ProcId} {port : UInt16} {site : InProcessSiteConfig}
    (sites : List InProcessSiteConfig) (hid : site.procId ≠ procId) :
    site ∈ markActive procId port sites ↔ site ∈ sites := by
  induction sites with
  | nil => rfl
  | cons first sites ih =>
    simp only [markActive]
    split
    · rename_i hfirst
      simp only [List.mem_cons]
      constructor
      · rintro (rfl | h)
        · exact absurd hfirst hid
        · exact Or.inr h
      · rintro (rfl | h)
        · exact absurd hfirst hid
        · exact Or.inr h
    · simp only [List.mem_cons, ih]

/-- A site of the process is as it was or has the port. -/
theorem markActive_own {procId : ProcId} {port : UInt16} {site : InProcessSiteConfig}
    (sites : List InProcessSiteConfig) (hsite : site ∈ markActive procId port sites) :
    site ∈ sites ∨ (site.procId = procId ∧ site.activePort = some port) := by
  induction sites with
  | nil => exact Or.inl hsite
  | cons first sites ih =>
    simp only [markActive] at hsite
    split at hsite
    · rename_i hfirst
      rcases List.mem_cons.mp hsite with rfl | h
      · exact Or.inr ⟨hfirst, rfl⟩
      · exact Or.inl (List.mem_cons_of_mem _ h)
    · rcases List.mem_cons.mp hsite with rfl | h
      · exact Or.inl List.mem_cons_self
      · rcases ih h with h | h
        · exact Or.inl (List.mem_cons_of_mem _ h)
        · exact Or.inr h

/-! ## What a call returns -/

/-- The search returns no port of another site. -/
theorem searchPort_available {oracle : PortOracle} {unavailable : List UInt16} {fuel : Nat} :
    ∀ {round : Nat} {start port : UInt16},
      searchPort oracle unavailable fuel round start = .ok port → port ∉ unavailable := by
  induction fuel with
  | zero => intro _ _ _ h; cases h
  | succ fuel ih =>
    intro round start port h
    simp only [searchPort] at h
    split at h
    · rename_i hfree
      cases h
      simp only [Bool.and_eq_true, Bool.not_eq_true'] at hfree
      intro hmem
      have hcontains := List.contains_iff_mem.mpr hmem
      rw [hcontains] at hfree
      cases hfree.1
    · split at h
      · cases h
      · exact ih h

/-- The port that a call has selected when it comes to the search. -/
def OddBoxV3Config.selectedPort (self : OddBoxV3Config)
    (proc : FullyResolvedInProcessSiteConfig) (oracle : PortOracle) : Option UInt16 :=
  preferredPort proc oracle (self.unavailablePorts proc.procId)
    (proc.activePort.filter (self.isTaken proc.procId))

/-- The process keeps a port that is free and nobody else's. -/
def OddBoxV3Config.KeepsPort (self : OddBoxV3Config)
    (proc : FullyResolvedInProcessSiteConfig) (oracle : PortOracle) : Prop :=
  ∃ current, proc.activePort = some current ∧ self.isTaken proc.procId current = false ∧
    oracle.heldIsFree = true

theorem setActivePort_eq (self : OddBoxV3Config) (proc : FullyResolvedInProcessSiteConfig)
    (oracle : PortOracle) (fuel : Nat) :
    (∃ current, self.setActivePort proc oracle fuel = (.ok current, self) ∧
        proc.activePort = some current ∧ self.isTaken proc.procId current = false ∧
        oracle.heldIsFree = true) ∨
      (¬ self.KeepsPort proc oracle ∧ self.setActivePort proc oracle fuel =
        self.finishActivePort proc oracle fuel (self.unavailablePorts proc.procId)
          (self.selectedPort proc oracle)) := by
  simp only [OddBoxV3Config.setActivePort, OddBoxV3Config.selectedPort, OddBoxV3Config.KeepsPort]
  cases hactive : proc.activePort with
  | none =>
    right
    refine ⟨?_, rfl⟩
    rintro ⟨current, h, -⟩
    cases h
  | some current =>
    cases htaken : self.isTaken proc.procId current with
    | true =>
      right
      refine ⟨?_, ?_⟩
      · rintro ⟨other, h, hfree, -⟩
        cases h
        rw [htaken] at hfree
        cases hfree
      · have htaken' := htaken
        simp only [OddBoxV3Config.isTaken] at htaken'
        simp only [htaken', if_true, Option.filter_some, htaken]
    | false =>
      have htaken' := htaken
      simp only [OddBoxV3Config.isTaken] at htaken'
      simp only [htaken', Bool.false_eq_true, if_false, Option.filter_some, htaken]
      cases hheld : oracle.heldIsFree with
      | true => exact Or.inl ⟨current, rfl, rfl, htaken, rfl⟩
      | false =>
        right
        refine ⟨?_, rfl⟩
        rintro ⟨_, _, _, h⟩
        cases h

theorem finishActivePort_ok {self : OddBoxV3Config} {proc : FullyResolvedInProcessSiteConfig}
    {oracle : PortOracle} {fuel : Nat} {selected : Option UInt16} {port : UInt16}
    (h : (self.finishActivePort proc oracle fuel (self.unavailablePorts proc.procId)
      selected).1 = .ok port) :
    selected = some port ∨ self.isTaken proc.procId port = false := by
  simp only [OddBoxV3Config.finishActivePort] at h
  cases selected with
  | some p =>
    cases h
    exact Or.inl rfl
  | none =>
    right
    simp only at h
    split at h
    · rename_i p hsearch
      cases h
      have hfree := searchPort_available hsearch
      rw [Bool.eq_false_iff]
      intro htaken
      apply hfree
      simp only [OddBoxV3Config.isTaken, List.any_eq_true, beq_iff_eq] at htaken
      exact List.mem_map.mpr htaken
    · rename_i hother
      exact absurd h (hother port)

/-- A call changes no site of another process. -/
theorem setActivePort_others (self : OddBoxV3Config) (proc : FullyResolvedInProcessSiteConfig)
    (oracle : PortOracle) (fuel : Nat) {site : InProcessSiteConfig}
    (hid : site.procId ≠ proc.procId) :
    site ∈ (self.setActivePort proc oracle fuel).2.sites ↔ site ∈ self.sites := by
  rcases setActivePort_eq self proc oracle fuel with ⟨current, heq, -⟩ | ⟨-, heq⟩
  · rw [heq]
  · rw [heq]
    simp only [OddBoxV3Config.finishActivePort]
    split
    · simp only [OddBoxV3Config.sites]
      cases self.hostedProcess with
      | none => rfl
      | some sites => exact markActive_other sites hid
    · rfl

/-! ## Exclusive ports -/

/-- A call of `set_active_port` for a process. -/
structure PortCall where
  proc : FullyResolvedInProcessSiteConfig
  oracle : PortOracle
  fuel : Nat

def OddBoxV3Config.call (self : OddBoxV3Config) (call : PortCall) : OddBoxV3Config :=
  (self.setActivePort call.proc call.oracle call.fuel).2

/-- If the call returns a port, no other site uses it at that moment. -/
def OddBoxV3Config.Exclusive (self : OddBoxV3Config) (call : PortCall) : Prop :=
  ∀ port, (self.setActivePort call.proc call.oracle call.fuel).1 = .ok port →
    ∀ site ∈ (self.call call).sites, site.procId ≠ call.proc.procId → ¬ site.Uses port

/-- The port that the process holds is another site's too. -/
def OddBoxV3Config.Stale (self : OddBoxV3Config) (proc : FullyResolvedInProcessSiteConfig) :
    Prop :=
  ∃ current, proc.activePort = some current ∧ self.isTaken proc.procId current = true

/-- The process keeps its port, or its port comes from a source that is checked:
the random port and a number in the environment variable must not be another
site's, and where the source gives nothing usable there must be no stale port. -/
def OddBoxV3Config.SafeCall (self : OddBoxV3Config) (call : PortCall) : Prop :=
  let proc := call.proc
  self.KeepsPort proc call.oracle ∨
    match proc.port with
    | some preferred =>
      if preferred = 0 then
        ∀ port, call.oracle.getRandomFreePort = some port →
          self.isTaken proc.procId port = false
      else self.isTaken proc.procId preferred = true → ¬ self.Stale proc
    | none =>
      match proc.portVariable with
      | some value =>
        if (self.unavailablePorts proc.procId).any fun busy => portText busy.2 == value then
          ¬ self.Stale proc
        else match parseU16 value with
          | some port => self.isTaken proc.procId port = false
          | none => ¬ self.Stale proc
      | none => ¬ self.Stale proc

theorem filter_taken_iff {self : OddBoxV3Config} {proc : FullyResolvedInProcessSiteConfig} :
    (∀ port, proc.activePort.filter (self.isTaken proc.procId) = some port →
      self.isTaken proc.procId port = false) ↔ ¬ self.Stale proc := by
  constructor
  · rintro h ⟨current, hactive, htaken⟩
    have hfree := h current (by rw [hactive, Option.filter_some, if_pos htaken])
    rw [htaken] at hfree
    cases hfree
  · intro hstale port h
    rw [Option.filter_eq_some_iff] at h
    exact absurd ⟨port, h⟩ hstale

/-- What a call selects before the search is free if and only if it is safe. -/
theorem selectedPort_free_iff {self : OddBoxV3Config} {call : PortCall}
    (hkeeps : ¬ self.KeepsPort call.proc call.oracle) :
    (∀ port, self.selectedPort call.proc call.oracle = some port →
      self.isTaken call.proc.procId port = false) ↔ self.SafeCall call := by
  simp only [OddBoxV3Config.selectedPort, preferredPort, OddBoxV3Config.SafeCall, hkeeps,
    false_or]
  cases call.proc.port with
  | some preferred =>
    simp only
    split
    · rfl
    · split
      · rename_i htaken
        change self.isTaken call.proc.procId preferred = true at htaken
        rw [filter_taken_iff]
        simp only [htaken, forall_const]
      · rename_i htaken
        change ¬ self.isTaken call.proc.procId preferred = true at htaken
        simp only [Bool.not_eq_true] at htaken
        simp [htaken]
  | none =>
    simp only
    cases call.proc.portVariable with
    | none => exact filter_taken_iff
    | some value =>
      simp only
      split
      · exact filter_taken_iff
      · cases parseU16 value with
        | some port => simp
        | none => exact filter_taken_iff

theorem exclusive_iff_free (self : OddBoxV3Config) (call : PortCall) :
    self.Exclusive call ↔
      ∀ port, (self.setActivePort call.proc call.oracle call.fuel).1 = .ok port →
        self.isTaken call.proc.procId port = false := by
  simp only [OddBoxV3Config.Exclusive, OddBoxV3Config.call]
  apply forall_congr'
  intro port
  apply imp_congr_right
  intro _
  rw [Bool.eq_false_iff, ne_eq, isTaken_iff]
  constructor
  · rintro h ⟨site, hsite, hid, huses⟩
    exact h site ((setActivePort_others self _ _ _ hid).mpr hsite) hid huses
  · intro h site hsite hid huses
    exact h ⟨site, (setActivePort_others self _ _ _ hid).mp hsite, hid, huses⟩

/-- One call: its port is nobody else's if and only if the call is safe. -/
theorem exclusive_iff_safe (self : OddBoxV3Config) (call : PortCall) :
    self.Exclusive call ↔ self.SafeCall call := by
  rw [exclusive_iff_free]
  rcases setActivePort_eq self call.proc call.oracle call.fuel with
    ⟨current, heq, hkeeps⟩ | ⟨hkeeps, heq⟩
  · constructor
    · intro _
      exact Or.inl ⟨current, hkeeps⟩
    · intro _ port hport
      rw [heq] at hport
      cases hport
      exact hkeeps.2.1
  · rw [← selectedPort_free_iff hkeeps, heq]
    constructor
    · intro h port hselected
      apply h port
      simp only [OddBoxV3Config.finishActivePort, hselected]
    · intro h port hport
      rcases finishActivePort_ok hport with hselected | hfree
      · exact h port hselected
      · exact hfree

/-- No two processes hold the same active port. -/
def OddBoxV3Config.NoClash (self : OddBoxV3Config) : Prop :=
  ∀ a ∈ self.sites, ∀ b ∈ self.sites, a.procId ≠ b.procId →
    ∀ port, a.activePort = some port → b.activePort ≠ some port

/-- A call whose port is nobody else's makes no clash. -/
theorem OddBoxV3Config.NoClash.call {self : OddBoxV3Config} (hclash : self.NoClash)
    {call : PortCall}
    (hexclusive : self.Exclusive call) : (self.call call).NoClash := by
  have hsites : ∀ site ∈ (self.call call).sites, site ∈ self.sites ∨
      (site.procId = call.proc.procId ∧
        ∃ port, (self.setActivePort call.proc call.oracle call.fuel).1 = .ok port ∧
          site.activePort = some port) := by
    intro site hsite
    simp only [OddBoxV3Config.call] at hsite
    rcases setActivePort_eq self call.proc call.oracle call.fuel with ⟨current, heq, -⟩ | ⟨-, heq⟩
    · rw [heq] at hsite
      exact Or.inl hsite
    · rw [heq] at hsite ⊢
      simp only [OddBoxV3Config.finishActivePort] at hsite ⊢
      split at hsite
      · rename_i port hresult
        simp only [OddBoxV3Config.sites] at hsite ⊢
        cases hhosted : self.hostedProcess with
        | none => rw [hhosted] at hsite; cases hsite
        | some sites =>
          rw [hhosted] at hsite
          rcases markActive_own sites hsite with h | ⟨hid, hactive⟩
          · exact Or.inl h
          · exact Or.inr ⟨hid, port, rfl, hactive⟩
      · exact Or.inl hsite
  intro a ha b hb hid port haport hbport
  rcases hsites a ha with ha' | ⟨hida, p, hp, hpa⟩
  · rcases hsites b hb with hb' | ⟨hidb, p, hp, hpb⟩
    · exact hclash a ha' b hb' hid port haport hbport
    · rw [hpb] at hbport
      cases hbport
      exact hexclusive port hp a ha (hidb ▸ hid) (Or.inr haport)
  · rw [hpa] at haport
    cases haport
    apply hexclusive port hp b hb _ (Or.inr hbport)
    rw [← hida]
    exact Ne.symm hid

/-- **Port exclusivity**: in every state a call returns a port that no other
process uses if and only if it is safe, and over every sequence of safe calls
from a state without clashes no two processes ever hold the same active port. -/
theorem port_exclusivity (initial : OddBoxV3Config) (call : PortCall) (calls : List PortCall) :
    (initial.Exclusive call ↔ initial.SafeCall call) ∧
    (initial.NoClash →
      Machine.Meets OddBoxV3Config.call OddBoxV3Config.SafeCall initial calls →
      (Machine.run OddBoxV3Config.call initial calls).NoClash) := by
  refine ⟨exclusive_iff_safe initial call, ?_⟩
  intro hstart hsafe
  apply hsafe.invariant _ hstart
  intro config call hclash hcall
  exact hclash.call ((exclusive_iff_safe config call).mpr hcall)

/-- A site without settings of its own. -/
def plainSite (id : String) (activePort : Option UInt16) : InProcessSiteConfig where
  procId := ⟨id⟩
  activePort
  terminateTls := none
  terminateHttp := none
  hints := none
  hostName := id
  dir := none
  bin := "run"
  args := none
  envVars := none
  logFormat := none
  autoStart := none
  port := none
  https := none
  captureSubdomains := none
  forwardSubdomains := none
  excludeFromStartAll := none
  enableLetsEncrypt := none
  logLevel := none
  redirectToHttps := none

/-- Two sites, of which the first is active on the first automatic port. -/
def twoSites : OddBoxV3Config where
  path := none
  version := .v3
  rootDir := none
  logLevel := none
  alpn := none
  portRangeStart := 4200
  defaultLogFormat := .standard
  ip := none
  httpPort := none
  tlsPort := none
  autoStart := none
  envVars := []
  remoteTarget := none
  hostedProcess := some [plainSite "a" (some 4200), plainSite "b" none]
  dirServer := none
  letsEncryptAccountEmail := none
  oddBoxUrl := none
  oddBoxPassword := none
  useLoopbackIpForProcs := none

/-- A call for the second site, whose loop still holds the given port; every
port is free. -/
def startSecond (held : Option UInt16) : PortCall where
  proc := ⟨⟨"b"⟩, held, "b", none, none⟩
  oracle := ⟨true, fun _ _ => true, none, false⟩
  fuel := 2

theorem twoSites_noClash : twoSites.NoClash := by
  intro a ha b hb hid port haport hbport
  simp only [twoSites, OddBoxV3Config.sites, Option.getD_some, List.mem_cons,
    List.not_mem_nil, or_false] at ha hb
  rcases ha with rfl | rfl <;> rcases hb with rfl | rfl
  · exact hid rfl
  · cases hbport
  · cases haport
  · exact hid rfl

theorem startSecond_noClash :
    (Machine.run OddBoxV3Config.call twoSites [startSecond none]).NoClash := by
  apply (port_exclusivity twoSites (startSecond none) [startSecond none]).2 twoSites_noClash
  refine ⟨Or.inr ?_, trivial⟩
  rintro ⟨current, hactive, -⟩
  cases hactive

/-- A stale port is handed out again: the second site gets the port on which
the first one is active. -/
theorem staleSecond_clash :
    twoSites.NoClash ∧ (twoSites.setActivePort (startSecond (some 4200)).proc
        (startSecond (some 4200)).oracle 2).1 = .ok 4200 ∧
      ¬ (Machine.run OddBoxV3Config.call twoSites [startSecond (some 4200)]).NoClash := by
  refine ⟨twoSites_noClash, by decide, ?_⟩
  intro h
  apply h (plainSite "a" (some 4200)) (by decide) (plainSite "b" (some 4200)) (by decide)
    (by decide) 4200 rfl rfl

end OddBox.Configuration

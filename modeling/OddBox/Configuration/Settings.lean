import Mathlib
import OddBox.Configuration.V3

/-!
What the settings of a version 3 configuration are: every absent one is replaced by
the value its absence stands for. The path, the process identifiers and the active
ports are no settings.
-/

namespace OddBox.Configuration

/-- An absent truth value is false to all of its consumers. -/
def flag (option : Option Bool) : Option Bool := some (option.getD false)

theorem flag_none_iff (option : Option Bool) : flag none = flag option ↔ option ≠ some true := by
  match option with
  | some true => decide
  | some false => decide
  | none => decide

/-- An absent list is empty to all of its consumers. -/
def entries {α : Type} (option : Option (List α)) : Option (List α) := some (option.getD [])

def DirServer.settings (s : DirServer) : DirServer :=
  { s with
    captureSubdomains := flag s.captureSubdomains
    enableLetsEncrypt := flag s.enableLetsEncrypt
    enableDirectoryBrowsing := flag s.enableDirectoryBrowsing
    redirectToHttps := flag s.redirectToHttps
    renderMarkdown := flag s.renderMarkdown }

def Backend.settings (b : Backend) : Backend :=
  { b with
    https := flag b.https
    hints := entries b.hints }

def RemoteSiteConfig.settings (site : RemoteSiteConfig) : RemoteSiteConfig :=
  { hostName := site.hostName
    backends := site.backends.map Backend.settings
    captureSubdomains := flag site.captureSubdomains
    terminateTls := flag site.terminateTls
    terminateHttp := flag site.terminateHttp
    forwardSubdomains := flag site.forwardSubdomains
    enableLetsEncrypt := flag site.enableLetsEncrypt
    keepOriginalHostHeader := flag site.keepOriginalHostHeader
    redirectToHttps := flag site.redirectToHttps }

/-- What the document says for the processes that say nothing themselves. -/
structure Defaults where
  logFormat : LogFormat
  autoStart : Bool

def InProcessSiteConfig.settings (defaults : Defaults) (process : InProcessSiteConfig) :
    InProcessSiteConfig :=
  { procId := ⟨""⟩
    activePort := none
    terminateTls := flag process.terminateTls
    terminateHttp := flag process.terminateHttp
    hints := entries process.hints
    hostName := process.hostName
    dir := process.dir
    bin := process.bin
    args := entries process.args
    envVars := entries process.envVars
    logFormat := some (process.logFormat.getD defaults.logFormat)
    autoStart := some (process.autoStart.getD defaults.autoStart)
    port := process.port
    https := flag process.https
    captureSubdomains := flag process.captureSubdomains
    forwardSubdomains := flag process.forwardSubdomains
    excludeFromStartAll := flag process.excludeFromStartAll
    enableLetsEncrypt := flag process.enableLetsEncrypt
    logLevel := some (process.logLevel.getD .info)
    redirectToHttps := flag process.redirectToHttps }

def OddBoxV3Config.defaults (config : OddBoxV3Config) : Defaults :=
  ⟨config.defaultLogFormat, config.autoStart.getD true⟩

/-- The absent keys of the document stand for the defaults of the deserialiser and,
for the address and the lists, of their consumers. No text stands for an absent
`root_dir`, which is the directory that the program was started in. -/
def OddBoxV3Config.settings (config : OddBoxV3Config) : OddBoxV3Config :=
  { config with
    path := none
    logLevel := some (config.logLevel.getD .info)
    alpn := some (config.alpn.getD true)
    ip := some (config.ip.getD (.v4 127 0 0 1))
    httpPort := some (config.httpPort.getD 8080)
    tlsPort := some (config.tlsPort.getD 4343)
    autoStart := some (config.autoStart.getD true)
    remoteTarget := some ((config.remoteTarget.getD []).map RemoteSiteConfig.settings)
    hostedProcess := some
      ((config.hostedProcess.getD []).map (InProcessSiteConfig.settings config.defaults))
    dirServer := some ((config.dirServer.getD []).map DirServer.settings)
    useLoopbackIpForProcs := some (config.useLoopbackIpForProcs.getD true) }

/-- Numbers given to the items of a list, as identifiers are to processes, do not
matter to a view that does not show them. -/
theorem map_numbered {α β γ : Type} (make : α → Nat → β) {view : β → γ} {g : α → γ}
    (h : ∀ x n, view (make x n) = g x) (items : List α) :
    (items.zipIdx.map fun item => make item.1 item.2).map view = items.map g := by
  rw [List.map_map]
  have hview : (view ∘ fun item : α × Nat => make item.1 item.2) = g ∘ Prod.fst := by
    funext item
    exact h item.1 item.2
  rw [hview, ← List.map_map, List.zipIdx_map_fst]

theorem forall_numbered {α β : Type} {make : α → Nat → β} {P : β → Prop} {Q : α → Prop}
    (h : ∀ x n, P (make x n) ↔ Q x) (items : List α) :
    (∀ y ∈ items.zipIdx.map fun item => make item.1 item.2, P y) ↔ ∀ x ∈ items, Q x := by
  rw [List.forall_mem_map]
  constructor
  · intro hall x hx
    rw [← List.zipIdx_map_fst 0 items] at hx
    obtain ⟨item, hitem, rfl⟩ := List.mem_map.mp hx
    exact (h item.1 item.2).mp (hall item hitem)
  · intro hall item hitem
    refine (h item.1 item.2).mpr (hall item.1 ?_)
    rw [← List.zipIdx_map_fst 0 items]
    exact List.mem_map_of_mem hitem

end OddBox.Configuration

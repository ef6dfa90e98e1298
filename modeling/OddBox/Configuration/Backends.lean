import OddBox.Configuration.V3

/-!
The choice of a backend: `filter_backend` and `next_backend` of `configuration/v3.rs`.
-/

namespace OddBox.Configuration

inductive BackendFilter where
  | any
  | h2OrH2cpk
  /-- Implies TLS. -/
  | http2
  | http1
  | h2cPriorKnowledge
  | h2c
  | anyTls
  deriving DecidableEq, Repr

def Backend.hintList (backend : Backend) : List Hint := backend.hints.getD []

def filterBackend (backend : Backend) : BackendFilter → Bool
  | .any => true
  | .anyTls => backend.https.getD false
  | .h2OrH2cpk => backend.hintList.any fun hint => hint == .h2 || hint == .h2cpk
  | .http2 => backend.hintList.any fun hint => hint == .h2
  -- without hints HTTP/1 is assumed
  | .http1 => backend.hintList.isEmpty || backend.hintList.any fun hint => hint == .h1
  | .h2cPriorKnowledge => backend.hintList.any fun hint => hint == .h2cpk
  | .h2c => backend.hintList.any fun hint => hint == .h2c

/-- `lb_access_count_per_hostname`. -/
abbrev AccessCounts := String → Option Nat

/-- The last part of `next_backend`: of several backends the counter chooses one. -/
def selectBackend (filteredBackends : List Backend) (currentReqCount : Nat) : Option Backend :=
  match filteredBackends with
  | [] => none
  | [backend] => some backend
  | backends => backends[currentReqCount % backends.length]?

/-- The one backend of a hosted process. -/
def InProcessSiteConfig.backend (self : InProcessSiteConfig) (localAddr : String) : Backend where
  address := localAddr
  port := self.activePort.getD (self.port.getD (if self.https.getD false then 443 else 80))
  https := self.https
  hints := self.hints

def InProcessSiteConfig.nextBackend (self : InProcessSiteConfig) (localAddr : String)
    (counts : AccessCounts) (backendFilter : BackendFilter) : Option Backend :=
  selectBackend ([self.backend localAddr].filter fun backend => filterBackend backend backendFilter)
    ((counts self.hostName).getD 0)

def RemoteSiteConfig.nextBackend (self : RemoteSiteConfig) (counts : AccessCounts)
    (backendFilter : BackendFilter) : Option Backend :=
  selectBackend (self.backends.filter fun backend => filterBackend backend backendFilter)
    ((counts self.hostName).getD 0)

theorem selectBackend_mem {backends : List Backend} {count : Nat} {backend : Backend}
    (h : selectBackend backends count = some backend) : backend ∈ backends := by
  unfold selectBackend at h
  split at h
  · cases h
  · cases h
    exact List.mem_singleton_self _
  · exact List.mem_of_getElem? h

/-- With the right count every backend is chosen. -/
theorem exists_selectBackend {backends : List Backend} {backend : Backend}
    (h : backend ∈ backends) : ∃ count, selectBackend backends count = some backend := by
  obtain ⟨index, hindex, hget⟩ := List.getElem_of_mem h
  refine ⟨index, ?_⟩
  unfold selectBackend
  split
  · cases h
  · rw [List.mem_singleton] at h
    rw [h]
  · rw [Nat.mod_eq_of_lt hindex, List.getElem?_eq_getElem hindex, hget]

end OddBox.Configuration

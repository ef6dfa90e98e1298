import Mathlib.Data.List.Forall2
import OddBox.Configuration.Backends
import OddBox.Configuration.Upgrade
import OddBox.Configuration.Validity

/-!
What the protocols a backend is asked for become through an upgrade. Before version 3
a hint never took HTTP/1 away; in version 3 a list of hints that does not name it does.
-/

namespace OddBox.Configuration

/-- The backend is accepted for what the old hints and the old `https` say. -/
structure Reaches (hints : List V2.Hint) (https : Option Bool) (backend : Backend) :
    Prop where
  http1 : filterBackend backend .http1 = true
  http2 : filterBackend backend .http2 = true ↔ V2.Hint.h2 ∈ hints
  h2c : filterBackend backend .h2c = true ↔ V2.Hint.h2c ∈ hints
  h2cPriorKnowledge : filterBackend backend .h2cPriorKnowledge = true ↔ V2.Hint.h2cpk ∈ hints
  h2OrH2cpk : filterBackend backend .h2OrH2cpk = true ↔
    V2.Hint.h2 ∈ hints ∨ V2.Hint.h2cpk ∈ hints
  anyTls : filterBackend backend .anyTls = true ↔ https = some true
  noHints : backend.hints = none ↔ ∀ hint ∈ hints, hint = V2.Hint.noh2

/-! ## The new list of hints -/

theorem Hint.ofV2_eq_none {hint : V2.Hint} : Hint.ofV2 hint = none ↔ hint = .noh2 := by
  cases hint <;> simp [Hint.ofV2]

theorem Hint.ofV2_ne_h1 (hint : V2.Hint) : Hint.ofV2 hint ≠ some .h1 := by
  cases hint <;> simp [Hint.ofV2]

theorem Hint.ofV2_injective {hint other : V2.Hint} {new : Hint}
    (h : Hint.ofV2 hint = some new) (h' : Hint.ofV2 other = some new) : hint = other := by
  have heq : Hint.ofV2 hint = Hint.ofV2 other := h.trans h'.symm
  cases hint <;> cases other <;> first | rfl | cases heq

theorem newHints_eq_none {hints : Option (List V2.Hint)} :
    newHints hints = none ↔ ∀ hint ∈ hints.getD [], hint = V2.Hint.noh2 := by
  have hempty : newHints hints = none ↔ (hints.getD []).filterMap Hint.ofV2 = [] := by
    unfold newHints
    cases (hints.getD []).filterMap Hint.ofV2 with
    | nil => simp
    | cons first rest => simp
  rw [hempty, List.filterMap_eq_nil_iff]
  constructor
  · intro h hint hmem
    exact Hint.ofV2_eq_none.mp (h hint hmem)
  · intro h hint hmem
    exact Hint.ofV2_eq_none.mpr (h hint hmem)

/-- Whatever list it is, HTTP/1 is either assumed or appended. -/
theorem newHints_http1 (hints : Option (List V2.Hint)) :
    (newHints hints).getD [] = [] ∨ Hint.h1 ∈ (newHints hints).getD [] := by
  unfold newHints
  cases (hints.getD []).filterMap Hint.ofV2 with
  | nil => left; rfl
  | cons first rest => right; simp

/-- A hint other than HTTP/1 is in the new list when the old one had it. -/
theorem mem_newHints {hints : Option (List V2.Hint)} {hint : V2.Hint} {new : Hint}
    (hnew : Hint.ofV2 hint = some new) :
    new ∈ (newHints hints).getD [] ↔ hint ∈ hints.getD [] := by
  have hh1 : new ≠ .h1 := by
    intro h
    exact Hint.ofV2_ne_h1 hint (h ▸ hnew)
  have hlist : new ∈ (newHints hints).getD [] ↔
      new ∈ (hints.getD []).filterMap Hint.ofV2 := by
    unfold newHints
    cases (hints.getD []).filterMap Hint.ofV2 with
    | nil => simp
    | cons first rest => simp [hh1]
  rw [hlist, List.mem_filterMap]
  constructor
  · rintro ⟨other, hmem, hother⟩
    rwa [Hint.ofV2_injective hnew hother]
  · intro hmem
    exact ⟨hint, hmem, hnew⟩

/-- What a backend with the new hints and the old `https` is accepted for. -/
theorem Reaches.of_newHints {hints : Option (List V2.Hint)} {https : Option Bool}
    {backend : Backend} (hhints : backend.hints = newHints hints)
    (hhttps : backend.https = https) : Reaches (hints.getD []) https backend := by
  have hasked {asked : Hint} {hint : V2.Hint} (hnew : Hint.ofV2 hint = some asked) :
      (backend.hintList.any fun h => h == asked) = true ↔ hint ∈ hints.getD [] := by
    rw [← mem_newHints hnew, Backend.hintList, hhints, List.any_beq', List.contains_iff_mem]
  exact {
    http1 := by
      have h := newHints_http1 hints
      rw [← hhints] at h
      simpa [filterBackend, Backend.hintList] using h
    http2 := hasked rfl
    h2c := hasked rfl
    h2cPriorKnowledge := hasked rfl
    h2OrH2cpk := by
      have hor : filterBackend backend .h2OrH2cpk = true ↔
          filterBackend backend .http2 = true ∨
            filterBackend backend .h2cPriorKnowledge = true := by
        simp only [filterBackend, List.any_eq_true, Bool.or_eq_true, and_or_left, exists_or]
      rw [hor]
      exact or_congr (hasked rfl) (hasked rfl)
    anyTls := by
      rw [← hhttps]
      cases hb : backend.https <;> simp [filterBackend, hb]
    noHints := by
      rw [hhints]
      exact newHints_eq_none }

/-! ## Sites -/

def V2.Backend.KeptAs (old : V2.Backend) (new : Configuration.Backend) : Prop :=
  new.address = old.address ∧ new.port = old.port ∧
    Reaches (old.hints.getD []) old.https new

def V2.RemoteSiteConfig.KeptAs (old : V2.RemoteSiteConfig)
    (new : Configuration.RemoteSiteConfig) : Prop :=
  new.hostName = old.hostName ∧ List.Forall₂ V2.Backend.KeptAs old.backends new.backends

def V2.InProcessSiteConfig.KeptAs (old : V2.InProcessSiteConfig)
    (new : Configuration.InProcessSiteConfig) : Prop :=
  new.hostName = old.hostName ∧
    ∀ localAddr, Reaches (old.hints.getD []) old.https (new.backend localAddr)

/-- The hints that a version 1 site has: at most one. -/
def V1.H2Hint.hints : Option V1.H2Hint → List V2.Hint
  | none => []
  | some .h2 => [.h2]
  | some .h2c => [.h2c]

/-- A remote site of version 1 is its own and only backend. -/
def V1.RemoteSiteConfig.KeptAs (old : V1.RemoteSiteConfig)
    (new : Configuration.RemoteSiteConfig) : Prop :=
  new.hostName = old.hostName ∧ ∃ backend, new.backends = [backend] ∧
    backend.address = old.targetHostname ∧
    Reaches (V1.H2Hint.hints old.h2Hint) old.https backend

def V1.InProcessSiteConfig.KeptAs (old : V1.InProcessSiteConfig)
    (new : Configuration.InProcessSiteConfig) : Prop :=
  new.hostName = old.hostName ∧
    ∀ localAddr, Reaches (V1.H2Hint.hints old.h2Hint) old.https (new.backend localAddr)

theorem V1.H2Hint.toHints_getD (hint : Option V1.H2Hint) :
    (V1.H2Hint.toHints hint).getD [] = V1.H2Hint.hints hint := by
  cases hint with
  | none => rfl
  | some hint => cases hint <;> rfl

theorem Backend.keptAs_ofV2 (old : V2.Backend) : old.KeptAs (Backend.ofV2 old) :=
  ⟨rfl, rfl, Reaches.of_newHints rfl rfl⟩

theorem RemoteSiteConfig.keptAs_ofV2 (old : V2.RemoteSiteConfig) :
    old.KeptAs (RemoteSiteConfig.ofV2 old) := by
  refine ⟨rfl, ?_⟩
  rw [RemoteSiteConfig.ofV2, List.forall₂_map_right_iff, List.forall₂_same]
  intro backend _
  exact Backend.keptAs_ofV2 backend

theorem InProcessSiteConfig.keptAs_ofV2 (procId : ProcId) (old : V2.InProcessSiteConfig) :
    old.KeptAs (InProcessSiteConfig.ofV2 procId old) :=
  ⟨rfl, fun _ => Reaches.of_newHints rfl rfl⟩

/-- Through both conversions a site of version 1 keeps what its own hint said. -/
theorem RemoteSiteConfig.keptAs_ofV1 (old : V1.RemoteSiteConfig) :
    old.KeptAs (RemoteSiteConfig.ofV2 (V2.RemoteSiteConfig.ofV1 old)) := by
  refine ⟨rfl, _, rfl, rfl, ?_⟩
  rw [← V1.H2Hint.toHints_getD]
  exact Reaches.of_newHints rfl rfl

theorem InProcessSiteConfig.keptAs_ofV1 (procId procId' : ProcId)
    (old : V1.InProcessSiteConfig) :
    old.KeptAs (InProcessSiteConfig.ofV2 procId' (V2.InProcessSiteConfig.ofV1 procId old)) := by
  refine ⟨rfl, fun localAddr => ?_⟩
  rw [← V1.H2Hint.toHints_getD]
  exact Reaches.of_newHints rfl rfl

/-! ## Configurations -/

structure V2.OddBoxV2Config.ReachedIn (old : V2.OddBoxV2Config) (new : OddBoxV3Config) :
    Prop where
  processes : List.Forall₂ V2.InProcessSiteConfig.KeptAs (old.hostedProcess.getD []) new.sites
  targets : List.Forall₂ V2.RemoteSiteConfig.KeptAs (old.remoteTarget.getD []) new.remoteTargets

structure V1.OddBoxV1Config.ReachedIn (old : V1.OddBoxV1Config) (new : OddBoxV3Config) :
    Prop where
  processes : List.Forall₂ V1.InProcessSiteConfig.KeptAs (old.hostedProcess.getD []) new.sites
  targets : List.Forall₂ V1.RemoteSiteConfig.KeptAs (old.remoteTarget.getD []) new.remoteTargets

/-- The conversions number the processes they give new identifiers to. -/
theorem forall₂_map_zipIdx {α β γ : Type} {S : α → β → Prop} {R : α → γ → Prop}
    {xs : List α} {ys : List β} (f : β × Nat → γ) (h : List.Forall₂ S xs ys)
    (hf : ∀ x y index, S x y → R x (f (y, index))) (start : Nat) :
    List.Forall₂ R xs ((ys.zipIdx start).map f) := by
  induction h generalizing start with
  | nil => exact .nil
  | cons hxy _ ih => exact .cons (hf _ _ start hxy) (ih (start + 1))

theorem V2.OddBoxV2Config.reachedIn_tryFrom (newId : Nat → ProcId)
    (old : V2.OddBoxV2Config) :
    ∃ new, OddBoxV3Config.tryFrom newId old = .ok new ∧ old.ReachedIn new := by
  refine ⟨_, rfl, ?_, ?_⟩
  · apply forall₂_map_zipIdx (S := Eq) _ (List.forall₂_refl _)
    rintro process _ index rfl
    exact InProcessSiteConfig.keptAs_ofV2 _ process
  · refine List.forall₂_map_right_iff.mpr (List.forall₂_same.mpr fun site _ => ?_)
    exact RemoteSiteConfig.keptAs_ofV2 site

/-- The filters accept the same backends after an upgrade as the old hints say, and
HTTP/1 always. -/
theorem upgrade_keeps_reachability (newId : OddBoxConfigVersion → Nat → ProcId) :
    (∀ old : V2.OddBoxV2Config, ∃ new,
      AnyOddBoxConfig.tryUpgradeToLatestVersion newId (.v2 old) = .ok (new, .v2, true) ∧
      old.ReachedIn new) ∧
    (∀ old : V1.OddBoxV1Config, ∃ new,
      AnyOddBoxConfig.tryUpgradeToLatestVersion newId (.v1 old) = .ok (new, .v1, true) ∧
      old.ReachedIn new) := by
  constructor
  · intro old
    obtain ⟨new, hnew, hreached⟩ := old.reachedIn_tryFrom (newId .v3)
    exact ⟨new, by rw [AnyOddBoxConfig.tryUpgradeToLatestVersion, hnew]; rfl, hreached⟩
  · intro old
    refine ⟨_, rfl, ?_, ?_⟩
    · have hmiddle : List.Forall₂
          (fun site middle => ∃ procId, middle = V2.InProcessSiteConfig.ofV1 procId site)
          (old.hostedProcess.getD []) ((old.hostedProcess.getD []).zipIdx.map fun item =>
            V2.InProcessSiteConfig.ofV1 (newId .v2 item.2) item.1) := by
        apply forall₂_map_zipIdx (S := Eq) _ (List.forall₂_refl _)
        rintro process _ index rfl
        exact ⟨_, rfl⟩
      apply forall₂_map_zipIdx _ hmiddle
      rintro process _ index ⟨procId, rfl⟩
      exact InProcessSiteConfig.keptAs_ofV1 procId _ process
    · refine List.forall₂_map_right_iff.mpr (List.forall₂_map_right_iff.mpr ?_)
      refine List.forall₂_same.mpr fun site _ => ?_
      exact RemoteSiteConfig.keptAs_ofV1 site

end OddBox.Configuration

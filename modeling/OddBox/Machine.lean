import Mathlib

/-!
Runs of a state machine with a total step function, and the two rules for what
holds of all states of a run: an invariant that every step keeps, and one that
the steps keep which meet a condition on the state before them. What a view shows
of a run does not depend on the steps that it does not see.
-/

namespace OddBox.Machine

variable {σ op : Type*} (step : σ → op → σ)

def run (s : σ) (ops : List op) : σ := ops.foldl step s

@[simp] theorem run_nil (s : σ) : run step s [] = s := rfl

@[simp] theorem run_cons (s : σ) (o : op) (ops : List op) :
    run step s (o :: ops) = run step (step s o) ops := rfl

@[simp] theorem run_append (s : σ) (first second : List op) :
    run step s (first ++ second) = run step (run step s first) second :=
  List.foldl_append

/-- Every step of the run meets a condition on the state it is taken from. -/
def Meets (cond : σ → op → Prop) : σ → List op → Prop
  | _, [] => True
  | s, o :: ops => cond s o ∧ Meets cond (step s o) ops

instance Meets.decidable (cond : σ → op → Prop) [∀ s o, Decidable (cond s o)] :
    ∀ (s : σ) (ops : List op), Decidable (Meets step cond s ops)
  | _, [] => isTrue trivial
  | s, o :: ops =>
    have := Meets.decidable cond (step s o) ops
    inferInstanceAs (Decidable (_ ∧ _))

variable {step}

/-- What steps under the condition keep holds after every run under it. -/
theorem Meets.invariant {cond : σ → op → Prop} {I : σ → Prop}
    (hstep : ∀ s o, I s → cond s o → I (step s o)) {s : σ} {ops : List op}
    (hmeets : Meets step cond s ops) (hs : I s) : I (run step s ops) := by
  induction ops generalizing s with
  | nil => exact hs
  | cons o ops ih => exact ih hmeets.2 (hstep s o hs hmeets.1)

/-- It also holds in every state on the way. -/
theorem Meets.always {cond : σ → op → Prop} {I : σ → Prop}
    (hstep : ∀ s o, I s → cond s o → I (step s o)) {s : σ} {ops first : List op}
    (hmeets : Meets step cond s ops) (hs : I s) (hfirst : first <+: ops) :
    I (run step s first) := by
  induction ops generalizing s first with
  | nil =>
    obtain rfl := List.prefix_nil.mp hfirst
    exact hs
  | cons o ops ih =>
    cases first with
    | nil => exact hs
    | cons o' first =>
      obtain ⟨rfl, hrest⟩ := List.cons_prefix_cons.mp hfirst
      rw [run_cons]
      exact ih hmeets.2 (hstep s o' hs hmeets.1) hrest

/-- What every step keeps holds after every run. -/
theorem run_invariant {I : σ → Prop} (hstep : ∀ s o, I s → I (step s o)) {s : σ}
    (hs : I s) (ops : List op) : I (run step s ops) := by
  induction ops generalizing s with
  | nil => exact hs
  | cons o ops ih => exact ih (hstep s o hs)

/-- Where, of the steps that a run may take, exactly those under the condition keep what
held before, it holds in every state of a run exactly when the run is under the condition. -/
theorem meets_iff_under {cond may : σ → op → Prop} {I J : σ → Prop}
    (hkept : ∀ s o, J s → J (step s o))
    (hstep : ∀ s o, J s → may s o → I s → (I (step s o) ↔ cond s o))
    {s : σ} {ops : List op} (hmay : Meets step may s ops) (hJ : J s) (hs : I s) :
    (∀ first, first <+: ops → I (run step s first)) ↔ Meets step cond s ops := by
  induction ops generalizing s with
  | nil =>
    refine iff_of_true ?_ trivial
    intro first hfirst
    obtain rfl := List.prefix_nil.mp hfirst
    exact hs
  | cons o ops ih =>
    obtain ⟨hfirstMay, hrestMay⟩ := hmay
    constructor
    · intro hall
      have hnext := hall [o] (by simp)
      refine ⟨(hstep s o hJ hfirstMay hs).mp hnext, (ih hrestMay (hkept s o hJ) hnext).mp ?_⟩
      intro first hfirst
      exact hall (o :: first) (List.cons_prefix_cons.mpr ⟨rfl, hfirst⟩)
    · rintro ⟨hcond, hmeets⟩ first hfirst
      cases first with
      | nil => exact hs
      | cons o' first =>
        obtain ⟨rfl, hrest⟩ := List.cons_prefix_cons.mp hfirst
        have hnext := (hstep s o' hJ hfirstMay hs).mpr hcond
        exact (ih hrestMay (hkept s o' hJ) hnext).mpr hmeets first hrest

theorem meets_true (s : σ) (ops : List op) : Meets step (fun _ _ => True) s ops := by
  induction ops generalizing s with
  | nil => trivial
  | cons o ops ih => exact ⟨trivial, ih (step s o)⟩

/-- A condition on the steps alone. -/
theorem meets_of_forall {cond : op → Prop} {ops : List op} (h : ∀ o ∈ ops, cond o) (s : σ) :
    Meets step (fun _ => cond) s ops := by
  induction ops generalizing s with
  | nil => trivial
  | cons o ops ih =>
    obtain ⟨hfirst, hrest⟩ := List.forall_mem_cons.mp h
    exact ⟨hfirst, ih hrest (step s o)⟩

theorem Meets.and {first second : σ → op → Prop} {s : σ} {ops : List op}
    (hfirst : Meets step first s ops) (hsecond : Meets step second s ops) :
    Meets step (fun s o => first s o ∧ second s o) s ops := by
  induction ops generalizing s with
  | nil => trivial
  | cons o ops ih => exact ⟨⟨hfirst.1, hsecond.1⟩, ih hfirst.2 hsecond.2⟩

/-- The rule for runs that may take every step. -/
theorem meets_iff {cond : σ → op → Prop} {I J : σ → Prop}
    (hkept : ∀ s o, J s → J (step s o)) (hstep : ∀ s o, J s → I s → (I (step s o) ↔ cond s o))
    {s : σ} (ops : List op) (hJ : J s) (hs : I s) :
    (∀ first, first <+: ops → I (run step s first)) ↔ Meets step cond s ops := by
  apply meets_iff_under hkept
  · intro s o hJ _ hs
    exact hstep s o hJ hs
  · exact meets_true s ops
  · exact hJ
  · exact hs

/-- Where no step lowers a potential and every step outside the condition raises it, a run
that ends no higher than it started is under the condition. -/
theorem meets_of_le {π : Type*} [Preorder π] {cond : σ → op → Prop} {J : σ → Prop} (v : σ → π)
    (hkept : ∀ s o, J s → J (step s o)) (hmono : ∀ s o, J s → v s ≤ v (step s o))
    (hstrict : ∀ s o, J s → ¬ cond s o → v s < v (step s o))
    {s : σ} {ops : List op} (hJ : J s) (hle : v (run step s ops) ≤ v s) :
    Meets step cond s ops := by
  have hrun : ∀ (ops : List op) (s : σ), J s → v s ≤ v (run step s ops) := by
    intro ops
    induction ops with
    | nil =>
      intro s _
      exact le_refl _
    | cons o ops ih =>
      intro s hJ
      exact (hmono s o hJ).trans (ih _ (hkept s o hJ))
  induction ops generalizing s with
  | nil => trivial
  | cons o ops ih =>
    have hnext := hrun ops _ (hkept s o hJ)
    refine ⟨?_, ih (hkept s o hJ) (hle.trans (hmono s o hJ))⟩
    by_contra hcond
    exact absurd (hnext.trans hle) (not_le_of_gt (hstrict s o hJ hcond))

/-- Where the steps that are not seen keep what the view shows, and the others make of it what
depends on nothing else, the run shows what it shows without the steps that are not seen. -/
theorem view_run {ν : Type*} {view : σ → ν} {seen : op → Bool} {cond : σ → op → Prop}
    (hunseen : ∀ s o, seen o = false → cond s o → view (step s o) = view s)
    (hseen : ∀ s t o, seen o = true → view s = view t → view (step s o) = view (step t o))
    {s t : σ} {ops : List op} (hmeets : Meets step cond s ops) (hview : view s = view t) :
    view (run step s ops) = view (run step t (ops.filter seen)) := by
  induction ops generalizing s t with
  | nil => exact hview
  | cons o ops ih =>
    rw [run_cons]
    cases ho : seen o with
    | false =>
      rw [List.filter_cons_of_neg (by simp [ho])]
      exact ih hmeets.2 ((hunseen s o ho hmeets.1).trans hview)
    | true =>
      rw [List.filter_cons_of_pos ho, run_cons]
      exact ih hmeets.2 (hseen s t o ho hview)

end OddBox.Machine

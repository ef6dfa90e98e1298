import Mathlib

/-!
Scans that stop at the first element that answers. A question can also fail, and
then the whole scan fails with it.
-/

namespace OddBox.FirstMatch

universe u v w

inductive Answer (β : Type v) where
  | no
  | yes (value : β)
  | failed
  deriving DecidableEq, Repr

variable {α : Type u} {β : Type v} {γ : Type w}

/-- What has been found gives way to a later answer. -/
def Answer.replacedBy (result : Answer β) : Answer β → Answer β
  | .no => result
  | found => found

def Answer.map (f : β → γ) : Answer β → Answer γ
  | .no => .no
  | .yes value => .yes (f value)
  | .failed => .failed

def firstMatch (answer : α → Answer β) : List α → Answer (α × β)
  | [] => .no
  | x :: xs => match answer x with
    | .no => firstMatch answer xs
    | .yes value => .yes (x, value)
    | .failed => .failed

/-- Nothing in the list answers. -/
def Silent (answer : α → Answer β) (xs : List α) : Prop :=
  ∀ x ∈ xs, answer x = .no

/-- The element answers, and nothing before it does. -/
def IsFirst (answer : α → Answer β) (xs : List α) (x : α) (value : β) : Prop :=
  ∃ before after, xs = before ++ x :: after ∧ Silent answer before ∧ answer x = .yes value

/-- No question fails that is asked before the first answer. -/
def Calm (answer : α → Answer β) (xs : List α) : Prop :=
  Silent answer xs ∨ ∃ x value, IsFirst answer xs x value

theorem Silent.nil {answer : α → Answer β} : Silent answer [] := by
  intro x hx
  cases hx

theorem Silent.cons {answer : α → Answer β} {x : α} {xs : List α} (hx : answer x = .no)
    (hxs : Silent answer xs) : Silent answer (x :: xs) := by
  intro y hy
  rcases List.mem_cons.mp hy with rfl | hy
  · exact hx
  · exact hxs y hy

theorem firstMatch_eq_no {answer : α → Answer β} {xs : List α} :
    firstMatch answer xs = .no ↔ Silent answer xs := by
  induction xs with
  | nil =>
    constructor
    · intro _
      exact Silent.nil
    · intro _
      rfl
  | cons x xs ih =>
    simp only [firstMatch]
    cases hx : answer x with
    | no =>
      rw [ih]
      constructor
      · exact Silent.cons hx
      · intro h y hy
        exact h y (List.mem_cons_of_mem _ hy)
    | yes value =>
      constructor
      · intro h
        cases h
      · intro h
        have hno := h x List.mem_cons_self
        rw [hx] at hno
        cases hno
    | failed =>
      constructor
      · intro h
        cases h
      · intro h
        have hno := h x List.mem_cons_self
        rw [hx] at hno
        cases hno

theorem firstMatch_eq_yes {answer : α → Answer β} {xs : List α} {x : α} {value : β} :
    firstMatch answer xs = .yes (x, value) ↔ IsFirst answer xs x value := by
  constructor
  · intro h
    induction xs with
    | nil => cases h
    | cons y ys ih =>
      simp only [firstMatch] at h
      cases hy : answer y with
      | no =>
        rw [hy] at h
        obtain ⟨before, after, rfl, hbefore, hx⟩ := ih h
        exact ⟨y :: before, after, rfl, hbefore.cons hy, hx⟩
      | yes other =>
        rw [hy] at h
        cases h
        exact ⟨[], ys, rfl, Silent.nil, hy⟩
      | failed =>
        rw [hy] at h
        cases h
  · rintro ⟨before, after, rfl, hbefore, hx⟩
    induction before with
    | nil => simp only [List.nil_append, firstMatch, hx]
    | cons y before ih =>
      have hy := hbefore y List.mem_cons_self
      simp only [List.cons_append, firstMatch, hy]
      exact ih fun z hz => hbefore z (List.mem_cons_of_mem _ hz)

theorem firstMatch_append (answer : α → Answer β) (xs ys : List α) :
    firstMatch answer (xs ++ ys) = (firstMatch answer ys).replacedBy (firstMatch answer xs) := by
  induction xs with
  | nil => rfl
  | cons x xs ih =>
    simp only [List.cons_append, firstMatch]
    cases answer x with
    | no => exact ih
    | yes value => rfl
    | failed => rfl

theorem Calm.first {answer : α → Answer β} {xs : List α} (h : Calm answer xs)
    (hanswer : ¬ Silent answer xs) : ∃ x value, IsFirst answer xs x value := by
  rcases h with h | h
  · exact absurd h hanswer
  · exact h

/-- The scan fails only where it meets a failing question. -/
theorem calm_iff {answer : α → Answer β} {xs : List α} :
    Calm answer xs ↔ firstMatch answer xs ≠ .failed := by
  rw [Calm, ← firstMatch_eq_no]
  constructor
  · rintro (h | ⟨x, value, h⟩)
    · rw [h]
      intro h
      cases h
    · rw [firstMatch_eq_yes.mpr h]
      intro h
      cases h
  · intro h
    cases hfirst : firstMatch answer xs with
    | no => exact Or.inl rfl
    | yes found => exact Or.inr ⟨found.1, found.2, firstMatch_eq_yes.mp hfirst⟩
    | failed => exact absurd hfirst h

theorem map_eq_no {found : Answer β} {f : β → γ} : found.map f = .no ↔ found = .no := by
  cases found <;> simp only [Answer.map, reduceCtorEq]

theorem map_eq_failed {found : Answer β} {f : β → γ} :
    found.map f = .failed ↔ found = .failed := by
  cases found <;> simp only [Answer.map, reduceCtorEq]

theorem map_eq_yes {found : Answer β} {f : β → γ} {c : γ} :
    found.map f = .yes c ↔ ∃ b, found = .yes b ∧ f b = c := by
  cases found with
  | no => simp only [Answer.map, reduceCtorEq, false_and, exists_false]
  | failed => simp only [Answer.map, reduceCtorEq, false_and, exists_false]
  | yes b => simp only [Answer.map, Answer.yes.injEq, exists_eq_left']

/-- An element found by a scan, with what is made of it. -/
theorem firstMatch_map_eq_yes {answer : α → Answer β} {xs : List α} {f : α × β → γ} {c : γ} :
    (firstMatch answer xs).map f = .yes c ↔
      ∃ x value, IsFirst answer xs x value ∧ f (x, value) = c := by
  rw [map_eq_yes]
  constructor
  · rintro ⟨⟨x, value⟩, hfirst, rfl⟩
    exact ⟨x, value, firstMatch_eq_yes.mp hfirst, rfl⟩
  · rintro ⟨x, value, hfirst, rfl⟩
    exact ⟨(x, value), firstMatch_eq_yes.mpr hfirst, rfl⟩

theorem IsFirst.mem {answer : α → Answer β} {xs : List α} {x : α} {value : β}
    (h : IsFirst answer xs x value) : x ∈ xs := by
  obtain ⟨before, after, rfl, -, -⟩ := h
  exact List.mem_append_right _ List.mem_cons_self

theorem IsFirst.answer {answer : α → Answer β} {xs : List α} {x : α} {value : β}
    (h : IsFirst answer xs x value) : answer x = .yes value := by
  obtain ⟨_, _, _, _, hx⟩ := h
  exact hx

/-- A narrower test finds the first element that answers, if it holds there. -/
theorem IsFirst.find? {answer : α → Answer β} {xs : List α} {x : α} {value : β}
    {test : α → Bool} (h : IsFirst answer xs x value) (hx : test x = true)
    (hnarrow : ∀ y ∈ xs, test y = true → answer y ≠ .no) : xs.find? test = some x := by
  obtain ⟨before, after, rfl, hbefore, -⟩ := h
  rw [List.find?_append, List.find?_eq_none.mpr, Option.none_or, List.find?_cons, hx]
  intro y hy hyes
  exact hnarrow y (List.mem_append_left _ hy) hyes (hbefore y hy)

end OddBox.FirstMatch

import Mathlib.Data.List.Induction

/-!
Flags that some inputs set and some others clear, after whole lists of inputs.
-/

namespace OddBox.Flags

variable {α : Type*} {on off : α → Bool}

/-- A flag that some inputs set and some others clear. -/
def switch (on off : α → Bool) (value : Bool) (input : α) : Bool :=
  if on input then true else if off input then false else value

theorem foldl_switch_still {inputs : List α}
    (h : ∀ input ∈ inputs, on input = false ∧ off input = false) (value : Bool) :
    inputs.foldl (switch on off) value = value := by
  induction inputs with
  | nil => rfl
  | cons input inputs ih =>
    obtain ⟨⟨hon, hoff⟩, hrest⟩ := List.forall_mem_cons.mp h
    rw [List.foldl_cons, switch, hon, hoff]
    exact ih hrest

/-- Without an input that clears it, a flag that is set stays set. -/
theorem foldl_switch_set {inputs : List α} (h : ∀ input ∈ inputs, off input = false) :
    inputs.foldl (switch on off) true = true := by
  induction inputs with
  | nil => rfl
  | cons input inputs ih =>
    obtain ⟨hoff, hrest⟩ := List.forall_mem_cons.mp h
    have hkept : switch on off true input = true := by
      rw [switch, hoff, if_neg Bool.false_ne_true, ite_self]
    rw [List.foldl_cons, hkept]
    exact ih hrest

theorem foldl_switch_on {inputs : List α} (hoff : ∀ input ∈ inputs, off input = false)
    (hon : ∃ input ∈ inputs, on input = true) (value : Bool) :
    inputs.foldl (switch on off) value = true := by
  obtain ⟨input, hmem, hinput⟩ := hon
  obtain ⟨before, after, rfl⟩ := List.append_of_mem hmem
  rw [List.foldl_append, List.foldl_cons, switch, if_pos hinput]
  apply foldl_switch_set
  intro later hlater
  exact hoff later (List.mem_append_right _ (List.mem_cons_of_mem _ hlater))

/-- More inputs that set a flag clear none. -/
theorem foldl_switch_mono {more : α → Bool}
    (hmore : ∀ input, on input = true → more input = true)
    {inputs : List α} {value value' : Bool} (hvalue : value = true → value' = true)
    (h : inputs.foldl (switch on off) value = true) :
    inputs.foldl (switch more off) value' = true := by
  induction inputs generalizing value value' with
  | nil => exact hvalue h
  | cons input inputs ih =>
    apply ih _ h
    intro hset
    unfold switch at hset ⊢
    split_ifs at hset with hon hoff
    · rw [if_pos (hmore input hon)]
    · rw [if_neg hoff, hvalue hset, ite_self]

/-- A flag that has been set and is not any more was cleared for the last time somewhere. -/
theorem foldl_switch_cleared {inputs : List α}
    (h : inputs.foldl (switch on off) true = false) :
    ∃ before input rest, inputs = before ++ input :: rest ∧ on input = false ∧
      off input = true ∧ ∀ later ∈ rest, on later = false ∧ off later = false := by
  induction inputs using List.reverseRecOn with
  | nil => contradiction
  | append_singleton inputs last ih =>
    rw [List.foldl_append, List.foldl_cons, List.foldl_nil, switch] at h
    cases hon : on last with
    | true =>
      rw [hon, if_pos rfl] at h
      contradiction
    | false =>
      rw [hon, if_neg Bool.false_ne_true] at h
      cases hoff : off last with
      | true => exact ⟨inputs, last, [], rfl, hon, hoff, by simp⟩
      | false =>
        rw [hoff, if_neg Bool.false_ne_true] at h
        obtain ⟨before, input, rest, rfl, hinput, hcleared, hrest⟩ := ih h
        refine ⟨before, input, rest ++ [last], by simp, hinput, hcleared, ?_⟩
        intro later hlater
        rcases List.mem_append.mp hlater with hlater | hlater
        · exact hrest later hlater
        · rw [List.mem_singleton.mp hlater]
          exact ⟨hon, hoff⟩

end OddBox.Flags

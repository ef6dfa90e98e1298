import Mathlib

/-!
Texts in which patterns are replaced, from left to right and without overlaps: what stays as it
is, and where the first replacement is made.
-/

namespace OddBox.Substitution

variable {α : Type*} [DecidableEq α]

structure Rule (α : Type*) where
  pattern : List α
  value : List α

/-- Every pattern is replaced by its value; of two that begin at one place the first of the rules
is taken. The number counts the letters of a pattern that are still to be passed over. -/
def substitute (rules : List (Rule α)) : Nat → List α → List α
  | _, [] => []
  | skip + 1, _ :: text => substitute rules skip text
  | 0, letter :: text =>
    match rules.find? fun rule => rule.pattern.isPrefixOf (letter :: text) with
    | some rule => rule.value ++ substitute rules (rule.pattern.length - 1) text
    | none => letter :: substitute rules 0 text

variable {rules : List (Rule α)}

theorem substitute_cons {letter : α} {text : List α}
    (h : ∀ rule ∈ rules, ¬ rule.pattern <+: letter :: text) :
    substitute rules 0 (letter :: text) = letter :: substitute rules 0 text := by
  have hnone : (rules.find? fun rule => rule.pattern.isPrefixOf (letter :: text)) = none := by
    rw [List.find?_eq_none]
    intro rule hmem
    rw [List.isPrefixOf_iff_prefix]
    exact h rule hmem
  rw [substitute, hnone]

theorem substitute_skip (front text : List α) :
    substitute rules front.length (front ++ text) = substitute rules 0 text := by
  induction front with
  | nil => rfl
  | cons letter front ih => exact ih

/-- The text begins with a pattern. -/
theorem exists_pattern {text : List α} (hpatterns : ∀ rule ∈ rules, rule.pattern ≠ [])
    (h : ∃ rule ∈ rules, rule.pattern <+: text) :
    ∃ rule ∈ rules, ∃ rest, text = rule.pattern ++ rest ∧
      substitute rules 0 text = rule.value ++ substitute rules 0 rest := by
  cases text with
  | nil =>
      obtain ⟨rule, hmem, hprefix⟩ := h
      exact absurd (List.prefix_nil.mp hprefix) (hpatterns rule hmem)
  | cons letter text =>
      cases hfound : rules.find? fun rule => rule.pattern.isPrefixOf (letter :: text) with
      | none =>
          obtain ⟨rule, hmem, hprefix⟩ := h
          rw [List.find?_eq_none] at hfound
          exact absurd (List.isPrefixOf_iff_prefix.mpr hprefix) (hfound rule hmem)
      | some rule =>
          have hmem := List.mem_of_find?_eq_some hfound
          have hmatch := List.find?_some hfound
          obtain ⟨rest, hrest⟩ := List.isPrefixOf_iff_prefix.mp hmatch
          refine ⟨rule, hmem, rest, hrest.symm, ?_⟩
          cases hpattern : rule.pattern with
          | nil => exact absurd hpattern (hpatterns rule hmem)
          | cons first others =>
              rw [hpattern, List.cons_append] at hrest
              obtain ⟨-, rfl⟩ := List.cons.inj hrest
              rw [substitute, hfound]
              simp only [hpattern, List.length_cons, Nat.add_sub_cancel, substitute_skip]

/-- A text is empty, or it begins with a pattern, or with a letter at which none begins. -/
theorem induction_on (hpatterns : ∀ rule ∈ rules, rule.pattern ≠ []) {P : List α → Prop}
    (text : List α) (nil : P [])
    (plain : ∀ letter rest, (∀ rule ∈ rules, ¬ rule.pattern <+: letter :: rest) → P rest →
      P (letter :: rest))
    (pattern : ∀ rule ∈ rules, ∀ rest, P rest → P (rule.pattern ++ rest)) : P text := by
  induction hlength : text.length using Nat.strongRecOn generalizing text with
  | ind n ih =>
      by_cases hbegins : ∃ rule ∈ rules, rule.pattern <+: text
      · obtain ⟨rule, hmem, rest, rfl, -⟩ := exists_pattern hpatterns hbegins
        have hpositive := List.length_pos_iff.mpr (hpatterns rule hmem)
        rw [List.length_append] at hlength
        exact pattern rule hmem rest (ih rest.length (by omega) rest rfl)
      · push Not at hbegins
        cases text with
        | nil => exact nil
        | cons letter rest =>
            rw [List.length_cons] at hlength
            exact plain letter rest hbegins (ih rest.length (by omega) rest rfl)

/-! ## What stays -/

/-- No pattern begins in the first part. -/
def Untouched (rules : List (Rule α)) (front text : List α) : Prop :=
  ∀ before start, front = before ++ start → start ≠ [] →
    ∀ rule ∈ rules, ¬ rule.pattern <+: start ++ text

omit [DecidableEq α] in
theorem untouched_cons {letter : α} {front text : List α} :
    Untouched rules (letter :: front) text ↔
      (∀ rule ∈ rules, ¬ rule.pattern <+: letter :: (front ++ text)) ∧
        Untouched rules front text := by
  constructor
  · intro h
    refine ⟨h [] (letter :: front) rfl (List.cons_ne_nil _ _), fun before start hfront => ?_⟩
    exact h (letter :: before) start (by rw [hfront]; rfl)
  · rintro ⟨hhead, htail⟩ before start hfront hstart
    cases before with
    | nil =>
        rw [List.nil_append] at hfront
        subst hfront
        exact hhead
    | cons first before =>
        obtain ⟨-, hrest⟩ := List.cons.inj hfront
        exact htail before start hrest hstart

theorem substitute_untouched {front text : List α} (h : Untouched rules front text) :
    substitute rules 0 (front ++ text) = front ++ substitute rules 0 text := by
  induction front with
  | nil => rfl
  | cons letter front ih =>
      rw [untouched_cons] at h
      rw [List.cons_append, substitute_cons h.1, ih h.2, List.cons_append]

/-- Where a pattern begins in the first part, there is a first place where one does. -/
theorem exists_first {front text : List α} (h : ¬ Untouched rules front text) :
    ∃ before start, front = before ++ start ∧ start ≠ [] ∧
      (∃ rule ∈ rules, rule.pattern <+: start ++ text) ∧
        Untouched rules before (start ++ text) := by
  induction front with
  | nil =>
      refine absurd (fun before start hfront hstart => absurd ?_ hstart) h
      exact (List.append_eq_nil_iff.mp hfront.symm).2
  | cons letter front ih =>
      by_cases hhead : ∃ rule ∈ rules, rule.pattern <+: letter :: (front ++ text)
      · refine ⟨[], letter :: front, rfl, List.cons_ne_nil _ _, hhead, ?_⟩
        exact fun before start hfront hstart =>
          absurd (List.append_eq_nil_iff.mp hfront.symm).2 hstart
      · push Not at hhead
        have htail : ¬ Untouched rules front text := fun htail =>
          h (untouched_cons.mpr ⟨hhead, htail⟩)
        obtain ⟨before, start, hfront, hstart, hbegins, hbefore⟩ := ih htail
        refine ⟨letter :: before, start, by rw [hfront]; rfl, hstart, hbegins, ?_⟩
        rw [hfront, List.append_assoc] at hhead
        exact untouched_cons.mpr ⟨hhead, hbefore⟩

theorem substitute_of_not_infix {text : List α} (h : ∀ rule ∈ rules, ¬ rule.pattern <:+: text) :
    substitute rules 0 text = text := by
  induction text with
  | nil => rfl
  | cons letter text ih =>
      rw [substitute_cons fun rule hmem hprefix => h rule hmem hprefix.isInfix, ih]
      exact fun rule hmem hinside =>
        h rule hmem (hinside.trans (List.suffix_cons letter text).isInfix)

/-! ## One rule -/

/-- A pattern is replaced by itself. -/
theorem substitute_self (pattern text : List α) (hpattern : pattern ≠ []) :
    substitute [⟨pattern, pattern⟩] 0 text = text := by
  have hpatterns : ∀ rule ∈ [(⟨pattern, pattern⟩ : Rule α)], rule.pattern ≠ [] := by
    simpa using hpattern
  induction text using induction_on hpatterns with
  | nil => rfl
  | plain letter rest hplain ih => rw [substitute_cons hplain, ih]
  | pattern rule hmem rest ih =>
      obtain rfl := List.mem_singleton.mp hmem
      obtain ⟨other, hother, later, hlater, hvalue⟩ :=
        exists_pattern hpatterns ⟨_, hmem, List.prefix_append pattern rest⟩
      obtain rfl := List.mem_singleton.mp hother
      obtain rfl := List.append_cancel_left hlater
      rw [hvalue, ih]

/-- A pattern of one letter is replaced letter by letter. -/
theorem substitute_letter (mark : α) (value text : List α) :
    substitute [⟨[mark], value⟩] 0 text =
      text.flatMap fun letter => if letter = mark then value else [letter] := by
  induction text with
  | nil => rfl
  | cons letter text ih =>
      rw [List.flatMap_cons, ← ih]
      by_cases hmark : letter = mark
      · subst hmark
        simp [substitute]
      · rw [if_neg hmark, substitute_cons]
        · rfl
        · intro rule hmem hprefix
          obtain rfl := List.mem_singleton.mp hmem
          obtain ⟨rest, hrest⟩ := hprefix
          exact hmark (List.cons.inj hrest).1.symm

end OddBox.Substitution

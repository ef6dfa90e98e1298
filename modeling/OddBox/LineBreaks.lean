import Mathlib

/-!
Texts made of lines that end with a two letter break, and where a phrase that itself ends
with the break can occur in them.
-/

namespace OddBox.LineBreaks

variable {α : Type*} {cr lf : α}

/-- A text inside which no line ends. -/
def Unbroken (cr lf : α) (line : List α) : Prop := ¬ [cr, lf] <:+: line

/-- The lines, each followed by a break. -/
def joined (cr lf : α) (lines : List (List α)) : List α :=
  lines.flatMap fun line => line ++ [cr, lf]

/-- However many lines follow the first one, their text ends with a break. -/
theorem suffix_joined (line : List α) (lines : List (List α)) :
    [cr, lf] <:+ line ++ [cr, lf] ++ joined cr lf lines := by
  induction lines generalizing line with
  | nil => simp [joined]
  | cons next lines ih =>
      have hrest : joined cr lf (next :: lines) = next ++ [cr, lf] ++ joined cr lf lines := by
        simp [joined]
      rw [hrest]
      exact (ih next).trans (List.suffix_append _ _)

theorem Unbroken.tail {letter : α} {line : List α} (hline : Unbroken cr lf (letter :: line)) :
    Unbroken cr lf line :=
  fun hbreak => hline (hbreak.trans (List.suffix_cons letter line).isInfix)

/-- Letters before and after a line, none of them a letter of the break, do not break it. -/
theorem Unbroken.extend {before line after : List α} (hbefore : cr ∉ before)
    (hline : Unbroken cr lf line) (hafter : lf ∉ after) :
    Unbroken cr lf (before ++ line ++ after) := by
  intro hbreak
  induction before with
  | cons letter before ih =>
      rw [List.cons_append, List.cons_append, List.infix_cons_iff] at hbreak
      rcases hbreak with hhere | hlater
      · exact hbefore (by simp [(List.cons_prefix_cons.mp hhere).1])
      · exact ih (fun hmem => hbefore (List.mem_cons_of_mem _ hmem)) hlater
  | nil =>
      rw [List.nil_append] at hbreak
      induction line with
      | nil =>
          rw [List.nil_append] at hbreak
          exact hafter (hbreak.subset (by simp))
      | cons letter line ih =>
          rw [List.cons_append, List.infix_cons_iff, List.cons_prefix_cons] at hbreak
          rcases hbreak with ⟨rfl, hnext⟩ | hlater
          · cases line with
            | nil => exact hafter (hnext.subset (by simp))
            | cons next line =>
                rw [List.cons_append, List.cons_prefix_cons] at hnext
                exact hline ⟨[], line, by simp [hnext.1]⟩
          · exact ih hline.tail hlater

section Phrases

variable {phrase line later : List α}

/-- A phrase that starts here and ends with the first break ends the line. -/
theorem prefix_line (hphrase : cr ∉ phrase) (hline : Unbroken cr lf line) (hne : cr ≠ lf)
    (hhere : phrase ++ [cr, lf] <+: line ++ [cr, lf] ++ later) : phrase = line := by
  induction phrase generalizing line with
  | nil =>
      cases line with
      | nil => rfl
      | cons letter line =>
          rw [List.nil_append, List.cons_append, List.cons_append,
            List.cons_prefix_cons] at hhere
          obtain ⟨rfl, hnext⟩ := hhere
          cases line with
          | nil => exact absurd (List.cons_prefix_cons.mp hnext).1.symm hne
          | cons next line =>
              rw [List.cons_append, List.cons_append, List.cons_prefix_cons] at hnext
              exact absurd ⟨[], line, by simp [hnext.1]⟩ hline
  | cons letter phrase ih =>
      cases line with
      | nil =>
          rw [List.nil_append, List.cons_append, List.cons_append, List.cons_prefix_cons] at hhere
          exact absurd (by simp [hhere.1]) hphrase
      | cons first line =>
          rw [List.cons_append, List.cons_append, List.cons_append, List.cons_prefix_cons] at hhere
          rw [hhere.1, ih (fun hmem => hphrase (List.mem_cons_of_mem _ hmem)) hline.tail hhere.2]

/-- A phrase that ends with a break occurs at the end of a line or after it, never across. -/
theorem infix_line (hcr : cr ∉ phrase) (hlf : lf ∉ phrase) (hline : Unbroken cr lf line)
    (hne : cr ≠ lf) :
    phrase ++ [cr, lf] <:+: line ++ [cr, lf] ++ later ↔
      phrase <:+ line ∨ phrase ++ [cr, lf] <:+: later := by
  constructor
  · intro hfound
    induction line with
    | nil =>
        rw [List.nil_append, List.cons_append, List.infix_cons_iff] at hfound
        rcases hfound with hhere | hlater
        · have hempty : phrase = [] := prefix_line hcr hline hne hhere
          exact .inl (hempty ▸ List.suffix_rfl)
        rw [List.cons_append, List.infix_cons_iff] at hlater
        rcases hlater with hhere | hlater
        · cases phrase with
          | nil => exact absurd (List.cons_prefix_cons.mp hhere).1 hne
          | cons letter phrase =>
              exact absurd (by simp [(List.cons_prefix_cons.mp hhere).1]) hlf
        · exact .inr hlater
    | cons letter line ih =>
        rw [List.cons_append, List.cons_append, List.infix_cons_iff] at hfound
        rcases hfound with hhere | hlater
        · have hwhole : phrase = letter :: line := prefix_line hcr hline hne hhere
          exact .inl (hwhole ▸ List.suffix_rfl)
        · rcases ih hline.tail hlater with hends | hlater
          · exact .inl (hends.trans (List.suffix_cons letter line))
          · exact .inr hlater
  · rintro (⟨before, rfl⟩ | hlater)
    · exact ⟨before, later, by simp⟩
    · exact hlater.trans (List.suffix_append _ _).isInfix

/-- Among lines it occurs when it ends one of them, or in what follows the lines. -/
theorem infix_joined {lines : List (List α)} (hcr : cr ∉ phrase) (hlf : lf ∉ phrase)
    (hlines : ∀ line ∈ lines, Unbroken cr lf line) (hne : cr ≠ lf) :
    phrase ++ [cr, lf] <:+: joined cr lf lines ++ later ↔
      (∃ line ∈ lines, phrase <:+ line) ∨ phrase ++ [cr, lf] <:+: later := by
  induction lines with
  | nil => simp [joined]
  | cons line lines ih =>
      have hrest : joined cr lf (line :: lines) ++ later =
          line ++ [cr, lf] ++ (joined cr lf lines ++ later) := by simp [joined]
      rw [hrest, infix_line hcr hlf (hlines line (by simp)) hne,
        ih fun other hother => hlines other (by simp [hother]), List.exists_mem_cons_iff, or_assoc]

end Phrases

end OddBox.LineBreaks

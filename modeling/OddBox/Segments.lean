import Mathlib

/-!
Texts that a separator cuts into parts, some of which count: how much they weigh, and what a map
does to them that works on each part alone and makes none of them heavier.
-/

namespace OddBox.Segments

/-- How a text is cut: the empty part never counts, and every letter weighs something or not. -/
structure Cut (α : Type*) where
  separator : α
  counts : List α → Bool
  weight : α → Nat
  counts_nil : counts [] = false

namespace Cut

variable {α : Type*} (cut : Cut α)

def total (text : List α) : Nat := (text.map cut.weight).sum

@[simp] theorem total_append (front back : List α) :
    cut.total (front ++ back) = cut.total front + cut.total back := by
  simp [total]

@[simp] theorem total_cons (letter : α) (text : List α) :
    cut.total (letter :: text) = cut.weight letter + cut.total text := by
  simp [total]

variable [DecidableEq α]

def parts (text : List α) : List (List α) := (text.splitOn cut.separator).filter cut.counts

/-- What the parts that count weigh. -/
def size (text : List α) : Nat := ((cut.parts text).map cut.total).sum

/-- A text is one part, or a part and a text behind a separator. -/
theorem induction_on {P : List α → Prop} (text : List α)
    (part : ∀ part, cut.separator ∉ part → P part)
    (more : ∀ part rest, cut.separator ∉ part → P rest → P (part ++ cut.separator :: rest)) :
    P text := by
  induction hlength : text.length using Nat.strongRecOn generalizing text with
  | ind n ih =>
      by_cases hmem : cut.separator ∈ text
      · obtain ⟨front, back, rfl, hfront⟩ := List.eq_append_cons_of_mem hmem
        refine more front back hfront (ih back.length ?_ back rfl)
        rw [← hlength, List.length_append, List.length_cons]
        omega
      · exact part text hmem

@[simp] theorem parts_append (front back : List α) :
    cut.parts (front ++ cut.separator :: back) = cut.parts front ++ cut.parts back := by
  rw [parts, List.splitOn_append_cons_self, List.filter_append]
  rfl

@[simp] theorem size_append (front back : List α) :
    cut.size (front ++ cut.separator :: back) = cut.size front + cut.size back := by
  simp [size]

variable {cut}

theorem parts_of_not_mem {part : List α} (h : cut.separator ∉ part) :
    cut.parts part = if cut.counts part then [part] else [] := by
  rw [parts, List.splitOn_eq_singleton h, List.filter_singleton]
  cases cut.counts part <;> rfl

theorem size_of_not_mem {part : List α} (h : cut.separator ∉ part) :
    cut.size part = if cut.counts part then cut.total part else 0 := by
  rw [size, parts_of_not_mem h]
  split <;> simp

variable (cut) in
theorem size_le_total (text : List α) : cut.size text ≤ cut.total text := by
  induction text using induction_on cut with
  | part part h =>
      rw [size_of_not_mem h]
      split
      · exact Nat.le_refl _
      · exact Nat.zero_le _
  | more part rest h ih =>
      rw [size_append, total_append, total_cons, size_of_not_mem h]
      split <;> omega

theorem infix_of_mem_parts {part text : List α} (h : part ∈ cut.parts text) : part <:+: text := by
  induction text using induction_on cut with
  | part whole hwhole =>
      rw [parts_of_not_mem hwhole] at h
      split at h
      · rw [List.mem_singleton.mp h]
      · cases h
  | more whole rest hwhole ih =>
      rw [parts_append, List.mem_append] at h
      rcases h with hfirst | hlater
      · rw [parts_of_not_mem hwhole] at hfirst
        split at hfirst
        · rw [List.mem_singleton.mp hfirst]
          exact (List.prefix_append _ _).isInfix
        · cases hfirst
      · exact (ih hlater).trans ((List.suffix_cons _ _).isInfix.trans
          (List.suffix_append _ _).isInfix)

/-- A text that is broken off in the middle of a part gets lighter, if the letter there makes
its part count. -/
theorem size_lt_of_cut {letter : α} (hletter : letter ≠ cut.separator)
    (hcounts : ∀ part, letter ∈ part → cut.counts part = true) (hweight : 0 < cut.weight letter)
    (front back : List α) : cut.size front < cut.size (front ++ letter :: back) := by
  induction front using induction_on cut with
  | part front h =>
      have hrest : cut.total front + cut.weight letter ≤ cut.size (front ++ letter :: back) := by
        by_cases hmem : cut.separator ∈ back
        · obtain ⟨inner, later, rfl, hinner⟩ := List.eq_append_cons_of_mem hmem
          have hnot : cut.separator ∉ front ++ letter :: inner := by
            simp [h, hinner, hletter.symm]
          have hsplit : front ++ letter :: (inner ++ cut.separator :: later) =
              (front ++ letter :: inner) ++ cut.separator :: later := by simp
          rw [hsplit, size_append, size_of_not_mem hnot, if_pos (hcounts _ (by simp)),
            total_append, total_cons]
          omega
        · have hnot : cut.separator ∉ front ++ letter :: back := by
            simp [h, hmem, hletter.symm]
          rw [size_of_not_mem hnot, if_pos (hcounts _ (by simp)), total_append, total_cons]
          omega
      have hfront := cut.size_le_total front
      omega
  | more part rest h ih =>
      rw [List.append_assoc, List.cons_append, size_append, size_append]
      omega

/-! ## Maps of parts -/

/-- A map that works on each part alone, makes none heavier, and leaves alone what does not
count. -/
structure Local (cut : Cut α) (f : List α → List α) : Prop where
  split : ∀ front back, f (front ++ cut.separator :: back) = f front ++ cut.separator :: f back
  lighter : ∀ part, cut.separator ∉ part → cut.total (f part) ≤ cut.total part
  void : ∀ part, cut.counts part = false → f part = part

variable {f : List α → List α}

theorem Local.size_part (hf : cut.Local f) {part : List α} (h : cut.separator ∉ part) :
    cut.size (f part) ≤ cut.size part := by
  cases hcounts : cut.counts part with
  | false => rw [hf.void part hcounts]
  | true =>
      rw [size_of_not_mem h, if_pos hcounts]
      exact (cut.size_le_total _).trans (hf.lighter part h)

theorem Local.size_le (hf : cut.Local f) (text : List α) : cut.size (f text) ≤ cut.size text := by
  induction text using induction_on cut with
  | part part h => exact hf.size_part h
  | more part rest h ih =>
      rw [hf.split, size_append, size_append]
      exact Nat.add_le_add (hf.size_part h) ih

/-- If it makes every part lighter that it changes, it makes every text lighter that it
changes. -/
theorem Local.eq_of_size (hf : cut.Local f)
    (hstrict : ∀ part, cut.separator ∉ part → cut.total (f part) = cut.total part → f part = part)
    {text : List α} (h : cut.size (f text) = cut.size text) : f text = text := by
  have hpart : ∀ part, cut.separator ∉ part → cut.size (f part) = cut.size part →
      f part = part := by
    intro part hnot hsize
    cases hcounts : cut.counts part with
    | false => exact hf.void part hcounts
    | true =>
        rw [size_of_not_mem hnot, if_pos hcounts] at hsize
        have hlower := cut.size_le_total (f part)
        exact hstrict part hnot (Nat.le_antisymm (hf.lighter part hnot) (hsize ▸ hlower))
  induction text using induction_on cut with
  | part part hnot => exact hpart part hnot h
  | more part rest hnot ih =>
      rw [hf.split, size_append, size_append] at h
      have hfirst := hf.size_part hnot
      have hlater := hf.size_le rest
      rw [hf.split, hpart part hnot (by omega), ih (by omega)]

/-- If it leaves the parts that count as they are, it changes nothing. -/
theorem Local.eq_of_parts (hf : cut.Local f) (hweight : ∀ letter, 0 < cut.weight letter)
    {text : List α} (h : cut.parts (f text) = cut.parts text) : f text = text := by
  have hempty : ∀ text : List α, cut.total text = 0 → text = [] := by
    intro text htotal
    cases text with
    | nil => rfl
    | cons letter text =>
        have hpos := hweight letter
        rw [total_cons] at htotal
        omega
  -- a part of a text that weighs no more is the whole text
  have hwhole : ∀ part text : List α, part ∈ cut.parts text → cut.total text ≤ cut.total part →
      text = part := by
    intro part text hmem hle
    obtain ⟨front, back, rfl⟩ := infix_of_mem_parts hmem
    rw [total_append, total_append] at hle
    rw [hempty front (by omega), hempty back (by omega), List.nil_append, List.append_nil]
  induction text using induction_on cut with
  | part part hnot =>
      cases hcounts : cut.counts part with
      | false => exact hf.void part hcounts
      | true =>
          rw [parts_of_not_mem hnot, if_pos hcounts] at h
          exact hwhole part _ (h ▸ List.mem_singleton_self part) (hf.lighter part hnot)
  | more part rest hnot ih =>
      rw [hf.split, parts_append, parts_append] at h
      have hpart : f part = part := by
        cases hcounts : cut.counts part with
        | false => exact hf.void part hcounts
        | true =>
            have hsizes := congrArg (fun parts => (parts.map cut.total).sum) h
            have hfirst := hf.size_part hnot
            have hlater := hf.size_le rest
            have hsame : cut.size (f part) = cut.size part := by
              simp only [List.map_append, List.sum_append] at hsizes
              unfold size at hfirst hlater ⊢
              omega
            have hne : part ≠ [] := by
              rintro rfl
              rw [cut.counts_nil] at hcounts
              cases hcounts
            rw [parts_of_not_mem hnot, if_pos hcounts] at h
            cases hparts : cut.parts (f part) with
            | nil =>
                rw [size, hparts, size_of_not_mem hnot, if_pos hcounts] at hsame
                exact absurd (hempty part hsame.symm) hne
            | cons first others =>
                rw [hparts, List.cons_append, List.singleton_append] at h
                have hmem : part ∈ cut.parts (f part) := by
                  rw [hparts, (List.cons.inj h).1]
                  exact List.mem_cons_self
                exact hwhole part _ hmem (hf.lighter part hnot)
      rw [hf.split, hpart]
      rw [hpart, List.append_cancel_left_eq] at h
      rw [ih h]

end Cut

end OddBox.Segments

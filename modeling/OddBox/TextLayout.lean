import Mathlib

/-!
Texts that are laid out in lines: a text that is cut into pieces of a size, as long as each can
be, and words that are set in rows or broken into pieces. Letters may have different weights.
-/

namespace OddBox.TextLayout

variable {α : Type*}

section Pieces

variable (weight : α → Nat)

def total (text : List α) : Nat := (text.map weight).sum

/-- The longest front of a text that is not heavier than the size. -/
def fitting : Nat → List α → List α
  | _, [] => []
  | size, letter :: text =>
    if weight letter ≤ size then letter :: fitting (size - weight letter) text else []

/-- The pieces of a text, each of which is the longest there can be. -/
inductive Pieces (size : Nat) : List α → List (List α) → Prop where
  | done : Pieces size [] []
  | cut {piece rest : List α} {pieces : List (List α)} (hne : piece ≠ [])
      (hpiece : fitting weight size (piece ++ rest) = piece) (hrest : Pieces size rest pieces) :
      Pieces size (piece ++ rest) (piece :: pieces)

variable {weight}

@[simp] theorem total_nil : total weight [] = 0 := rfl

@[simp] theorem total_cons (letter : α) (text : List α) :
    total weight (letter :: text) = weight letter + total weight text := by
  simp [total]

@[simp] theorem total_append (front back : List α) :
    total weight (front ++ back) = total weight front + total weight back := by
  simp [total]

theorem weight_le_total {letter : α} {text : List α} (h : letter ∈ text) :
    weight letter ≤ total weight text :=
  List.single_le_sum (fun _ _ => Nat.zero_le _) _ (List.mem_map_of_mem h)

/-! ## Fronts that fit -/

theorem fitting_prefix (size : Nat) (text : List α) : fitting weight size text <+: text := by
  induction text generalizing size with
  | nil => exact List.prefix_refl _
  | cons letter text ih =>
      rw [fitting]
      split_ifs with hfits
      · exact List.cons_prefix_cons.mpr ⟨rfl, ih _⟩
      · exact List.nil_prefix

theorem total_fitting_le (size : Nat) (text : List α) :
    total weight (fitting weight size text) ≤ size := by
  induction text generalizing size with
  | nil => exact Nat.zero_le _
  | cons letter text ih =>
      rw [fitting]
      split_ifs with hfits
      · have hrest := ih (size - weight letter)
        rw [total_cons]
        omega
      · exact Nat.zero_le _

/-- Nothing fits exactly if the first letter does not. -/
theorem fitting_eq_nil_iff {size : Nat} {letter : α} {text : List α} :
    fitting weight size (letter :: text) = [] ↔ size < weight letter := by
  rw [fitting]
  by_cases hfits : weight letter ≤ size
  · rw [if_pos hfits]
    exact iff_of_false (List.cons_ne_nil _ _) hfits.not_gt
  · rw [if_neg hfits]
    exact iff_of_true rfl (Nat.lt_of_not_le hfits)

theorem fitting_of_total_le {size : Nat} {text : List α} (h : total weight text ≤ size) :
    fitting weight size text = text := by
  induction text generalizing size with
  | nil => rfl
  | cons letter text ih =>
      rw [total_cons] at h
      rw [fitting, if_pos (by omega), ih (by omega)]

/-- A front of that weight is the one that fits, as every letter weighs something. -/
theorem fitting_of_total_eq (hweight : ∀ letter, 0 < weight letter) {size : Nat}
    {front rest : List α} (h : total weight front = size) :
    fitting weight size (front ++ rest) = front := by
  induction front generalizing size with
  | nil =>
      cases rest with
      | nil => rfl
      | cons letter rest =>
          rw [List.nil_append, fitting_eq_nil_iff, ← h]
          exact hweight letter
  | cons letter front ih =>
      rw [total_cons] at h
      rw [List.cons_append, fitting, if_pos (by omega), ih (by omega)]

/-- Where the size is not used up, one less is enough. -/
theorem fitting_succ {size : Nat} {text : List α}
    (h : total weight (fitting weight (size + 1) text) ≠ size + 1) :
    fitting weight (size + 1) text = fitting weight size text := by
  induction text generalizing size with
  | nil => rfl
  | cons letter text ih =>
      rw [fitting, fitting]
      rw [fitting] at h
      by_cases hfits : weight letter ≤ size
      · rw [if_pos (by omega)] at h ⊢
        rw [if_pos hfits]
        rw [total_cons, Nat.succ_sub hfits] at h
        have hrest : total weight (fitting weight (size - weight letter + 1) text) ≠
            size - weight letter + 1 := by
          change weight letter + total weight (fitting weight (size - weight letter + 1) text) ≠
            size + 1 at h
          omega
        rw [Nat.succ_sub hfits, ih hrest]
      · by_cases hlast : weight letter = size + 1
        · -- The letter alone would use up the size.
          rw [if_pos hlast.le, total_cons, hlast] at h
          have hnone : total weight (fitting weight (size + 1 - (size + 1)) text) ≤ _ :=
            total_fitting_le _ _
          omega
        · rw [if_neg (by omega), if_neg hfits]

/-! ## Pieces -/

theorem Pieces.flatten {size : Nat} {text : List α} {pieces : List (List α)}
    (h : Pieces weight size text pieces) : pieces.flatten = text := by
  induction h with
  | done => rfl
  | cut _ _ _ ih => rw [List.flatten_cons, ih]

theorem Pieces.total_le {size : Nat} {text : List α} {pieces : List (List α)}
    (h : Pieces weight size text pieces) : ∀ piece ∈ pieces, total weight piece ≤ size := by
  induction h with
  | done => exact fun _ hmem => absurd hmem List.not_mem_nil
  | cut _ hpiece _ ih =>
      intro other hmem
      rcases List.mem_cons.mp hmem with rfl | hmem
      · rw [← hpiece]
        exact total_fitting_le _ _
      · exact ih other hmem

theorem Pieces.ne_nil {size : Nat} {text : List α} {pieces : List (List α)}
    (h : Pieces weight size text pieces) : ∀ piece ∈ pieces, piece ≠ [] := by
  induction h with
  | done => exact fun _ hmem => absurd hmem List.not_mem_nil
  | cut hne _ _ ih =>
      intro other hmem
      rcases List.mem_cons.mp hmem with rfl | hmem
      · exact hne
      · exact ih other hmem

theorem Pieces.length_le {size : Nat} {text : List α} {pieces : List (List α)}
    (h : Pieces weight size text pieces) : pieces.length ≤ text.length := by
  induction h with
  | done => exact le_rfl
  | cut hne _ _ ih =>
      have hpos := List.length_pos_iff.mpr hne
      rw [List.length_cons, List.length_append]
      omega

/-- A text has pieces of a size exactly if no letter is heavier: where the first letter of what
is left does not fit, no piece is cut. -/
theorem exists_pieces_iff {size : Nat} {text : List α} :
    (∃ pieces, Pieces weight size text pieces) ↔ ∀ letter ∈ text, weight letter ≤ size := by
  constructor
  · rintro ⟨pieces, h⟩ letter hletter
    rw [← h.flatten] at hletter
    obtain ⟨piece, hpiece, hmem⟩ := List.mem_flatten.mp hletter
    exact (weight_le_total hmem).trans (h.total_le piece hpiece)
  · intro h
    -- The induction is on the length: what is left is shorter by the piece.
    induction hlen : text.length using Nat.strong_induction_on generalizing text with
    | h length ih =>
        cases text with
        | nil => exact ⟨[], .done⟩
        | cons letter text =>
            have hfront : fitting weight size (letter :: text) <+: letter :: text :=
              fitting_prefix _ _
            obtain ⟨rest, hrest⟩ := hfront
            have hne : fitting weight size (letter :: text) ≠ [] := by
              rw [Ne, fitting_eq_nil_iff]
              exact (h letter List.mem_cons_self).not_gt
            have hshorter : rest.length < length := by
              have hpos := List.length_pos_iff.mpr hne
              have hsum := congrArg List.length hrest
              rw [List.length_append] at hsum
              omega
            have hsmall : ∀ other ∈ rest, weight other ≤ size := fun other hother =>
              h other (hrest ▸ List.mem_append_right _ hother)
            obtain ⟨pieces, hpieces⟩ := ih rest.length hshorter hsmall rfl
            refine ⟨fitting weight size (letter :: text) :: pieces, ?_⟩
            have hcut := Pieces.cut hne (congrArg (fitting weight size) hrest) hpieces
            rwa [hrest] at hcut

/-- What is cut off first is what fits. -/
theorem pieces_iff {size : Nat} {text rest : List α}
    (hne : text ≠ []) (hrest : fitting weight size text ++ rest = text)
    {pieces : List (List α)} :
    Pieces weight size text pieces ↔
      fitting weight size text ≠ [] ∧
        ∃ more, Pieces weight size rest more ∧ pieces = fitting weight size text :: more := by
  constructor
  · intro h
    cases h with
    | done => exact absurd rfl hne
    | cut hpiece hfits hmore =>
        rw [hfits] at hrest ⊢
        obtain rfl := List.append_cancel_left hrest
        exact ⟨hpiece, _, hmore, rfl⟩
  · rintro ⟨hpiece, more, hmore, rfl⟩
    have hcut := Pieces.cut hpiece (congrArg (fitting weight size) hrest) hmore
    rwa [hrest] at hcut

end Pieces

/-! ## Rows -/

/-- Words in lines: a line is a row of words with a blank between each two, or a piece of a word
that is broken. -/
inductive Layout (blank : α) : List (List α) → List (List α) → Prop where
  | done : Layout blank [] []
  | row {row words lines : List (List α)} (hne : row ≠ []) (h : Layout blank words lines) :
      Layout blank (row ++ words) ([blank].intercalate row :: lines)
  | broken {pieces words lines : List (List α)} (hne : pieces ≠ [])
      (hpieces : ∀ piece ∈ pieces, piece ≠ []) (h : Layout blank words lines) :
      Layout blank (pieces.flatten :: words) (pieces ++ lines)

variable {blank : α}

theorem Layout.append {words more lines others : List (List α)} (h : Layout blank words lines)
    (hmore : Layout blank more others) : Layout blank (words ++ more) (lines ++ others) := by
  induction h with
  | done => exact hmore
  | row hne _ ih =>
      rw [List.append_assoc, List.cons_append]
      exact .row hne ih
  | broken hne hpieces _ ih =>
      rw [List.cons_append, List.append_assoc]
      exact .broken hne hpieces ih

theorem Layout.of_row {row : List (List α)} (hne : row ≠ []) :
    Layout blank row [[blank].intercalate row] := by
  have h := Layout.row hne (Layout.done : Layout blank [] [])
  rwa [List.append_nil] at h

theorem Layout.of_pieces {pieces : List (List α)} (hne : pieces ≠ [])
    (hpieces : ∀ piece ∈ pieces, piece ≠ []) : Layout blank [pieces.flatten] pieces := by
  have h := Layout.broken hne hpieces (Layout.done : Layout blank [] [])
  rwa [List.append_nil] at h

theorem intercalate_concat {row : List (List α)} (hne : row ≠ []) (word : List α) :
    [blank].intercalate (row ++ [word]) = [blank].intercalate row ++ [blank] ++ word := by
  induction row with
  | nil => exact absurd rfl hne
  | cons first row ih =>
      cases row with
      | nil =>
          rw [List.singleton_append, List.intercalate_cons_cons, List.intercalate_singleton,
            List.intercalate_singleton]
      | cons next row =>
          have hrest := ih (List.cons_ne_nil _ _)
          have hnext : next :: row ++ [word] ≠ [] := List.cons_ne_nil _ _
          rw [List.cons_append, List.intercalate_cons_of_ne_nil hnext, hrest,
            List.intercalate_cons_cons]
          simp only [List.append_assoc]

/-- A row of words is not empty. -/
theorem intercalate_eq_nil_iff {row : List (List α)} (hrow : ∀ word ∈ row, word ≠ []) :
    [blank].intercalate row = [] ↔ row = [] := by
  cases row with
  | nil => exact iff_of_true rfl rfl
  | cons word row =>
      refine iff_of_false (fun hempty => ?_) (List.cons_ne_nil _ _)
      cases row with
      | nil =>
          rw [List.intercalate_singleton] at hempty
          exact hrow word List.mem_cons_self hempty
      | cons next row =>
          rw [List.intercalate_cons_cons] at hempty
          exact hrow word List.mem_cons_self
            (List.append_eq_nil_iff.mp (List.append_eq_nil_iff.mp hempty).1).1

/-- What is not blank in a row is the words. -/
theorem filter_intercalate [DecidableEq α] {row : List (List α)}
    (h : ∀ word ∈ row, blank ∉ word) :
    ([blank].intercalate row).filter (· ≠ blank) = row.flatten := by
  have hword : ∀ word ∈ row, word.filter (· ≠ blank) = word := by
    intro word hmem
    rw [List.filter_eq_self]
    intro letter hletter
    exact decide_eq_true fun hblank => h word hmem (hblank ▸ hletter)
  induction row with
  | nil => rfl
  | cons word row ih =>
      have hrest := ih (fun other hmem => h other (List.mem_cons_of_mem _ hmem))
        fun other hmem => hword other (List.mem_cons_of_mem _ hmem)
      cases row with
      | nil =>
          rw [List.intercalate_singleton, hword word List.mem_cons_self, List.flatten_singleton]
      | cons next row =>
          rw [List.intercalate_cons_cons, List.filter_append, List.filter_append, hrest,
            hword word List.mem_cons_self]
          simp

/-- **Nothing is lost**: without the blanks, the lines are the words in their order. -/
theorem Layout.letters [DecidableEq α] {words lines : List (List α)}
    (h : Layout blank words lines) (hwords : ∀ word ∈ words, blank ∉ word) :
    lines.flatten.filter (· ≠ blank) = words.flatten := by
  induction h with
  | done => rfl
  | row hne _ ih =>
      have hfirst := filter_intercalate fun word hmem =>
        hwords word (List.mem_append_left _ hmem)
      have hrest := ih fun word hmem => hwords word (List.mem_append_right _ hmem)
      rw [List.flatten_cons, List.filter_append, hfirst, hrest, List.flatten_append]
  | @broken pieces words lines hne hpieces _ ih =>
      have hrest := ih fun word hmem => hwords word (List.mem_cons_of_mem _ hmem)
      have hword : pieces.flatten.filter (· ≠ blank) = pieces.flatten := by
        rw [List.filter_eq_self]
        intro letter hletter
        exact decide_eq_true fun hblank =>
          hwords _ List.mem_cons_self (hblank ▸ hletter)
      rw [List.flatten_append, List.filter_append, hrest, hword, List.flatten_cons]

end OddBox.TextLayout

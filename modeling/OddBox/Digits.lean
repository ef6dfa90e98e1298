import Mathlib

/-!
The digits of a number as characters: they have the number as their value, and
only zero begins with a zero.
-/

namespace OddBox.Digits

/-- The value of digits read from the left. -/
def value (radix : Nat) (digit : Char → Nat) (chars : List Char) : Nat :=
  chars.foldl (fun result c => result * radix + digit c) 0

variable {radix : Nat} {digit : Char → Nat}

theorem value_snoc (chars : List Char) (c : Char) :
    value radix digit (chars ++ [c]) = value radix digit chars * radix + digit c := by
  rw [value, List.foldl_append]
  rfl

/-- What holds of the digits of the radix holds of all digits of a number. -/
theorem forall_mem_toDigits {P : Char → Prop} (hradix : 1 < radix)
    (h : ∀ d < radix, P (Nat.digitChar d)) (n : Nat) : ∀ c ∈ Nat.toDigits radix n, P c := by
  induction n using Nat.strongRecOn with
  | ind n ih =>
    intro c hc
    rcases Nat.lt_or_ge n radix with hsmall | hlarge
    · rw [Nat.toDigits_of_lt_base hsmall, List.mem_singleton] at hc
      rw [hc]
      exact h n hsmall
    · rw [Nat.toDigits_of_base_le hradix hlarge, List.mem_append, List.mem_singleton] at hc
      rcases hc with hc | rfl
      · exact ih (n / radix) (Nat.div_lt_self (by omega) hradix) c hc
      · exact h _ (Nat.mod_lt n (by omega))

theorem value_toDigits (digit : Char → Nat) (hradix : 1 < radix)
    (h : ∀ d < radix, digit (Nat.digitChar d) = d) (n : Nat) :
    value radix digit (Nat.toDigits radix n) = n := by
  induction n using Nat.strongRecOn with
  | ind n ih =>
    rcases Nat.lt_or_ge n radix with hsmall | hlarge
    · rw [Nat.toDigits_of_lt_base hsmall]
      simp [value, h n hsmall]
    · rw [Nat.toDigits_of_base_le hradix hlarge, value_snoc,
        ih (n / radix) (Nat.div_lt_self (by omega) hradix), h _ (Nat.mod_lt n (by omega)),
        Nat.div_add_mod']

theorem toDigits_head {n : Nat} (h : (Nat.toDigits 10 n).head? = some '0') : n = 0 := by
  induction n using Nat.strongRecOn with
  | ind n ih =>
    rcases Nat.lt_or_ge n 10 with hsmall | hlarge
    · rw [Nat.toDigits_of_lt_base hsmall] at h
      have hdigit : ∀ d < 10, Nat.digitChar d = '0' → d = 0 := by decide
      exact hdigit n hsmall (Option.some.inj h)
    · rw [Nat.toDigits_of_base_le (by decide) hlarge, List.head?_append_of_ne_nil _
        Nat.toDigits_ne_nil] at h
      have hdiv : n / 10 = 0 := ih (n / 10) (by omega) h
      omega

end OddBox.Digits

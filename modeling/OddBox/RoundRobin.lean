import Mathlib

/-!
Choosing in turn by a counter: the choices of a counter that goes on by one at each of them
are spread evenly over all remainders, wherever it starts.
-/

namespace OddBox.RoundRobin

variable {n start counter : Nat} {chosen : List Nat}

/-- What is chosen from a start on. -/
def turns (n start count : Nat) : List Nat := (List.range count).map fun t => (start + t) % n

/-- No choice is ahead of another by more than one. -/
def Fair (n : Nat) (chosen : List Nat) : Prop :=
  ∀ i < n, ∀ j < n, chosen.count i ≤ chosen.count j + 1

instance (n : Nat) (chosen : List Nat) : Decidable (Fair n chosen) :=
  inferInstanceAs (Decidable (∀ i < n, ∀ j < n, chosen.count i ≤ chosen.count j + 1))

@[simp] theorem turns_zero : turns n start 0 = [] := rfl

@[simp] theorem turns_length (count : Nat) : (turns n start count).length = count := by
  simp [turns]

theorem turns_succ (count : Nat) :
    turns n start (count + 1) = turns n start count ++ [(start + count) % n] := by
  unfold turns
  rw [List.range_succ, List.map_append, List.map_singleton]

/-- One choice is made as often as the numbers up to the count have some remainder. -/
theorem count_turns (hn : 0 < n) {i : Nat} (hi : i < n) (count : Nat) :
    (turns n start count).count i = count.count (· ≡ i + (n - start % n) [MOD n]) := by
  have hshift : ∀ t, (start + t) % n = i ↔ t ≡ i + (n - start % n) [MOD n] := by
    intro t
    have hback : start + (i + (n - start % n)) ≡ i [MOD n] := by
      have hlt := Nat.mod_lt start hn
      have hsplit := Nat.div_add_mod start n
      have hsum : start + (i + (n - start % n)) = i + n * (start / n + 1) := by
        rw [Nat.mul_add, Nat.mul_one]
        omega
      rw [hsum]
      exact (Nat.add_mul_mod_self_left i n _)
    constructor
    · intro h
      apply Nat.ModEq.add_left_cancel' start
      have hto : start + t ≡ i [MOD n] := by
        unfold Nat.ModEq
        rw [h, Nat.mod_eq_of_lt hi]
      exact hto.trans hback.symm
    · intro h
      have hto : start + t ≡ i [MOD n] := (h.add_left start).trans hback
      rw [← Nat.mod_eq_of_lt hi]
      exact hto
  induction count with
  | zero => rfl
  | succ count ih =>
    rw [turns_succ, List.count_append, ih, Nat.count_succ, List.count_singleton]
    simp only [beq_iff_eq, hshift]

/-- **Fairness**: the choices in turn are fair from every start on. -/
theorem turns_fair (start count : Nat) : Fair n (turns n start count) := by
  intro i hi j hj
  have hn : 0 < n := Nat.zero_lt_of_lt hi
  rw [count_turns hn hi, count_turns hn hj, Nat.count_modEq_card _ hn, Nat.count_modEq_card _ hn]
  split_ifs <;> omega

/-! ## The counter -/

/-- All choices have been made in turn, and the counter stands at the next. -/
structure Aligned (n start counter : Nat) (chosen : List Nat) : Prop where
  inTurn : chosen = turns n start chosen.length
  next : counter % n = (start + chosen.length) % n

theorem Aligned.init (h : counter % n = start % n) : Aligned n start counter [] := ⟨rfl, h⟩

/-- What the counter chooses goes on with the turns, where the counter goes on by one. -/
theorem Aligned.choose {after : Nat} (h : Aligned n start counter chosen)
    (hafter : after % n = (counter + 1) % n) :
    Aligned n start after (chosen ++ [counter % n]) := by
  constructor
  · rw [List.length_append, List.length_singleton, turns_succ, ← h.inTurn, ← h.next]
  · rw [List.length_append, List.length_singleton, hafter, Nat.add_mod, h.next, ← Nat.add_mod,
      Nat.add_assoc]

theorem Aligned.fair (h : Aligned n start counter chosen) : Fair n chosen := by
  rw [h.inTurn]
  exact turns_fair _ _

end OddBox.RoundRobin

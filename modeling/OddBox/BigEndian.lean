import Mathlib

/-!
Numbers in network order: the bytes of a number, the most significant first, and the number
that bytes spell.
-/

namespace OddBox.BigEndian

/-- The number that bytes spell. -/
def value (bytes : List UInt8) : Nat :=
  bytes.foldl (fun value byte => value * 256 + byte.toNat) 0

/-- The lowest bytes of a number. -/
def bytes : Nat → Nat → List UInt8
  | 0, _ => []
  | width + 1, n => bytes width (n / 256) ++ [UInt8.ofNat n]

@[simp] theorem length_bytes (width n : Nat) : (bytes width n).length = width := by
  induction width generalizing n with
  | zero => rfl
  | succ width ih => rw [bytes, List.length_append, ih, List.length_singleton]

theorem value_snoc (front : List UInt8) (byte : UInt8) :
    value (front ++ [byte]) = value front * 256 + byte.toNat := by
  rw [value, List.foldl_append]
  rfl

/-- The bytes of a number spell it, if they are enough for it. -/
theorem value_bytes {width n : Nat} (h : n < 256 ^ width) : value (bytes width n) = n := by
  induction width generalizing n with
  | zero =>
    rw [Nat.pow_zero, Nat.lt_one_iff] at h
    rw [h]
    rfl
  | succ width ih =>
    have hhigh : n / 256 < 256 ^ width := by
      rw [Nat.pow_succ] at h
      exact Nat.div_lt_of_lt_mul (by omega)
    rw [bytes, value_snoc, ih hhigh, UInt8.toNat_ofNat']
    omega

/-! ## A flag in the top bit -/

/-- A byte with a flag in its top bit and a number in the bits below. -/
def flagged (flag : Bool) (low : Nat) : UInt8 :=
  UInt8.ofNat (low + if flag then 128 else 0)

variable {flag : Bool} {low : Nat}

theorem toNat_flagged (h : low < 128) :
    (flagged flag low).toNat = low + if flag then 128 else 0 := by
  rw [flagged, UInt8.toNat_ofNat', Nat.mod_eq_of_lt]
  split <;> omega

theorem flagged_and_top (h : low < 128) : (flagged flag low &&& 0x80 != 0) = flag := by
  have hbit : (flagged flag low &&& 0x80).toNat = if flag then 128 else 0 := by
    have htop : (0x80 : UInt8).toNat = 2 ^ 7 := by decide
    rw [UInt8.toNat_and, toNat_flagged h, htop, Nat.and_two_pow,
      Nat.testBit_eq_decide_div_mod_eq]
    cases flag with
    | true =>
      rw [if_pos rfl, decide_eq_true (by omega)]
      rfl
    | false =>
      rw [if_neg Bool.false_ne_true, decide_eq_false (by omega)]
      rfl
  cases flag with
  | true =>
    rw [bne_iff_ne, ne_eq, ← UInt8.toNat_inj, hbit]
    decide
  | false =>
    rw [bne_eq_false_iff_eq, ← UInt8.toNat_inj, hbit]
    rfl

theorem flagged_and_low {bits : Nat} {mask : UInt8} (hmask : mask.toNat = 2 ^ bits - 1)
    (hbits : bits ≤ 7) (h : low < 2 ^ bits) : (flagged flag low &&& mask).toNat = low := by
  have hpow : 2 ^ bits ≤ 2 ^ 7 := Nat.pow_le_pow_right (by decide) hbits
  have hflag : (2 ^ bits ∣ if flag then 128 else 0) := by
    cases flag with
    | true => exact Nat.pow_dvd_pow 2 hbits
    | false => exact Nat.dvd_zero _
  rw [UInt8.toNat_and, hmask, Nat.and_two_pow_sub_one_eq_mod, toNat_flagged (by omega),
    Nat.add_mod, Nat.mod_eq_zero_of_dvd hflag, Nat.add_zero, Nat.mod_mod, Nat.mod_eq_of_lt h]

end OddBox.BigEndian

import Mathlib

/-!
Percent-encoded bytes: two hexadecimal digits behind a percent sign stand for one byte, and a
percent sign that no two digits follow stands for itself.
-/

namespace OddBox.PercentCoding

def percent : UInt8 := 37

def hexValue (digit : UInt8) : Option UInt8 :=
  if 48 ≤ digit && digit ≤ 57 then some (digit - 48)
  else if 65 ≤ digit && digit ≤ 70 then some (digit - 55)
  else if 97 ≤ digit && digit ≤ 102 then some (digit - 87)
  else none

def decode : List UInt8 → List UInt8
  | [] => []
  | [byte] => [byte]
  | [byte, next] => [byte, next]
  | byte :: high :: low :: rest =>
    if byte = percent then
      match hexValue high, hexValue low with
      | some high, some low => (16 * high + low) :: decode rest
      | _, _ => byte :: decode (high :: low :: rest)
    else byte :: decode (high :: low :: rest)

def hexDigit (value : UInt8) : UInt8 := if value < 10 then value + 48 else value + 55

/-- Every byte is encoded. -/
def encode (bytes : List UInt8) : List UInt8 :=
  bytes.flatMap fun byte => [percent, hexDigit (byte / 16), hexDigit (byte % 16)]

theorem hexValue_hexDigit : ∀ byte : UInt8,
    hexValue (hexDigit (byte / 16)) = some (byte / 16) ∧
      hexValue (hexDigit (byte % 16)) = some (byte % 16) ∧
      16 * (byte / 16) + byte % 16 = byte := by
  decide +kernel

theorem decode_encode (bytes : List UInt8) : decode (encode bytes) = bytes := by
  induction bytes with
  | nil => rfl
  | cons byte bytes ih =>
      obtain ⟨hhigh, hlow, hbyte⟩ := hexValue_hexDigit byte
      rw [encode, List.flatMap_cons, ← encode]
      change decode (percent :: hexDigit (byte / 16) :: hexDigit (byte % 16) :: encode bytes) = _
      rw [decode, if_pos rfl, hhigh, hlow, ih]
      simp only [hbyte]

/-- Digits are ASCII. -/
theorem hexValue_lt (digit : UInt8) (h : (hexValue digit).isSome = true) : digit < 128 := by
  have hrange : digit ≤ 57 ∨ digit ≤ 70 ∨ digit ≤ 102 := by
    unfold hexValue at h
    split_ifs at h with hdecimal hupper hlower
    · exact .inl (of_decide_eq_true (Bool.and_eq_true_iff.mp hdecimal).2)
    · exact .inr (.inl (of_decide_eq_true (Bool.and_eq_true_iff.mp hupper).2))
    · exact .inr (.inr (of_decide_eq_true (Bool.and_eq_true_iff.mp hlower).2))
    · contradiction
  rcases hrange with hle | hle | hle <;> exact UInt8.lt_of_le_of_lt hle (by decide)

theorem hexDigit_lt (byte : UInt8) :
    hexDigit (byte / 16) < 128 ∧ hexDigit (byte % 16) < 128 := by
  obtain ⟨hhigh, hlow, -⟩ := hexValue_hexDigit byte
  exact ⟨hexValue_lt _ (Option.isSome_of_eq_some hhigh),
    hexValue_lt _ (Option.isSome_of_eq_some hlow)⟩

/-- An encoding is ASCII. -/
theorem encode_lt (bytes : List UInt8) : ∀ byte ∈ encode bytes, byte < 128 := by
  intro byte hmem
  obtain ⟨source, -, hmem⟩ := List.mem_flatMap.mp hmem
  simp only [List.mem_cons, List.not_mem_nil, or_false] at hmem
  rcases hmem with rfl | rfl | rfl
  · decide
  · exact (hexDigit_lt source).1
  · exact (hexDigit_lt source).2

/-! ## Decoding part by part -/

/-- A byte stands for itself unless it is a percent sign before two digits. -/
theorem decode_cons {byte : UInt8} {rest : List UInt8}
    (h : ∀ high low later, byte = percent → rest = high :: low :: later →
      hexValue high = none ∨ hexValue low = none) :
    decode (byte :: rest) = byte :: decode rest := by
  match rest with
  | [] => rfl
  | [next] => rfl
  | high :: low :: later =>
      rw [decode]
      split
      · next hpercent =>
        split
        · next high' low' hhigh hlow =>
          rcases h high low later hpercent rfl with hnone | hnone
          · rw [hnone] at hhigh
            cases hhigh
          · rw [hnone] at hlow
            cases hlow
        · rfl
      · rfl

theorem none_of_digits {high low : UInt8}
    (h : ∀ highValue lowValue, hexValue high = some highValue → hexValue low = some lowValue →
      False) : hexValue high = none ∨ hexValue low = none := by
  cases hhigh : hexValue high with
  | none => exact .inl rfl
  | some highValue =>
      cases hlow : hexValue low with
      | none => exact .inr rfl
      | some lowValue => exact absurd (h _ _ hhigh hlow) not_false

theorem decode_append_slash (front back : List UInt8) :
    decode (front ++ 47 :: back) = decode front ++ 47 :: decode back := by
  have hslash : decode (47 :: back) = 47 :: decode back :=
    decode_cons fun _ _ _ hpercent => absurd hpercent (by decide)
  have hnone : hexValue 47 = none := by decide
  fun_induction decode front with
  | case1 => exact hslash
  | case2 byte =>
      rw [List.singleton_append, decode_cons, hslash]
      · rfl
      · intro high low later _ hrest
        exact .inl ((List.cons.inj hrest).1 ▸ hnone)
  | case3 byte next =>
      rw [List.cons_append, List.singleton_append, decode_cons, decode_cons, hslash]
      · rfl
      · intro high low later _ hrest
        exact .inl ((List.cons.inj hrest).1 ▸ hnone)
      · intro high low later _ hrest
        exact .inr ((List.cons.inj (List.cons.inj hrest).2).1 ▸ hnone)
  | case4 high low rest highValue lowValue hlow hhigh ih =>
      rw [List.cons_append, List.cons_append, List.cons_append, decode, if_pos rfl, hhigh, hlow,
        ih]
      rfl
  | case5 high low rest hdigits ih =>
      rw [List.cons_append, decode_cons, ih]
      · rfl
      · intro first second later _ hrest
        obtain ⟨hfirst, hrest⟩ := List.cons.inj hrest
        obtain ⟨hsecond, -⟩ := List.cons.inj hrest
        exact hfirst ▸ hsecond ▸ none_of_digits hdigits
  | case6 byte high low rest hother ih =>
      rw [List.cons_append, decode_cons, ih]
      · rfl
      · intro _ _ _ hpercent _
        exact absurd hpercent hother

/-- Where every byte weighs at most what an ASCII byte does, a text that decoding changes loses
weight. -/
theorem decode_weight {weight : UInt8 → Nat} (hone : ∀ byte, weight byte ≤ 1)
    (hascii : ∀ byte, byte < 128 → weight byte = 1) (bytes : List UInt8) :
    decode bytes = bytes ∨
      ((decode bytes).map weight).sum < (bytes.map weight).sum := by
  fun_induction decode bytes with
  | case1 => exact .inl rfl
  | case2 byte => exact .inl rfl
  | case3 byte next => exact .inl rfl
  | case4 high low rest highValue lowValue hlow hhigh ih =>
      refine .inr ?_
      have hpercent := hascii percent (by decide)
      have hhighWeight := hascii high (hexValue_lt high (by rw [hhigh]; rfl))
      have hlowWeight := hascii low (hexValue_lt low (by rw [hlow]; rfl))
      have hbyte := hone (16 * highValue + lowValue)
      have hrest : ((decode rest).map weight).sum ≤ (rest.map weight).sum := by
        rcases ih with hsame | hless
        · rw [hsame]
        · exact hless.le
      simp only [List.map_cons, List.sum_cons]
      omega
  | case5 high low rest hdigits ih =>
      refine ih.imp (fun hsame => by rw [hsame]) fun hless => ?_
      simp only [List.map_cons, List.sum_cons] at hless ⊢
      omega
  | case6 byte high low rest hother ih =>
      refine ih.imp (fun hsame => by rw [hsame]) fun hless => ?_
      simp only [List.map_cons, List.sum_cons] at hless ⊢
      omega

/-! ## Texts that decoding changes -/

/-- Somewhere two digits follow a percent sign. -/
def Encoded (bytes : List UInt8) : Prop :=
  ∃ front high low back, bytes = front ++ percent :: high :: low :: back ∧
    (hexValue high).isSome ∧ (hexValue low).isSome

theorem encoded_cons {byte : UInt8} {rest : List UInt8} (h : Encoded (byte :: rest)) :
    Encoded rest ∨ ∃ high low back, byte = percent ∧ rest = high :: low :: back ∧
      (hexValue high).isSome ∧ (hexValue low).isSome := by
  obtain ⟨front, high, low, back, hbytes, hhigh, hlow⟩ := h
  cases front with
  | nil =>
      obtain ⟨hbyte, hrest⟩ := List.cons.inj hbytes
      exact .inr ⟨high, low, back, hbyte, hrest, hhigh, hlow⟩
  | cons first front =>
      obtain ⟨-, hrest⟩ := List.cons.inj hbytes
      exact .inl ⟨front, high, low, back, hrest, hhigh, hlow⟩

theorem Encoded.cons {rest : List UInt8} (h : Encoded rest) (byte : UInt8) :
    Encoded (byte :: rest) := by
  obtain ⟨front, high, low, back, rfl, hhigh, hlow⟩ := h
  exact ⟨byte :: front, high, low, back, rfl, hhigh, hlow⟩

theorem decode_of_not_encoded {bytes : List UInt8} (h : ¬ Encoded bytes) :
    decode bytes = bytes := by
  induction bytes with
  | nil => rfl
  | cons byte rest ih =>
      rw [decode_cons, ih (mt (Encoded.cons · byte) h)]
      rintro high low later rfl rfl
      by_contra hdigits
      rw [not_or, ← ne_eq, ← ne_eq, Option.ne_none_iff_isSome, Option.ne_none_iff_isSome] at hdigits
      exact h ⟨[], high, low, later, rfl, hdigits⟩

theorem length_decode_le (bytes : List UInt8) : (decode bytes).length ≤ bytes.length := by
  fun_induction decode bytes <;> simp_all
  omega

/-- What has an encoded byte in it gets shorter. -/
theorem length_decode_lt {bytes : List UInt8} (h : Encoded bytes) :
    (decode bytes).length < bytes.length := by
  fun_induction decode bytes with
  | case1 =>
      obtain ⟨front, high, low, back, hbytes, -⟩ := h
      simp at hbytes
  | case2 byte =>
      rcases encoded_cons h with ⟨front, _, _, back, hbytes, -⟩ | ⟨_, _, _, -, hrest, -⟩
      · simp at hbytes
      · cases hrest
  | case3 byte next =>
      rcases encoded_cons h with h | ⟨high, low, back, -, hrest, -⟩
      · rcases encoded_cons h with ⟨front, _, _, back, hbytes, -⟩ | ⟨_, _, _, -, hrest, -⟩
        · simp at hbytes
        · cases hrest
      · cases hrest
  | case4 high low rest highValue lowValue hlow hhigh ih =>
      have hle := length_decode_le rest
      simp only [List.length_cons]
      omega
  | case5 high low rest hdigits ih =>
      rcases encoded_cons h with h | ⟨_, _, _, -, hrest, hhigh, hlow⟩
      · exact Nat.succ_lt_succ (ih h)
      · cases hrest
        obtain ⟨_, hhigh⟩ := Option.isSome_iff_exists.mp hhigh
        obtain ⟨_, hlow⟩ := Option.isSome_iff_exists.mp hlow
        exact absurd (hdigits _ _ hhigh hlow) not_false
  | case6 byte high low rest hother ih =>
      rcases encoded_cons h with h | ⟨_, _, _, hpercent, -⟩
      · exact Nat.succ_lt_succ (ih h)
      · exact absurd hpercent hother

theorem decode_eq_self_iff {bytes : List UInt8} : decode bytes = bytes ↔ ¬ Encoded bytes :=
  ⟨fun hsame h => (length_decode_lt h).ne (congrArg List.length hsame), decode_of_not_encoded⟩

end OddBox.PercentCoding

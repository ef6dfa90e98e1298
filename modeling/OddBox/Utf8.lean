import Mathlib

/-!
Texts as their UTF-8 bytes: which bytes a character has, and how the characters of a text are
counted in them.
-/

namespace OddBox.Utf8

def utf8 (text : List Char) : List UInt8 := text.flatMap String.utf8EncodeChar

def isContinuation (byte : UInt8) : Bool := 128 ≤ byte && byte < 192

@[simp] theorem utf8_nil : utf8 [] = [] := rfl

@[simp] theorem utf8_append (front back : List Char) :
    utf8 (front ++ back) = utf8 front ++ utf8 back := List.flatMap_append

theorem utf8_cons (c : Char) (text : List Char) :
    utf8 (c :: text) = String.utf8EncodeChar c ++ utf8 text := List.flatMap_cons

/-! ## The bytes of a character -/

theorem continuation_of_mod (n : Nat) : isContinuation (UInt8.ofNat (n % 64 + 128)) = true := by
  have hsmall : n % 64 + 128 < 256 := by omega
  have hbyte : (UInt8.ofNat (n % 64 + 128)).toNat = n % 64 + 128 := by
    exact UInt8.toNat_ofNat_of_lt hsmall
  rw [isContinuation, Bool.and_eq_true, decide_eq_true_eq, decide_eq_true_eq, UInt8.le_iff_toNat_le,
    UInt8.lt_iff_toNat_lt, hbyte]
  exact ⟨Nat.le_add_left _ _, by change _ < 192; omega⟩

theorem first_of_mod {n width mark : Nat} (hmark : 192 ≤ mark) (hsum : width + mark ≤ 256)
    (hwidth : 0 < width) : 192 ≤ UInt8.ofNat (n % width + mark) := by
  have hrest := Nat.mod_lt n hwidth
  have hsmall : n % width + mark < 256 := by omega
  have hbyte : (UInt8.ofNat (n % width + mark)).toNat = n % width + mark :=
    UInt8.toNat_ofNat_of_lt hsmall
  rw [UInt8.le_iff_toNat_le, hbyte]
  change 192 ≤ _
  omega

/-- ASCII is one byte; the others are a first byte and continuations of it. -/
theorem utf8EncodeChar_cases (c : Char) :
    (c.toNat < 128 ∧ String.utf8EncodeChar c = [UInt8.ofNat c.toNat]) ∨
      128 ≤ c.toNat ∧ ∃ first rest, String.utf8EncodeChar c = first :: rest ∧ 192 ≤ first ∧
        ∀ byte ∈ rest, isContinuation byte = true := by
  fun_cases String.utf8EncodeChar c with
  | case1 v h => exact .inl ⟨Nat.lt_succ_of_le h, rfl⟩
  | case2 v hone h =>
      refine .inr ⟨by change 128 ≤ v; omega, _, _, rfl, first_of_mod ?_ ?_ ?_, ?_⟩
      · decide
      · decide
      · decide
      · intro byte hmem
        rw [List.mem_singleton.mp hmem]
        exact continuation_of_mod _
  | case3 v hone htwo h =>
      refine .inr ⟨by change 128 ≤ v; omega, _, _, rfl, first_of_mod ?_ ?_ ?_, ?_⟩
      · decide
      · decide
      · decide
      · intro byte hmem
        rcases List.mem_pair.mp hmem with rfl | rfl <;> exact continuation_of_mod _
  | case4 v hone htwo h =>
      refine .inr ⟨by change 128 ≤ v; omega, _, _, rfl, first_of_mod ?_ ?_ ?_, ?_⟩
      · decide
      · decide
      · decide
      · intro byte hmem
        simp only [List.mem_cons, List.not_mem_nil, or_false] at hmem
        rcases hmem with rfl | rfl | rfl <;> exact continuation_of_mod _

/-! ## The bytes of a text -/

theorem toList_toUTF8 (text : String) : text.toUTF8.data.toList = utf8 text.toList := by
  have hbytes : text.toUTF8 = text.toList.utf8Encode := String.utf8Encode_toList.symm
  rw [hbytes, List.utf8Encode, utf8, List.data_toByteArray, List.toList_toArray]

theorem utf8_injective : Function.Injective utf8 := by
  intro a b h
  have hbytes : a.utf8Encode = b.utf8Encode := congrArg List.toByteArray h
  have htext : String.ofList a = String.ofList b := by
    rw [← String.toByteArray_inj, String.toByteArray_ofList, String.toByteArray_ofList, hbytes]
  exact String.ofList_injective htext

theorem toNat_ofNat_byte : ∀ byte : UInt8, (Char.ofNat byte.toNat).toNat = byte.toNat := by
  decide +kernel

/-- ASCII bytes are the bytes of the text of these characters. -/
theorem utf8_map_ofNat {bytes : List UInt8} (h : ∀ byte ∈ bytes, byte < 128) :
    utf8 (bytes.map fun byte => Char.ofNat byte.toNat) = bytes := by
  induction bytes with
  | nil => rfl
  | cons byte bytes ih =>
      have hsmall : byte.toNat < 128 := UInt8.lt_iff_toNat_lt.mp (h byte (by simp))
      have hchar := toNat_ofNat_byte byte
      rw [List.map_cons, utf8_cons, ih fun other hother => h other (by simp [hother])]
      rcases utf8EncodeChar_cases (Char.ofNat byte.toNat) with ⟨-, hbyte⟩ | ⟨hlarge, -⟩
      · rw [hbyte, hchar, UInt8.ofNat_toNat]
        rfl
      · omega

theorem continuation_large {byte : UInt8} (h : isContinuation byte = true) : ¬ byte < 128 := by
  rw [isContinuation, Bool.and_eq_true, decide_eq_true_eq] at h
  exact UInt8.not_lt.mpr h.1

/-- An ASCII byte comes from no other character. -/
theorem mem_utf8_iff {byte : UInt8} (hascii : byte < 128) {text : List Char} :
    byte ∈ utf8 text ↔ Char.ofNat byte.toNat ∈ text := by
  have hchar : ∀ c, byte ∈ String.utf8EncodeChar c ↔ c = Char.ofNat byte.toNat := by
    intro c
    rcases utf8EncodeChar_cases c with
      ⟨hsmall, hbyte⟩ | ⟨hlarge, first, rest, hbytes, hfirst, hrest⟩
    · rw [hbyte, List.mem_singleton]
      constructor
      · rintro rfl
        have hsame : (UInt8.ofNat c.toNat).toNat = c.toNat :=
          UInt8.toNat_ofNat_of_lt (Nat.lt_trans hsmall (by decide))
        rw [hsame, Char.ofNat_toNat]
      · rintro rfl
        rw [toNat_ofNat_byte, UInt8.ofNat_toNat]
    · refine iff_of_false ?_ ?_
      · rw [hbytes, List.mem_cons, not_or]
        refine ⟨?_, fun hmem => continuation_large (hrest byte hmem) hascii⟩
        rintro rfl
        exact absurd (UInt8.lt_of_le_of_lt hfirst hascii) (by decide)
      · rintro rfl
        rw [toNat_ofNat_byte] at hlarge
        exact absurd (UInt8.lt_iff_toNat_lt.mp hascii) (Nat.not_lt.mpr hlarge)
  rw [utf8, List.mem_flatMap]
  constructor
  · rintro ⟨c, hmem, hbyte⟩
    exact (hchar c).mp hbyte ▸ hmem
  · intro hmem
    exact ⟨_, hmem, (hchar _).mpr rfl⟩

/-- Every character has one byte that is no continuation. -/
theorem countP_utf8 (text : List Char) :
    (utf8 text).countP (fun byte => !isContinuation byte) = text.length := by
  induction text with
  | nil => rfl
  | cons c text ih =>
      have hone : (String.utf8EncodeChar c).countP (fun byte => !isContinuation byte) = 1 := by
        rcases utf8EncodeChar_cases c with ⟨hsmall, hbyte⟩ | ⟨-, first, rest, hbytes, hfirst, hrest⟩
        · have hsame : (UInt8.ofNat c.toNat).toNat = c.toNat :=
            UInt8.toNat_ofNat_of_lt (Nat.lt_trans hsmall (by decide))
          have hno : isContinuation (UInt8.ofNat c.toNat) = false := by
            rw [isContinuation, Bool.and_eq_false_iff, decide_eq_false_iff_not,
              UInt8.le_iff_toNat_le, hsame]
            exact .inl (Nat.not_le.mpr hsmall)
          rw [hbyte, List.countP_singleton, hno]
          rfl
        · have hno : isContinuation first = false := by
            rw [isContinuation, Bool.and_eq_false_iff, decide_eq_false_iff_not,
              decide_eq_false_iff_not, UInt8.not_lt]
            exact .inr hfirst
          have hnone : rest.countP (fun byte => !isContinuation byte) = 0 := by
            rw [List.countP_eq_zero]
            intro byte hmem
            simp [hrest byte hmem]
          rw [hbytes, List.countP_cons, hnone, hno]
          rfl
      rw [utf8_cons, List.countP_append, hone, ih, List.length_cons, Nat.add_comm]

end OddBox.Utf8

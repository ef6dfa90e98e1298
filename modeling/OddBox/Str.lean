import Mathlib

/-!
The methods of `str` that compare names without regard to case, read numbers and
cut texts at a byte. The upper-case mapping of the characters outside ASCII is a parameter.
-/

namespace OddBox.Str

/-! ## Case -/

/-- `char::to_uppercase`, which may give several characters. -/
structure CaseMapping where
  upper : Char → List Char
  ascii : ∀ c : Char, c.val < 128 → upper c = [c.toUpper]

def CaseMapping.toUppercase (mapping : CaseMapping) (text : String) : List Char :=
  text.toList.flatMap mapping.upper

def eqIgnoreAsciiCase (a b : String) : Bool :=
  a.toList.map Char.toLower == b.toList.map Char.toLower

theorem toUppercase_suffix {mapping : CaseMapping} {short long : String}
    (h : short.toList <:+ long.toList) :
    mapping.toUppercase short <:+ mapping.toUppercase long := by
  obtain ⟨front, hfront⟩ := h
  refine ⟨front.flatMap mapping.upper, ?_⟩
  simp only [CaseMapping.toUppercase, ← hfront, List.flatMap_append]

theorem ascii_lower_upper (n : Fin 128) :
    (Char.ofNat n).toLower.val < 128 ∧ (Char.ofNat n).toLower.toUpper = (Char.ofNat n).toUpper := by
  revert n
  decide +kernel

theorem toLower_of_not_ascii {c : Char} (h : ¬c.val < 128) : c.toLower = c := by
  unfold Char.toLower
  rw [dif_neg]
  rintro ⟨-, hle⟩
  have hz : 'Z'.val < 128 := by decide
  exact h (UInt32.lt_of_le_of_lt hle hz)

theorem upper_toLower (mapping : CaseMapping) (c : Char) :
    mapping.upper c.toLower = mapping.upper c := by
  by_cases hascii : c.val < 128
  · have hlt : c.toNat < 128 := hascii
    have hlower := ascii_lower_upper ⟨c.toNat, hlt⟩
    simp only [Char.ofNat_toNat] at hlower
    rw [mapping.ascii _ hlower.1, mapping.ascii _ hascii, hlower.2]
  · rw [toLower_of_not_ascii hascii]

/-- Names that differ in the case of ASCII letters only have one upper case. -/
theorem toUppercase_of_eqIgnoreAsciiCase {mapping : CaseMapping} {a b : String}
    (h : eqIgnoreAsciiCase a b = true) : mapping.toUppercase a = mapping.toUppercase b := by
  have hlower : ∀ text : List Char,
      text.flatMap mapping.upper = (text.map Char.toLower).flatMap mapping.upper := by
    intro text
    rw [List.flatMap_map]
    simp only [upper_toLower]
  rw [eqIgnoreAsciiCase, beq_iff_eq] at h
  rw [CaseMapping.toUppercase, CaseMapping.toUppercase, hlower, h, ← hlower]

/-! ## Numbers -/

/-- The digits of an unsigned number, with the overflow check of `from_str_radix`. -/
def parseDigits (bits : Nat) : Nat → List Char → Option Nat
  | value, [] => some value
  | value, c :: cs =>
    if c.isDigit then
      let value := value * 10 + (c.toNat - '0'.toNat)
      if value < 2 ^ bits then parseDigits bits value cs else none
    else none

/-- `str::parse` to an unsigned integer: digits, with an optional plus sign. -/
def parseUnsigned (bits : Nat) (text : String) : Option Nat :=
  let digits := match text.toList with
    | '+' :: digits => digits
    | digits => digits
  if digits.isEmpty then none else parseDigits bits 0 digits

/-! ## Bytes -/

/-- A text is read back from its bytes. -/
theorem fromUTF8_toUTF8 (text : String) :
    String.fromUTF8? ⟨text.toUTF8.data.toList.toArray⟩ = some text := by
  rw [Array.toArray_toList]
  exact dif_pos text.isValidUTF8

/-! ## Slices -/

/-- The length of a text in bytes. -/
def byteLen (text : List Char) : Nat := (text.map Char.utf8Size).sum

/-- The characters that make up the first bytes, if no character is cut. -/
def takeBytes : Nat → List Char → Option (List Char)
  | 0, _ => some []
  | _ + 1, [] => none
  | n + 1, c :: cs =>
    if c.utf8Size ≤ n + 1 then (takeBytes (n + 1 - c.utf8Size) cs).map (c :: ·) else none

theorem byteLen_append (front back : List Char) :
    byteLen (front ++ back) = byteLen front + byteLen back := by
  simp only [byteLen, List.map_append, List.sum_append]

theorem takeBytes_append (front back : List Char) :
    takeBytes (byteLen front) (front ++ back) = some front := by
  induction front with
  | nil => simp only [byteLen, List.map_nil, List.sum_nil, List.nil_append, takeBytes]
  | cons c front ih =>
    have hlen : byteLen (c :: front) = c.utf8Size + byteLen front := by
      simp only [byteLen, List.map_cons, List.sum_cons]
    have hpos : 0 < c.utf8Size := c.utf8Size_pos
    obtain ⟨n, hn⟩ : ∃ n, byteLen (c :: front) = n + 1 :=
      ⟨byteLen (c :: front) - 1, by omega⟩
    have hrest : n + 1 - c.utf8Size = byteLen front := by omega
    rw [hn, List.cons_append, takeBytes, if_pos (by omega), hrest, ih, Option.map_some]

theorem takeBytes_eq_some {n : Nat} {text front : List Char} :
    takeBytes n text = some front ↔ ∃ back, text = front ++ back ∧ byteLen front = n := by
  constructor
  · intro h
    induction text generalizing n front with
    | nil =>
      cases n with
      | zero =>
        cases h
        exact ⟨[], rfl, rfl⟩
      | succ n => cases h
    | cons c text ih =>
      cases n with
      | zero =>
        cases h
        exact ⟨c :: text, rfl, rfl⟩
      | succ n =>
        rw [takeBytes, Option.ite_none_right_eq_some] at h
        obtain ⟨hle, h⟩ := h
        obtain ⟨rest, hrest, rfl⟩ := Option.map_eq_some_iff.mp h
        obtain ⟨back, rfl, hlen⟩ := ih hrest
        refine ⟨back, rfl, ?_⟩
        have hcons : byteLen (c :: rest) = c.utf8Size + byteLen rest := by
          simp only [byteLen, List.map_cons, List.sum_cons]
        omega
  · rintro ⟨back, rfl, rfl⟩
    exact takeBytes_append front back

theorem utf8Size_toLower (c : Char) : c.toLower.utf8Size = c.utf8Size := by
  have hascii : ∀ n : Fin 128,
      (Char.ofNat n).toLower.utf8Size = 1 ∧ (Char.ofNat n).utf8Size = 1 := by
    decide +kernel
  by_cases hlt : c.val < 128
  · have h := hascii ⟨c.toNat, hlt⟩
    simp only [Char.ofNat_toNat] at h
    rw [h.1, h.2]
  · rw [toLower_of_not_ascii hlt]

/-- Names that differ in the case of ASCII letters only have as many bytes. -/
theorem byteLen_of_eqIgnoreAsciiCase {a b : String} (h : eqIgnoreAsciiCase a b = true) :
    byteLen a.toList = byteLen b.toList := by
  have hlower : ∀ text : List Char, byteLen (text.map Char.toLower) = byteLen text := by
    intro text
    simp only [byteLen, List.map_map, Function.comp_def, utf8Size_toLower]
  rw [eqIgnoreAsciiCase, beq_iff_eq] at h
  rw [← hlower, h, hlower]

end OddBox.Str

import Mathlib
import OddBox.Toml.Fields

/-!
Which tables a record is read from: the keys that must be there, those that may be,
and the form of their values. A record is read exactly from the tables that fit its
schema, so that two records can be compared by their schemas.
-/

namespace OddBox.Toml

/-! ## Forms of values -/

def IsString : Value → Prop
  | .string _ => True
  | _ => False

def IsBoolean : Value → Prop
  | .boolean _ => True
  | _ => False

def IsUnsigned (bits : Nat) : Value → Prop
  | .integer number => 0 ≤ number ∧ number < 2 ^ bits
  | _ => False

/-- A text that is one of some names. -/
def IsChoice (names : String → Prop) : Value → Prop
  | .string text => names text
  | _ => False

def IsArrayOf (form : Value → Prop) : Value → Prop
  | .array items => ∀ item ∈ items, form item
  | _ => False

def IsTable (schema : Table → Prop) : Value → Prop
  | .table entries => schema entries
  | _ => False

/-! ## Keys -/

def Requires (form : Value → Prop) (table : Table) (key : String) : Prop :=
  ∃ value, table.lookup key = some value ∧ form value

def Allows (form : Value → Prop) (table : Table) (key : String) : Prop :=
  ∀ value, table.lookup key = some value → form value

/-- Two names of one key. -/
def AllowsEither (form : Value → Prop) (table : Table) (key other : String) : Prop :=
  (table.lookup key = none ∨ table.lookup other = none) ∧
    Allows form table key ∧ Allows form table other

/-! ## What is read fits -/

/-- A decoder takes exactly the values of a form. -/
class Takes {α : Type} (decode : Value → Option α) (form : Value → Prop) : Prop where
  isSome_iff : ∀ value, (decode value).isSome = true ↔ form value

variable {α β : Type} {decode : Value → Option α} {form : Value → Prop}

instance : Takes Value.string? IsString where
  isSome_iff := by
    intro value
    cases value <;> simp [Value.string?, IsString]

instance : Takes Value.boolean? IsBoolean where
  isSome_iff := by
    intro value
    cases value <;> simp [Value.boolean?, IsBoolean]

theorem takes_unsigned {bits : Nat} {make : Nat → α} :
    Takes (fun value => do pure (make (← value.unsigned? bits))) (IsUnsigned bits) where
  isSome_iff := by
    intro value
    cases value with
    | integer number =>
      by_cases hfits : 0 ≤ number ∧ number < 2 ^ bits <;>
        simp [Value.unsigned?, IsUnsigned, hfits]
    | _ => simp [Value.unsigned?, IsUnsigned]

theorem takes_choice {choose : String → Option α} {names : String → Prop}
    (h : ∀ text, (choose text).isSome = true ↔ names text) :
    Takes (fun value => do choose (← value.string?)) (IsChoice names) where
  isSome_iff := by
    intro value
    cases value <;> simp [Value.string?, IsChoice, h]

theorem isSome_mapM {items : List β} {f : β → Option α} :
    (items.mapM f).isSome = true ↔ ∀ x ∈ items, (f x).isSome = true := by
  induction items with
  | nil => simp
  | cons x items ih =>
    rw [List.mapM_cons, List.forall_mem_cons, ← ih]
    cases f x with
    | none => simp
    | some y => cases items.mapM f <;> simp

instance [Takes decode form] : Takes (Value.list? decode) (IsArrayOf form) where
  isSome_iff := by
    intro value
    cases value with
    | array items =>
      change (items.mapM decode).isSome = true ↔ _
      rw [isSome_mapM]
      exact forall₂_congr fun item _ => Takes.isSome_iff item
    | _ => simp [Value.list?, Value.array?, IsArrayOf]

instance [Takes decode form] : Takes (someOf decode) form where
  isSome_iff := by
    intro value
    rw [someOf, Option.isSome_map]
    exact Takes.isSome_iff value

theorem takes_table {read : Table → Option α} {schema : Table → Prop}
    (h : ∀ table, (read table).isSome = true ↔ schema table) :
    Takes (fun value => do read (← value.table?)) (IsTable schema) where
  isSome_iff := by
    intro value
    cases value <;> simp [Value.table?, IsTable, h]

/-! ## Fields that are read fit -/

section

variable [Takes decode form] (table : Table) (key : String)

theorem isSome_requiredField :
    (requiredField decode table key).isSome = true ↔ Requires form table key := by
  unfold requiredField Requires
  cases table.lookup key with
  | none => simp
  | some value => simpa using Takes.isSome_iff value

theorem isSome_defaultField (absent : α) :
    (defaultField absent decode table key).isSome = true ↔ Allows form table key := by
  unfold defaultField Allows
  cases table.lookup key with
  | none => simp
  | some value => simpa using Takes.isSome_iff value

theorem isSome_optionField :
    (optionField decode table key).isSome = true ↔ Allows form table key :=
  isSome_defaultField table key none

theorem isSome_aliasField (other : String) :
    (aliasField decode table key other).isSome = true ↔ AllowsEither form table key other := by
  have hkey : (optionField decode table key).isSome = true ↔ Allows form table key :=
    isSome_optionField table key
  have hsome : ∀ value, (someOf decode value).isSome = true ↔ form value := Takes.isSome_iff
  unfold aliasField AllowsEither
  cases hlookup : table.lookup key with
  | none =>
    cases hother : table.lookup other with
    | none => simpa [hother, Allows] using hkey
    | some value => simpa [hlookup, hother, Allows] using hsome value
  | some value =>
    cases hother : table.lookup other with
    | none => simpa [hother, Allows] using hkey
    | some value => simp

end

/-! ## Records -/

theorem isSome_bind {x : Option α} {f : α → Option β} {p q : Prop}
    (hx : x.isSome = true ↔ p) (hf : ∀ a, (f a).isSome = true ↔ q) :
    (x >>= f).isSome = true ↔ p ∧ q := by
  rw [← hx]
  cases x with
  | none => simp
  | some a => simpa using hf a

/-- The last field of a record. -/
theorem isSome_last {x : Option α} {make : α → β} {p : Prop} (hx : x.isSome = true ↔ p) :
    (x >>= fun a => pure (make a)).isSome = true ↔ p := by
  rw [← hx]
  cases x <;> simp

end OddBox.Toml

import Mathlib
import OddBox.Toml.Reader

/-!
Records read from a table as derived deserialisers read them: a field looks its
key up, an absent key of an optional field gives nothing or the field's default,
keys that no field asks for are ignored. Records and choices come in the forms a
writer gives them, as tables and as strings.
-/

namespace OddBox.Toml

variable {α : Type}

def Value.string? : Value → Option String
  | .string content => some content
  | _ => none

def Value.boolean? : Value → Option Bool
  | .boolean flag => some flag
  | _ => none

/-- An integer below the bound of its type. -/
def Value.unsigned? (bits : Nat) : Value → Option Nat
  | .integer number => if 0 ≤ number ∧ number < 2 ^ bits then some number.toNat else none
  | _ => none

def Value.array? : Value → Option (List Value)
  | .array items => some items
  | _ => none

def Value.table? : Value → Option Table
  | .table entries => some entries
  | _ => none

def Value.list? (decode : Value → Option α) (value : Value) : Option (List α) := do
  let items ← value.array?
  items.mapM decode

def requiredField (decode : Value → Option α) (table : Table) (key : String) : Option α := do
  let value ← table.lookup key
  decode value

/-- A field with a default for the absent key. -/
def defaultField (absent : α) (decode : Value → Option α) (table : Table) (key : String) :
    Option α :=
  match table.lookup key with
  | none => some absent
  | some value => decode value

/-- The value of an `Option` field whose key is there. -/
def someOf (decode : Value → Option α) (value : Value) : Option (Option α) :=
  (decode value).map some

/-- An `Option` field. -/
def optionField (decode : Value → Option α) : Table → String → Option (Option α) :=
  defaultField none (someOf decode)

/-- An `Option` field that two keys name, of which one at most may be given. -/
def aliasField (decode : Value → Option α) (table : Table) (key other : String) :
    Option (Option α) :=
  match table.lookup key, table.lookup other with
  | some _, some _ => none
  | none, some value => someOf decode value
  | _, none => optionField decode table key

theorem unsigned_of_lt {bits n : Nat} (h : n < 2 ^ bits) :
    Value.unsigned? bits (.integer n) = some n := by
  have hfits : (0 : Int) ≤ n ∧ (n : Int) < 2 ^ bits := ⟨by omega, by exact_mod_cast h⟩
  exact if_pos hfits

/-! ## Tables with optional entries -/

/-- The entries that are there. -/
def present (fields : List (String × Option Value)) : Table :=
  fields.filterMap fun field => field.2.map (field.1, ·)

/-- The table has the keys of the list as the list says. -/
def Agrees (table : Table) (fields : List (String × Option Value)) : Prop :=
  ∀ field ∈ fields, table.lookup field.1 = field.2

theorem present_append (first second : List (String × Option Value)) :
    present (first ++ second) = present first ++ present second :=
  List.filterMap_append

theorem present_keys (fields : List (String × Option Value)) :
    List.Sublist ((present fields).map Prod.fst) (fields.map Prod.fst) := by
  induction fields with
  | nil => exact List.Sublist.slnil
  | cons field fields ih =>
    obtain ⟨key, value⟩ := field
    cases value with
    | none => exact ih.cons key
    | some value => exact ih.cons_cons key

theorem present_nodup {fields : List (String × Option Value)}
    (h : (fields.map Prod.fst).Nodup) : ((present fields).map Prod.fst).Nodup :=
  h.sublist (present_keys fields)

theorem lookup_eq_none {table : Table} {key : String} (h : key ∉ table.map Prod.fst) :
    table.lookup key = none := by
  rw [List.lookup_eq_none_iff]
  intro entry hentry
  rw [bne_iff_ne]
  rintro rfl
  exact h (List.mem_map_of_mem hentry)

theorem present_agrees {fields : List (String × Option Value)}
    (h : (fields.map Prod.fst).Nodup) : Agrees (present fields) fields := by
  induction fields with
  | nil => intro field hfield; simp at hfield
  | cons field fields ih =>
    obtain ⟨key, value⟩ := field
    obtain ⟨hkey, hkeys⟩ := List.nodup_cons.mp h
    have habsent : (present fields).lookup key = none :=
      lookup_eq_none fun hmem => hkey ((present_keys fields).subset hmem)
    intro other hother
    rcases List.mem_cons.mp hother with rfl | hrest
    · cases value with
      | none => exact habsent
      | some value => exact List.lookup_cons_self
    · have hne : other.1 ≠ key := by
        rintro rfl
        exact hkey (List.mem_map.mpr ⟨other, hrest, rfl⟩)
      cases value with
      | none => exact ih hkeys other hrest
      | some value =>
        change List.lookup other.1 ((key, value) :: present fields) = other.2
        rw [List.lookup_cons, beq_eq_false_iff_ne.mpr hne]
        exact ih hkeys other hrest

/-! ## Fields of a table -/

section

variable {decode : Value → Option α} {encode : α → Value} {table : Table} {key : String}
  (hdecode : ∀ x, decode (encode x) = some x)

include hdecode

theorem requiredField_of_lookup {x : α} (hlookup : table.lookup key = some (encode x)) :
    requiredField decode table key = some x := by
  rw [requiredField, hlookup]
  exact hdecode x

theorem defaultField_of_lookup {absent : α} {w : Option α}
    (hlookup : table.lookup key = w.map encode) :
    defaultField absent decode table key = some (w.getD absent) := by
  rw [defaultField, hlookup]
  cases w with
  | none => rfl
  | some x => exact hdecode x

/-- An `Option` field whose absent key stands for a value. -/
theorem defaultField_some_of_lookup {absent : α} {w : Option α}
    (hlookup : table.lookup key = w.map encode) :
    defaultField (some absent) (someOf decode) table key =
      some (some (w.getD absent)) := by
  rw [defaultField, hlookup]
  cases w with
  | none => rfl
  | some x => exact congrArg (Option.map some) (hdecode x)

theorem optionField_of_lookup {w : Option α}
    (hlookup : table.lookup key = w.map encode) :
    optionField decode table key = some w := by
  rw [optionField, defaultField, hlookup]
  cases w with
  | none => rfl
  | some x => exact congrArg (Option.map some) (hdecode x)

theorem aliasField_of_lookup {other : String} {w : Option α}
    (hlookup : table.lookup key = w.map encode) (hother : table.lookup other = none) :
    aliasField decode table key other = some w := by
  have hoptional := optionField_of_lookup hdecode hlookup
  rw [aliasField, hother]
  cases table.lookup key <;> exact hoptional

end

theorem list_of_array {β : Type} {decode : Value → Option α} {encode : β → Value} {back : β → α}
    {items : List β} (h : ∀ x ∈ items, decode (encode x) = some (back x)) :
    Value.list? decode (.array (items.map encode)) = some (items.map back) := by
  change (items.map encode).mapM decode = _
  induction items with
  | nil => rfl
  | cons x items ih =>
    obtain ⟨hx, hitems⟩ := List.forall_mem_cons.mp h
    rw [List.map_cons, List.mapM_cons, hx, ih hitems]
    rfl

theorem list_of_all {decode : Value → Option α} {encode : α → Value}
    (hdecode : ∀ x, decode (encode x) = some x) (items : List α) :
    Value.list? decode (.array (items.map encode)) = some items := by
  have hlist : Value.list? decode (.array (items.map encode)) = some (items.map id) :=
    list_of_array fun x _ => hdecode x
  rwa [List.map_id] at hlist

end OddBox.Toml

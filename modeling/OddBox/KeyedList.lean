import Mathlib

/-!
Maps that are given as lists, in the order of an iteration: the keys are distinct, and a map
that is collected from items keeps the last item under each key.
-/

namespace OddBox.KeyedList

variable {α κ : Type*} [DecidableEq κ]

/-- A key is in the list at most once. -/
def Keyed (map : List (κ × α)) : Prop := (map.map Prod.fst).Nodup

theorem lookup_cons (other : κ) (a : α) (map : List (κ × α)) (k : κ) :
    ((other, a) :: map).lookup k = if other = k then some a else map.lookup k := by
  by_cases hk : other = k
  · rw [if_pos hk, hk, List.lookup_cons_self]
  · rw [if_neg hk, List.lookup_cons, beq_false_of_ne (Ne.symm hk)]

section

variable (key : α → κ)

def insert (map : List (κ × α)) (a : α) : List (κ × α) :=
  (key a, a) :: map.filter (·.1 != key a)

def collect (items : List α) : List (κ × α) := items.foldl (insert key) []

def lastKeyed (items : List α) (k : κ) : Option α := items.reverse.find? (key · == k)

variable {key}

theorem Keyed.insert {map : List (κ × α)} (h : Keyed map) (a : α) :
    Keyed (insert key map a) := by
  refine List.nodup_cons.mpr ⟨?_, ?_⟩
  · intro hmem
    obtain ⟨entry, hentry, hkey⟩ := List.mem_map.mp hmem
    exact bne_iff_ne.mp (List.mem_filter.mp hentry).2 hkey
  · exact h.sublist (List.filter_sublist.map Prod.fst)

theorem lookup_filter_ne {map : List (κ × α)} {k other : κ} (h : other ≠ k) :
    (map.filter (·.1 != other)).lookup k = map.lookup k := by
  induction map with
  | nil => rfl
  | cons entry map ih =>
    obtain ⟨first, b⟩ := entry
    by_cases hfirst : first = other
    · rw [List.filter_cons_of_neg (by simp [hfirst]), ih, lookup_cons, if_neg (hfirst ▸ h)]
    · rw [List.filter_cons_of_pos (by simp [hfirst]), lookup_cons, lookup_cons, ih]

theorem lookup_insert (map : List (κ × α)) (a : α) (k : κ) :
    (insert key map a).lookup k = if key a = k then some a else map.lookup k := by
  rw [insert, lookup_cons]
  by_cases hk : key a = k
  · rw [if_pos hk, if_pos hk]
  · rw [if_neg hk, if_neg hk, lookup_filter_ne hk]

theorem collect_concat (items : List α) (a : α) :
    collect key (items ++ [a]) = insert key (collect key items) a :=
  List.foldl_append

/-- The last item under a key is the one that is found. -/
theorem lookup_collect (items : List α) (k : κ) :
    (collect key items).lookup k = lastKeyed key items k := by
  induction items using List.reverseRecOn with
  | nil => rfl
  | append_singleton items a ih =>
    rw [collect_concat, lookup_insert, ih, lastKeyed, lastKeyed, List.reverse_append,
      List.reverse_singleton, List.singleton_append, List.find?_cons]
    by_cases hk : key a = k
    · rw [if_pos hk, beq_iff_eq.mpr hk]
    · rw [if_neg hk, beq_false_of_ne hk]

end

end OddBox.KeyedList

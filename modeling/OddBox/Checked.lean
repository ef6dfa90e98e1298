import OddBox.Incremental

/-!
Computations that may panic: numbers of fixed width, and access to a list by index and by
range. A decoder written with them is compared with a `Decoder` that has no such bounds: it
panics on a set of buffers and agrees with the other one elsewhere.
-/

namespace OddBox.Checked

open OddBox.Incremental

inductive Panic where
  | overflow
  | outOfRange
  deriving DecidableEq, Repr

theorem bind_eq_ok {ε α β : Type} {first : Except ε α} {next : α → Except ε β} {b : β} :
    (first >>= next) = .ok b ↔ ∃ a, first = .ok a ∧ next a = .ok b := by
  cases first with
  | error panic =>
    constructor
    · intro h
      cases h
    · rintro ⟨a, ha, -⟩
      cases ha
  | ok a =>
    constructor
    · intro h
      exact ⟨a, rfl, h⟩
    · rintro ⟨_, ha, h⟩
      cases ha
      exact h

/-! ## Operations -/

/-- The sum of two unsigned numbers. -/
def add (bits a b : Nat) : Except Panic Nat :=
  if a + b < 2 ^ bits then .ok (a + b) else .error .overflow

/-- The difference of two unsigned numbers. -/
def sub (a b : Nat) : Except Panic Nat := if b ≤ a then .ok (a - b) else .error .overflow

section Lists

variable {α : Type}

def index (xs : List α) (i : Nat) : Except Panic α :=
  match xs[i]? with
  | some x => .ok x
  | none => .error .outOfRange

/-- The elements from `start` on and before `stop`. -/
def slice (xs : List α) (start stop : Nat) : Except Panic (List α) :=
  if start ≤ stop ∧ stop ≤ xs.length then .ok ((xs.drop start).take (stop - start))
  else .error .outOfRange

theorem add_ok {bits a b : Nat} (h : a + b < 2 ^ bits) : add bits a b = .ok (a + b) := if_pos h

theorem add_overflow {bits a b : Nat} (h : 2 ^ bits ≤ a + b) :
    add bits a b = .error .overflow := if_neg (Nat.not_lt.mpr h)

theorem sub_ok {a b : Nat} (h : b ≤ a) : sub a b = .ok (a - b) := if_pos h

theorem index_ok {xs : List α} {i : Nat} (h : i < xs.length) (default : α) :
    index xs i = .ok (xs.getD i default) := by
  rw [index, List.getElem?_eq_getElem h, List.getD_eq_getElem _ _ h]

theorem slice_ok {xs : List α} {start stop : Nat} (h : start ≤ stop) (hstop : stop ≤ xs.length) :
    slice xs start stop = .ok ((xs.drop start).take (stop - start)) := if_pos ⟨h, hstop⟩

/-- A loop over a range of indices goes through the elements there. -/
theorem foldlM_index {σ : Type} {xs : List α} {bits start count : Nat}
    (hcount : start + count ≤ xs.length) (hbits : start + count ≤ 2 ^ bits) (f : σ → α → σ)
    (init : σ) :
    (List.range count).foldlM (fun acc i => do
      let x ← index xs (← add bits start i)
      pure (f acc x)) init = .ok (((xs.drop start).take count).foldl f init) := by
  induction count with
  | zero => rfl
  | succ count ih =>
    have hlt : start + count < xs.length := by omega
    have hdrop : count < (xs.drop start).length := by
      rw [List.length_drop]
      omega
    have hlast : (xs.drop start).take (count + 1) =
        (xs.drop start).take count ++ [xs[start + count]] := by
      rw [List.take_add_one, List.getElem?_eq_getElem hdrop, List.getElem_drop]
      rfl
    have hindex : index xs (start + count) = .ok xs[start + count] := by
      rw [index, List.getElem?_eq_getElem hlt]
    rw [List.range_succ, List.foldlM_append, ih (by omega) (by omega), hlast, List.foldl_append]
    simp only [List.foldlM_cons, List.foldlM_nil, bind, Except.bind,
      add_ok (show start + count < 2 ^ bits by omega), hindex, pure, Except.pure, List.foldl_cons,
      List.foldl_nil]

end Lists

/-! ## Decoders -/

/-- What is left of a buffer after some of its units. -/
inductive Leaves {β α : Type} (D : Decoder β α) : List β → List β → Prop where
  | here (buf) : Leaves D buf buf
  | later {buf unit rest last} : D.next buf = some (unit, rest) → Leaves D rest last →
      Leaves D buf last

/-- The decoder as it is computed: it panics on some buffers. -/
structure CheckedDecoder {β α : Type} (D : Decoder β α) where
  next : List β → Except Panic (Option (α × List β))
  Fails : List β → Prop
  next_eq : ∀ {buf}, ¬ Fails buf → next buf = .ok (D.next buf)
  next_fails : ∀ {buf}, Fails buf → ∃ panic, next buf = .error panic

section Decoders

variable {β α : Type} {D : Decoder β α}

/-- What is left of a buffer grows with it. -/
theorem Leaves.append {buf rest : List β} (h : Leaves D buf rest) (later : List β) :
    Leaves D (buf ++ later) (rest ++ later) := by
  induction h with
  | here buf => exact .here _
  | later hnext _ ih => exact .later (D.stable hnext later) ih

theorem leaves_decodeAll (D : Decoder β α) (buf : List β) :
    Leaves D buf (D.decodeAll buf).2 := by
  induction buf using Decoder.decodeAll.induct D with
  | case1 buf hnone =>
    rw [D.decodeAll_none hnone]
    exact .here buf
  | case2 buf unit rest hsome _ ih =>
    rw [D.decodeAll_some hsome]
    exact .later hsome ih

theorem CheckedDecoder.next_ok (C : CheckedDecoder D) {buf : List β}
    {found : Option (α × List β)} (h : C.next buf = .ok found) :
    ¬ C.Fails buf ∧ D.next buf = found := by
  by_cases hfails : C.Fails buf
  · obtain ⟨panic, hpanic⟩ := C.next_fails hfails
    rw [hpanic] at h
    cases h
  · rw [C.next_eq hfails] at h
    exact ⟨hfails, Except.ok.inj h⟩

/-- The loop that takes units off the front until there is none or it panics. -/
def CheckedDecoder.decodeAll (C : CheckedDecoder D) (buf : List β) :
    Except Panic (List α × List β) :=
  match h : C.next buf with
  | .error panic => .error panic
  | .ok none => .ok ([], buf)
  | .ok (some (unit, rest)) =>
    have : rest.length < buf.length := D.shrinks (C.next_ok h).2
    (CheckedDecoder.decodeAll C rest).map fun tail => (unit :: tail.1, tail.2)
termination_by buf.length

theorem CheckedDecoder.decodeAll_some (C : CheckedDecoder D) {buf rest : List β} {unit : α}
    (h : C.next buf = .ok (some (unit, rest))) :
    C.decodeAll buf = (C.decodeAll rest).map fun tail => (unit :: tail.1, tail.2) := by
  rw [CheckedDecoder.decodeAll]
  split
  · simp_all
  · simp_all
  · rename_i unit' rest' h'
    rw [h] at h'
    cases h'
    rfl

theorem CheckedDecoder.decodeAll_none (C : CheckedDecoder D) {buf : List β}
    (h : C.next buf = .ok none) : C.decodeAll buf = .ok ([], buf) := by
  rw [CheckedDecoder.decodeAll]
  split
  · simp_all
  · rfl
  · simp_all

theorem CheckedDecoder.decodeAll_error (C : CheckedDecoder D) {buf : List β} {panic : Panic}
    (h : C.next buf = .error panic) : C.decodeAll buf = .error panic := by
  rw [CheckedDecoder.decodeAll]
  split
  · simp_all
  · simp_all
  · simp_all

/-- Where no buffer on the way fails, the loop decodes everything. -/
theorem CheckedDecoder.decodeAll_eq (C : CheckedDecoder D) (buf : List β)
    (h : ∀ rest, Leaves D buf rest → ¬ C.Fails rest) :
    C.decodeAll buf = .ok (D.decodeAll buf) := by
  induction buf using Decoder.decodeAll.induct D with
  | case1 buf hnone =>
    have hnext := C.next_eq (h buf (.here buf))
    rw [hnone] at hnext
    rw [C.decodeAll_none hnext, D.decodeAll_none hnone]
  | case2 buf unit rest hsome _ ih =>
    have hnext := C.next_eq (h buf (.here buf))
    rw [hsome] at hnext
    rw [C.decodeAll_some hnext, D.decodeAll_some hsome,
      ih fun last hlast => h last (.later hsome hlast)]
    rfl

theorem CheckedDecoder.decodeAll_fails (C : CheckedDecoder D) {buf rest : List β}
    (hrest : Leaves D buf rest) (hfails : C.Fails rest) :
    ∃ panic, C.decodeAll buf = .error panic := by
  induction hrest with
  | here buf =>
    obtain ⟨panic, hpanic⟩ := C.next_fails hfails
    exact ⟨panic, C.decodeAll_error hpanic⟩
  | @later buf unit mid last hsome _ ih =>
    cases hnext : C.next buf with
    | error panic => exact ⟨panic, C.decodeAll_error hnext⟩
    | ok found =>
      have hfound := (C.next_ok hnext).2
      rw [hsome] at hfound
      subst hfound
      obtain ⟨panic, hpanic⟩ := ih hfails
      exact ⟨panic, by rw [C.decodeAll_some hnext, hpanic]; rfl⟩

/-- The loop completes exactly where no buffer on the way fails. -/
theorem CheckedDecoder.decodeAll_ok_iff (C : CheckedDecoder D) {buf : List β}
    {read : List α × List β} :
    C.decodeAll buf = .ok read ↔
      D.decodeAll buf = read ∧ ∀ rest, Leaves D buf rest → ¬ C.Fails rest := by
  constructor
  · intro h
    have hall : ∀ rest, Leaves D buf rest → ¬ C.Fails rest := by
      intro rest hrest hfails
      obtain ⟨panic, hpanic⟩ := C.decodeAll_fails hrest hfails
      rw [hpanic] at h
      cases h
    rw [C.decodeAll_eq buf hall] at h
    exact ⟨Except.ok.inj h, hall⟩
  · rintro ⟨rfl, hall⟩
    exact C.decodeAll_eq buf hall

/-- The same for a function of what is decoded. -/
theorem CheckedDecoder.map_decodeAll_ok_iff (C : CheckedDecoder D) {γ : Type} {buf : List β}
    {f : List α × List β → γ} {result : γ} :
    (C.decodeAll buf >>= fun read => pure (f read)) = .ok result ↔
      f (D.decodeAll buf) = result ∧ ∀ rest, Leaves D buf rest → ¬ C.Fails rest := by
  rw [bind_eq_ok]
  constructor
  · rintro ⟨read, hread, hresult⟩
    obtain ⟨rfl, hall⟩ := C.decodeAll_ok_iff.mp hread
    exact ⟨Except.ok.inj hresult, hall⟩
  · rintro ⟨rfl, hall⟩
    exact ⟨_, C.decodeAll_ok_iff.mpr ⟨rfl, hall⟩, rfl⟩

end Decoders

/-! ## Loops -/

section Loops

variable {σ α : Type}

/-- The loop that polls until there is no element, with the elements in between. -/
inductive Drains (poll : σ → Except Panic (Option α × σ)) : σ → List α → σ → Prop where
  | pending {s last} : poll s = .ok (none, last) → Drains poll s [] last
  | ready {s x next xs last} : poll s = .ok (some x, next) → Drains poll next xs last →
      Drains poll s (x :: xs) last

/-- A poll that never panics and that lowers a measure with every element is drained. -/
theorem exists_drains {poll : σ → Except Panic (Option α × σ)} (measure : σ → Nat)
    (hpoll : ∀ s, ∃ x next, poll s = .ok (x, next) ∧ (x.isSome = true → measure next < measure s))
    (s : σ) : ∃ xs last, Drains poll s xs last := by
  induction hm : measure s using Nat.strong_induction_on generalizing s with
  | _ m ih =>
    obtain ⟨x, next, hnext, hlt⟩ := hpoll s
    cases x with
    | none => exact ⟨[], next, .pending hnext⟩
    | some x =>
      have hdown : measure next < m := hm ▸ hlt rfl
      obtain ⟨xs, last, hrest⟩ := ih _ hdown next rfl
      exact ⟨x :: xs, last, .ready hnext hrest⟩

end Loops

end OddBox.Checked

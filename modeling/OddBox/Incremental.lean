import Mathlib

/-!
Incremental decoding of a buffered stream. A decoder removes at most one unit
from the front of a buffer. Its two laws are fields: bytes that arrive later
never change a unit that is already complete, and every unit has a positive
size. They are all that is needed to show that the units read from a stream do
not depend on how the stream was cut into chunks.
-/

namespace OddBox.Incremental

/-- A decoder of units `α` from a buffer of symbols `β`. -/
structure Decoder (β α : Type*) where
  next : List β → Option (α × List β)
  stable : ∀ {buf unit rest}, next buf = some (unit, rest) →
    ∀ later, next (buf ++ later) = some (unit, rest ++ later)
  shrinks : ∀ {buf unit rest}, next buf = some (unit, rest) →
    rest.length < buf.length

variable {β α : Type*} (D : Decoder β α)

/-- All complete units at the front of a buffer, and what is left of it. -/
def Decoder.decodeAll (buf : List β) : List α × List β :=
  match h : D.next buf with
  | none => ([], buf)
  | some (unit, rest) =>
    have : rest.length < buf.length := D.shrinks h
    let tail := Decoder.decodeAll rest
    (unit :: tail.1, tail.2)
termination_by buf.length

theorem Decoder.decodeAll_none {buf : List β} (h : D.next buf = none) :
    D.decodeAll buf = ([], buf) := by
  rw [Decoder.decodeAll]
  split
  · rfl
  · simp_all

theorem Decoder.decodeAll_some {buf rest : List β} {unit : α}
    (h : D.next buf = some (unit, rest)) :
    D.decodeAll buf = (unit :: (D.decodeAll rest).1, (D.decodeAll rest).2) := by
  rw [Decoder.decodeAll]
  split
  · simp_all
  · rename_i unit' rest' h'
    rw [h] at h'
    cases h'
    rfl

/-- Decoding stops only where no complete unit is left. -/
theorem Decoder.next_rest (buf : List β) : D.next (D.decodeAll buf).2 = none := by
  induction buf using Decoder.decodeAll.induct D with
  | case1 buf h => rw [D.decodeAll_none h]; exact h
  | case2 buf unit rest h _ ih => rw [D.decodeAll_some h]; exact ih

/-- What is left over yields nothing when it is decoded again. -/
theorem Decoder.decodeAll_rest (buf : List β) :
    D.decodeAll (D.decodeAll buf).2 = ([], (D.decodeAll buf).2) :=
  D.decodeAll_none (D.next_rest buf)

/-- Decoding a buffer to the end and then again after more symbols arrived
yields the units of the whole buffer. -/
theorem Decoder.decodeAll_append (buf later : List β) :
    D.decodeAll (buf ++ later) =
      ((D.decodeAll buf).1 ++ (D.decodeAll ((D.decodeAll buf).2 ++ later)).1,
        (D.decodeAll ((D.decodeAll buf).2 ++ later)).2) := by
  induction buf using Decoder.decodeAll.induct D with
  | case1 buf h => simp [D.decodeAll_none h]
  | case2 buf unit rest h _ ih =>
    rw [D.decodeAll_some (D.stable h later), D.decodeAll_some h, ih]
    simp

/-- The units of a buffer stay the first units when more symbols arrive. -/
theorem Decoder.decodeAll_mono (buf later : List β) :
    (D.decodeAll buf).1 <+: (D.decodeAll (buf ++ later)).1 := by
  rw [D.decodeAll_append]
  exact List.prefix_append _ _

/-- If a stream is decoded to the end and a first part of it has all its units,
that part is the whole stream. -/
theorem Decoder.later_eq_nil {buf later : List β} (hrest : (D.decodeAll (buf ++ later)).2 = [])
    (hunits : (D.decodeAll (buf ++ later)).1 = (D.decodeAll buf).1) : later = [] := by
  rw [D.decodeAll_append] at hrest hunits
  rw [List.append_right_eq_self] at hunits
  cases hnext : D.next ((D.decodeAll buf).2 ++ later) with
  | none =>
    rw [D.decodeAll_none hnext] at hrest
    exact (List.append_eq_nil_iff.mp hrest).2
  | some taken =>
    rw [D.decodeAll_some hnext] at hunits
    cases hunits

/-- Feeding chunks one at a time, decoding all that is complete after each. -/
def Decoder.feed (buf : List β) : List (List β) → List α × List β
  | [] => ([], buf)
  | chunk :: chunks =>
    let now := D.decodeAll (buf ++ chunk)
    let tail := Decoder.feed now.2 chunks
    (now.1 ++ tail.1, tail.2)

/-- **Chunking is invisible**: the units fed in chunks are those of the whole
stream, with the same remainder. -/
theorem Decoder.feed_eq (buf : List β) (chunks : List (List β))
    (hbuf : D.next buf = none) :
    D.feed buf chunks = D.decodeAll (buf ++ chunks.flatten) := by
  induction chunks generalizing buf with
  | nil => simp [Decoder.feed, D.decodeAll_none hbuf]
  | cons chunk chunks ih =>
    rw [Decoder.feed, ih _ (D.next_rest _)]
    rw [List.flatten_cons, ← List.append_assoc, D.decodeAll_append (buf ++ chunk)]

/-- An encoding of messages `γ` that the decoder reads back as units. -/
structure Decoder.Encodes {γ : Type*} (encode : γ → List β) (unit : γ → α) : Prop where
  next_encode : ∀ message rest, D.next (encode message ++ rest) = some (unit message, rest)

variable {D} {γ : Type*} {encode : γ → List β} {unit : γ → α}

/-- Encoded messages decode to their units, whatever follows them. -/
theorem Decoder.Encodes.decodeAll_append (henc : D.Encodes encode unit)
    (messages : List γ) (rest : List β) :
    D.decodeAll ((messages.map encode).flatten ++ rest) =
      (messages.map unit ++ (D.decodeAll rest).1, (D.decodeAll rest).2) := by
  induction messages with
  | nil => simp
  | cons message messages ih =>
    rw [List.map_cons, List.flatten_cons, List.append_assoc,
      D.decodeAll_some (henc.next_encode message _), ih]
    simp

/-- A message of which symbols are missing is no unit. -/
theorem Decoder.Encodes.next_cut (henc : D.Encodes encode unit) {message : γ}
    {cut later : List β} (h : encode message = cut ++ later) (hlater : later ≠ []) :
    D.next cut = none := by
  cases hnext : D.next cut with
  | none => rfl
  | some taken =>
    obtain ⟨found, rest⟩ := taken
    have hwhole := henc.next_encode message []
    rw [List.append_nil, h, D.stable hnext later, Option.some.injEq, Prod.mk.injEq,
      List.append_eq_nil_iff] at hwhole
    exact absurd hwhole.2.2 hlater

theorem Decoder.Encodes.decodeAll_encoded (henc : D.Encodes encode unit) (hnil : D.next [] = none)
    (messages : List γ) :
    D.decodeAll (messages.map encode).flatten = (messages.map unit, []) := by
  have h := henc.decodeAll_append messages []
  rwa [List.append_nil, D.decodeAll_none hnil, List.append_nil] at h

/-- If only the last unit of a stream has a property, the units of a first part
have it only where that part is the whole stream. -/
theorem Decoder.later_eq_nil_of_last {first later : List β} {units : List α} {p : α → Bool}
    (hall : D.decodeAll (first ++ later) = (units, []))
    (hlast : ∀ before u after, units = before ++ u :: after → p u = true → after = [])
    (hfirst : (D.decodeAll first).1.any p = true) : later = [] := by
  have hunits : (D.decodeAll (first ++ later)).1 = units := by rw [hall]
  obtain ⟨more, hmore⟩ := D.decodeAll_mono first later
  obtain ⟨u, hu, hpu⟩ := List.any_eq_true.mp hfirst
  obtain ⟨before, after, hsplit⟩ := List.append_of_mem hu
  have hend : after ++ more = [] := by
    apply hlast before u _ _ hpu
    rw [← hunits, ← hmore, hsplit, List.append_assoc, List.cons_append]
  apply D.later_eq_nil (by rw [hall])
  rw [← hmore, (List.append_eq_nil_iff.mp hend).2, List.append_nil]

end OddBox.Incremental

import Mathlib

/-!
A bounded broadcast channel. The channel keeps the last messages that were sent, as many as
its capacity; every receiver has a position of its own, and is told how many messages it has
missed where that position is no longer kept.
-/

namespace OddBox.Broadcast

variable {α : Type*}

/-! ## The channel -/

structure Channel (α : Type*) where
  capacity : Nat
  /-- How many messages are no longer kept. -/
  dropped : Nat
  kept : List α
  fits : kept.length ≤ capacity

/-- What a receiver gets that does not wait. -/
inductive TryRecv (α : Type*) where
  | message (a : α)
  | empty
  | lagged (missed : Nat)
  deriving DecidableEq, Repr

namespace Channel

def new (capacity : Nat) : Channel α := ⟨capacity, 0, [], Nat.zero_le _⟩

/-- The position of the next message. -/
def tail (channel : Channel α) : Nat := channel.dropped + channel.kept.length

def send (channel : Channel α) (a : α) : Channel α where
  capacity := channel.capacity
  dropped := channel.dropped + ((channel.kept ++ [a]).length - channel.capacity)
  kept := (channel.kept ++ [a]).drop ((channel.kept ++ [a]).length - channel.capacity)
  fits := by
    rw [List.length_drop]
    omega

/-- A new receiver gets what is sent from now on. -/
def subscribe (channel : Channel α) : Nat := channel.tail

/-- The result for a receiver at a position, and the position that it goes on from. -/
def tryRecv (channel : Channel α) (position : Nat) : TryRecv α × Nat :=
  if position < channel.dropped then
    (.lagged (channel.dropped - position), channel.dropped)
  else
    match channel.kept[position - channel.dropped]? with
    | some a => (.message a, position + 1)
    | none => (.empty, position)

/-- The channel after all that has been sent on it. -/
structure Holds (channel : Channel α) (sent : List α) : Prop where
  dropped : channel.dropped = sent.length - channel.capacity
  kept : channel.kept = sent.drop channel.dropped

section

variable {channel : Channel α} {sent : List α}

theorem holds_new (capacity : Nat) : (new capacity : Channel α).Holds [] := ⟨by simp [new], rfl⟩

theorem Holds.kept_length (h : channel.Holds sent) :
    channel.kept.length = sent.length - channel.dropped := by
  rw [h.kept, List.length_drop]

theorem Holds.tail (h : channel.Holds sent) : channel.tail = sent.length := by
  have hlength := h.kept_length
  have hdropped := h.dropped
  unfold Channel.tail
  omega

theorem Holds.send (h : channel.Holds sent) (a : α) : (channel.send a).Holds (sent ++ [a]) := by
  have hlength := h.kept_length
  have hdropped := h.dropped
  have hfits := channel.fits
  have hexcess : channel.dropped + ((channel.kept ++ [a]).length - channel.capacity) =
      (sent ++ [a]).length - channel.capacity := by
    rw [List.length_append, List.length_append, List.length_singleton]
    omega
  have hkept : (sent ++ [a]).drop channel.dropped = channel.kept ++ [a] := by
    rw [List.drop_append_of_le_length (by omega), ← h.kept]
  refine ⟨hexcess, ?_⟩
  change (channel.kept ++ [a]).drop _ = (sent ++ [a]).drop (channel.dropped + _)
  rw [← List.drop_drop, hkept]

/-- A receiver that is not too far behind gets the message at its position. -/
theorem Holds.tryRecv_of_le (h : channel.Holds sent) {position : Nat}
    (hnear : sent.length ≤ position + channel.capacity) :
    channel.tryRecv position =
      match sent[position]? with
      | some a => (.message a, position + 1)
      | none => (.empty, position) := by
  have hdropped := h.dropped
  rw [tryRecv, if_neg (by omega), h.kept, List.getElem?_drop,
    Nat.add_sub_cancel' (show channel.dropped ≤ position by omega)]

/-- One that is too far behind goes on with the first message that is kept. -/
theorem Holds.tryRecv_of_lt (h : channel.Holds sent) {position : Nat}
    (hfar : position + channel.capacity < sent.length) :
    channel.tryRecv position =
      (.lagged (sent.length - channel.capacity - position), sent.length - channel.capacity) := by
  have hdropped := h.dropped
  rw [tryRecv, if_pos (by omega), hdropped]

@[simp] theorem send_capacity (a : α) : (channel.send a).capacity = channel.capacity := rfl

end

end Channel

/-! ## Results -/

/-- The messages among results. -/
def messages (results : List (TryRecv α)) : List α :=
  results.filterMap fun
    | .message a => some a
    | _ => none

/-- How many messages were missed. -/
def missed (results : List (TryRecv α)) : Nat :=
  (results.map fun
    | .lagged missed => missed
    | _ => 0).sum

/-- The results account for messages that were sent one after the other: for the one that was
received, for none, or for as many as were missed. -/
inductive Accounts : List (TryRecv α) → List α → Prop where
  | nil : Accounts [] []
  | message {results : List (TryRecv α)} {sent : List α} (h : Accounts results sent) (a : α) :
    Accounts (results ++ [.message a]) (sent ++ [a])
  | empty {results : List (TryRecv α)} {sent : List α} (h : Accounts results sent) :
    Accounts (results ++ [.empty]) sent
  | lagged {results : List (TryRecv α)} {sent : List α} (h : Accounts results sent)
    (lost : List α) : Accounts (results ++ [.lagged lost.length]) (sent ++ lost)

section

variable {results : List (TryRecv α)} {sent : List α}

@[simp] theorem messages_append (first second : List (TryRecv α)) :
    messages (first ++ second) = messages first ++ messages second :=
  List.filterMap_append

@[simp] theorem missed_append (first second : List (TryRecv α)) :
    missed (first ++ second) = missed first + missed second := by
  rw [missed, List.map_append, List.sum_append]
  rfl

@[simp] theorem messages_message (a : α) : messages [.message a] = [a] := rfl

@[simp] theorem messages_empty : messages [(.empty : TryRecv α)] = [] := rfl

@[simp] theorem messages_lagged (n : Nat) : messages [(.lagged n : TryRecv α)] = [] := rfl

@[simp] theorem missed_message (a : α) : missed [.message a] = 0 := rfl

@[simp] theorem missed_empty : missed [(.empty : TryRecv α)] = 0 := rfl

@[simp] theorem missed_lagged (n : Nat) : missed [(.lagged n : TryRecv α)] = n := rfl

/-- What is received comes in the order it was sent in, and nothing twice. -/
theorem Accounts.sublist (h : Accounts results sent) : (messages results).Sublist sent := by
  induction h with
  | nil => exact List.Sublist.slnil
  | message h a ih =>
    rw [messages_append, messages_message]
    exact ih.append (List.Sublist.refl [a])
  | empty h ih =>
    rw [messages_append, messages_empty, List.append_nil]
    exact ih
  | lagged h lost ih =>
    rw [messages_append, messages_lagged]
    exact ih.append (List.nil_sublist lost)

/-- Every message is received or counted as missed. -/
theorem Accounts.length (h : Accounts results sent) :
    (messages results).length + missed results = sent.length := by
  induction h with
  | nil => rfl
  | message h a ih =>
    rw [messages_append, missed_append, List.length_append, List.length_append, ← ih]
    simp only [messages_message, missed_message, List.length_singleton]
    omega
  | empty h ih =>
    rw [messages_append, missed_append, messages_empty, missed_empty, List.append_nil,
      Nat.add_zero]
    exact ih
  | lagged h lost ih =>
    rw [messages_append, missed_append, List.length_append, List.length_append, ← ih]
    simp only [messages_lagged, missed_lagged, List.length_nil]
    omega

theorem Accounts.complete_iff (h : Accounts results sent) :
    messages results = sent ↔ missed results = 0 := by
  have hlength := h.length
  constructor
  · intro hall
    rw [hall] at hlength
    omega
  · intro hnone
    exact h.sublist.eq_of_length (by omega)

end

/-! ## One of many -/

section

variable {items : List α} {index i : Nat} {f : α → α} {a : α}

theorem getElem?_modify_cases (h : (items.modify index f)[i]? = some a) :
    items[i]? = some a ∧ index ≠ i ∨ index = i ∧ ∃ b, items[i]? = some b ∧ a = f b := by
  by_cases hindex : index = i
  · subst hindex
    rw [List.getElem?_modify_eq, Option.map_eq_map, Option.map_eq_some_iff] at h
    obtain ⟨b, hb, rfl⟩ := h
    exact .inr ⟨rfl, b, hb, rfl⟩
  · rw [List.getElem?_modify_ne f items hindex] at h
    exact .inl ⟨h, hindex⟩

theorem mem_modify (h : a ∈ items.modify index f) :
    a ∈ items ∨ ∃ b ∈ items[index]?, a = f b := by
  obtain ⟨i, hi⟩ := List.mem_iff_getElem?.mp h
  rcases getElem?_modify_cases hi with ⟨hi, -⟩ | ⟨rfl, b, hb, rfl⟩
  · exact .inl (List.mem_of_getElem? hi)
  · exact .inr ⟨b, hb, rfl⟩

theorem forall_modify {p : α → Prop} (h : ∀ a ∈ items, p a)
    (hf : ∀ a ∈ items[index]?, p a → p (f a)) : ∀ a ∈ items.modify index f, p a := by
  intro a ha
  rcases mem_modify ha with ha | ⟨b, hb, rfl⟩
  · exact h a ha
  · exact hf b hb (h b (List.mem_of_getElem? hb))

end

/-! ## Readers -/

/-- A receiver, with what it has got since it subscribed. -/
structure Reader (α : Type*) where
  since : Nat
  position : Nat
  results : List (TryRecv α)

namespace Reader

def start (channel : Channel α) : Reader α := ⟨channel.subscribe, channel.subscribe, []⟩

def recv (channel : Channel α) (reader : Reader α) : Reader α :=
  { reader with
    position := (channel.tryRecv reader.position).2
    results := reader.results ++ [(channel.tryRecv reader.position).1] }

/-- What has been sent since the receiver subscribed, and what of it is still to be read. -/
def offered (sent : List α) (reader : Reader α) : List α := sent.drop reader.since

def pending (sent : List α) (reader : Reader α) : List α := sent.drop reader.position

/-- The results account for all that was sent up to the position. -/
structure Follows (sent : List α) (reader : Reader α) : Prop where
  since_le : reader.since ≤ reader.position
  position_le : reader.position ≤ sent.length
  accounts : Accounts reader.results
    ((sent.drop reader.since).take (reader.position - reader.since))

variable {channel : Channel α} {sent : List α} {reader : Reader α}

theorem follows_start (h : channel.Holds sent) : (start channel).Follows sent := by
  have hsubscribe : channel.subscribe = sent.length := h.tail
  refine ⟨le_rfl, hsubscribe.le, ?_⟩
  have hnone : (start channel).position - (start channel).since = 0 := Nat.sub_self _
  rw [hnone, List.take_zero]
  exact .nil

/-- More that is sent is pending. -/
theorem Follows.send (h : reader.Follows sent) (a : α) : reader.Follows (sent ++ [a]) := by
  have hsince := h.since_le
  have hposition := h.position_le
  refine ⟨hsince, ?_, ?_⟩
  · rw [List.length_append]
    omega
  · rw [List.drop_append_of_le_length (by omega), List.take_append_of_le_length]
    · exact h.accounts
    · rw [List.length_drop]
      omega

/-- What lies between two positions. -/
theorem take_between {since first second : Nat} (hsince : since ≤ first) (h : first ≤ second) :
    (sent.drop since).take (second - since) =
      (sent.drop since).take (first - since) ++ (sent.drop first).take (second - first) := by
  have hsplit : second - since = (first - since) + (second - first) := by omega
  rw [hsplit, List.take_add, List.drop_drop, Nat.add_sub_cancel' hsince]

theorem Follows.recv (hchannel : channel.Holds sent) (h : reader.Follows sent) :
    (reader.recv channel).Follows sent := by
  have hsince := h.since_le
  have hposition := h.position_le
  have haccounts := h.accounts
  by_cases hnear : sent.length ≤ reader.position + channel.capacity
  · have hrecv := hchannel.tryRecv_of_le hnear
    unfold Reader.recv
    rw [hrecv]
    cases hat : sent[reader.position]? with
    | none => exact ⟨hsince, hposition, haccounts.empty⟩
    | some a =>
      obtain ⟨hlt, -⟩ := List.getElem?_eq_some_iff.mp hat
      refine ⟨by dsimp only; omega, by dsimp only; omega, ?_⟩
      dsimp only
      rw [take_between hsince (Nat.le_succ _), Nat.succ_eq_add_one, Nat.add_sub_cancel_left,
        show (sent.drop reader.position).take 1 = [a] by
          rw [List.take_one, List.head?_drop, hat]
          rfl]
      exact haccounts.message a
  · have hrecv := hchannel.tryRecv_of_lt (not_le.mp hnear)
    unfold Reader.recv
    rw [hrecv]
    refine ⟨by dsimp only; omega, by dsimp only; omega, ?_⟩
    dsimp only
    rw [@take_between _ sent _ reader.position _ hsince (by omega)]
    have hlost := haccounts.lagged
      ((sent.drop reader.position).take (sent.length - channel.capacity - reader.position))
    rw [List.length_take, List.length_drop, min_eq_left (by omega)] at hlost
    exact hlost

theorem Follows.offered_eq (h : reader.Follows sent) :
    reader.offered sent =
      (sent.drop reader.since).take (reader.position - reader.since) ++ reader.pending sent := by
  have hend : sent.drop reader.position =
      (sent.drop reader.since).drop (reader.position - reader.since) := by
    rw [List.drop_drop, Nat.add_sub_cancel' h.since_le]
  rw [pending, hend]
  exact (List.take_append_drop _ _).symm

/-- The messages that were received and those that are pending are among what was offered. -/
theorem Follows.sublist (h : reader.Follows sent) :
    (messages reader.results ++ reader.pending sent).Sublist (reader.offered sent) := by
  rw [h.offered_eq]
  exact h.accounts.sublist.append (List.Sublist.refl _)

/-- They are all of it exactly when nothing was missed. -/
theorem Follows.complete_iff (h : reader.Follows sent) :
    messages reader.results ++ reader.pending sent = reader.offered sent ↔
      missed reader.results = 0 := by
  rw [h.offered_eq, List.append_cancel_right_eq]
  exact h.accounts.complete_iff

/-- A read misses something exactly when more is pending than the channel keeps. -/
theorem Follows.missed_recv_iff (hchannel : channel.Holds sent) (h : reader.Follows sent)
    (hnone : missed reader.results = 0) :
    missed (reader.recv channel).results = 0 ↔
      (reader.pending sent).length ≤ channel.capacity := by
  have hposition := h.position_le
  rw [Reader.recv, missed_append, hnone, Nat.zero_add, pending, List.length_drop]
  by_cases hnear : sent.length ≤ reader.position + channel.capacity
  · refine iff_of_true ?_ (by omega)
    rw [hchannel.tryRecv_of_le hnear]
    cases sent[reader.position]? with
    | none => rfl
    | some a => rfl
  · refine iff_of_false ?_ (by omega)
    rw [hchannel.tryRecv_of_lt (not_le.mp hnear), missed_lagged]
    omega

/-- Where the channel keeps all that is pending, a read gets the first of it. -/
theorem recv_near (hchannel : channel.Holds sent) (hposition : reader.position ≤ sent.length)
    (hnear : (reader.pending sent).length ≤ channel.capacity) :
    (∃ a, (channel.tryRecv reader.position).1 = .message a ∧
      reader.pending sent = a :: (reader.recv channel).pending sent ∧
      (reader.recv channel).position ≤ sent.length) ∨
    (channel.tryRecv reader.position).1 = .empty ∧
      (reader.recv channel).position = reader.position := by
  rw [pending, List.length_drop] at hnear
  have hrecv := hchannel.tryRecv_of_le (show sent.length ≤ reader.position + _ by omega)
  unfold Reader.recv pending
  rw [hrecv]
  cases hat : sent[reader.position]? with
  | none => exact .inr ⟨rfl, rfl⟩
  | some a =>
    obtain ⟨hlt, ha⟩ := List.getElem?_eq_some_iff.mp hat
    refine .inl ⟨a, rfl, ?_, hlt⟩
    rw [List.drop_eq_getElem_cons hlt, ha]

theorem recv_far (hchannel : channel.Holds sent)
    (hfar : channel.capacity < (reader.pending sent).length) :
    ∃ n, (channel.tryRecv reader.position).1 = .lagged n := by
  rw [pending, List.length_drop] at hfar
  exact ⟨_, congrArg Prod.fst (hchannel.tryRecv_of_lt (by omega))⟩

/-- The position after a read that gets a message. -/
theorem recv_message {a : α} (h : (channel.tryRecv reader.position).1 = .message a) :
    messages (reader.recv channel).results = messages reader.results ++ [a] := by
  rw [Reader.recv, h, messages_append, messages_message]

theorem recv_other (h : ∀ a, (channel.tryRecv reader.position).1 ≠ .message a) :
    messages (reader.recv channel).results = messages reader.results := by
  rw [Reader.recv, messages_append]
  cases hresult : (channel.tryRecv reader.position).1 with
  | message a => exact absurd hresult (h a)
  | empty => exact List.append_nil _
  | lagged n => exact List.append_nil _

end Reader

end OddBox.Broadcast

import Mathlib

/-!
A service with a cache in front of it: what a request makes is kept under its key for a while,
and given to the requests that have the same key. What a request is given was made by itself or
by an earlier one, and the cache is invisible exactly when the earlier one would do.
-/

namespace OddBox.ExpiringCache

variable {Request Key Value Reply : Type}

structure Service (Request Key Value Reply : Type) where
  /-- A request without a key passes the cache by. -/
  key : Request → Option Key
  /-- The reply where nothing is found. -/
  answer : Request → Reply
  /-- What is kept with that reply. -/
  stores : Request → Option Value
  /-- The reply from what was kept. -/
  replay : Key → Value → Reply
  lifetime : Nat

/-- Values with the time they were put in. -/
abbrev Cache (Key Value : Type) := Key → Option (Nat × Value)

inductive Event (Request Value : Type) where
  | request (now : Nat) (req : Request)
  | forget (keeps : Nat × Value → Bool)

namespace Service

variable (service : Service Request Key Value Reply)

def find (cache : Cache Key Value) (now : Nat) (key : Key) : Option Value :=
  match cache key with
  | some (inserted, value) => if now - inserted < service.lifetime then some value else none
  | none => none

def reply (cache : Cache Key Value) (now : Nat) (req : Request) : Reply :=
  match service.key req with
  | none => service.answer req
  | some key =>
    match service.find cache now key with
    | some value => service.replay key value
    | none => service.answer req

theorem find_eq_some {cache : Cache Key Value} {now : Nat} {key : Key} {value : Value} :
    service.find cache now key = some value ↔
      ∃ inserted, cache key = some (inserted, value) ∧ now - inserted < service.lifetime := by
  unfold find
  cases hcache : cache key with
  | none =>
    constructor
    · intro h
      cases h
    · rintro ⟨_, h, -⟩
      cases h
  | some entry =>
    obtain ⟨inserted, found⟩ := entry
    simp only
    by_cases hfresh : now - inserted < service.lifetime
    · rw [if_pos hfresh]
      constructor
      · intro h
        cases h
        exact ⟨inserted, rfl, hfresh⟩
      · rintro ⟨_, h, -⟩
        cases h
        rfl
    · rw [if_neg hfresh]
      constructor
      · intro h
        cases h
      · rintro ⟨_, h, hother⟩
        cases h
        exact absurd hother hfresh

theorem reply_keyless {req : Request} (h : service.key req = none) (cache : Cache Key Value)
    (now : Nat) : service.reply cache now req = service.answer req := by
  simp only [reply, h]

theorem reply_missed {cache : Cache Key Value} {now : Nat} {req : Request} {key : Key}
    (hkey : service.key req = some key) (hfind : service.find cache now key = none) :
    service.reply cache now req = service.answer req := by
  simp only [reply, hkey, hfind]

theorem reply_given {cache : Cache Key Value} {now : Nat} {req : Request} {key : Key}
    {value : Value} (hkey : service.key req = some key)
    (hfind : service.find cache now key = some value) :
    service.reply cache now req = service.replay key value := by
  simp only [reply, hkey, hfind]

variable [DecidableEq Key]

/-- The cache after a request. What is found stays, and what is stale goes. -/
def next (cache : Cache Key Value) (now : Nat) (req : Request) : Cache Key Value :=
  match service.key req with
  | none => cache
  | some key =>
    match service.find cache now key with
    | some _ => cache
    | none => Function.update cache key ((service.stores req).map (now, ·))

theorem next_keyless {req : Request} (h : service.key req = none) (cache : Cache Key Value)
    (now : Nat) : service.next cache now req = cache := by
  simp only [next, h]

theorem next_missed {cache : Cache Key Value} {now : Nat} {req : Request} {key : Key}
    (hkey : service.key req = some key) (hfind : service.find cache now key = none) :
    service.next cache now req =
      Function.update cache key ((service.stores req).map (now, ·)) := by
  simp only [next, hkey, hfind]

theorem next_given {cache : Cache Key Value} {now : Nat} {req : Request} {key : Key}
    {value : Value} (hkey : service.key req = some key)
    (hfind : service.find cache now key = some value) :
    service.next cache now req = cache := by
  simp only [next, hkey, hfind]

def step (cache : Cache Key Value) : Event Request Value → Cache Key Value
  | .request now req => service.next cache now req
  | .forget keeps => fun key => (cache key).filter keeps

/-- The cache after a run from the empty one. -/
def after (events : List (Event Request Value)) : Cache Key Value :=
  events.foldl service.step fun _ => none

theorem after_append (events : List (Event Request Value)) (event : Event Request Value) :
    service.after (events ++ [event]) = service.step (service.after events) event :=
  List.foldl_concat _ _ _ _

/-! ## Where entries come from -/

/-- An entry after a step was there before it, or the step made it. -/
theorem step_entry {cache : Cache Key Value} {event : Event Request Value} {key : Key}
    {inserted : Nat} {value : Value} (h : service.step cache event key = some (inserted, value)) :
    cache key = some (inserted, value) ∨
      ∃ req, event = .request inserted req ∧ service.key req = some key ∧
        service.stores req = some value := by
  cases event with
  | forget keeps =>
    left
    exact (Option.filter_eq_some_iff.mp h).1
  | request now req =>
    rw [step] at h
    cases hkey : service.key req with
    | none =>
      rw [service.next_keyless hkey] at h
      exact Or.inl h
    | some found =>
      cases hfind : service.find cache now found with
      | some kept =>
        rw [service.next_given hkey hfind] at h
        exact Or.inl h
      | none =>
        rw [service.next_missed hkey hfind] at h
        by_cases hsame : key = found
        · obtain rfl := hsame
          rw [Function.update_self] at h
          obtain ⟨stored, hstores, heq⟩ := Option.map_eq_some_iff.mp h
          cases heq
          exact Or.inr ⟨req, rfl, hkey, hstores⟩
        · rw [Function.update_of_ne hsame] at h
          exact Or.inl h

/-- Every entry was made by a request of the run, at the time it bears. -/
theorem after_entry {events : List (Event Request Value)} {key : Key} {inserted : Nat}
    {value : Value} (h : service.after events key = some (inserted, value)) :
    ∃ before maker between, events = before ++ Event.request inserted maker :: between ∧
      service.key maker = some key ∧ service.stores maker = some value := by
  induction events using List.reverseRecOn with
  | nil => cases h
  | append_singleton events event ih =>
    rw [after_append] at h
    obtain hbefore | ⟨req, rfl, hkey, hstores⟩ := service.step_entry h
    · obtain ⟨before, maker, between, rfl, hkey, hstores⟩ := ih hbefore
      refine ⟨before, maker, between ++ [event], ?_, hkey, hstores⟩
      rw [List.append_assoc, List.cons_append]
    · exact ⟨events, req, [], rfl, hkey, hstores⟩

/-- In the run a request is given the value that another one made. -/
def Given (events : List (Event Request Value)) (maker req : Request) (key : Key)
    (value : Value) : Prop :=
  ∃ before made between now later,
    events = before ++ Event.request made maker :: (between ++ Event.request now req :: later) ∧
    service.key maker = some key ∧ service.stores maker = some value ∧
    service.key req = some key ∧
    service.find (service.after (before ++ Event.request made maker :: between)) now key =
      some value

/-- A request of a run gets its own answer, or it is given what an earlier one made. -/
theorem reply_cases {events before later : List (Event Request Value)} {now : Nat}
    {req : Request} (hevents : events = before ++ Event.request now req :: later) :
    service.reply (service.after before) now req = service.answer req ∨
      ∃ maker key value, service.Given events maker req key value ∧
        service.reply (service.after before) now req = service.replay key value := by
  cases hkey : service.key req with
  | none => exact Or.inl (service.reply_keyless hkey _ _)
  | some key =>
    cases hfind : service.find (service.after before) now key with
    | none => exact Or.inl (service.reply_missed hkey hfind)
    | some value =>
      right
      obtain ⟨inserted, hentry, -⟩ := service.find_eq_some.mp hfind
      obtain ⟨front, maker, between, rfl, hmaker, hstores⟩ := service.after_entry hentry
      refine ⟨maker, key, value, ⟨front, inserted, between, now, later, ?_, hmaker, hstores,
        hkey, hfind⟩, service.reply_given hkey hfind⟩
      rw [hevents, List.append_assoc, List.cons_append]

/-- **The cache is invisible** in a run exactly when everything that is given looks as the
answer to the request it is given to. -/
theorem invisible_iff {View : Type} (view : Reply → View) (events : List (Event Request Value)) :
    (∀ before now req later, events = before ++ .request now req :: later →
        view (service.reply (service.after before) now req) = view (service.answer req)) ↔
      ∀ maker req key value, service.Given events maker req key value →
        view (service.replay key value) = view (service.answer req) := by
  constructor
  · rintro hinvisible maker req key value
      ⟨before, made, between, now, later, hevents, -, -, hkey, hfind⟩
    rw [← service.reply_given hkey hfind]
    apply hinvisible _ now req later
    rw [hevents, List.append_assoc, List.cons_append]
  · intro hgiven before now req later hevents
    obtain hown | ⟨maker, key, value, hfrom, hreply⟩ := service.reply_cases hevents
    · rw [hown]
    · rw [hreply]
      exact hgiven maker req key value hfrom

end Service

end OddBox.ExpiringCache

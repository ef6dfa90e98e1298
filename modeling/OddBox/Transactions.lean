import OddBox.Machine

/-!
Read-modify-write transactions on a document that is kept in memory and in a file: each
transaction edits a snapshot of the memory and writes the file, and a reload reads the file
back into the memory some time later. A transaction counts as done once the version of the
memory has grown, whatever has made it grow.
-/

namespace OddBox.Transactions

universe u v w z

/-- What a reload makes of a file. -/
inductive Loaded (Doc : Type u) where
  | refused
  | unchanged
  | adopted (doc : Doc)

/-- The memory after the reload. -/
def Loaded.result {Doc : Type u} (memory : Doc) : Loaded Doc → Doc
  | .adopted doc => doc
  | _ => memory

structure Store (Doc : Type u) (Text : Type v) (Env : Type w) where
  write : Doc → Text
  load : Env → Doc → Text → Loaded Doc

structure Transaction (Doc : Type u) where
  edit : Doc → Doc
  /-- It ends without a write, as it would change nothing. -/
  skips : Doc → Bool
  /-- It reports success without waiting. -/
  hurries : Doc → Bool
  /-- It reports success after it has waited for too long. -/
  succeedsLate : Bool

inductive Client (Doc : Type u) where
  | idle
  /-- `latest` says whether the snapshot has all that is written. -/
  | hasRead (snapshot : Doc) (version : Nat) (latest : Bool)
  /-- It has not written, and will not. -/
  | ended
  | hasWritten (version : Nat)
  | succeeded
  | failed

def Client.Wrote {Doc : Type u} : Client Doc → Prop
  | .hasWritten _ | .succeeded | .failed => True
  | _ => False

/-- The client after another has written. -/
def Client.outdated {Doc : Type u} : Client Doc → Client Doc
  | .hasRead snapshot version _ => .hasRead snapshot version false
  | client => client

/-- A reload that has read the memory and the file and is not done yet. -/
structure Reload (Doc : Type u) where
  loaded : Loaded Doc
  version : Nat
  /-- Whether the file is still the one that it has read. -/
  fresh : Bool

structure State (Doc : Type u) (Text : Type v) (ι : Type z) where
  memory : Doc
  version : Nat
  file : Text
  reload : Option (Reload Doc)
  /-- Whether a reload has read the file since it was written last, and is done. -/
  current : Bool
  client : ι → Client Doc

inductive Act (Env : Type w) (ι : Type z) where
  | read (i : ι)
  | write (i : ι)
  /-- The transaction fails before it writes. -/
  | refuse (i : ι)
  /-- The transaction looks at the version. -/
  | poll (i : ι)
  | giveUp (i : ι)
  /-- A reload reads the memory and the file. -/
  | reloadRead (env : Env)
  | reloadFinish

variable {Doc : Type u} {Text : Type v} {Env : Type w} {ι : Type z} [DecidableEq ι]
  (store : Store Doc Text Env) (transaction : ι → Transaction Doc)

namespace State

def setClient (state : State Doc Text ι) (i : ι) (client : Client Doc) : State Doc Text ι :=
  { state with client := Function.update state.client i client }

def write (state : State Doc Text ι) (i : ι) (snapshot : Doc) (version : Nat) :
    State Doc Text ι :=
  { state with
    file := store.write ((transaction i).edit snapshot)
    current := false
    reload := state.reload.map fun reload => { reload with fresh := false }
    client := Function.update (fun j => (state.client j).outdated) i
      (if (transaction i).hurries snapshot then .succeeded else .hasWritten version) }

def finish (state : State Doc Text ι) (reload : Reload Doc) : State Doc Text ι :=
  { state with
    memory := reload.loaded.result state.memory
    version :=
      match reload.loaded with
      | .adopted _ => reload.version + 1
      | _ => state.version
    reload := none
    current := reload.fresh }

def step (state : State Doc Text ι) : Act Env ι → State Doc Text ι
  | .read i =>
    match state.client i with
    | .idle => state.setClient i (.hasRead state.memory state.version state.current)
    | _ => state
  | .write i =>
    match state.client i with
    | .hasRead snapshot version _ =>
      if (transaction i).skips snapshot then state.setClient i .ended
      else state.write store transaction i snapshot version
    | _ => state
  | .refuse i =>
    match state.client i with
    | .hasRead _ _ _ => state.setClient i .ended
    | _ => state
  | .poll i =>
    match state.client i with
    | .hasWritten version =>
      if version < state.version then state.setClient i .succeeded else state
    | _ => state
  | .giveUp i =>
    match state.client i with
    | .hasWritten _ =>
      state.setClient i (if (transaction i).succeedsLate then .succeeded else .failed)
    | _ => state
  | .reloadRead env =>
    match state.reload with
    | none =>
      { state with
        reload := some ⟨store.load env state.memory state.file, state.version, true⟩ }
    | some _ => state
  | .reloadFinish =>
    match state.reload with
    | some reload => state.finish reload
    | none => state

/-- No transaction is under way, and the memory is what the file was loaded as. -/
structure Initial (state : State Doc Text ι) : Prop where
  idle : ∀ i, state.client i = .idle
  reload : state.reload = none
  current : state.current = true

/-- All changes that are reported as made are in the file, and in the memory after the last
reload. -/
structure Keeps (made : ι → Doc → Prop) (state : State Doc Text ι) : Prop where
  file : (∃ i, state.client i = .succeeded) →
    ∃ doc, state.file = store.write doc ∧ ∀ i, state.client i = .succeeded → made i doc
  memory : state.current = true → ∀ i, state.client i = .succeeded → made i state.memory

end State

/-! ## Serial runs -/

/-- What the documents of a store are judged by: which of them are read as they are written,
when the memory says what a document says, which changes are not lost in writing, and when a
change is made. -/
structure Terms (Doc : Type u) (ι : Type z) where
  legible : Doc → Prop
  alike : Doc → Doc → Prop
  lossless : ι → Prop
  made : ι → Doc → Prop

/-- An edit makes its change and keeps those of the others, and so does a reload. -/
structure Terms.Independent (terms : Terms Doc ι) : Prop where
  edit : ∀ i doc, terms.made i ((transaction i).edit doc)
  other : ∀ i j doc, i ≠ j → terms.made j doc → terms.made j ((transaction i).edit doc)
  adopted : ∀ env memory doc found i, terms.legible doc →
    store.load env memory (store.write doc) = .adopted found → terms.lossless i →
    terms.made i doc → terms.made i found
  unchanged : ∀ env memory doc i, terms.legible doc →
    store.load env memory (store.write doc) = .unchanged → terms.alike memory doc →
    terms.lossless i → terms.made i doc → terms.made i memory

namespace State

/-- A transaction writes only when nothing has been written that its snapshot does not have,
and what it writes can be read back. A reload neither refuses nor overlooks what is new in the
file. -/
def Serial (terms : Terms Doc ι) (state : State Doc Text ι) : Act Env ι → Prop
  | .write i => ∀ snapshot version latest,
      state.client i = .hasRead snapshot version latest → (transaction i).skips snapshot = false →
      latest = true ∧ terms.legible ((transaction i).edit snapshot) ∧ terms.lossless i
  | .reloadRead env =>
    match store.load env state.memory state.file with
    | .refused => state.current = true
    | .unchanged => state.current = true ∨ ∀ doc, state.file = store.write doc →
        terms.legible doc → terms.alike state.memory doc
    | .adopted _ => True
  | _ => True

/-- What holds in every state of a serial run. -/
structure Coherent (terms : Terms Doc ι) (state : State Doc Text ι) : Prop where
  lossless : ∀ i, (state.client i).Wrote → terms.lossless i
  file : (∃ i, (state.client i).Wrote) → ∃ doc, state.file = store.write doc ∧
    terms.legible doc ∧ ∀ i, (state.client i).Wrote → terms.made i doc
  memory : state.current = true → ∀ i, (state.client i).Wrote → terms.made i state.memory
  reload : ∀ reload, state.reload = some reload → reload.fresh = true →
    ∀ i, (state.client i).Wrote → terms.made i (reload.loaded.result state.memory)
  snapshot : ∀ i snapshot version, state.client i = .hasRead snapshot version true →
    ∀ j, (state.client j).Wrote → terms.made j snapshot

end State

section

variable {store transaction} {terms : Terms Doc ι} {state : State Doc Text ι}

@[simp] theorem outdated_wrote (client : Client Doc) : client.outdated.Wrote ↔ client.Wrote := by
  cases client <;> exact Iff.rfl

theorem outdated_ne_hasRead (client : Client Doc) (snapshot : Doc) (version : Nat) :
    client.outdated ≠ .hasRead snapshot version true := by
  cases client <;> rintro ⟨⟩

theorem wrote_of_succeeded {client : Client Doc} (h : client = .succeeded) : client.Wrote := by
  rw [h]
  trivial

/-- Who has written does not change with a client that has before and after, or neither. -/
theorem wrote_update {client : ι → Client Doc} {i : ι} {moved : Client Doc}
    (h : moved.Wrote ↔ (client i).Wrote) (j : ι) :
    (Function.update client i moved j).Wrote ↔ (client j).Wrote := by
  by_cases hj : j = i
  · subst hj
    rw [Function.update_self]
    exact h
  · rw [Function.update_of_ne hj]

namespace State

omit [DecidableEq ι] in
/-- A reload that adopts what it reads is serial. -/
theorem serial_of_adopted {env : Env} {found : Doc}
    (h : store.load env state.memory state.file = .adopted found) :
    state.Serial store transaction terms (.reloadRead env) := by
  unfold Serial
  dsimp only
  rw [h]
  trivial

theorem step_read {i : ι} (hclient : state.client i = .idle) :
    state.step store transaction (.read i : Act Env ι) =
      state.setClient i (.hasRead state.memory state.version state.current) := by
  simp only [step, hclient]

/-- A transaction that is needed, and waits. -/
theorem step_write {i : ι} {snapshot : Doc} {version : Nat} {latest : Bool}
    (hclient : state.client i = .hasRead snapshot version latest)
    (hskips : (transaction i).skips snapshot = false)
    (hhurries : (transaction i).hurries snapshot = false) :
    state.step store transaction (.write i : Act Env ι) =
      { state with
        file := store.write ((transaction i).edit snapshot)
        current := false
        reload := state.reload.map fun reload => { reload with fresh := false }
        client :=
          Function.update (fun j => (state.client j).outdated) i (.hasWritten version) } := by
  simp only [step, hclient, hskips, hhurries, write, Bool.false_eq_true, if_false]

theorem step_poll {i : ι} {version : Nat} (hclient : state.client i = .hasWritten version)
    (hversion : version < state.version) :
    state.step store transaction (.poll i : Act Env ι) = state.setClient i .succeeded := by
  simp only [step, hclient, if_pos hversion]

/-- A reload that is not disturbed adopts what it reads. -/
theorem reload_adopted {env : Env} {found : Doc} (hidle : state.reload = none)
    (h : store.load env state.memory state.file = .adopted found) :
    (state.step store transaction (.reloadRead env)).step store transaction
        (.reloadFinish : Act Env ι) =
      { state with memory := found, version := state.version + 1, current := true } := by
  simp only [step, hidle, h]
  simp only [finish, Loaded.result, ← hidle]

/-- A client moves on, and nothing is written. -/
theorem Coherent.setClient {i : ι} {client : Client Doc}
    (hwrote : client.Wrote ↔ (state.client i).Wrote)
    (hread : ∀ snapshot version, client = .hasRead snapshot version true →
      ∀ j, (state.client j).Wrote → terms.made j snapshot)
    (h : state.Coherent store terms) : (state.setClient i client).Coherent store terms := by
  have hall := @wrote_update _ _ _ state.client i client hwrote
  constructor
  · intro j hj
    exact h.lossless j ((hall j).mp hj)
  · rintro ⟨j, hj⟩
    obtain ⟨doc, hfile, hlegible, hmade⟩ := h.file ⟨j, (hall j).mp hj⟩
    refine ⟨doc, hfile, hlegible, ?_⟩
    intro j hj
    exact hmade j ((hall j).mp hj)
  · intro hcurrent j hj
    exact h.memory hcurrent j ((hall j).mp hj)
  · intro reload hreload hfresh j hj
    exact h.reload reload hreload hfresh j ((hall j).mp hj)
  · intro k snapshot version hk j hwrote
    have hj : (state.client j).Wrote := (hall j).mp hwrote
    change Function.update state.client i client k = _ at hk
    by_cases hki : k = i
    · subst hki
      rw [Function.update_self] at hk
      exact hread snapshot version hk j hj
    · rw [Function.update_of_ne hki] at hk
      exact h.snapshot k snapshot version hk j hj

theorem write_client (i : ι) (snapshot : Doc) (version : Nat) :
    (state.write store transaction i snapshot version).client =
      Function.update (fun j => (state.client j).outdated) i
        (if (transaction i).hurries snapshot then .succeeded else .hasWritten version) := rfl

variable (hindependent : terms.Independent store transaction)
include hindependent

/-- The new file has the changes that the snapshot has, and the writer's own. -/
theorem Coherent.write {i : ι} {snapshot : Doc} {version : Nat}
    (hclient : state.client i = .hasRead snapshot version true)
    (hlegible : terms.legible ((transaction i).edit snapshot)) (hlossless : terms.lossless i)
    (h : state.Coherent store terms) :
    (state.write store transaction i snapshot version).Coherent store terms := by
  have hwriter : ∀ j, j ≠ i →
      (state.write store transaction i snapshot version).client j = (state.client j).outdated := by
    intro j hj
    rw [write_client, Function.update_of_ne hj]
  have hothers : ∀ j, j ≠ i →
      ((state.write store transaction i snapshot version).client j).Wrote →
        (state.client j).Wrote := by
    intro j hj hwrote
    rw [hwriter j hj] at hwrote
    exact (outdated_wrote _).mp hwrote
  constructor
  · intro j hwrote
    by_cases hj : j = i
    · rw [hj]
      exact hlossless
    · exact h.lossless j (hothers j hj hwrote)
  · intro _
    refine ⟨(transaction i).edit snapshot, rfl, hlegible, ?_⟩
    intro j hwrote
    by_cases hj : j = i
    · rw [hj]
      exact hindependent.edit i snapshot
    · apply hindependent.other i j snapshot (Ne.symm hj)
      exact h.snapshot i snapshot version hclient j (hothers j hj hwrote)
  · rintro ⟨⟩
  · intro reload hreload hfresh
    obtain ⟨old, -, rfl⟩ := Option.map_eq_some_iff.mp hreload
    contradiction
  · intro j found foundVersion hj
    by_cases hji : j = i
    · subst hji
      rw [write_client, Function.update_self] at hj
      split_ifs at hj
    · rw [hwriter j hji] at hj
      exact absurd hj (outdated_ne_hasRead _ _ _)

/-- What the reload takes up has the changes that the file has. -/
theorem Coherent.reloadRead {env : Env} (hidle : state.reload = none)
    (hserial : state.Serial store transaction terms (.reloadRead env))
    (h : state.Coherent store terms) :
    (state.step store transaction (.reloadRead env)).Coherent store terms := by
  have hstep : state.step store transaction (.reloadRead env) =
      { state with
        reload := some ⟨store.load env state.memory state.file, state.version, true⟩ } := by
    unfold step
    rw [hidle]
  rw [hstep]
  refine ⟨h.lossless, h.file, h.memory, ?_, h.snapshot⟩
  intro reload hreload _ i hi
  cases hreload
  obtain ⟨doc, hfile, hlegible, hmade⟩ := h.file ⟨i, hi⟩
  unfold Serial at hserial
  dsimp only at hserial ⊢
  split at hserial
  · next hload =>
    rw [hload]
    exact h.memory hserial i hi
  · next hload =>
    rw [hload]
    rcases hserial with hcurrent | halike
    · exact h.memory hcurrent i hi
    · rw [hfile] at hload
      exact hindependent.unchanged env state.memory doc i hlegible hload
        (halike doc hfile hlegible) (h.lossless i hi) (hmade i hi)
  · next found hload =>
    rw [hload]
    rw [hfile] at hload
    exact hindependent.adopted env state.memory doc found i hlegible hload (h.lossless i hi)
      (hmade i hi)

omit [DecidableEq ι] hindependent in
theorem Coherent.finish {reload : Reload Doc} (hreload : state.reload = some reload)
    (h : state.Coherent store terms) : (state.finish reload).Coherent store terms := by
  refine ⟨h.lossless, h.file, ?_, ?_, h.snapshot⟩
  · intro hfresh i hi
    exact h.reload reload hreload hfresh i hi
  · rintro _ ⟨⟩

/-- A serial step keeps the invariant. -/
theorem Coherent.step (act : Act Env ι) (h : state.Coherent store terms)
    (hserial : state.Serial store transaction terms act) :
    (state.step store transaction act).Coherent store terms := by
  cases act with
  | read i =>
    unfold State.step
    dsimp only
    split
    · next hclient =>
      apply h.setClient
      · rw [hclient]
        exact Iff.rfl
      · intro snapshot version hread
        injection hread with hmemory _ hcurrent
        rw [← hmemory]
        exact h.memory hcurrent
    · exact h
  | write i =>
    unfold State.step
    dsimp only
    split
    · next snapshot version latest hclient =>
      split_ifs with hskips
      · apply h.setClient
        · rw [hclient]
          exact Iff.rfl
        · rintro _ _ ⟨⟩
      · obtain ⟨rfl, hlegible, hlossless⟩ := hserial snapshot version latest hclient
          (Bool.eq_false_iff.mpr hskips)
        exact h.write hindependent hclient hlegible hlossless
    · exact h
  | refuse i =>
    unfold State.step
    dsimp only
    split
    · next hclient =>
      apply h.setClient
      · rw [hclient]
        exact Iff.rfl
      · rintro _ _ ⟨⟩
    · exact h
  | poll i =>
    unfold State.step
    dsimp only
    split
    · next hclient =>
      split_ifs
      · apply h.setClient
        · rw [hclient]
          exact Iff.rfl
        · rintro _ _ ⟨⟩
      · exact h
    · exact h
  | giveUp i =>
    unfold State.step
    dsimp only
    split
    · next hclient =>
      apply h.setClient
      · rw [hclient]
        split_ifs <;> exact Iff.rfl
      · intro _ _ hread
        split_ifs at hread
    · exact h
  | reloadRead env =>
    cases hreload : state.reload with
    | none => exact h.reloadRead hindependent hreload hserial
    | some reload =>
      unfold State.step
      rw [hreload]
      exact h
  | reloadFinish =>
    unfold State.step
    dsimp only
    split
    · next reload hreload => exact h.finish hreload
    · exact h

omit [DecidableEq ι] hindependent in
theorem Coherent.keeps (h : state.Coherent store terms) : state.Keeps store terms.made := by
  constructor
  · rintro ⟨i, hi⟩
    obtain ⟨doc, hfile, -, hmade⟩ := h.file ⟨i, wrote_of_succeeded hi⟩
    refine ⟨doc, hfile, ?_⟩
    intro i hi
    exact hmade i (wrote_of_succeeded hi)
  · intro hcurrent i hi
    exact h.memory hcurrent i (wrote_of_succeeded hi)

omit [DecidableEq ι] hindependent in
theorem Initial.coherent (h : state.Initial) : state.Coherent store terms := by
  have hnone : ∀ i, ¬(state.client i).Wrote := by
    intro i hi
    rw [h.idle i] at hi
    exact hi
  constructor
  · intro i hi
    exact absurd hi (hnone i)
  · rintro ⟨i, hi⟩
    exact absurd hi (hnone i)
  · intro _ i hi
    exact absurd hi (hnone i)
  · intro reload hreload
    rw [h.reload] at hreload
    contradiction
  · intro i snapshot version hi
    rw [h.idle i] at hi
    contradiction

/-- A serial run keeps the changes that are reported as made. -/
theorem serial_keeps {acts first : List (Act Env ι)} (hinitial : state.Initial)
    (hserial : Machine.Meets (step store transaction) (Serial store transaction terms) state acts)
    (hfirst : first <+: acts) :
    (Machine.run (step store transaction) state first).Keeps store terms.made := by
  have hcoherent := hserial.always (I := Coherent store terms)
    (fun _ act h hact => h.step hindependent act hact) hinitial.coherent hfirst
  exact hcoherent.keeps

end State

end

end OddBox.Transactions

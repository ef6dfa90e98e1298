import OddBox.Flags
import OddBox.ProcHost.Addressing

/-!
The flag that says whether a hosted process is to run, as a function of the commands that its
loop has read: whether it was idle or had a child when it read them must not matter.
-/

namespace OddBox.ProcHost

open OddBox.Configuration OddBox.Flags OddBox.Proxy

/-! ## What a command is for a process -/

section

variable (process : ResolvedProcess)

def startsAll : ProcMessage → Bool
  | .startAll => true
  | .start site => site == "all"
  | _ => false

/-- A start that gives the process one of its names. -/
def startsByName : ProcMessage → Bool
  | .start site => site != "all" && (acceptableNames process).contains site
  | _ => false

def stops : ProcMessage → Bool
  | .stopAll => true
  | .stop site => isForMe process site
  | _ => false

def deletes : ProcMessage → Bool
  | .delete site => (acceptableNames process).contains site
  | _ => false

/-- The flag after a command. A process that is excluded is only started by its name. -/
def commanded : Bool → ProcMessage → Bool :=
  switch (fun message => startsByName process message ||
    startsAll message && !process.excludedFromStartAll) (stops process)

/-- The same without the exclusion. -/
def commandedUnguarded : Bool → ProcMessage → Bool :=
  switch (fun message => startsByName process message || startsAll message) (stops process)

end

section

variable {process : ResolvedProcess}

theorem interpretIdle_eq {message : ProcMessage} (h : deletes process message = false)
    (enabled : Bool) :
    interpretIdle process enabled message = .told (commanded process enabled message) := by
  cases message with
  | startAll =>
    cases hexcluded : process.excludedFromStartAll <;>
      simp [interpretIdle, commanded, switch, startsByName, startsAll, stops, hexcluded]
  | stopAll => simp [interpretIdle, commanded, switch, startsByName, startsAll, stops]
  | start site =>
    by_cases hall : site = "all"
    · subst hall
      cases hexcluded : process.excludedFromStartAll <;>
        simp [interpretIdle, commanded, switch, startsByName, startsAll, stops, isForMe, hexcluded]
    · simp only [interpretIdle, commanded, switch, startsByName, startsAll, stops, isForMe,
        beq_false_of_ne hall, bne_iff_ne.mpr hall, Bool.and_false, Bool.false_or, Bool.false_and,
        Bool.true_and, Bool.or_false, Bool.false_eq_true, if_false, apply_ite Received.told]
  | stop site =>
    cases hmine : isForMe process site with
    | true => simp [interpretIdle, commanded, switch, startsByName, startsAll, stops, hmine]
    | false => simp [interpretIdle, commanded, switch, startsByName, startsAll, stops, hmine]
  | delete site =>
    simp only [deletes] at h
    simp only [interpretIdle, commanded, switch, startsByName, startsAll, stops, h, Bool.false_and,
      Bool.or_self, Bool.false_eq_true, if_false]

theorem interpretRunning_eq {message : ProcMessage} (h : deletes process message = false)
    (enabled : Bool) :
    interpretRunning process enabled message =
      .told (commandedUnguarded process enabled message) := by
  cases message with
  | startAll => simp [interpretRunning, commandedUnguarded, switch, startsByName, startsAll]
  | stopAll => simp [interpretRunning, commandedUnguarded, switch, startsByName, startsAll, stops]
  | start site =>
    by_cases hall : site = "all"
    · subst hall
      simp [interpretRunning, commandedUnguarded, switch, startsAll, isForMe]
    · simp only [interpretRunning, commandedUnguarded, switch, startsByName, startsAll, stops,
        isForMe, beq_false_of_ne hall, bne_iff_ne.mpr hall, Bool.false_or, Bool.true_and,
        Bool.or_false, Bool.false_eq_true, if_false, apply_ite Received.told]
  | stop site =>
    cases hmine : isForMe process site with
    | true =>
      simp [interpretRunning, commandedUnguarded, switch, startsByName, startsAll, stops, hmine]
    | false =>
      simp [interpretRunning, commandedUnguarded, switch, startsByName, startsAll, stops, hmine]
  | delete site =>
    simp only [deletes] at h
    simp only [interpretRunning, commandedUnguarded, switch, startsByName, startsAll, stops, h,
      Bool.or_self, Bool.false_eq_true, if_false]

/-- Messages without a deletion are folded from the left. -/
theorem drain_eq {interpret : Bool → ProcMessage → Received}
    {flag : Bool → ProcMessage → Bool}
    (hinterpret : ∀ message, deletes process message = false →
      ∀ enabled, interpret enabled message = .told (flag enabled message))
    {messages : List ProcMessage} (h : ∀ message ∈ messages, deletes process message = false)
    (enabled : Bool) :
    drain interpret enabled messages = .told (messages.foldl flag enabled) := by
  induction messages generalizing enabled with
  | nil => rfl
  | cons message messages ih =>
    obtain ⟨hmessage, hrest⟩ := List.forall_mem_cons.mp h
    rw [drain, hinterpret message hmessage]
    exact ih hrest _

/-! ## What a turn reads -/

/-- Whether the turn comes to the messages. -/
def ProcLoop.reads (self : ProcLoop) (turn : Turn) : Bool :=
  match self.phase with
  | .idle => !turn.markedForRemoval && !turn.exit
  | .running => !turn.childExited && !turn.exit && !turn.replaced
  | .left => false

def ProcLoop.batch (self : ProcLoop) (turn : Turn) : List ProcMessage :=
  if self.reads turn then turn.messages else []

/-- What the interpreter of a phase makes of the flag. -/
def flagIn (process : ResolvedProcess) : Phase → Bool → ProcMessage → Bool
  | .running => commandedUnguarded process
  | .idle => commanded process
  | .left => commanded process

section

variable (self : ProcLoop) (turn : Turn)

@[simp] theorem did_enabled (effects : List LoopEffect) :
    (self.did effects).enabled = self.enabled := rfl

@[simp] theorem go_enabled (phase : Phase) : (self.go phase).enabled = self.enabled := rfl

@[simp] theorem finish_enabled : (self.finish turn).enabled = self.enabled := by
  unfold ProcLoop.finish
  split_ifs
  · rfl
  · rfl
  · rfl

@[simp] theorem launch_enabled : (self.launch turn).enabled = self.enabled := by
  unfold ProcLoop.launch
  split_ifs
  · rfl
  · rfl
  · rfl
  · exact finish_enabled _ turn

@[simp] theorem stopChild_enabled (effects : List LoopEffect) :
    (self.stopChild turn effects).enabled = self.enabled :=
  finish_enabled _ turn

theorem finish_not_running : (self.finish turn).phase ≠ .running := by
  unfold ProcLoop.finish ProcLoop.go
  split_ifs
  · rintro ⟨⟩
  · rintro ⟨⟩
  · rintro ⟨⟩

end

variable {loop : ProcLoop} {turn : Turn}

theorem idleTurn_enabled (hmarked : turn.markedForRemoval = false) (hexit : turn.exit = false)
    (h : ∀ message ∈ turn.messages, deletes process message = false) :
    (loop.idleTurn process turn).enabled =
      turn.messages.foldl (commanded process) loop.enabled := by
  have hdrain := drain_eq (fun _ hmessage => interpretIdle_eq hmessage) h loop.enabled
  change drain (interpretIdle process) loop.enabled turn.messages =
    .told (turn.messages.foldl (commanded process) loop.enabled) at hdrain
  generalize turn.messages.foldl (commanded process) loop.enabled = after at hdrain ⊢
  rw [← did_enabled loop [.status .stopped]] at hdrain
  unfold ProcLoop.idleTurn
  rw [hmarked, hexit, if_neg Bool.false_ne_true, if_neg Bool.false_ne_true]
  dsimp only
  rw [hdrain]
  cases after with
  | true => exact launch_enabled _ turn
  | false =>
    dsimp only
    rw [if_neg Bool.false_ne_true]
    split_ifs
    · rfl
    · rfl

theorem runningTurn_enabled (hexited : turn.childExited = false) (hexit : turn.exit = false)
    (hreplaced : turn.replaced = false)
    (h : ∀ message ∈ turn.messages, deletes process message = false) :
    (loop.runningTurn process turn).enabled =
      turn.messages.foldl (commandedUnguarded process) loop.enabled := by
  have hdrain := drain_eq (fun _ hmessage => interpretRunning_eq hmessage) h loop.enabled
  change drain (interpretRunning process) loop.enabled turn.messages =
    .told (turn.messages.foldl (commandedUnguarded process) loop.enabled) at hdrain
  generalize turn.messages.foldl (commandedUnguarded process) loop.enabled = after at hdrain ⊢
  rw [← did_enabled loop [.status .running]] at hdrain
  unfold ProcLoop.runningTurn
  rw [hexited, hexit, hreplaced, if_neg Bool.false_ne_true, if_neg Bool.false_ne_true,
    if_neg Bool.false_ne_true]
  dsimp only
  rw [hdrain]
  cases turn.markedForRemoval with
  | true => rfl
  | false =>
    cases after with
    | true => rfl
    | false =>
      dsimp only
      rw [if_neg Bool.false_ne_true, if_neg Bool.false_ne_true]
      exact stopChild_enabled _ turn _

theorem step_unread (h : loop.reads turn = false) :
    (loop.step process turn).enabled = loop.enabled := by
  unfold ProcLoop.reads at h
  unfold ProcLoop.step
  cases hphase : loop.phase with
  | left => rfl
  | idle =>
    rw [hphase] at h
    dsimp only
    unfold ProcLoop.idleTurn
    split_ifs with hmarked hexit
    · rfl
    · rfl
    · simp [hmarked, hexit] at h
  | running =>
    rw [hphase] at h
    dsimp only
    unfold ProcLoop.runningTurn
    dsimp only
    by_cases hexited : turn.childExited = true
    · rw [if_pos hexited]
      exact finish_enabled _ turn
    rw [if_neg hexited]
    by_cases hexit : turn.exit = true
    · rw [if_pos hexit]
      exact stopChild_enabled _ turn _
    rw [if_neg hexit]
    by_cases hreplaced : turn.replaced = true
    · rw [if_pos hreplaced]
      exact stopChild_enabled _ turn _
    · simp [hexited, hexit, hreplaced] at h

/-- After a turn that reads no deletion, the flag is what its batch makes of it. -/
theorem step_enabled (h : ∀ message ∈ loop.batch turn, deletes process message = false) :
    (loop.step process turn).enabled =
      (loop.batch turn).foldl (flagIn process loop.phase) loop.enabled := by
  unfold ProcLoop.batch at h ⊢
  cases hreads : loop.reads turn with
  | false => exact step_unread hreads
  | true =>
    rw [hreads] at h
    unfold ProcLoop.reads at hreads
    unfold ProcLoop.step
    cases hphase : loop.phase with
    | left =>
      rw [hphase] at hreads
      contradiction
    | idle =>
      simp only [hphase, Bool.and_eq_true, Bool.not_eq_true'] at hreads
      exact idleTurn_enabled hreads.1 hreads.2 h
    | running =>
      simp only [hphase, Bool.and_eq_true, Bool.not_eq_true'] at hreads
      exact runningTurn_enabled hreads.1.1 hreads.1.2 hreads.2 h

/-- Only an enabled process has a child. -/
def ChildEnabled (loop : ProcLoop) : Prop := loop.phase = .running → loop.enabled = true

theorem ChildEnabled.finish (loop : ProcLoop) (turn : Turn) : ChildEnabled (loop.finish turn) := by
  intro hrunning
  exact absurd hrunning (finish_not_running loop turn)

theorem ChildEnabled.launch (h : loop.enabled = true) (turn : Turn) :
    ChildEnabled (loop.launch turn) := by
  intro _
  rw [launch_enabled]
  exact h

theorem childEnabled_left : ChildEnabled (loop.go .left) := by
  rintro ⟨⟩

theorem childEnabled_idle : ChildEnabled (loop.go .idle) := by
  rintro ⟨⟩

theorem childEnabled_step (loop : ProcLoop) (turn : Turn) :
    ChildEnabled (loop.step process turn) := by
  unfold ProcLoop.step
  cases hphase : loop.phase with
  | left =>
    intro hrunning
    rw [hphase] at hrunning
    contradiction
  | idle =>
    dsimp only
    unfold ProcLoop.idleTurn
    split_ifs
    · exact childEnabled_left
    · exact childEnabled_left
    · dsimp only
      split
      · exact childEnabled_left
      · split_ifs with hafter
        · exact ChildEnabled.launch hafter turn
        · exact childEnabled_idle
        · exact childEnabled_idle
  | running =>
    dsimp only
    unfold ProcLoop.runningTurn
    dsimp only
    by_cases hexited : turn.childExited = true
    · rw [if_pos hexited]
      exact ChildEnabled.finish _ turn
    rw [if_neg hexited]
    by_cases hexit : turn.exit = true
    · rw [if_pos hexit]
      exact ChildEnabled.finish _ turn
    rw [if_neg hexit]
    by_cases hreplaced : turn.replaced = true
    · rw [if_pos hreplaced]
      exact ChildEnabled.finish _ turn
    rw [if_neg hreplaced]
    split
    · exact childEnabled_left
    · by_cases hmarked : turn.markedForRemoval = true
      · rw [if_pos hmarked]
        exact childEnabled_left
      rw [if_neg hmarked]
      split_ifs with hafter
      · intro _
        exact hafter
      · exact ChildEnabled.finish _ turn

/-! ## Batches that the interpreters disagree about -/

/-- In a batch for an excluded process, all are started behind the last command that stops it,
and it is not started by its name there. -/
def Revives (process : ResolvedProcess) (batch : List ProcMessage) : Prop :=
  process.excludedFromStartAll = true ∧
    ∃ before stop rest, batch = before ++ stop :: rest ∧ stops process stop = true ∧
      (∀ message ∈ rest, stops process message = false ∧ startsByName process message = false) ∧
      ∃ message ∈ rest, startsAll message = true

theorem stops_starts {message : ProcMessage} (h : stops process message = true) :
    startsByName process message = false ∧ startsAll message = false := by
  cases message with
  | start site => contradiction
  | startAll => contradiction
  | delete site => contradiction
  | stopAll => exact ⟨rfl, rfl⟩
  | stop site => exact ⟨rfl, rfl⟩

theorem commanded_excluded (h : process.excludedFromStartAll = true) :
    commanded process = switch (startsByName process) (stops process) := by
  unfold commanded
  simp only [h, Bool.not_true, Bool.and_false, Bool.or_false]

theorem commanded_included (h : process.excludedFromStartAll = false) :
    commanded process = commandedUnguarded process := by
  unfold commanded commandedUnguarded
  simp only [h, Bool.not_false, Bool.and_true]

/-- A batch that revives the process sets the flag without the exclusion and clears it with. -/
theorem Revives.flags {batch : List ProcMessage} (h : Revives process batch) (enabled : Bool) :
    batch.foldl (commandedUnguarded process) enabled = true ∧
      batch.foldl (commanded process) enabled = false := by
  obtain ⟨hexcluded, before, stop, rest, rfl, hstop, hrest, message, hmessage, hstart⟩ := h
  obtain ⟨hname, -⟩ := stops_starts hstop
  constructor
  · rw [List.foldl_append, List.foldl_cons]
    apply foldl_switch_on
    · intro later hlater
      exact (hrest later hlater).1
    · exact ⟨message, hmessage, by rw [hstart, Bool.or_true]⟩
  · have hoff (value : Bool) :
        switch (startsByName process) (stops process) value stop = false := by
      rw [switch, hname, hstop]
      rfl
    rw [commanded_excluded hexcluded, List.foldl_append, List.foldl_cons, hoff]
    apply foldl_switch_still
    intro later hlater
    exact ⟨(hrest later hlater).2, (hrest later hlater).1⟩

/-- Where the flags of an enabled process differ, the last command that stops it is followed by
one that starts all. -/
theorem revives_of_flags {batch : List ProcMessage}
    (hset : batch.foldl (commandedUnguarded process) true = true)
    (hcleared : batch.foldl (commanded process) true = false) : Revives process batch := by
  have hexcluded : process.excludedFromStartAll = true := by
    by_contra hincluded
    rw [commanded_included (Bool.eq_false_of_not_eq_true hincluded), hset] at hcleared
    contradiction
  rw [commanded_excluded hexcluded] at hcleared
  obtain ⟨before, stop, rest, rfl, hname, hstop, hrest⟩ := foldl_switch_cleared hcleared
  refine ⟨hexcluded, before, stop, rest, rfl, hstop, ?_, ?_⟩
  · intro message hmessage
    exact ⟨(hrest message hmessage).2, (hrest message hmessage).1⟩
  · by_contra hnone
    have hstill : (before ++ stop :: rest).foldl (commandedUnguarded process) true = false := by
      rw [commandedUnguarded, List.foldl_append, List.foldl_cons, foldl_switch_still, switch,
        hname, (stops_starts hstop).2, hstop]
      · rfl
      · intro message hmessage
        refine ⟨?_, (hrest message hmessage).2⟩
        rw [(hrest message hmessage).1, Bool.false_or, Bool.eq_false_iff]
        intro hstart
        exact hnone ⟨message, hmessage, hstart⟩
    rw [hset] at hstill
    contradiction

/-- The exclusion only ever keeps the flag from being set. -/
theorem flag_of_guarded {batch : List ProcMessage} {enabled : Bool}
    (h : batch.foldl (commanded process) enabled = true) :
    batch.foldl (commandedUnguarded process) enabled = true := by
  apply foldl_switch_mono _ id h
  intro message hmessage
  rcases Bool.or_eq_true_iff.mp hmessage with hname | hall
  · rw [hname, Bool.true_or]
  · rw [(Bool.and_eq_true_iff.mp hall).1, Bool.or_true]

/-- For a process that is enabled, both interpreters come to the same flag unless the batch
revives it. -/
theorem fold_eq_iff (batch : List ProcMessage) :
    batch.foldl (commandedUnguarded process) true = batch.foldl (commanded process) true ↔
      ¬Revives process batch := by
  constructor
  · intro hsame hrevives
    obtain ⟨hset, hcleared⟩ := hrevives.flags true
    rw [hset, hcleared] at hsame
    contradiction
  · intro hnot
    cases hflag : batch.foldl (commanded process) true with
    | true => exact flag_of_guarded hflag
    | false =>
      by_contra hset
      exact hnot (revives_of_flags (Bool.eq_true_of_not_eq_false hset) hflag)

end

/-! ## Runs -/

/-- A loop and all that it has read. -/
structure Heard where
  loop : ProcLoop
  received : List ProcMessage

def Heard.step (process : ResolvedProcess) (self : Heard) (turn : Turn) : Heard where
  loop := self.loop.step process turn
  received := self.received ++ self.loop.batch turn

/-- What a run has read, in its turns while idle and while the child runs. -/
def hear (process : ResolvedProcess) (start : ProcLoop) (turns : List Turn) : Heard :=
  Machine.run (Heard.step process) ⟨start, []⟩ turns

/-- No deletion of the process has been read; with one the loop is over. -/
def Heard.Alive (process : ResolvedProcess) (self : Heard) : Prop :=
  ∀ message ∈ self.received, deletes process message = false

/-- The flag is what the commands that were read make of it, from the left. -/
def Heard.Obeys (process : ResolvedProcess) (start : ProcLoop) (self : Heard) : Prop :=
  self.Alive process →
    self.loop.enabled = self.received.foldl (commanded process) start.enabled

/-- What the turn reads while the child runs does not revive an excluded process. -/
def Heard.Tame (process : ResolvedProcess) (self : Heard) (turn : Turn) : Prop :=
  (self.step process turn).Alive process → self.loop.phase = .running →
    ¬Revives process (self.loop.batch turn)

section

variable {process : ResolvedProcess} {start : ProcLoop}

/-- What is read changes nothing about the run. -/
theorem hear_loop (turns : List Turn) :
    (hear process start turns).loop = Machine.run (ProcLoop.step process) start turns := by
  have hrun : ∀ (heard : Heard), (Machine.run (Heard.step process) heard turns).loop =
      Machine.run (ProcLoop.step process) heard.loop turns := by
    induction turns with
    | nil =>
      intro heard
      rfl
    | cons turn turns ih =>
      intro heard
      exact ih (heard.step process turn)
  exact hrun ⟨start, []⟩

theorem obeys_step_iff {heard : Heard} (hchild : ChildEnabled heard.loop)
    (hobeys : heard.Obeys process start) (turn : Turn) :
    (heard.step process turn).Obeys process start ↔ heard.Tame process turn := by
  unfold Heard.Tame
  rw [Heard.Obeys]
  apply imp_congr_right
  intro halive
  have hbefore : heard.Alive process := by
    intro message hmessage
    exact halive message (List.mem_append_left _ hmessage)
  have hbatch : ∀ message ∈ heard.loop.batch turn, deletes process message = false := by
    intro message hmessage
    exact halive message (List.mem_append_right _ hmessage)
  change (heard.loop.step process turn).enabled =
    (heard.received ++ heard.loop.batch turn).foldl (commanded process) start.enabled ↔ _
  rw [List.foldl_append, ← hobeys hbefore, step_enabled hbatch]
  cases hphase : heard.loop.phase with
  | idle => exact iff_of_true rfl (by rintro ⟨⟩)
  | left => exact iff_of_true rfl (by rintro ⟨⟩)
  | running =>
    rw [hchild hphase]
    exact (fold_eq_iff _).trans ⟨fun hnot _ => hnot, fun h => h rfl⟩

end

/-- **The enable flag**: it is the fold of all commands that were read, however they were spread
over the turns of a run, as long as exactly the following is avoided: that a batch read by the
loop around the child starts all processes after having stopped this one, which is excluded. -/
theorem flag_obeys_iff (process : ResolvedProcess) (autoStart : Option Bool) (turns : List Turn) :
    (∀ first, first <+: turns →
      (hear process (initialLoop process autoStart) first).Obeys process
        (initialLoop process autoStart)) ↔
      Machine.Meets (Heard.step process) (Heard.Tame process)
        ⟨initialLoop process autoStart, []⟩ turns := by
  apply Machine.meets_iff (J := fun heard : Heard => ChildEnabled heard.loop)
  · intro heard turn _
    exact childEnabled_step heard.loop turn
  · intro heard turn hchild hobeys
    exact obeys_step_iff hchild hobeys turn
  · rintro ⟨⟩
  · intro _
    rfl

/-! ## An excluded process -/

def excludedProcess : ResolvedProcess :=
  { plainProcess "api.test" with excludedFromStartAll := true }

/-- Messages for a loop that finds a port and whose child starts. -/
def plainTurn (messages : List ProcMessage) : Turn :=
  { portlessTurn messages with portFound := true, binFound := true, spawned := true }

/-- The process is stopped, and then all are started. It runs on if both commands are read while
it runs, and stops if the second is read afterwards. -/
theorem excluded_revived :
    ((hear excludedProcess (initialLoop excludedProcess none)
        [plainTurn [], plainTurn [.stop "api.test", .startAll]]).received =
      (hear excludedProcess (initialLoop excludedProcess none)
        [plainTurn [], plainTurn [.stop "api.test"], plainTurn [.startAll]]).received) ∧
    (hear excludedProcess (initialLoop excludedProcess none)
        [plainTurn [], plainTurn [.stop "api.test", .startAll]]).loop.enabled = true ∧
    (hear excludedProcess (initialLoop excludedProcess none)
        [plainTurn [], plainTurn [.stop "api.test"], plainTurn [.startAll]]).loop.enabled = false ∧
    ¬∀ first, first <+: [plainTurn [], plainTurn [.stop "api.test", .startAll]] →
      (hear excludedProcess (initialLoop excludedProcess none) first).Obeys excludedProcess
        (initialLoop excludedProcess none) := by
  refine ⟨by decide +kernel, by decide +kernel, by decide +kernel, ?_⟩
  intro hall
  have hobeys := hall _ List.prefix_rfl (by unfold Heard.Alive; decide +kernel)
  revert hobeys
  decide +kernel

end OddBox.ProcHost

import OddBox.ProcHost.Commands

/-!
The end of the program: `main` waits until no loop of a hosted process listens for commands
any more, and every loop stops its child before it leaves.
-/

namespace OddBox.ProcHost

open OddBox.Broadcast OddBox.Configuration OddBox.Proxy

/-! ## Children -/

/-- Whether the turn starts a child. -/
def ProcLoop.spawns (process : ResolvedProcess) (self : ProcLoop) (turn : Turn) : Bool :=
  self.phase == .idle && self.reads turn &&
    drain (interpretIdle process) self.enabled turn.messages == .told true &&
    turn.portFound && turn.binFound && turn.spawned

/-- How often the loop has stopped a child. -/
def ProcLoop.kills (self : ProcLoop) : Nat := self.done.count .kill

/-- A loop, with the number of children it has started and of those that ended by themselves. -/
structure Ledger where
  loop : ProcLoop
  started : Nat
  exited : Nat

def Ledger.step (process : ResolvedProcess) (self : Ledger) (turn : Turn) : Ledger where
  loop := self.loop.step process turn
  started := self.started + (self.loop.spawns process turn).toNat
  exited := self.exited + (self.loop.phase == .running && turn.childExited).toNat

/-- Of the children that were started, one runs or none, and the others have ended or have been
stopped. -/
def Ledger.Balanced (self : Ledger) : Prop :=
  self.started = self.exited + self.loop.kills + (self.loop.phase == .running).toNat

section

variable {process : ResolvedProcess} {self : ProcLoop} {turn : Turn}

theorem kills_did (effects : List LoopEffect) :
    (self.did effects).kills = self.kills + effects.count .kill :=
  List.count_append

@[simp] theorem kills_go (phase : Phase) : (self.go phase).kills = self.kills := rfl

@[simp] theorem kills_status (state : ProcState) :
    (self.did [.status state]).kills = self.kills := by
  rw [kills_did]
  rfl

@[simp] theorem kills_finish : (self.finish turn).kills = self.kills := by
  unfold ProcLoop.finish
  split_ifs
  · rfl
  · exact kills_status .faulty
  · rfl

theorem kills_stopChild {effects : List LoopEffect} (h : effects.count .kill = 0) :
    (self.stopChild turn effects).kills = self.kills + 1 := by
  rw [ProcLoop.stopChild, kills_finish, kills_did, List.cons_append, List.count_cons,
    List.count_append, h]
  rfl

theorem stopChild_not_running (effects : List LoopEffect) :
    (self.stopChild turn effects).phase ≠ .running :=
  finish_not_running _ turn

/-- A launch starts a child where everything for it is found. -/
theorem launch_cases :
    (self.launch turn).kills = self.kills ∧
      ((self.launch turn).phase = .running ↔
        (turn.portFound && turn.binFound && turn.spawned) = true) := by
  unfold ProcLoop.launch
  cases hport : turn.portFound with
  | false => exact ⟨rfl, iff_of_false (by rintro ⟨⟩) Bool.false_ne_true⟩
  | true =>
    cases hbin : turn.binFound with
    | false => exact ⟨kills_status .faulty, iff_of_false (by rintro ⟨⟩) Bool.false_ne_true⟩
    | true =>
      cases hspawned : turn.spawned with
      | true => exact ⟨kills_status .starting, iff_of_true rfl rfl⟩
      | false =>
        refine ⟨?_, iff_of_false (finish_not_running _ turn) Bool.false_ne_true⟩
        change ((self.did [.status .starting, .status .faulty]).finish turn).kills = _
        rw [kills_finish, kills_did]
        rfl

theorem toNat_beq_running {phase : Phase} {b : Bool} (h : phase = .running ↔ b = true) :
    (phase == .running).toNat = b.toNat := by
  have hsame : (phase == .running) = b := by
    rw [Bool.eq_iff_iff, beq_iff_eq]
    exact h
  rw [hsame]

theorem toNat_beq_not_running {phase : Phase} (h : phase ≠ .running) :
    (phase == .running).toNat = 0 := by
  rw [beq_false_of_ne h]
  rfl

/-- An idle turn stops nothing, and has a child afterwards if it has started one. -/
theorem idleTurn_children (hphase : self.phase = .idle) :
    (self.idleTurn process turn).kills = self.kills ∧
      ((self.idleTurn process turn).phase == .running).toNat =
        (self.spawns process turn).toNat := by
  unfold ProcLoop.idleTurn ProcLoop.spawns ProcLoop.reads
  rw [hphase]
  cases turn.markedForRemoval with
  | true =>
    refine ⟨?_, rfl⟩
    change ((self.did [.removeStatus]).go .left).kills = _
    rw [kills_go, kills_did]
    rfl
  | false =>
    cases turn.exit with
    | true => exact ⟨kills_status .stopped, rfl⟩
    | false =>
      dsimp only
      rw [if_neg Bool.false_ne_true, if_neg Bool.false_ne_true, did_enabled]
      cases hdrain : drain (interpretIdle process) self.enabled turn.messages with
      | deleted site =>
        refine ⟨?_, rfl⟩
        change (((self.did [.status .stopped]).did [.removeStatus, .acknowledge site]).go
          .left).kills = _
        rw [kills_go, kills_did, kills_status]
        rfl
      | told enabled =>
        cases enabled with
        | true =>
          dsimp only
          rw [if_pos rfl]
          obtain ⟨hkills, hrunning⟩ := @launch_cases
            { self.did [.status .stopped] with enabled := true } turn
          refine ⟨hkills.trans (kills_status .stopped), ?_⟩
          apply toNat_beq_running
          rw [hrunning]
          rfl
        | false =>
          dsimp only
          rw [if_neg Bool.false_ne_true]
          cases self.enabled with
          | true =>
            refine ⟨?_, rfl⟩
            change ({ self.did [.status .stopped] with enabled := false }.did
              [.status .stopped]).kills = _
            rw [kills_status]
            exact kills_status .stopped
          | false => exact ⟨kills_status .stopped, rfl⟩

/-- A turn with a child keeps it, or finds that it has ended, or stops it. -/
theorem runningTurn_children :
    1 + self.kills = turn.childExited.toNat + (self.runningTurn process turn).kills +
      ((self.runningTurn process turn).phase == .running).toNat := by
  unfold ProcLoop.runningTurn
  cases turn.childExited with
  | true =>
    rw [if_pos rfl, kills_finish, kills_status,
      toNat_beq_not_running (finish_not_running _ turn)]
    rfl
  | false =>
    rw [if_neg Bool.false_ne_true]
    cases turn.exit with
    | true =>
      rw [if_pos rfl, kills_stopChild rfl, toNat_beq_not_running (stopChild_not_running _)]
      change 1 + self.kills = 0 + (self.kills + 1) + 0
      omega
    | false =>
      rw [if_neg Bool.false_ne_true]
      cases turn.replaced with
      | true =>
        rw [if_pos rfl, kills_stopChild rfl, toNat_beq_not_running (stopChild_not_running _)]
        change 1 + self.kills = 0 + (self.kills + 1) + 0
        omega
      | false =>
        rw [if_neg Bool.false_ne_true]
        dsimp only
        split
        · rename_i site _
          change 1 + self.kills = 0 + ((self.did [.status .running]).did
            [.removeStatus, .quit, .kill, .acknowledge site]).kills + 0
          rw [kills_did, kills_status]
          change 1 + self.kills = 0 + (self.kills + 1) + 0
          omega
        · rename_i enabled _
          have hbefore : ({ self.did [.status .running] with enabled := enabled } :
              ProcLoop).kills = self.kills := kills_status .running
          cases turn.markedForRemoval with
          | true =>
            rw [if_pos rfl, kills_go, kills_did, hbefore]
            change 1 + self.kills = 0 + (self.kills + 1) + 0
            omega
          | false =>
            rw [if_neg Bool.false_ne_true]
            cases enabled with
            | true =>
              rw [if_pos rfl, kills_go, hbefore]
              change 1 + self.kills = 0 + self.kills + 1
              omega
            | false =>
              rw [if_neg Bool.false_ne_true, kills_stopChild rfl, hbefore,
                toNat_beq_not_running (stopChild_not_running _)]
              change 1 + self.kills = 0 + (self.kills + 1) + 0
              omega

theorem Ledger.Balanced.step {self : Ledger} (h : self.Balanced) (turn : Turn) :
    (self.step process turn).Balanced := by
  unfold Ledger.Balanced at h ⊢
  unfold Ledger.step ProcLoop.step
  cases hphase : self.loop.phase with
  | left =>
    rw [hphase] at h
    have hspawns : self.loop.spawns process turn = false := by
      rw [ProcLoop.spawns, hphase]
      rfl
    dsimp only
    rw [hspawns, hphase]
    exact h
  | idle =>
    rw [hphase] at h
    obtain ⟨hkills, hrunning⟩ := @idleTurn_children process self.loop turn hphase
    dsimp only
    rw [hkills, hrunning, h]
    rfl
  | running =>
    rw [hphase] at h
    have hturn := @runningTurn_children process self.loop turn
    have hspawns : self.loop.spawns process turn = false := by
      rw [ProcLoop.spawns, hphase]
      rfl
    dsimp only
    rw [hspawns, h]
    change self.exited + self.loop.kills + 1 + 0 =
      self.exited + turn.childExited.toNat + _ + _
    omega

end

/-- A loop from its start on. -/
def ledger (process : ResolvedProcess) (start : ProcLoop) (turns : List Turn) : Ledger :=
  Machine.run (Ledger.step process) ⟨start, 0, 0⟩ turns

theorem ledger_balanced (process : ResolvedProcess) (autoStart : Option Bool)
    (turns : List Turn) : (ledger process (initialLoop process autoStart) turns).Balanced := by
  apply Machine.run_invariant
  · intro self turn h
    exact h.step turn
  · rfl

theorem ledger_concat (process : ResolvedProcess) (start : ProcLoop) (turns : List Turn)
    (turn : Turn) :
    ledger process start (turns ++ [turn]) = (ledger process start turns).step process turn :=
  Machine.run_append _ _ _ _

/-! ## The loops and the end of the program -/

/-- The turn that has begun and is not over. -/
def Stage.turn : Stage → Option Turn
  | .between => none
  | .reading turn _ => some turn
  | .acting turn _ => some turn

namespace Worker

/-- The turn whose rest is about to be done. -/
def pendingTurn (exit : Bool) (self : Worker) : Option Turn :=
  match self.stage with
  | .acting turn read => some { turn with messages := read, exitAfter := exit }
  | _ => none

end Worker

/-- What is left of `main`. -/
inductive MainPhase where
  | serving
  /-- Inside `while arced_tx.receiver_count() > 0`. -/
  | waiting (i : Nat)
  /-- The wait is over, with a warning or without. -/
  | over (warned : Bool)
  deriving DecidableEq, Repr

/-- The loops, the entries of `PROC_THREAD_MAP`, and for each loop whether it has made its
entry, the turns that are over, and how many of them ended after the exit flag was set. -/
structure Program where
  supervisor : Supervisor
  threadMap : List (ProcId × Nat)
  hosted : Nat → Bool
  turns : Nat → List Turn
  late : Nat → Nat
  main : MainPhase

inductive ProgramOp where
  | work (op : SupervisorOp)
  /-- The first lines of `host`: the loop makes its entry. -/
  | host (index : Nat)
  /-- The cleanup thread drops the entries of loops that are gone. -/
  | clean
  | await
  | poll
  deriving DecidableEq, Repr

namespace Program

def new (capacity : Nat) : Program where
  supervisor := .new capacity
  threadMap := []
  hosted := fun _ => false
  turns := fun _ => []
  late := fun _ => 0
  main := .serving

/-- The loops that still hold their receiver. -/
def receiverCount (self : Program) : Nat :=
  self.supervisor.workers.countP (·.loop.phase != .left)

def isGone (self : Program) (index : Nat) : Bool :=
  self.supervisor.workers[index]?.any (·.loop.phase == .left)

/-- A loop takes no turn before it has made its entry. -/
def allows (self : Program) : SupervisorOp → Bool
  | .begin index _ => self.hosted index
  | _ => true

/-- The turns that a step of the loops ends, by the index of the loop. -/
def ended (self : Program) : SupervisorOp → Nat → List Turn
  | .finish index, i =>
    if i = index then
      (self.supervisor.workers[i]?.bind (·.pendingTurn self.supervisor.exit)).toList
    else []
  | _, _ => []

/-- One turn of the wait in `main`. -/
def poll (self : Program) : MainPhase → MainPhase
  | .waiting i =>
    if self.receiverCount = 0 then .over false
    else if i > 30 then if self.threadMap = [] then .over true else .waiting 0
    else .waiting (i + 1)
  | main => main

def step (self : Program) : ProgramOp → Program
  | .work op =>
    if self.allows op then
      { self with
        supervisor := self.supervisor.step op
        turns := fun i => self.turns i ++ self.ended op i
        late := fun i =>
          self.late i + if self.supervisor.exit then (self.ended op i).length else 0 }
    else self
  | .host index =>
    match self.supervisor.workers[index]? with
    | some worker =>
      if self.hosted index then self
      else
        { self with
          threadMap := (worker.process.procId, index) ::
            self.threadMap.filter (·.1 != worker.process.procId)
          hosted := fun i => i == index || self.hosted i }
    | none => self
  | .clean => { self with threadMap := self.threadMap.filter (!self.isGone ·.2) }
  | .await => { self with main := if self.main = .serving then .waiting 0 else self.main }
  | .poll => { self with main := self.poll self.main }

end Program

/-- What a step of the loops makes of one of them. -/
theorem Supervisor.step_worker {self : Supervisor} {op : SupervisorOp} {index : Nat}
    {worker : Worker} (h : (self.step op).workers[index]? = some worker) :
    self.workers[index]? = some worker ∧ op ≠ .finish index ∨
      (∃ process autoStart, op = .spawn process autoStart ∧ index = self.workers.length ∧
        worker = .spawn self.channel process autoStart) ∨
      ∃ before, self.workers[index]? = some before ∧
        ((∃ turn, op = .begin index turn ∧ worker = before.begin self.exit turn) ∨
          op = .recv index ∧ worker = before.recv self.channel ∨
          op = .finish index ∧ worker = before.finish self.exit) := by
  cases op with
  | send message => exact .inl ⟨h, by rintro ⟨⟩⟩
  | exit => exact .inl ⟨h, by rintro ⟨⟩⟩
  | spawn process autoStart =>
    rw [step, List.getElem?_append] at h
    split at h
    · exact .inl ⟨h, by rintro ⟨⟩⟩
    · rename_i hlength
      rw [List.getElem?_singleton] at h
      split at h
      · exact .inr (.inl ⟨process, autoStart, rfl, by omega, (Option.some.inj h).symm⟩)
      · cases h
  | begin i turn =>
    rcases getElem?_modify_cases h with ⟨hsame, -⟩ | ⟨rfl, before, hbefore, hworker⟩
    · exact .inl ⟨hsame, by rintro ⟨⟩⟩
    · exact .inr (.inr ⟨before, hbefore, .inl ⟨turn, rfl, hworker⟩⟩)
  | recv i =>
    rcases getElem?_modify_cases h with ⟨hsame, -⟩ | ⟨rfl, before, hbefore, hworker⟩
    · exact .inl ⟨hsame, by rintro ⟨⟩⟩
    · exact .inr (.inr ⟨before, hbefore, .inr (.inl ⟨rfl, hworker⟩)⟩)
  | finish i =>
    rcases getElem?_modify_cases h with ⟨hsame, hother⟩ | ⟨rfl, before, hbefore, hworker⟩
    · refine .inl ⟨hsame, ?_⟩
      rintro ⟨⟩
      exact hother rfl
    · exact .inr (.inr ⟨before, hbefore, .inr (.inr ⟨rfl, hworker⟩)⟩)

namespace Worker

section

variable {worker : Worker} {exit : Bool} {turn : Turn}

theorem begin_turn {next : Turn} (h : turn ∈ (worker.begin exit next).stage.turn) :
    turn ∈ worker.stage.turn ∨ turn.exit = exit := by
  unfold Worker.begin at h
  split at h
  · right
    dsimp only at h
    split at h <;>
    · rw [← Option.mem_some.mp h]
  · exact .inl h

theorem recv_turn {channel : Channel ProcMessage} (h : turn ∈ (worker.recv channel).stage.turn) :
    turn ∈ worker.stage.turn := by
  unfold Worker.recv at h
  split at h
  · rename_i begun read hstage
    rw [hstage]
    dsimp only at h
    split at h
    · split at h <;> exact h
    · exact h
  · exact h

theorem finish_turn (h : turn ∈ (worker.finish exit).stage.turn) : turn ∈ worker.stage.turn := by
  unfold Worker.finish at h
  split at h
  · cases h
  · exact h

theorem pendingTurn_cases (h : turn ∈ worker.pendingTurn exit) :
    ∃ begun read, worker.stage = .acting begun read ∧
      turn = { begun with messages := read, exitAfter := exit } := by
  cases hstage : worker.stage with
  | acting begun read =>
    rw [pendingTurn, hstage] at h
    exact ⟨begun, read, rfl, (Option.mem_some.mp h).symm⟩
  | between =>
    rw [pendingTurn, hstage] at h
    cases h
  | reading begun read =>
    rw [pendingTurn, hstage] at h
    cases h

theorem pendingTurn_turn (h : turn ∈ worker.pendingTurn exit) :
    turn.exitAfter = exit ∧ ∃ begun ∈ worker.stage.turn, turn.exit = begun.exit := by
  obtain ⟨begun, read, hstage, rfl⟩ := pendingTurn_cases h
  rw [hstage]
  exact ⟨rfl, begun, rfl, rfl⟩

theorem finish_of_none (h : worker.pendingTurn exit = none) : worker.finish exit = worker := by
  unfold Worker.finish
  split
  · rename_i begun read hstage
    rw [pendingTurn, hstage] at h
    cases h
  · rfl

theorem finish_of_some (h : turn ∈ worker.pendingTurn exit) :
    (worker.finish exit).loop = worker.loop.step worker.process turn ∧
      (worker.finish exit).process = worker.process ∧
      (worker.finish exit).first = worker.first ∧ (worker.finish exit).stage = .between := by
  obtain ⟨begun, read, hstage, rfl⟩ := pendingTurn_cases h
  rw [Worker.finish, hstage]
  exact ⟨rfl, rfl, rfl, rfl⟩

theorem pendingTurn_none (h : worker.stage.turn = none) : worker.pendingTurn exit = none := by
  cases hturn : worker.pendingTurn exit with
  | none => rfl
  | some turn =>
    obtain ⟨-, begun, hbegun, -⟩ := pendingTurn_turn hturn
    rw [h] at hbegun
    cases hbegun

end

end Worker

section

variable {process : ResolvedProcess} {self : ProcLoop} {turn : Turn}

theorem finish_left (henabled : self.enabled = true) (hafter : turn.exitAfter = true) :
    (self.finish turn).phase = .left := by
  rw [ProcLoop.finish, if_pos henabled, if_pos hafter]
  rfl

/-- A turn that begins and ends with the exit flag set is the last. -/
theorem step_left (hchild : ChildEnabled self) (hexit : turn.exit = true)
    (hafter : turn.exitAfter = true) : (self.step process turn).phase = .left := by
  unfold ProcLoop.step
  cases hphase : self.phase with
  | left => exact hphase
  | idle =>
    dsimp only
    unfold ProcLoop.idleTurn
    rw [hexit]
    split <;> rfl
  | running =>
    have henabled := hchild hphase
    dsimp only
    unfold ProcLoop.runningTurn
    rw [hexit]
    split
    · exact finish_left henabled hafter
    · exact finish_left henabled hafter

theorem step_of_left (h : self.phase = .left) : self.step process turn = self := by
  rw [ProcLoop.step, h]

end

theorem Supervisor.length_le_step (self : Supervisor) (op : SupervisorOp) :
    self.workers.length ≤ (self.step op).workers.length := by
  cases op with
  | spawn process autoStart =>
    rw [step, List.length_append]
    exact Nat.le_add_right _ _
  | begin i turn => exact (List.length_modify _ _ _).ge
  | recv i => exact (List.length_modify _ _ _).ge
  | finish i => exact (List.length_modify _ _ _).ge
  | send message => exact le_refl _
  | exit => exact le_refl _

namespace Program

/-- What the program knows of a loop. -/
structure Tracks (program : Program) (index : Nat) (worker : Worker) : Prop where
  loop : (ledger worker.process worker.first (program.turns index)).loop = worker.loop
  first : ∃ autoStart, worker.first = initialLoop worker.process autoStart
  childEnabled : ChildEnabled worker.loop
  unbegun : program.hosted index = false →
    worker.stage.turn = none ∧ program.turns index = []
  exit : program.late index ≠ 0 → program.supervisor.exit = true
  leaving : program.late index ≠ 0 → ∀ turn ∈ worker.stage.turn, turn.exit = true
  left : 2 ≤ program.late index → worker.loop.phase = .left

structure Sound (program : Program) : Prop where
  tracks : ∀ index worker, program.supervisor.workers[index]? = some worker →
    program.Tracks index worker
  beyond : ∀ index, program.supervisor.workers.length ≤ index →
    program.turns index = [] ∧ program.late index = 0 ∧ program.hosted index = false

section

variable {self next : Program} {index : Nat} {worker before : Worker}

theorem ended_of_ne {op : SupervisorOp} (h : op ≠ .finish index) : self.ended op index = [] := by
  cases op with
  | finish i =>
    rw [ended, if_neg]
    rintro rfl
    exact h rfl
  | send message => rfl
  | spawn process autoStart => rfl
  | begin i turn => rfl
  | recv i => rfl
  | exit => rfl

theorem ended_beyond {op : SupervisorOp} (h : self.supervisor.workers.length ≤ index) :
    self.ended op index = [] := by
  by_cases hop : op = .finish index
  · rw [hop, ended, if_pos rfl, List.getElem?_eq_none h]
    rfl
  · exact ended_of_ne hop

theorem ended_finish (h : self.supervisor.workers[index]? = some worker) :
    self.ended (.finish index) index =
      (worker.pendingTurn self.supervisor.exit).toList := by
  rw [ended, if_pos rfl, h]
  rfl

theorem step_exit {supervisor : Supervisor} (op : SupervisorOp) (h : supervisor.exit = true) :
    (supervisor.step op).exit = true := by
  cases op with
  | exit => rfl
  | send message => exact h
  | spawn process autoStart => exact h
  | begin i turn => exact h
  | recv i => exact h
  | finish i => exact h

/-- Between two ends of its turns a loop changes its stage only. -/
theorem Tracks.of_same (h : self.Tracks index before)
    (hsame : worker.loop = before.loop ∧ worker.heard = before.heard ∧
      worker.process = before.process ∧ worker.first = before.first)
    (hturns : next.turns index = self.turns index) (hlate : next.late index = self.late index)
    (hhosted : next.hosted index = false → self.hosted index = false)
    (hexit : self.supervisor.exit = true → next.supervisor.exit = true)
    (hstage : ∀ turn ∈ worker.stage.turn, turn ∈ before.stage.turn ∨
      self.hosted index = true ∧ turn.exit = self.supervisor.exit) :
    next.Tracks index worker := by
  obtain ⟨hloop, -, hprocess, hfirst⟩ := hsame
  refine ⟨?_, ?_, ?_, ?_, ?_, ?_, ?_⟩
  · rw [hprocess, hfirst, hturns, hloop]
    exact h.loop
  · rw [hprocess, hfirst]
    exact h.first
  · rw [hloop]
    exact h.childEnabled
  · intro hunhosted
    have hbefore := h.unbegun (hhosted hunhosted)
    refine ⟨?_, hturns.trans hbefore.2⟩
    rw [Option.eq_none_iff_forall_not_mem]
    intro turn hturn
    rcases hstage turn hturn with hsame | ⟨hbegun, -⟩
    · rw [hbefore.1] at hsame
      cases hsame
    · rw [hhosted hunhosted] at hbegun
      cases hbegun
  · rw [hlate]
    exact fun hsome => hexit (h.exit hsome)
  · rw [hlate]
    intro hsome turn hturn
    rcases hstage turn hturn with hsame | ⟨-, hnow⟩
    · exact h.leaving hsome turn hsame
    · rw [hnow]
      exact h.exit hsome
  · rw [hlate, hloop]
    exact h.left

/-- The end of a turn. -/
theorem Tracks.finish (h : self.Tracks index before)
    (hturns : next.turns index =
      self.turns index ++ (before.pendingTurn self.supervisor.exit).toList)
    (hlate : next.late index = self.late index +
      if self.supervisor.exit then (before.pendingTurn self.supervisor.exit).toList.length else 0)
    (hhosted : next.hosted index = self.hosted index)
    (hexit : next.supervisor.exit = self.supervisor.exit) :
    next.Tracks index (before.finish self.supervisor.exit) := by
  cases hpending : before.pendingTurn self.supervisor.exit with
  | none =>
    rw [hpending] at hturns hlate
    rw [Worker.finish_of_none hpending]
    refine h.of_same ⟨rfl, rfl, rfl, rfl⟩ (hturns.trans (List.append_nil _)) ?_
      (hhosted ▸ id) (hexit ▸ id) (fun turn hturn => .inl hturn)
    rw [hlate]
    split <;> rfl
  | some turn =>
    obtain ⟨hloop, hprocess, hfirst, hstage⟩ := Worker.finish_of_some hpending
    obtain ⟨hafter, begun, hbegun, hsame⟩ := Worker.pendingTurn_turn hpending
    rw [hpending] at hturns hlate
    have hrun : (ledger before.process before.first (next.turns index)).loop =
        before.loop.step before.process turn := by
      rw [hturns, Option.toList_some, ledger_concat, Ledger.step, h.loop]
    refine ⟨?_, ?_, ?_, ?_, ?_, ?_, ?_⟩
    · rw [hprocess, hfirst, hloop]
      exact hrun
    · rw [hprocess, hfirst]
      exact h.first
    · rw [hloop]
      exact childEnabled_step before.loop turn
    · intro hunhosted
      rw [(h.unbegun (hhosted ▸ hunhosted)).1] at hbegun
      cases hbegun
    · intro hsome
      rw [hexit]
      by_contra hoff
      rw [hlate, if_neg hoff] at hsome
      exact hoff (h.exit hsome)
    · rw [hstage]
      rintro - later ⟨⟩
    · intro htwo
      rw [hloop]
      rw [hlate] at htwo
      by_cases hon : self.supervisor.exit = true
      · rw [if_pos hon, Option.toList_some, List.length_singleton] at htwo
        apply step_left h.childEnabled
        · rw [hsame]
          exact h.leaving (by omega) begun hbegun
        · rw [hafter, hon]
      · rw [if_neg hon] at htwo
        have hleft := h.left htwo
        rw [step_of_left hleft, hleft]

end

theorem sound_new (capacity : Nat) : (new capacity).Sound where
  tracks := by
    rintro index worker ⟨⟩
  beyond := fun _ _ => ⟨rfl, rfl, rfl⟩

theorem tracks_spawn {self : Program} (h : self.Sound) {index : Nat}
    (hindex : self.supervisor.workers.length ≤ index) {next : Program}
    (hturns : next.turns index = self.turns index) (hlate : next.late index = self.late index)
    (process : ResolvedProcess) (autoStart : Option Bool) :
    next.Tracks index (.spawn self.supervisor.channel process autoStart) := by
  obtain ⟨hnone, hzero, -⟩ := h.beyond index hindex
  rw [hnone] at hturns
  rw [hzero] at hlate
  refine ⟨?_, ⟨autoStart, rfl⟩, ?_, ?_, ?_, ?_, ?_⟩
  · rw [hturns]
    rfl
  · rintro ⟨⟩
  · exact fun _ => ⟨rfl, hturns⟩
  · exact fun hsome => absurd hlate hsome
  · exact fun hsome => absurd hlate hsome
  · intro htwo
    omega

theorem Sound.work {self : Program} (h : self.Sound) (op : SupervisorOp) :
    (self.step (.work op)).Sound := by
  rw [step]
  split
  · rename_i hallowed
    have hunchanged : ∀ {index : Nat}, op ≠ .finish index →
        self.turns index ++ self.ended op index = self.turns index ∧
        (self.late index + if self.supervisor.exit then (self.ended op index).length else 0) =
          self.late index := by
      intro index hne
      rw [ended_of_ne hne]
      refine ⟨List.append_nil _, ?_⟩
      split <;> rfl
    refine ⟨?_, ?_⟩
    · intro index worker hworker
      rcases Supervisor.step_worker hworker with ⟨hsame, hne⟩ |
          ⟨process, autoStart, rfl, hindex, rfl⟩ | ⟨before, hbefore, hcases⟩
      · obtain ⟨hturns, hlate⟩ := hunchanged hne
        exact (h.tracks index worker hsame).of_same ⟨rfl, rfl, rfl, rfl⟩ hturns hlate id
          (step_exit op) (fun turn hturn => .inl hturn)
      · obtain ⟨hturns, hlate⟩ := @hunchanged index (by rintro ⟨⟩)
        exact tracks_spawn h hindex.ge hturns hlate process autoStart
      · have htracks := h.tracks index before hbefore
        rcases hcases with ⟨turn, rfl, rfl⟩ | ⟨rfl, rfl⟩ | ⟨rfl, rfl⟩
        · obtain ⟨hturns, hlate⟩ := @hunchanged index (by rintro ⟨⟩)
          refine htracks.of_same (before.begin_loop _ turn) hturns hlate id id ?_
          intro begun hbegun
          exact (Worker.begin_turn hbegun).imp_right (⟨hallowed, ·⟩)
        · obtain ⟨hturns, hlate⟩ := @hunchanged index (by rintro ⟨⟩)
          exact htracks.of_same (before.recv_loop _) hturns hlate id id
            (fun turn hturn => .inl (Worker.recv_turn hturn))
        · apply htracks.finish
          · rw [← ended_finish hbefore]
          · rw [← ended_finish hbefore]
          · rfl
          · rfl
    · intro index hindex
      have hbefore := (Supervisor.length_le_step self.supervisor op).trans hindex
      obtain ⟨hturns, hlate, hhosted⟩ := h.beyond index hbefore
      have hended := @ended_beyond self index op hbefore
      refine ⟨?_, ?_, hhosted⟩
      · dsimp only
        rw [hturns, hended]
        rfl
      · dsimp only
        rw [hlate, hended]
        split <;> rfl
  · exact h

/-- What the other steps leave as it is. -/
theorem Sound.of_same {self next : Program} (h : self.Sound)
    (hsupervisor : next.supervisor = self.supervisor) (hturns : next.turns = self.turns)
    (hlate : next.late = self.late)
    (hhosted : ∀ index, next.hosted index = false → self.hosted index = false)
    (hbeyond : ∀ index, self.supervisor.workers.length ≤ index → next.hosted index = false) :
    next.Sound := by
  refine ⟨?_, ?_⟩
  · intro index worker hworker
    rw [hsupervisor] at hworker
    exact (h.tracks index worker hworker).of_same ⟨rfl, rfl, rfl, rfl⟩ (congrFun hturns index)
      (congrFun hlate index) (hhosted index) (hsupervisor ▸ id) (fun turn hturn => .inl hturn)
  · intro index hindex
    rw [hsupervisor] at hindex
    obtain ⟨hnone, hzero, -⟩ := h.beyond index hindex
    rw [hturns, hlate]
    exact ⟨hnone, hzero, hbeyond index hindex⟩

theorem Sound.step {self : Program} (h : self.Sound) (op : ProgramOp) : (self.step op).Sound := by
  have hbeyond : ∀ index, self.supervisor.workers.length ≤ index → self.hosted index = false :=
    fun index hindex => (h.beyond index hindex).2.2
  cases op with
  | work op => exact h.work op
  | host index =>
    rw [Program.step]
    split
    · rename_i worker hworker
      split
      · exact h
      · refine h.of_same rfl rfl rfl ?_ ?_
        · intro i hi
          exact (Bool.or_eq_false_iff.mp hi).2
        · intro i hi
          rw [Bool.or_eq_false_iff, beq_eq_false_iff_ne]
          refine ⟨?_, hbeyond i hi⟩
          rintro rfl
          rw [List.getElem?_eq_none hi] at hworker
          cases hworker
    · exact h
  | clean => exact h.of_same rfl rfl rfl (fun _ => id) hbeyond
  | await => exact h.of_same rfl rfl rfl (fun _ => id) hbeyond
  | poll => exact h.of_same rfl rfl rfl (fun _ => id) hbeyond

theorem sound_run (capacity : Nat) (ops : List ProgramOp) :
    (Machine.run step (new capacity) ops).Sound :=
  Machine.run_invariant (I := Sound) (fun _ op h => h.step op) (sound_new capacity) ops

/-! ## The entries -/

/-- A loop that makes its entry has the identity of no other loop that still runs. -/
def Fresh (self : Program) : ProgramOp → Prop
  | .host index => ∀ worker ∈ self.supervisor.workers[index]?, ∀ i other,
      self.supervisor.workers[i]? = some other → i ≠ index → self.hosted i = true →
      other.process.procId = worker.process.procId → other.loop.phase = .left
  | _ => True

/-- A loop that has made its entry and has not left has it still. -/
def Listed (self : Program) : Prop :=
  ∀ index worker, self.supervisor.workers[index]? = some worker → self.hosted index = true →
    worker.loop.phase ≠ .left → (worker.process.procId, index) ∈ self.threadMap

/-- A step of the loops leaves a loop under its process, and none comes back. -/
theorem still_there {self : Program} {op : SupervisorOp} {index : Nat} {worker : Worker}
    (hindex : index < self.supervisor.workers.length)
    (hworker : (self.supervisor.step op).workers[index]? = some worker) :
    ∃ before, self.supervisor.workers[index]? = some before ∧
      worker.process = before.process ∧
      (before.loop.phase = .left → worker.loop.phase = .left) := by
  rcases Supervisor.step_worker hworker with ⟨hsame, -⟩ | ⟨process, autoStart, -, hlength, -⟩ |
      ⟨before, hbefore, ⟨turn, -, rfl⟩ | ⟨-, rfl⟩ | ⟨-, rfl⟩⟩
  · exact ⟨worker, hsame, rfl, id⟩
  · omega
  · obtain ⟨hloop, -, hprocess, -⟩ := before.begin_loop self.supervisor.exit turn
    exact ⟨before, hbefore, hprocess, by rw [hloop]; exact id⟩
  · obtain ⟨hloop, -, hprocess, -⟩ := before.recv_loop self.supervisor.channel
    exact ⟨before, hbefore, hprocess, by rw [hloop]; exact id⟩
  · refine ⟨before, hbefore, ?_⟩
    cases hpending : before.pendingTurn self.supervisor.exit with
    | none =>
      rw [Worker.finish_of_none hpending]
      exact ⟨rfl, id⟩
    | some turn =>
      obtain ⟨hloop, hprocess, -, -⟩ := Worker.finish_of_some hpending
      refine ⟨hprocess, ?_⟩
      intro hleft
      rw [hloop, step_of_left hleft, hleft]

theorem Listed.work {self : Program} (hsound : self.Sound) (h : self.Listed)
    (op : SupervisorOp) : (self.step (.work op)).Listed := by
  rw [step]
  split
  · intro index worker hworker hhosted hphase
    have hindex : index < self.supervisor.workers.length := by
      by_contra hbeyond
      have hnot := (hsound.beyond index (not_lt.mp hbeyond)).2.2
      rw [hhosted] at hnot
      cases hnot
    obtain ⟨before, hbefore, hprocess, hleft⟩ := still_there hindex hworker
    rw [hprocess]
    exact h index before hbefore hhosted (fun hgone => hphase (hleft hgone))
  · exact h

theorem Listed.host {self : Program} (h : self.Listed) {index : Nat}
    (hfresh : self.Fresh (.host index)) : (self.step (.host index)).Listed := by
  rw [step]
  split
  · rename_i worker hworker
    split
    · exact h
    · intro i other hother hhosted hphase
      rcases eq_or_ne i index with rfl | hne
      · have hsame := Option.some.inj (hworker.symm.trans hother)
        rw [← hsame]
        exact List.mem_cons_self
      · have hbefore : self.hosted i = true := by
          simpa [hne] using hhosted
        refine List.mem_cons_of_mem _ (List.mem_filter.mpr ⟨h i other hother hbefore hphase, ?_⟩)
        rw [bne_iff_ne]
        intro hid
        exact hphase (hfresh worker hworker i other hother hne hbefore hid)
  · exact h

theorem Listed.clean {self : Program} (h : self.Listed) : (self.step .clean).Listed := by
  intro index worker hworker hhosted hphase
  refine List.mem_filter.mpr ⟨h index worker hworker hhosted hphase, ?_⟩
  have hat : self.supervisor.workers[index]? = some worker := hworker
  dsimp only
  rw [isGone, hat, Option.any_some, beq_false_of_ne hphase]
  rfl

theorem Listed.step {self : Program} (hsound : self.Sound) (h : self.Listed) {op : ProgramOp}
    (hfresh : self.Fresh op) : (self.step op).Listed := by
  cases op with
  | work op => exact h.work hsound op
  | host index => exact h.host hfresh
  | clean => exact h.clean
  | await => exact h
  | poll => exact h

theorem listed_run {capacity : Nat} {ops : List ProgramOp}
    (hfresh : Machine.Meets step Fresh (new capacity) ops) :
    (Machine.run step (new capacity) ops).Listed := by
  have hboth := hfresh.invariant (I := fun self => self.Sound ∧ self.Listed)
    (fun self op h hop => ⟨h.1.step op, h.2.step h.1 hop⟩)
    ⟨sound_new capacity, by rintro index worker ⟨⟩⟩
  exact hboth.2

theorem receiverCount_eq_zero {self : Program} :
    self.receiverCount = 0 ↔
      ∀ worker ∈ self.supervisor.workers, worker.loop.phase = .left := by
  simp only [receiverCount, List.countP_eq_zero, bne_iff_ne, ne_eq, not_not]

/-! ## The end -/

/-- The wait goes on as long as a loop that has begun runs. -/
theorem poll_over {self : Program} (h : self.Listed) {i : Nat} {warned : Bool}
    (hmain : self.poll (.waiting i) = .over warned) {index : Nat} {worker : Worker}
    (hworker : self.supervisor.workers[index]? = some worker) :
    worker.loop.phase = .left ∨ self.hosted index = false := by
  rw [poll] at hmain
  split at hmain
  · rename_i hcount
    exact .inl (receiverCount_eq_zero.mp hcount worker (List.mem_of_getElem? hworker))
  · split at hmain
    · split at hmain
      · rename_i hempty
        by_contra hrunning
        obtain ⟨hphase, hhosted⟩ := not_or.mp hrunning
        have hmem := h index worker hworker (Bool.eq_true_of_not_eq_false hhosted) hphase
        rw [hempty] at hmem
        cases hmem
      · cases hmain
    · cases hmain

/-- **No child is left behind**: when the wait of `main` is over, with or without the warning,
no loop has a child, and each of the children that were ever started has ended or has been
stopped by its loop. -/
theorem no_child_left {capacity : Nat} {ops : List ProgramOp}
    (hfresh : Machine.Meets step Fresh (new capacity) ops) {i : Nat} {warned : Bool}
    (hmain : (Machine.run step (new capacity) ops).main = .waiting i)
    (hover : ((Machine.run step (new capacity) ops).step .poll).main = .over warned)
    {index : Nat} {worker : Worker}
    (hworker : (Machine.run step (new capacity) ops).supervisor.workers[index]? = some worker) :
    worker.loop.phase ≠ .running ∧
      (ledger worker.process worker.first
        ((Machine.run step (new capacity) ops).turns index)).started =
      (ledger worker.process worker.first
        ((Machine.run step (new capacity) ops).turns index)).exited + worker.loop.kills := by
  have htracks := (sound_run capacity ops).tracks index worker hworker
  obtain ⟨autoStart, hfirst⟩ := htracks.first
  have hphase : worker.loop.phase ≠ .running := by
    rw [step, hmain] at hover
    rcases poll_over (listed_run hfresh) hover hworker with hleft | hunbegun
    · rw [hleft]
      rintro ⟨⟩
    · rw [← htracks.loop, (htracks.unbegun hunbegun).2, hfirst]
      rintro ⟨⟩
  refine ⟨hphase, ?_⟩
  have hbalanced := ledger_balanced worker.process autoStart
    ((Machine.run step (new capacity) ops).turns index)
  rw [← hfirst, Ledger.Balanced, htracks.loop, toNat_beq_not_running hphase] at hbalanced
  exact hbalanced

/-- A process is started, and the program is asked to exit while its child runs. -/
def exitedOps : List ProgramOp :=
  [.work (.spawn (plainProcess "api.test") none), .host 0, .work (.begin 0 (plainTurn [])),
    .work (.recv 0), .work (.finish 0), .work .exit, .await, .work (.begin 0 (plainTurn [])),
    .work (.finish 0), .work (.begin 0 (plainTurn [])), .work (.finish 0)]

def exited : Program := Machine.run step (new 128) exitedOps

theorem exitedOps_fresh : Machine.Meets step Fresh (new 128) exitedOps := by
  refine ⟨trivial, ?_, trivial, trivial, trivial, trivial, trivial, trivial, trivial, trivial,
    trivial, trivial⟩
  rintro worker - i other - - ⟨⟩

theorem exited_worker : exited.supervisor.workers[0]?.isSome = true := rfl

theorem no_child_left_exited :
    (exited.supervisor.workers[0]?.get exited_worker).loop.phase ≠ .running ∧
      (ledger (exited.supervisor.workers[0]?.get exited_worker).process
        (exited.supervisor.workers[0]?.get exited_worker).first (exited.turns 0)).started =
      (ledger (exited.supervisor.workers[0]?.get exited_worker).process
        (exited.supervisor.workers[0]?.get exited_worker).first (exited.turns 0)).exited +
        (exited.supervisor.workers[0]?.get exited_worker).loop.kills :=
  no_child_left exitedOps_fresh rfl rfl (Option.some_get _).symm

end Program

end OddBox.ProcHost

import OddBox.Broadcast
import OddBox.ProcHost.EnableFlag

/-!
The commands on their way to the loops of the hosted processes: they are sent on one bounded
channel, and every loop reads them one by one in its own turns, while more are sent and the
other loops read theirs.
-/

namespace OddBox.ProcHost

open OddBox.Broadcast OddBox.Configuration OddBox.Proxy

/-! ## The loops and their channel -/

/-- Where a loop is in its turn. -/
inductive Stage where
  | between
  /-- `while let Ok(msg) = rcv.try_recv()`, with what was read so far. -/
  | reading (turn : Turn) (read : List ProcMessage)
  /-- All that comes after the commands, or instead of them. -/
  | acting (turn : Turn) (read : List ProcMessage)
  deriving DecidableEq, Repr

def Stage.read : Stage → List ProcMessage
  | .between => []
  | .reading _ read => read
  | .acting _ read => read

def Stage.isReading : Stage → Bool
  | .reading _ _ => true
  | _ => false

def Stage.isActing : Stage → Bool
  | .acting _ _ => true
  | _ => false

structure Worker where
  process : ResolvedProcess
  /-- The loop as it was started. -/
  first : ProcLoop
  loop : ProcLoop
  reader : Reader ProcMessage
  /-- What has been read in the turns that are over. -/
  heard : List ProcMessage
  stage : Stage

namespace Worker

/-- `tokio::spawn(host(process, broadcaster.subscribe(), ..))`. -/
def spawn (channel : Channel ProcMessage) (process : ResolvedProcess) (autoStart : Option Bool) :
    Worker where
  process := process
  first := initialLoop process autoStart
  loop := initialLoop process autoStart
  reader := .start channel
  heard := []
  stage := .between

def read (self : Worker) : List ProcMessage := self.heard ++ self.stage.read

/-- The loop begins a turn; the exit flag is as it is then. -/
def begin (exit : Bool) (turn : Turn) (self : Worker) : Worker :=
  match self.stage with
  | .between =>
    let turn := { turn with exit := exit }
    if self.loop.reads turn then { self with stage := .reading turn [] }
    else { self with stage := .acting turn [] }
  | _ => self

/-- One `try_recv`. The loop over the commands ends with the first result that is none, and with
a deletion of the process. -/
def recv (channel : Channel ProcMessage) (self : Worker) : Worker :=
  match self.stage with
  | .reading turn read =>
    let reader := self.reader.recv channel
    match (channel.tryRecv self.reader.position).1 with
    | .message message =>
      if deletes self.process message then
        { self with reader := reader, stage := .acting turn (read ++ [message]) }
      else { self with reader := reader, stage := .reading turn (read ++ [message]) }
    | _ => { self with reader := reader, stage := .acting turn read }
  | _ => self

/-- The rest of the turn; the exit flag is asked for again. -/
def finish (exit : Bool) (self : Worker) : Worker :=
  match self.stage with
  | .acting turn read =>
    { self with
      loop := self.loop.step self.process { turn with messages := read, exitAfter := exit }
      heard := self.heard ++ read
      stage := .between }
  | _ => self

end Worker

/-- All loops, in the order in which they were started. -/
structure Supervisor where
  channel : Channel ProcMessage
  /-- All commands that have been sent. -/
  sent : List ProcMessage
  workers : List Worker
  exit : Bool

/-- What happens next, to the channel or to the loop with an index. -/
inductive SupervisorOp where
  | send (message : ProcMessage)
  | spawn (process : ResolvedProcess) (autoStart : Option Bool)
  | begin (index : Nat) (turn : Turn)
  | recv (index : Nat)
  | finish (index : Nat)
  | exit
  deriving DecidableEq, Repr

namespace Supervisor

def new (capacity : Nat) : Supervisor := ⟨.new capacity, [], [], false⟩

def step (self : Supervisor) : SupervisorOp → Supervisor
  | .send message =>
    { self with channel := self.channel.send message, sent := self.sent ++ [message] }
  | .spawn process autoStart =>
    { self with workers := self.workers ++ [.spawn self.channel process autoStart] }
  | .begin index turn => { self with workers := self.workers.modify index (.begin self.exit turn) }
  | .recv index => { self with workers := self.workers.modify index (.recv self.channel) }
  | .finish index => { self with workers := self.workers.modify index (.finish self.exit) }
  | .exit => { self with exit := true }

/-- All that was sent since the loop was started has been read or is still to be read. -/
def Complete (sent : List ProcMessage) (worker : Worker) : Prop :=
  worker.read ++ worker.reader.pending sent = worker.reader.offered sent

/-- Whoever reads a command has no more of them before it than the channel keeps. -/
def KeepsUp (self : Supervisor) : SupervisorOp → Prop
  | .recv index => ∀ worker ∈ self.workers[index]?, worker.stage.isReading = true →
      (worker.reader.pending self.sent).length ≤ self.channel.capacity
  | _ => True

/-- What is read while a child runs does not revive an excluded process. -/
def Tame (self : Supervisor) : SupervisorOp → Prop
  | .finish index => ∀ worker ∈ self.workers[index]?, worker.stage.isActing = true →
      worker.loop.phase = .running → ¬Revives worker.process worker.stage.read
  | _ => True

end Supervisor

/-! ## What every step keeps -/

theorem Stage.isReading_iff {stage : Stage} :
    stage.isReading = true ↔ ∃ turn read, stage = .reading turn read := by
  cases stage with
  | reading turn read => exact iff_of_true rfl ⟨turn, read, rfl⟩
  | between =>
    refine iff_of_false Bool.false_ne_true ?_
    rintro ⟨turn, read, h⟩
    cases h
  | acting turn read =>
    refine iff_of_false Bool.false_ne_true ?_
    rintro ⟨turn, read, h⟩
    cases h

namespace Worker

/-- The bookkeeping of a loop: its results account for the commands, and it reads commands only
in turns that come to them. -/
structure Sound (sent : List ProcMessage) (worker : Worker) : Prop where
  follows : worker.reader.Follows sent
  read_eq : worker.read = messages worker.reader.results
  reads : ∀ turn read, worker.stage = .reading turn read ∨ worker.stage = .acting turn read →
    read ≠ [] ∨ worker.stage = .reading turn read → worker.loop.reads turn = true

section

variable {channel : Channel ProcMessage} {sent : List ProcMessage} {worker : Worker}

theorem sound_spawn (h : channel.Holds sent) (process : ResolvedProcess)
    (autoStart : Option Bool) : (spawn channel process autoStart).Sound sent where
  follows := Reader.follows_start h
  read_eq := rfl
  reads := by
    rintro turn read (h | h) <;> cases h

theorem Sound.send (h : worker.Sound sent) (message : ProcMessage) :
    worker.Sound (sent ++ [message]) :=
  ⟨h.follows.send message, h.read_eq, h.reads⟩

theorem Sound.begin (h : worker.Sound sent) (exit : Bool) (turn : Turn) :
    (worker.begin exit turn).Sound sent := by
  unfold Worker.begin
  split
  · rename_i hstage
    have hread : worker.heard ++ [] = messages worker.reader.results := by
      rw [← h.read_eq, Worker.read, hstage]
      rfl
    dsimp only
    split
    · rename_i hreads
      refine ⟨h.follows, hread, ?_⟩
      rintro turn' read' (hsame | hsame) -
      · cases hsame
        exact hreads
      · cases hsame
    · refine ⟨h.follows, hread, ?_⟩
      rintro turn' read' (hsame | hsame) hsome
      · cases hsame
      · cases hsame
        rcases hsome with hne | hother
        · exact absurd rfl hne
        · cases hother
  · exact h

theorem Sound.recv (hchannel : channel.Holds sent) (h : worker.Sound sent) :
    (worker.recv channel).Sound sent := by
  unfold Worker.recv
  split
  · rename_i turn read hstage
    have hreads := h.reads turn read (.inl hstage) (.inr hstage)
    have hread : worker.heard ++ read = messages worker.reader.results := by
      rw [← h.read_eq, Worker.read, hstage]
      rfl
    have hfollows := h.follows.recv hchannel
    dsimp only
    split
    · rename_i message hmessage
      have hnext : worker.heard ++ (read ++ [message]) =
          messages (worker.reader.recv channel).results := by
        rw [Reader.recv_message hmessage, ← hread, List.append_assoc]
      split
      · refine ⟨hfollows, hnext, ?_⟩
        rintro turn' read' (hsame | hsame) -
        · cases hsame
        · cases hsame
          exact hreads
      · refine ⟨hfollows, hnext, ?_⟩
        rintro turn' read' (hsame | hsame) -
        · cases hsame
          exact hreads
        · cases hsame
    · rename_i hother
      refine ⟨hfollows, ?_, ?_⟩
      · rw [Reader.recv_other hother, ← hread]
        rfl
      · rintro turn' read' (hsame | hsame) -
        · cases hsame
        · cases hsame
          exact hreads
  · exact h

theorem Sound.finish (h : worker.Sound sent) (exit : Bool) : (worker.finish exit).Sound sent := by
  unfold Worker.finish
  split
  · rename_i turn read hstage
    have hread : worker.heard ++ read = messages worker.reader.results := by
      rw [← h.read_eq, Worker.read, hstage]
      rfl
    refine ⟨h.follows, (List.append_nil _).trans hread, ?_⟩
    · rintro turn' read' (hsame | hsame) <;> cases hsame
  · exact h

/-- Only a read moves a loop on among the commands. -/
theorem begin_reader (exit : Bool) (turn : Turn) :
    (worker.begin exit turn).reader = worker.reader := by
  unfold Worker.begin
  split
  · dsimp only
    split <;> rfl
  · rfl

theorem finish_reader (exit : Bool) : (worker.finish exit).reader = worker.reader := by
  unfold Worker.finish
  split <;> rfl

theorem recv_reader {turn : Turn} {read : List ProcMessage}
    (hstage : worker.stage = .reading turn read) :
    (worker.recv channel).reader = worker.reader.recv channel := by
  unfold Worker.recv
  rw [hstage]
  dsimp only
  split
  · split <;> rfl
  · rfl

end

end Worker

namespace Supervisor

structure Sound (supervisor : Supervisor) : Prop where
  holds : supervisor.channel.Holds supervisor.sent
  workers : ∀ worker ∈ supervisor.workers, worker.Sound supervisor.sent

theorem sound_new (capacity : Nat) : (new capacity).Sound :=
  ⟨Channel.holds_new capacity, by intro worker hworker; cases hworker⟩

theorem Sound.step {self : Supervisor} (h : self.Sound) (op : SupervisorOp) :
    (self.step op).Sound := by
  cases op with
  | send message =>
    refine ⟨h.holds.send message, ?_⟩
    intro worker hworker
    exact (h.workers worker hworker).send message
  | spawn process autoStart =>
    refine ⟨h.holds, ?_⟩
    intro worker hworker
    rcases List.mem_append.mp hworker with hworker | hworker
    · exact h.workers worker hworker
    · rw [List.mem_singleton.mp hworker]
      exact Worker.sound_spawn h.holds process autoStart
  | begin index turn =>
    refine ⟨h.holds, forall_modify h.workers ?_⟩
    intro worker _ hworker
    exact hworker.begin self.exit turn
  | recv index =>
    refine ⟨h.holds, forall_modify h.workers ?_⟩
    intro worker _ hworker
    exact hworker.recv h.holds
  | finish index =>
    refine ⟨h.holds, forall_modify h.workers ?_⟩
    intro worker _ hworker
    exact hworker.finish self.exit
  | exit => exact ⟨h.holds, h.workers⟩

theorem sound_run (capacity : Nat) (ops : List SupervisorOp) :
    (Machine.run step (new capacity) ops).Sound :=
  Machine.run_invariant (I := Sound) (fun _ op h => Sound.step h op) (sound_new capacity) ops

/-- A loop has missed nothing exactly when its commands are complete. -/
theorem complete_iff {self : Supervisor} (h : self.Sound) {worker : Worker}
    (hworker : worker ∈ self.workers) :
    Complete self.sent worker ↔ missed worker.reader.results = 0 := by
  have hsound := h.workers worker hworker
  rw [Complete, hsound.read_eq]
  exact hsound.follows.complete_iff

/-! ## Delivery -/

/-- A step misses nothing where nothing was missed exactly when whoever reads keeps up. -/
theorem missed_step_iff {self : Supervisor} (h : self.Sound)
    (hnone : ∀ worker ∈ self.workers, missed worker.reader.results = 0) (op : SupervisorOp) :
    (∀ worker ∈ (self.step op).workers, missed worker.reader.results = 0) ↔ self.KeepsUp op := by
  cases op with
  | send message => exact iff_of_true hnone trivial
  | exit => exact iff_of_true hnone trivial
  | spawn process autoStart =>
    refine iff_of_true ?_ trivial
    intro worker hworker
    rcases List.mem_append.mp hworker with hworker | hworker
    · exact hnone worker hworker
    · rw [List.mem_singleton.mp hworker]
      rfl
  | begin index turn =>
    refine iff_of_true (forall_modify hnone ?_) trivial
    intro worker _ hworker
    rw [Worker.begin_reader]
    exact hworker
  | finish index =>
    refine iff_of_true (forall_modify hnone ?_) trivial
    intro worker _ hworker
    rw [Worker.finish_reader]
    exact hworker
  | recv index =>
    constructor
    · intro hall worker hworker hreading
      obtain ⟨turn, read, hstage⟩ := Stage.isReading_iff.mp hreading
      have hsound := h.workers worker (List.mem_of_getElem? hworker)
      have hmem : worker.recv self.channel ∈ self.workers.modify index (.recv self.channel) := by
        apply List.mem_of_getElem? (i := index)
        rw [List.getElem?_modify, hworker]
        simp
      have hmissed := hall _ hmem
      rw [Worker.recv_reader hstage] at hmissed
      exact (hsound.follows.missed_recv_iff h.holds
        (hnone worker (List.mem_of_getElem? hworker))).mp hmissed
    · intro hkeeps
      apply forall_modify hnone
      intro worker hworker hmissed
      have hsound := h.workers worker (List.mem_of_getElem? hworker)
      cases hstage : worker.stage with
      | reading turn read =>
        rw [Worker.recv_reader hstage]
        exact (hsound.follows.missed_recv_iff h.holds hmissed).mpr
          (hkeeps worker hworker (Stage.isReading_iff.mpr ⟨turn, read, hstage⟩))
      | between =>
        unfold Worker.recv
        rw [hstage]
        exact hmissed
      | acting turn read =>
        unfold Worker.recv
        rw [hstage]
        exact hmissed

/-- **Delivery**: in every order in which commands are sent and loops take their turns, every
loop has read all commands sent since it was started, each once and in that order, but for those
that are still to be read, as long as exactly the following is avoided: that a loop goes on to
read with more commands before it than the channel keeps. -/
theorem commands_delivered_iff (capacity : Nat) (ops : List SupervisorOp) :
    (∀ first, first <+: ops →
      ∀ worker ∈ (Machine.run step (new capacity) first).workers,
        Complete (Machine.run step (new capacity) first).sent worker) ↔
      Machine.Meets step KeepsUp (new capacity) ops := by
  have hmissed : (∀ first, first <+: ops →
      ∀ worker ∈ (Machine.run step (new capacity) first).workers,
        missed worker.reader.results = 0) ↔
      Machine.Meets step KeepsUp (new capacity) ops := by
    apply Machine.meets_iff (J := Sound)
      (I := fun self => ∀ worker ∈ self.workers, missed worker.reader.results = 0)
    · intro self op h
      exact h.step op
    · intro self op h hnone
      exact missed_step_iff h hnone op
    · exact sound_new capacity
    · intro worker hworker
      cases hworker
  rw [← hmissed]
  apply forall_congr'
  intro first
  apply imp_congr_right
  intro _
  apply forall_congr'
  intro worker
  apply imp_congr_right
  intro hworker
  exact complete_iff (sound_run capacity first) hworker

/-- Whatever happens, no loop reads a command twice, out of order, or from before its start. -/
theorem read_sublist (capacity : Nat) (ops : List SupervisorOp) :
    ∀ worker ∈ (Machine.run step (new capacity) ops).workers,
      (worker.read ++ worker.reader.pending (Machine.run step (new capacity) ops).sent).Sublist
        (worker.reader.offered (Machine.run step (new capacity) ops).sent) := by
  intro worker hworker
  have hsound := (sound_run capacity ops).workers worker hworker
  rw [hsound.read_eq]
  exact hsound.follows.sublist

end Supervisor

/-! ## Obedience -/

namespace Worker

/-- The enable flag is what the commands of the turns that are over make of it. -/
def Obeys (worker : Worker) : Prop :=
  Heard.Obeys worker.process worker.first ⟨worker.loop, worker.heard⟩

theorem reads_congr {loop : ProcLoop} (turn : Turn) (read : List ProcMessage) (exit : Bool) :
    loop.reads { turn with messages := read, exitAfter := exit } = loop.reads turn := rfl

/-- What the rest of a turn is given are the commands it has read. -/
theorem Sound.batch {sent : List ProcMessage} {worker : Worker} (h : worker.Sound sent)
    {turn : Turn} {read : List ProcMessage} (hstage : worker.stage = .acting turn read)
    (exit : Bool) :
    worker.loop.batch { turn with messages := read, exitAfter := exit } = read := by
  rw [ProcLoop.batch, reads_congr]
  split
  · rfl
  · rename_i hreads
    by_contra hne
    exact hreads (h.reads turn read (.inr hstage) (.inl (Ne.symm hne)))

theorem Obeys.finish {sent : List ProcMessage} {worker : Worker} (h : worker.Sound sent)
    (hchild : ChildEnabled worker.loop) (hobeys : worker.Obeys) (exit : Bool)
    (htame : worker.stage.isActing = true → worker.loop.phase = .running →
      ¬Revives worker.process worker.stage.read) :
    (worker.finish exit).Obeys := by
  unfold Worker.finish
  split
  · rename_i turn read hstage
    have hbatch := h.batch hstage exit
    have hstep := obeys_step_iff hchild hobeys { turn with messages := read, exitAfter := exit }
    unfold Heard.step at hstep
    dsimp only at hstep
    rw [hbatch] at hstep
    apply hstep.mpr
    intro _ hrunning
    rw [hstage] at htame
    dsimp only
    rw [hbatch]
    exact htame rfl hrunning
  · exact hobeys

theorem childEnabled_finish {worker : Worker} (hchild : ChildEnabled worker.loop) (exit : Bool) :
    ChildEnabled (worker.finish exit).loop := by
  unfold Worker.finish
  split
  · exact childEnabled_step _ _
  · exact hchild

/-- Between two ends of turns the loop and what it has heard stay as they are. -/
theorem begin_loop (worker : Worker) (exit : Bool) (turn : Turn) :
    (worker.begin exit turn).loop = worker.loop ∧ (worker.begin exit turn).heard = worker.heard ∧
      (worker.begin exit turn).process = worker.process ∧
      (worker.begin exit turn).first = worker.first := by
  unfold Worker.begin
  split
  · dsimp only
    split <;> exact ⟨rfl, rfl, rfl, rfl⟩
  · exact ⟨rfl, rfl, rfl, rfl⟩

theorem recv_loop (worker : Worker) (channel : Channel ProcMessage) :
    (worker.recv channel).loop = worker.loop ∧ (worker.recv channel).heard = worker.heard ∧
      (worker.recv channel).process = worker.process ∧
      (worker.recv channel).first = worker.first := by
  unfold Worker.recv
  split
  · dsimp only
    split
    · split <;> exact ⟨rfl, rfl, rfl, rfl⟩
    · exact ⟨rfl, rfl, rfl, rfl⟩
  · exact ⟨rfl, rfl, rfl, rfl⟩

/-- What is true of a loop all the time. -/
structure Governed (worker : Worker) : Prop where
  childEnabled : ChildEnabled worker.loop
  obeys : worker.Obeys

theorem Governed.of_same {worker other : Worker} (h : worker.Governed)
    (hsame : other.loop = worker.loop ∧ other.heard = worker.heard ∧
      other.process = worker.process ∧ other.first = worker.first) : other.Governed := by
  obtain ⟨hloop, hheard, hprocess, hfirst⟩ := hsame
  refine ⟨hloop ▸ h.childEnabled, ?_⟩
  have hobeys := h.obeys
  unfold Worker.Obeys at hobeys ⊢
  rw [hloop, hheard, hprocess, hfirst]
  exact hobeys

end Worker

namespace Supervisor

/-- The loops keep up, and what they read tames them. -/
def Orderly (self : Supervisor) (op : SupervisorOp) : Prop := self.KeepsUp op ∧ self.Tame op

structure Governs (supervisor : Supervisor) : Prop where
  sound : supervisor.Sound
  missed : ∀ worker ∈ supervisor.workers, missed worker.reader.results = 0
  governed : ∀ worker ∈ supervisor.workers, worker.Governed

theorem Governs.step {self : Supervisor} (h : self.Governs) {op : SupervisorOp}
    (horderly : self.Orderly op) : (self.step op).Governs := by
  refine ⟨h.sound.step op, (missed_step_iff h.sound h.missed op).mpr horderly.1, ?_⟩
  cases op with
  | send message => exact h.governed
  | exit => exact h.governed
  | spawn process autoStart =>
    intro worker hworker
    rcases List.mem_append.mp hworker with hworker | hworker
    · exact h.governed worker hworker
    · rw [List.mem_singleton.mp hworker]
      refine ⟨?_, fun _ => rfl⟩
      rintro ⟨⟩
  | begin index turn =>
    apply forall_modify h.governed
    intro worker _ hworker
    exact hworker.of_same (worker.begin_loop self.exit turn)
  | recv index =>
    apply forall_modify h.governed
    intro worker _ hworker
    exact hworker.of_same (worker.recv_loop self.channel)
  | finish index =>
    apply forall_modify h.governed
    intro worker hmem hworker
    have hsound := h.sound.workers worker (List.mem_of_getElem? hmem)
    refine ⟨Worker.childEnabled_finish hworker.childEnabled self.exit, ?_⟩
    exact hworker.obeys.finish hsound hworker.childEnabled self.exit (horderly.2 worker hmem)

theorem governs_run {capacity : Nat} {ops : List SupervisorOp}
    (horderly : Machine.Meets step Orderly (new capacity) ops) :
    (Machine.run step (new capacity) ops).Governs := by
  apply horderly.invariant (I := Governs)
  · intro self op h hop
    exact h.step hop
  · refine ⟨sound_new capacity, ?_, ?_⟩
    · intro worker hworker
      cases hworker
    · intro worker hworker
      cases hworker

/-- **Obedience**: a loop that is between two turns and has no command before it is enabled
exactly if the commands sent since it was started say so, in the order in which they were sent;
and if they do not, it has no child. -/
theorem commands_obeyed {capacity : Nat} {ops : List SupervisorOp}
    (horderly : Machine.Meets step Orderly (new capacity) ops) {worker : Worker}
    (hworker : worker ∈ (Machine.run step (new capacity) ops).workers)
    (hbetween : worker.stage = .between)
    (hcaughtUp : worker.reader.pending (Machine.run step (new capacity) ops).sent = [])
    (hkept : ∀ message ∈ worker.reader.offered (Machine.run step (new capacity) ops).sent,
      deletes worker.process message = false) :
    (worker.loop.enabled =
      (worker.reader.offered (Machine.run step (new capacity) ops).sent).foldl
        (commanded worker.process) worker.first.enabled) ∧
    (worker.loop.enabled = false → worker.loop.phase ≠ .running) := by
  have hgoverns := governs_run horderly
  have hgoverned := hgoverns.governed worker hworker
  have hcomplete := (complete_iff hgoverns.sound hworker).mpr (hgoverns.missed worker hworker)
  rw [Complete, hcaughtUp, List.append_nil, Worker.read, hbetween] at hcomplete
  have hheard : worker.heard =
      worker.reader.offered (Machine.run step (new capacity) ops).sent :=
    (List.append_nil _).symm.trans hcomplete
  constructor
  · rw [← hheard]
    apply hgoverned.obeys
    rw [hheard.symm] at hkept
    exact hkept
  · intro hdisabled hrunning
    rw [hgoverned.childEnabled hrunning] at hdisabled
    contradiction

/-- A process is started, and stopped while its child runs. -/
def stoppedOps : List SupervisorOp :=
  [.spawn (plainProcess "api.test") none, .begin 0 (plainTurn []), .recv 0, .finish 0,
    .send .stopAll, .begin 0 (plainTurn []), .recv 0, .recv 0, .finish 0]

def stopped : Supervisor := Machine.run step (new 128) stoppedOps

theorem stopped_workers : stopped.workers ≠ [] := by
  rintro ⟨⟩

/-- Only the turn that is finished with a child could have revived the process. -/
theorem stoppedOps_orderly : Machine.Meets step Orderly (new 128) stoppedOps := by
  have hplain : ∀ batch, ¬Revives (plainProcess "api.test") batch := by
    rintro batch ⟨⟨⟩, -⟩
  refine ⟨⟨trivial, trivial⟩, ⟨trivial, trivial⟩, ⟨?_, trivial⟩, ⟨trivial, ?_⟩, ⟨trivial, trivial⟩,
    ⟨trivial, trivial⟩, ⟨?_, trivial⟩, ⟨?_, trivial⟩, ⟨trivial, ?_⟩, trivial⟩
  · rintro worker ⟨⟩ -
    exact Nat.zero_le _
  · rintro worker ⟨⟩ -
    rintro ⟨⟩
  · rintro worker ⟨⟩ -
    exact Nat.le_of_ble_eq_true rfl
  · rintro worker ⟨⟩ -
    exact Nat.zero_le _
  · rintro worker ⟨⟩ - -
    exact hplain _

theorem commands_obeyed_stopped :
    ((stopped.workers.head stopped_workers).loop.enabled =
      ((stopped.workers.head stopped_workers).reader.offered stopped.sent).foldl
        (commanded (stopped.workers.head stopped_workers).process)
        (stopped.workers.head stopped_workers).first.enabled) ∧
    ((stopped.workers.head stopped_workers).loop.enabled = false →
      (stopped.workers.head stopped_workers).loop.phase ≠ .running) :=
  commands_obeyed stoppedOps_orderly (List.head_mem stopped_workers) rfl rfl
    (by
      intro message hmessage
      have hstop : message = .stopAll := List.mem_singleton.mp hmessage
      rw [hstop]
      rfl)

end Supervisor

end OddBox.ProcHost

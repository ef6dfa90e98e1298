import OddBox.ProcHost.Loop

/-!
Which loops a command reaches that names a site: all loops read it, and those that it is not
meant for have to go on as if it had not been sent.
-/

namespace OddBox.ProcHost

open OddBox.Configuration OddBox.Proxy

/-! ## Being left alone -/

/-- The site that a command names. -/
def addressed : ProcMessage → Option String
  | .start site => some site
  | .stop site => some site
  | .delete site => some site
  | .startAll => none
  | .stopAll => none

/-- Whenever the command is read, in whatever state and among whatever other commands, the loop
does what it would have done without it, then and in all that follows. -/
def Ignores (process : ResolvedProcess) (command : ProcMessage) : Prop :=
  ∀ (loop : ProcLoop) (first rest : List Turn) (turn : Turn) (before after : List ProcMessage),
    turn.messages = before ++ after →
    Machine.run (ProcLoop.step process) loop
        (first ++ { turn with messages := before ++ command :: after } :: rest) =
      Machine.run (ProcLoop.step process) loop (first ++ turn :: rest)

/-! ## The interpreters -/

section

variable {process : ResolvedProcess} {site : String} {command : ProcMessage}

theorem acceptableNames_contains :
    (acceptableNames process).contains site = true ↔
      site = process.hostName ∨ site = firstLabel process.hostName := by
  simp [acceptableNames]

theorem isForMe_iff (hall : site ≠ "all") :
    isForMe process site = true ↔ site = process.hostName ∨ site = firstLabel process.hostName := by
  rw [← acceptableNames_contains]
  simp [isForMe, hall]

/-- Under another name a command changes nothing, in both interpreters. -/
theorem interpret_other (haddressed : addressed command = some site) (hall : site ≠ "all")
    (hname : site ≠ process.hostName) (hlabel : site ≠ firstLabel process.hostName)
    (enabled : Bool) :
    interpretIdle process enabled command = .told enabled ∧
      interpretRunning process enabled command = .told enabled := by
  have hother : ¬(site = process.hostName ∨ site = firstLabel process.hostName) := by
    rintro (h | h)
    · exact hname h
    · exact hlabel h
  have hnotMine : ¬isForMe process site = true := by
    rw [isForMe_iff hall]
    exact hother
  have hnotAccepted : ¬(acceptableNames process).contains site = true := by
    rw [acceptableNames_contains]
    exact hother
  cases command with
  | startAll => contradiction
  | stopAll => contradiction
  | start named =>
    cases haddressed
    unfold interpretIdle interpretRunning
    dsimp only
    rw [if_neg hnotMine, ite_self]
    exact ⟨rfl, rfl⟩
  | stop named =>
    cases haddressed
    unfold interpretIdle interpretRunning
    dsimp only
    rw [if_neg hnotMine]
    exact ⟨rfl, rfl⟩
  | delete named =>
    cases haddressed
    unfold interpretIdle interpretRunning
    dsimp only
    rw [if_neg hnotAccepted]
    exact ⟨rfl, rfl⟩

/-- A command without effect can be left out. -/
theorem drain_skip {interpret : Bool → ProcMessage → Received}
    (hskip : ∀ enabled, interpret enabled command = .told enabled) (enabled : Bool)
    (before after : List ProcMessage) :
    drain interpret enabled (before ++ command :: after) =
      drain interpret enabled (before ++ after) := by
  induction before generalizing enabled with
  | nil =>
    rw [List.nil_append, List.nil_append, drain, hskip]
  | cons message before ih =>
    rw [List.cons_append, List.cons_append, drain, drain]
    cases interpret enabled message with
    | deleted site => rfl
    | told enabled => exact ih enabled

theorem drain_singleton (interpret : Bool → ProcMessage → Received) (enabled : Bool) :
    drain interpret enabled [command] = interpret enabled command := by
  rw [drain]
  cases interpret enabled command with
  | deleted site => rfl
  | told enabled => rfl

/-! ## The loop -/

/-- A turn reads its messages through the interpreter of its phase only. -/
theorem step_skip (hidle : ∀ enabled, interpretIdle process enabled command = .told enabled)
    (hrunning : ∀ enabled, interpretRunning process enabled command = .told enabled)
    (loop : ProcLoop) {turn : Turn} {before after : List ProcMessage}
    (hturn : turn.messages = before ++ after) :
    loop.step process { turn with messages := before ++ command :: after } =
      loop.step process turn := by
  unfold ProcLoop.step
  cases loop.phase with
  | idle =>
    dsimp only
    unfold ProcLoop.idleTurn
    dsimp only
    rw [drain_skip hidle, ← hturn]
    rfl
  | running =>
    dsimp only
    unfold ProcLoop.runningTurn
    dsimp only
    rw [drain_skip hrunning, ← hturn]
    rfl
  | left => rfl

theorem Ignores.of_interpret
    (hidle : ∀ enabled, interpretIdle process enabled command = .told enabled)
    (hrunning : ∀ enabled, interpretRunning process enabled command = .told enabled) :
    Ignores process command := by
  intro loop first rest turn before after hturn
  rw [Machine.run_append, Machine.run_append, Machine.run_cons, Machine.run_cons,
    step_skip hidle hrunning _ hturn]

/-! ## Whom a command reaches -/

/-- Nothing is marked, and there is no port to start the process on. -/
def portlessTurn (messages : List ProcMessage) : Turn where
  markedForRemoval := false
  exit := false
  messages := messages
  portFound := false
  binFound := false
  spawned := false
  childExited := false
  replaced := false
  exitAfter := false

theorem portless_told {enabled after : Bool} {messages : List ProcMessage}
    (h : drain (interpretIdle process) enabled messages = .told after) :
    ((⟨enabled, .idle, []⟩ : ProcLoop).step process (portlessTurn messages)).enabled = after ∧
      ((⟨enabled, .idle, []⟩ : ProcLoop).step process (portlessTurn messages)).phase = .idle := by
  unfold ProcLoop.step ProcLoop.idleTurn portlessTurn ProcLoop.did
  dsimp only
  rw [if_neg Bool.false_ne_true, if_neg Bool.false_ne_true, h]
  dsimp only
  split_ifs with hafter
  · exact ⟨rfl, rfl⟩
  · exact ⟨rfl, rfl⟩
  · exact ⟨rfl, rfl⟩

theorem portless_deleted {enabled : Bool} {messages : List ProcMessage}
    (h : drain (interpretIdle process) enabled messages = .deleted site) :
    ((⟨enabled, .idle, []⟩ : ProcLoop).step process (portlessTurn messages)).phase = .left := by
  unfold ProcLoop.step ProcLoop.idleTurn portlessTurn ProcLoop.did
  dsimp only
  rw [if_neg Bool.false_ne_true, if_neg Bool.false_ne_true, h]
  rfl

/-- Under one of its names a command is not ignored: the idle loop is enabled, disabled or left. -/
theorem not_ignores (haddressed : addressed command = some site) (hall : site ≠ "all")
    (hmine : site = process.hostName ∨ site = firstLabel process.hostName) :
    ¬Ignores process command := by
  have haccepted : (acceptableNames process).contains site = true :=
    acceptableNames_contains.mpr hmine
  have hforMe : isForMe process site = true := (isForMe_iff hall).mpr hmine
  intro hignores
  have hsame : ∀ enabled,
      (⟨enabled, .idle, []⟩ : ProcLoop).step process (portlessTurn [command]) =
        (⟨enabled, .idle, []⟩ : ProcLoop).step process (portlessTurn []) :=
    fun enabled => hignores ⟨enabled, .idle, []⟩ [] [] (portlessTurn []) [] [] rfl
  have hwithout : ∀ enabled, drain (interpretIdle process) enabled [] = .told enabled :=
    fun _ => rfl
  cases command with
  | startAll => contradiction
  | stopAll => contradiction
  | start named =>
    cases haddressed
    have hstarted : drain (interpretIdle process) false [.start site] = .told true := by
      rw [drain_singleton]
      unfold interpretIdle
      dsimp only
      rw [beq_false_of_ne hall, Bool.and_false, if_neg Bool.false_ne_true, if_pos hforMe]
    have henabled := (portless_told hstarted).1
    rw [hsame, (portless_told (hwithout false)).1] at henabled
    contradiction
  | stop named =>
    cases haddressed
    have hstopped : drain (interpretIdle process) true [.stop site] = .told false := by
      rw [drain_singleton]
      unfold interpretIdle
      exact if_pos hforMe
    have henabled := (portless_told hstopped).1
    rw [hsame, (portless_told (hwithout true)).1] at henabled
    contradiction
  | delete named =>
    cases haddressed
    have hdeleted : drain (interpretIdle process) true [.delete site] = .deleted site := by
      rw [drain_singleton]
      unfold interpretIdle
      exact if_pos haccepted
    have hphase := portless_deleted hdeleted
    rw [hsame, (portless_told (hwithout true)).2] at hphase
    contradiction

/-- **Addressing**: a loop goes on as if a command for a site had not been sent exactly where
the site is neither the host name of its process nor the first label of that name. -/
theorem ignores_iff (haddressed : addressed command = some site) (hall : site ≠ "all") :
    Ignores process command ↔
      site ≠ process.hostName ∧ site ≠ firstLabel process.hostName := by
  constructor
  · intro hignores
    constructor
    · intro hname
      exact not_ignores haddressed hall (.inl hname) hignores
    · intro hlabel
      exact not_ignores haddressed hall (.inr hlabel) hignores
  · rintro ⟨hname, hlabel⟩
    apply Ignores.of_interpret
    · intro enabled
      exact (interpret_other haddressed hall hname hlabel enabled).1
    · intro enabled
      exact (interpret_other haddressed hall hname hlabel enabled).2

end

/-! ## Two processes of one label -/

def plainProcess (hostName : String) : ResolvedProcess where
  procId := ⟨hostName⟩
  port := none
  hostName := hostName
  envVars := none
  activePort := none
  excludedFromStartAll := false
  terminateTls := none
  hints := none
  dir := none
  bin := "server"
  args := none
  logFormat := none
  logLevel := none
  autoStart := none
  https := none
  captureSubdomains := none
  forwardSubdomains := none

/-- Nothing but the loop of the site itself takes notice of a command for it. -/
def ReachesOnly (processes : List ResolvedProcess) (command : ProcMessage) (site : String) : Prop :=
  ∀ process ∈ processes, process.hostName ≠ site → Ignores process command

theorem otherLabel_ignores : Ignores (plainProcess "web.example.com") (.delete "api") :=
  (ignores_iff rfl (by decide)).mpr ⟨by decide, by decide⟩

/-- The deletion of one process ends the loop of another, whose host name begins with it. -/
theorem sameLabel_reached :
    ([plainProcess "api", plainProcess "api.example.com"].map (·.hostName)).Nodup ∧
      (ProcLoop.step (plainProcess "api.example.com") ⟨true, .running, []⟩
          { portlessTurn [.delete "api"] with portFound := true }).done =
        [.status .running, .removeStatus, .quit, .kill, .acknowledge "api"] ∧
      ¬ReachesOnly [plainProcess "api", plainProcess "api.example.com"] (.delete "api") "api" := by
  refine ⟨by decide, by decide, ?_⟩
  intro hreaches
  have hignores := hreaches (plainProcess "api.example.com") (by simp) (by decide)
  exact not_ignores rfl (by decide) (.inr (by decide)) hignores

end OddBox.ProcHost

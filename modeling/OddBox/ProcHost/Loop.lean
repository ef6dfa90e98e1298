import OddBox.Machine
import OddBox.Proxy.Admission

/-!
The loop of a hosted process (`host`): it reads the commands that are broadcast while it is
idle and while its child runs, and starts and stops the child. What it finds on its way (the
marks, the exit flag, the messages, how the child does) is an input of each turn.
-/

namespace OddBox.ProcHost

open OddBox.Configuration OddBox.Proxy

/-! ## Commands -/

/-- The part of a host name before its first dot. -/
def firstLabel (hostName : String) : String := String.ofList (hostName.toList.takeWhile (· ≠ '.'))

def acceptableNames (process : ResolvedProcess) : List String :=
  [process.hostName, firstLabel process.hostName]

/-- What a command comes to: the loop is left, or goes on enabled or not. -/
inductive Received where
  | deleted (site : String)
  | told (enabled : Bool)
  deriving DecidableEq, Repr

section

variable (process : ResolvedProcess) (enabled : Bool)

def isForMe (site : String) : Bool := site == "all" || (acceptableNames process).contains site

/-- The interpreter of the idle loop. -/
def interpretIdle : ProcMessage → Received
  | .startAll => if process.excludedFromStartAll then .told enabled else .told true
  | .start site =>
    if process.excludedFromStartAll && site == "all" then .told enabled
    else if isForMe process site then .told true
    else .told enabled
  | .delete site =>
    if (acceptableNames process).contains site then .deleted site else .told enabled
  | .stopAll => .told false
  | .stop site => if isForMe process site then .told false else .told enabled

/-- The interpreter of the loop around the child, which does not ask for the exclusion. -/
def interpretRunning : ProcMessage → Received
  | .delete site =>
    if (acceptableNames process).contains site then .deleted site else .told enabled
  | .startAll => .told true
  | .stopAll => .told false
  | .start site => if isForMe process site then .told true else .told enabled
  | .stop site => if isForMe process site then .told false else .told enabled

/-- The messages that have come since the last turn; those after a deletion are not read. -/
def drain (interpret : Bool → ProcMessage → Received) : Bool → List ProcMessage → Received
  | enabled, [] => .told enabled
  | enabled, message :: messages =>
    match interpret enabled message with
    | .deleted site => .deleted site
    | .told enabled => drain interpret enabled messages

end

/-! ## Turns -/

inductive Phase where
  | idle
  /-- The child has been started and not been waited for. -/
  | running
  | left
  deriving DecidableEq, Repr

inductive LoopEffect where
  | status (state : ProcState)
  | removeStatus
  /-- The letter `q` on the input of the child. -/
  | quit
  | kill
  | acknowledge (site : String)
  deriving DecidableEq, Repr

/-- A loop, with all that it has done so far. -/
structure ProcLoop where
  enabled : Bool
  phase : Phase
  done : List LoopEffect
  deriving DecidableEq, Repr

/-- What a turn of the loop finds. -/
structure Turn where
  markedForRemoval : Bool
  exit : Bool
  messages : List ProcMessage
  portFound : Bool
  binFound : Bool
  spawned : Bool
  childExited : Bool
  /-- The configuration has another process under the host name. -/
  replaced : Bool
  /-- The exit flag when it is asked for again at the end. -/
  exitAfter : Bool
  deriving DecidableEq, Repr

/-- The loop of a process starts idle; where the process does not say whether it is started,
the configuration does. -/
def initialLoop (process : ResolvedProcess) (autoStart : Option Bool) : ProcLoop where
  enabled := process.autoStart.getD (autoStart.getD true)
  phase := .idle
  done := []

namespace ProcLoop

def did (self : ProcLoop) (effects : List LoopEffect) : ProcLoop :=
  { self with done := self.done ++ effects }

def go (self : ProcLoop) (phase : Phase) : ProcLoop := { self with phase := phase }

/-- The end of a turn after the child: an enabled process is started again. -/
def finish (self : ProcLoop) (turn : Turn) : ProcLoop :=
  if self.enabled then
    if turn.exitAfter then self.go .left else (self.did [.status .faulty]).go .idle
  else self.go .idle

/-- After the commands an enabled process is started. -/
def launch (self : ProcLoop) (turn : Turn) : ProcLoop :=
  if !turn.portFound then self.go .idle
  else if !turn.binFound then (self.did [.status .faulty]).go .idle
  else if turn.spawned then (self.did [.status .starting]).go .running
  else (self.did [.status .starting, .status .faulty]).finish turn

def idleTurn (process : ResolvedProcess) (self : ProcLoop) (turn : Turn) : ProcLoop :=
  if turn.markedForRemoval then (self.did [.removeStatus]).go .left
  else if turn.exit then (self.did [.status .stopped]).go .left
  else
    let self := self.did [.status .stopped]
    match drain (interpretIdle process) self.enabled turn.messages with
    | .deleted site => (self.did [.removeStatus, .acknowledge site]).go .left
    | .told enabled =>
      if enabled then { self with enabled := enabled }.launch turn
      else if self.enabled then
        ({ self with enabled := enabled }.did [.status .stopped]).go .idle
      else { self with enabled := enabled }.go .idle

/-- The child is stopped, and the loop around it is left. -/
def stopChild (self : ProcLoop) (turn : Turn) (effects : List LoopEffect) : ProcLoop :=
  (self.did (.status .stopping :: effects ++ [.kill, .status .stopped])).finish turn

def runningTurn (process : ResolvedProcess) (self : ProcLoop) (turn : Turn) : ProcLoop :=
  if turn.childExited then (self.did [.status .stopped]).finish turn
  else if turn.exit then self.stopChild turn []
  else if turn.replaced then self.stopChild turn []
  else
    let self := self.did [.status .running]
    match drain (interpretRunning process) self.enabled turn.messages with
    | .deleted site => (self.did [.removeStatus, .quit, .kill, .acknowledge site]).go .left
    | .told enabled =>
      let self := { self with enabled := enabled }
      if turn.markedForRemoval then (self.did [.status .stopping, .quit, .kill]).go .left
      else if enabled then self.go .running
      else self.stopChild turn [.quit]

/-- One turn of the loop, or of the loop around the child. -/
def step (process : ResolvedProcess) (self : ProcLoop) (turn : Turn) : ProcLoop :=
  match self.phase with
  | .idle => self.idleTurn process turn
  | .running => self.runningTurn process turn
  | .left => self

end ProcLoop

end OddBox.ProcHost

import OddBox.Api.Installation
import OddBox.Configuration.ChangeDetection

/-!
The monitor of the configuration file: changes of the file are told as events, which wait until
the monitor takes them, one after the other. Nothing but an event makes the program read the
file again, so a change is only followed if its event is.
-/

namespace OddBox.Api

open OddBox.Configuration

/-- A `notify::EventKind`, as far as `config_file_monitor` tells them apart. -/
inductive EventKind where
  /-- `Modify(Data)`. -/
  | modifyData
  | remove
  | other
  deriving DecidableEq, Repr

/-- Where the monitor is in its loop. -/
inductive Phase where
  | waiting
  /-- In a reload, before it reads the file. -/
  | sleeping
  /-- In a reload that has read the text. -/
  | holding (text : String)

/-- The program and its file, with the events that wait; an event can be an error. -/
structure Monitored where
  installation : Installation
  events : List (Option EventKind)
  phase : Phase

/-- The requests that can write the file. -/
inductive WritingRequest where
  | update (outside : Outside) (req : HttpRequest)
  | delete (outside : Outside) (req : HttpRequest)
  | settings (outside : Outside) (req : HttpRequest)

def WritingRequest.change : WritingRequest → Change
  | .update outside req => .update outside req
  | .delete outside req => .delete outside req
  | .settings outside req => .settings outside req

inductive MonitorOp where
  /-- A request, and the events that come of its writing. -/
  | request (request : WritingRequest) (notified : List (Option EventKind))
  /-- Somebody else writes the file. -/
  | edit (text : String) (notified : List (Option EventKind))
  /-- The monitor takes an event. -/
  | poll
  /-- The reload reads the file. -/
  | read
  /-- The reload makes what it makes of the text, among the loops of the hosted processes. -/
  | finish (before after : Environment) (isRunning : ProcInfo → Bool) (loops : List ProcInfo)

namespace Monitored

def step (self : Monitored) : MonitorOp → Monitored
  | .request request notified =>
    { self with
      installation := self.installation.step request.change
      events := self.events ++ notified }
  | .edit text notified =>
    { self with
      installation := { self.installation with disk := text }
      events := self.events ++ notified }
  | .poll =>
    match self.phase, self.events with
    | .waiting, event :: events =>
      { self with
        events := events
        phase := if event = some .modifyData then .sleeping else .waiting }
    | _, _ => self
  | .read =>
    match self.phase with
    | .sleeping => { self with phase := .holding self.installation.disk }
    | _ => self
  | .finish before after isRunning loops =>
    match self.phase with
    | .holding text =>
      { self with
        installation := { { self.installation with disk := text }.reload before after isRunning
          loops with disk := self.installation.disk }
        phase := .waiting }
    | _ => self

/-- A step that changes the text of the file is told as one that modifies its data, and the
file is always read by the same crate. -/
def Regular (toml : TomlCrate) (self : Monitored) : MonitorOp → Prop
  | .request request notified =>
    (self.installation.step request.change).disk ≠ self.installation.disk →
      some .modifyData ∈ notified
  | .edit text notified => text ≠ self.installation.disk → some .modifyData ∈ notified
  | .poll => True
  | .read => True
  | .finish before _ _ _ => before.toml = toml

end Monitored

/-! ## A reload -/

def reading (environment : Environment) (text : String) : Environment :=
  { environment with readFile := fun _ => .ok text }

/-- A reload of the text has made it the running configuration, or found that it counts as
equal to that. -/
inductive Accepted (toml : TomlCrate) (text : String) (config : OddBoxV3Config) : Prop where
  | adopted {before : Environment} {program : Program} {new : ConfigWrapper}
    (htoml : before.toml = toml)
    (hread : readNewConfiguration (reading before text) program.config = .ok new)
    (hadopted : config = (program.compared (reading before text) new).internalConfiguration)
  | unchanged {before : Environment} {active new : ConfigWrapper}
    (htoml : before.toml = toml)
    (hread : readNewConfiguration (reading before text) active = .ok new)
    (hsame : new.internalConfiguration.eq config = true)

/-- A reload of the text by a program with this configuration has failed. -/
def Refused (toml : TomlCrate) (text : String) (config : OddBoxV3Config) : Prop :=
  ∃ (before after : Environment) (isRunning : ProcInfo → Bool) (program : Program),
    before.toml = toml ∧ program.config.internalConfiguration = config ∧
    (program.reloadFromDisk (reading before text) after isRunning).1 ≠ .reloaded ∧
    (program.reloadFromDisk (reading before text) after isRunning).1 ≠ .unchanged

/-- What the program has made of the text: all that it ever makes of it. -/
def Follows (toml : TomlCrate) (text : String) (config : OddBoxV3Config) : Prop :=
  Accepted toml text config ∨ Refused toml text config

/-- A reload takes the new configuration as it was compared, or leaves the running one. -/
theorem reloadFromDisk_cases (before after : Environment) (isRunning : ProcInfo → Bool)
    (program : Program) :
    (∃ new, readNewConfiguration before program.config = .ok new ∧
      (program.reloadFromDisk before after isRunning).2.config = program.compared before new) ∨
    (∃ new, readNewConfiguration before program.config = .ok new ∧
      new.internalConfiguration.eq program.config.internalConfiguration = true ∧
      (program.reloadFromDisk before after isRunning).2.config = program.config) ∨
    (program.reloadFromDisk before after isRunning).1 ≠ .reloaded ∧
      (program.reloadFromDisk before after isRunning).1 ≠ .unchanged ∧
      (program.reloadFromDisk before after isRunning).2.config = program.config := by
  unfold Program.reloadFromDisk
  cases hread : readNewConfiguration before program.config with
  | error failure =>
    cases failure with
    | error text => exact .inr (.inr ⟨nofun, nofun, rfl⟩)
    | panicked text => exact .inr (.inr ⟨nofun, nofun, rfl⟩)
  | ok new =>
    dsimp only
    split
    · next hsame => exact .inr (.inl ⟨new, rfl, hsame, rfl⟩)
    · unfold Program.adopt
      split
      · exact .inr (.inr ⟨nofun, nofun, rfl⟩)
      · dsimp only
        split
        · exact .inr (.inr ⟨nofun, nofun, rfl⟩)
        · exact .inl ⟨new, rfl, rfl⟩

namespace Installation

variable {self : Installation}

theorem reload_config (before after : Environment) (isRunning : ProcInfo → Bool)
    (loops : List ProcInfo) :
    (self.reload before after isRunning loops).config =
      ((self.program loops).reloadFromDisk (reading before self.disk) after
        isRunning).2.config.internalConfiguration := by
  unfold reload config
  dsimp only
  split
  · rfl
  · rfl

theorem follows_reload {toml : TomlCrate} {before : Environment} (htoml : before.toml = toml)
    (after : Environment) (isRunning : ProcInfo → Bool) (loops : List ProcInfo) :
    Follows toml self.disk (self.reload before after isRunning loops).config := by
  rw [reload_config]
  rcases reloadFromDisk_cases (reading before self.disk) after isRunning (self.program loops) with
    ⟨new, hread, hconfig⟩ | ⟨new, hread, hsame, hconfig⟩ | ⟨hreloaded, hunchanged, hconfig⟩
  · rw [hconfig]
    exact .inl (.adopted htoml hread rfl)
  · rw [hconfig]
    exact .inl (.unchanged htoml hread hsame)
  · rw [hconfig]
    exact .inr ⟨before, after, isRunning, _, htoml, rfl, hreloaded, hunchanged⟩

/-- The running configuration is left to the reload. -/
theorem step_config (self : Installation) (request : WritingRequest) :
    (self.step request.change).config = self.config := by
  cases request with
  | update outside req => exact updateHandler_config
  | delete outside req => exact deleteHandler_config
  | settings outside req =>
    change (setSettingsHandler outside self.app req).app.global.config = self.config
    rw [setSettingsHandler_app]
    rfl

end Installation

/-! ## The run -/

namespace Monitored

/-- A reload of the text of the file is to come, under way or done. -/
def Synced (toml : TomlCrate) (self : Monitored) : Prop :=
  some .modifyData ∈ self.events ∨ self.phase = .sleeping ∨
    self.phase = .holding self.installation.disk ∨
    self.phase = .waiting ∧ Follows toml self.installation.disk self.installation.config

variable {toml : TomlCrate} {self : Monitored}

/-- A step that leaves the monitor alone, and the file or no event. -/
theorem Synced.moved (h : self.Synced toml) {after : Monitored}
    {notified : List (Option EventKind)} (hevents : after.events = self.events ++ notified)
    (hphase : after.phase = self.phase)
    (hconfig : after.installation.config = self.installation.config)
    (hregular : after.installation.disk ≠ self.installation.disk →
      some .modifyData ∈ notified) : after.Synced toml := by
  by_cases hdisk : after.installation.disk = self.installation.disk
  · rw [Synced, hevents, hphase, hconfig, hdisk]
    exact h.imp_left (List.mem_append_left _)
  · left
    rw [hevents]
    exact List.mem_append_right _ (hregular hdisk)

theorem Synced.poll (h : self.Synced toml) : (self.step .poll).Synced toml := by
  rw [step]
  split
  · next event events hphase hevents =>
    rw [Synced, hevents, hphase] at h
    by_cases hevent : event = some .modifyData
    · right; left
      exact if_pos hevent
    · rw [Synced, if_neg hevent]
      refine h.imp ?_ id
      intro hpending
      exact (List.mem_cons.mp hpending).resolve_left fun hsame => hevent hsame.symm
  · exact h

theorem Synced.finish (h : self.Synced toml) {before : Environment} (htoml : before.toml = toml)
    (after : Environment) (isRunning : ProcInfo → Bool) (loops : List ProcInfo) :
    (self.step (.finish before after isRunning loops)).Synced toml := by
  rw [step]
  split
  · next text hphase =>
    rw [Synced, hphase] at h
    rcases h with hpending | hsleeping | hholding | ⟨hwaiting, -⟩
    · exact .inl hpending
    · cases hsleeping
    · cases hholding
      right; right; right
      refine ⟨rfl, ?_⟩
      change Follows toml self.installation.disk
        (self.installation.reload before after isRunning loops).config
      exact Installation.follows_reload htoml after isRunning loops
    · cases hwaiting
  · exact h

theorem Synced.step (h : self.Synced toml) {op : MonitorOp} (hregular : self.Regular toml op) :
    (self.step op).Synced toml := by
  cases op with
  | request request notified =>
    exact h.moved rfl rfl (self.installation.step_config request) hregular
  | edit text notified => exact h.moved rfl rfl rfl hregular
  | poll => exact h.poll
  | read =>
    rw [Monitored.step]
    split
    · exact .inr (.inr (.inl rfl))
    · exact h
  | finish before after isRunning loops => exact h.finish hregular after isRunning loops

end Monitored

end OddBox.Api

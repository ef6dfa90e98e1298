import OddBox.Api.LostUpdates

/-!
`delete_handler` and the three stores of a site: its status, the running configuration and the
file. The first is changed before the file is written, and none is put back.
-/

namespace OddBox.Api

open OddBox.Configuration

/-! ## The handler -/

/-- The running program and the text of its configuration file. -/
structure Stores where
  program : Program
  disk : String

/-- A reload that ends while the handler waits. It has the text of the file, or one that it read
before. -/
structure EndingReload where
  read : Option String
  before : Environment
  after : Environment
  isRunning : ProcInfo → Bool

inductive SitesError where
  /-- `write_to_disk` fails. -/
  | notWritten
  /-- "Failed to update configuration" -/
  | notUpdated
  deriving DecidableEq

namespace Stores

def config (self : Stores) : OddBoxV3Config := self.program.config.internalConfiguration

def version (self : Stores) : Nat := self.program.config.internalVersion

def reload (self : Stores) (reload : EndingReload) : Stores :=
  let before := { reload.before with readFile := fun _ => .ok (reload.read.getD self.disk) }
  { self with program := (self.program.reloadFromDisk before reload.after reload.isRunning).2 }

/-- One sleep of the handler. -/
def sleep (self : Stores) : Option EndingReload → Stores
  | some ending => self.reload ending
  | none => self

/-- The stores after that many sleeps. -/
def slept (self : Stores) (reloads : Nat → Option EndingReload) : Nat → Stores
  | 0 => self
  | n + 1 => (self.slept reloads n).sleep (reloads n)

def withoutStatus (self : Stores) (hostname : String) : Stores :=
  { self with
    program := { self.program with
      siteStatusMap := Function.update self.program.siteStatusMap hostname none } }

end Stores

section Handler

variable (outside : Outside) (reloads : Nat → Option EndingReload) (hostname : String)

/-- The handler looks for a newer configuration than the one that it has read, that many times
from the given round on. -/
def awaitNewer (version : Nat) : Nat → Nat → Stores → Except SitesError Unit × Stores
  | 0, _, stores => (.error .notUpdated, stores)
  | checks + 1, i, stores =>
    if version < stores.version then (.ok (), stores)
    else awaitNewer version checks (i + 1) (stores.sleep (reloads i))

def deleteSite (stores : Stores) : Except SitesError Unit × Stores :=
  if hostname ∈ stores.config.hostNames then
    match writeToDisk outside (withoutSite stores.config hostname) with
    | some (path, text) =>
      if outside.writes path text then
        awaitNewer reloads stores.version 1001 0 { stores.withoutStatus hostname with disk := text }
      else (.error .notWritten, stores.withoutStatus hostname)
    | none => (.error .notWritten, stores.withoutStatus hostname)
  else (.ok (), stores)

/-- The text without the site. -/
def textWithout (stores : Stores) : String :=
  (withoutSite stores.config hostname).toString outside.printable

/-- The stores from which the handler waits. -/
def deleting (stores : Stores) : Stores :=
  { stores.withoutStatus hostname with disk := textWithout outside hostname stores }

theorem deleting_disk (stores : Stores) :
    (deleting outside hostname stores).disk = textWithout outside hostname stores := by
  simp only [deleting]

/-- What the handler writes, and the status that it removes, are those of `delete_handler`. -/
theorem deleteHandler_deleting {app : AppState} {req : HttpRequest} {stores : Stores}
    (hhostname : req.hostnames outside = [hostname])
    (hknown : hostname ∈ stores.config.hostNames) (hconfig : app.global.config = stores.config)
    (hstatuses : app.siteStatusMap = stores.program.siteStatusMap) :
    (deleteHandler outside app req).written =
        stores.config.path.map (fun path => (path, (deleting outside hostname stores).disk)) ∧
      (deleteHandler outside app req).app.siteStatusMap =
        (deleting outside hostname stores).program.siteStatusMap := by
  have hname : hostname ∈ app.global.config.hostNames := by rwa [hconfig]
  have hskips : (Edit.delete hostname).skips app.global.config = false := by
    simpa [Edit.skips] using hname
  constructor
  · rw [deleteHandler_written outside app req hhostname, hskips, if_neg Bool.false_ne_true,
      Edit.apply, hconfig, writeToDisk]
    simp only [deleting, textWithout, withoutSite]
  · rw [deleteHandler, hhostname]
    dsimp only
    rw [if_pos hname]
    dsimp only
    split <;> exact congrArg (Function.update · hostname none) hstatuses

/-- A newer configuration is there after that many sleeps, and was not there before. -/
def Adopted (version : Nat) (stores : Stores) (n : Nat) : Prop :=
  version < (stores.slept reloads n).version ∧
    ∀ m < n, (stores.slept reloads m).version ≤ version

/-- A reload that does not end well keeps the configuration. -/
theorem config_of_not_reloaded {before ending : Environment} {isRunning : ProcInfo → Bool}
    {program : Program} (h : (program.reloadFromDisk before ending isRunning).1 ≠ .reloaded) :
    (program.reloadFromDisk before ending isRunning).2.config = program.config := by
  unfold Program.reloadFromDisk at h ⊢
  rcases hread : readNewConfiguration before program.config with (text | text) | new
  · rfl
  · rfl
  · rw [hread] at h
    dsimp only at h ⊢
    split_ifs at h ⊢ with heq
    · rfl
    · unfold Program.adopt at h ⊢
      split_ifs at h ⊢ with habort
      · rfl
      · dsimp only at h ⊢
        split at h
        · rfl
        · exact absurd rfl h

/-- What a reload has adopted was read, and what it has read tells the statuses. -/
theorem reload_adopts {stores : Stores} {ending : EndingReload}
    (h : (stores.reload ending).program.config ≠ stores.program.config) :
    ∃ new, readNewConfiguration
        { ending.before with readFile := fun _ => .ok (ending.read.getD stores.disk) }
        stores.program.config = .ok new ∧
      (stores.reload ending).version = stores.version + 1 ∧
      (stores.reload ending).config.hostNames = new.internalConfiguration.hostNames ∧
      ∀ hostname state, (stores.reload ending).program.siteStatusMap hostname = some state →
        StatusKept new.internalConfiguration hostname state := by
  have hreloaded := not_imp_comm.mp config_of_not_reloaded h
  obtain ⟨new, hread, -, hadopt⟩ := reloadFromDisk_reloaded hreloaded
  rw [hadopt] at hreloaded
  obtain ⟨hconfig, hstatuses⟩ := adopt_reloaded hreloaded
  obtain ⟨_, _, _, _, _, _, _, -, -, -, -, -, hnew⟩ := readNewConfiguration_built hread
  refine ⟨new, hread, ?_, ?_, fun hostname state hstate => ?_⟩
  · rw [Stores.version, Stores.reload]
    dsimp only
    rw [hadopt, hconfig, hnew]
    rfl
  · rw [Stores.config, Stores.reload]
    dsimp only
    rw [hadopt, hconfig, hostNames_compared]
  · rw [Stores.reload] at hstate
    dsimp only at hstate
    rw [hadopt, hstatuses] at hstate
    exact newStatuses_kept hstate

variable {outside reloads hostname} {stores : Stores}

/-- It is a reload that has adopted it. -/
theorem adopted_by {version n : Nat} (hversion : stores.version ≤ version)
    (h : Adopted reloads version stores n) :
    ∃ m ending, reloads m = some ending ∧
      stores.slept reloads n = (stores.slept reloads m).reload ending ∧
      ((stores.slept reloads m).reload ending).program.config ≠
        (stores.slept reloads m).program.config := by
  obtain ⟨hnewer, hbefore⟩ := h
  cases n with
  | zero => exact absurd hnewer hversion.not_gt
  | succ n =>
      have hold := hbefore n (Nat.lt_succ_self n)
      rw [Stores.slept] at hnewer
      cases hending : reloads n with
      | none =>
          rw [hending] at hnewer
          exact absurd hnewer hold.not_gt
      | some ending =>
          rw [hending] at hnewer
          refine ⟨n, ending, hending, ?_, fun hsame => ?_⟩
          · rw [Stores.slept, hending]
            rfl
          · exact (hold.trans_lt hnewer).ne' (congrArg ConfigWrapper.internalVersion hsame)

theorem slept_disk (n : Nat) : (stores.slept reloads n).disk = stores.disk := by
  induction n with
  | zero => rfl
  | succ n ih =>
      rw [Stores.slept, ← ih]
      cases reloads n <;> rfl

/-- What is read from the file that the handler has written is without the site. -/
theorem adopted_without {toml : TomlCrate} (htoml : toml.ReadsToml)
    (hwritable : Writable outside.printable (withoutSite stores.config hostname))
    (hreloads : ∀ n ending, reloads n = some ending →
      ending.read = none ∧ ending.before.toml = toml)
    {n : Nat} (h : Adopted reloads stores.version (deleting outside hostname stores) n) :
    hostname ∉ ((deleting outside hostname stores).slept reloads n).config.hostNames := by
  have hversion : (deleting outside hostname stores).version ≤ stores.version := Nat.le_refl _
  obtain ⟨m, ending, hending, hslept, hchanged⟩ := adopted_by hversion h
  obtain ⟨new, hnew, -, hhostNames, -⟩ := reload_adopts hchanged
  obtain ⟨hread, rfl⟩ := hreloads m ending hending
  rw [hread, Option.getD_none, slept_disk, deleting_disk, textWithout] at hnew
  let surroundings : Surroundings :=
    ⟨ending.before, ending.after, ending.isRunning, fun _ => none, []⟩
  obtain ⟨path, hpath⟩ := @readNewConfiguration_written _ _ _ htoml hwritable surroundings _ _ hnew
  rw [hslept, hhostNames, hpath, hostNames_eq]
  intro hmem
  obtain ⟨item, hitem, hname⟩ := List.mem_map.mp hmem
  obtain ⟨written, hwritten, hfor⟩ := (readBack_mirrors _ path).back item hitem
  exact (mem_items_withoutSite.mp hwritten).2 (hfor.hostName.symm.trans hname)

end Handler

end OddBox.Api

import OddBox.Configuration.ReloadFrame
import OddBox.Machine

/-!
The flag `enable_lets_encrypt` of the certificate resolver over time: `main` sets it for the
configuration it starts with, and the end of `reload_from_disk` updates it where the e-mail
address has changed.
-/

namespace OddBox.Configuration

/-- The program with the flag of its certificate resolver. -/
structure Server where
  program : Program
  enableLetsEncrypt : Bool

def Server.active (self : Server) : OddBoxV3Config := self.program.config.internalConfiguration

def Server.new (program : Program) : Server where
  program := program
  enableLetsEncrypt := program.config.internalConfiguration.letsEncryptAccountEmail.isSome

/-- One reload: the system before and after the marked loops leave. -/
structure Reload where
  before : Environment
  after : Environment
  isRunning : ProcInfo → Bool

def Reload.result (reload : Reload) (program : Program) : ReloadResult × Program :=
  program.reloadFromDisk reload.before reload.after reload.isRunning

/-- The flag follows the configuration that was active before the reload. -/
def Server.reload (self : Server) (reload : Reload) : Server :=
  match reload.result self.program with
  | (.reloaded, program) =>
    { program := program
      enableLetsEncrypt :=
        if program.config.internalConfiguration.letsEncryptAccountEmail !=
            self.active.letsEncryptAccountEmail then
          self.active.letsEncryptAccountEmail.isSome
        else self.enableLetsEncrypt }
  | (_, program) => { self with program := program }

/-- The flag is set exactly where the active configuration has an e-mail address. -/
def Server.Switched (self : Server) : Prop :=
  self.enableLetsEncrypt = true ↔ self.active.letsEncryptAccountEmail ≠ none

/-- The reload returns without an error, also where the configuration has not changed. -/
def Server.Succeeds (self : Server) (reload : Reload) : Prop :=
  (reload.result self.program).1 = .reloaded ∨ (reload.result self.program).1 = .unchanged

/-- The file does not add the first e-mail address and does not take it away. -/
def Server.KeepsEmail (self : Server) (reload : Reload) : Prop :=
  ∀ new, readNewConfiguration reload.before self.program.config = .ok new →
    (new.internalConfiguration.letsEncryptAccountEmail = none ↔
      self.active.letsEncryptAccountEmail = none)

theorem keepsEmail_iff {self : Server} {reload : Reload} {new : ConfigWrapper}
    (hread : readNewConfiguration reload.before self.program.config = .ok new) :
    self.KeepsEmail reload ↔ (new.internalConfiguration.letsEncryptAccountEmail = none ↔
      self.active.letsEncryptAccountEmail = none) := by
  constructor
  · intro h
    exact h new hread
  · intro h other hother
    rw [hread] at hother
    cases hother
    exact h

/-- Of the reloads that succeed exactly those keep the flag right that keep the presence of
the address. -/
theorem switched_reload {self : Server} {reload : Reload} (hsucceeds : self.Succeeds reload)
    (hswitched : self.Switched) : (self.reload reload).Switched ↔ self.KeepsEmail reload := by
  cases hresult : reload.result self.program with
  | mk result program =>
    have hprogram : (self.program.reloadFromDisk reload.before reload.after
        reload.isRunning).2 = program := congrArg Prod.snd hresult
    rcases hsucceeds with hreloaded | hunchanged
    · obtain ⟨new, hread, -, hadopt⟩ := reloadFromDisk_reloaded hreloaded
      have hconfig : program.config = self.program.compared reload.before new := by
        have hadopted : (self.program.adopt reload.before reload.after reload.isRunning
            new).1 = .reloaded := by
          rw [← hadopt]
          exact hreloaded
        rw [← hprogram, hadopt]
        exact (adopt_reloaded hadopted).1
      have hemail : program.config.internalConfiguration.letsEncryptAccountEmail =
          new.internalConfiguration.letsEncryptAccountEmail := by
        rw [hconfig]
        rfl
      have hfirst : result = .reloaded := by
        rw [hresult] at hreloaded
        exact hreloaded
      subst hfirst
      rw [keepsEmail_iff hread]
      simp only [Server.Switched, Server.reload, Server.active, hresult, hemail] at hswitched ⊢
      cases hold : self.program.config.internalConfiguration.letsEncryptAccountEmail <;>
        cases hnew : new.internalConfiguration.letsEncryptAccountEmail <;>
        simp_all
    · obtain ⟨new, hread, heq, hkept⟩ := reloadFromDisk_unchanged hunchanged
      have hfirst : result = .unchanged := by
        rw [hresult] at hunchanged
        exact hunchanged
      subst hfirst
      have hsame : self.reload reload = self := by
        unfold Server.reload
        rw [hresult, ← hprogram, hkept]
      have hemail : new.internalConfiguration.letsEncryptAccountEmail =
          self.active.letsEncryptAccountEmail := by
        simp only [OddBoxV3Config.eq, Bool.and_eq_true, beq_iff_eq] at heq
        tauto
      rw [hsame, keepsEmail_iff hread, hemail]
      exact iff_of_true hswitched Iff.rfl

theorem switched_new (program : Program) : (Server.new program).Switched := by
  simp [Server.Switched, Server.new, Server.active, Option.isSome_iff_ne_none]

/-- **The switch of Let's Encrypt**: after a start and any reloads that succeed the flag of
the certificate resolver is that of the active configuration, exactly where none of them adds
the first e-mail address or takes it away. -/
theorem lets_encrypt_switch_iff (program : Program) (reloads : List Reload)
    (hsucceed : Machine.Meets Server.reload Server.Succeeds (Server.new program) reloads) :
    (∀ first, first <+: reloads →
      (Machine.run Server.reload (Server.new program) first).Switched) ↔
      Machine.Meets Server.reload Server.KeepsEmail (Server.new program) reloads := by
  have hstep : ∀ (self : Server) (reload : Reload), True → self.Succeeds reload →
      self.Switched → ((self.reload reload).Switched ↔ self.KeepsEmail reload) := by
    intro self reload _ hsucceeds hswitched
    exact switched_reload hsucceeds hswitched
  have hkept : ∀ (self : Server) (reload : Reload), True → True := fun _ _ h => h
  apply @Machine.meets_iff_under Server Reload Server.reload Server.KeepsEmail Server.Succeeds
    Server.Switched (fun _ => True) hkept hstep
  · exact hsucceed
  · trivial
  · exact switched_new program

/-! ## The first address -/

def emailFile : String := "version = \"V3\"\nlets_encrypt_account_email = \"admin@a.test\"\n"

set_option maxRecDepth 20000 in
theorem emailFile_parse : readerCrate.parse emailFile =
    some [("version", .string "V3"), ("lets_encrypt_account_email", .string "admin@a.test")] := rfl

def withEmail (email : Option String) : OddBoxV3Config :=
  { oneRemote none with remoteTarget := none, letsEncryptAccountEmail := email }

theorem emailFile_read : readNewConfiguration (oneFile emailFile)
    (runningWith (withEmail none)).config =
      .ok { ConfigWrapper.new (withEmail (some "admin@a.test")) with internalVersion := 1 } := by
  have hparse : AnyOddBoxConfig.parse (fun _ => ⟨"id"⟩) readerCrate emailFile =
      .ok (.v3 { withEmail (some "admin@a.test") with path := none }) := by
    rw [parse_v3_iff, fromStr_of_parse emailFile_parse]
    rfl
  exact @readNewConfiguration_v3 (oneFile emailFile) (runningWith (withEmail none)).config _
    emailFile _ ⟨some "/srv/odd-box.toml", "/srv/odd-box.toml"⟩ rfl rfl hparse rfl rfl

def addEmail : Reload := ⟨oneFile emailFile, oneFile emailFile, fun _ => false⟩

theorem addEmail_reloaded : (addEmail.result (runningWith (withEmail none))).1 = .reloaded := by
  have hresult : addEmail.result (runningWith (withEmail none)) =
      (runningWith (withEmail none)).adopt (oneFile emailFile) (oneFile emailFile) (fun _ => false)
        { ConfigWrapper.new (withEmail (some "admin@a.test")) with internalVersion := 1 } := by
    unfold Reload.result Program.reloadFromDisk addEmail
    rw [emailFile_read]
    rfl
  rw [hresult]
  rfl

theorem lets_encrypt_switch_first :
    (∀ first, first <+: [addEmail] → (Machine.run Server.reload
      (Server.new (runningWith (withEmail none))) first).Switched) ↔
      Machine.Meets Server.reload Server.KeepsEmail (Server.new (runningWith (withEmail none)))
        [addEmail] :=
  lets_encrypt_switch_iff (runningWith (withEmail none)) [addEmail]
    ⟨.inl addEmail_reloaded, trivial⟩

/-- The address is added and the configuration is reloaded, but the flag stays off. -/
theorem firstEmail_unswitched :
    (addEmail.result (runningWith (withEmail none))).1 = .reloaded ∧
      ((Server.new (runningWith (withEmail none))).reload addEmail).active.letsEncryptAccountEmail =
        some "admin@a.test" ∧
      ((Server.new (runningWith (withEmail none))).reload addEmail).enableLetsEncrypt = false := by
  have hresult : addEmail.result (runningWith (withEmail none)) =
      (runningWith (withEmail none)).adopt (oneFile emailFile) (oneFile emailFile) (fun _ => false)
        { ConfigWrapper.new (withEmail (some "admin@a.test")) with internalVersion := 1 } := by
    unfold Reload.result Program.reloadFromDisk addEmail
    rw [emailFile_read]
    rfl
  simp only [Server.reload, Server.new, hresult]
  exact ⟨rfl, rfl, rfl⟩

end OddBox.Configuration

import Mathlib
import OddBox.Configuration.Settings
import OddBox.Configuration.Validity

/-!
When two configurations count as equal: `PartialEq` is written by hand for remote
targets and hosted processes, and derived for everything else.
-/

namespace OddBox.Configuration

def compareOptionBool : Option Bool → Option Bool → Bool
  | none, some false => true
  | some false, none => true
  | a, b => a == b

def compareOptionLogFormat : Option LogFormat → Option LogFormat → Bool
  | none, some .standard => true
  | some .standard, none => true
  | a, b => a == b

def InProcessSiteConfig.eq (self other : InProcessSiteConfig) : Bool :=
  self.logLevel == other.logLevel &&
  compareOptionBool self.terminateTls other.terminateTls &&
  compareOptionBool self.terminateHttp other.terminateHttp &&
  self.hints == other.hints &&
  self.hostName == other.hostName &&
  self.dir == other.dir &&
  self.bin == other.bin &&
  self.args == other.args &&
  self.envVars == other.envVars &&
  compareOptionLogFormat self.logFormat other.logFormat &&
  compareOptionBool self.autoStart other.autoStart &&
  self.port == other.port &&
  self.https == other.https &&
  compareOptionBool self.captureSubdomains other.captureSubdomains &&
  compareOptionBool self.forwardSubdomains other.forwardSubdomains &&
  compareOptionBool self.excludeFromStartAll other.excludeFromStartAll

def RemoteSiteConfig.eq (self other : RemoteSiteConfig) : Bool :=
  self.hostName == other.hostName &&
  self.backends == other.backends &&
  compareOptionBool self.keepOriginalHostHeader other.keepOriginalHostHeader &&
  compareOptionBool self.enableLetsEncrypt other.enableLetsEncrypt &&
  compareOptionBool self.captureSubdomains other.captureSubdomains &&
  compareOptionBool self.terminateTls other.terminateTls &&
  compareOptionBool self.forwardSubdomains other.forwardSubdomains &&
  compareOptionBool self.terminateHttp other.terminateHttp

/-- `PartialEq` of an optional vector, by that of its items. -/
def optionVecEq {α : Type} (eq : α → α → Bool) : Option (List α) → Option (List α) → Bool
  | none, none => true
  | some xs, some ys => xs.isEqv ys eq
  | _, _ => false

def OddBoxV3Config.eq (self other : OddBoxV3Config) : Bool :=
  self.path == other.path &&
  self.version == other.version &&
  self.rootDir == other.rootDir &&
  self.logLevel == other.logLevel &&
  self.alpn == other.alpn &&
  self.portRangeStart == other.portRangeStart &&
  self.defaultLogFormat == other.defaultLogFormat &&
  self.ip == other.ip &&
  self.httpPort == other.httpPort &&
  self.tlsPort == other.tlsPort &&
  self.autoStart == other.autoStart &&
  self.envVars == other.envVars &&
  optionVecEq RemoteSiteConfig.eq self.remoteTarget other.remoteTarget &&
  optionVecEq InProcessSiteConfig.eq self.hostedProcess other.hostedProcess &&
  self.dirServer == other.dirServer &&
  self.letsEncryptAccountEmail == other.letsEncryptAccountEmail &&
  self.oddBoxUrl == other.oddBoxUrl &&
  self.oddBoxPassword == other.oddBoxPassword &&
  self.useLoopbackIpForProcs == other.useLoopbackIpForProcs

/-! ## What the comparisons tell apart -/

theorem compareOptionBool_iff (a b : Option Bool) :
    compareOptionBool a b = true ↔ flag a = flag b := by
  revert a b
  decide

theorem forall₂_of_isEqv {α : Type} {eq : α → α → Bool} {xs ys : List α}
    (h : xs.isEqv ys eq = true) : List.Forall₂ (fun x y => eq x y = true) xs ys := by
  induction xs generalizing ys with
  | nil =>
    cases ys with
    | nil => exact .nil
    | cons y ys => contradiction
  | cons x xs ih =>
    cases ys with
    | nil => contradiction
    | cons y ys =>
      obtain ⟨hfirst, hrest⟩ := Bool.and_eq_true_iff.mp h
      exact .cons hfirst (ih hrest)

theorem forall₂_of_optionVecEq {α : Type} {eq : α → α → Bool} {xs ys : Option (List α)}
    (h : optionVecEq eq xs ys = true) :
    List.Forall₂ (fun x y => eq x y = true) (xs.getD []) (ys.getD []) := by
  match xs, ys with
  | none, none => exact .nil
  | some xs, some ys => exact forall₂_of_isEqv h
  | none, some ys => contradiction
  | some xs, none => contradiction

/-- Lists with related items have the same images exactly when their items have. -/
theorem map_eq_map_iff_of_forall₂ {α β : Type} {R S : α → α → Prop} {f : α → β} {xs ys : List α}
    (h : List.Forall₂ R xs ys) (hitem : ∀ x y, R x y → (f x = f y ↔ S x y)) :
    xs.map f = ys.map f ↔ List.Forall₂ S xs ys := by
  rw [← List.forall₂_eq_eq_eq, List.forall₂_map_left_iff, List.forall₂_map_right_iff]
  constructor
  · exact h.mp fun x y hxy => (hitem x y hxy).mp
  · exact h.mp fun x y hxy => (hitem x y hxy).mpr

/-- What is not compared of two processes, or only up to an absence that does not
stand for the default of the document. -/
structure InProcessSiteConfig.Alike (defaults : Defaults) (self other : InProcessSiteConfig) :
    Prop where
  enableLetsEncrypt : flag self.enableLetsEncrypt = flag other.enableLetsEncrypt
  redirectToHttps : flag self.redirectToHttps = flag other.redirectToHttps
  autoStart : self.autoStart.getD defaults.autoStart = other.autoStart.getD defaults.autoStart
  logFormat : self.logFormat.getD defaults.logFormat = other.logFormat.getD defaults.logFormat

theorem process_settings_iff (defaults : Defaults) {a b : InProcessSiteConfig}
    (h : a.eq b = true) : a.settings defaults = b.settings defaults ↔ a.Alike defaults b := by
  simp only [InProcessSiteConfig.eq, Bool.and_eq_true, beq_iff_eq, compareOptionBool_iff,
    and_assoc] at h
  obtain ⟨hlevel, htls, hhttp, hhints, hname, hdir, hbin, hargs, henv, -, -, hport, hhttps,
    hcapture, hforward, hexclude⟩ := h
  simp only [InProcessSiteConfig.settings, hlevel, htls, hhttp, hhints, hname, hdir, hbin,
    hargs, henv, hport, hhttps, hcapture, hforward, hexclude, InProcessSiteConfig.mk.injEq,
    Option.some.injEq, true_and]
  constructor
  · rintro ⟨hformat, hstart, hencrypt, hredirect⟩
    exact ⟨hencrypt, hredirect, hstart, hformat⟩
  · rintro ⟨hencrypt, hredirect, hstart, hformat⟩
    exact ⟨hformat, hstart, hencrypt, hredirect⟩

theorem remote_settings_iff {a b : RemoteSiteConfig} (h : a.eq b = true) :
    a.settings = b.settings ↔ flag a.redirectToHttps = flag b.redirectToHttps := by
  simp only [RemoteSiteConfig.eq, Bool.and_eq_true, beq_iff_eq, compareOptionBool_iff,
    and_assoc] at h
  obtain ⟨hname, hbackends, hkeep, hencrypt, hcapture, htls, hforward, hhttp⟩ := h
  simp only [RemoteSiteConfig.settings, hname, hbackends, hkeep, hencrypt, hcapture, htls,
    hforward, hhttp, RemoteSiteConfig.mk.injEq, true_and]

/-- Corresponding sites of two documents agree in what is not compared of them. -/
structure OddBoxV3Config.SitesAlike (self other : OddBoxV3Config) : Prop where
  remoteTargets : List.Forall₂ (fun a b => flag a.redirectToHttps = flag b.redirectToHttps)
    self.remoteTargets other.remoteTargets
  sites : List.Forall₂ (InProcessSiteConfig.Alike self.defaults) self.sites other.sites

/-- Documents that count as equal have the same settings exactly when their sites
agree in the rest. -/
theorem config_settings_iff {a b : OddBoxV3Config} (h : a.eq b = true) :
    a.settings = b.settings ↔ a.SitesAlike b := by
  simp only [OddBoxV3Config.eq, Bool.and_eq_true, beq_iff_eq, and_assoc] at h
  obtain ⟨-, -, hroot, hlevel, halpn, hrange, hformat, hip, hhttp, htls, hstart, henv,
    hremotes, hprocesses, hdirs, hemail, hurl, hpassword, hloopback⟩ := h
  have hdefaults : a.defaults = b.defaults := by
    simp only [OddBoxV3Config.defaults, hformat, hstart]
  have hremote := map_eq_map_iff_of_forall₂ (forall₂_of_optionVecEq hremotes)
    fun _ _ => remote_settings_iff
  have hprocess := map_eq_map_iff_of_forall₂ (forall₂_of_optionVecEq hprocesses)
    fun _ _ => process_settings_iff a.defaults
  simp only [OddBoxV3Config.settings, hroot, hlevel, halpn, hrange, hformat, hip,
    hhttp, htls, hstart, henv, hdirs, hemail, hurl, hpassword, hloopback, ← hdefaults,
    OddBoxV3Config.mk.injEq, Option.some.injEq, hremote, hprocess, true_and, and_true]
  constructor
  · rintro ⟨hremote, hprocess⟩
    exact ⟨hremote, hprocess⟩
  · rintro ⟨hremote, hprocess⟩
    exact ⟨hremote, hprocess⟩

end OddBox.Configuration

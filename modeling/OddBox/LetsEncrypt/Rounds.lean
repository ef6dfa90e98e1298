import OddBox.Configuration.RoundTrip
import OddBox.LetsEncrypt.Worker

/-!
The challenges over the rounds of the worker: what the proxy answers to Let's Encrypt while the
orders are made, and what becomes of a site whose order fails after its challenge was stored.
-/

namespace OddBox.LetsEncrypt

open OddBox.Certs OddBox.Checked OddBox.Configuration

variable {libs : CertLibraries} {acme : AcmeLibraries}

/-! ## The entries of the domains -/

/-- What goes on after a step that went on. -/
theorem bind_ok_inv {α β : Type} {call : Call α} {next : α → Call β} {maps after : Challenges}
    {b : β} (h : run (call >>= next) maps = (.ok b, after)) :
    ∃ a mid, run call maps = (.ok a, mid) ∧ run (next a) mid = (.ok b, after) := by
  rcases hcall : run call maps with ⟨result, mid⟩
  cases result with
  | error failure =>
    rw [run_bind_error hcall] at h
    cases h
  | ok a =>
    rw [run_bind_ok hcall] at h
    exact ⟨a, mid, rfl, h⟩

theorem run_step_inv {α : Type} {result : Except Failure α} {maps after : Challenges} {a : α}
    (h : run (step result) maps = (.ok a, after)) : result = .ok a ∧ after = maps := by
  have hpair : (result, maps) = (.ok a, after) := h
  cases hpair
  exact ⟨rfl, rfl⟩

theorem run_wait_inv {domainName : String} {left : Nat} {maps after : Challenges}
    (h : run (waitForPendingChallenge domainName left) maps = (.ok (), after)) :
    maps.domainToChallengeTokenMap domainName = none ∧ after = maps := by
  cases hpending : maps.domainToChallengeTokenMap domainName with
  | some token =>
    rw [run_wait_some domainName left hpending] at h
    cases h
  | none =>
    rw [run_wait_none domainName left hpending] at h
    cases h
    exact ⟨rfl, rfl⟩

theorem run_cleanUp_inv {domainName : String} {maps after : Challenges}
    (h : run (cleanUp domainName) maps = (.ok (), after)) :
    after.domainToChallengeTokenMap domainName = none := by
  rw [← bind_pure (cleanUp domainName)] at h
  cases hpending : maps.domainToChallengeTokenMap domainName with
  | none =>
    rw [run_cleanUp_none hpending] at h
    cases h
    exact hpending
  | some token =>
    rw [run_cleanUp_some hpending] at h
    cases h
    exact Function.update_self _ _ _

namespace LECertManager

variable (self : LECertManager acme)

/-- A call that gets a certificate leaves no entry for its domain. -/
theorem getOrCreateCert_ok {outcomes : Outcomes acme} {domainName : String}
    {maps after : Challenges} {cert : CertifiedKey libs}
    (h : run (self.getOrCreateCert libs outcomes domainName) maps = (.ok cert, after)) :
    after.domainToChallengeTokenMap domainName = none := by
  unfold getOrCreateCert at h
  obtain ⟨_, waited, hwait, hwaited⟩ := bind_ok_inv h
  obtain ⟨hnone, rfl⟩ := run_wait_inv hwait
  obtain ⟨_, directory, hdirectory, hmade⟩ := bind_ok_inv hwaited
  obtain ⟨-, rfl⟩ := run_step_inv hdirectory
  obtain ⟨stored, looked, hlooked, hstored⟩ := bind_ok_inv hmade
  obtain ⟨-, rfl⟩ := run_step_inv hlooked
  cases stored with
  | kept certifiedKey =>
    cases hstored
    exact hnone
  | renewed skipValidation =>
    obtain ⟨urls, ordered, -, hordered⟩ := bind_ok_inv hstored
    -- Validated or not, the last part is the same one.
    have hlast : ∀ {mid : Challenges}, run (self.issueAndCleanUp libs outcomes domainName
        urls.2.1 urls.2.2) mid = (.ok cert, after) →
        after.domainToChallengeTokenMap domainName = none := by
      intro mid hissue
      unfold issueAndCleanUp at hissue
      obtain ⟨texts, issued, -, hissued⟩ := bind_ok_inv hissue
      obtain ⟨_, cleaned, hclean, hcleaned⟩ := bind_ok_inv hissued
      obtain ⟨-, rfl⟩ := run_step_inv hcleaned
      exact run_cleanUp_inv hclean
    cases skipValidation with
    | true => exact hlast hordered
    | false =>
      obtain ⟨challengeUrl, handled, -, hhandled⟩ := bind_ok_inv hordered
      obtain ⟨valid, polled, -, hpolled⟩ := bind_ok_inv hhandled
      exact hlast hpolled

/-- What is stored with a token is the authorization that the account makes of it. -/
theorem generateKeyAuthorization_of_pending {get : String → Except Error Response}
    {authUrl token keyAuthorization : String} {challenge : Value}
    (h : self.findHttp01Challenge get authUrl = .ok (.pending challenge token keyAuthorization)) :
    self.generateKeyAuthorization token = .ok keyAuthorization := by
  obtain ⟨response, -, hgot⟩ := bind_eq_ok.mp h
  cases hsuccess : response.isSuccess with
  | false =>
    rw [hsuccess] at hgot
    cases hgot
  | true =>
    rw [hsuccess, if_pos rfl] at hgot
    obtain ⟨body, -, hbody⟩ := bind_eq_ok.mp hgot
    obtain ⟨found, -, hfound⟩ := bind_eq_ok.mp hbody
    split at hfound
    · obtain ⟨url, -, hurl⟩ := bind_eq_ok.mp hfound
      cases hurl
    · obtain ⟨text, -, htext⟩ := bind_eq_ok.mp hfound
      obtain ⟨made, hmade, hpending⟩ := bind_eq_ok.mp htext
      cases hpending
      exact hmade

/-- A call leaves the entries of all other domains alone. -/
theorem getOrCreateCert_other (libs : CertLibraries) (outcomes : Outcomes acme)
    {domainName other : String} (hother : other ≠ domainName) (maps : Challenges) :
    (run (self.getOrCreateCert libs outcomes domainName) maps).2.domainToChallengeTokenMap other =
      maps.domainToChallengeTokenMap other := by
  cases hpending : maps.domainToChallengeTokenMap domainName with
  | some token => rw [self.run_getOrCreateCert_pending outcomes hpending]
  | none =>
    obtain ⟨hafter, -⟩ | ⟨_, _, _, token, _, -, hafter⟩ :=
      self.run_getOrCreateCert_fresh libs outcomes hpending
    · rw [hafter]
    · obtain ⟨-, hafter⟩ | ⟨-, hafter⟩ := hafter
      · rw [hafter]
        simp only [Challenges.removed, Challenges.stored, Function.update_of_ne hother]
      · rw [hafter]
        exact Function.update_of_ne hother _ _

end LECertManager

namespace LetsEncryptWorker

variable {manager : LECertManager acme} {self : LetsEncryptWorker libs}

/-- The turn of a domain comes to an order. -/
def Orders (self : LetsEncryptWorker libs) (mail : Option String) (config : OddBoxV3Config)
    (now : Int) (domain : String) : Prop :=
  self.panicked = false ∧ Serves mail config domain ∧
    (self.resolver.getLetsEncryptSignedCertFromMemCache now domain).1 = none

theorem order_challenges (outcomes : Outcomes acme) (domain : String) :
    (self.order manager outcomes domain).challenges =
      (run (manager.getOrCreateCert libs outcomes domain) self.challenges).2 := by
  unfold order
  split
  · rename_i hrun
    rw [hrun]
  · rename_i hrun
    rw [hrun]
  · rename_i hrun
    rw [hrun]

/-- What a turn does: nothing, a look into memory, or an order as well. -/
theorem step_attempt (manager : LECertManager acme) (self : LetsEncryptWorker libs)
    (mail : Option String) (config : OddBoxV3Config) (outcomes : Outcomes acme) (now : Int)
    (domain : String) :
    ¬ self.Orders mail config now domain ∧
        (self.step manager (.attempt mail config outcomes now domain) = self ∨
          self.step manager (.attempt mail config outcomes now domain) =
            { self with
              resolver := (self.resolver.getLetsEncryptSignedCertFromMemCache now domain).2 }) ∨
      self.Orders mail config now domain ∧
        self.step manager (.attempt mail config outcomes now domain) =
          ({ self with
            resolver := (self.resolver.getLetsEncryptSignedCertFromMemCache now domain).2 } :
              LetsEncryptWorker libs).order manager outcomes domain := by
  rw [step]
  by_cases hserves : self.panicked = false ∧ Serves mail config domain
  · rw [if_pos hserves]
    rcases hget : self.resolver.getLetsEncryptSignedCertFromMemCache now domain with
      ⟨found, after⟩
    cases found with
    | some cert =>
      refine .inl ⟨?_, .inr rfl⟩
      rintro ⟨-, -, hnone⟩
      rw [hget] at hnone
      cases hnone
    | none => exact .inr ⟨⟨hserves.1, hserves.2, congrArg Prod.fst hget⟩, rfl⟩
  · rw [if_neg hserves]
    refine .inl ⟨?_, .inl rfl⟩
    rintro ⟨hpanicked, hserved, -⟩
    exact hserves ⟨hpanicked, hserved⟩

/-- The challenges after a turn. -/
theorem step_attempt_challenges (manager : LECertManager acme) (self : LetsEncryptWorker libs)
    (mail : Option String) (config : OddBoxV3Config) (outcomes : Outcomes acme) (now : Int)
    (domain : String) :
    ¬ self.Orders mail config now domain ∧
        (self.step manager (.attempt mail config outcomes now domain)).challenges =
          self.challenges ∨
      self.Orders mail config now domain ∧
        (self.step manager (.attempt mail config outcomes now domain)).challenges =
          (run (manager.getOrCreateCert libs outcomes domain) self.challenges).2 := by
  rcases step_attempt manager self mail config outcomes now domain with
    ⟨hnot, hstep | hstep⟩ | ⟨horders, hstep⟩
  · exact .inl ⟨hnot, by rw [hstep]⟩
  · exact .inl ⟨hnot, by rw [hstep]⟩
  · exact .inr ⟨horders, by rw [hstep, order_challenges]⟩

/-! ## Sites that are locked out -/

/-- The domain has an entry for good and never gets a certificate, whatever is done. -/
def LockedOut (manager : LECertManager acme) (self : LetsEncryptWorker libs) (domain : String) :
    Prop :=
  ∃ token, ∀ later : List (WorkerOp acme),
    (Machine.run (step manager) self later).challenges.domainToChallengeTokenMap domain =
        some token ∧
      (Machine.run (step manager) self later).resolver.letsEncryptSignedCerts domain = none

/-- If an order for the domain is made in the step, it does not fail after the challenge was
stored. -/
def Settles (manager : LECertManager acme) (domain : String) (self : LetsEncryptWorker libs) :
    WorkerOp acme → Prop
  | .attempt mail config outcomes now name =>
    name = domain → self.Orders mail config now domain →
      ∀ finalizeUrl orderUrl challenge token keyAuthorization,
        manager.Reaches libs outcomes domain finalizeUrl orderUrl challenge token
          keyAuthorization →
        manager.Completes outcomes domain finalizeUrl orderUrl challenge
  | .resolve .. => True

/-- While the domain has an entry, it has no certificate. -/
def Excludes (domain : String) (self : LetsEncryptWorker libs) : Prop :=
  ∀ token, self.challenges.domainToChallengeTokenMap domain = some token →
    self.resolver.letsEncryptSignedCerts domain = none

/-- A certificate that is looked up in vain is not there afterwards. -/
theorem lookup_none {resolver : DynamicCertResolver libs} {now : Int} {domain : String}
    (h : (resolver.getLetsEncryptSignedCertFromMemCache now domain).1 = none) :
    (resolver.getLetsEncryptSignedCertFromMemCache now domain).2.letsEncryptSignedCerts domain =
      none := by
  unfold DynamicCertResolver.getLetsEncryptSignedCertFromMemCache at h ⊢
  by_cases hstale : DynamicCertResolver.Stale resolver.letsEncryptSignedCerts now domain
  · rw [resolver.getFromCache_stale hstale]
    exact Function.update_self _ _ _
  · rw [resolver.getFromCache_fresh hstale] at h ⊢
    exact h

theorem lookup_letsEncrypt {resolver : DynamicCertResolver libs} {now : Int}
    {domain name : String} (h : resolver.letsEncryptSignedCerts name = none) :
    (resolver.getLetsEncryptSignedCertFromMemCache now domain).2.letsEncryptSignedCerts name =
      none := by
  cases hcert : (resolver.getLetsEncryptSignedCertFromMemCache now
      domain).2.letsEncryptSignedCerts name with
  | none => rfl
  | some cert =>
    have hbefore := getFromCache_letsEncrypt hcert
    rw [h] at hbefore
    cases hbefore

/-- An order for the domain gets a certificate or an entry, not both. -/
theorem order_excludes (outcomes : Outcomes acme) {domain : String}
    (hnone : self.resolver.letsEncryptSignedCerts domain = none) :
    Excludes domain (self.order manager outcomes domain) := by
  intro token hpending
  unfold order at hpending ⊢
  split
  · rename_i cert challenges hrun
    rw [hrun] at hpending
    dsimp only at hpending
    rw [manager.getOrCreateCert_ok hrun] at hpending
    cases hpending
  · exact hnone
  · exact hnone

theorem order_letsEncrypt_other (outcomes : Outcomes acme) {domain other : String}
    (hother : other ≠ domain) :
    (self.order manager outcomes domain).resolver.letsEncryptSignedCerts other =
      self.resolver.letsEncryptSignedCerts other := by
  unfold order
  split
  · exact Function.update_of_ne hother _ _
  · rfl
  · rfl

theorem resolve_letsEncrypt {resolver : DynamicCertResolver libs} {files : Files} {now : Int}
    {serverName : Option String} {name : String}
    (h : resolver.letsEncryptSignedCerts name = none) :
    (resolver.resolve files now serverName).2.1.letsEncryptSignedCerts name = none := by
  cases serverName with
  | none => exact h
  | some serverName =>
    cases hcert : (resolver.resolve files now (some serverName)).2.1.letsEncryptSignedCerts
        name with
    | none => rfl
    | some cert =>
      have hbefore := (resolved files now serverName).letsEncrypt name cert hcert
      rw [h] at hbefore
      cases hbefore

/-- An entry stays in every step. -/
theorem step_pending {domain token : String}
    (h : self.challenges.domainToChallengeTokenMap domain = some token) (op : WorkerOp acme) :
    (self.step manager op).challenges.domainToChallengeTokenMap domain = some token := by
  cases op with
  | resolve files now serverName => exact h
  | attempt mail config outcomes now name =>
    rcases step_attempt_challenges manager self mail config outcomes now name with
      ⟨-, hstep⟩ | ⟨-, hstep⟩
    · rw [hstep]
      exact h
    · rw [hstep]
      by_cases hname : domain = name
      · rw [← hname, manager.run_getOrCreateCert_pending outcomes h]
        exact h
      · rw [manager.getOrCreateCert_other libs outcomes hname]
        exact h

theorem step_excludes {domain : String} (h : Excludes domain self) (op : WorkerOp acme) :
    Excludes domain (self.step manager op) := by
  cases op with
  | resolve files now serverName =>
    intro token hpending
    exact resolve_letsEncrypt (h token hpending)
  | attempt mail config outcomes now name =>
    rcases step_attempt manager self mail config outcomes now name with
      ⟨-, hstep | hstep⟩ | ⟨horders, hstep⟩
    · rw [hstep]
      exact h
    · rw [hstep]
      intro token hpending
      exact lookup_letsEncrypt (h token hpending)
    · rw [hstep]
      by_cases hname : domain = name
      · rw [hname]
        exact order_excludes outcomes (lookup_none horders.2.2)
      · intro token hpending
        rw [order_challenges, manager.getOrCreateCert_other libs outcomes hname] at hpending
        rw [order_letsEncrypt_other outcomes hname]
        exact lookup_letsEncrypt (h token hpending)

/-- A domain without an entry gets one in exactly the steps that do not settle its order. -/
theorem step_none_iff {domain : String}
    (h : self.challenges.domainToChallengeTokenMap domain = none) (op : WorkerOp acme) :
    (self.step manager op).challenges.domainToChallengeTokenMap domain = none ↔
      Settles manager domain self op := by
  cases op with
  | resolve files now serverName => exact iff_of_true h trivial
  | attempt mail config outcomes now name =>
    by_cases hname : name = domain
    · obtain rfl := hname
      rcases step_attempt_challenges manager self mail config outcomes now name with
        ⟨hnot, hstep⟩ | ⟨horders, hstep⟩
      · rw [hstep]
        exact iff_of_true h fun _ horders => absurd horders hnot
      · rw [hstep]
        obtain ⟨hafter, hreaches⟩ | ⟨finalizeUrl, orderUrl, challenge, token, keyAuthorization,
            hreaches, hafter⟩ :=
          manager.run_getOrCreateCert_fresh libs outcomes h
        · rw [hafter]
          exact iff_of_true h fun _ _ _ _ _ _ _ h => absurd h (hreaches _ _ _ _ _)
        · obtain ⟨hcompletes, hafter⟩ | ⟨hfails, hafter⟩ := hafter
          · rw [hafter]
            refine iff_of_true (Function.update_self _ _ _) ?_
            intro _ _ _ _ _ _ _ hother
            obtain ⟨rfl, rfl, rfl, -⟩ := hreaches.unique manager hother
            exact hcompletes
          · rw [hafter]
            refine iff_of_false ?_ ?_
            · simp only [Challenges.stored, Function.update_self, reduceCtorEq,
                not_false_eq_true]
            · intro hsettles
              exact hfails (hsettles rfl horders _ _ _ _ _ hreaches)
    · refine iff_of_true ?_ fun hsame => absurd hsame hname
      rcases step_attempt_challenges manager self mail config outcomes now name with
        ⟨-, hstep⟩ | ⟨-, hstep⟩
      · rw [hstep]
        exact h
      · rw [hstep, manager.getOrCreateCert_other libs outcomes (Ne.symm hname)]
        exact h

theorem run_pending {domain token : String}
    (h : self.challenges.domainToChallengeTokenMap domain = some token)
    (ops : List (WorkerOp acme)) :
    (Machine.run (step manager) self ops).challenges.domainToChallengeTokenMap domain =
      some token :=
  Machine.run_invariant
    (I := fun worker : LetsEncryptWorker libs =>
      worker.challenges.domainToChallengeTokenMap domain = some token)
    (fun _ op hpending => step_pending hpending op) h ops

theorem run_excludes {domain : String} (h : Excludes domain self)
    (ops : List (WorkerOp acme)) :
    Excludes domain (Machine.run (step manager) self ops) :=
  Machine.run_invariant (I := Excludes domain) (fun _ op hexcludes => step_excludes hexcludes op)
    h ops

theorem new_excludes (enableLetsEncrypt : Bool) (domain : String) :
    Excludes domain (new enableLetsEncrypt : LetsEncryptWorker libs) := by
  rintro token ⟨⟩

theorem lockedOut_iff_pending {domain : String} (h : Excludes domain self) :
    LockedOut manager self domain ↔
      self.challenges.domainToChallengeTokenMap domain ≠ none := by
  constructor
  · rintro ⟨token, hlocked⟩ hnone
    have hpending := (hlocked []).1
    rw [Machine.run_nil, hnone] at hpending
    cases hpending
  · intro hsome
    obtain ⟨token, hpending⟩ := Option.ne_none_iff_exists'.mp hsome
    refine ⟨token, fun later => ?_⟩
    have hstays := @run_pending libs acme manager self domain token hpending later
    exact ⟨hstays, run_excludes h later token hstays⟩

/-- **Locked out**: a site is, after any run of the rounds, exactly if one of its orders failed
between its challenge and its certificate. -/
theorem locked_out_iff (libs : CertLibraries) (manager : LECertManager acme)
    (enableLetsEncrypt : Bool) (ops : List (WorkerOp acme)) (domain : String) :
    LockedOut manager
        (Machine.run (step manager) (new enableLetsEncrypt : LetsEncryptWorker libs) ops)
        domain ↔
      ¬ Machine.Meets (step manager) (Settles manager domain)
        (new enableLetsEncrypt : LetsEncryptWorker libs) ops := by
  rw [lockedOut_iff_pending (run_excludes (new_excludes enableLetsEncrypt domain) ops)]
  apply not_congr
  rw [← Machine.meets_iff (J := fun _ => True) (fun _ _ _ => trivial)
    (fun worker op _ hnone => @step_none_iff libs acme manager worker domain hnone op) ops trivial
    rfl]
  constructor
  · rintro hnone first ⟨rest, rfl⟩
    rw [Machine.run_append] at hnone
    cases hfirst : (Machine.run (step manager) (new enableLetsEncrypt : LetsEncryptWorker libs)
        first).challenges.domainToChallengeTokenMap domain with
    | none => rfl
    | some token =>
      rw [run_pending hfirst rest] at hnone
      cases hnone
  · intro hall
    exact hall ops List.prefix_rfl

/-! ## What the proxy answers -/

/-- Let's Encrypt gave the token for the domain in an order, and this is what it expects. -/
def Presents (libs : CertLibraries) (manager : LECertManager acme) (ops : List (WorkerOp acme))
    (domain token keyAuthorization : String) : Prop :=
  ∃ mail config outcomes now finalizeUrl orderUrl challenge,
    .attempt mail config outcomes now domain ∈ ops ∧
    manager.Reaches libs outcomes domain finalizeUrl orderUrl challenge token keyAuthorization

/-- What the proxy can find in the maps around and in a step: an order stores its challenge in
one map after the other, and removes it in one after the other. -/
inductive Seen (manager : LECertManager acme) (self : LetsEncryptWorker libs) :
    WorkerOp acme → Challenges → Prop where
  | before (op : WorkerOp acme) : Seen manager self op self.challenges
  | storing {mail : Option String} {config : OddBoxV3Config} {outcomes : Outcomes acme}
    {now : Int} {domain finalizeUrl orderUrl token keyAuthorization : String} {challenge : Value}
    (horders : self.Orders mail config now domain)
    (hnone : self.challenges.domainToChallengeTokenMap domain = none)
    (hreaches : manager.Reaches libs outcomes domain finalizeUrl orderUrl challenge token
      keyAuthorization) :
    Seen manager self (.attempt mail config outcomes now domain)
      { self.challenges with
        challengeMap := Function.update self.challenges.challengeMap token
          (some keyAuthorization) }
  | stored {mail : Option String} {config : OddBoxV3Config} {outcomes : Outcomes acme}
    {now : Int} {domain finalizeUrl orderUrl token keyAuthorization : String} {challenge : Value}
    (horders : self.Orders mail config now domain)
    (hnone : self.challenges.domainToChallengeTokenMap domain = none)
    (hreaches : manager.Reaches libs outcomes domain finalizeUrl orderUrl challenge token
      keyAuthorization) :
    Seen manager self (.attempt mail config outcomes now domain)
      (self.challenges.stored domain token keyAuthorization)
  | removing {mail : Option String} {config : OddBoxV3Config} {outcomes : Outcomes acme}
    {now : Int} {domain finalizeUrl orderUrl token keyAuthorization : String} {challenge : Value}
    (horders : self.Orders mail config now domain)
    (hnone : self.challenges.domainToChallengeTokenMap domain = none)
    (hreaches : manager.Reaches libs outcomes domain finalizeUrl orderUrl challenge token
      keyAuthorization) :
    Seen manager self (.attempt mail config outcomes now domain)
      { self.challenges.stored domain token keyAuthorization with
        domainToChallengeTokenMap := Function.update
          (self.challenges.stored domain token keyAuthorization).domainToChallengeTokenMap domain
          none }
  | after (op : WorkerOp acme) : Seen manager self op (self.step manager op).challenges

end LetsEncryptWorker

namespace Challenges

variable (maps : Challenges) (domainName token keyAuthorization : String)

@[simp] theorem stored_challengeMap :
    (maps.stored domainName token keyAuthorization).challengeMap =
      Function.update maps.challengeMap token (some keyAuthorization) :=
  rfl

@[simp] theorem stored_domainToChallengeTokenMap :
    (maps.stored domainName token keyAuthorization).domainToChallengeTokenMap =
      Function.update maps.domainToChallengeTokenMap domainName (some token) :=
  rfl

@[simp] theorem removed_challengeMap :
    (maps.removed domainName token).challengeMap =
      Function.update maps.challengeMap token none :=
  rfl

@[simp] theorem removed_domainToChallengeTokenMap :
    (maps.removed domainName token).domainToChallengeTokenMap =
      Function.update maps.domainToChallengeTokenMap domainName none :=
  rfl

end Challenges

/-- The entries are those of challenges; the token of a domain may have lost its own to another
domain with the same token. -/
structure Challenges.Sound (presents : String → String → String → Prop) (maps : Challenges) :
    Prop where
  answers : ∀ token keyAuthorization, maps.challengeMap token = some keyAuthorization →
    ∃ domain, presents domain token keyAuthorization
  tokens : ∀ domain token, maps.domainToChallengeTokenMap domain = some token →
    (∃ keyAuthorization, presents domain token keyAuthorization) ∧
      (maps.challengeMap token ≠ none ∨
        ∃ other keyAuthorization, other ≠ domain ∧ presents other token keyAuthorization)

namespace Challenges.Sound

variable {presents : String → String → String → Prop} {maps : Challenges}
  {domain token keyAuthorization : String}

theorem storing (h : maps.Sound presents) (hpresents : presents domain token keyAuthorization) :
    ({ maps with
      challengeMap := Function.update maps.challengeMap token (some keyAuthorization) } :
        Challenges).Sound presents := by
  refine ⟨?_, ?_⟩
  · intro other answer hanswer
    by_cases hother : other = token
    · subst hother
      dsimp only at hanswer
      rw [Function.update_self, Option.some_inj] at hanswer
      exact ⟨domain, hanswer ▸ hpresents⟩
    · dsimp only at hanswer
      rw [Function.update_of_ne hother] at hanswer
      exact h.answers other answer hanswer
  · intro name other hother
    obtain ⟨hfound, hkept⟩ := h.tokens name other hother
    refine ⟨hfound, hkept.imp_left fun hsome => ?_⟩
    dsimp only
    by_cases hsame : other = token
    · rw [hsame, Function.update_self]
      exact Option.some_ne_none _
    · rw [Function.update_of_ne hsame]
      exact hsome

theorem stored (h : maps.Sound presents) (hpresents : presents domain token keyAuthorization) :
    (maps.stored domain token keyAuthorization).Sound presents := by
  refine ⟨(h.storing hpresents).answers, ?_⟩
  intro name other hother
  by_cases hname : name = domain
  · subst hname
    rw [stored_domainToChallengeTokenMap, Function.update_self, Option.some_inj] at hother
    subst hother
    refine ⟨⟨keyAuthorization, hpresents⟩, .inl ?_⟩
    rw [stored_challengeMap, Function.update_self]
    exact Option.some_ne_none _
  · rw [stored_domainToChallengeTokenMap, Function.update_of_ne hname] at hother
    exact (h.storing hpresents).tokens name other hother

/-- Without the entry of the domain. -/
theorem removing (h : maps.Sound presents) :
    ({ maps with
      domainToChallengeTokenMap := Function.update maps.domainToChallengeTokenMap domain none } :
        Challenges).Sound presents := by
  refine ⟨h.answers, ?_⟩
  intro name other hother
  by_cases hname : name = domain
  · subst hname
    dsimp only at hother
    rw [Function.update_self] at hother
    cases hother
  · dsimp only at hother
    rw [Function.update_of_ne hname] at hother
    exact h.tokens name other hother

/-- The domains that have the token as well are left without its entry. -/
theorem removed (h : maps.Sound presents) (hpresents : presents domain token keyAuthorization) :
    (maps.removed domain token).Sound presents := by
  refine ⟨?_, ?_⟩
  · intro other answer hanswer
    by_cases hother : other = token
    · rw [hother, removed_challengeMap, Function.update_self] at hanswer
      cases hanswer
    · rw [removed_challengeMap, Function.update_of_ne hother] at hanswer
      exact h.answers other answer hanswer
  · intro name other hother
    by_cases hname : name = domain
    · rw [hname, removed_domainToChallengeTokenMap, Function.update_self] at hother
      cases hother
    · rw [removed_domainToChallengeTokenMap, Function.update_of_ne hname] at hother
      obtain ⟨hfound, hkept⟩ := h.tokens name other hother
      refine ⟨hfound, ?_⟩
      by_cases hsame : other = token
      · exact .inr ⟨domain, keyAuthorization, Ne.symm hname, hsame ▸ hpresents⟩
      · rw [removed_challengeMap, Function.update_of_ne hsame]
        exact hkept

theorem call {manager : LECertManager acme} {outcomes : Outcomes acme} (h : maps.Sound presents)
    (hpresents : ∀ finalizeUrl orderUrl challenge token keyAuthorization,
      manager.Reaches libs outcomes domain finalizeUrl orderUrl challenge token
        keyAuthorization → presents domain token keyAuthorization) :
    (run (manager.getOrCreateCert libs outcomes domain) maps).2.Sound presents := by
  cases hpending : maps.domainToChallengeTokenMap domain with
  | some token =>
    rw [manager.run_getOrCreateCert_pending outcomes hpending]
    exact h
  | none =>
    obtain ⟨hafter, -⟩ | ⟨_, _, _, token, keyAuthorization, hreaches, hafter⟩ :=
      manager.run_getOrCreateCert_fresh libs outcomes hpending
    · rw [hafter]
      exact h
    · have hstored := hpresents _ _ _ _ _ hreaches
      obtain ⟨-, hafter⟩ | ⟨-, hafter⟩ := hafter
      · rw [hafter]
        exact (h.stored hstored).removed hstored
      · rw [hafter]
        exact h.stored hstored

end Challenges.Sound

namespace LetsEncryptWorker

variable {manager : LECertManager acme} {self : LetsEncryptWorker libs}

theorem sound_step {presents : String → String → String → Prop}
    (h : self.challenges.Sound presents) {op : WorkerOp acme}
    (hpresents : ∀ domain token keyAuthorization,
      Presents libs manager [op] domain token keyAuthorization →
        presents domain token keyAuthorization) :
    (self.step manager op).challenges.Sound presents := by
  cases op with
  | resolve files now serverName => exact h
  | attempt mail config outcomes now domain =>
    rcases step_attempt_challenges manager self mail config outcomes now domain with
      ⟨-, hstep⟩ | ⟨-, hstep⟩
    · rw [hstep]
      exact h
    · rw [hstep]
      apply h.call
      intro finalizeUrl orderUrl challenge token keyAuthorization hreaches
      exact hpresents domain token keyAuthorization ⟨mail, config, outcomes, now, finalizeUrl,
        orderUrl, challenge, List.mem_singleton.mpr rfl, hreaches⟩

theorem sound_seen {presents : String → String → String → Prop}
    (h : self.challenges.Sound presents) {op : WorkerOp acme}
    (hpresents : ∀ domain token keyAuthorization,
      Presents libs manager [op] domain token keyAuthorization →
        presents domain token keyAuthorization)
    {maps : Challenges} (hseen : Seen manager self op maps) : maps.Sound presents := by
  have hstored {mail config outcomes now domain finalizeUrl orderUrl challenge token
      keyAuthorization} (hop : op = .attempt mail config outcomes now domain)
      (hreaches : manager.Reaches libs outcomes domain finalizeUrl orderUrl challenge token
        keyAuthorization) : presents domain token keyAuthorization :=
    hpresents domain token keyAuthorization ⟨mail, config, outcomes, now, finalizeUrl, orderUrl,
      challenge, List.mem_singleton.mpr hop.symm, hreaches⟩
  cases hseen with
  | before => exact h
  | storing horders hnone hreaches => exact h.storing (hstored rfl hreaches)
  | stored horders hnone hreaches => exact h.stored (hstored rfl hreaches)
  | removing horders hnone hreaches => exact (h.stored (hstored rfl hreaches)).removing
  | after => exact sound_step h hpresents

theorem Presents.mono {ops all : List (WorkerOp acme)} (hsub : ops ⊆ all)
    {domain token keyAuthorization : String}
    (h : Presents libs manager ops domain token keyAuthorization) :
    Presents libs manager all domain token keyAuthorization := by
  obtain ⟨mail, config, outcomes, now, finalizeUrl, orderUrl, challenge, hop, hreaches⟩ := h
  exact ⟨mail, config, outcomes, now, finalizeUrl, orderUrl, challenge, hsub hop, hreaches⟩

theorem sound_run (enableLetsEncrypt : Bool) {ops all : List (WorkerOp acme)}
    (hsub : ops ⊆ all) :
    (Machine.run (step manager) (new enableLetsEncrypt : LetsEncryptWorker libs)
      ops).challenges.Sound (Presents libs manager all) := by
  apply (Machine.meets_of_forall (fun op hop => hsub hop) _).invariant
    (I := fun worker : LetsEncryptWorker libs =>
      worker.challenges.Sound (Presents libs manager all))
  · intro worker op h hop
    apply sound_step h
    intro domain token keyAuthorization
    exact Presents.mono (List.cons_subset.mpr ⟨hop, List.nil_subset _⟩)
  · refine ⟨?_, ?_⟩
    · rintro token keyAuthorization ⟨⟩
    · rintro domain token ⟨⟩

/-- What is expected for a token depends on nothing but the account. -/
theorem Presents.unique {ops : List (WorkerOp acme)} {domain other token first second : String}
    (h : Presents libs manager ops domain token first)
    (hother : Presents libs manager ops other token second) : first = second := by
  obtain ⟨_, _, _, _, _, _, _, -, hreaches⟩ := h
  obtain ⟨_, _, _, _, _, _, _, -, hreaches'⟩ := hother
  obtain ⟨_, -, hfind⟩ := hreaches.found
  obtain ⟨_, -, hfind'⟩ := hreaches'.found
  have hfirst := manager.generateKeyAuthorization_of_pending hfind
  rw [manager.generateKeyAuthorization_of_pending hfind'] at hfirst
  exact (Except.ok.inj hfirst).symm

/-- **Challenges**: at every moment of the rounds, a host without an entry is told so, and every
other one is answered with what Let's Encrypt expects for the token that it gave for this very
host, unless it gave the token for another one too. -/
theorem challenge_answered (libs : CertLibraries) (manager : LECertManager acme)
    (enableLetsEncrypt : Bool) (ops : List (WorkerOp acme)) (op : WorkerOp acme)
    {maps : Challenges}
    (hseen : Seen manager
      (Machine.run (step manager) (new enableLetsEncrypt : LetsEncryptWorker libs) ops) op maps)
    (host : String) :
    maps.domainToChallengeTokenMap (Routing.stripPort host) = none ∧
        challengeResponse maps host = "nothing here 2" ∨
      ∃ token, maps.domainToChallengeTokenMap (Routing.stripPort host) = some token ∧
        (Presents libs manager (ops ++ [op]) (Routing.stripPort host) token
            (challengeResponse maps host) ∨
          challengeResponse maps host = "nothing here 1" ∧
            ∃ other keyAuthorization, other ≠ Routing.stripPort host ∧
              Presents libs manager (ops ++ [op]) other token keyAuthorization) := by
  have hsound : maps.Sound (Presents libs manager (ops ++ [op])) := by
    apply sound_seen (sound_run enableLetsEncrypt (List.subset_append_left ops [op])) _ hseen
    intro domain token keyAuthorization
    exact Presents.mono (List.subset_append_right ops [op])
  unfold challengeResponse
  cases hpending : maps.domainToChallengeTokenMap (Routing.stripPort host) with
  | none => exact .inl ⟨rfl, rfl⟩
  | some token =>
    right
    refine ⟨token, rfl, ?_⟩
    obtain ⟨⟨keyAuthorization, hpresents⟩, hkept⟩ := hsound.tokens _ token hpending
    cases hanswer : maps.challengeMap token with
    | none =>
      simp only [hanswer]
      exact .inr ⟨trivial, hkept.resolve_left fun hsome => hsome hanswer⟩
    | some answer =>
      simp only [hanswer]
      left
      obtain ⟨other, hother⟩ := hsound.answers token answer hanswer
      rw [hother.unique hpresents]
      exact hpresents

/-- The challenge of a first order, while Let's Encrypt is told to validate. -/
theorem challenge_answered_stored :
    challengeResponse ((⟨fun _ => none, fun _ => none⟩ : Challenges).stored "example.com" "token"
        "token.digest") "example.com:80" = "token.digest" ∧
      Presents sampleLibraries sampleManager
        [.attempt (some "mail") { sampleConfig none with oddBoxUrl := some "example.com" }
          sampleOutcomes 1700000000 "example.com"]
        (Routing.stripPort "example.com:80") "token" "token.digest" := by
  have hserves : Serves (some "mail")
      { sampleConfig none with oddBoxUrl := some "example.com" } "example.com" :=
    ⟨rfl, mem_allSites_iff.mpr ⟨by decide, by decide⟩⟩
  have hreaches : sampleManager.Reaches sampleLibraries sampleOutcomes "example.com" "finalize"
      "order"
      (.object [("status", .string "pending"), ("token", .string "token"),
        ("type", .string "http-01"), ("url", .string "challenge")])
      "token" "token.digest" :=
    ⟨rfl, rfl, "authorization", rfl, rfl⟩
  have hseen : Seen sampleManager
      (new true : LetsEncryptWorker sampleLibraries) (.attempt (some "mail")
        { sampleConfig none with oddBoxUrl := some "example.com" } sampleOutcomes 1700000000
        "example.com")
      ((⟨fun _ => none, fun _ => none⟩ : Challenges).stored "example.com" "token"
        "token.digest") :=
    .stored ⟨rfl, hserves, rfl⟩ rfl hreaches
  have hanswer : challengeResponse ((⟨fun _ => none, fun _ => none⟩ : Challenges).stored
      "example.com" "token" "token.digest") "example.com:80" = "token.digest" := by
    decide
  rcases challenge_answered sampleLibraries sampleManager true [] _ hseen "example.com:80" with
    ⟨hnone, -⟩ | ⟨token, htoken, hpresents | ⟨hother, -⟩⟩
  · exact absurd hnone (by decide)
  · rw [hanswer] at hpresents
    obtain rfl : "token" = token := by
      rw [← Option.some_inj, ← htoken]
      decide
    exact ⟨hanswer, hpresents⟩
  · rw [hanswer] at hother
    exact absurd hother (by decide)

end LetsEncryptWorker

end OddBox.LetsEncrypt

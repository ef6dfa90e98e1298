import OddBox.LetsEncrypt.Answers
import OddBox.Certs.Expiry

/-!
What a call of `get_or_create_cert` leaves in the two maps of challenges: a challenge that was
stored is removed at one place near the end, which every failure in between goes past.
-/

namespace OddBox.LetsEncrypt

open OddBox.Certs

variable {libs : CertLibraries} {acme : AcmeLibraries}

/-! ## What the steps leave in the maps -/

section Steps

variable {α β : Type}

theorem run_get (next : Challenges → Call β) (maps : Challenges) :
    run (get >>= next) maps = run (next maps) maps :=
  rfl

theorem run_modify (change : Challenges → Challenges) (next : Unit → Call β) (maps : Challenges) :
    run (modify change >>= next) maps = run (next ()) (change maps) :=
  rfl

theorem run_step_ok (a : α) (next : α → Call β) (maps : Challenges) :
    run (step (.ok a) >>= next) maps = run (next a) maps :=
  rfl

theorem run_bind_ok {call : Call α} {maps after : Challenges} {a : α}
    (h : run call maps = (.ok a, after)) (next : α → Call β) :
    run (call >>= next) maps = run (next a) after := by
  change (ExceptT.bindCont next (run call maps).1) (run call maps).2 = _
  rw [h]
  rfl

theorem run_bind_error {call : Call α} {maps after : Challenges} {failure : Failure}
    (h : run call maps = (.error failure, after)) (next : α → Call β) :
    run (call >>= next) maps = (.error failure, after) := by
  change (ExceptT.bindCont next (run call maps).1) (run call maps).2 = _
  rw [h]
  rfl

theorem run_fallible_ok (a : α) (next : α → Call β) (maps : Challenges) :
    run (fallible (.ok a) >>= next) maps = run (next a) maps :=
  rfl

theorem run_wait_none (domainName : String) (left : Nat) {maps : Challenges}
    (h : maps.domainToChallengeTokenMap domainName = none) :
    run (waitForPendingChallenge domainName left) maps = (.ok (), maps) := by
  cases left with
  | zero =>
    rw [waitForPendingChallenge, run_get]
    simp only [h]
    rfl
  | succ left =>
    rw [waitForPendingChallenge, run_get]
    simp only [h]
    rfl

/-- Nobody removes a challenge that is pending at the start: all rounds find it. -/
theorem run_wait_some (domainName : String) (left : Nat) {maps : Challenges} {token : String}
    (h : maps.domainToChallengeTokenMap domainName = some token) :
    run (waitForPendingChallenge domainName left) maps =
      (.error (.error ["Challenge timed out for domain: " ++ domainName]), maps) := by
  induction left with
  | zero =>
    rw [waitForPendingChallenge, run_get]
    simp only [h]
    rfl
  | succ left ih =>
    rw [waitForPendingChallenge, run_get]
    simp only [h]
    exact ih

end Steps

/-- The maps with a challenge. -/
def Challenges.stored (maps : Challenges) (domainName token keyAuthorization : String) :
    Challenges where
  challengeMap := Function.update maps.challengeMap token (some keyAuthorization)
  domainToChallengeTokenMap :=
    Function.update maps.domainToChallengeTokenMap domainName (some token)

/-- The maps without the challenge of a domain. -/
def Challenges.removed (maps : Challenges) (domainName token : String) : Challenges where
  challengeMap := Function.update maps.challengeMap token none
  domainToChallengeTokenMap := Function.update maps.domainToChallengeTokenMap domainName none

theorem run_cleanUp_none {α : Type} {domainName : String} {maps : Challenges}
    (h : maps.domainToChallengeTokenMap domainName = none) (next : Unit → Call α) :
    run (cleanUp domainName >>= next) maps = run (next ()) maps := by
  rw [cleanUp, run_modify]
  simp only [h]

theorem run_cleanUp_some {α : Type} {domainName token : String} {maps : Challenges}
    (h : maps.domainToChallengeTokenMap domainName = some token) (next : Unit → Call α) :
    run (cleanUp domainName >>= next) maps = run (next ()) (maps.removed domainName token) := by
  rw [cleanUp, run_modify]
  simp only [h]
  rfl

/-- The call comes to the point where it stores a challenge, by what is answered until then. -/
structure LECertManager.Reaches (manager : LECertManager acme) (libs : CertLibraries)
    (outcomes : Outcomes acme) (domainName finalizeUrl orderUrl : String) (challenge : Value)
    (token keyAuthorization : String) : Prop where
  directory : outcomes.createDirAll = .ok ()
  unvalidated : storedCert libs outcomes = .ok (.renewed false)
  found : ∃ authUrl, manager.createOrder outcomes.order domainName =
      .ok (authUrl, finalizeUrl, orderUrl) ∧
    manager.findHttp01Challenge outcomes.authorization authUrl =
      .ok (.pending challenge token keyAuthorization)

namespace LECertManager

variable (self : LECertManager acme)

/-- All that is answered from there on is a success. -/
def Completes (outcomes : Outcomes acme) (domainName finalizeUrl orderUrl : String)
    (challenge : Value) : Prop :=
  ∃ url cert key, self.Triggered outcomes.trigger challenge url ∧
    self.Polled outcomes.challengePolls url ∧
    self.Issued outcomes domainName finalizeUrl orderUrl cert key

/-- The part after the order, where the challenge was validated long ago or just now. -/
def issueAndCleanUp (libs : CertLibraries) (outcomes : Outcomes acme)
    (domainName finalizeUrl orderUrl : String) : Call (CertifiedKey libs) := do
  let (theNewCert, theNewKey) ← fallible
    (self.issueCertificate outcomes domainName finalizeUrl orderUrl)
  cleanUp domainName
  fallible (certifiedKeyFromPem libs theNewCert theNewKey)

theorem run_issueAndCleanUp_none {outcomes : Outcomes acme}
    {domainName finalizeUrl orderUrl : String} {maps : Challenges}
    (h : maps.domainToChallengeTokenMap domainName = none) :
    (run (self.issueAndCleanUp libs outcomes domainName finalizeUrl orderUrl) maps).2 = maps := by
  unfold issueAndCleanUp
  cases self.issueCertificate outcomes domainName finalizeUrl orderUrl with
  | error e => rfl
  | ok texts =>
    rw [run_fallible_ok, run_cleanUp_none h]
    rfl

theorem run_issueAndCleanUp_some (libs : CertLibraries) (outcomes : Outcomes acme)
    {domainName token : String} (finalizeUrl orderUrl : String) {maps : Challenges}
    (h : maps.domainToChallengeTokenMap domainName = some token) :
    (∃ cert key, self.Issued outcomes domainName finalizeUrl orderUrl cert key) ∧
        (run (self.issueAndCleanUp libs outcomes domainName finalizeUrl orderUrl) maps).2 =
          maps.removed domainName token ∨
      (¬ ∃ cert key, self.Issued outcomes domainName finalizeUrl orderUrl cert key) ∧
        (run (self.issueAndCleanUp libs outcomes domainName finalizeUrl orderUrl) maps).2 =
          maps := by
  unfold issueAndCleanUp
  cases hissue : self.issueCertificate outcomes domainName finalizeUrl orderUrl with
  | error e =>
    right
    refine ⟨?_, rfl⟩
    rintro ⟨cert, key, hissued⟩
    rw [self.issueCertificate_eq_ok.mpr hissued] at hissue
    cases hissue
  | ok texts =>
    left
    refine ⟨⟨texts.1, texts.2, self.issueCertificate_eq_ok.mp hissue⟩, ?_⟩
    rw [run_fallible_ok, run_cleanUp_some h]
    rfl

/-- The validation of the domain, and what follows it. -/
def validateAndIssue (libs : CertLibraries) (outcomes : Outcomes acme)
    (authUrl domainName finalizeUrl orderUrl : String) : Call (CertifiedKey libs) := do
  let challengeUrl ← self.handleHttp01Challenge outcomes authUrl domainName
  fallible (self.pollOrderStatusUtilValid outcomes.challengePolls challengeUrl)
  self.issueAndCleanUp libs outcomes domainName finalizeUrl orderUrl

theorem run_handle_pending {outcomes : Outcomes acme} {authUrl token keyAuthorization : String}
    {challenge : Value}
    (h : self.findHttp01Challenge outcomes.authorization authUrl =
      .ok (.pending challenge token keyAuthorization)) (domainName : String) (maps : Challenges) :
    run (self.handleHttp01Challenge outcomes authUrl domainName) maps =
      ((self.triggerChallenge outcomes.trigger challenge).mapError Failure.error,
        maps.stored domainName token keyAuthorization) := by
  rw [handleHttp01Challenge, h]
  rfl

/-- A challenge that was stored is removed if everything after it is a success, and stays
otherwise. -/
theorem run_validateAndIssue_pending {outcomes : Outcomes acme}
    {authUrl domainName finalizeUrl orderUrl token keyAuthorization : String} {challenge : Value}
    (h : self.findHttp01Challenge outcomes.authorization authUrl =
      .ok (.pending challenge token keyAuthorization)) (maps : Challenges) :
    self.Completes outcomes domainName finalizeUrl orderUrl challenge ∧
        (run (self.validateAndIssue libs outcomes authUrl domainName finalizeUrl orderUrl) maps).2 =
          (maps.stored domainName token keyAuthorization).removed domainName token ∨
      ¬ self.Completes outcomes domainName finalizeUrl orderUrl challenge ∧
        (run (self.validateAndIssue libs outcomes authUrl domainName finalizeUrl orderUrl) maps).2 =
          maps.stored domainName token keyAuthorization := by
  have hhandle := self.run_handle_pending h domainName maps
  have hpending : (maps.stored domainName token keyAuthorization).domainToChallengeTokenMap
      domainName = some token := Function.update_self _ _ _
  unfold validateAndIssue
  cases htrigger : self.triggerChallenge outcomes.trigger challenge with
  | error e =>
    right
    rw [htrigger] at hhandle
    rw [run_bind_error hhandle]
    refine ⟨?_, rfl⟩
    rintro ⟨url, cert, key, htriggered, -, -⟩
    rw [self.triggerChallenge_eq_ok.mpr htriggered] at htrigger
    cases htrigger
  | ok url =>
    rw [htrigger] at hhandle
    rw [run_bind_ok hhandle]
    -- The URL is determined by the answer to the trigger.
    have hurl {other : String} (ht : self.Triggered outcomes.trigger challenge other) :
        other = url := by
      rw [self.triggerChallenge_eq_ok.mpr ht] at htrigger
      cases htrigger
      rfl
    cases hpoll : self.pollOrderStatusUtilValid outcomes.challengePolls url with
    | error e =>
      right
      refine ⟨?_, rfl⟩
      rintro ⟨other, cert, key, htriggered, hpolled, -⟩
      obtain rfl := hurl htriggered
      rw [self.pollOrderStatusUtilValid_eq_ok.mpr hpolled] at hpoll
      cases hpoll
    | ok done =>
      rw [run_fallible_ok]
      obtain ⟨⟨cert, key, hissued⟩, hafter⟩ | ⟨hnot, hafter⟩ :=
        self.run_issueAndCleanUp_some libs outcomes finalizeUrl orderUrl hpending
      · left
        exact ⟨⟨url, cert, key, self.triggerChallenge_eq_ok.mp htrigger,
          self.pollOrderStatusUtilValid_eq_ok.mp hpoll, hissued⟩, hafter⟩
      · right
        refine ⟨?_, hafter⟩
        rintro ⟨other, cert, key, -, -, hissued⟩
        exact hnot ⟨cert, key, hissued⟩

theorem run_validateAndIssue_other {outcomes : Outcomes acme}
    {authUrl domainName finalizeUrl orderUrl : String} {maps : Challenges}
    (hnone : maps.domainToChallengeTokenMap domainName = none)
    (h : ∀ challenge token keyAuthorization,
      self.findHttp01Challenge outcomes.authorization authUrl ≠
        .ok (.pending challenge token keyAuthorization)) :
    (run (self.validateAndIssue libs outcomes authUrl domainName finalizeUrl orderUrl) maps).2 =
      maps := by
  unfold validateAndIssue
  cases hfind : self.findHttp01Challenge outcomes.authorization authUrl with
  | error e =>
    have hhandle : run (self.handleHttp01Challenge outcomes authUrl domainName) maps =
        (.error (.error e), maps) := by
      rw [handleHttp01Challenge, hfind]
      rfl
    rw [run_bind_error hhandle]
  | ok found =>
    cases found with
    | pending challenge token keyAuthorization => exact absurd hfind (h _ _ _)
    | validated url =>
      have hhandle : run (self.handleHttp01Challenge outcomes authUrl domainName) maps =
          (.ok url, maps) := by
        rw [handleHttp01Challenge, hfind]
        rfl
      rw [run_bind_ok hhandle]
      cases self.pollOrderStatusUtilValid outcomes.challengePolls url with
      | error e => rfl
      | ok done =>
        rw [run_fallible_ok]
        exact self.run_issueAndCleanUp_none hnone

/-- The call with a challenge pending at its start: it waits, gives up and changes nothing. -/
theorem run_getOrCreateCert_pending (outcomes : Outcomes acme) {domainName token : String}
    {maps : Challenges} (h : maps.domainToChallengeTokenMap domainName = some token) :
    run (self.getOrCreateCert libs outcomes domainName) maps =
      (.error (.error ["Challenge timed out for domain: " ++ domainName]), maps) :=
  run_bind_error (run_wait_some domainName 15 h) _

/-- A certificate that is not to be validated: no challenge is stored. -/
theorem not_reaches_of_storedCert {outcomes : Outcomes acme} {domainName : String}
    {stored : Except Failure (StoredCert libs)} (hstored : storedCert libs outcomes = stored)
    (h : stored ≠ .ok (.renewed false)) :
    ∀ finalizeUrl orderUrl challenge token keyAuthorization,
      ¬ self.Reaches libs outcomes domainName finalizeUrl orderUrl challenge token
        keyAuthorization := by
  intro _ _ _ _ _ hreaches
  exact h (hstored.symm.trans hreaches.unvalidated)

/-- A call with no challenge pending at its start leaves the maps as they are, or comes to
store a challenge and removes it at the end, or stores it and fails on the way. -/
theorem run_getOrCreateCert_fresh (libs : CertLibraries) (outcomes : Outcomes acme)
    {domainName : String} {maps : Challenges}
    (h : maps.domainToChallengeTokenMap domainName = none) :
    (run (self.getOrCreateCert libs outcomes domainName) maps).2 = maps ∧
        (∀ finalizeUrl orderUrl challenge token keyAuthorization,
          ¬ self.Reaches libs outcomes domainName finalizeUrl orderUrl challenge token
            keyAuthorization) ∨
      ∃ finalizeUrl orderUrl challenge token keyAuthorization,
        self.Reaches libs outcomes domainName finalizeUrl orderUrl challenge token
          keyAuthorization ∧
        (self.Completes outcomes domainName finalizeUrl orderUrl challenge ∧
            (run (self.getOrCreateCert libs outcomes domainName) maps).2 =
              (maps.stored domainName token keyAuthorization).removed domainName token ∨
          ¬ self.Completes outcomes domainName finalizeUrl orderUrl challenge ∧
            (run (self.getOrCreateCert libs outcomes domainName) maps).2 =
              maps.stored domainName token keyAuthorization) := by
  unfold getOrCreateCert
  rw [run_bind_ok (run_wait_none domainName 15 h)]
  cases hdirectory : outcomes.createDirAll with
  | error e =>
    left
    refine ⟨rfl, fun _ _ _ _ _ hreaches => ?_⟩
    rw [hreaches.directory] at hdirectory
    cases hdirectory
  | ok made =>
  simp only [Except.mapError, run_fallible_ok]
  cases hstored : storedCert libs outcomes with
  | error failure => exact .inl ⟨rfl, self.not_reaches_of_storedCert hstored (by simp)⟩
  | ok stored =>
  rw [run_step_ok]
  cases stored with
  | kept certifiedKey => exact .inl ⟨rfl, self.not_reaches_of_storedCert hstored (by simp)⟩
  | renewed skipValidation =>
  cases horder : self.createOrder outcomes.order domainName with
  | error e =>
    left
    refine ⟨rfl, fun _ _ _ _ _ hreaches => ?_⟩
    obtain ⟨authUrl, hcreate, -⟩ := hreaches.found
    rw [hcreate] at horder
    cases horder
  | ok urls =>
  obtain ⟨authUrl, finalizeUrl, orderUrl⟩ := urls
  simp only [context, Except.mapError, run_fallible_ok]
  cases skipValidation with
  | true =>
    left
    exact ⟨self.run_issueAndCleanUp_none h, self.not_reaches_of_storedCert hstored (by simp)⟩
  | false =>
  by_cases hfind : ∃ challenge token keyAuthorization,
      self.findHttp01Challenge outcomes.authorization authUrl =
        .ok (.pending challenge token keyAuthorization)
  · right
    obtain ⟨challenge, token, keyAuthorization, hfind⟩ := hfind
    refine ⟨finalizeUrl, orderUrl, challenge, token, keyAuthorization,
      ⟨hdirectory, hstored, authUrl, horder, hfind⟩, ?_⟩
    exact self.run_validateAndIssue_pending hfind maps
  · left
    refine ⟨?_, fun _ _ challenge token keyAuthorization hreaches => ?_⟩
    · exact self.run_validateAndIssue_other h
        (fun challenge token keyAuthorization hpending =>
          hfind ⟨challenge, token, keyAuthorization, hpending⟩)
    · obtain ⟨other, hcreate, hpending⟩ := hreaches.found
      rw [hcreate] at horder
      cases horder
      exact hfind ⟨challenge, token, keyAuthorization, hpending⟩

/-- What a call reaches is determined by its answers. -/
theorem Reaches.unique {outcomes : Outcomes acme}
    {domainName finalizeUrl orderUrl token keyAuthorization : String} {challenge : Value}
    {finalizeUrl' orderUrl' token' keyAuthorization' : String} {challenge' : Value}
    (h : self.Reaches libs outcomes domainName finalizeUrl orderUrl challenge token
      keyAuthorization)
    (h' : self.Reaches libs outcomes domainName finalizeUrl' orderUrl' challenge' token'
      keyAuthorization') :
    finalizeUrl = finalizeUrl' ∧ orderUrl = orderUrl' ∧ challenge = challenge' ∧
      token = token' := by
  obtain ⟨authUrl, hcreate, hfind⟩ := h.found
  obtain ⟨authUrl', hcreate', hfind'⟩ := h'.found
  rw [hcreate] at hcreate'
  cases hcreate'
  rw [hfind] at hfind'
  cases hfind'
  exact ⟨rfl, rfl, rfl, rfl⟩

/-- The call creates an entry for the token. -/
def Creates (libs : CertLibraries) (outcomes : Outcomes acme) (domainName : String)
    (before : Challenges) (token : String) : Prop :=
  before.domainToChallengeTokenMap domainName = none ∧
    ∃ finalizeUrl orderUrl challenge keyAuthorization,
      self.Reaches libs outcomes domainName finalizeUrl orderUrl challenge token keyAuthorization

/-- Every other entry is as it was. -/
theorem challengeMap_of_not_creates {outcomes : Outcomes acme} {domainName token : String}
    {before : Challenges} (h : ¬ self.Creates libs outcomes domainName before token) :
    (run (self.getOrCreateCert libs outcomes domainName) before).2.challengeMap token =
      before.challengeMap token := by
  cases hpending : before.domainToChallengeTokenMap domainName with
  | some pending => rw [self.run_getOrCreateCert_pending outcomes hpending]
  | none =>
    obtain ⟨hafter, -⟩ | ⟨_, _, _, stored, _, hreaches, hafter⟩ :=
      self.run_getOrCreateCert_fresh libs outcomes hpending
    · rw [hafter]
    · have hother : token ≠ stored := by
        rintro rfl
        exact h ⟨hpending, _, _, _, _, hreaches⟩
      obtain ⟨-, hafter⟩ | ⟨-, hafter⟩ := hafter
      · rw [hafter]
        simp only [Challenges.removed, Challenges.stored, Function.update_of_ne hother]
      · rw [hafter]
        exact Function.update_of_ne hother _ _

end LECertManager

/-- The domain has no entry, and no token has one that the call created. -/
structure CleanedUp (manager : LECertManager acme) (libs : CertLibraries)
    (outcomes : Outcomes acme) (domainName : String) (before after : Challenges) : Prop where
  domain : after.domainToChallengeTokenMap domainName = none
  tokens : ∀ token, manager.Creates libs outcomes domainName before token →
    after.challengeMap token = none

/-- **What is left after a call**: nothing, exactly when no challenge was pending at its start
and, if the call comes to store one, everything from there on is a success. -/
theorem cleaned_up_iff (manager : LECertManager acme) (libs : CertLibraries)
    (outcomes : Outcomes acme) (domainName : String) (before : Challenges) :
    CleanedUp manager libs outcomes domainName before
        (run (manager.getOrCreateCert libs outcomes domainName) before).2 ↔
      before.domainToChallengeTokenMap domainName = none ∧
        ∀ finalizeUrl orderUrl challenge token keyAuthorization,
          manager.Reaches libs outcomes domainName finalizeUrl orderUrl challenge token
            keyAuthorization →
          manager.Completes outcomes domainName finalizeUrl orderUrl challenge := by
  cases hpending : before.domainToChallengeTokenMap domainName with
  | some token =>
    rw [manager.run_getOrCreateCert_pending outcomes hpending]
    constructor
    · intro h
      rw [h.domain] at hpending
      cases hpending
    · rintro ⟨h, -⟩
      cases h
  | none =>
    obtain ⟨hafter, hnot⟩ | ⟨_, _, _, token, _, hreaches, hafter⟩ :=
      manager.run_getOrCreateCert_fresh libs outcomes hpending
    · rw [hafter]
      constructor
      · intro _
        exact ⟨rfl, fun _ _ _ _ _ hreaches => absurd hreaches (hnot _ _ _ _ _)⟩
      · intro _
        refine ⟨hpending, ?_⟩
        rintro token ⟨-, _, _, _, _, hreaches⟩
        exact absurd hreaches (hnot _ _ _ _ _)
    · obtain ⟨hcompletes, hafter⟩ | ⟨hfails, hafter⟩ := hafter
      · rw [hafter]
        constructor
        · intro _
          refine ⟨rfl, fun _ _ _ _ _ hother => ?_⟩
          obtain ⟨rfl, rfl, rfl, -⟩ := hreaches.unique manager hother
          exact hcompletes
        · intro _
          refine ⟨Function.update_self _ _ _, ?_⟩
          rintro created ⟨-, _, _, _, _, hother⟩
          obtain ⟨-, -, -, rfl⟩ := hreaches.unique manager hother
          exact Function.update_self _ _ _
      · rw [hafter]
        constructor
        · intro h
          have hdomain := h.domain
          simp only [Challenges.stored, Function.update_self] at hdomain
          cases hdomain
        · rintro ⟨-, h⟩
          exact absurd (h _ _ _ _ _ hreaches) hfails

/-! ## Later attempts -/

/-- Calls for one domain, one after the other. -/
def attempts (manager : LECertManager acme) (libs : CertLibraries) (domainName : String) :
    List (Outcomes acme) → Challenges →
      List (Except Failure (CertifiedKey libs)) × Challenges
  | [], maps => ([], maps)
  | outcomes :: later, maps =>
    let first := run (manager.getOrCreateCert libs outcomes domainName) maps
    let rest := attempts manager libs domainName later first.2
    (first.1 :: rest.1, rest.2)

/-- A challenge that stays is waited for in every later call, whatever the network answers. -/
theorem attempts_pending (manager : LECertManager acme) {domainName token : String}
    {maps : Challenges} (h : maps.domainToChallengeTokenMap domainName = some token)
    (later : List (Outcomes acme)) :
    (attempts manager libs domainName later maps).2 = maps ∧
      ∀ result ∈ (attempts manager libs domainName later maps).1,
        result = .error (.error ["Challenge timed out for domain: " ++ domainName]) := by
  induction later with
  | nil => exact ⟨rfl, fun result hresult => by cases hresult⟩
  | cons outcomes later ih =>
    simp only [attempts, manager.run_getOrCreateCert_pending outcomes h]
    refine ⟨ih.1, ?_⟩
    intro result hresult
    cases hresult with
    | head => rfl
    | tail _ hresult => exact ih.2 result hresult

/-- A clean call leaves nothing that the next one waits for. -/
theorem CleanedUp.wait {manager : LECertManager acme} {outcomes : Outcomes acme}
    {domainName : String} {before after : Challenges}
    (h : CleanedUp manager libs outcomes domainName before after) (left : Nat) :
    run (waitForPendingChallenge domainName left) after = (.ok (), after) :=
  run_wait_none domainName left h.domain

/-! ## A failure on the way -/

/-- Every text these make is the same one. -/
def sampleAcme : AcmeLibraries where
  KeyPair := Unit
  constructJwk _ := .ok (.object [("kty", .string "EC"), ("crv", .string "P-256")])
  toString _ := .ok "text"
  display _ := "text"
  debug _ := "text"
  base64 text := text
  digest _ := "digest"
  signWithRcgenKeypair _ _ := .ok "signature"
  serializePem _ := "key"

def sampleManager : LECertManager sampleAcme where
  accCertifiedKey := ()
  accountUrl := some "account"
  newNonce := "new-nonce"
  newOrder := "new-order"

/-- An answer with a nonce, a place and a body. -/
def sampleResponse (body : Value) : Response where
  status := 200
  header name :=
    if name = "replay-nonce" then some (.ok "nonce")
    else if name = "Location" then some (.ok "order")
    else none
  text := .ok "text"
  json := .ok body

def sampleExchange (body : Value) : Exchange where
  head _ := .ok (sampleResponse .null)
  post _ _ := .ok (sampleResponse body)

/-- The order is made and the challenge found; then the network is down. -/
def sampleOutcomes : Outcomes sampleAcme where
  createDirAll := .ok ()
  certFileExists := false
  keyFileExists := false
  readCert := .error ["No such file or directory"]
  readKey := .error ["No such file or directory"]
  now := 1700000000
  order := sampleExchange (.object
    [("authorizations", .array [.string "authorization"]), ("finalize", .string "finalize")])
  authorization _ := .ok (sampleResponse (.object
    [("challenges", .array [.object
      [("status", .string "pending"), ("token", .string "token"), ("type", .string "http-01"),
        ("url", .string "challenge")]])]))
  trigger :=
    ⟨fun _ => .error ["error sending request"], fun _ _ => .error ["error sending request"]⟩
  challengePolls _ := sampleExchange .null
  createCsr _ := .ok ("csr", ())
  finalize := sampleExchange .null
  orderPolls _ := sampleExchange .null
  certificate := sampleExchange .null
  download _ := .error ["error sending request"]
  writeCert _ := .ok ()
  writeKey _ := .ok ()

/-- The first attempt for a domain fails after the challenge was stored, and its entry stays. -/
theorem left_after_failure :
    ¬ CleanedUp sampleManager sampleLibraries sampleOutcomes "example.com"
      ⟨fun _ => none, fun _ => none⟩
      (run (sampleManager.getOrCreateCert sampleLibraries sampleOutcomes "example.com")
        ⟨fun _ => none, fun _ => none⟩).2 := by
  intro h
  have hstays : (run (sampleManager.getOrCreateCert sampleLibraries sampleOutcomes "example.com")
      ⟨fun _ => none, fun _ => none⟩).2.domainToChallengeTokenMap "example.com" = some "token" := by
    rfl
  rw [h.domain] at hstays
  cases hstays

end OddBox.LetsEncrypt

import OddBox.LetsEncrypt.Manager
import OddBox.Checked

/-!
When the steps of a certificate order are a success, said of the answers they are given: one
lemma for each function that talks to Let's Encrypt.
-/

namespace OddBox.LetsEncrypt

open OddBox.Checked

variable {acme : AcmeLibraries}

namespace LECertManager

variable (self : LECertManager acme)

/-- A signed request is answered. -/
def Answers (exchange : Exchange) (payload : Option Value) (url : String)
    (response : Response) : Prop :=
  ∃ nonce signedRequest, fetchNonce exchange.head self.newNonce = .ok nonce ∧
    signRequest self.accCertifiedKey payload nonce url self.accountUrl = .ok signedRequest ∧
    exchange.post url signedRequest = .ok response

/-- Let's Encrypt takes the challenge up. -/
def Triggered (exchange : Exchange) (challenge : Value) (url : String) : Prop :=
  ∃ challengeUrl response body, (challenge.index "url").asStr = some challengeUrl ∧
    self.Answers exchange (some (.object [])) challengeUrl response ∧
    response.isSuccess = true ∧ response.json = .ok body ∧
    ∃ x, body.get "url" = some x ∧ x.asStr = some url

/-- A round is answered, with a status that is valid or another one. -/
def Round (exchange : Exchange) (orderUrl : String) (valid : Bool) : Prop :=
  ∃ response body, self.Answers exchange none orderUrl response ∧ response.json = .ok body ∧
    (body.index "status").isStr "valid" = valid

/-- One of the six rounds finds a valid status, and all before it are answered. -/
def Polled (polls : Nat → Exchange) (orderUrl : String) : Prop :=
  ∃ n < 6, self.Round (polls n) orderUrl true ∧ ∀ m < n, self.Round (polls m) orderUrl false

def Finalized (outcomes : Outcomes acme) (finalizeUrl domainName : String)
    (kvp : acme.KeyPair) : Prop :=
  ∃ csr response, outcomes.createCsr domainName = .ok (csr, kvp) ∧
    self.Answers outcomes.finalize (some (.object [("csr", .string csr)])) finalizeUrl response ∧
    response.isSuccess = true ∧ ∃ body, response.text = .ok body

def Fetched (outcomes : Outcomes acme) (orderUrl cert : String) : Prop :=
  ∃ response body certUrl last, self.Answers outcomes.certificate none orderUrl response ∧
    response.isSuccess = true ∧ response.json = .ok body ∧
    (body.index "certificate").asStr = some certUrl ∧ outcomes.download certUrl = .ok last ∧
    last.text = .ok cert

theorem okOr_eq_ok {α : Type} {found : Option α} {text : String} {a : α} :
    okOr found text = .ok a ↔ found = some a := by
  cases found with
  | none =>
    constructor <;> intro h <;> cases h
  | some found =>
    constructor
    · intro h
      cases h
      rfl
    · intro h
      cases h
      rfl

theorem mapError_eq_ok {ε δ α : Type} {f : ε → δ} {result : Except ε α} {a : α} :
    result.mapError f = .ok a ↔ result = .ok a := by
  cases result with
  | error e =>
    constructor <;> intro h <;> cases h
  | ok found =>
    constructor
    · intro h
      cases h
      rfl
    · intro h
      cases h
      rfl

theorem context_eq_ok {α : Type} {text : String} {result : Except Error α} {a : α} :
    context text result = .ok a ↔ result = .ok a :=
  mapError_eq_ok

/-- What follows a response goes on only if the response is a success. -/
theorem isSuccess_eq_ok {α : Type} {response : Response} {next : Except Error α}
    {failed : String → Error} {a : α} :
    (if response.isSuccess then next
      else do
        let text ← response.text
        .error (failed text)) = .ok a ↔ response.isSuccess = true ∧ next = .ok a := by
  cases response.isSuccess with
  | true => rw [if_pos rfl, eq_self, true_and]
  | false =>
    rw [if_neg Bool.false_ne_true]
    constructor
    · intro h
      obtain ⟨text, -, h⟩ := bind_eq_ok.mp h
      cases h
    · rintro ⟨hsuccess, -⟩
      contradiction

/-- What follows a signed request, whatever the error of its signature is told with. -/
theorem answers_eq_ok {α : Type} {exchange : Exchange} {payload : Option Value} {url : String}
    {sign : String → Except Error String} {next : Response → Except Error α} {a : α}
    (hsign : ∀ nonce signedRequest, sign nonce = .ok signedRequest ↔
      signRequest self.accCertifiedKey payload nonce url self.accountUrl = .ok signedRequest) :
    (do
      let nonce ← fetchNonce exchange.head self.newNonce
      let signedRequest ← sign nonce
      let response ← exchange.post url signedRequest
      next response) = .ok a ↔
        ∃ response, self.Answers exchange payload url response ∧ next response = .ok a := by
  constructor
  · intro h
    obtain ⟨nonce, hnonce, h⟩ := bind_eq_ok.mp h
    obtain ⟨signedRequest, hsigned, h⟩ := bind_eq_ok.mp h
    obtain ⟨response, hpost, h⟩ := bind_eq_ok.mp h
    exact ⟨response, ⟨nonce, signedRequest, hnonce, (hsign _ _).mp hsigned, hpost⟩, h⟩
  · rintro ⟨response, ⟨nonce, signedRequest, hnonce, hsigned, hpost⟩, h⟩
    refine bind_eq_ok.mpr ⟨nonce, hnonce, ?_⟩
    refine bind_eq_ok.mpr ⟨signedRequest, (hsign _ _).mpr hsigned, ?_⟩
    exact bind_eq_ok.mpr ⟨response, hpost, h⟩

theorem triggerChallenge_eq_ok {exchange : Exchange} {challenge : Value} {url : String} :
    self.triggerChallenge exchange challenge = .ok url ↔
      self.Triggered exchange challenge url := by
  constructor
  · intro h
    obtain ⟨challengeUrl, hurl, h⟩ := bind_eq_ok.mp h
    obtain ⟨response, hanswers, h⟩ := (self.answers_eq_ok fun _ _ => context_eq_ok).mp h
    obtain ⟨hsuccess, h⟩ := isSuccess_eq_ok.mp h
    obtain ⟨body, hbody, h⟩ := bind_eq_ok.mp h
    refine ⟨challengeUrl, response, body, okOr_eq_ok.mp hurl, hanswers, hsuccess, hbody, ?_⟩
    cases hget : body.get "url" with
    | none =>
      rw [hget] at h
      cases h
    | some x =>
      simp only [hget] at h
      refine ⟨x, rfl, ?_⟩
      cases hstr : x.asStr with
      | none =>
        rw [hstr] at h
        cases h
      | some found =>
        rw [hstr] at h
        cases h
        rfl
  · rintro ⟨challengeUrl, response, body, hurl, hanswers, hsuccess, hbody, x, hget, hstr⟩
    refine bind_eq_ok.mpr ⟨challengeUrl, okOr_eq_ok.mpr hurl, ?_⟩
    refine (self.answers_eq_ok fun _ _ => context_eq_ok).mpr ⟨response, hanswers, ?_⟩
    refine isSuccess_eq_ok.mpr ⟨hsuccess, bind_eq_ok.mpr ⟨body, hbody, ?_⟩⟩
    simp only [hget, hstr]

theorem pollOrderStatus_eq_ok {exchange : Exchange} {orderUrl : String} {valid : Bool} :
    self.pollOrderStatus exchange orderUrl = .ok valid ↔
      self.Round exchange orderUrl valid := by
  constructor
  · intro h
    obtain ⟨response, hanswers, h⟩ := (self.answers_eq_ok fun _ _ => Iff.rfl).mp h
    obtain ⟨body, hbody, h⟩ := bind_eq_ok.mp h
    exact ⟨response, body, hanswers, hbody, Except.ok.inj h⟩
  · rintro ⟨response, body, hanswers, hbody, hvalid⟩
    refine (self.answers_eq_ok fun _ _ => Iff.rfl).mpr ⟨response, hanswers, ?_⟩
    exact bind_eq_ok.mpr ⟨body, hbody, congrArg Except.ok hvalid⟩

/-- Induction on the rounds that are left: the first one is valid, or it is answered and the
others go on from there. -/
theorem pollFrom_eq_ok {polls : Nat → Exchange} {orderUrl : String} (left : Nat) :
    ∀ round, self.pollFrom polls orderUrl round left = .ok () ↔
      ∃ n ≤ left, self.Round (polls (round + n)) orderUrl true ∧
        ∀ m < n, self.Round (polls (round + m)) orderUrl false := by
  induction left with
  | zero =>
    intro round
    constructor
    · intro h
      obtain ⟨valid, hround, h⟩ := bind_eq_ok.mp h
      cases valid with
      | false => cases h
      | true => exact ⟨0, le_rfl, (self.pollOrderStatus_eq_ok).mp hround, fun m hm => by omega⟩
    · rintro ⟨n, hn, hround, -⟩
      obtain rfl : n = 0 := by omega
      exact bind_eq_ok.mpr ⟨true, (self.pollOrderStatus_eq_ok).mpr hround, rfl⟩
  | succ left ih =>
    intro round
    constructor
    · intro h
      obtain ⟨valid, hround, h⟩ := bind_eq_ok.mp h
      have hround := (self.pollOrderStatus_eq_ok).mp hround
      cases valid with
      | true => exact ⟨0, by omega, hround, fun m hm => by omega⟩
      | false =>
        obtain ⟨n, hn, hvalid, hbefore⟩ := (ih (round + 1)).mp h
        refine ⟨n + 1, by omega, ?_, ?_⟩
        · rwa [show round + (n + 1) = round + 1 + n by omega]
        · intro m hm
          cases m with
          | zero => exact hround
          | succ m =>
            rw [show round + (m + 1) = round + 1 + m by omega]
            exact hbefore m (by omega)
    · rintro ⟨n, hn, hvalid, hbefore⟩
      cases n with
      | zero => exact bind_eq_ok.mpr ⟨true, (self.pollOrderStatus_eq_ok).mpr hvalid, rfl⟩
      | succ n =>
        refine bind_eq_ok.mpr
          ⟨false, (self.pollOrderStatus_eq_ok).mpr (hbefore 0 (by omega)), ?_⟩
        apply (ih (round + 1)).mpr
        refine ⟨n, by omega, ?_, ?_⟩
        · rwa [show round + 1 + n = round + (n + 1) by omega]
        · intro m hm
          rw [show round + 1 + m = round + (m + 1) by omega]
          exact hbefore (m + 1) (by omega)

theorem pollOrderStatusUtilValid_eq_ok {polls : Nat → Exchange} {orderUrl : String} :
    self.pollOrderStatusUtilValid polls orderUrl = .ok () ↔ self.Polled polls orderUrl := by
  rw [pollOrderStatusUtilValid, self.pollFrom_eq_ok 5 0]
  simp only [Nat.zero_add, Polled, Nat.lt_succ_iff]

theorem finalizeOrder_eq_ok {outcomes : Outcomes acme} {finalizeUrl domainName : String}
    {kvp : acme.KeyPair} :
    self.finalizeOrder outcomes finalizeUrl domainName = .ok kvp ↔
      self.Finalized outcomes finalizeUrl domainName kvp := by
  constructor
  · intro h
    obtain ⟨nonce, hnonce, h⟩ := bind_eq_ok.mp h
    obtain ⟨⟨csr, pair⟩, hcsr, h⟩ := bind_eq_ok.mp h
    obtain ⟨signedRequest, hsigned, h⟩ := bind_eq_ok.mp h
    obtain ⟨response, hpost, h⟩ := bind_eq_ok.mp h
    obtain ⟨hsuccess, h⟩ := isSuccess_eq_ok.mp h
    obtain ⟨body, hbody, h⟩ := bind_eq_ok.mp h
    cases h
    exact ⟨csr, response, hcsr, ⟨nonce, signedRequest, hnonce, hsigned, hpost⟩, hsuccess,
      body, hbody⟩
  · rintro ⟨csr, response, hcsr, ⟨nonce, signedRequest, hnonce, hsigned, hpost⟩, hsuccess, body,
      hbody⟩
    refine bind_eq_ok.mpr ⟨nonce, hnonce, ?_⟩
    refine bind_eq_ok.mpr ⟨(csr, kvp), hcsr, ?_⟩
    refine bind_eq_ok.mpr ⟨signedRequest, hsigned, ?_⟩
    refine bind_eq_ok.mpr ⟨response, hpost, ?_⟩
    exact isSuccess_eq_ok.mpr ⟨hsuccess, bind_eq_ok.mpr ⟨body, hbody, rfl⟩⟩

theorem fetchCertificate_eq_ok {outcomes : Outcomes acme} {orderUrl cert : String} :
    self.fetchCertificate outcomes orderUrl = .ok cert ↔ self.Fetched outcomes orderUrl cert := by
  constructor
  · intro h
    obtain ⟨response, hanswers, h⟩ := (self.answers_eq_ok fun _ _ => Iff.rfl).mp h
    obtain ⟨hsuccess, h⟩ := isSuccess_eq_ok.mp h
    obtain ⟨body, hbody, h⟩ := bind_eq_ok.mp h
    obtain ⟨certUrl, hcert, h⟩ := bind_eq_ok.mp h
    obtain ⟨last, hlast, h⟩ := bind_eq_ok.mp h
    exact ⟨response, body, certUrl, last, hanswers, hsuccess, hbody, okOr_eq_ok.mp hcert, hlast, h⟩
  · rintro ⟨response, body, certUrl, last, hanswers, hsuccess, hbody, hcert, hlast, htext⟩
    refine (self.answers_eq_ok fun _ _ => Iff.rfl).mpr ⟨response, hanswers, ?_⟩
    refine isSuccess_eq_ok.mpr ⟨hsuccess, bind_eq_ok.mpr ⟨body, hbody, ?_⟩⟩
    refine bind_eq_ok.mpr ⟨certUrl, okOr_eq_ok.mpr hcert, ?_⟩
    exact bind_eq_ok.mpr ⟨last, hlast, htext⟩

/-- The certificate is issued and both files are written. -/
def Issued (outcomes : Outcomes acme) (domainName finalizeUrl orderUrl cert key : String) :
    Prop :=
  ∃ kvp, self.Finalized outcomes finalizeUrl domainName kvp ∧
    self.Polled outcomes.orderPolls orderUrl ∧ self.Fetched outcomes orderUrl cert ∧
    key = acme.serializePem kvp ∧ outcomes.writeCert cert = .ok () ∧
    outcomes.writeKey key = .ok ()

theorem issueCertificate_eq_ok {outcomes : Outcomes acme}
    {domainName finalizeUrl orderUrl cert key : String} :
    self.issueCertificate outcomes domainName finalizeUrl orderUrl = .ok (cert, key) ↔
      self.Issued outcomes domainName finalizeUrl orderUrl cert key := by
  constructor
  · intro h
    obtain ⟨kvp, hkvp, h⟩ := bind_eq_ok.mp h
    obtain ⟨⟨⟩, hpolled, h⟩ := bind_eq_ok.mp h
    obtain ⟨text, htext, h⟩ := bind_eq_ok.mp h
    obtain ⟨⟨⟩, hcert, h⟩ := bind_eq_ok.mp h
    obtain ⟨⟨⟩, hkey, h⟩ := bind_eq_ok.mp h
    cases h
    exact ⟨kvp, self.finalizeOrder_eq_ok.mp (context_eq_ok.mp hkvp),
      self.pollOrderStatusUtilValid_eq_ok.mp hpolled,
      self.fetchCertificate_eq_ok.mp (context_eq_ok.mp htext), rfl, hcert, hkey⟩
  · rintro ⟨kvp, hkvp, hpolled, hfetched, rfl, hcert, hkey⟩
    refine bind_eq_ok.mpr ⟨kvp, context_eq_ok.mpr (self.finalizeOrder_eq_ok.mpr hkvp), ?_⟩
    refine bind_eq_ok.mpr ⟨(), self.pollOrderStatusUtilValid_eq_ok.mpr hpolled, ?_⟩
    refine bind_eq_ok.mpr ⟨cert, context_eq_ok.mpr (self.fetchCertificate_eq_ok.mpr hfetched), ?_⟩
    refine bind_eq_ok.mpr ⟨(), hcert, ?_⟩
    exact bind_eq_ok.mpr ⟨(), hkey, rfl⟩

end LECertManager

end OddBox.LetsEncrypt

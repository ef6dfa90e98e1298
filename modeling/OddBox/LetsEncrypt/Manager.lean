import OddBox.Certs.Resolver

/-!
`LECertManager` of `letsencrypt.rs`: the order of a certificate, from the wait for a pending
challenge to the files it is written to. What the network, the files and the clock answer in
one call is given, place by place; calls are made one after the other, by one worker.
-/

namespace OddBox.LetsEncrypt

open OddBox.Certs

/-! ## JSON -/

/-- A `serde_json::Value`. The keys of an object are distinct. -/
inductive Value where
  | null
  | bool (b : Bool)
  | number (text : String)
  | string (s : String)
  | array (values : List Value)
  | object (fields : List (String × Value))

namespace Value

def get (self : Value) (key : String) : Option Value :=
  match self with
  | .object fields => fields.lookup key
  | _ => none

def getAt (self : Value) (index : Nat) : Option Value :=
  match self with
  | .array values => values[index]?
  | _ => none

/-- `value[key]` is null where nothing is found. -/
def index (self : Value) (key : String) : Value := (self.get key).getD .null

def asStr : Value → Option String
  | .string s => some s
  | _ => none

def asArray : Value → Option (List Value)
  | .array values => some values
  | _ => none

/-- `value == "text"`. -/
def isStr (self : Value) (text : String) : Bool := self.asStr == some text

end Value

/-! ## Errors and answers -/

/-- An `anyhow::Error`: its contexts, the outermost first. The errors of other crates have the
texts that these give them. -/
abbrev Error := List String

def context {α : Type} (text : String) (result : Except Error α) : Except Error α :=
  result.mapError (text :: ·)

/-- `ok_or_else`. -/
def okOr {α : Type} (found : Option α) (text : String) : Except Error α :=
  match found with
  | some a => .ok a
  | none => .error [text]

structure Response where
  status : Nat
  /-- A header, and what `to_str` makes of it. -/
  header : String → Option (Except Error String)
  text : Except Error String
  json : Except Error Value

def Response.isSuccess (self : Response) : Bool := decide (200 ≤ self.status ∧ self.status < 300)

/-- A nonce is fetched, then a signed request is posted. -/
structure Exchange where
  head : String → Except Error Response
  post : (url body : String) → Except Error Response

/-! ## The manager -/

variable (libs : CertLibraries)

/-- The crates `rcgen`, `p256`, `sha2`, `base64` and `serde_json`. -/
structure AcmeLibraries where
  KeyPair : Type
  constructJwk : KeyPair → Except Error Value
  toString : Value → Except Error String
  display : Value → String
  debug : Value → String
  base64 : String → String
  /-- The SHA-256 hash of a text, in base64. -/
  digest : String → String
  /-- The signature of a text, in base64. -/
  signWithRcgenKeypair : KeyPair → String → Except Error String
  serializePem : KeyPair → String

variable {libs} {acme : AcmeLibraries}

structure LECertManager (acme : AcmeLibraries) where
  accCertifiedKey : acme.KeyPair
  accountUrl : Option String
  newNonce : String
  newOrder : String

/-- What is answered in one call of `get_or_create_cert`. -/
structure Outcomes (acme : AcmeLibraries) where
  createDirAll : Except Error Unit
  certFileExists : Bool
  keyFileExists : Bool
  readCert : Except Error String
  readKey : Except Error String
  now : Int
  order : Exchange
  authorization : String → Except Error Response
  trigger : Exchange
  challengePolls : Nat → Exchange
  /-- A new key pair and its signing request in base64. -/
  createCsr : String → Except Error (String × acme.KeyPair)
  finalize : Exchange
  orderPolls : Nat → Exchange
  certificate : Exchange
  download : String → Except Error Response
  writeCert : String → Except Error Unit
  writeKey : String → Except Error Unit

namespace LECertManager

variable (self : LECertManager acme)

def fetchNonce (head : String → Except Error Response) (newNonceUrl : String) :
    Except Error String := do
  let res ← head newNonceUrl
  let nonce ← okOr (res.header "replay-nonce") "Failed to fetch nonce"
  nonce

def signRequest (accountKeyPair : acme.KeyPair) (payload : Option Value) (nonce url : String)
    (accountUrl : Option String) : Except Error String := do
  let identity ← match accountUrl with
    | some accountUrl => .ok ("kid", Value.string accountUrl)
    | none => do
      let jwk ← acme.constructJwk accountKeyPair
      .ok ("jwk", jwk)
  let protectedHeader := Value.object
    [("alg", .string "ES256"), identity, ("nonce", .string nonce), ("url", .string url)]
  let protectedText ← acme.toString protectedHeader
  let payloadText ← match payload with
    | some p => acme.toString p
    | none => .ok ""
  let protected64 := acme.base64 protectedText
  let payload64 := acme.base64 payloadText
  let signature ← acme.signWithRcgenKeypair accountKeyPair (protected64 ++ "." ++ payload64)
  acme.toString (.object
    [("payload", .string payload64), ("protected", .string protected64),
      ("signature", .string signature)])

def computeJwkThumbprint (acme : AcmeLibraries) (jwk : Value) : Except Error String := do
  let text ← acme.toString (.object
    [("crv", jwk.index "crv"), ("kty", jwk.index "kty"), ("x", jwk.index "x"),
      ("y", jwk.index "y")])
  .ok (acme.digest text)

def generateKeyAuthorization (token : String) : Except Error String := do
  let jwk ← acme.constructJwk self.accCertifiedKey
  let thumbprint ← computeJwkThumbprint acme jwk
  .ok (token ++ "." ++ thumbprint)

/-- The URLs of the authorization, of the finalization and of the order. -/
def createOrder (exchange : Exchange) (domain : String) :
    Except Error (String × String × String) := do
  let nonce ← fetchNonce exchange.head self.newNonce
  let payload := Value.object
    [("identifiers", .array [.object [("type", .string "dns"), ("value", .string domain)]])]
  let signedRequest ←
    signRequest self.accCertifiedKey (some payload) nonce self.newOrder self.accountUrl
  let res ← context "create_order failed.." (exchange.post self.newOrder signedRequest)
  let location ← okOr (res.header "Location") "Order URL not found in Location header"
  let orderUrl ← location
  if res.isSuccess then do
    let body ← res.json
    let finalizeUrl ← okOr (body.index "finalize").asStr "Finalize URL not found"
    let authUrl ← okOr (((body.index "authorizations").getAt 0).bind Value.asStr)
      "Authorization URL not found"
    .ok (authUrl, finalizeUrl, orderUrl)
  else .error ["Failed to create order"]

/-! ### The challenge -/

inductive Http01Challenge where
  /-- The domain was validated before. -/
  | validated (url : String)
  | pending (challenge : Value) (token keyAuthorization : String)

/-- `handle_http_01_challenge` up to the point where it stores the challenge. -/
def findHttp01Challenge (get : String → Except Error Response) (authUrl : String) :
    Except Error Http01Challenge := do
  let res ← get authUrl
  if res.isSuccess then do
    let body ← res.json
    let challenge ← okOr
      ((body.index "challenges").asArray.bind
        (List.find? fun ch => (ch.index "type").isStr "http-01"))
      "No HTTP-01 challenge found"
    if ((challenge.get "status").map (·.isStr "valid")).getD false then do
      let url ← okOr (do
          let challenges ← body.get "challenges"
          let challenge ← challenges.getAt 0
          let validationRecord ← challenge.get "validationRecord"
          let record ← validationRecord.getAt 0
          let url ← record.get "url"
          url.asStr)
        "URL not found in the expected JSON structure"
      .ok (.validated url)
    else do
      let token ← okOr ((challenge.get "token").bind Value.asStr)
        "Token not found or is not a string in the challenge JSON"
      let keyAuthorization ← self.generateKeyAuthorization token
      .ok (.pending challenge token keyAuthorization)
  else .error ["Failed to fetch authorization details"]

/-- `handle_http_01_challenge` from there on: Let's Encrypt is told to validate. -/
def triggerChallenge (exchange : Exchange) (challenge : Value) : Except Error String := do
  let challengeUrl ← okOr (challenge.index "url").asStr "Challenge URL not found"
  let nonce ← fetchNonce exchange.head self.newNonce
  let signedRequest ← context "signing payload"
    (signRequest self.accCertifiedKey (some (.object [])) nonce challengeUrl self.accountUrl)
  let res ← exchange.post challengeUrl signedRequest
  if res.isSuccess then do
    let body ← res.json
    match body.get "url" with
    | some x =>
      match x.asStr with
      | some url => .ok url
      | none => .error ["Challenge validation failed: " ++ acme.debug body]
    | none => .error ["Challenge validation failed: " ++ acme.display body]
  else do
    let text ← res.text
    .error ["Challenge validation failed: " ++ text]

/-- Whether the order is valid, in one round. -/
def pollOrderStatus (exchange : Exchange) (orderUrl : String) : Except Error Bool := do
  let nonce ← fetchNonce exchange.head self.newNonce
  let signedRequest ← signRequest self.accCertifiedKey none nonce orderUrl self.accountUrl
  let res ← exchange.post orderUrl signedRequest
  let body ← res.json
  .ok ((body.index "status").isStr "valid")

/-- The rounds from one on, with a number of them left after it. -/
def pollFrom (polls : Nat → Exchange) (orderUrl : String) (round : Nat) :
    Nat → Except Error Unit
  | 0 => do
    if ← self.pollOrderStatus (polls round) orderUrl then .ok ()
    else .error ["Failed to get certificate after 10 attempts"]
  | left + 1 => do
    if ← self.pollOrderStatus (polls round) orderUrl then .ok ()
    else pollFrom polls orderUrl (round + 1) left

/-- Six rounds are made. -/
def pollOrderStatusUtilValid (polls : Nat → Exchange) (orderUrl : String) : Except Error Unit :=
  self.pollFrom polls orderUrl 0 5

/-! ### The certificate -/

def finalizeOrder (outcomes : Outcomes acme) (finalizeUrl domainName : String) :
    Except Error acme.KeyPair := do
  let nonce ← fetchNonce outcomes.finalize.head self.newNonce
  let (csr, kvp) ← outcomes.createCsr domainName
  let payload := Value.object [("csr", .string csr)]
  let signedRequest ←
    signRequest self.accCertifiedKey (some payload) nonce finalizeUrl self.accountUrl
  let res ← outcomes.finalize.post finalizeUrl signedRequest
  if res.isSuccess then do
    let _ ← res.text
    .ok kvp
  else do
    let errorBody ← res.text
    .error ["Failed to finalize order: " ++ errorBody]

def fetchCertificate (outcomes : Outcomes acme) (certUrl : String) : Except Error String := do
  let nonce ← fetchNonce outcomes.certificate.head self.newNonce
  let signedRequest ← signRequest self.accCertifiedKey none nonce certUrl self.accountUrl
  let res ← outcomes.certificate.post certUrl signedRequest
  if res.isSuccess then do
    let j ← res.json
    let certUrl ← okOr (j.index "certificate").asStr "Cert not found in response body"
    let res ← outcomes.download certUrl
    res.text
  else do
    let errorBody ← res.text
    .error ["Failed to fetch certificate: " ++ errorBody]

end LECertManager

/-- `extract_priv_key_from_pem`. -/
def extractPrivKeyFromPem (libs : CertLibraries) (text : String) :
    Except Error libs.PrivateKeyDer :=
  match libs.pkcs8PrivateKeys text with
  | none => .error ["a key cannot be decoded"]
  | some [] => .error ["No PKCS8-encoded private key found!"]
  | some [key] => .ok key
  | some _ => .error ["More than one PKCS8-encoded private key found!"]

/-- The certificates and the key of two texts. -/
def certifiedKeyFromPem (libs : CertLibraries) (certText keyText : String) :
    Except Error (CertifiedKey libs) := do
  let privateKey ← extractPrivKeyFromPem libs keyText
  if libs.anySupportedType privateKey then .ok ⟨libs.certs certText, privateKey⟩
  else .error ["Failed to create signing key"]

/-! ## The calls -/

inductive Failure where
  | error (error : Error)
  | panic
  deriving DecidableEq, Repr

/-- `CHALLENGE_MAP`, from tokens to key authorizations, and `DOMAIN_TO_CHALLENGE_TOKEN_MAP`. -/
structure Challenges where
  challengeMap : String → Option String
  domainToChallengeTokenMap : String → Option String

abbrev Call (α : Type) := ExceptT Failure (StateM Challenges) α

/-- What a call returns, and the maps after it. -/
def run {α : Type} (call : Call α) (challenges : Challenges) : Except Failure α × Challenges :=
  (ExceptT.run call).run challenges

/-- A step that leaves the maps alone. -/
def step {α : Type} (result : Except Failure α) : Call α :=
  ExceptT.mk fun challenges => (result, challenges)

/-- A step that can fail, but does not panic. -/
def fallible {α : Type} (result : Except Error α) : Call α := step (result.mapError Failure.error)

inductive StoredCert (libs : CertLibraries) where
  | kept (certifiedKey : CertifiedKey libs)
  | renewed (skipValidation : Bool)

/-- The certificate in the files, as long as eighty-nine days are left. An expired one is
validated again. -/
def storedCert (libs : CertLibraries) (outcomes : Outcomes acme) :
    Except Failure (StoredCert libs) :=
  if outcomes.certFileExists && outcomes.keyFileExists then do
    let crtString ← outcomes.readCert.mapError Failure.error
    let keyString ← outcomes.readKey.mapError Failure.error
    let certifiedKey ← (certifiedKeyFromPem libs crtString keyString).mapError Failure.error
    match certifiedKey.cert.head?.bind libs.validity with
    | none => .error .panic
    | some validity =>
      match libs.timeToExpiration validity outcomes.now with
      | some v => if v / 86400 < 89 then .ok (.renewed true) else .ok (.kept certifiedKey)
      | none => .ok (.renewed false)
  else .ok (.renewed false)

/-- The rounds of the wait, with a number of them left after the first. Nobody else removes the
challenge in the meantime. -/
def waitForPendingChallenge (domainName : String) : Nat → Call Unit
  | 0 => do
    match (← get).domainToChallengeTokenMap domainName with
    | some _ => fallible (.error ["Challenge timed out for domain: " ++ domainName])
    | none => pure ()
  | left + 1 => do
    match (← get).domainToChallengeTokenMap domainName with
    | some _ => waitForPendingChallenge domainName left
    | none => pure ()

/-- "Clean up the challenge cache for this domain". -/
def cleanUp (domainName : String) : Call Unit :=
  modify fun maps =>
    match maps.domainToChallengeTokenMap domainName with
    | some v =>
      { domainToChallengeTokenMap :=
          Function.update maps.domainToChallengeTokenMap domainName none
        challengeMap := Function.update maps.challengeMap v none }
    | none => maps

namespace LECertManager

variable (self : LECertManager acme)

def handleHttp01Challenge (outcomes : Outcomes acme) (authUrl domainName : String) :
    Call String := do
  match ← fallible (self.findHttp01Challenge outcomes.authorization authUrl) with
  | .validated url => pure url
  | .pending challenge token keyAuthorization =>
    modify fun maps =>
      { maps with challengeMap := Function.update maps.challengeMap token (some keyAuthorization) }
    modify fun maps =>
      { maps with
        domainToChallengeTokenMap :=
          Function.update maps.domainToChallengeTokenMap domainName (some token) }
    fallible (self.triggerChallenge outcomes.trigger challenge)

/-- The part between the validation and the clean-up. -/
def issueCertificate (outcomes : Outcomes acme) (domainName finalizeUrl orderUrl : String) :
    Except Error (String × String) := do
  let privKey ← context "finalizing the order of a new cert"
    (self.finalizeOrder outcomes finalizeUrl domainName)
  self.pollOrderStatusUtilValid outcomes.orderPolls orderUrl
  let theNewCert ← context "fetching new certificate" (self.fetchCertificate outcomes orderUrl)
  let theNewKey := acme.serializePem privKey
  outcomes.writeCert theNewCert
  outcomes.writeKey theNewKey
  .ok (theNewCert, theNewKey)

def getOrCreateCert (libs : CertLibraries) (outcomes : Outcomes acme) (domainName : String) :
    Call (CertifiedKey libs) := do
  waitForPendingChallenge domainName 15
  fallible (outcomes.createDirAll.mapError fun e =>
    ["Could not create directory: " ++ ": ".intercalate e])
  match ← step (storedCert libs outcomes) with
  | .kept certifiedKey => pure certifiedKey
  | .renewed skipValidation =>
    let (authUrl, finalizeUrl, orderUrl) ← fallible
      (context "create order failed" (self.createOrder outcomes.order domainName))
    if skipValidation then pure ()
    else
      let challengeUrl ← self.handleHttp01Challenge outcomes authUrl domainName
      fallible (self.pollOrderStatusUtilValid outcomes.challengePolls challengeUrl)
    let (theNewCert, theNewKey) ← fallible
      (self.issueCertificate outcomes domainName finalizeUrl orderUrl)
    cleanUp domainName
    fallible (certifiedKeyFromPem libs theNewCert theNewKey)

end LECertManager

end OddBox.LetsEncrypt

import Mathlib

/-!
`DynamicCertResolver` of `certs.rs`: the certificate for a server name, from one of two caches
in memory or from the files of the cache directory. The crates that read, check and make
certificates are what the resolver is given. Times are seconds.
-/

namespace OddBox.Certs

/-! ## Certificates -/

structure Validity where
  notBefore : Int
  notAfter : Int
  deriving DecidableEq, Repr

/-- The crates `x509-parser`, `rustls-pemfile`, `rustls` and `rcgen`. -/
structure CertLibraries where
  CertificateDer : Type
  PrivateKeyDer : Type
  /-- The validity in a certificate, if it can be parsed. -/
  validity : CertificateDer → Option Validity
  /-- The seconds that are left, if the certificate is valid. -/
  timeToExpiration : Validity → Int → Option Nat
  timeToExpiration_eq : ∀ {validity now left}, timeToExpiration validity now = some left →
    now + left = validity.notAfter
  /-- The certificates of a PEM text that can be decoded. -/
  certs : String → List CertificateDer
  /-- The keys of a PEM text, if all can be decoded. -/
  pkcs8PrivateKeys : String → Option (List PrivateKeyDer)
  anySupportedType : PrivateKeyDer → Bool
  /-- The certificate for a host name and its key, as PEM texts, or the text of an error. -/
  generateSimpleSelfSigned : String → Int → Except String (String × String)
  /-- What is generated is valid at that time. -/
  generated_valid : ∀ {hostname now cert key der},
    generateSimpleSelfSigned hostname now = .ok (cert, key) → (certs cert).head? = some der →
      ∀ found, validity der = some found → now ≤ found.notAfter

variable (libs : CertLibraries)

structure CertifiedKey where
  cert : List libs.CertificateDer
  key : libs.PrivateKeyDer

variable {libs}

/-- `time_to_expiration` of the end-entity certificate. -/
def CertifiedKey.timeToExpiration (self : CertifiedKey libs) (now : Int) : Option Nat := do
  let der ← self.cert.head?
  let validity ← libs.validity der
  libs.timeToExpiration validity now

/-- The end-entity certificate is past its validity. -/
def CertifiedKey.PastValidity (self : CertifiedKey libs) (now : Int) : Prop :=
  ∃ der validity, self.cert.head? = some der ∧ libs.validity der = some validity ∧
    validity.notAfter < now

/-! ## Files -/

/-- The files below the working directory. A file that is there may be unreadable. -/
structure Files where
  entry : String → Option (Option String)
  createDirAll : String → Bool
  writable : String → Bool

/-- `metadata(path).is_ok()`. -/
def Files.exist (self : Files) (path : String) : Bool := (self.entry path).isSome

def Files.read (self : Files) (path : String) : Option String := (self.entry path).join

def Files.write (self : Files) (path text : String) : Files :=
  if self.writable path then
    { self with entry := Function.update self.entry path (some (some text)) }
  else self

def certPath (serverName : String) : String := ".odd_box_cache/" ++ serverName ++ "/cert.pem"

def keyPath (serverName : String) : String := ".odd_box_cache/" ++ serverName ++ "/key.pem"

/-- Existing files are kept, whatever is in them. -/
def generateCertIfNotExist (libs : CertLibraries) (files : Files) (now : Int)
    (hostname certPath keyPath : String) : Except String Files :=
  let crtExists := files.exist certPath
  let keyExists := files.exist keyPath
  if crtExists && keyExists then .ok files
  else if crtExists != keyExists then
    .error "Missing key or crt for this hostname. Remove both if you want to generate a new set, or add the missing one."
  else
    match libs.generateSimpleSelfSigned hostname now with
    | .ok (cert, key) => .ok ((files.write certPath cert).write keyPath key)
    | .error e => .error e

def getCertsFromPath (libs : CertLibraries) (files : Files) (path : String) :
    Option (List libs.CertificateDer) :=
  (files.read path).map libs.certs

/-- Exactly one key. -/
def getPrivKeyFromPath (libs : CertLibraries) (files : Files) (path : String) :
    Option libs.PrivateKeyDer := do
  let text ← files.read path
  match ← libs.pkcs8PrivateKeys text with
  | [key] => some key
  | _ => none

/-! ## The resolver -/

structure DynamicCertResolver (libs : CertLibraries) where
  enableLetsEncrypt : Bool
  selfSignedCertCache : String → Option (CertifiedKey libs)
  letsEncryptSignedCerts : String → Option (CertifiedKey libs)

namespace DynamicCertResolver

variable (self : DynamicCertResolver libs)

/-- A certificate is kept for as long as it is valid for thirty days. -/
def keeps (certifiedKey : CertifiedKey libs) (now : Int) : Bool :=
  match certifiedKey.timeToExpiration now with
  | some left => decide (30 ≤ left / 86400)
  | none => false

/-- The Let's Encrypt certificate of the domain is removed. -/
def purge (domain : String) : DynamicCertResolver libs :=
  { self with
    letsEncryptSignedCerts := Function.update self.letsEncryptSignedCerts domain none }

/-- What is found in a cache, if it is kept. Both caches purge the same map. -/
def getFromCache (cache : String → Option (CertifiedKey libs)) (now : Int) (domain : String) :
    Option (CertifiedKey libs) × DynamicCertResolver libs :=
  match cache domain with
  | some certifiedKey =>
    if keeps certifiedKey now then (some certifiedKey, self) else (none, self.purge domain)
  | none => (none, self)

def getSelfSignedCertFromCache (now : Int) (domain : String) :
    Option (CertifiedKey libs) × DynamicCertResolver libs :=
  self.getFromCache self.selfSignedCertCache now domain

def getLetsEncryptSignedCertFromMemCache (now : Int) (domain : String) :
    Option (CertifiedKey libs) × DynamicCertResolver libs :=
  self.getFromCache self.letsEncryptSignedCerts now domain

/-- The part of `resolve` that goes to the files. -/
def resolveFromFiles (files : Files) (now : Int) (serverName : String) :
    Option (CertifiedKey libs) × DynamicCertResolver libs × Files :=
  if files.createDirAll (".odd_box_cache/" ++ serverName) then
    match generateCertIfNotExist libs files now serverName (certPath serverName)
      (keyPath serverName) with
    | .error _ => (none, self, files)
    | .ok files =>
      match getCertsFromPath libs files (certPath serverName) with
      | none => (none, self, files)
      | some [] => (none, self, files)
      | some certChain =>
        match getPrivKeyFromPath libs files (keyPath serverName) with
        | none => (none, self, files)
        | some privateKey =>
          if libs.anySupportedType privateKey then
            let result : CertifiedKey libs := ⟨certChain, privateKey⟩
            (some result,
              { self with
                selfSignedCertCache :=
                  Function.update self.selfSignedCertCache serverName (some result) }, files)
          else (none, self, files)
  else (none, self, files)

/-- The name that certificates are kept under. -/
def hostOf (serverName : String) : String :=
  if serverName = "localhost" then "odd-box.localhost" else serverName

/-- Names below `localhost` have no Let's Encrypt certificate. Server names are ASCII. -/
def asksLetsEncrypt (serverName : String) : Bool :=
  self.enableLetsEncrypt &&
    !"localhost".toList.isSuffixOf (serverName.toList.map Char.toLower)

def resolve (files : Files) (now : Int) (serverName : Option String) :
    Option (CertifiedKey libs) × DynamicCertResolver libs × Files :=
  match serverName with
  | none => (none, self, files)
  | some serverName =>
    let serverName := hostOf serverName
    let (found, self) :=
      if self.asksLetsEncrypt serverName then
        self.getLetsEncryptSignedCertFromMemCache now serverName
      else (none, self)
    match found with
    | some certifiedKey => (some certifiedKey, self, files)
    | none =>
      match self.getSelfSignedCertFromCache now serverName with
      | (some certifiedKey, self) => (some certifiedKey, self, files)
      | (none, self) => self.resolveFromFiles files now serverName

end DynamicCertResolver

end OddBox.Certs

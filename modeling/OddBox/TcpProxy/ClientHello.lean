import Mathlib

/-!
`TlsClientHello` of `client_hello.rs`: the first message of a TLS session, as far as
it has come in, and the server name in it. Indexing, slicing and subtraction are checked
as the language checks them, so that a read outside the input shows.
-/

namespace OddBox.TcpProxy

/-! ## Reading at an index -/

/-- Why a parser of bytes stops: it returns an error, or it panics. -/
inductive Halt (ε : Type) where
  | error (e : ε)
  | outOfBounds
  /-- The loop has not ended within the given number of rounds. -/
  | running
  deriving DecidableEq, Repr

section Reading

variable {ε : Type} (data : List UInt8)

/-- `data[index]`. -/
def byteAt (index : Nat) : Except (Halt ε) UInt8 :=
  match data[index]? with
  | some byte => .ok byte
  | none => .error .outOfBounds

/-- `u16::from_be_bytes([data[index], data[index + 1]])`. -/
def u16At (index : Nat) : Except (Halt ε) Nat := do
  let high ← byteAt data index
  let low ← byteAt data (index + 1)
  pure (high.toNat * 256 + low.toNat)

/-- `data[start..stop]`. -/
def sliceAt (start stop : Nat) : Except (Halt ε) (List UInt8) :=
  if start ≤ stop ∧ stop ≤ data.length then .ok ((data.drop start).take (stop - start))
  else .error .outOfBounds

/-- `a - b` of two `usize`. -/
def minus (a b : Nat) : Except (Halt ε) Nat :=
  if b ≤ a then .ok (a - b) else .error .outOfBounds

/-- `if !holds { return Err(e) }`. -/
def require (holds : Bool) (e : ε) : Except (Halt ε) Unit :=
  if holds then .ok () else .error (.error e)

end Reading

/-! ## The client hello -/

inductive TlsExtensionType where
  | serverName
  | maxFragmentLength
  | statusRequest
  | supportedGroups
  | signatureAlgorithms
  | applicationLayerProtocolNegotiation
  | signedCertificateTimestamp
  | keyShare
  | preSharedKey
  | earlyData
  | supportedVersions
  | cookie
  | pskKeyExchangeModes
  | unknown (value : Nat)
  deriving DecidableEq, Repr

def TlsExtensionType.fromU16 : Nat → TlsExtensionType
  | 0x0000 => .serverName
  | 0x0001 => .maxFragmentLength
  | 0x0005 => .statusRequest
  | 0x000a => .supportedGroups
  | 0x000d => .signatureAlgorithms
  | 0x0010 => .applicationLayerProtocolNegotiation
  | 0x0012 => .signedCertificateTimestamp
  | 0x0028 => .keyShare
  | 0x0029 => .preSharedKey
  | 0x002a => .earlyData
  | 0x002b => .supportedVersions
  | 0x002c => .cookie
  | 0x002d => .pskKeyExchangeModes
  | value => .unknown value

structure TlsExtension where
  typ : TlsExtensionType
  data : List UInt8
  deriving DecidableEq, Repr

structure TlsClientHello where
  protocolVersion : UInt8 × UInt8
  random : List UInt8
  sessionId : List UInt8
  cipherSuites : List Nat
  compressionMethods : List UInt8
  extensions : List TlsExtension
  deriving DecidableEq, Repr

inductive TlsClientHelloError where
  | notTLSHandshake
  | notClientHello
  /-- With the index up to which the message was read. -/
  | messageIncomplete (current : Nat)
  deriving DecidableEq, Repr

/-- The loop over the extensions that lie before the given end. -/
def readExtensions (data : List UInt8) (extensionsEnd : Nat) :
    Nat → Nat → Except (Halt TlsClientHelloError) (List TlsExtension)
  | 0, _ => .error .running
  | fuel + 1, current =>
    if current + 4 ≤ extensionsEnd then do
      let typ ← u16At data current
      let extensionLength ← u16At data (current + 2)
      let current := current + 4
      require (current + extensionLength ≤ extensionsEnd) (.messageIncomplete current)
      require (current + extensionLength ≤ data.length) (.messageIncomplete current)
      let extensionData ← sliceAt data current (current + extensionLength)
      let extensions ← readExtensions data extensionsEnd fuel (current + extensionLength)
      pure (⟨.fromU16 typ, extensionData⟩ :: extensions)
    else .ok []

/-- The cipher suites at an index, two bytes each. -/
def readCipherSuites (data : List UInt8) (current count : Nat) :
    Except (Halt TlsClientHelloError) (List Nat) :=
  (List.range count).mapM fun i => u16At data (current + i * 2)

/-- Everything from the session id on. -/
def readFromSessionId (data : List UInt8) (protocolVersion : UInt8 × UInt8)
    (random : List UInt8) (current : Nat) : Except (Halt TlsClientHelloError) TlsClientHello := do
  require (current < data.length) (.messageIncomplete current)
  let sessionIdLength := (← byteAt data current).toNat
  require (current + 1 + sessionIdLength ≤ data.length) (.messageIncomplete current)
  let sessionId ← sliceAt data (current + 1) (current + 1 + sessionIdLength)
  let current := current + (1 + sessionIdLength)
  require (current + 2 ≤ data.length) (.messageIncomplete current)
  let cipherSuitesLength ← u16At data current
  require (current + 2 + cipherSuitesLength ≤ data.length) (.messageIncomplete current)
  let cipherSuites ← readCipherSuites data (current + 2) (cipherSuitesLength / 2)
  let current := current + (2 + cipherSuitesLength)
  require (current < data.length) (.messageIncomplete current)
  let compressionMethodsLength := (← byteAt data current).toNat
  require (current + 1 + compressionMethodsLength ≤ data.length) (.messageIncomplete current)
  let compressionMethods ← sliceAt data (current + 1) (current + 1 + compressionMethodsLength)
  let current := current + (1 + compressionMethodsLength)
  require (current + 2 ≤ data.length) (.messageIncomplete current)
  let extensionsLength ← u16At data current
  let current := current + 2
  let extensionsEnd := current + extensionsLength
  require (extensionsEnd ≤ data.length) (.messageIncomplete current)
  let extensions ← readExtensions data extensionsEnd (data.length + 1) current
  pure { protocolVersion, random, sessionId, cipherSuites, compressionMethods, extensions }

def TlsClientHello.tryFrom (data : List UInt8) :
    Except (Halt TlsClientHelloError) TlsClientHello := do
  require (6 ≤ data.length) .notTLSHandshake
  let first ← byteAt data 0
  require (first == 0x16) .notTLSHandshake
  let current := 1
  require (current + 4 ≤ data.length) (.messageIncomplete current)
  -- the version and the length of the record layer
  let current := current + 4
  require (current < data.length) .notClientHello
  let handshakeType ← byteAt data current
  require (handshakeType == 0x01) .notClientHello
  let current := current + 1
  require (current + 3 ≤ data.length) (.messageIncomplete current)
  -- the length of the message
  let current := current + 3
  require (current + 2 ≤ data.length) (.messageIncomplete current)
  let major ← byteAt data current
  let minor ← byteAt data (current + 1)
  let current := current + 2
  require (current + 32 ≤ data.length) (.messageIncomplete current)
  let random ← sliceAt data current (current + 32)
  readFromSessionId data (major, minor) random (current + 32)

/-! ## The server name -/

inductive SniParserError where
  | noSniFound
  | invalidExtensionFormat
  | utf8Error
  deriving DecidableEq, Repr

/-- List length (2 bytes), name type (1 byte), name length (2 bytes), name; the next
extension is asked where the name is no host name. -/
def readSniHostname : List TlsExtension → Except (Halt SniParserError) String
  | [] => .error (.error .noSniFound)
  | extension :: extensions =>
    if extension.typ = .serverName then do
      require (5 ≤ extension.data.length) .invalidExtensionFormat
      let nameType ← byteAt extension.data 2
      if nameType ≠ 0x00 then readSniHostname extensions
      else do
        let nameLength ← u16At extension.data 3
        let room ← minus extension.data.length 5
        require (nameLength ≤ room) .invalidExtensionFormat
        let name ← sliceAt extension.data 5 (5 + nameLength)
        match String.fromUTF8? ⟨name.toArray⟩ with
        | some hostname => pure hostname
        | none => .error (.error .utf8Error)
    else readSniHostname extensions

def TlsClientHello.readSniHostname (self : TlsClientHello) : Except (Halt SniParserError) String :=
  OddBox.TcpProxy.readSniHostname self.extensions

end OddBox.TcpProxy

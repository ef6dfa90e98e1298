import OddBox.H2.Observer
import OddBox.ManagedStream
import OddBox.TcpProxy.ClientHello
import OddBox.TcpProxy.Requests

/-!
`peek_managed_stream`: the loop that looks at the first bytes of a stream until it knows
what they are. The waits between its rounds are left out, and so is the tracking of the
connection. A stream is looked at again after it is peeked, so what a peek returns is
said of the bytes that it leaves in the side buffer.
-/

namespace OddBox.TcpProxy

open OddBox.H2 (H2Event H2Observer HpackDecoder)

inductive DataType where
  | tls
  | clearText
  deriving DecidableEq, Repr

structure PeekResult where
  typ : DataType
  httpVersion : Option Version
  targetHost : Option String
  isH2cUpgrade : Bool
  sni : Option String
  hostHeader : Option String
  deriving DecidableEq, Repr

inductive PeekError where
  | streamIsClosed
  | unknown (message : String)
  /-- `Unknown`, with the text of the failed read. -/
  | unreadable (e : PeekFailure)
  | h2PriorKnowledgeNeedsToBeTerminated
  deriving DecidableEq, Repr

inductive PeekOutcome where
  | ok (result : PeekResult)
  | error (e : PeekError)
  | panicked
  /-- The loop has not ended within the given number of rounds. -/
  | peeking
  deriving DecidableEq, Repr

/-- A managed stream with the fields that reading does not need. -/
structure PeekStream (T : InnerStream) (hpack : HpackDecoder) extends ManagedStream T where
  h2Observer : H2Observer hpack
  httpVersion : Option Version
  containsH2cUpgradeHeader : Bool
  isTls : Bool
  isTlsTerminated : Bool
  /-- The server name of the TLS session, if the stream is one. -/
  serverName : Option String

variable {T : InnerStream} {hpack : HpackDecoder}

def PeekStream.fromTcpStream (hpack : HpackDecoder) (stream : T.State)
    (tcpConnectionId : Nat) : PeekStream T hpack where
  kind := .tcp
  stream := stream
  buffer := []
  isSealed := false
  enableInspection := false
  isWrapped := false
  isHttp2 := false
  tcpConnectionId := tcpConnectionId
  h2Observer := H2Observer.new hpack
  httpVersion := none
  containsH2cUpgradeHeader := false
  isTls := false
  isTlsTerminated := false
  serverName := none

/-- `from_tls_stream`, and the seal taken off by `from_terminated_tls_stream`. -/
def PeekStream.fromTerminatedTlsStream (hpack : HpackDecoder) (session : T.State)
    (serverName : Option String) (tcpConnectionId : Nat) : PeekStream T hpack where
  kind := .terminatedTls
  stream := session
  buffer := []
  isSealed := false
  enableInspection := false
  isWrapped := false
  isHttp2 := false
  tcpConnectionId := tcpConnectionId
  h2Observer := H2Observer.new hpack
  httpVersion := none
  containsH2cUpgradeHeader := false
  isTls := true
  isTlsTerminated := true
  serverName := serverName

/-- Of a TLS session only a terminated one is observed, of a TCP stream only one that is not
wrapped. -/
def PeekStream.enableObserve (self : PeekStream T hpack) :
    PeekStream T hpack :=
  match self.kind with
  | .tcp => if self.isWrapped then self else { self with enableInspection := true }
  | .terminatedTls => if self.isTlsTerminated then { self with enableInspection := true } else self

/-! ## One round -/

inductive Round where
  | done (outcome : PeekOutcome)
  /-- Look again; only a counted round uses up an attempt. -/
  | again (counted : Bool)
  deriving DecidableEq, Repr

def PeekStream.peekTls (self : PeekStream T hpack) (buf : List UInt8) :
    Round × PeekStream T hpack :=
  let self := { self with isTls := true }
  match TlsClientHello.tryFrom buf with
  | .ok hello =>
    match hello.readSniHostname with
    | .ok sni =>
      (.done (.ok {
        typ := .tls
        httpVersion := none
        targetHost := some sni
        isH2cUpgrade := false
        sni := some sni
        hostHeader := none }), self)
    | .error (.error _) => (.again true, self)
    | .error _ => (.done .panicked, self)
  | .error (.error (.messageIncomplete _)) => (.again false, self)
  | .error (.error _) => (.done (.error (.unknown "Invalid TLS client handshake")), self)
  | .error _ => (.done .panicked, self)

def PeekStream.peekHttp1 (self : PeekStream T hpack) (buf : List UInt8)
    (version : Version) : Round × PeekStream T hpack :=
  match parseHttpRequestFast buf with
  | some parsed =>
    (.done (.ok {
      typ := .clearText
      httpVersion := some version
      targetHost := some parsed.host
      isH2cUpgrade := parsed.isH2cUpgrade
      sni := none
      hostHeader := some parsed.host }),
      { self with
        httpVersion := some version
        containsH2cUpgradeHeader := parsed.isH2cUpgrade })
  | none => (.again true, self)

/-- The host that an event names, if it is a request of the client. -/
def eventHost : H2Event → Option String
  | .incomingRequest rq => rq.headers.get? ":authority" <|> rq.headers.get? "Host"
  | _ => none

/-- The result for HTTP/2, whose host comes from a header or from the TLS session. -/
def http2Result (sni hostHeader : Option String) : PeekResult where
  typ := .clearText
  httpVersion := some .http2
  targetHost := hostHeader <|> sni
  isH2cUpgrade := false
  sni := sni
  hostHeader := hostHeader

def PeekStream.peekHttp2 (self : PeekStream T hpack) (buf : List UInt8) :
    Round × PeekStream T hpack :=
  let (items, observer) := (self.h2Observer.write .incoming buf).getAllEvents
  let self := { self with
    isHttp2 := true
    httpVersion := some .http2
    h2Observer := observer }
  -- not enough frames yet
  if items.length < 2 then (.again true, self)
  else
    match items.findSome? eventHost with
    | some host => (.done (.ok (http2Result none (some host))), self)
    | none =>
      match self.kind with
      | .terminatedTls => (.done (.ok (http2Result self.serverName none)), self)
      | .tcp => (.done (.error .h2PriorKnowledgeNeedsToBeTerminated), self)

def PeekStream.peekClear (self : PeekStream T hpack) (buf : List UInt8) :
    Round × PeekStream T hpack :=
  let self := self.enableObserve
  match isValidHttpRequest buf with
  | some version => self.peekHttp1 buf version
  | none => if isValidHttp2Request buf then self.peekHttp2 buf else (.again true, self)

def PeekStream.peekRound (self : PeekStream T hpack) :
    Round × PeekStream T hpack :=
  match self.toManagedStream.peekAsync with
  | (.error e, stream) =>
    (.done (.error (.unreadable e)), { self with toManagedStream := stream })
  | (.ok (tcpStreamClosed, buf), stream) =>
    let self := { self with toManagedStream := stream }
    if tcpStreamClosed then (.done (.error .streamIsClosed), self)
    else match buf with
      | [] => (.again true, self)
      | first :: _ =>
        -- the content type of a handshake
        if first = 0x16 then self.peekTls buf else self.peekClear buf

/-! ## The loop -/

def PeekStream.peekLoop : Nat → Nat → PeekStream T hpack →
    PeekOutcome × PeekStream T hpack
  | 0, _, self => (.peeking, self)
  | fuel + 1, attempts, self =>
    if 4 < attempts then
      (.error (.unknown "TCP peek failed to find any useful information"), self)
    else
      match self.peekRound with
      | (.done outcome, self) => (outcome, self)
      | (.again counted, self) =>
        PeekStream.peekLoop fuel (if counted then attempts + 1 else attempts) self

def PeekStream.peekManagedStream (self : PeekStream T hpack) (fuel : Nat) :
    PeekOutcome × PeekStream T hpack :=
  PeekStream.peekLoop fuel 0 self

/-! ## What a result says -/

/-- What is known of the bytes for which a peek has a result. -/
inductive Seen : List UInt8 → PeekResult → Prop where
  | tls {bytes : List UInt8} (sni : String) :
      Seen (0x16 :: bytes) ⟨.tls, none, some sni, false, some sni, none⟩
  | http1 {buf : List UInt8} {version : Version} {parsed : ParsedHttpRequest}
      (hclear : buf.head? ≠ some 0x16) (hversion : isValidHttpRequest buf = some version)
      (hparsed : parseHttpRequestFast buf = some parsed) :
      Seen buf
        ⟨.clearText, some version, some parsed.host, parsed.isH2cUpgrade, none, some parsed.host⟩
  | http2 {buf : List UInt8} (hclear : buf.head? ≠ some 0x16)
      (hpreface : isValidHttp2Request buf = true) (sni hostHeader : Option String) :
      Seen buf (http2Result sni hostHeader)

theorem Seen.typ_iff {buf : List UInt8} {result : PeekResult} (h : Seen buf result) :
    result.typ = .tls ↔ buf.head? = some 0x16 := by
  cases h with
  | tls sni => exact iff_of_true rfl rfl
  | http1 hclear => exact iff_of_false (by simp) hclear
  | http2 hclear => exact iff_of_false (by simp [http2Result]) hclear

/-- Nothing is known of what is said in a TLS session. -/
theorem Seen.of_tls {buf : List UInt8} {result : PeekResult} (h : Seen buf result)
    (htls : result.typ = .tls) : result.httpVersion = none ∧ result.isH2cUpgrade = false := by
  cases h with
  | tls sni => exact ⟨rfl, rfl⟩
  | http1 => cases htls
  | http2 => cases htls

theorem peekTls_seen {self : PeekStream T hpack} {bytes : List UInt8}
    {result : PeekResult} (h : (self.peekTls (0x16 :: bytes)).1 = .done (.ok result)) :
    Seen (0x16 :: bytes) result := by
  unfold PeekStream.peekTls at h
  split at h
  · split at h
    · cases h
      exact .tls _
    · cases h
    · cases h
  · cases h
  · cases h
  · cases h

theorem peekHttp1_seen {self : PeekStream T hpack} {buf : List UInt8}
    {version : Version} {result : PeekResult} (hclear : buf.head? ≠ some 0x16)
    (hversion : isValidHttpRequest buf = some version)
    (h : (self.peekHttp1 buf version).1 = .done (.ok result)) : Seen buf result := by
  unfold PeekStream.peekHttp1 at h
  split at h
  · rename_i parsed hparsed
    cases h
    exact .http1 hclear hversion hparsed
  · cases h

theorem peekHttp2_seen {self : PeekStream T hpack} {buf : List UInt8}
    {result : PeekResult} (hclear : buf.head? ≠ some 0x16)
    (hpreface : isValidHttp2Request buf = true)
    (h : (self.peekHttp2 buf).1 = .done (.ok result)) : Seen buf result := by
  simp only [PeekStream.peekHttp2] at h
  split at h
  · cases h
  · split at h
    · cases h
      exact .http2 hclear hpreface _ _
    · split at h
      · cases h
        exact .http2 hclear hpreface _ _
      · cases h

theorem peekClear_seen {self : PeekStream T hpack} {buf : List UInt8}
    {result : PeekResult} (hclear : buf.head? ≠ some 0x16)
    (h : (self.peekClear buf).1 = .done (.ok result)) : Seen buf result := by
  unfold PeekStream.peekClear at h
  split at h
  · rename_i version hversion
    exact peekHttp1_seen hclear hversion h
  · split at h
    · rename_i hpreface
      exact peekHttp2_seen hclear hpreface h
    · cases h

/-- The bytes of the stream are where they were: taken from below, or in the side buffer. -/
def SameBytes (before after : PeekStream T hpack) : Prop :=
  after.stream = before.stream ∧ after.buffer = before.buffer

theorem peekTls_same (self : PeekStream T hpack) (buf : List UInt8) :
    SameBytes self (self.peekTls buf).2 := by
  unfold PeekStream.peekTls
  split
  · split <;> exact ⟨rfl, rfl⟩
  · exact ⟨rfl, rfl⟩
  · exact ⟨rfl, rfl⟩
  · exact ⟨rfl, rfl⟩

theorem peekHttp1_same (self : PeekStream T hpack) (buf : List UInt8)
    (version : Version) : SameBytes self (self.peekHttp1 buf version).2 := by
  unfold PeekStream.peekHttp1
  split <;> exact ⟨rfl, rfl⟩

theorem peekHttp2_same (self : PeekStream T hpack) (buf : List UInt8) :
    SameBytes self (self.peekHttp2 buf).2 := by
  simp only [PeekStream.peekHttp2]
  split
  · exact ⟨rfl, rfl⟩
  · split
    · exact ⟨rfl, rfl⟩
    · split <;> exact ⟨rfl, rfl⟩

theorem enableObserve_same (self : PeekStream T hpack) :
    SameBytes self self.enableObserve := by
  unfold PeekStream.enableObserve
  split
  · split <;> exact ⟨rfl, rfl⟩
  · split <;> exact ⟨rfl, rfl⟩

theorem peekClear_same (self : PeekStream T hpack) (buf : List UInt8) :
    SameBytes self (self.peekClear buf).2 := by
  obtain ⟨hstream, hbuffer⟩ := enableObserve_same self
  have hvia : ∀ after : PeekStream T hpack, SameBytes self.enableObserve after →
      SameBytes self after := by
    intro after hafter
    exact ⟨hafter.1.trans hstream, hafter.2.trans hbuffer⟩
  unfold PeekStream.peekClear
  split
  · exact hvia _ (peekHttp1_same _ _ _)
  · split
    · exact hvia _ (peekHttp2_same _ _)
    · exact ⟨hstream, hbuffer⟩

/-- What has been taken from below since `front` is in the side buffer. -/
def PeekStream.Buffered (front : List UInt8) (self : PeekStream T hpack) :
    Prop :=
  T.taken self.stream = front ++ self.buffer

/-- A round only adds to the side buffer, and a result is one about its bytes. -/
theorem peekRound_seen {front : List UInt8} {self : PeekStream T hpack}
    (hself : self.Buffered front) :
    self.peekRound.2.Buffered front ∧ ∀ result, self.peekRound.1 = .done (.ok result) →
      Seen self.peekRound.2.buffer result := by
  obtain ⟨fetched, htaken, hbuffer, hdata⟩ := peekAsync_moves self.toManagedStream
  have hnext : T.taken self.toManagedStream.peekAsync.2.stream =
      front ++ self.toManagedStream.peekAsync.2.buffer := by
    rw [htaken, hself, hbuffer, List.append_assoc]
  cases hpeek : self.toManagedStream.peekAsync with
  | mk outcome stream =>
    rw [hpeek] at hnext hdata
    simp only [PeekStream.peekRound, hpeek]
    cases outcome with
    | error e =>
      refine ⟨hnext, ?_⟩
      intro result h
      cases h
    | ok read =>
      obtain ⟨closed, buf⟩ := read
      obtain rfl : buf = stream.buffer := hdata closed buf rfl
      cases closed with
      | true =>
        refine ⟨hnext, ?_⟩
        intro result h
        cases h
      | false =>
        have hkept : ∀ after : PeekStream T hpack,
            SameBytes { self with toManagedStream := stream } after → after.Buffered front := by
          rintro after ⟨hstream, hbuf⟩
          rw [PeekStream.Buffered, hstream, hbuf]
          exact hnext
        cases hbuf : stream.buffer with
        | nil =>
          refine ⟨hnext, ?_⟩
          intro result h
          cases h
        | cons first bytes =>
          by_cases hfirst : first = 0x16
          · simp only [Bool.false_eq_true, if_false, hfirst, if_true]
            have hsame := peekTls_same { self with toManagedStream := stream } (0x16 :: bytes)
            refine ⟨hkept _ hsame, ?_⟩
            intro result h
            rw [hsame.2, hbuf, hfirst]
            exact peekTls_seen h
          · simp only [Bool.false_eq_true, if_false, hfirst]
            have hsame := peekClear_same { self with toManagedStream := stream } (first :: bytes)
            refine ⟨hkept _ hsame, ?_⟩
            intro result h
            rw [hsame.2, hbuf]
            apply peekClear_seen _ h
            rw [List.head?_cons, ne_eq, Option.some.injEq]
            exact hfirst

theorem peekLoop_seen {front : List UInt8} {fuel attempts : Nat}
    {self : PeekStream T hpack} (hself : self.Buffered front) :
    (PeekStream.peekLoop fuel attempts self).2.Buffered front ∧
      ∀ result, (PeekStream.peekLoop fuel attempts self).1 = .ok result →
        Seen (PeekStream.peekLoop fuel attempts self).2.buffer result := by
  induction fuel generalizing attempts self with
  | zero =>
    refine ⟨hself, ?_⟩
    intro result h
    cases h
  | succ fuel ih =>
    unfold PeekStream.peekLoop
    split
    · refine ⟨hself, ?_⟩
      intro result h
      cases h
    · obtain ⟨hround, hseen⟩ := peekRound_seen hself
      cases hpeek : self.peekRound with
      | mk round next =>
        rw [hpeek] at hround hseen
        cases round with
        | done outcome =>
          refine ⟨hround, ?_⟩
          intro result h
          apply hseen result
          rw [← h]
        | again counted => exact ih hround

/-- **A result of peeking** is about the bytes that the stream will deliver first. -/
theorem peekManagedStream_seen {front : List UInt8} {fuel : Nat}
    {self : PeekStream T hpack} (hself : self.Buffered front) :
    (self.peekManagedStream fuel).2.Buffered front ∧
      ∀ result, (self.peekManagedStream fuel).1 = .ok result →
        Seen (self.peekManagedStream fuel).2.buffer result :=
  peekLoop_seen hself

end OddBox.TcpProxy

import OddBox.Routing.Agreement
import OddBox.TcpProxy.Tunnel

/-!
What a backend is sent: a TLS stream exactly where it speaks TLS. A stream that starts
with a handshake record is a TLS stream, for the peek as for this development.
-/

namespace OddBox.TcpProxy

open OddBox.Configuration OddBox.Routing
open OddBox.H2 (HpackDecoder)

def IsTls (bytes : List UInt8) : Prop := bytes.head? = some 0x16

instance (bytes : List UInt8) : Decidable (IsTls bytes) :=
  inferInstanceAs (Decidable (bytes.head? = some 0x16))

/-! ## Reading what was peeked -/

section Reading

variable {T : InnerStream}

theorem taken_step (session : Session T) (op : StreamOp) :
    T.taken session.stream.stream <+: T.taken (session.step op).stream.stream := by
  cases op with
  | peekAsync =>
    obtain ⟨fetched, htaken, -⟩ := peekAsync_moves session.stream
    exact ⟨fetched, htaken.symm⟩
  | sealed => exact List.prefix_rfl
  | pollRead buf =>
    obtain ⟨new, fetched, hmoves⟩ := pollRead_moves session.stream buf
    exact ⟨fetched, hmoves.taken.symm⟩

/-- The bytes that reads of a stream deliver. -/
def ManagedStream.read (self : ManagedStream T) (ops : List StreamOp) : List UInt8 :=
  (Machine.run Session.step ⟨self, []⟩ ops).delivered

/-- The side buffer is what is read first. -/
theorem read_buffer {front : List UInt8} {self : ManagedStream T}
    (hself : T.taken self.stream = front ++ self.buffer) (ops : List StreamOp) :
    ∃ rest more, self.read ops ++ rest = self.buffer ++ more := by
  have htransparent : (Machine.run Session.step ⟨self, []⟩ ops).Transparent front := by
    apply Machine.run_invariant (fun s op h => Session.Transparent.step op h)
    rw [Session.Transparent, List.append_nil, hself]
  have hgrows : T.taken self.stream <+:
      T.taken (Machine.run Session.step ⟨self, []⟩ ops).stream.stream := by
    refine Machine.run_invariant
      (I := fun session : Session T => T.taken self.stream <+: T.taken session.stream.stream)
      ?_ List.prefix_rfl ops
    intro session op h
    exact h.trans (taken_step session op)
  obtain ⟨more, hmore⟩ := hgrows
  refine ⟨(Machine.run Session.step ⟨self, []⟩ ops).stream.buffer, more, ?_⟩
  rw [Session.Transparent, ← hmore, hself, List.append_assoc, List.append_assoc] at htransparent
  exact List.append_cancel_left htransparent

theorem isTls_read {front : List UInt8} {self : ManagedStream T}
    (hself : T.taken self.stream = front ++ self.buffer) (hbuffer : self.buffer ≠ [])
    {ops : List StreamOp} (hread : self.read ops ≠ []) :
    IsTls (self.read ops) ↔ IsTls self.buffer := by
  obtain ⟨rest, more, happend⟩ := read_buffer hself ops
  have hhead := congrArg List.head? happend
  rw [List.head?_append_of_ne_nil _ hread, List.head?_append_of_ne_nil _ hbuffer] at hhead
  rw [IsTls, IsTls, hhead]

end Reading

theorem Seen.nonempty {buf : List UInt8} {result : PeekResult} (h : Seen buf result) :
    buf ≠ [] := by
  cases h with
  | tls sni => exact List.cons_ne_nil _ _
  | http1 hclear hversion hparsed =>
    intro hnil
    rw [hnil] at hversion
    cases hversion
  | http2 hclear hpreface sni hostHeader =>
    intro hnil
    rw [hnil] at hpreface
    cases hpreface

/-! ## Connections -/

variable {Tcp Tls : InnerStream} {hpack : HpackDecoder}

/-- How a tunnel comes to be: the stream is passed on as it is, or its TLS session is
terminated and looked into. -/
inductive Connected (system : TunnelSystem Tcp Tls hpack) (target : ReverseTcpProxyTarget)
    (localAddr : String) (counts : AccessCounts) (client : PeekStream Tcp hpack)
    (incoming : Incoming) : GenericManagedStream Tcp Tls hpack → Backend → Bool → Prop where
  | passed {backendFilter : BackendFilter} {backend : Backend}
      (hterminate : terminateIncoming target incoming.isTls = false)
      (hfilter : peekresultToBackendFilter incoming.result false incoming.isH2cUpgradeRequest =
        some backendFilter)
      (hbackend : nextBackend target localAddr counts backendFilter = some backend) :
      Connected system target localAddr counts client incoming (.tcp client) backend
        (erectTlsTunnelToBackend incoming.isTls (backend.https.getD false) false)
  | terminated {session : Tls.State} {serverName : Option String} {result : PeekResult}
      {inner : PeekStream Tls hpack} {backendFilter : BackendFilter} {backend : Backend}
      (hterminate : terminateIncoming target incoming.isTls = true)
      (haccept : system.accept client = some (session, serverName))
      (hpeek : (PeekStream.fromTerminatedTlsStream hpack session serverName
        client.tcpConnectionId).peekManagedStream system.fuel = (.ok result, inner))
      (hfilter : peekresultToBackendFilter result true incoming.isH2cUpgradeRequest =
        some backendFilter)
      (hbackend : nextBackend target localAddr counts backendFilter = some backend) :
      Connected system target localAddr counts client incoming (.terminatedTls inner.seal) backend
        (erectTlsTunnelToBackend true (backend.https.getD false) true)

section Tunnel

variable {system : TunnelSystem Tcp Tls hpack} {target : ReverseTcpProxyTarget}
  {localAddr : String} {counts : AccessCounts} {stream : GenericManagedStream Tcp Tls hpack}
  {backend : Backend} {erect : Bool}

theorem connectBackend_connected {incomingTrafficIsTls clientTlsIsTerminated : Bool}
    {possiblyTerminated : GenericManagedStream Tcp Tls hpack}
    {backendFilter : Option BackendFilter}
    (h : connectBackend system target localAddr counts incomingTrafficIsTls clientTlsIsTerminated
      possiblyTerminated backendFilter = .connected stream backend erect) :
    stream = possiblyTerminated ∧
      erect = erectTlsTunnelToBackend incomingTrafficIsTls (backend.https.getD false)
        clientTlsIsTerminated ∧
      ∃ chosen, backendFilter = some chosen ∧
        nextBackend target localAddr counts chosen = some backend := by
  unfold connectBackend at h
  split at h
  · cases h
  · rename_i chosen
    split at h
    · cases h
    · rename_i next hnext
      split at h
      · cases h
        exact ⟨rfl, rfl, chosen, rfl, hnext⟩
      · cases h

theorem tunnel_connected {client : PeekStream Tcp hpack} {incoming : Incoming}
    {rustlsConfig : Bool}
    (h : tunnel system target localAddr counts (.tcp client) incoming rustlsConfig =
      .connected stream backend erect) :
    Connected system target localAddr counts client incoming stream backend erect := by
  unfold tunnel at h
  split at h
  · rename_i hterminate
    split at h
    · simp only [terminateAndConnect] at h
      split at h
      · cases h
      · rename_i session serverName haccept
        split at h
        · rename_i result inner hpeek
          obtain ⟨rfl, rfl, chosen, hfilter, hnext⟩ := connectBackend_connected h
          exact .terminated hterminate haccept hpeek hfilter hnext
        · cases h
        · cases h
    · cases h
  · rename_i hterminate
    obtain ⟨rfl, rfl, chosen, hfilter, hnext⟩ := connectBackend_connected h
    exact .passed (Bool.not_eq_true _ ▸ hterminate) hfilter hnext

theorem nextBackend_filtered {backendFilter : BackendFilter}
    (h : nextBackend target localAddr counts backendFilter = some backend) :
    filterBackend backend backendFilter = true := by
  unfold nextBackend at h
  split at h
  · exact (List.mem_filter.mp (selectBackend_mem h)).2
  · exact (List.mem_filter.mp (selectBackend_mem h)).2
  · exact (List.mem_filter.mp (selectBackend_mem h)).2
  · cases h

end Tunnel

/-- The bytes that copying reads from the client's side of a tunnel. -/
def GenericManagedStream.read (self : GenericManagedStream Tcp Tls hpack) (ops : List StreamOp) :
    List UInt8 :=
  match self with
  | .tcp stream => stream.toManagedStream.read ops
  | .terminatedTls stream => stream.toManagedStream.read ops

/-- The client's TLS stream itself, with its session not terminated. -/
def GenericManagedStream.isRawTls (self : GenericManagedStream Tcp Tls hpack)
    (result : PeekResult) : Bool :=
  match self with
  | .tcp _ => decide (result.typ = .tls)
  | .terminatedTls _ => false

theorem https_getD {backend : Backend} : backend.https.getD false = true ↔
    backend.https = some true := by
  cases backend.https with
  | none => simp
  | some https => simp

/-- The tunnels of a peeked stream: a raw TLS stream goes to a backend that speaks TLS, and
every other is wrapped for such a backend. What the side of the client starts with shows
which of the two it is. -/
structure Secured (stream : GenericManagedStream Tcp Tls hpack) (result : PeekResult)
    (backend : Backend) (erect : Bool) : Prop where
  raw : stream.isRawTls result = true → backend.https = some true
  wrapped : erect = (backend.https.getD false && !stream.isRawTls result)
  starts : ∀ ops, stream.read ops ≠ [] → (IsTls (stream.read ops) ↔ stream.isRawTls result = true)

theorem Seen.filter_of_tls {buf : List UInt8} {result : PeekResult} (h : Seen buf result)
    (htls : result.typ = .tls) (terminated isH2cUpgradeRequest : Bool) :
    peekresultToBackendFilter result terminated isH2cUpgradeRequest =
      if terminated then none else some .anyTls := by
  cases h with
  | tls sni => cases terminated <;> rfl
  | http1 => cases htls
  | http2 => cases htls

/-- A raw TLS stream goes to a backend that speaks TLS, whichever. -/
theorem Seen.incoming_filter {buf : List UInt8} {result : PeekResult} (h : Seen buf result)
    (htls : result.typ = .tls) (host : String) :
    peekresultToBackendFilter (result.incoming host).result false
      (result.incoming host).isH2cUpgradeRequest = some .anyTls := by
  obtain ⟨hversion, -⟩ := h.of_tls htls
  simp only [PeekResult.incoming, Incoming.result, peekresultToBackendFilter, hversion, htls,
    decide_true, if_true, and_self]

theorem peekManagedStream_reads {T : InnerStream} {front : List UInt8} {fuel : Nat}
    {self peeked : PeekStream T hpack} {result : PeekResult} (hself : self.Buffered front)
    (hpeek : self.peekManagedStream fuel = (.ok result, peeked)) {ops : List StreamOp}
    (hread : peeked.seal.toManagedStream.read ops ≠ []) :
    IsTls (peeked.seal.toManagedStream.read ops) ↔ result.typ = .tls := by
  obtain ⟨hbuffered, hseen⟩ := @peekManagedStream_seen T hpack front fuel self hself
  rw [hpeek] at hbuffered hseen
  have hresult := hseen result rfl
  have hsealed : T.taken peeked.seal.stream = front ++ peeked.seal.buffer := hbuffered
  rw [hresult.typ_iff]
  exact isTls_read hsealed hresult.nonempty hread

theorem erect_passed (incomingTrafficIsTls backendIsTls : Bool) :
    erectTlsTunnelToBackend incomingTrafficIsTls backendIsTls false =
      (backendIsTls && !incomingTrafficIsTls) := by
  cases incomingTrafficIsTls <;> cases backendIsTls <;> rfl

theorem erect_terminated (backendIsTls : Bool) :
    erectTlsTunnelToBackend true backendIsTls true = (backendIsTls && !false) := by
  cases backendIsTls <;> rfl

theorem Connected.secured {system : TunnelSystem Tcp Tls hpack} {target : ReverseTcpProxyTarget}
    {localAddr : String} {counts : AccessCounts} {front : List UInt8} {fuel : Nat}
    {client peeked : PeekStream Tcp hpack} {result : PeekResult} {host : String}
    {stream : GenericManagedStream Tcp Tls hpack} {backend : Backend} {erect : Bool}
    (hclient : client.Buffered front)
    (hpeek : client.peekManagedStream fuel = (.ok result, peeked))
    (h : Connected system target localAddr counts peeked.seal (result.incoming host) stream
      backend erect) : Secured stream result backend erect := by
  obtain ⟨-, hseen⟩ := @peekManagedStream_seen Tcp hpack front fuel client hclient
  rw [hpeek] at hseen
  have hresult := hseen result rfl
  cases h with
  | passed hterminate hfilter hbackend =>
    refine ⟨?_, ?_, ?_⟩
    · intro hraw
      have htls : result.typ = .tls := of_decide_eq_true hraw
      rw [hresult.incoming_filter htls] at hfilter
      cases hfilter
      exact https_getD.mp (nextBackend_filtered hbackend)
    · exact erect_passed _ _
    · intro ops hread
      rw [GenericManagedStream.isRawTls, decide_eq_true_eq]
      exact peekManagedStream_reads hclient hpeek hread
  | terminated hterminate haccept hinner hfilter hbackend =>
    rename_i session serverName inside inner backendFilter
    have hsession : (PeekStream.fromTerminatedTlsStream hpack session serverName
        peeked.seal.tcpConnectionId : PeekStream Tls hpack).Buffered (Tls.taken session) :=
      (List.append_nil _).symm
    refine ⟨?_, ?_, ?_⟩
    · intro hraw
      cases hraw
    · exact erect_terminated _
    · intro ops hread
      have hinside := (@peekManagedStream_seen Tls hpack _ system.fuel _ hsession).2 inside
      rw [hinner] at hinside
      have hreads := peekManagedStream_reads hsession hinner hread
      refine hreads.trans (iff_of_false ?_ Bool.false_ne_true)
      -- a session within the session has no filter
      intro htls
      rw [(hinside rfl).filter_of_tls htls] at hfilter
      cases hfilter

/-- What is sent to the backend of a tunnel. -/
def TlsConnector.sends (connector : TlsConnector) (backend : Backend) (erect : Bool)
    (read : List UInt8) : List UInt8 :=
  runManagedBidirectionalTunnel connector read (backend.https.getD false) (some backend.address)
    erect

theorem sends_read (connector : TlsConnector) (backend : Backend) (read : List UInt8) :
    connector.sends backend false read = read := by
  rw [TlsConnector.sends, runManagedBidirectionalTunnel, Bool.and_false, if_neg Bool.false_ne_true]

theorem sends_session {connector : TlsConnector} {backend : Backend} {read : List UInt8}
    (hhttps : backend.https.getD false = true) (hsent : connector.sends backend true read ≠ []) :
    IsTls (connector.sends backend true read) := by
  simp only [TlsConnector.sends, runManagedBidirectionalTunnel, hhttps, Bool.and_self, if_true]
    at hsent ⊢
  split
  · exact connector.send_head _ _
  · rename_i hname
    rw [if_neg hname] at hsent
    exact absurd rfl hsent

theorem Secured.sends {stream : GenericManagedStream Tcp Tls hpack} {result : PeekResult}
    {backend : Backend} {erect : Bool} (h : Secured stream result backend erect)
    (connector : TlsConnector) {ops : List StreamOp}
    (hsent : connector.sends backend erect (stream.read ops) ≠ []) :
    IsTls (connector.sends backend erect (stream.read ops)) ↔ backend.https = some true := by
  rw [← https_getD]
  have herect := h.wrapped
  cases hraw : stream.isRawTls result with
  | true =>
    rw [hraw, Bool.not_true, Bool.and_false] at herect
    rw [herect, sends_read] at hsent ⊢
    exact iff_of_true ((h.starts ops hsent).mpr hraw) (https_getD.mpr (h.raw hraw))
  | false =>
    rw [hraw, Bool.not_false, Bool.and_true] at herect
    cases hhttps : backend.https.getD false with
    | true =>
      rw [herect, hhttps] at hsent ⊢
      exact iff_of_true (sends_session hhttps hsent) rfl
    | false =>
      rw [herect, hhttps, sends_read] at hsent ⊢
      rw [h.starts ops hsent, hraw]

/-- **Wire security**: whatever the client's stream starts with, and whatever its TLS session
does, the bytes that a tunnel sends to a backend are TLS exactly where the backend's `https`
is `Some(true)`. A raw TLS stream is passed only to such a backend, and every other stream is
wrapped exactly for such a backend. -/
theorem tunnel_wire_security (system : TunnelSystem Tcp Tls hpack)
    (target : ReverseTcpProxyTarget) (localAddr : String) (counts : AccessCounts)
    (socket : Tcp.State) (tcpConnectionId fuel : Nat) {result : PeekResult}
    {peeked : PeekStream Tcp hpack} (host : String) (rustlsConfig : Bool)
    {stream : GenericManagedStream Tcp Tls hpack} {backend : Backend} {erect : Bool}
    (hpeek : (PeekStream.fromTcpStream hpack socket tcpConnectionId).peekManagedStream fuel =
      (.ok result, peeked))
    (htunnel : tunnel system target localAddr counts (.tcp peeked.seal) (result.incoming host)
      rustlsConfig = .connected stream backend erect) :
    (stream.isRawTls result = true → backend.https = some true) ∧
      (stream.isRawTls result = false → (erect = true ↔ backend.https = some true)) ∧
      ∀ ops, system.connector.sends backend erect (stream.read ops) ≠ [] →
        (IsTls (system.connector.sends backend erect (stream.read ops)) ↔
          backend.https = some true) := by
  have hclient : (PeekStream.fromTcpStream hpack socket tcpConnectionId :
      PeekStream Tcp hpack).Buffered (Tcp.taken socket) := (List.append_nil _).symm
  have hsecured := (tunnel_connected htunnel).secured hclient hpeek
  refine ⟨hsecured.raw, ?_, ?_⟩
  · intro hraw
    rw [hsecured.wrapped, hraw, Bool.not_false, Bool.and_true]
    exact https_getD
  · intro ops hsent
    exact hsecured.sends system.connector hsent

/-! ## A clear request -/

def getBytes : List UInt8 := ascii "GET / HTTP/1.1\r\nHost: a.test\r\n\r\n"

def getSocket : scripted.State := ([], [some (71, getBytes.tail)])

/-- The request as it is looked at once. -/
def getPeek : PeekOutcome × PeekStream scripted H2.staticHpack :=
  (PeekStream.fromTcpStream H2.staticHpack getSocket 1).peekManagedStream 1

def getResult : PeekResult where
  typ := .clearText
  httpVersion := some .http11
  targetHost := some "a.test"
  isH2cUpgrade := false
  sni := none
  hostHeader := some "a.test"

def backendOn (https : Option Bool) (hints : Option (List Hint)) : Backend where
  address := "127.0.0.1"
  port := 8080
  https := https
  hints := hints

def targetWith (backends : List Backend) : ReverseTcpProxyTarget :=
  remoteTarget { plainRemote "a.test" none with backends := backends } none

/-- Every connection and every handshake with a backend succeeds; a session sends its
handshake and then what is written to it. -/
def openSystem (accept : PeekStream scripted hpack → Option (scripted.State × Option String)) :
    TunnelSystem scripted scripted hpack where
  accept := accept
  connects _ := true
  connector := {
    isServerName := fun _ => true
    connects := fun _ => true
    send := fun _ bytes => 0x16 :: bytes
    send_head := fun _ _ => rfl }
  fuel := 1

theorem getPeek_eq : getPeek = (.ok getResult, getPeek.2) :=
  Prod.ext (by decide +kernel) rfl

/-- A clear request is wrapped for a backend that speaks TLS. -/
theorem getRequest_wrapped :
    ((GenericManagedStream.tcp getPeek.2.seal :
        GenericManagedStream scripted scripted H2.staticHpack).read
          [.pollRead ⟨[], 64, Nat.zero_le _⟩] = getBytes) ∧
      IsTls ((openSystem fun _ => none : TunnelSystem scripted scripted
        H2.staticHpack).connector.sends (backendOn (some true) none) true
        ((GenericManagedStream.tcp getPeek.2.seal :
          GenericManagedStream scripted scripted H2.staticHpack).read
            [.pollRead ⟨[], 64, Nat.zero_le _⟩])) := by
  refine ⟨by decide +kernel, ?_⟩
  have hsecure := tunnel_wire_security (openSystem fun _ => none)
    (targetWith [backendOn (some true) none]) "localhost" (fun _ => none) getSocket 1 1 "a.test"
    false getPeek_eq (by rfl)
  apply (hsecure.2.2 [.pollRead ⟨[], 64, Nat.zero_le _⟩] (List.cons_ne_nil _ _)).mpr rfl

end OddBox.TcpProxy

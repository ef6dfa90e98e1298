import OddBox.Proxy.Tracking
import OddBox.TcpProxy.HelloVerdicts
import OddBox.TcpProxy.PeekMarks
import OddBox.TcpProxy.WireSecurity

/-!
The types that the record of a connection takes after its updates: the invalid one stands for
combinations of the four fields that no connection should show.
-/

namespace OddBox.Proxy

open OddBox.Configuration OddBox.Routing OddBox.Str OddBox.TcpProxy
open OddBox.H2 (HpackDecoder)

/-! ## The combinations -/

def ConnectionType.isInvalid : ConnectionType → Bool
  | .invalid .. => true
  | _ => false

/-- The combinations with a type. Without a tunnel HTTP is terminated, and with it the TLS of a
TLS connection. -/
def ProxyActiveTCPConnection.combines (self : ProxyActiveTCPConnection) : Bool :=
  match self.outgoingTunnelType with
  | none => self.httpTerminated && self.incomingConnectionUsesTls == self.tlsTerminated
  | some (.raw _ _) => !(self.incomingConnectionUsesTls && self.httpTerminated)
  | some (.tls _ _) =>
    !self.incomingConnectionUsesTls || self.tlsTerminated && !self.httpTerminated

theorem getConnectionType_isInvalid {record : ProxyActiveTCPConnection}
    (hversion : record.version ≠ 1) :
    record.getConnectionType.isInvalid = !record.combines := by
  rw [ProxyActiveTCPConnection.getConnectionType, if_neg hversion,
    ProxyActiveTCPConnection.combines]
  cases record.outgoingTunnelType with
  | none =>
    cases record.incomingConnectionUsesTls <;> cases record.tlsTerminated <;>
      cases record.httpTerminated <;> rfl
  | some tunnel =>
    cases tunnel <;> cases record.incomingConnectionUsesTls <;> cases record.tlsTerminated <;>
      cases record.httpTerminated <;> rfl

namespace History

/-- After its first update the record is of no invalid type. -/
def Typed (history : History) : Prop :=
  ∀ record ∈ history, 1 < record.version → record.getConnectionType.isInvalid = false

/-- The connection is tracked, and no tunnel is attached yet. -/
def Pending (history : History) : Prop :=
  ∃ conn earlier, history = conn :: earlier ∧ 1 ≤ conn.version ∧ conn.outgoingTunnelType = none

/-! ## One update -/

section

variable {mutator : ProxyActiveTCPConnection → ProxyActiveTCPConnection}

theorem mutateTrackedConnection_typed_iff {conn : ProxyActiveTCPConnection} {earlier : History}
    (hversion : 1 ≤ conn.version) :
    Typed (mutateTrackedConnection mutator (conn :: earlier)) ↔
      (mutator conn).combines = true ∧ Typed (conn :: earlier) := by
  have hnext : conn.version + 1 ≠ 1 := by omega
  rw [mutateTrackedConnection, Typed, List.forall_mem_cons, getConnectionType_isInvalid hnext,
    Bool.not_eq_false']
  exact and_congr_left' (forall_prop_of_true (Nat.lt_succ_of_le hversion))

theorem mutateTrackedConnection_pending {history : History} (h : history.Pending)
    (hkeeps : ∀ x, (mutator x).outgoingTunnelType = x.outgoingTunnelType) :
    (history.mutateTrackedConnection mutator).Pending := by
  obtain ⟨conn, earlier, rfl, hversion, hnone⟩ := h
  exact ⟨_, _, rfl, by simp, (hkeeps conn).trans hnone⟩

variable {Tcp Tls : InnerStream} {hpack : HpackDecoder} {history : History}
  {stream : GenericManagedStream Tcp Tls hpack}

theorem refresh_outgoingTunnelType (stream : GenericManagedStream Tcp Tls hpack)
    (x : ProxyActiveTCPConnection) :
    (refresh stream x).outgoingTunnelType = x.outgoingTunnelType := by
  cases stream <;> rfl

theorem updateTrackedInfo_pending (h : history.Pending)
    (hkeeps : ∀ x, (mutator x).outgoingTunnelType = x.outgoingTunnelType) :
    (history.updateTrackedInfo stream mutator).Pending := by
  apply mutateTrackedConnection_pending h
  intro x
  exact (hkeeps _).trans (refresh_outgoingTunnelType stream x)

/-- An update of a connection without a tunnel. -/
theorem updateTrackedInfo_typed_iff {P : Prop} (h : history.Pending)
    (hwrites : ∀ x, x.outgoingTunnelType = none →
      ((mutator (refresh stream x)).combines = true ↔ P)) :
    (history.updateTrackedInfo stream mutator).Typed ↔ P ∧ history.Typed := by
  obtain ⟨conn, earlier, rfl, hversion, hnone⟩ := h
  rw [updateTrackedInfo, mutateTrackedConnection_typed_iff hversion, hwrites conn hnone]

end

/-! ## The peek -/

variable {Tcp Tls : InnerStream} {hpack : HpackDecoder}

/-- Whether a peek writes a name to the record. -/
def namesHost : PeekOutcome → Bool
  | .ok result => (nameOfPeek result).isSome
  | _ => false

section

variable {history : History} {stream : GenericManagedStream Tcp Tls hpack}
  {outcome : PeekOutcome}

theorem peek_pending (h : history.Pending) : (history.peek outcome stream).Pending := by
  unfold peek
  split
  · split
    · exact updateTrackedInfo_pending h fun _ => rfl
    · exact h
  · exact h

/-- The name is written to a record that says nothing about HTTP. -/
theorem peek_typed_iff (h : history.Pending) :
    (history.peek outcome stream).Typed ↔ namesHost outcome = false ∧ history.Typed := by
  cases outcome with
  | ok result =>
    cases hname : nameOfPeek result with
    | none => simp only [peek, namesHost, hname, Option.isSome_none, true_and]
    | some name =>
      simp only [peek, namesHost, hname, Option.isSome_some, Bool.true_eq_false]
      apply updateTrackedInfo_typed_iff h
      intro x hnone
      rw [← refresh_outgoingTunnelType stream] at hnone
      simp only [ProxyActiveTCPConnection.combines, hnone]
      cases stream <;> simp [refresh]
  | error e => simp only [peek, namesHost, true_and]
  | panicked => simp only [peek, namesHost, true_and]
  | peeking => simp only [peek, namesHost, true_and]

end

/-! ## The fallback -/

section

variable (system : TunnelSystem Tcp Tls hpack)

/-- Whether a stream has a session into which a peek writes a name. -/
def sessionNamesHost (stream : PeekStream Tcp hpack) : Bool :=
  match system.accept stream with
  | some (session, serverName) => namesHost (peekSession system session serverName stream).1
  | none => false

/-- When a stream that falls back is typed throughout. -/
def FallbackTyped (rustlsConfig usesTls : Bool) (stream : PeekStream Tcp hpack) : Prop :=
  if rustlsConfig then sessionNamesHost system stream = false else usesTls = false

variable {system} {history : History} {reason : FallbackReason}

/-- The terminated session of a stream, on which HTTP is terminated too. -/
theorem typed_of_terminated {stream : GenericManagedStream Tcp Tls hpack} (h : history.Pending)
    (sni : Option String) :
    (history.updateTrackedInfo stream fun x =>
      { x with
        httpTerminated := true
        tlsTerminated := true
        incomingConnectionUsesTls := true
        incomingSni := sni }).Typed ↔ history.Typed := by
  refine (updateTrackedInfo_typed_iff (P := True) h ?_).trans (iff_of_eq (true_and _))
  intro x hnone
  rw [← refresh_outgoingTunnelType stream] at hnone
  simp only [ProxyActiveTCPConnection.combines, hnone, BEq.rfl, Bool.and_self]

theorem useFallbackMode_tcp_typed_iff {rustlsConfig : Bool} {stream : PeekStream Tcp hpack}
    (h : history.Pending) (hterminated : stream.isTlsTerminated = false)
    (hreason : ∀ e, reason ≠ .unknown e) :
    (history.useFallbackMode system rustlsConfig (.tcp stream) reason).Typed ↔
      FallbackTyped system rustlsConfig stream.isTls stream ∧ history.Typed := by
  unfold useFallbackMode
  split
  · next e => exact absurd rfl (hreason e)
  · cases rustlsConfig with
    | true =>
      rw [FallbackTyped, if_pos rfl, sessionNamesHost]
      cases haccept : system.accept stream with
      | none => simp only [haccept, true_and]
      | some accepted =>
        obtain ⟨session, serverName⟩ := accepted
        simp only [haccept]
        rw [← peek_typed_iff h]
        cases hpeek : (peekSession system session serverName stream).1 with
        | panicked => rfl
        | peeking => rfl
        | ok result => exact typed_of_terminated (peek_pending h) serverName
        | error e => exact typed_of_terminated (peek_pending h) serverName
    | false =>
      rw [FallbackTyped, if_neg Bool.false_ne_true]
      apply updateTrackedInfo_typed_iff h
      intro x hnone
      simp [ProxyActiveTCPConnection.combines, refresh, hnone, hterminated]

theorem useFallbackMode_terminated_typed_iff {stream : PeekStream Tls hpack} (h : history.Pending)
    (htls : stream.isTls = true) (hreason : ∀ e, reason ≠ .unknown e) :
    (history.useFallbackMode system true (.terminatedTls stream) reason).Typed ↔
      history.Typed := by
  unfold useFallbackMode
  split
  · next e => exact absurd rfl (hreason e)
  · refine (updateTrackedInfo_typed_iff (P := True) h ?_).trans (iff_of_eq (true_and _))
    intro x hnone
    simp only [ProxyActiveTCPConnection.combines, refresh, hnone, htls, BEq.rfl, Bool.and_self]

end

/-! ## The API -/

section

variable {system : TunnelSystem Tcp Tls hpack} {sockets : Sockets} {rustlsConfig : Bool}
  {history : History} {stream : PeekStream Tcp hpack}

/-- The API is where HTTP is terminated, and TLS only after it. -/
theorem api_typed_iff (h : history.Pending) (hterminated : stream.isTlsTerminated = false) :
    ((history.updateTrackedInfo (.tcp stream : GenericManagedStream Tcp Tls hpack) fun x =>
      { x with httpTerminated := true }).handleStream system sockets rustlsConfig
        (.tcp stream)).Typed ↔
      (stream.isTls = false ∧
        (rustlsConfig && sockets.clientReadable && (system.accept stream.seal).isSome) = false) ∧
        history.Typed := by
  obtain ⟨conn, earlier, rfl, hversion, hnone⟩ := h
  have hfirst : (updateTrackedInfo (.tcp stream : GenericManagedStream Tcp Tls hpack)
      (fun x => { x with httpTerminated := true }) (conn :: earlier)).Typed ↔
        stream.isTls = false ∧ Typed (conn :: earlier) := by
    rw [updateTrackedInfo, mutateTrackedConnection_typed_iff hversion]
    simp [ProxyActiveTCPConnection.combines, refresh, hnone, hterminated]
  unfold handleStream
  cases hreached : rustlsConfig && sockets.clientReadable with
  | false => simpa only [Bool.false_eq_true, if_false, Bool.false_and, and_true] using hfirst
  | true =>
    cases haccept : (system.accept stream.seal).isSome with
    | false =>
      simpa only [haccept, if_true, Bool.false_eq_true, if_false, Bool.and_false, and_true]
        using hfirst
    | true =>
      simp only [if_true, haccept, Bool.and_self, Bool.true_eq_false, and_false, false_and,
        iff_false]
      intro htyped
      have hupdated := (mutateTrackedConnection_typed_iff (by simp)).mp htyped
      have hclear := (hfirst.mp hupdated.2).1
      simp [ProxyActiveTCPConnection.combines, refresh, hnone, hclear] at hupdated

end

/-! ## The tunnel -/

section

variable (system : TunnelSystem Tcp Tls hpack) (sockets : Sockets) (localAddr : String)
  (counts : AccessCounts) (rustlsConfig : Bool)

/-- The backend for a stream whose session is not terminated. -/
def passedTo (target : ReverseTcpProxyTarget) (incoming : Incoming) : Option Backend :=
  (peekresultToBackendFilter incoming.result false incoming.isH2cUpgradeRequest).bind
    (nextBackend target localAddr counts)

/-- When a stream that may be tunnelled is typed throughout. -/
def TunnelTyped (usesTls : Bool) (target : ReverseTcpProxyTarget) (incoming : Incoming)
    (stream : PeekStream Tcp hpack) : Prop :=
  if terminateIncoming target incoming.isTls then
    rustlsConfig = true → sessionNamesHost system stream = false
  else
    match passedTo localAddr counts target incoming with
    | none => FallbackTyped system rustlsConfig usesTls stream
    | some backend => incoming.isTls = true →
      (system.connects (backend.address ++ ":" ++ portText backend.port) &&
        sockets.backendReadable) = false

variable {system sockets localAddr counts rustlsConfig} {target : ReverseTcpProxyTarget}
  {incoming : Incoming}

theorem terminateAndConnect_eq {stream : PeekStream Tcp hpack} {session : Tls.State}
    {serverName : Option String} (haccept : system.accept stream = some (session, serverName))
    (isH2cUpgradeRequest : Bool) :
    terminateAndConnect system target localAddr counts stream isH2cUpgradeRequest =
      match peekSession system session serverName stream with
      | (.ok result, inner) =>
        connectBackend system target localAddr counts true true (.terminatedTls inner.seal)
          (peekresultToBackendFilter result true isH2cUpgradeRequest)
      | (.error e, _) => .unreadable e
      | (_, _) => .stuck := by
  rw [terminateAndConnect, haccept]
  rfl

variable {history : History}

/-- A tunnel to a backend that speaks TLS is taken for one over which a session is made. -/
theorem connected_typed_iff {stream : GenericManagedStream Tcp Tls hpack} {terminated : Bool}
    (h : history.Pending) (hterminated : ∀ x, (refresh stream x).tlsTerminated = terminated)
    (backend : Backend) :
    (history.updateTrackedInfo stream fun x =>
      { x with
        incomingConnectionUsesTls := incoming.isTls
        outgoingTunnelType := some (if backend.https.getD false then .tls target backend
          else .raw target backend) }).Typed ↔
      (incoming.isTls = true → backend.https.getD false = true → terminated = true) ∧
        history.Typed := by
  apply updateTrackedInfo_typed_iff h
  intro x _
  have hhttp : (refresh stream x).httpTerminated = false := by
    cases stream <;> rfl
  simp only [ProxyActiveTCPConnection.combines, hterminated, hhttp]
  cases backend.https.getD false with
  | false => simp
  | true => cases incoming.isTls <;> simp

/-- What comes of a filter: the stream falls back, or it may be tunnelled to a backend. -/
theorem tunnelled_typed_iff {stream : GenericManagedStream Tcp Tls hpack} {terminated : Bool}
    (h : history.Pending) (hterminated : ∀ x, (refresh stream x).tlsTerminated = terminated)
    (incomingTrafficIsTls clientTlsIsTerminated : Bool) (backendFilter : Option BackendFilter) :
    (history.tunnelled system sockets rustlsConfig target incoming
        (connectBackend system target localAddr counts incomingTrafficIsTls clientTlsIsTerminated
          stream backendFilter)).Typed ↔
      match backendFilter.bind (nextBackend target localAddr counts) with
      | none => (history.useFallbackMode system rustlsConfig stream .noBackendFound).Typed
      | some backend =>
        ((system.connects (backend.address ++ ":" ++ portText backend.port) &&
            sockets.backendReadable) = true →
          incoming.isTls = true → backend.https.getD false = true → terminated = true) ∧
            history.Typed := by
  cases backendFilter with
  | none => rfl
  | some backendFilter =>
    rw [Option.bind_some, connectBackend]
    cases nextBackend target localAddr counts backendFilter with
    | none => rfl
    | some backend =>
      dsimp only
      cases system.connects (backend.address ++ ":" ++ portText backend.port) with
      | false => simp [tunnelled]
      | true =>
        rw [if_pos rfl, tunnelled, Bool.true_and]
        cases sockets.backendReadable with
        | false => simp
        | true =>
          rw [if_pos rfl, connected_typed_iff h hterminated, forall_prop_of_true rfl]

/-- The tunnel of a terminated session. -/
theorem tunnel_terminated_typed_iff {stream : PeekStream Tcp hpack}
    (h : history.Pending) (hterminate : terminateIncoming target incoming.isTls = true) :
    (history.tunnel system sockets localAddr counts true target incoming stream).Typed ↔
      sessionNamesHost system stream = false ∧ history.Typed := by
  rw [tunnel, hterminate, Bool.and_self, if_pos rfl, sessionNamesHost, TcpProxy.tunnel,
    if_pos hterminate, if_pos rfl]
  cases haccept : system.accept stream with
  | none => simp only [terminateAndConnect, haccept, tunnelled, true_and]
  | some accepted =>
    obtain ⟨session, serverName⟩ := accepted
    rw [terminateAndConnect_eq haccept]
    obtain ⟨htls, hterminated⟩ : (peekSession system session serverName stream).2.isTls = true ∧
        (peekSession system session serverName stream).2.isTlsTerminated = true :=
      peek_fromTerminatedTlsStream_marks session serverName stream.tcpConnectionId system.fuel
    have hpeeked : (history.peek (peekSession system session serverName stream).1
        (.terminatedTls (peekSession system session serverName stream).2 :
          GenericManagedStream Tcp Tls hpack)).Typed ↔
            namesHost (peekSession system session serverName stream).1 = false ∧ history.Typed :=
      peek_typed_iff h
    rw [← hpeeked]
    dsimp only
    cases hpeek : peekSession system session serverName stream with
    | mk outcome inner =>
      rw [hpeek] at htls hterminated
      cases outcome with
      | ok result =>
        have hrefresh : ∀ x, (refresh (.terminatedTls inner.seal :
            GenericManagedStream Tcp Tls hpack) x).tlsTerminated = true := fun _ => hterminated
        rw [tunnelled_typed_iff (peek_pending h) hrefresh]
        split
        · refine useFallbackMode_terminated_typed_iff (peek_pending h) htls ?_
          intro e
          exact FallbackReason.noConfusion
        · simp
      | error e => rfl
      | panicked => rfl
      | peeking => rfl

theorem tunnel_typed_iff {stream : PeekStream Tcp hpack} (h : history.Pending)
    (hterminated : stream.isTlsTerminated = false)
    (hhttps : ∀ backend, terminateIncoming target incoming.isTls = false →
      incoming.isTls = true → passedTo localAddr counts target incoming = some backend →
        backend.https.getD false = true) :
    (history.tunnel system sockets localAddr counts rustlsConfig target incoming stream).Typed ↔
      TunnelTyped system sockets localAddr counts rustlsConfig stream.isTls target incoming
        stream ∧ history.Typed := by
  unfold TunnelTyped
  cases hterminate : terminateIncoming target incoming.isTls with
  | true =>
    cases rustlsConfig with
    | true =>
      rw [tunnel_terminated_typed_iff h hterminate, if_pos rfl, forall_prop_of_true rfl]
    | false =>
      rw [tunnel, TcpProxy.tunnel, hterminate]
      simp [tunnelled]
  | false =>
    rw [tunnel, TcpProxy.tunnel, hterminate]
    simp only [Bool.false_and, Bool.false_eq_true, if_false]
    have hrefresh : ∀ x, (refresh (.tcp stream : GenericManagedStream Tcp Tls hpack)
        x).tlsTerminated = false := fun _ => hterminated
    rw [tunnelled_typed_iff h hrefresh, ← passedTo]
    cases hpassed : passedTo localAddr counts target incoming with
    | none =>
      refine useFallbackMode_tcp_typed_iff h hterminated ?_
      intro e
      exact FallbackReason.noConfusion
    | some backend =>
      apply and_congr_left'
      constructor
      · intro hconnected htls
        rw [Bool.eq_false_iff]
        intro hreached
        exact Bool.false_ne_true (hconnected hreached htls (hhttps backend hterminate htls hpassed))
      · intro hunreached hreached htls
        rw [hunreached htls] at hreached
        contradiction

end

/-! ## The connection -/

section

variable (system : TunnelSystem Tcp Tls hpack) (sockets : Sockets) (localAddr : String)
  (counts : AccessCounts) (rustlsConfig : Bool)

/-- When a connection that is handed on is typed throughout. The record says that HTTP is
terminated before it says that TLS is. -/
def HandlingTyped (usesTls : Bool) (handling : Handling) (stream : PeekStream Tcp hpack) : Prop :=
  match handling with
  | .api => usesTls = false ∧
      (rustlsConfig && sockets.clientReadable && (system.accept stream.seal).isSome) = false
  | .fallback reason _ =>
    (∀ e, reason ≠ .unknown e) → FallbackTyped system rustlsConfig usesTls stream
  | .tunnel target incoming =>
    TunnelTyped system sockets localAddr counts rustlsConfig usesTls target incoming stream
  | _ => True

variable {system sockets localAddr counts rustlsConfig} {history : History}

theorem handle_typed_iff {handling : Handling} {stream : PeekStream Tcp hpack}
    (h : history.Pending) (hterminated : stream.isTlsTerminated = false)
    (hhttps : ∀ target incoming backend, handling = .tunnel target incoming →
      incoming.isTls = true → passedTo localAddr counts target incoming = some backend →
        backend.https.getD false = true) :
    (history.handle system sockets localAddr counts rustlsConfig handling stream).Typed ↔
      HandlingTyped system sockets localAddr counts rustlsConfig stream.isTls handling stream ∧
        history.Typed := by
  cases handling with
  | api => exact api_typed_iff h hterminated
  | fallback reason resolvedTarget =>
    rw [handle, HandlingTyped]
    by_cases hreason : ∀ e, reason ≠ .unknown e
    · rw [forall_prop_of_true hreason]
      exact useFallbackMode_tcp_typed_iff h hterminated hreason
    · rw [forall_prop_of_false hreason, true_and]
      obtain ⟨e, rfl⟩ : ∃ e, reason = .unknown e := by simpa using hreason
      rfl
  | tunnel target incoming =>
    apply tunnel_typed_iff h hterminated
    intro backend _ htls hpassed
    exact hhttps target incoming backend rfl htls hpassed
  | terminating => exact (iff_of_eq (true_and _)).symm
  | closed => exact (iff_of_eq (true_and _)).symm
  | panicked => exact (iff_of_eq (true_and _)).symm
  | peeking => exact (iff_of_eq (true_and _)).symm

end

theorem tunnel_incoming {mapping : CaseMapping} {siteStatusMap : String → Option ProcState}
    {api : Bool} {state : GlobalState} {peeked : PeekOutcome} {target : ReverseTcpProxyTarget}
    {incoming : Incoming}
    (h : (Proxy.handleNewTcpStream mapping siteStatusMap api state peeked).1 =
      .tunnel target incoming) :
    ∃ result host, peeked = .ok result ∧ incoming = result.incoming host := by
  unfold Proxy.handleNewTcpStream at h
  split at h
  · next result =>
    split_ifs at h
    split at h
    · contradiction
    · next targetHostName _ =>
      unfold handleHost at h
      split at h
      · split at h
        · contradiction
        · cases h
          exact ⟨result, targetHostName, rfl, rfl⟩
      · contradiction
      · contradiction
  · contradiction
  · contradiction
  · contradiction
  · contradiction
  · contradiction

theorem track_pending (stream : GenericManagedStream Tcp Tls hpack) (sockets : Sockets) :
    (track stream sockets none []).Pending :=
  ⟨_, _, rfl, Nat.le_refl 1, rfl⟩

theorem track_typed (stream : GenericManagedStream Tcp Tls hpack) (sockets : Sockets) :
    (track stream sockets none []).Typed := by
  intro record hrecord hversion
  rw [List.mem_singleton.mp hrecord] at hversion
  contradiction

/-- Before the connection is tracked a peek writes nothing. -/
theorem peek_nil (outcome : PeekOutcome) (stream : GenericManagedStream Tcp Tls hpack) :
    peek outcome stream [] = [] := by
  unfold peek
  split
  · split <;> rfl
  · rfl

/-- The history of a peeked stream. -/
theorem handleNewTcpStream_typed_iff {system : TunnelSystem Tcp Tls hpack} {sockets : Sockets}
    {localAddr : String} {counts : AccessCounts} {rustlsConfig : Bool} {mapping : CaseMapping}
    {siteStatusMap : String → Option ProcState} {state : GlobalState}
    {peeked : PeekOutcome × PeekStream Tcp hpack} (hterminated : peeked.2.isTlsTerminated = false)
    (hmarked : peeked.1.IsDecision → peeked.2.isTls = peeked.1.saysTls)
    (hseen : ∀ result, peeked.1 = .ok result → ∃ buf, Seen buf result) :
    (handleNewTcpStream system sockets localAddr counts rustlsConfig mapping siteStatusMap state
        peeked).Typed ↔
      HandlingTyped system sockets localAddr counts rustlsConfig peeked.1.saysTls
        (Proxy.handleNewTcpStream mapping siteStatusMap rustlsConfig state peeked.1).1
        peeked.2.seal := by
  obtain ⟨outcome, stream⟩ := peeked
  have hhttps : ∀ target incoming backend,
      (Proxy.handleNewTcpStream mapping siteStatusMap rustlsConfig state outcome).1 =
        .tunnel target incoming → incoming.isTls = true →
          passedTo localAddr counts target incoming = some backend →
            backend.https.getD false = true := by
    intro target incoming backend hhandling htls hpassed
    obtain ⟨result, host, hresult, rfl⟩ := tunnel_incoming hhandling
    obtain ⟨buf, hresult⟩ := hseen result hresult
    rw [passedTo, hresult.incoming_filter (of_decide_eq_true htls), Option.bind_some] at hpassed
    exact nextBackend_filtered hpassed
  have hhandled := @handle_typed_iff Tcp Tls hpack system sockets localAddr counts rustlsConfig
    (track (.tcp stream.seal : GenericManagedStream Tcp Tls hpack) sockets none [])
    (Proxy.handleNewTcpStream mapping siteStatusMap rustlsConfig state outcome).1 stream.seal
    (track_pending _ _) hterminated hhttps
  rw [and_iff_left (track_typed _ _)] at hhandled
  have hempty : Typed [] := fun _ hnot => absurd hnot List.not_mem_nil
  rw [handleNewTcpStream, peek_nil]
  cases outcome with
  | ok result =>
    rw [← hmarked (.result result)]
    exact hhandled
  | error e =>
    refine hhandled.trans ?_
    -- without a decision the connection is closed or ignored
    have hignored : ∀ usesTls, HandlingTyped system sockets localAddr counts rustlsConfig usesTls
        (.fallback (.unknown e) none) stream.seal := fun _ hknown => absurd rfl (hknown e)
    cases e with
    | h2PriorKnowledgeNeedsToBeTerminated =>
      rw [← hmarked .terminate]
      rfl
    | streamIsClosed => exact Iff.rfl
    | unknown message => exact iff_of_true (hignored _) (hignored _)
    | unreadable e => exact iff_of_true (hignored _) (hignored _)
  | panicked => exact iff_of_true hempty trivial
  | peeking => exact iff_of_true hempty trivial

/-- **The type of a connection**: whatever a client sends on either listener and whichever way its
connection then takes, after the first update of its record the type is never the invalid one
exactly where the API is not reached over TLS, what falls back on the listener for clear text is
not TLS, a raw TLS stream gets to no backend, and no peek into a terminated session writes a
name. -/
theorem connection_typed_iff (system : TunnelSystem Tcp Tls hpack) (sockets : Sockets)
    (localAddr : String) (counts : AccessCounts) (rustlsConfig : Bool) (mapping : CaseMapping)
    (siteStatusMap : String → Option ProcState) (state : GlobalState) (socket : Tcp.State)
    (tcpConnectionId fuel : Nat) :
    let peeked := (PeekStream.fromTcpStream hpack socket tcpConnectionId).peekManagedStream fuel
    let history := handleNewTcpStream system sockets localAddr counts rustlsConfig mapping
      siteStatusMap state peeked
    (∀ record ∈ history, 1 < record.version → record.getConnectionType.isInvalid = false) ↔
      HandlingTyped system sockets localAddr counts rustlsConfig peeked.1.saysTls
        (Proxy.handleNewTcpStream mapping siteStatusMap rustlsConfig state peeked.1).1
        peeked.2.seal := by
  intro peeked history
  obtain ⟨hterminated, hmarked⟩ :=
    @peek_fromTcpStream_marks Tcp hpack socket tcpConnectionId fuel
  have hbuffered : (PeekStream.fromTcpStream hpack socket tcpConnectionId :
      PeekStream Tcp hpack).Buffered (Tcp.taken socket) := (List.append_nil _).symm
  have hseen := (@peekManagedStream_seen Tcp hpack _ fuel _ hbuffered).2
  exact handleNewTcpStream_typed_iff hterminated hmarked fun result hresult =>
    ⟨_, hseen result hresult⟩

/-! ## A raw TLS stream -/

/-- A site whose backend speaks TLS. -/
def passthruSite : RemoteSiteConfig :=
  { plainRemote "a" none with backends := [backendOn (some true) none] }

/-- A client hello for the site. -/
def helloPeek : PeekOutcome × PeekStream scripted H2.staticHpack :=
  (PeekStream.fromTcpStream H2.staticHpack
    (([], [some (0x16, (sampleHello 6).tail)]) : scripted.State) 1).peekManagedStream 1

def helloHistory : History :=
  handleNewTcpStream (openSystem fun _ => none : TunnelSystem scripted scripted H2.staticHpack)
    ⟨none, none, true, true⟩ "localhost" (fun _ => none) true asciiOnly (fun _ => none)
    (freshState (withRemotes [passthruSite])) helloPeek

/-- The record of a TLS stream that is passed through says that a TLS session was made for it
that nobody terminated. -/
theorem passthru_invalid :
    (withRemotes [passthruSite]).isValid = .ok () ∧
      ∃ record ∈ helloHistory, record.version = 2 ∧
        record.getConnectionType = .invalid true false false
          (some (.tls (remoteTarget passthruSite none) (backendOn (some true) none))) := by
  have hnewest : helloHistory.head?.map (fun record => (record.version, record.getConnectionType)) =
      some (2, .invalid true false false
        (some (.tls (remoteTarget passthruSite none) (backendOn (some true) none)))) := by
    decide +kernel
  obtain ⟨record, hrecord, hvalues⟩ := Option.map_eq_some_iff.mp hnewest
  obtain ⟨hversion, htype⟩ := Prod.mk.inj hvalues
  exact ⟨by rfl, record, List.mem_of_mem_head? hrecord, hversion, htype⟩

end History

end OddBox.Proxy

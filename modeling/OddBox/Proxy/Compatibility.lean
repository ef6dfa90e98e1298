import OddBox.Proxy.Admission
import OddBox.TcpProxy.WireSecurity

/-!
Does a backend understand what it is sent? The filter is chosen from the side of the
client, before it is known how the backend is reached.
-/

namespace OddBox.Proxy

open OddBox.Configuration OddBox.Routing OddBox.TcpProxy
open OddBox.H2 (HpackDecoder)

variable {Tcp Tls : InnerStream} {hpack : HpackDecoder}

/-! ## What a backend understands -/

/-- What the stream of a tunnel is identified as: by the peek at the connection, or by the
one into its terminated session. -/
def identified (system : TunnelSystem Tcp Tls hpack) (target : ReverseTcpProxyTarget)
    (client : PeekStream Tcp hpack) (result : PeekResult) : Option PeekResult :=
  if terminateIncoming target (decide (result.typ = .tls)) then
    match system.accept client with
    | none => none
    | some (session, serverName) =>
      match ((PeekStream.fromTerminatedTlsStream hpack session serverName
          client.tcpConnectionId : PeekStream Tls hpack).peekManagedStream system.fuel).1 with
      | .ok result => some result
      | _ => none
  else some result

/-- The hint of a backend that speaks HTTP/2 on the connection that is made to it. -/
def http2Hint (backend : Backend) : Hint := if backend.https.getD false then .h2 else .h2cpk

/-- The hints of the backend cover the stream. A request for an upgrade to h2c is not taken
for one that needs HTTP/1 only. -/
structure Compatible (seen : PeekResult) (backend : Backend) : Prop where
  http2 : seen.httpVersion = some .http2 → http2Hint backend ∈ backend.hintList
  http1 : seen.httpVersion = some .http10 ∨ seen.httpVersion = some .http11 →
    seen.isH2cUpgrade = false → backend.hintList = [] ∨ .h1 ∈ backend.hintList
  h2c : seen.isH2cUpgrade = true → .h2c ∈ backend.hintList

/-- The backends that a filter lets through although they do not understand the stream; the
flag says whether a session of the client was terminated. -/
inductive Misfit (seen : PeekResult) (backend : Backend) : Bool → Prop where
  /-- HTTP/2 with prior knowledge goes into a TLS session. -/
  | priorKnowledge (hversion : seen.httpVersion = some .http2)
      (hupgrade : seen.isH2cUpgrade = false) (hhttps : backend.https.getD false = true)
      (hhas : .h2cpk ∈ backend.hintList) (hlacks : .h2 ∉ backend.hintList) :
      Misfit seen backend false
  /-- HTTP/2 goes on to a backend that speaks it only the other way. -/
  | otherWay (hversion : seen.httpVersion = some .http2)
      (hhas : .h2 ∈ backend.hintList ∨ .h2cpk ∈ backend.hintList)
      (hlacks : http2Hint backend ∉ backend.hintList) : Misfit seen backend true
  /-- The upgrade is asked for inside the session, where nobody looks for it. -/
  | http2Upgrade (hversion : seen.httpVersion = some .http2) (hupgrade : seen.isH2cUpgrade = true)
      (hhas : .h2 ∈ backend.hintList ∨ .h2cpk ∈ backend.hintList)
      (hlacks : .h2c ∉ backend.hintList) : Misfit seen backend true
  | http1Upgrade (hversion : seen.httpVersion = some .http10 ∨ seen.httpVersion = some .http11)
      (hupgrade : seen.isH2cUpgrade = true)
      (hhas : backend.hintList = [] ∨ .h1 ∈ backend.hintList)
      (hlacks : .h2c ∉ backend.hintList) : Misfit seen backend true

/-- The filter for a stream: a terminated session is asked for no upgrade. -/
def filterFor (seen : PeekResult) (terminated : Bool) : Option BackendFilter :=
  peekresultToBackendFilter seen terminated (!terminated && seen.isH2cUpgrade)

theorem filterBackend_http1 {backend : Backend} : filterBackend backend .http1 = true ↔
    backend.hintList = [] ∨ .h1 ∈ backend.hintList := by
  simp only [filterBackend, Bool.or_eq_true, List.isEmpty_iff, List.any_eq_true, beq_iff_eq,
    exists_eq_right]

theorem filterBackend_h2OrH2cpk {backend : Backend} : filterBackend backend .h2OrH2cpk = true ↔
    .h2 ∈ backend.hintList ∨ .h2cpk ∈ backend.hintList := by
  simp only [filterBackend, List.any_eq_true, Bool.or_eq_true, beq_iff_eq]
  constructor
  · rintro ⟨hint, hmem, rfl | rfl⟩
    · exact Or.inl hmem
    · exact Or.inr hmem
  · rintro (hmem | hmem)
    · exact ⟨_, hmem, Or.inl rfl⟩
    · exact ⟨_, hmem, Or.inr rfl⟩

theorem filterBackend_h2cPriorKnowledge {backend : Backend} :
    filterBackend backend .h2cPriorKnowledge = true ↔ .h2cpk ∈ backend.hintList := by
  simp only [filterBackend, List.any_eq_true, beq_iff_eq, exists_eq_right]

theorem filterBackend_h2c {backend : Backend} :
    filterBackend backend .h2c = true ↔ .h2c ∈ backend.hintList := by
  simp only [filterBackend, List.any_eq_true, beq_iff_eq, exists_eq_right]

theorem compatible_iff {seen : PeekResult} {backend : Backend} : Compatible seen backend ↔
    (seen.httpVersion = some .http2 → http2Hint backend ∈ backend.hintList) ∧
      (seen.httpVersion = some .http10 ∨ seen.httpVersion = some .http11 →
        seen.isH2cUpgrade = false → backend.hintList = [] ∨ .h1 ∈ backend.hintList) ∧
      (seen.isH2cUpgrade = true → .h2c ∈ backend.hintList) := by
  constructor
  · rintro ⟨hhttp2, hhttp1, hh2c⟩
    exact ⟨hhttp2, hhttp1, hh2c⟩
  · rintro ⟨hhttp2, hhttp1, hh2c⟩
    exact ⟨hhttp2, hhttp1, hh2c⟩

theorem misfit_passed {seen : PeekResult} {backend : Backend} : Misfit seen backend false ↔
    seen.httpVersion = some .http2 ∧ seen.isH2cUpgrade = false ∧
      .h2cpk ∈ backend.hintList ∧ http2Hint backend ∉ backend.hintList := by
  constructor
  · rintro ⟨hversion, hupgrade, hhttps, hhas, hlacks⟩
    refine ⟨hversion, hupgrade, hhas, ?_⟩
    rw [http2Hint, if_pos hhttps]
    exact hlacks
  · rintro ⟨hversion, hupgrade, hhas, hlacks⟩
    by_cases hhttps : backend.https.getD false = true
    · rw [http2Hint, if_pos hhttps] at hlacks
      exact .priorKnowledge hversion hupgrade hhttps hhas hlacks
    · rw [http2Hint, if_neg hhttps] at hlacks
      exact absurd hhas hlacks

theorem misfit_terminated {seen : PeekResult} {backend : Backend} : Misfit seen backend true ↔
    (seen.httpVersion = some .http2 ∧ (.h2 ∈ backend.hintList ∨ .h2cpk ∈ backend.hintList) ∧
        (http2Hint backend ∉ backend.hintList ∨
          seen.isH2cUpgrade = true ∧ .h2c ∉ backend.hintList)) ∨
      ((seen.httpVersion = some .http10 ∨ seen.httpVersion = some .http11) ∧
        (backend.hintList = [] ∨ .h1 ∈ backend.hintList) ∧
        seen.isH2cUpgrade = true ∧ .h2c ∉ backend.hintList) := by
  constructor
  · intro h
    cases h with
    | otherWay hversion hhas hlacks => exact Or.inl ⟨hversion, hhas, Or.inl hlacks⟩
    | http2Upgrade hversion hupgrade hhas hlacks =>
      exact Or.inl ⟨hversion, hhas, Or.inr ⟨hupgrade, hlacks⟩⟩
    | http1Upgrade hversion hupgrade hhas hlacks =>
      exact Or.inr ⟨hversion, hhas, hupgrade, hlacks⟩
  · rintro (⟨hversion, hhas, hlacks | ⟨hupgrade, hlacks⟩⟩ | ⟨hversion, hhas, hupgrade, hlacks⟩)
    · exact .otherWay hversion hhas hlacks
    · exact .http2Upgrade hversion hupgrade hhas hlacks
    · exact .http1Upgrade hversion hupgrade hhas hlacks

/-- The filters of clear text, by what it is. -/
theorem filterFor_passed {seen : PeekResult} (hclear : seen.typ = .clearText) :
    filterFor seen false =
      match seen.httpVersion, seen.isH2cUpgrade with
      | some .http2, false => some .h2cPriorKnowledge
      | some .http11, true => some .h2c
      | some .http10, false => some .http1
      | some .http11, false => some .http1
      | _, _ => none := by
  obtain ⟨typ, version, _, upgrade, _, _⟩ := seen
  obtain rfl : typ = .clearText := hclear
  rcases version with _ | version
  · cases upgrade <;> rfl
  · cases version <;> cases upgrade <;> rfl

theorem filterFor_terminated {seen : PeekResult} (hclear : seen.typ = .clearText) :
    filterFor seen true =
      match seen.httpVersion with
      | some .http2 => some .h2OrH2cpk
      | some .http10 => some .http1
      | some .http11 => some .http1
      | _ => none := by
  obtain ⟨typ, version, _, upgrade, _, _⟩ := seen
  obtain rfl : typ = .clearText := hclear
  rcases version with _ | version
  · rfl
  · cases version <;> rfl

/-- The misfits are the backends that the filter lets through and that do not understand
the stream. -/
theorem misfit_iff_of_clear {seen : PeekResult} {backend : Backend} {terminated : Bool}
    (hclear : seen.typ = .clearText) :
    Misfit seen backend terminated ↔
      (∃ chosen, filterFor seen terminated = some chosen ∧ filterBackend backend chosen = true) ∧
        ¬Compatible seen backend := by
  rw [compatible_iff]
  cases terminated with
  | false =>
    rw [misfit_passed, filterFor_passed hclear]
    cases hversion : seen.httpVersion with
    | none => simp
    | some version =>
      cases hupgrade : seen.isH2cUpgrade <;> cases version <;>
        simp [filterBackend_http1, filterBackend_h2cPriorKnowledge, filterBackend_h2c] <;> tauto
  | true =>
    rw [misfit_terminated, filterFor_terminated hclear]
    cases hversion : seen.httpVersion with
    | none => simp
    | some version =>
      cases hupgrade : seen.isH2cUpgrade <;> cases version <;>
        simp [filterBackend_http1, filterBackend_h2OrH2cpk] <;> tauto

/-- A stream of which nothing is known fits every backend. -/
theorem Compatible.of_tls {buf : List UInt8} {seen : PeekResult} (h : Seen buf seen)
    (htls : seen.typ = .tls) (backend : Backend) : Compatible seen backend := by
  obtain ⟨hversion, hupgrade⟩ := h.of_tls htls
  refine ⟨?_, ?_, ?_⟩
  · intro h
    rw [hversion] at h
    cases h
  · rintro (h | h)
    · rw [hversion] at h
      cases h
    · rw [hversion] at h
      cases h
  · intro h
    rw [hupgrade] at h
    cases h

theorem Misfit.version {seen : PeekResult} {backend : Backend} {terminated : Bool}
    (h : Misfit seen backend terminated) : seen.httpVersion ≠ none := by
  intro hnone
  cases h with
  | priorKnowledge hversion => simp [hnone] at hversion
  | otherWay hversion => simp [hnone] at hversion
  | http2Upgrade hversion => simp [hnone] at hversion
  | http1Upgrade hversion => simp [hnone] at hversion

theorem misfit_iff_of_seen {buf : List UInt8} {seen : PeekResult} (h : Seen buf seen)
    {backend : Backend} {terminated : Bool} :
    Misfit seen backend terminated ↔
      (∃ chosen, filterFor seen terminated = some chosen ∧ filterBackend backend chosen = true) ∧
        ¬Compatible seen backend := by
  cases htyp : seen.typ with
  | clearText => exact misfit_iff_of_clear htyp
  | tls =>
    refine iff_of_false ?_ ?_
    · intro hmisfit
      exact hmisfit.version (h.of_tls htyp).1
    · rintro ⟨-, hnot⟩
      exact hnot (Compatible.of_tls h htyp backend)

/-! ## Which backends are reached -/

/-- The backends that `next_backend` chooses from. -/
def offered (target : ReverseTcpProxyTarget) (localAddr : String) : List Backend :=
  match target.site with
  | .remoteTarget remote => remote.backends
  | .docker _ remote => remote.backends
  | .hostedProcess process => [process.backend localAddr]
  | .dirServer _ => []

theorem nextBackend_offered {target : ReverseTcpProxyTarget} {localAddr : String}
    {chosen : BackendFilter} {backend : Backend} :
    (∃ counts, nextBackend target localAddr counts chosen = some backend) ↔
      backend ∈ offered target localAddr ∧ filterBackend backend chosen = true := by
  have hselect : ∀ (backends : List Backend) (hostName : String),
      (∃ counts : AccessCounts, selectBackend
        (backends.filter fun backend => filterBackend backend chosen)
        ((counts hostName).getD 0) = some backend) ↔
      backend ∈ backends ∧ filterBackend backend chosen = true := by
    intro backends hostName
    rw [← List.mem_filter (p := fun backend => filterBackend backend chosen)]
    constructor
    · rintro ⟨counts, h⟩
      exact selectBackend_mem h
    · intro h
      obtain ⟨count, hcount⟩ := exists_selectBackend h
      exact ⟨fun _ => some count, hcount⟩
  unfold nextBackend offered
  cases target.site with
  | remoteTarget remote => exact hselect _ _
  | docker hostName remote => exact hselect _ _
  | hostedProcess process => exact hselect _ _
  | dirServer dir => simp

/-- The address under which a backend is connected to. -/
def resolvedAddress (backend : Backend) : String := backend.address ++ ":" ++ portText backend.port

section Tunnel

variable {system : TunnelSystem Tcp Tls hpack} {target : ReverseTcpProxyTarget}
  {localAddr : String} {client : PeekStream Tcp hpack} {result seen : PeekResult} {host : String}
  {rustlsConfig : Bool} {backend : Backend}

/-- The backends to which a stream is tunnelled, for some count of the load balancer. -/
def Tunnelled (system : TunnelSystem Tcp Tls hpack) (target : ReverseTcpProxyTarget)
    (localAddr : String) (client : PeekStream Tcp hpack) (result : PeekResult) (host : String)
    (rustlsConfig : Bool) (backend : Backend) : Prop :=
  ∃ counts stream erect, tunnel system target localAddr counts (.tcp client)
    (result.incoming host) rustlsConfig = .connected stream backend erect

theorem connectBackend_reached {incomingTrafficIsTls clientTlsIsTerminated : Bool}
    {stream : GenericManagedStream Tcp Tls hpack} {chosen : Option BackendFilter} :
    (∃ counts stream' erect, connectBackend system target localAddr counts incomingTrafficIsTls
      clientTlsIsTerminated stream chosen = .connected stream' backend erect) ↔
      (∃ filter, chosen = some filter ∧ filterBackend backend filter = true) ∧
        backend ∈ offered target localAddr ∧ system.connects (resolvedAddress backend) = true := by
  constructor
  · rintro ⟨counts, stream', erect, h⟩
    have hconnects : system.connects (resolvedAddress backend) = true := by
      unfold connectBackend at h
      split at h
      · cases h
      · split at h
        · cases h
        · split at h
          · rename_i hconnects
            cases h
            exact hconnects
          · cases h
    obtain ⟨-, -, filter, rfl, hnext⟩ := connectBackend_connected h
    obtain ⟨hoffered, hfilter⟩ := nextBackend_offered.mp ⟨counts, hnext⟩
    exact ⟨⟨filter, rfl, hfilter⟩, hoffered, hconnects⟩
  · rintro ⟨⟨filter, rfl, hfilter⟩, hoffered, hconnects⟩
    obtain ⟨counts, hnext⟩ := nextBackend_offered.mpr ⟨hoffered, hfilter⟩
    refine ⟨counts, stream, erectTlsTunnelToBackend incomingTrafficIsTls
      (backend.https.getD false) clientTlsIsTerminated, ?_⟩
    unfold connectBackend
    simp only [hnext]
    exact if_pos hconnects

theorem filter_incoming (result : PeekResult) (host : String) :
    peekresultToBackendFilter (result.incoming host).result false
      (result.incoming host).isH2cUpgradeRequest = filterFor result false := by
  obtain ⟨typ, version, targetHost, upgrade, sni, hostHeader⟩ := result
  cases typ <;> rfl

theorem terminateIncoming_tls {incomingTrafficIsTls : Bool}
    (h : terminateIncoming target incomingTrafficIsTls = true) : incomingTrafficIsTls = true := by
  unfold terminateIncoming at h
  split at h
  · exact h
  · split at h
    · assumption
    · cases h

/-- The backends that a peeked stream is tunnelled to: those that the filter for what it is
identified as lets through, and that accept a connection. -/
theorem tunnelled_iff {buf : List UInt8} (hseen : Seen buf result) :
    Tunnelled system target localAddr client result host rustlsConfig backend ↔
      ∃ seen, identified system target client result = some seen ∧
        (terminateIncoming target (decide (result.typ = .tls)) = true → rustlsConfig = true) ∧
        (∃ chosen, filterFor seen (terminateIncoming target (decide (result.typ = .tls))) =
          some chosen ∧ filterBackend backend chosen = true) ∧
        backend ∈ offered target localAddr ∧
        system.connects (resolvedAddress backend) = true := by
  unfold Tunnelled tunnel identified
  simp only [filter_incoming]
  have hincoming : (result.incoming host).isTls = decide (result.typ = .tls) := rfl
  rw [hincoming]
  cases hterminate : terminateIncoming target (decide (result.typ = .tls)) with
  | false =>
    simp only [Bool.false_eq_true, if_false, connectBackend_reached, Option.some.injEq,
      exists_eq_left', false_implies, true_and]
  | true =>
    have hupgrade : (result.incoming host).isH2cUpgradeRequest = false :=
      (hseen.of_tls (of_decide_eq_true (terminateIncoming_tls hterminate))).2
    simp only [if_true, true_implies, terminateAndConnect, hupgrade]
    cases rustlsConfig with
    | false => simp
    | true =>
      cases haccept : system.accept client with
      | none => simp
      | some accepted =>
        obtain ⟨session, serverName⟩ := accepted
        simp only [if_true]
        cases hpeek : (PeekStream.fromTerminatedTlsStream hpack session serverName
            client.tcpConnectionId : PeekStream Tls hpack).peekManagedStream system.fuel with
        | mk outcome inner =>
          cases outcome with
          | ok seen =>
            simp only [connectBackend_reached, Option.some.injEq, exists_eq_left', true_and]
            rfl
          | error e => simp
          | panicked => simp
          | peeking => simp

theorem identified_seen {buf : List UInt8} (hseen : Seen buf result)
    (h : identified system target client result = some seen) : ∃ bytes, Seen bytes seen := by
  unfold identified at h
  split at h
  · split at h
    · cases h
    · rename_i session serverName haccept
      have hsession : (PeekStream.fromTerminatedTlsStream hpack session serverName
          client.tcpConnectionId : PeekStream Tls hpack).Buffered (Tls.taken session) :=
        (List.append_nil _).symm
      split at h
      · rename_i inside hinside
        cases h
        exact ⟨_, (peekManagedStream_seen hsession).2 _ hinside⟩
      · cases h
  · cases h
    exact ⟨buf, hseen⟩

end Tunnel

/-- **Protocol compatibility**: an admitted connection is tunnelled only to backends that
understand what it is identified as, exactly where the target offers no misfit: a backend
with `https` that hints H2CPK but not H2 for HTTP/2 with prior knowledge, and for a
terminated session one that hints the other way of speaking HTTP/2 only, or none of H2C for
a request that asks for the upgrade to it. -/
theorem tunnel_compatible_iff (system : TunnelSystem Tcp Tls hpack)
    (target : ReverseTcpProxyTarget) (localAddr : String) (socket : Tcp.State)
    (tcpConnectionId fuel : Nat) {result : PeekResult} {peeked : PeekStream Tcp hpack}
    (host : String) (rustlsConfig : Bool)
    (hpeek : (PeekStream.fromTcpStream hpack socket tcpConnectionId).peekManagedStream fuel =
      (.ok result, peeked)) :
    (admission target result = none → ∀ backend,
      Tunnelled system target localAddr peeked.seal result host rustlsConfig backend →
        ∃ seen, identified system target peeked.seal result = some seen ∧
          Compatible seen backend) ↔
    (admission target result = none → ∀ seen,
      identified system target peeked.seal result = some seen →
      (terminateIncoming target (decide (result.typ = .tls)) = true → rustlsConfig = true) →
      ∀ backend ∈ offered target localAddr, system.connects (resolvedAddress backend) = true →
        ¬Misfit seen backend (terminateIncoming target (decide (result.typ = .tls)))) := by
  have hclient : (PeekStream.fromTcpStream hpack socket tcpConnectionId :
      PeekStream Tcp hpack).Buffered (Tcp.taken socket) := (List.append_nil _).symm
  have hseen := (@peekManagedStream_seen Tcp hpack _ fuel _ hclient).2 result
  rw [hpeek] at hseen
  apply imp_congr_right
  intro _
  constructor
  · intro h seen hidentified hrustls backend hoffered hconnects hmisfit
    obtain ⟨bytes, hbytes⟩ := identified_seen (hseen rfl) hidentified
    obtain ⟨hfilter, hnot⟩ := (misfit_iff_of_seen hbytes).mp hmisfit
    obtain ⟨seen', hidentified', hcompatible⟩ := h backend
      ((tunnelled_iff (hseen rfl)).mpr ⟨seen, hidentified, hrustls, hfilter, hoffered, hconnects⟩)
    rw [hidentified] at hidentified'
    cases hidentified'
    exact hnot hcompatible
  · intro h backend htunnelled
    obtain ⟨seen, hidentified, hrustls, hfilter, hoffered, hconnects⟩ :=
      (tunnelled_iff (hseen rfl)).mp htunnelled
    obtain ⟨bytes, hbytes⟩ := identified_seen (hseen rfl) hidentified
    refine ⟨seen, hidentified, ?_⟩
    by_contra hnot
    exact h seen hidentified hrustls backend hoffered hconnects
      ((misfit_iff_of_seen hbytes).mpr ⟨hfilter, hnot⟩)

/-- An ordinary request for a target without hints. -/
theorem getRequest_compatible :
    ∃ seen, identified (openSystem fun _ => none) (targetWith [backendOn none none]) getPeek.2.seal
        getResult = some seen ∧ Compatible seen (backendOn none none) := by
  apply (tunnel_compatible_iff (openSystem fun _ => none) (targetWith [backendOn none none])
    "localhost" getSocket 1 1 "a.test" false getPeek_eq).mpr
  · intro _ seen hidentified _ backend _ _ hmisfit
    cases hidentified
    cases hmisfit with
    | priorKnowledge hversion => cases hversion
  · rfl
  · exact ⟨fun _ => none, _, _, rfl⟩

/-! ## HTTP/2 with prior knowledge -/

/-- The HPACK decoder on one block: `:method` by its index and `:authority` as a literal. -/
def authorityHpack : HpackDecoder where
  State := Unit
  new := ()
  decode _ block := ((), match block with
    | 0x82 :: 0x41 :: 6 :: value =>
      some [(ascii ":method", ascii "GET"), (ascii ":authority", value)]
    | _ => none)

/-- The preface, an empty SETTINGS frame, and a request for `a.test` in one HEADERS frame. -/
def priorKnowledgeBytes : List UInt8 :=
  H2.preface ++ [0, 0, 0, 4, 0, 0, 0, 0, 0] ++
    [0, 0, 9, 1, 5, 0, 0, 0, 1, 0x82, 0x41, 6] ++ ascii "a.test"

def priorKnowledgeSocket : scripted.State := ([], [some (80, priorKnowledgeBytes.tail)])

def priorKnowledgePeek : PeekOutcome × PeekStream scripted authorityHpack :=
  (PeekStream.fromTcpStream authorityHpack priorKnowledgeSocket 1).peekManagedStream 1

/-- Over TLS it goes to a backend that speaks HTTP/2 in clear text only. -/
theorem priorKnowledge_wrapped :
    priorKnowledgePeek.1 = .ok (http2Result none (some "a.test")) ∧
      (let target := targetWith [backendOn (some true) (some [.h2cpk])]
      admission target (http2Result none (some "a.test")) = none ∧
        tunnel (openSystem fun _ => none) target "localhost" (fun _ => none)
            (.tcp priorKnowledgePeek.2.seal)
            ((http2Result none (some "a.test")).incoming "a.test") false =
          (.connected (.tcp priorKnowledgePeek.2.seal) (backendOn (some true) (some [.h2cpk]))
            true :
            TunnelOutcome scripted scripted authorityHpack) ∧
        identified (openSystem fun _ => none : TunnelSystem scripted scripted authorityHpack) target
            priorKnowledgePeek.2.seal (http2Result none (some "a.test")) =
          some (http2Result none (some "a.test")) ∧
        ¬Compatible (http2Result none (some "a.test"))
          (backendOn (some true) (some [.h2cpk]))) := by
  refine ⟨by decide +kernel, by decide, by rfl, by rfl, ?_⟩
  intro hcompatible
  have hhint := hcompatible.http2 rfl
  revert hhint
  decide

end OddBox.Proxy

import OddBox.TcpProxy.PeekBounds

/-!
How often the observer of a peeked stream is given the bytes of a client that speaks HTTP/2.
Every round hands it the whole side buffer, once that holds the first line of the preface.
-/

namespace OddBox.TcpProxy

open OddBox.H2 (H2Observer HpackDecoder)

/-! ## The preface -/

section Preface

variable {buf data : List UInt8}

theorem isValidHttp2Request_front (hbuf : buf <+: data) (hpreface : H2.preface <+: data) :
    isValidHttp2Request buf = decide (14 ≤ buf.length) := by
  have hline : ascii "PRI * HTTP/2.0" <+: H2.preface := by decide +kernel
  have hlength : (ascii "PRI * HTTP/2.0").length = 14 := by decide +kernel
  rw [isValidHttp2Request, Bool.eq_iff_iff, List.isPrefixOf_iff_prefix, decide_eq_true_eq,
    ← hlength]
  constructor
  · exact List.IsPrefix.length_le
  · intro hlen
    exact List.prefix_of_prefix_length_le (hline.trans hpreface) hbuf hlen

theorem isValidHttpRequest_prefix (hbuf : buf <+: data) (hpreface : H2.preface <+: data) :
    isValidHttpRequest buf = none := by
  have hmethods : ∀ method ∈ methods,
      method.length ≤ H2.preface.length ∧ method.isPrefixOf H2.preface = false := by
    decide +kernel
  have hnone : (methods.any fun method => method.isPrefixOf buf) = false := by
    rw [List.any_eq_false]
    intro method hmethod hstarts
    obtain ⟨hlen, hother⟩ := hmethods method hmethod
    rw [List.isPrefixOf_iff_prefix] at hstarts
    have hsame := List.prefix_of_prefix_length_le (hstarts.trans hbuf) hpreface hlen
    rw [← List.isPrefixOf_iff_prefix, hother] at hsame
    cases hsame
  rw [isValidHttpRequest, hnone, if_neg Bool.false_ne_true]

theorem head_of_preface {first : UInt8} {bytes : List UInt8} (hbuf : first :: bytes <+: data)
    (hpreface : H2.preface <+: data) : first = 80 := by
  obtain ⟨later, rfl⟩ := hpreface
  exact (List.cons_prefix_cons.mp hbuf).1

end Preface

/-! ## What a round feeds to the observer -/

section Rounds

variable {T : InnerStream} {hpack : HpackDecoder}

/-- What a look at clear bytes writes to the observer. -/
def clearWrites (buf : List UInt8) : List (List UInt8) :=
  match isValidHttpRequest buf with
  | some _ => []
  | none => if isValidHttp2Request buf then [buf] else []

/-- What a round writes to the observer. -/
def PeekStream.roundWrites (self : PeekStream T hpack) : List (List UInt8) :=
  match self.toManagedStream.peekAsync.1 with
  | .ok (false, first :: bytes) => if first = 0x16 then [] else clearWrites (first :: bytes)
  | _ => []

/-- The observer after it was written to and drained, once for each buffer. -/
def feedObserver (observer : H2Observer hpack) (writes : List (List UInt8)) : H2Observer hpack :=
  writes.foldl (fun observer buf => (observer.write .incoming buf).getAllEvents.2) observer

theorem peekTls_observer (self : PeekStream T hpack) (buf : List UInt8) :
    (self.peekTls buf).2.h2Observer = self.h2Observer := by
  unfold PeekStream.peekTls
  split
  · split <;> rfl
  · rfl
  · rfl
  · rfl

theorem enableObserve_observer (self : PeekStream T hpack) :
    self.enableObserve.h2Observer = self.h2Observer := by
  unfold PeekStream.enableObserve
  split <;> split <;> rfl

theorem peekHttp1_observer (self : PeekStream T hpack) (buf : List UInt8) (version : Version) :
    (self.peekHttp1 buf version).2.h2Observer = self.h2Observer := by
  unfold PeekStream.peekHttp1
  split <;> rfl

theorem peekHttp2_observer (self : PeekStream T hpack) (buf : List UInt8) :
    (self.peekHttp2 buf).2.h2Observer = feedObserver self.h2Observer [buf] := by
  simp only [PeekStream.peekHttp2]
  split
  · rfl
  · split
    · rfl
    · split <;> rfl

theorem peekClear_observer (self : PeekStream T hpack) (buf : List UInt8) :
    (self.peekClear buf).2.h2Observer = feedObserver self.h2Observer (clearWrites buf) := by
  unfold PeekStream.peekClear clearWrites
  cases isValidHttpRequest buf with
  | some version => exact (peekHttp1_observer _ _ _).trans (enableObserve_observer self)
  | none =>
    cases isValidHttp2Request buf with
    | true =>
      simp only [if_true, peekHttp2_observer, enableObserve_observer]
    | false => exact enableObserve_observer self

/-- What a round writes is all that the observer gets. -/
theorem peekRound_observer (self : PeekStream T hpack) :
    self.peekRound.2.h2Observer = feedObserver self.h2Observer self.roundWrites := by
  unfold PeekStream.roundWrites PeekStream.peekRound
  cases self.toManagedStream.peekAsync with
  | mk outcome stream =>
    cases outcome with
    | error e => rfl
    | ok read =>
      obtain ⟨closed, buf⟩ := read
      cases closed with
      | true => rfl
      | false =>
        cases buf with
        | nil => rfl
        | cons first bytes =>
          simp only [Bool.false_eq_true, if_false]
          split
          · exact peekTls_observer _ _
          · exact peekClear_observer _ _

/-- What the rounds of the loop write. -/
def PeekStream.loopWrites : Nat → Nat → PeekStream T hpack → List (List UInt8)
  | 0, _, _ => []
  | fuel + 1, attempts, self =>
    if 4 < attempts then []
    else
      self.roundWrites ++
        match self.peekRound with
        | (.done _, _) => []
        | (.again counted, next) =>
          PeekStream.loopWrites fuel (if counted then attempts + 1 else attempts) next

theorem peekLoop_observer (fuel attempts : Nat) (self : PeekStream T hpack) :
    (PeekStream.peekLoop fuel attempts self).2.h2Observer =
      feedObserver self.h2Observer (PeekStream.loopWrites fuel attempts self) := by
  induction fuel generalizing attempts self with
  | zero => rfl
  | succ fuel ih =>
    have hround := peekRound_observer self
    rw [PeekStream.peekLoop, PeekStream.loopWrites]
    split
    · rfl
    · cases hresult : self.peekRound with
      | mk round next =>
        rw [hresult] at hround
        cases round with
        | done outcome =>
          rw [List.append_nil]
          exact hround
        | again counted =>
          simp only
          rw [ih, hround, feedObserver, feedObserver, feedObserver, List.foldl_append]

/-- A decision on the bytes: a result, or that the connection must be terminated. -/
inductive PeekOutcome.IsDecision : PeekOutcome → Prop where
  | result (result : PeekResult) : IsDecision (.ok result)
  | terminate : IsDecision (.error .h2PriorKnowledgeNeedsToBeTerminated)

/-- A round that goes on or decides has seen an open stream. -/
theorem peekRound_open {self : PeekStream T hpack}
    (h : (∃ counted, self.peekRound.1 = .again counted) ∨
      ∃ outcome, outcome.IsDecision ∧ self.peekRound.1 = .done outcome) :
    ∃ buf, self.toManagedStream.peekAsync.1 = .ok (false, buf) := by
  unfold PeekStream.peekRound at h
  cases hpeek : self.toManagedStream.peekAsync with
  | mk outcome stream =>
    rw [hpeek] at h
    cases outcome with
    | error e =>
      obtain ⟨counted, h⟩ | ⟨outcome, hdecision, h⟩ := h
      · cases h
      · cases h
        cases hdecision
    | ok read =>
      obtain ⟨closed, buf⟩ := read
      cases closed with
      | false => exact ⟨buf, rfl⟩
      | true =>
        obtain ⟨counted, h⟩ | ⟨outcome, hdecision, h⟩ := h
        · cases h
        · cases h
          cases hdecision

/-- What the decision on clear bytes depends on, but for the bytes. -/
structure SameDecider (a b : PeekStream T hpack) : Prop where
  h2Observer : a.h2Observer = b.h2Observer
  kind : a.kind = b.kind
  serverName : a.serverName = b.serverName

theorem SameDecider.trans {a b c : PeekStream T hpack} (h : SameDecider a b)
    (h' : SameDecider b c) : SameDecider a c :=
  ⟨h.h2Observer.trans h'.h2Observer, h.kind.trans h'.kind, h.serverName.trans h'.serverName⟩

theorem enableObserve_decider (self : PeekStream T hpack) :
    SameDecider self.enableObserve self := by
  unfold PeekStream.enableObserve
  split <;> split <;> exact ⟨rfl, rfl, rfl⟩

theorem SameDecider.peekClear {a b : PeekStream T hpack} (h : SameDecider a b)
    (buf : List UInt8) : (a.peekClear buf).1 = (b.peekClear buf).1 := by
  obtain ⟨ha, hkindA, hnameA⟩ := enableObserve_decider a
  obtain ⟨hb, hkindB, hnameB⟩ := enableObserve_decider b
  have hobserver := (ha.trans h.h2Observer).trans hb.symm
  have hkind := (hkindA.trans h.kind).trans hkindB.symm
  have hname := (hnameA.trans h.serverName).trans hnameB.symm
  unfold PeekStream.peekClear
  cases isValidHttpRequest buf with
  | some version =>
    simp only [PeekStream.peekHttp1]
    split <;> rfl
  | none =>
    cases isValidHttp2Request buf with
    | true =>
      simp only [PeekStream.peekHttp2, hobserver, hkind, hname, if_true]
      split
      · rfl
      · split
        · rfl
        · split <;> rfl
    | false => rfl

theorem peekAsync_kind {T : InnerStream} (self : ManagedStream T) :
    self.peekAsync.2.kind = self.kind := by
  unfold ManagedStream.peekAsync
  repeat' split
  all_goals rfl

/-- The buffers with at least the first line of the preface. -/
def writesOf (buf : List UInt8) : List (List UInt8) :=
  if 14 ≤ buf.length then [buf] else []

/-- What a round does with the first bytes of a client that speaks HTTP/2. -/
structure Http2Round (stream : PeekStream T hpack) (buf : List UInt8) : Prop where
  writes : stream.roundWrites = writesOf buf
  short : buf.length < 14 →
    stream.peekRound.1 = .again true ∧ SameDecider stream.peekRound.2 stream
  decides : 14 ≤ buf.length → stream.peekRound.1 = (stream.peekClear buf).1

theorem http2Round {self : PeekStream T hpack} {buf data : List UInt8}
    (hpeek : self.toManagedStream.peekAsync.1 = .ok (false, buf)) (hbuf : buf <+: data)
    (hpreface : H2.preface <+: data) : Http2Round self buf := by
  have hkind := peekAsync_kind self.toManagedStream
  cases hpolled : self.toManagedStream.peekAsync with
  | mk outcome stream =>
    have houtcome := hpeek
    rw [hpolled] at houtcome hkind
    simp only at houtcome hkind
    subst houtcome
    have hstays : SameDecider { self with toManagedStream := stream } self := ⟨rfl, hkind, rfl⟩
    cases buf with
    | nil =>
      have hround := peekRound_nil hpolled
      refine ⟨?_, ?_, fun h => absurd h (by decide)⟩
      · rw [PeekStream.roundWrites, hpeek]
        rfl
      · intro _
        rw [hround]
        exact ⟨rfl, hstays⟩
    | cons first bytes =>
      obtain rfl := head_of_preface hbuf hpreface
      have hround : self.peekRound =
          PeekStream.peekClear { self with toManagedStream := stream } (80 :: bytes) := by
        rw [peekRound_cons hpolled, if_neg (by decide)]
      refine ⟨?_, ?_, ?_⟩
      · rw [PeekStream.roundWrites, hpeek]
        simp only [clearWrites, isValidHttpRequest_prefix hbuf hpreface,
          isValidHttp2Request_front hbuf hpreface, decide_eq_true_eq]
        rw [if_neg (by decide), writesOf]
      · intro hshort
        have hnone : isValidHttp2Request (80 :: bytes) = false := by
          rw [isValidHttp2Request_front hbuf hpreface]
          exact decide_eq_false (by omega)
        rw [hround, PeekStream.peekClear, isValidHttpRequest_prefix hbuf hpreface, hnone]
        exact ⟨rfl, (enableObserve_decider _).trans hstays⟩
      · intro _
        rw [hround]
        exact hstays.peekClear (80 :: bytes)

/-! ## The rounds up to a decision -/

variable {client : ManagedStream T} {data : List UInt8}

/-- The loop takes so many more rounds, the last of which decides. -/
structure DecidesIn (stream : PeekStream T hpack) (attempts rounds : Nat) (outcome : PeekOutcome) :
    Prop where
  running : (PeekStream.peekLoop rounds attempts stream).1 = .peeking
  decided : (PeekStream.peekLoop (rounds + 1) attempts stream).1 = outcome
  decision : outcome.IsDecision

theorem DecidesIn.attempts_le {self : PeekStream T hpack} {attempts rounds : Nat}
    {outcome : PeekOutcome} (h : DecidesIn self attempts rounds outcome) : attempts ≤ 4 := by
  by_contra hexhausted
  have hdecided := h.decided
  rw [PeekStream.peekLoop, if_pos (by omega)] at hdecided
  have hdecision := h.decision
  rw [← hdecided] at hdecision
  cases hdecision

theorem DecidesIn.last {self : PeekStream T hpack} {attempts : Nat} {outcome : PeekOutcome}
    (h : DecidesIn self attempts 0 outcome) : self.peekRound.1 = .done outcome := by
  have hdecided := h.decided
  cases hround : self.peekRound.1 with
  | done found =>
    rw [peekLoop_done h.attempts_le hround] at hdecided
    rw [hdecided]
  | again counted =>
    rw [peekLoop_again h.attempts_le hround] at hdecided
    have hdecision := h.decision
    rw [← hdecided] at hdecision
    cases hdecision

theorem DecidesIn.next {self : PeekStream T hpack} {attempts rounds : Nat}
    {outcome : PeekOutcome} (h : DecidesIn self attempts (rounds + 1) outcome) :
    ∃ counted, self.peekRound.1 = .again counted ∧
      DecidesIn self.peekRound.2 (if counted then attempts + 1 else attempts) rounds outcome := by
  have hrunning := h.running
  have hdecided := h.decided
  cases hround : self.peekRound.1 with
  | done found =>
    rw [peekLoop_done h.attempts_le hround] at hrunning hdecided
    have hdecision := h.decision
    rw [← hdecided, hrunning] at hdecision
    cases hdecision
  | again counted =>
    rw [peekLoop_again h.attempts_le hround] at hrunning hdecided
    exact ⟨counted, rfl, hrunning, hdecided, h.decision⟩

/-- A round on the way to the decision, or the one that decides. -/
theorem DecidesIn.round {self : PeekStream T hpack} {attempts rounds m : Nat}
    {outcome : PeekOutcome} (h : DecidesIn self attempts rounds outcome)
    (hsource : SameSource self.toManagedStream (client.afterPeeks m))
    (hpreface : H2.preface <+: client.peeked (m + rounds)) :
    Http2Round self (client.peeked m) ∧
      SameSource self.peekRound.2.toManagedStream (client.afterPeeks (m + 1)) := by
  have hround : (∃ counted, self.peekRound.1 = .again counted) ∨
      ∃ outcome, outcome.IsDecision ∧ self.peekRound.1 = .done outcome := by
    cases rounds with
    | zero => exact Or.inr ⟨outcome, h.decision, h.last⟩
    | succ rounds =>
      obtain ⟨counted, hround, -⟩ := h.next
      exact Or.inl ⟨counted, hround⟩
  obtain ⟨buf, hpeek⟩ := peekRound_open hround
  have hclient := hpeek
  rw [hsource.peekAsync.1] at hclient
  obtain rfl := peeked_eq hclient
  exact ⟨http2Round hpeek (peeked_front client (Nat.le_add_right m rounds)) hpreface,
    (peekRound_on hsource hclient).source⟩

/-- Every round whose bytes hold the first line of the preface writes them all. -/
theorem loopWrites_eq {rounds m attempts : Nat} {self : PeekStream T hpack}
    {outcome : PeekOutcome} (h : DecidesIn self attempts rounds outcome)
    (hsource : SameSource self.toManagedStream (client.afterPeeks m))
    (hpreface : H2.preface <+: client.peeked (m + rounds)) :
    PeekStream.loopWrites (rounds + 1) attempts self =
      (List.range' m (rounds + 1)).flatMap fun k => writesOf (client.peeked k) := by
  induction rounds generalizing m attempts self with
  | zero =>
    obtain ⟨hround, -⟩ := h.round hsource hpreface
    rw [PeekStream.loopWrites, if_neg (by have := h.attempts_le; omega), hround.writes]
    have hlast := h.last
    cases hresult : self.peekRound with
    | mk round next =>
      rw [hresult] at hlast
      simp only at hlast
      subst hlast
      simp [List.range'_succ]
  | succ rounds ih =>
    obtain ⟨hround, hnext⟩ := h.round hsource hpreface
    obtain ⟨counted, hagain, hlater⟩ := h.next
    rw [PeekStream.loopWrites, if_neg (by have := h.attempts_le; omega), hround.writes,
      List.range'_succ, List.flatMap_cons]
    have hrest := ih hlater hnext (by rwa [show m + 1 + rounds = m + (rounds + 1) by omega])
    cases hresult : self.peekRound with
    | mk round next =>
      rw [hresult] at hagain hrest
      simp only at hagain hrest
      subst hagain
      simp only
      rw [hrest]

/-- As long as the bytes do not hold the first line of the preface, the decision waits. -/
theorem decision_eq {rounds m attempts : Nat} {self start : PeekStream T hpack}
    {outcome : PeekOutcome} (h : DecidesIn self attempts rounds outcome)
    (hsource : SameSource self.toManagedStream (client.afterPeeks m))
    (hpreface : H2.preface <+: client.peeked (m + rounds)) (hdecider : SameDecider self start)
    (hshort : ∀ k, m ≤ k → k < m + rounds → (client.peeked k).length < 14) :
    (start.peekClear (client.peeked (m + rounds))).1 = .done outcome := by
  induction rounds generalizing m attempts self with
  | zero =>
    obtain ⟨hround, -⟩ := h.round hsource hpreface
    have hlen := hpreface.length_le
    rw [Nat.add_zero] at hlen ⊢
    rw [← hdecider.peekClear, ← hround.decides (le_trans (by decide) hlen), h.last]
  | succ rounds ih =>
    obtain ⟨hround, hnext⟩ := h.round hsource hpreface
    obtain ⟨counted, hagain, hlater⟩ := h.next
    have hsame := (hround.short (hshort m (le_refl m) (by omega))).2
    rw [show m + (rounds + 1) = m + 1 + rounds by omega] at hpreface hshort ⊢
    exact ih hlater hnext hpreface (hsame.trans hdecider) (fun k hle hlt => hshort k (by omega) hlt)

/-- **HTTP/2 peeking is independent of the arrival** of the bytes, and each byte is fed to the
observer once, exactly if no peek before the one that decides had as much as the first line
of the preface. -/
theorem http2_fed_once_iff (self : PeekStream T hpack) (n : Nat) (outcome : PeekOutcome)
    (hpreface : H2.preface <+: self.toManagedStream.peeked n)
    (hdecides : DecidesIn self 0 n outcome) :
    ((PeekStream.loopWrites (n + 1) 0 self).flatten = self.toManagedStream.peeked n ∧
        (self.peekClear (self.toManagedStream.peeked n)).1 = .done outcome) ↔
      ∀ m, m < n → (self.toManagedStream.peeked m).length < 14 := by
  have hsource : SameSource self.toManagedStream (self.toManagedStream.afterPeeks 0) :=
    ⟨rfl, rfl, rfl, rfl⟩
  have hpreface' : H2.preface <+: self.toManagedStream.peeked (0 + n) := by rwa [Nat.zero_add]
  have hwrites := loopWrites_eq hdecides hsource hpreface'
  have hlong : 14 ≤ (self.toManagedStream.peeked n).length :=
    le_trans (by decide) hpreface.length_le
  have hlast : writesOf (self.toManagedStream.peeked n) = [self.toManagedStream.peeked n] :=
    if_pos hlong
  rw [List.range'_1_concat, Nat.zero_add, List.flatMap_append, List.flatMap_singleton,
    hlast] at hwrites
  rw [hwrites, List.flatten_append, List.flatten_singleton, List.append_left_eq_self]
  constructor
  · rintro ⟨hnothing, -⟩ m hm
    by_contra hlen
    have hwritten : self.toManagedStream.peeked m ∈
        (List.range' 0 n).flatMap fun k => writesOf (self.toManagedStream.peeked k) := by
      refine List.mem_flatMap.mpr ⟨m, List.mem_range'_1.mpr (by omega), ?_⟩
      rw [writesOf, if_pos (by omega)]
      exact List.mem_singleton_self _
    have hempty := List.flatten_eq_nil_iff.mp hnothing _ hwritten
    rw [hempty] at hlen
    exact hlen (by decide)
  · intro hshort
    constructor
    · rw [List.flatten_eq_nil_iff]
      intro buf hbuf
      obtain ⟨m, hm, hwritten⟩ := List.mem_flatMap.mp hbuf
      have hlen := hshort m (by have := List.mem_range'_1.mp hm; omega)
      rw [writesOf, if_neg (by omega)] at hwritten
      cases hwritten
    · have hdecision := decision_eq hdecides hsource hpreface' ⟨rfl, rfl, rfl⟩
        (fun k _ hlt => hshort k (by omega))
      rwa [Nat.zero_add] at hdecision

end Rounds

/-! ## Two arrivals -/

/-- The HPACK decoder on one block: `:method` by its index and `:authority` as a literal. -/
def requestHpack : HpackDecoder where
  State := Unit
  new := ()
  decode _ block := ((), match block with
    | [0x82, 0x01, 0x01, 97] =>
      some [(ascii ":method", ascii "GET"), (ascii ":authority", ascii "a")]
    | _ => none)

/-- A request for `a` in one HEADERS frame, and a frame of an extension with 37 zeros. -/
def requestBytes : List UInt8 :=
  H2.preface ++ [0, 0, 4, 1, 5, 0, 0, 0, 1, 0x82, 0x01, 0x01, 97] ++
    [0, 0, 37, 10, 0, 0, 0, 0, 0] ++ List.replicate 37 0

/-- A client whose bytes come in two pieces. -/
def arrivingIn (first : Nat) : PeekStream scripted requestHpack :=
  PeekStream.fromTcpStream requestHpack
    ([], [some (80, (requestBytes.take first).tail),
      some ((requestBytes.drop first).headD 0, (requestBytes.drop first).tail)]) 1

/-- Ten bytes of the preface come first. -/
theorem lateArrival_once :
    let bytes := (arrivingIn 10).toManagedStream.peeked 1
    (PeekStream.loopWrites 2 0 (arrivingIn 10)).flatten = bytes ∧
      ((arrivingIn 10).peekClear bytes).1 = .done (.ok (http2Result none (some "a"))) :=
  (http2_fed_once_iff (arrivingIn 10) 1 (.ok (http2Result none (some "a"))) (by decide +kernel)
    ⟨by decide +kernel, by decide +kernel, .result _⟩).mpr (by
      intro m hm
      obtain rfl : m = 0 := by omega
      decide +kernel)

/-- The request and the head of the frame behind it come first. One peek of all the bytes
finds the host; two peeks see the preface as the payload of that frame, and the request
in it. -/
theorem splitArrival_differs :
    (arrivingIn 46).toManagedStream.peeked 1 = requestBytes ∧
      ((arrivingIn 46).peekClear requestBytes).1 = .done (.ok (http2Result none (some "a"))) ∧
      ((arrivingIn 46).peekManagedStream 1).1 = .peeking ∧
      ((arrivingIn 46).peekManagedStream 2).1 =
        .error .h2PriorKnowledgeNeedsToBeTerminated := by
  refine ⟨by decide +kernel, by decide +kernel, by decide +kernel, by decide +kernel⟩

end OddBox.TcpProxy

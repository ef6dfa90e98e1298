import OddBox.TcpProxy.Http2Peek
import OddBox.TcpProxy.PeekBounds

/-!
What a peek marks a stream with: a stream that is found to be of TLS is marked so, and no peek
takes a mark away.
-/

namespace OddBox.TcpProxy

open OddBox.H2 (HpackDecoder)

variable {T : InnerStream} {hpack : HpackDecoder}

/-- Whether the data is found to be TLS. -/
def PeekOutcome.saysTls : PeekOutcome → Bool
  | .ok result => decide (result.typ = .tls)
  | _ => false

/-- The marks after a peek, from those before it. A mark of TLS is one for a handshake. -/
structure Remembers (before after : PeekStream T hpack) : Prop where
  terminated : after.isTlsTerminated = before.isTlsTerminated
  kept : before.isTls = true → after.isTls = true
  handshake : (before.isTls = true → before.buffer.head? = some 0x16) →
    after.isTls = true → after.buffer.head? = some 0x16

theorem Remembers.refl (self : PeekStream T hpack) : Remembers self self :=
  ⟨rfl, id, id⟩

theorem Remembers.trans {first second third : PeekStream T hpack}
    (h : Remembers first second) (next : Remembers second third) : Remembers first third where
  terminated := next.terminated.trans h.terminated
  kept := next.kept ∘ h.kept
  handshake := next.handshake ∘ h.handshake

/-- A stream with the same marks, to which bytes may have been added. -/
theorem Remembers.of_same {before after : PeekStream T hpack} {fetched : List UInt8}
    (hterminated : after.isTlsTerminated = before.isTlsTerminated)
    (htls : after.isTls = before.isTls) (hbuffer : after.buffer = before.buffer ++ fetched) :
    Remembers before after where
  terminated := hterminated
  kept := htls.trans
  handshake := by
    intro hbefore hafter
    rw [hbuffer, List.head?_append, hbefore (htls.symm.trans hafter), Option.some_or]

/-! ## A round -/

theorem peekTls_marks (self : PeekStream T hpack) (buf : List UInt8) :
    (self.peekTls buf).2.isTls = true ∧
      (self.peekTls buf).2.isTlsTerminated = self.isTlsTerminated := by
  unfold PeekStream.peekTls
  split
  · split <;> exact ⟨rfl, rfl⟩
  · exact ⟨rfl, rfl⟩
  · exact ⟨rfl, rfl⟩
  · exact ⟨rfl, rfl⟩

theorem enableObserve_marks (self : PeekStream T hpack) :
    self.enableObserve.isTls = self.isTls ∧
      self.enableObserve.isTlsTerminated = self.isTlsTerminated := by
  unfold PeekStream.enableObserve
  split <;> split <;> exact ⟨rfl, rfl⟩

theorem peekHttp1_marks (self : PeekStream T hpack) (buf : List UInt8) (version : Version) :
    (self.peekHttp1 buf version).2.isTls = self.isTls ∧
      (self.peekHttp1 buf version).2.isTlsTerminated = self.isTlsTerminated := by
  unfold PeekStream.peekHttp1
  split <;> exact ⟨rfl, rfl⟩

theorem peekHttp2_marks (self : PeekStream T hpack) (buf : List UInt8) :
    (self.peekHttp2 buf).2.isTls = self.isTls ∧
      (self.peekHttp2 buf).2.isTlsTerminated = self.isTlsTerminated := by
  simp only [PeekStream.peekHttp2]
  split
  · exact ⟨rfl, rfl⟩
  · split
    · exact ⟨rfl, rfl⟩
    · split <;> exact ⟨rfl, rfl⟩

theorem peekClear_marks (self : PeekStream T hpack) (buf : List UInt8) :
    (self.peekClear buf).2.isTls = self.isTls ∧
      (self.peekClear buf).2.isTlsTerminated = self.isTlsTerminated := by
  obtain ⟨htls, hterminated⟩ := enableObserve_marks self
  have hvia : ∀ after : PeekStream T hpack, after.isTls = self.enableObserve.isTls ∧
      after.isTlsTerminated = self.enableObserve.isTlsTerminated →
        after.isTls = self.isTls ∧ after.isTlsTerminated = self.isTlsTerminated := by
    intro after hafter
    exact ⟨hafter.1.trans htls, hafter.2.trans hterminated⟩
  unfold PeekStream.peekClear
  split
  · exact hvia _ (peekHttp1_marks _ _ _)
  · split
    · exact hvia _ (peekHttp2_marks _ _)
    · exact ⟨htls, hterminated⟩

theorem peekRound_remembers (self : PeekStream T hpack) :
    Remembers self self.peekRound.2 := by
  obtain ⟨fetched, -, hbuffer, hdata⟩ := peekAsync_moves self.toManagedStream
  cases hpeek : self.toManagedStream.peekAsync with
  | mk outcome stream =>
    rw [hpeek] at hbuffer hdata
    simp only [PeekStream.peekRound, hpeek]
    cases outcome with
    | error e => exact .of_same rfl rfl hbuffer
    | ok read =>
      obtain ⟨closed, buf⟩ := read
      obtain rfl : buf = stream.buffer := hdata closed buf rfl
      cases closed with
      | true => exact .of_same rfl rfl hbuffer
      | false =>
        cases hbuf : stream.buffer with
        | nil => exact .of_same rfl rfl hbuffer
        | cons first bytes =>
          simp only [Bool.false_eq_true, if_false]
          split_ifs with hfirst
          · obtain ⟨htls, hterminated⟩ :=
              peekTls_marks { self with toManagedStream := stream } (first :: bytes)
            obtain ⟨-, hsame⟩ :=
              peekTls_same { self with toManagedStream := stream } (first :: bytes)
            refine ⟨hterminated, fun _ => htls, ?_⟩
            intro _ _
            rw [hsame, hbuf, hfirst]
            rfl
          · obtain ⟨htls, hterminated⟩ :=
              peekClear_marks { self with toManagedStream := stream } (first :: bytes)
            obtain ⟨-, hsame⟩ :=
              peekClear_same { self with toManagedStream := stream } (first :: bytes)
            exact .of_same hterminated htls (hsame.trans hbuffer)

/-- A decision on data that starts with no handshake is not one on TLS. -/
theorem peekClear_decides {self : PeekStream T hpack} {buf : List UInt8} {outcome : PeekOutcome}
    (hclear : buf.head? ≠ some 0x16) (hdecision : outcome.IsDecision)
    (h : (self.peekClear buf).1 = .done outcome) : outcome.saysTls = false := by
  cases hdecision with
  | result result =>
    apply decide_eq_false
    intro htls
    exact hclear ((peekClear_seen hclear h).typ_iff.mp htls)
  | terminate => rfl

theorem peekTls_decides {self : PeekStream T hpack} {bytes : List UInt8} {outcome : PeekOutcome}
    (hdecision : outcome.IsDecision) (h : (self.peekTls (0x16 :: bytes)).1 = .done outcome) :
    outcome.saysTls = true := by
  cases hdecision with
  | result result => exact decide_eq_true ((peekTls_seen h).typ_iff.mpr rfl)
  | terminate =>
    unfold PeekStream.peekTls at h
    split at h
    · split at h <;> cases h
    · cases h
    · cases h
    · cases h

/-- The mark after a decision is what it says. -/
theorem peekRound_marked {self : PeekStream T hpack} {outcome : PeekOutcome}
    (hmark : self.isTls = true → self.buffer.head? = some 0x16)
    (hdecision : outcome.IsDecision) (h : self.peekRound.1 = .done outcome) :
    self.peekRound.2.isTls = outcome.saysTls := by
  obtain ⟨buf, hopen⟩ := peekRound_open (.inr ⟨outcome, hdecision, h⟩)
  obtain ⟨fetched, -, hbuffer, hdata⟩ := peekAsync_moves self.toManagedStream
  have hbuf := hdata _ _ hopen
  have hpeek : self.toManagedStream.peekAsync =
      (.ok (false, buf), self.toManagedStream.peekAsync.2) := Prod.ext hopen rfl
  cases buf with
  | nil =>
    rw [peekRound_nil hpeek] at h
    contradiction
  | cons first bytes =>
    rw [peekRound_cons hpeek] at h ⊢
    split_ifs at h ⊢ with hfirst
    · rw [hfirst] at h ⊢
      rw [(peekTls_marks _ _).1, peekTls_decides hdecision h]
    · have hclear : (first :: bytes).head? ≠ some 0x16 := by
        rw [List.head?_cons, ne_eq, Option.some.injEq]
        exact hfirst
      rw [(peekClear_marks _ _).1, peekClear_decides hclear hdecision h, Bool.eq_false_iff]
      intro hmarked
      rw [hbuf, hbuffer, List.head?_append, hmark hmarked] at hclear
      contradiction

/-! ## The loop -/

theorem peekLoop_remembers (fuel attempts : Nat) (self : PeekStream T hpack) :
    Remembers self (PeekStream.peekLoop fuel attempts self).2 := by
  induction fuel generalizing attempts self with
  | zero => exact .refl self
  | succ fuel ih =>
    have hround := peekRound_remembers self
    unfold PeekStream.peekLoop
    split
    · exact .refl self
    · cases hpeek : self.peekRound with
      | mk round next =>
        rw [hpeek] at hround
        cases round with
        | done outcome => exact hround
        | again counted => exact hround.trans (ih _ next)

theorem peekLoop_marked {fuel attempts : Nat} {self : PeekStream T hpack}
    {outcome : PeekOutcome} (hmark : self.isTls = true → self.buffer.head? = some 0x16)
    (hdecision : outcome.IsDecision)
    (h : (PeekStream.peekLoop fuel attempts self).1 = outcome) :
    (PeekStream.peekLoop fuel attempts self).2.isTls = outcome.saysTls := by
  induction fuel generalizing attempts self with
  | zero =>
    obtain rfl : PeekOutcome.peeking = outcome := h
    cases hdecision
  | succ fuel ih =>
    have hround := peekRound_marked hmark hdecision
    have hremembers := peekRound_remembers self
    unfold PeekStream.peekLoop at h ⊢
    split at h
    · rw [← h] at hdecision
      cases hdecision
    · rename_i hattempts
      rw [if_neg hattempts]
      cases hpeek : self.peekRound with
      | mk round next =>
        rw [hpeek] at h hround hremembers
        cases round with
        | done decided => exact hround (congrArg Round.done h)
        | again counted => exact ih (hremembers.handshake hmark) h

/-- **The mark of TLS** on a fresh stream is what the peek decides, and the session of the stream
is not terminated. -/
theorem peek_fromTcpStream_marks (socket : T.State) (tcpConnectionId fuel : Nat) :
    let peeked := (PeekStream.fromTcpStream hpack socket tcpConnectionId).peekManagedStream fuel
    peeked.2.isTlsTerminated = false ∧
      (peeked.1.IsDecision → peeked.2.isTls = peeked.1.saysTls) := by
  intro peeked
  have hremembers : Remembers (PeekStream.fromTcpStream hpack socket tcpConnectionId) peeked.2 :=
    peekLoop_remembers fuel 0 _
  refine ⟨hremembers.terminated, ?_⟩
  intro hdecision
  apply peekLoop_marked _ hdecision rfl
  intro hfresh
  contradiction

theorem peek_fromTerminatedTlsStream_marks (session : T.State) (serverName : Option String)
    (tcpConnectionId fuel : Nat) :
    let peeked := (PeekStream.fromTerminatedTlsStream hpack session serverName
      tcpConnectionId).peekManagedStream fuel
    peeked.2.isTls = true ∧ peeked.2.isTlsTerminated = true := by
  intro peeked
  have hremembers : Remembers (PeekStream.fromTerminatedTlsStream hpack session serverName
      tcpConnectionId) peeked.2 := peekLoop_remembers fuel 0 _
  exact ⟨hremembers.kept rfl, hremembers.terminated⟩

end OddBox.TcpProxy

import OddBox.TcpProxy.HelloVerdicts

/-!
How many rounds `peek_managed_stream` takes on a stream that stays open. A round that counts
uses up one of five attempts; the only round that does not is one that sees a client hello
of which the parser wants more.
-/

namespace OddBox.TcpProxy

open OddBox.H2 (HpackDecoder)

/-! ## Peeks of an open stream -/

section Peeks

variable {T : InnerStream}

/-- The stream after a number of peeks and nothing else. -/
def ManagedStream.afterPeeks (self : ManagedStream T) : Nat → ManagedStream T
  | 0 => self
  | n + 1 => (self.afterPeeks n).peekAsync.2

/-- The bytes that a peek returns, counted from zero. -/
def ManagedStream.peeked (self : ManagedStream T) (n : Nat) : List UInt8 :=
  (self.afterPeeks (n + 1)).buffer

/-- No peek fails or finds the end of the stream. -/
def ManagedStream.StaysOpen (self : ManagedStream T) : Prop :=
  ∀ n, ∃ buf, (self.afterPeeks n).peekAsync.1 = .ok (false, buf)

theorem peeked_eq {self : ManagedStream T} {n : Nat} {closed : Bool} {buf : List UInt8}
    (h : (self.afterPeeks n).peekAsync.1 = .ok (closed, buf)) : self.peeked n = buf := by
  obtain ⟨fetched, -, -, hdata⟩ := peekAsync_moves (self.afterPeeks n)
  exact (hdata closed buf h).symm

theorem ManagedStream.StaysOpen.peek {self : ManagedStream T} (h : self.StaysOpen) (n : Nat) :
    (self.afterPeeks n).peekAsync.1 = .ok (false, self.peeked n) := by
  obtain ⟨buf, hbuf⟩ := h n
  rw [hbuf, peeked_eq hbuf]

/-- Peeked bytes stay. -/
theorem peeked_front (self : ManagedStream T) {n m : Nat} (h : n ≤ m) :
    self.peeked n <+: self.peeked m := by
  induction m, h using Nat.le_induction with
  | base => exact List.prefix_rfl
  | succ m hle ih =>
    obtain ⟨fetched, -, hbuffer, -⟩ := peekAsync_moves (self.afterPeeks (m + 1))
    exact ih.trans ⟨fetched, hbuffer.symm⟩

/-- What a peek depends on. -/
structure SameSource (a b : ManagedStream T) : Prop where
  kind : a.kind = b.kind
  stream : a.stream = b.stream
  buffer : a.buffer = b.buffer
  isSealed : a.isSealed = b.isSealed

theorem SameSource.trans {a b c : ManagedStream T} (h : SameSource a b) (h' : SameSource b c) :
    SameSource a c :=
  ⟨h.kind.trans h'.kind, h.stream.trans h'.stream, h.buffer.trans h'.buffer,
    h.isSealed.trans h'.isSealed⟩

theorem SameSource.peekAsync {a b : ManagedStream T} (h : SameSource a b) :
    a.peekAsync.1 = b.peekAsync.1 ∧ SameSource a.peekAsync.2 b.peekAsync.2 := by
  obtain ⟨kind, stream, buffer, isSealed, _, _, _, _⟩ := a
  obtain ⟨kind', stream', buffer', isSealed', _, _, _, _⟩ := b
  obtain ⟨rfl, rfl, rfl, rfl⟩ := h
  unfold ManagedStream.peekAsync
  simp only
  split
  · exact ⟨rfl, rfl, rfl, rfl, rfl⟩
  · cases T.takeError stream with
    | mk e s =>
      cases e with
      | some e => exact ⟨rfl, rfl, rfl, rfl, rfl⟩
      | none =>
        simp only
        cases T.pollRead s kind.peekCapacity with
        | mk outcome s' =>
          cases outcome with
          | pending => exact ⟨rfl, rfl, rfl, rfl, rfl⟩
          | error e => exact ⟨rfl, rfl, rfl, rfl, rfl⟩
          | ready bytes fits =>
            simp only
            split <;> exact ⟨rfl, rfl, rfl, rfl, rfl⟩

end Peeks

/-! ## One round -/

/-- The function has returned, with a result or an error. -/
def PeekOutcome.isReturn : PeekOutcome → Bool
  | .ok _ | .error _ => true
  | _ => false

/-- A round that returns, or uses up an attempt. -/
inductive Round.Counts : Round → Prop where
  | done {outcome : PeekOutcome} (h : outcome.isReturn = true) : Counts (.done outcome)
  | again : Counts (.again true)

/-- A client hello that the parser takes for incomplete: it is cut, or has an extension that
is too long for its block. -/
def Withheld (buf : List UInt8) : Prop :=
  IsClientHello buf ∧ (buf.length < extensionsEnd buf ∨ ExtensionOverruns buf)

/-- A hello that has come in whole stays whole. -/
theorem not_withheld_append {buf : List UInt8} (hlen : 6 ≤ buf.length) (h : ¬ Withheld buf)
    (later : List UInt8) : ¬ Withheld (buf ++ later) := by
  rintro ⟨hhello, hwithheld⟩
  have hhello := (isClientHello_append_iff hlen later).mp hhello
  have horder := layout_order buf
  obtain ⟨extensions, hextensions⟩ | hover :=
    extensions_or_overruns buf (extensionsEnd buf) (extensionsAt buf)
  · have hend : extensionsEnd buf ≤ buf.length := by
      by_contra hcut
      exact h ⟨hhello, Or.inl (by omega)⟩
    have hlayout := layout_append (show extensionsAt buf ≤ buf.length by
      rw [extensionsAt]
      omega) later
    rw [ExtensionOverruns, hlayout.start, hlayout.stop, List.length_append] at hwithheld
    obtain hcut | hover := hwithheld
    · omega
    · exact extensions_not_overruns (extensions_append hextensions hend later) hover
  · exact h ⟨hhello, Or.inr hover⟩

section Rounds

variable {T : InnerStream} {hpack : HpackDecoder} {buf : List UInt8}

theorem peekTls_withheld (self : PeekStream T hpack) (h : Withheld buf) :
    (self.peekTls buf).1 = .again false := by
  obtain ⟨index, hincomplete⟩ := tryFrom_incomplete h.1 h.2
  simp only [PeekStream.peekTls, hincomplete]

theorem peekTls_counts (self : PeekStream T hpack) (hfirst : buf.head? = some 0x16)
    (h : ¬ Withheld buf) : (self.peekTls buf).1.Counts := by
  unfold PeekStream.peekTls
  by_cases hlen : 6 ≤ buf.length
  · obtain hhello | hother := tryFrom_cases hfirst hlen
    · obtain ⟨extensions, hextensions⟩ | hover :=
        extensions_or_overruns buf (extensionsEnd buf) (extensionsAt buf)
      · have hend : extensionsEnd buf ≤ buf.length := by
          by_contra hcut
          exact h ⟨hhello, Or.inl (by omega)⟩
        rw [tryFrom_ok hhello hend hextensions]
        simp only [TlsClientHello.readSniHostname]
        obtain ⟨hostname, hok⟩ | ⟨e, herror⟩ :=
          readSniHostname_returns (helloOf buf extensions).extensions
        · rw [hok]
          exact .done rfl
        · rw [herror]
          exact .again
      · exact absurd ⟨hhello, Or.inr hover⟩ h
    · have hverdict := hother []
      rw [List.append_nil] at hverdict
      rw [hverdict]
      exact .done rfl
  · rw [tryFrom_short (by omega)]
    exact .done rfl

theorem peekTls_short (self : PeekStream T hpack) (h : buf.length < 6) :
    ∃ e, (self.peekTls buf).1 = .done (.error e) := by
  simp only [PeekStream.peekTls, tryFrom_short h]
  exact ⟨_, rfl⟩

theorem peekClear_counts (self : PeekStream T hpack) (buf : List UInt8) :
    (self.peekClear buf).1.Counts := by
  unfold PeekStream.peekClear
  split
  · unfold PeekStream.peekHttp1
    split
    · exact .done rfl
    · exact .again
  · split
    · simp only [PeekStream.peekHttp2]
      split
      · exact .again
      · split
        · exact .done rfl
        · split <;> exact .done rfl
    · exact .again

theorem peekTls_source (self : PeekStream T hpack) (buf : List UInt8) :
    SameSource (self.peekTls buf).2.toManagedStream self.toManagedStream := by
  unfold PeekStream.peekTls
  split
  · split <;> exact ⟨rfl, rfl, rfl, rfl⟩
  · exact ⟨rfl, rfl, rfl, rfl⟩
  · exact ⟨rfl, rfl, rfl, rfl⟩
  · exact ⟨rfl, rfl, rfl, rfl⟩

theorem enableObserve_source (self : PeekStream T hpack) :
    SameSource self.enableObserve.toManagedStream self.toManagedStream := by
  unfold PeekStream.enableObserve
  split
  · split <;> exact ⟨rfl, rfl, rfl, rfl⟩
  · split <;> exact ⟨rfl, rfl, rfl, rfl⟩

theorem peekClear_source (self : PeekStream T hpack) (buf : List UInt8) :
    SameSource (self.peekClear buf).2.toManagedStream self.toManagedStream := by
  refine SameSource.trans ?_ (enableObserve_source self)
  unfold PeekStream.peekClear
  split
  · unfold PeekStream.peekHttp1
    split <;> exact ⟨rfl, rfl, rfl, rfl⟩
  · split
    · simp only [PeekStream.peekHttp2]
      split
      · exact ⟨rfl, rfl, rfl, rfl⟩
      · split
        · exact ⟨rfl, rfl, rfl, rfl⟩
        · split <;> exact ⟨rfl, rfl, rfl, rfl⟩
    · exact ⟨rfl, rfl, rfl, rfl⟩

/-- What a round does on an open stream whose peek returns these bytes. -/
structure RoundOn (stream : PeekStream T hpack) (next : ManagedStream T) (buf : List UInt8) :
    Prop where
  empty : buf = [] → stream.peekRound.1 = .again true
  withheld : Withheld buf → stream.peekRound.1 = .again false
  counts : ¬ Withheld buf → stream.peekRound.1.Counts
  short : buf.head? = some 0x16 → buf.length < 6 → ∃ e, stream.peekRound.1 = .done (.error e)
  source : SameSource stream.peekRound.2.toManagedStream next

theorem peekRound_nil {self : PeekStream T hpack} {stream : ManagedStream T}
    (h : self.toManagedStream.peekAsync = (.ok (false, []), stream)) :
    self.peekRound = (.again true, { self with toManagedStream := stream }) := by
  simp only [PeekStream.peekRound, h, Bool.false_eq_true, if_false]

theorem peekRound_cons {self : PeekStream T hpack} {stream : ManagedStream T} {first : UInt8}
    {bytes : List UInt8}
    (h : self.toManagedStream.peekAsync = (.ok (false, first :: bytes), stream)) :
    self.peekRound =
      if first = 0x16 then
        PeekStream.peekTls { self with toManagedStream := stream } (first :: bytes)
      else PeekStream.peekClear { self with toManagedStream := stream } (first :: bytes) := by
  simp only [PeekStream.peekRound, h, Bool.false_eq_true, if_false]

theorem peekRound_on {self : PeekStream T hpack} {now : ManagedStream T}
    (hsource : SameSource self.toManagedStream now)
    (hpeek : now.peekAsync.1 = .ok (false, buf)) : RoundOn self now.peekAsync.2 buf := by
  obtain ⟨hresult, hnext⟩ := hsource.peekAsync
  rw [hpeek] at hresult
  cases hpolled : self.toManagedStream.peekAsync with
  | mk outcome stream =>
    rw [hpolled] at hresult hnext
    simp only at hresult
    subst hresult
    cases buf with
    | nil =>
      have hnot : ¬ Withheld [] := fun h => absurd h.1.1 (by decide)
      have hround := peekRound_nil hpolled
      constructor
      · intro _
        rw [hround]
      · intro h
        exact absurd h hnot
      · intro _
        rw [hround]
        exact .again
      · intro hfirst
        cases hfirst
      · rw [hround]
        exact ⟨hnext.kind, hnext.stream, hnext.buffer, hnext.isSealed⟩
    | cons first bytes =>
      have hround := peekRound_cons hpolled
      by_cases hfirst : first = 0x16
      · simp only [hfirst, if_true] at hround
        subst hfirst
        constructor
        · intro h
          cases h
        · intro h
          rw [hround]
          exact peekTls_withheld _ h
        · intro h
          rw [hround]
          exact peekTls_counts _ rfl h
        · intro _ hshort
          rw [hround]
          exact peekTls_short _ hshort
        · rw [hround]
          exact (peekTls_source _ _).trans hnext
      · simp only [hfirst, if_false] at hround
        constructor
        · intro h
          cases h
        · rintro ⟨⟨-, htls, -⟩, -⟩
          exact absurd htls hfirst
        · intro _
          rw [hround]
          exact peekClear_counts _ _
        · intro htls
          exact absurd (Option.some.inj htls) hfirst
        · rw [hround]
          exact (peekClear_source _ _).trans hnext

end Rounds

/-! ## The loop -/

section Loop

variable {T : InnerStream} {hpack : HpackDecoder}

theorem peekLoop_round {self : PeekStream T hpack} {attempts : Nat} (hattempts : attempts ≤ 4)
    (fuel : Nat) :
    PeekStream.peekLoop (fuel + 1) attempts self =
      match self.peekRound.1 with
      | .done outcome => (outcome, self.peekRound.2)
      | .again counted =>
        PeekStream.peekLoop fuel (if counted then attempts + 1 else attempts)
          self.peekRound.2 := by
  rw [PeekStream.peekLoop, if_neg (by omega)]
  cases self.peekRound with
  | mk round next => cases round <;> rfl

theorem peekLoop_again {self : PeekStream T hpack} {attempts : Nat} {counted : Bool}
    (hattempts : attempts ≤ 4) (h : self.peekRound.1 = .again counted) (fuel : Nat) :
    PeekStream.peekLoop (fuel + 1) attempts self =
      PeekStream.peekLoop fuel (if counted then attempts + 1 else attempts) self.peekRound.2 := by
  rw [peekLoop_round hattempts, h]

theorem peekLoop_done {self : PeekStream T hpack} {attempts : Nat} {outcome : PeekOutcome}
    (hattempts : attempts ≤ 4) (h : self.peekRound.1 = .done outcome) (fuel : Nat) :
    (PeekStream.peekLoop (fuel + 1) attempts self).1 = outcome := by
  rw [peekLoop_round hattempts, h]

theorem peekLoop_exhausted {self : PeekStream T hpack} {attempts : Nat} (h : 4 < attempts)
    (fuel : Nat) : (PeekStream.peekLoop (fuel + 1) attempts self).1.isReturn = true := by
  rw [PeekStream.peekLoop, if_pos h]
  rfl

/-- A loop that has returned returns the same with more rounds. -/
theorem peekLoop_mono {self : PeekStream T hpack} {attempts fuel : Nat}
    (h : (PeekStream.peekLoop fuel attempts self).1.isReturn = true) {more : Nat}
    (hle : fuel ≤ more) : (PeekStream.peekLoop more attempts self).1.isReturn = true := by
  induction fuel generalizing attempts self more with
  | zero => cases h
  | succ fuel ih =>
    obtain ⟨more, rfl⟩ : ∃ m, more = m + 1 := ⟨more - 1, by omega⟩
    by_cases hattempts : attempts ≤ 4
    · cases hround : self.peekRound.1 with
      | done outcome =>
        rw [peekLoop_done hattempts hround] at h ⊢
        exact h
      | again counted =>
        rw [peekLoop_again hattempts hround] at h ⊢
        exact ih h (by omega)
    · exact peekLoop_exhausted (by omega) more

variable {client : ManagedStream T}

/-- Once no more hello is withheld, each round counts. -/
theorem peekLoop_settled (hopen : client.StaysOpen) {n attempts fuel : Nat}
    {self : PeekStream T hpack} (hsource : SameSource self.toManagedStream (client.afterPeeks n))
    (hsettled : ∀ m, n ≤ m → ¬ Withheld (client.peeked m)) (hfuel : 5 < attempts + fuel)
    (hpos : 0 < fuel) : (PeekStream.peekLoop fuel attempts self).1.isReturn = true := by
  induction fuel generalizing n attempts self with
  | zero => omega
  | succ fuel ih =>
    by_cases hattempts : attempts ≤ 4
    · have hround := peekRound_on hsource (hopen.peek n)
      cases hresult : self.peekRound.1 with
      | done outcome =>
        rw [peekLoop_done hattempts hresult]
        have hcounts := hround.counts (hsettled n (le_refl n))
        rw [hresult] at hcounts
        cases hcounts with
        | done h => exact h
      | again counted =>
        have hcounts := hround.counts (hsettled n (le_refl n))
        rw [hresult] at hcounts
        cases hcounts
        rw [peekLoop_again hattempts hresult]
        exact ih (n := n + 1) hround.source (fun m hm => hsettled m (by omega))
          (by simp only [if_true]; omega) (by omega)
    · exact peekLoop_exhausted (by omega) fuel

theorem head_peeked {n : Nat} {first : UInt8} (hfirst : (client.peeked n).head? = some first)
    {m : Nat} (h : n ≤ m) : (client.peeked m).head? = some first := by
  obtain ⟨later, hlater⟩ := peeked_front client h
  rw [← hlater, List.head?_append, hfirst]
  rfl

/-- Behind a hello that is withheld for a number of peeks, the loop returns. -/
theorem peekLoop_withheld (hopen : client.StaysOpen) (count : Nat) {n attempts fuel : Nat}
    {self : PeekStream T hpack} (hsource : SameSource self.toManagedStream (client.afterPeeks n))
    (hfirst : (client.peeked n).head? = some 0x16)
    (hend : ¬ Withheld (client.peeked (n + count))) (hattempts : attempts ≤ 4)
    (hfuel : 5 + count < attempts + fuel) :
    (PeekStream.peekLoop fuel attempts self).1.isReturn = true := by
  obtain ⟨fuel, rfl⟩ : ∃ f, fuel = f + 1 := ⟨fuel - 1, by omega⟩
  have hround := peekRound_on hsource (hopen.peek n)
  by_cases hwithheld : Withheld (client.peeked n)
  · -- a round that does not count
    cases count with
    | zero => exact absurd hwithheld hend
    | succ count =>
      rw [peekLoop_again hattempts (hround.withheld hwithheld)]
      refine peekLoop_withheld hopen count (n := n + 1) hround.source
        (head_peeked hfirst (Nat.le_succ n)) ?_ hattempts ?_
      · rwa [show n + 1 + count = n + (count + 1) by omega]
      · simp only [Bool.false_eq_true, if_false]
        omega
  · by_cases hlen : 6 ≤ (client.peeked n).length
    · apply peekLoop_settled hopen hsource _ (by omega) (by omega)
      intro m hm
      obtain ⟨later, hlater⟩ := peeked_front client hm
      rw [← hlater]
      exact not_withheld_append hlen hwithheld later
    · obtain ⟨e, herror⟩ := hround.short hfirst (by omega)
      rw [peekLoop_done hattempts herror]
      rfl

/-- While a hello is withheld, the loop does not return. -/
theorem peekLoop_stalls (hopen : client.StaysOpen) {count n attempts : Nat}
    {self : PeekStream T hpack} (hsource : SameSource self.toManagedStream (client.afterPeeks n))
    (hwithheld : ∀ m, m < count → Withheld (client.peeked (n + m))) (hattempts : attempts ≤ 4) :
    (PeekStream.peekLoop count attempts self).1 = .peeking := by
  induction count generalizing n self with
  | zero => rfl
  | succ count ih =>
    have hround := peekRound_on hsource (hopen.peek n)
    rw [peekLoop_again hattempts (hround.withheld (hwithheld 0 (by omega)))]
    apply ih (n := n + 1) hround.source
    intro m hm
    rw [show n + 1 + m = n + (m + 1) by omega]
    exact hwithheld (m + 1) (by omega)

/-! ## Clients -/

/-- The client sends nothing for `start` peeks, and then for `count` peeks not enough for the
parser of its hello. -/
structure ManagedStream.Withholds (client : ManagedStream T) (start count : Nat) : Prop where
  empty : ∀ n, n < start → client.peeked n = []
  withheld : ∀ n, n < count → Withheld (client.peeked (start + n))

/-- The loop returns within a number of rounds. -/
def PeekStream.ReturnsWithin (self : PeekStream T hpack) (bound : Nat) : Prop :=
  (self.peekManagedStream bound).1.isReturn = true

/-- From the rounds that find nothing yet: each of them counts, and the hello that follows is
withheld for at most `bound` peeks. -/
theorem peekLoop_returns (hopen : client.StaysOpen) {bound : Nat}
    (hbound : ∀ start count, start ≤ 4 → client.Withholds start count → count ≤ bound)
    {fuel n : Nat} {self : PeekStream T hpack}
    (hsource : SameSource self.toManagedStream (client.afterPeeks n))
    (hempty : ∀ m, m < n → client.peeked m = []) (hn : n ≤ 5) (hfuel : bound + 6 < n + fuel)
    (hpos : 0 < fuel) : (PeekStream.peekLoop fuel n self).1.isReturn = true := by
  induction fuel generalizing n self with
  | zero => omega
  | succ fuel ih =>
    by_cases hattempts : n ≤ 4
    · have hround := peekRound_on hsource (hopen.peek n)
      cases hpeeked : client.peeked n with
      | nil =>
        rw [peekLoop_again hattempts (hround.empty hpeeked)]
        refine ih (n := n + 1) hround.source ?_ (by omega) (by omega) (by omega)
        intro m hm
        obtain hlt | rfl := Nat.lt_succ_iff_lt_or_eq.mp hm
        · exact hempty m hlt
        · exact hpeeked
      | cons first bytes =>
        have hhead : (client.peeked n).head? = some first := by rw [hpeeked, List.head?_cons]
        by_cases hfirst : first = 0x16
        · rw [hfirst] at hhead
          obtain ⟨count, hcount, hend⟩ : ∃ count, count ≤ bound ∧
              ¬ Withheld (client.peeked (n + count)) := by
            by_contra hall
            push Not at hall
            have hmore := hbound n (bound + 1) hattempts
              ⟨hempty, fun m hm => hall m (by omega)⟩
            omega
          exact peekLoop_withheld hopen count hsource hhead hend hattempts (by omega)
        · apply peekLoop_settled hopen hsource _ (by omega) (by omega)
          rintro m hm ⟨⟨-, htls, -⟩, -⟩
          have hhead := head_peeked hhead hm
          rw [List.getD_eq_getElem?_getD, ← List.head?_eq_getElem?, hhead] at htls
          exact hfirst htls
    · exact peekLoop_exhausted (by omega) fuel

/-- A client that withholds its hello keeps the loop from returning. -/
theorem Withholds.not_returned (hopen : client.StaysOpen) {start count : Nat}
    (hclient : client.Withholds start count) (hstart : start ≤ 4) {rest n : Nat}
    {self : PeekStream T hpack} (hsource : SameSource self.toManagedStream (client.afterPeeks n))
    (hrest : n + rest = start) :
    (PeekStream.peekLoop (rest + count) n self).1 = .peeking := by
  induction rest generalizing n self with
  | zero =>
    rw [Nat.zero_add]
    apply peekLoop_stalls hopen hsource _ (by omega)
    intro m hm
    rw [show n = start by omega]
    exact hclient.withheld m hm
  | succ rest ih =>
    have hround := peekRound_on hsource (hopen.peek n)
    rw [show rest + 1 + count = rest + count + 1 by omega,
      peekLoop_again (by omega) (hround.empty (hclient.empty n (by omega)))]
    exact ih (n := n + 1) hround.source (by omega)

/-- **Peeking is bounded** over a class of clients, whose streams stay open, exactly if there
is a bound on the number of peeks for which a client withholds a part of its hello. The
function then returns, with a result or an error. -/
theorem peek_bounded_iff (hpack : HpackDecoder)
    (clients : ∀ T : InnerStream, PeekStream T hpack → Prop) :
    (∃ bound, ∀ (T : InnerStream) (self : PeekStream T hpack), clients T self →
        self.toManagedStream.StaysOpen → self.ReturnsWithin bound) ↔
      ∃ bound, ∀ (T : InnerStream) (self : PeekStream T hpack), clients T self →
        self.toManagedStream.StaysOpen → ∀ start count, start ≤ 4 →
          self.toManagedStream.Withholds start count → count ≤ bound := by
  constructor
  · rintro ⟨bound, hreturns⟩
    refine ⟨bound, ?_⟩
    intro T self hself hopen start count hstart hwithholds
    by_contra hmore
    have hreturned := peekLoop_mono (hreturns T self hself hopen)
      (show bound ≤ start + count by omega)
    rw [Withholds.not_returned hopen hwithholds hstart ⟨rfl, rfl, rfl, rfl⟩ (Nat.zero_add _)]
      at hreturned
    cases hreturned
  · rintro ⟨bound, hbound⟩
    refine ⟨bound + 7, ?_⟩
    intro T self hself hopen
    exact peekLoop_returns hopen (hbound T self hself hopen) ⟨rfl, rfl, rfl, rfl⟩
      (fun m hm => absurd hm (Nat.not_lt_zero m)) (by omega) (by omega) (by omega)

end Loop

/-! ## A silent client -/

/-- Hands out as many bytes as fit. -/
def handOut (taken bytes : List UInt8) (remaining : Nat) :
    PollRead remaining × List UInt8 × List UInt8 :=
  (.ready (bytes.take remaining) (List.length_take_le remaining bytes),
    taken ++ bytes.take remaining, bytes.drop remaining)

/-- A stream that hands out the bytes it has and is then pending for ever. -/
def silent : InnerStream where
  State := List UInt8 × List UInt8
  taken s := s.1
  atEof _ := False
  takeError s := (none, s)
  pollRead
    | (taken, []), _ => (.pending, (taken, []))
    | (taken, byte :: bytes), remaining => handOut taken (byte :: bytes) remaining
  taken_takeError _ := rfl
  taken_pollRead := by
    rintro ⟨taken, _ | ⟨byte, bytes⟩⟩ remaining
    · exact (List.append_nil taken).symm
    · rfl
  ready_nil := by
    rintro ⟨taken, _ | ⟨byte, bytes⟩⟩ remaining fits h
    · cases h
    · left
      simp only [handOut, PollRead.ready.injEq, List.take_eq_nil_iff, reduceCtorEq, or_false] at h
      exact h

/-- A client that has sent the first six bytes of a hello. -/
def stalledClient : PeekStream silent OddBox.H2.staticHpack :=
  PeekStream.fromTcpStream OddBox.H2.staticHpack ([], [0x16, 3, 1, 0, 57, 1]) 7

theorem stalledClient_afterPeeks (n : Nat) :
    stalledClient.toManagedStream.afterPeeks (n + 1) =
      stalledClient.toManagedStream.afterPeeks 1 := by
  induction n with
  | zero => rfl
  | succ n ih => rw [ManagedStream.afterPeeks, ih]; rfl

theorem stalledClient_open : stalledClient.toManagedStream.StaysOpen := by
  intro n
  cases n with
  | zero => exact ⟨_, rfl⟩
  | succ n =>
    rw [stalledClient_afterPeeks]
    exact ⟨_, rfl⟩

theorem stalledClient_withholds (count : Nat) :
    stalledClient.toManagedStream.Withholds 0 count := by
  refine ⟨fun n hn => absurd hn (Nat.not_lt_zero n), ?_⟩
  intro n _
  rw [ManagedStream.peeked, stalledClient_afterPeeks]
  exact ⟨⟨by decide, by decide, by decide⟩, Or.inl (by decide)⟩

/-- The client stays connected and says no more; no number of rounds is enough. -/
theorem stalledClient_notBounded :
    stalledClient.toManagedStream.StaysOpen ∧ ∀ bound, ¬ stalledClient.ReturnsWithin bound := by
  refine ⟨stalledClient_open, ?_⟩
  intro bound hreturned
  have hpeeking : (PeekStream.peekLoop (0 + bound) 0 stalledClient).1 = .peeking :=
    Withholds.not_returned stalledClient_open (stalledClient_withholds bound) (Nat.zero_le 4)
      ⟨rfl, rfl, rfl, rfl⟩ (Nat.zero_add 0)
  rw [Nat.zero_add] at hpeeking
  rw [PeekStream.ReturnsWithin, PeekStream.peekManagedStream, hpeeking] at hreturned
  cases hreturned

end OddBox.TcpProxy

import OddBox.ManagedStream

/-!
What is broadcast of the bytes on an inspected `ManagedStream`: a read reports the whole
filled part of the caller's buffer, a write the whole slice that it was asked to send. The
wrapped stream may hand out and accept any part of what it is asked for.
-/

namespace OddBox.TcpProxy

/-! ## Writing -/

/-- The outcome of polling a stream to accept bytes of a slice. -/
inductive PollWrite (length : Nat) where
  | pending
  | error (e : IoError)
  | ready (n : Nat) (fits : n ≤ length)
  deriving Repr

def PollWrite.count {length : Nat} : PollWrite length → Nat
  | .ready n _ => n
  | _ => 0

/-- If bytes are accepted at all, the whole slice is. -/
def PollWrite.isWhole {length : Nat} : PollWrite length → Bool
  | .ready n _ => n == length
  | _ => true

/-- A stream under the contracts of `AsyncRead` and `AsyncWrite`. `accepted` are the bytes
it has taken to send. -/
structure DuplexStream extends InnerStream where
  accepted : State → List UInt8
  pollWrite : State → (buf : List UInt8) → PollWrite buf.length × State
  accepted_takeError : ∀ s, accepted (takeError s).2 = accepted s
  accepted_pollRead : ∀ s remaining, accepted (pollRead s remaining).2 = accepted s
  accepted_pollWrite : ∀ s buf,
    accepted (pollWrite s buf).2 = accepted s ++ buf.take (pollWrite s buf).1.count

/-- A scripted stream that accepts at most `limit` bytes at a time. -/
def scriptedDuplex (limit : Nat) : DuplexStream where
  State := scripted.State × List UInt8
  taken s := scripted.taken s.1
  atEof s := scripted.atEof s.1
  takeError s := (none, s)
  pollRead s remaining :=
    ((scripted.pollRead s.1 remaining).1, (scripted.pollRead s.1 remaining).2, s.2)
  taken_takeError _ := rfl
  taken_pollRead s remaining := scripted.taken_pollRead s.1 remaining
  ready_nil s := scripted.ready_nil s.1
  accepted s := s.2
  pollWrite s buf :=
    (.ready (min limit buf.length) (Nat.min_le_right _ _),
      s.1, s.2 ++ buf.take (min limit buf.length))
  accepted_takeError _ := rfl
  accepted_pollRead _ _ := rfl
  accepted_pollWrite _ _ := rfl

/-- `TCPEvent::RawBytesFromOddBoxToClient`. -/
structure RawBytesFromOddBoxToClient where
  connectionKey : Nat
  isHttp2 : Bool
  data : List UInt8
  deriving DecidableEq, Repr

variable {T : DuplexStream}

structure WriteOutcome (T : DuplexStream) (length : Nat) where
  result : PollWrite length
  stream : ManagedStream T.toInnerStream
  broadcast : List RawBytesFromOddBoxToClient

def ManagedStream.pollWrite (self : ManagedStream T.toInnerStream) (buf : List UInt8) :
    WriteOutcome T buf.length :=
  match T.pollWrite self.stream buf with
  | (.ready n fits, s) =>
    { result := .ready n fits
      stream := { self with stream := s }
      broadcast :=
        if self.enableInspection && !self.isWrapped && !buf.isEmpty then
          [⟨self.tcpConnectionId, self.isHttp2, buf⟩]
        else [] }
  | (result, s) => ⟨result, { self with stream := s }, []⟩

/-! ## Traffic -/

inductive TrafficOp where
  | stream (op : StreamOp)
  | pollWrite (buf : List UInt8)

/-- A managed stream, what its reads have delivered, and what it has broadcast. -/
structure Traffic (T : DuplexStream) extends Session T.toInnerStream where
  fromClient : List RawBytesFromClientToOddBox
  toClient : List RawBytesFromOddBoxToClient

def Traffic.new (stream : ManagedStream T.toInnerStream) : Traffic T where
  stream := stream
  delivered := []
  fromClient := []
  toClient := []

/-- What an operation on the reading side broadcasts. -/
def StreamOp.broadcast (stream : ManagedStream T.toInnerStream) :
    StreamOp → List RawBytesFromClientToOddBox
  | .pollRead buf => (stream.pollRead buf).broadcast
  | _ => []

def Traffic.step (self : Traffic T) : TrafficOp → Traffic T
  | .stream op =>
    { self with
      toSession := self.toSession.step op
      fromClient := self.fromClient ++ op.broadcast self.stream }
  | .pollWrite buf =>
    let out := self.stream.pollWrite buf
    { self with
      stream := out.stream
      toClient := self.toClient ++ out.broadcast }

/-- The payloads of the broadcasts of each side, one behind the other. -/
def Traffic.observedFromClient (self : Traffic T) : List UInt8 :=
  self.fromClient.flatMap RawBytesFromClientToOddBox.data

def Traffic.observedToClient (self : Traffic T) : List UInt8 :=
  self.toClient.flatMap RawBytesFromOddBoxToClient.data

/-! ## What one operation reports -/

section Reading

variable {T : InnerStream}

structure ManagedStream.Inspected (stream : ManagedStream T) : Prop where
  enabled : stream.enableInspection = true
  direct : stream.isWrapped = false

/-- Whether a stream has bytes, or its end, for a read of at most `remaining` bytes. -/
def InnerStream.hasBytes (T : InnerStream) (s : T.State) (remaining : Nat) : Bool :=
  match (T.pollRead s remaining).1 with
  | .ready _ _ => true
  | _ => false

/-- A sealed stream has something to report: peeked bytes, or what the stream has. -/
def ManagedStream.Reports (self : ManagedStream T) (buf : ReadBuf) : Prop :=
  self.isSealed = true ∧ (self.buffer ≠ [] ∨ T.hasBytes self.stream buf.remaining = true)

instance (self : ManagedStream T) (buf : ReadBuf) : Decidable (self.Reports buf) :=
  inferInstanceAs (Decidable (_ ∧ _))

/-- The bytes in the broadcasts of a read. -/
def ReadOutcome.observed (out : ReadOutcome T) : List UInt8 :=
  out.broadcast.flatMap RawBytesFromClientToOddBox.data

theorem inspect_observed {self : ManagedStream T} (hself : self.Inspected) (buf : ReadBuf) :
    (self.inspect buf).flatMap RawBytesFromClientToOddBox.data = buf.filled := by
  unfold ManagedStream.inspect
  rw [hself.enabled, hself.direct]
  cases hfilled : buf.filled with
  | nil => rfl
  | cons byte bytes => simp

theorem pollInto_ok_iff (s : T.State) (buf : ReadBuf) :
    (T.pollInto s buf).1 = .ok ↔ T.hasBytes s buf.remaining = true := by
  unfold InnerStream.pollInto InnerStream.hasBytes
  split <;> simp_all

/-- A read reports nothing, or all that is in the caller's buffer after it. -/
structure Reported (out : ReadOutcome T) : Prop where
  ok : out.result = .ok → out.observed = out.buf.filled
  quiet : out.result ≠ .ok → out.observed = []
  inspected : out.stream.Inspected

theorem readDirect_reported {self : ManagedStream T} (hself : self.Inspected) (buf : ReadBuf) :
    Reported (self.readDirect buf) := by
  unfold ManagedStream.readDirect
  split
  · exact ⟨fun _ => inspect_observed hself _, fun h => absurd rfl h, ⟨hself.1, hself.2⟩⟩
  · rename_i hresult _
    exact ⟨fun h => absurd h hresult, fun _ => rfl, ⟨hself.1, hself.2⟩⟩

theorem readRest_reported {self : ManagedStream T} (hself : self.Inspected) (buf : ReadBuf) :
    Reported (self.readRest buf) := by
  unfold ManagedStream.readRest
  split
  · exact ⟨fun _ => inspect_observed hself _, fun h => absurd rfl h, ⟨hself.1, hself.2⟩⟩
  · rename_i hresult _
    split
    · exact ⟨fun h => absurd h hresult, fun _ => rfl, ⟨hself.1, hself.2⟩⟩
    · exact ⟨fun _ => inspect_observed hself _, fun h => absurd rfl h, ⟨hself.1, hself.2⟩⟩

theorem pollRead_reported {self : ManagedStream T} (hself : self.Inspected) (buf : ReadBuf) :
    Reported (self.pollRead buf) := by
  unfold ManagedStream.pollRead
  split
  · exact ⟨fun h => (by cases h), fun _ => rfl, hself⟩
  · split
    · exact readDirect_reported hself buf
    · have hdrained : ∀ rest, ({ self with buffer := rest } : ManagedStream T).Inspected :=
        fun _ => ⟨hself.1, hself.2⟩
      simp only
      split
      · exact ⟨fun _ => inspect_observed (hdrained _) _, fun h => absurd rfl h, hdrained _⟩
      · exact readRest_reported (hdrained _) _

/-- A read succeeds exactly where there is something to report. -/
theorem pollRead_ok_iff (self : ManagedStream T) (buf : ReadBuf) :
    (self.pollRead buf).result = .ok ↔ self.Reports buf := by
  unfold ManagedStream.pollRead ManagedStream.Reports
  cases hsealed : self.isSealed with
  | false => simp
  | true =>
    simp only [Bool.not_true, Bool.false_eq_true, if_false, true_and]
    split
    · rename_i hempty
      rw [List.isEmpty_iff] at hempty
      simp only [hempty, ne_eq, not_true_eq_false, false_or, ← pollInto_ok_iff,
        ManagedStream.readDirect]
      split
      · rename_i hpoll
        simp [hpoll]
      · rename_i hresult hpoll
        simp [hpoll]
    · rename_i hbuffer
      rw [List.isEmpty_iff] at hbuffer
      have hsome := List.length_pos_iff.mpr hbuffer
      refine iff_of_true ?_ (Or.inl hbuffer)
      split
      · rfl
      · rename_i hroom
        rw [remaining_putSlice, List.length_take] at hroom
        -- there is room left, so the side buffer is drained completely
        obtain ⟨fetched, hresult, -⟩ := readRest_moves
          { self with buffer := self.buffer.drop (min buf.remaining self.buffer.length) }
          (buf.putSlice (self.buffer.take (min buf.remaining self.buffer.length)) (by
            rw [List.length_take]
            exact Nat.le_trans (Nat.min_le_left _ _) (Nat.min_le_left _ _)))
          (List.drop_eq_nil_of_le (by omega))
          (by
            rw [filled_putSlice]
            intro h
            have htaken := congrArg List.length (List.append_eq_nil_iff.mp h).2
            rw [List.length_take, List.length_nil] at htaken
            omega)
        simp only [hsealed] at hresult
        exact hresult

theorem peekAsync_inspected {self : ManagedStream T} (hself : self.Inspected) :
    self.peekAsync.2.Inspected := by
  unfold ManagedStream.peekAsync
  repeat' split
  all_goals exact ⟨hself.1, hself.2⟩

theorem step_inspected {session : Session T} (hsession : session.stream.Inspected)
    (op : StreamOp) : (session.step op).stream.Inspected := by
  cases op with
  | peekAsync => exact peekAsync_inspected hsession
  | sealed => exact ⟨hsession.1, hsession.2⟩
  | pollRead buf => exact (pollRead_reported hsession buf).inspected

end Reading

theorem pollInto_accepted (s : T.State) (buf : ReadBuf) :
    T.accepted (T.pollInto s buf).2.2 = T.accepted s := by
  have hkept := T.accepted_pollRead s buf.remaining
  unfold InnerStream.pollInto
  split <;> simp_all

theorem peekAsync_accepted (self : ManagedStream T.toInnerStream) :
    T.accepted self.peekAsync.2.stream = T.accepted self.stream := by
  have herror := T.accepted_takeError self.stream
  unfold ManagedStream.peekAsync
  split
  · rfl
  · split
    · simp_all
    · rename_i s htake
      have hread := T.accepted_pollRead s self.kind.peekCapacity
      split
      · simp_all
      · simp_all
      · split <;> simp_all

theorem pollRead_accepted (self : ManagedStream T.toInnerStream) (buf : ReadBuf) :
    T.accepted (self.pollRead buf).stream.stream = T.accepted self.stream := by
  unfold ManagedStream.pollRead
  split
  · rfl
  · split
    · have hkept := pollInto_accepted self.stream buf
      unfold ManagedStream.readDirect
      split <;> simp_all
    · simp only
      split
      · rfl
      · have hkept := pollInto_accepted self.stream
          (buf.putSlice (self.buffer.take (min buf.remaining self.buffer.length)) (by
            rw [List.length_take]
            exact Nat.le_trans (Nat.min_le_left _ _) (Nat.min_le_left _ _)))
        unfold ManagedStream.readRest
        split
        · simp_all
        · split <;> simp_all

theorem step_accepted (session : Session T.toInnerStream) (op : StreamOp) :
    T.accepted (session.step op).stream.stream = T.accepted session.stream.stream := by
  cases op with
  | peekAsync => exact peekAsync_accepted session.stream
  | sealed => rfl
  | pollRead buf => exact pollRead_accepted session.stream buf

/-- A read delivers its new bytes, and reports them behind what the buffer held. -/
theorem pollRead_observed {traffic : Traffic T} (htraffic : traffic.stream.Inspected)
    (buf : ReadBuf) : ∃ new,
      (traffic.step (.stream (.pollRead buf))).delivered = traffic.delivered ++ new ∧
      (traffic.step (.stream (.pollRead buf))).observedFromClient =
        traffic.observedFromClient ++
          (if traffic.stream.Reports buf then buf.filled ++ new else []) ∧
      (¬ traffic.stream.Reports buf → new = []) := by
  obtain ⟨new, fetched, hmoves⟩ := pollRead_moves traffic.stream buf
  have hreported := pollRead_reported htraffic buf
  have hobserved : (traffic.step (.stream (.pollRead buf))).observedFromClient =
      traffic.observedFromClient ++ (traffic.stream.pollRead buf).observed :=
    List.flatMap_append
  refine ⟨new, ?_, ?_, ?_⟩
  · by_cases hok : (traffic.stream.pollRead buf).result = .ok
    · simp only [Traffic.step, Session.step, hok, if_true, hmoves.filled, List.drop_left]
    · simp only [Traffic.step, Session.step, hok, if_false, hmoves.quiet hok]
  · rw [hobserved]
    split
    · rename_i hreports
      rw [hreported.ok ((pollRead_ok_iff _ _).mpr hreports), hmoves.filled]
    · rename_i hsilent
      rw [hreported.quiet (fun hok => hsilent ((pollRead_ok_iff _ _).mp hok))]
  · intro hsilent
    exact hmoves.quiet (fun hok => hsilent ((pollRead_ok_iff _ _).mp hok))

/-- A write that is accepted in part is reported whole. -/
theorem pollWrite_observed {self : ManagedStream T.toInnerStream} (hself : self.Inspected)
    (buf : List UInt8) :
    (self.pollWrite buf).stream.Inspected ∧
      T.accepted (self.pollWrite buf).stream.stream =
        T.accepted self.stream ++ buf.take (T.pollWrite self.stream buf).1.count ∧
      (self.pollWrite buf).broadcast.flatMap RawBytesFromOddBoxToClient.data =
        buf.take (T.pollWrite self.stream buf).1.count ++
          (if (T.pollWrite self.stream buf).1.isWhole then []
            else buf.drop (T.pollWrite self.stream buf).1.count) := by
  have haccepted := T.accepted_pollWrite self.stream buf
  unfold ManagedStream.pollWrite
  cases hpoll : T.pollWrite self.stream buf with
  | mk result s =>
    rw [hpoll] at haccepted
    cases result with
    | pending => exact ⟨⟨hself.1, hself.2⟩, haccepted, by simp [PollWrite.count, PollWrite.isWhole]⟩
    | error e => exact ⟨⟨hself.1, hself.2⟩, haccepted, by simp [PollWrite.count, PollWrite.isWhole]⟩
    | ready n fits =>
      refine ⟨⟨hself.1, hself.2⟩, haccepted, ?_⟩
      simp only [hself.enabled, hself.direct, PollWrite.count, PollWrite.isWhole, beq_iff_eq]
      have hall : ((if (true && !false && !buf.isEmpty) = true then
          [(⟨self.tcpConnectionId, self.isHttp2, buf⟩ : RawBytesFromOddBoxToClient)]
          else []).flatMap RawBytesFromOddBoxToClient.data) = buf := by
        cases buf <;> simp
      rw [hall]
      split
      · rename_i hwhole
        rw [hwhole, List.take_length, List.append_nil]
      · rw [List.take_append_drop]

/-! ## Runs -/

/-- A read that reports something is given an empty buffer, and a write is accepted whole
or not at all. -/
def Traffic.MovesWhole (self : Traffic T) : TrafficOp → Prop
  | .stream (.pollRead buf) => self.stream.Reports buf → buf.filled = []
  | .stream _ => True
  | .pollWrite buf => (T.pollWrite self.stream.stream buf).1.isWhole = true

instance (self : Traffic T) : ∀ op, Decidable (self.MovesWhole op)
  | .stream (.pollRead _) => inferInstanceAs (Decidable (_ → _))
  | .stream .peekAsync => inferInstanceAs (Decidable True)
  | .stream .sealed => inferInstanceAs (Decidable True)
  | .pollWrite _ => inferInstanceAs (Decidable (_ = true))

/-- By how many bytes the broadcasts exceed what was moved. -/
def Traffic.surplus (self : Traffic T) : ℤ :=
  (self.observedFromClient.length - self.delivered.length) +
    (self.observedToClient.length - (T.accepted self.stream.stream).length)

/-- What one operation adds to each side, with what its broadcast has too much. -/
structure Added (before after : Traffic T) (op : TrafficOp) (stale new sent unsent : List UInt8) :
    Prop where
  delivered : after.delivered = before.delivered ++ new
  fromClient : after.observedFromClient = before.observedFromClient ++ (stale ++ new)
  accepted : T.accepted after.stream.stream = T.accepted before.stream.stream ++ sent
  toClient : after.observedToClient = before.observedToClient ++ (sent ++ unsent)
  inspected : after.stream.Inspected
  whole : before.MovesWhole op ↔ stale = [] ∧ unsent = []

/-- Nothing is moved and nothing is broadcast. -/
theorem Added.of_silent {before after : Traffic T} {op : TrafficOp}
    (hdelivered : after.delivered = before.delivered)
    (hfromClient : after.observedFromClient = before.observedFromClient)
    (haccepted : T.accepted after.stream.stream = T.accepted before.stream.stream)
    (htoClient : after.observedToClient = before.observedToClient)
    (hinspected : after.stream.Inspected) (hwhole : before.MovesWhole op) :
    Added before after op [] [] [] [] where
  delivered := hdelivered.trans (List.append_nil _).symm
  fromClient := hfromClient.trans (List.append_nil _).symm
  accepted := haccepted.trans (List.append_nil _).symm
  toClient := htoClient.trans (List.append_nil _).symm
  inspected := hinspected
  whole := iff_of_true hwhole ⟨rfl, rfl⟩

theorem step_added {traffic : Traffic T} (htraffic : traffic.stream.Inspected)
    (op : TrafficOp) :
    ∃ stale new sent unsent, Added traffic (traffic.step op) op stale new sent unsent := by
  cases op with
  | stream op =>
    have hinspected := step_inspected htraffic op
    have haccepted := step_accepted traffic.toSession op
    cases op with
    | peekAsync =>
      have hobserved :
          (traffic.step (.stream .peekAsync)).observedFromClient = traffic.observedFromClient := by
        simp [Traffic.observedFromClient, Traffic.step, StreamOp.broadcast]
      exact ⟨[], [], [], [], .of_silent rfl hobserved haccepted rfl hinspected trivial⟩
    | sealed =>
      have hobserved :
          (traffic.step (.stream .sealed)).observedFromClient = traffic.observedFromClient := by
        simp [Traffic.observedFromClient, Traffic.step, StreamOp.broadcast]
      exact ⟨[], [], [], [], .of_silent rfl hobserved haccepted rfl hinspected trivial⟩
    | pollRead buf =>
      obtain ⟨new, hdelivered, hobserved, hsilent⟩ := pollRead_observed htraffic buf
      refine ⟨if traffic.stream.Reports buf then buf.filled else [], new, [], [], hdelivered, ?_,
        ?_, ?_, hinspected, ?_⟩
      · rw [hobserved]
        split
        · rfl
        · rename_i hreports
          rw [hsilent hreports, List.append_nil, List.append_nil, List.append_nil]
      · rw [List.append_nil]
        exact haccepted
      · exact (List.append_nil _).symm
      · simp only [Traffic.MovesWhole, ite_eq_right_iff, and_true]
  | pollWrite buf =>
    obtain ⟨hinspected, haccepted, hobserved⟩ := pollWrite_observed htraffic buf
    refine ⟨[], [], buf.take (T.pollWrite traffic.stream.stream buf).1.count,
      if (T.pollWrite traffic.stream.stream buf).1.isWhole then []
        else buf.drop (T.pollWrite traffic.stream.stream buf).1.count, ?_, ?_, haccepted, ?_,
      hinspected, ?_⟩
    · exact (List.append_nil _).symm
    · exact (List.append_nil _).symm
    · rw [← hobserved]
      exact List.flatMap_append
    · simp only [Traffic.MovesWhole, true_and, ite_eq_left_iff, Bool.not_eq_true]
      cases hresult : (T.pollWrite traffic.stream.stream buf).1 with
      | pending => simp [PollWrite.isWhole]
      | error e => simp [PollWrite.isWhole]
      | ready n fits =>
        simp only [PollWrite.isWhole, PollWrite.count, beq_iff_eq, beq_eq_false_iff_ne, ne_eq,
          List.drop_eq_nil_iff]
        omega

/-- The broadcasts never fall behind what is moved, and run ahead with each operation that
moves only a part of what it reports. -/
theorem step_surplus {traffic : Traffic T} (htraffic : traffic.stream.Inspected)
    (op : TrafficOp) :
    traffic.surplus ≤ (traffic.step op).surplus ∧
      (¬ traffic.MovesWhole op → traffic.surplus < (traffic.step op).surplus) := by
  obtain ⟨stale, new, sent, unsent, hadded⟩ := step_added htraffic op
  have hgrown : (traffic.step op).surplus = traffic.surplus + stale.length + unsent.length := by
    simp only [Traffic.surplus, hadded.delivered, hadded.fromClient, hadded.accepted,
      hadded.toClient, List.length_append, Nat.cast_add]
    ring
  refine ⟨by omega, ?_⟩
  intro hpart
  rw [hadded.whole, not_and_or, ← ne_eq, ← ne_eq, ← List.length_pos_iff,
    ← List.length_pos_iff] at hpart
  omega

/-- What is broadcast is what was delivered, and what was accepted since `start`. -/
structure Traffic.Observed (start : List UInt8) (traffic : Traffic T) : Prop where
  fromClient : traffic.observedFromClient = traffic.delivered
  toClient : start ++ traffic.observedToClient = T.accepted traffic.stream.stream

theorem Traffic.Observed.surplus_eq {start : List UInt8} {traffic : Traffic T}
    (h : traffic.Observed start) : traffic.surplus = -start.length := by
  have hto := congrArg List.length h.toClient
  rw [List.length_append] at hto
  rw [Traffic.surplus, h.fromClient]
  omega

theorem new_observed (stream : ManagedStream T.toInnerStream) :
    (Traffic.new stream).Observed (T.accepted stream.stream) :=
  ⟨rfl, List.append_nil _⟩

theorem step_observed {start : List UInt8} {traffic : Traffic T}
    (htraffic : traffic.stream.Inspected) {op : TrafficOp} (hwhole : traffic.MovesWhole op)
    (hobserved : traffic.Observed start) : (traffic.step op).Observed start := by
  obtain ⟨stale, new, sent, unsent, hadded⟩ := step_added htraffic op
  obtain ⟨rfl, rfl⟩ := hadded.whole.mp hwhole
  constructor
  · rw [hadded.fromClient, hadded.delivered, hobserved.fromClient, List.nil_append]
  · rw [hadded.toClient, hadded.accepted, ← hobserved.toClient, List.append_nil,
      List.append_assoc]

/-- **Observation is faithful** over a sequence of reads, writes, peeks and seals exactly
if every read that reports something is given an empty buffer, and no write is accepted in
part. -/
theorem observation_faithful_iff (T : DuplexStream) (stream : ManagedStream T.toInnerStream)
    (henabled : stream.enableInspection = true) (hdirect : stream.isWrapped = false)
    (ops : List TrafficOp) :
    let traffic := Machine.run Traffic.step (Traffic.new stream) ops
    (traffic.observedFromClient = traffic.delivered ∧
        T.accepted stream.stream ++ traffic.observedToClient =
          T.accepted traffic.stream.stream) ↔
      Machine.Meets Traffic.step Traffic.MovesWhole (Traffic.new stream) ops := by
  intro traffic
  have hstart : (Traffic.new stream).stream.Inspected := ⟨henabled, hdirect⟩
  have hkept : ∀ (t : Traffic T) op, t.stream.Inspected → (t.step op).stream.Inspected := by
    intro t op ht
    obtain ⟨_, _, _, _, hadded⟩ := step_added ht op
    exact hadded.inspected
  constructor
  · rintro ⟨hfrom, hto⟩
    apply Machine.meets_of_le Traffic.surplus hkept
      (fun t op ht => (step_surplus ht op).1) (fun t op ht => (step_surplus ht op).2) hstart
    rw [(new_observed stream).surplus_eq]
    exact (Traffic.Observed.surplus_eq ⟨hfrom, hto⟩).le
  · intro hmeets
    have hrun := Machine.Meets.invariant
      (I := fun t : Traffic T => t.stream.Inspected ∧ t.Observed (T.accepted stream.stream))
      (fun t op ht hwhole => ⟨hkept t op ht.1, step_observed ht.1 hwhole ht.2⟩) hmeets
      ⟨hstart, new_observed stream⟩
    exact ⟨hrun.2.fromClient, hrun.2.toClient⟩

/-- Peeked bytes and more behind them are read into an empty buffer, and a reply of two
bytes goes out whole. -/
theorem whole_observed :
    let stream : ManagedStream (scriptedDuplex 2).toInnerStream :=
      ⟨.tcp, (([1, 2], [some (3, [4])]), []), [1, 2], true, true, false, false, 7⟩
    let traffic := Machine.run Traffic.step (Traffic.new stream)
      [.stream (.pollRead ⟨[], 3, by decide⟩), .pollWrite [5, 6]]
    traffic.observedFromClient = traffic.delivered ∧
      (scriptedDuplex 2).accepted stream.stream ++ traffic.observedToClient =
        (scriptedDuplex 2).accepted traffic.stream.stream :=
  (observation_faithful_iff (scriptedDuplex 2)
    ⟨.tcp, (([1, 2], [some (3, [4])]), []), [1, 2], true, true, false, false, 7⟩ rfl rfl
    [.stream (.pollRead ⟨[], 3, by decide⟩), .pollWrite [5, 6]]).mpr (by decide)

/-- A buffer that already holds a byte is read into, and of a reply of two bytes the second
is accepted only when it is sent again. -/
theorem partial_notObserved :
    let stream : ManagedStream (scriptedDuplex 1).toInnerStream :=
      ⟨.tcp, (([], [some (1, [])]), []), [], true, true, false, false, 7⟩
    let traffic := Machine.run Traffic.step (Traffic.new stream)
      [.stream (.pollRead ⟨[9], 2, by decide⟩), .pollWrite [5, 6], .pollWrite [6]]
    traffic.delivered = [1] ∧ traffic.observedFromClient = [9, 1] ∧
      (scriptedDuplex 1).accepted traffic.stream.stream = [5, 6] ∧
      traffic.observedToClient = [5, 6, 6] := by
  decide

end OddBox.TcpProxy

import OddBox.Machine

/-!
`ManagedStream` of `managed_stream.rs`: a byte stream that can be looked at
before it is read. Peeked bytes go to a side buffer, which reads drain first
once the stream is sealed. The wrapped stream is any that keeps the contract of
`AsyncRead`; `PollRead` cannot return more bytes than were asked for.
-/

namespace OddBox.TcpProxy

/-! ## The wrapped stream -/

inductive IoError where
  /-- `Error::new(ErrorKind::Other, message)`. -/
  | other (message : String)
  | os (code : Nat)
  deriving DecidableEq, Repr

/-- The outcome of polling a stream for at most `remaining` bytes. -/
inductive PollRead (remaining : Nat) where
  | pending
  | error (e : IoError)
  | ready (bytes : List UInt8) (fits : bytes.length ≤ remaining)
  deriving Repr

def PollRead.bytes {remaining : Nat} : PollRead remaining → List UInt8
  | .ready bytes _ => bytes
  | _ => []

/-- A stream under the contract of `AsyncRead`. `taken` are the bytes it has
handed out; an empty read of a nonempty request means that it is at its end.
`takeError` is the `SO_ERROR` of the socket at the bottom. -/
structure InnerStream where
  State : Type
  taken : State → List UInt8
  atEof : State → Prop
  takeError : State → Option IoError × State
  pollRead : State → (remaining : Nat) → PollRead remaining × State
  taken_takeError : ∀ s, taken (takeError s).2 = taken s
  taken_pollRead : ∀ s remaining,
    taken (pollRead s remaining).2 = taken s ++ (pollRead s remaining).1.bytes
  ready_nil : ∀ s remaining fits, (pollRead s remaining).1 = .ready [] fits →
    remaining = 0 ∨ atEof s

/-- A stream that follows a script: nonempty chunks, and polls (`none`) that
find nothing yet. It is at its end where the script is. -/
def scripted : InnerStream where
  State := List UInt8 × List (Option (UInt8 × List UInt8))
  taken s := s.1
  atEof s := s.2 = []
  takeError s := (none, s)
  pollRead
    | (taken, []), _ => (.ready [] (Nat.zero_le _), (taken, []))
    | (taken, none :: script), _ => (.pending, (taken, script))
    | (taken, some (byte, bytes) :: script), remaining =>
      let chunk := byte :: bytes
      (.ready (chunk.take remaining) (List.length_take_le _ _),
        taken ++ chunk.take remaining,
        match chunk.drop remaining with
        | [] => script
        | byte :: bytes => some (byte, bytes) :: script)
  taken_takeError _ := rfl
  taken_pollRead := by
    rintro ⟨taken, _ | ⟨_ | ⟨byte, bytes⟩, script⟩⟩ remaining
    · exact (List.append_nil taken).symm
    · exact (List.append_nil taken).symm
    · rfl
  ready_nil := by
    rintro ⟨taken, _ | ⟨_ | ⟨byte, bytes⟩, script⟩⟩ remaining fits h
    · exact Or.inr rfl
    · cases h
    · left
      simp only [PollRead.ready.injEq, List.take_eq_nil_iff, reduceCtorEq, or_false] at h
      exact h

/-! ## The caller's buffer -/

/-- `tokio::io::ReadBuf`: a buffer of fixed capacity that is filled from the front. -/
structure ReadBuf where
  filled : List UInt8
  capacity : Nat
  filled_le : filled.length ≤ capacity

def ReadBuf.remaining (buf : ReadBuf) : Nat := buf.capacity - buf.filled.length

def ReadBuf.putSlice (buf : ReadBuf) (bytes : List UInt8)
    (fits : bytes.length ≤ buf.remaining) : ReadBuf where
  filled := buf.filled ++ bytes
  capacity := buf.capacity
  filled_le := by
    have := buf.filled_le
    simp only [ReadBuf.remaining] at fits
    simp only [List.length_append]
    omega

@[simp] theorem filled_putSlice (buf : ReadBuf) (bytes : List UInt8)
    (fits : bytes.length ≤ buf.remaining) :
    (buf.putSlice bytes fits).filled = buf.filled ++ bytes := rfl

@[simp] theorem remaining_putSlice (buf : ReadBuf) (bytes : List UInt8)
    (fits : bytes.length ≤ buf.remaining) :
    (buf.putSlice bytes fits).remaining = buf.remaining - bytes.length := by
  simp only [ReadBuf.remaining, ReadBuf.putSlice, List.length_append]
  omega

/-- `Poll<Result<(), Error>>`. -/
inductive Poll where
  | pending
  | error (e : IoError)
  | ok
  deriving DecidableEq, Repr

/-- Polls a stream into the caller's buffer. -/
def InnerStream.pollInto (T : InnerStream) (s : T.State) (buf : ReadBuf) :
    Poll × ReadBuf × T.State :=
  match T.pollRead s buf.remaining with
  | (.pending, s) => (.pending, buf, s)
  | (.error e, s) => (.error e, buf, s)
  | (.ready bytes fits, s) => (.ok, buf.putSlice bytes fits, s)

/-! ## The managed stream -/

/-- `TCPEvent::RawBytesFromClientToOddBox`, sent to the global broadcast channel. -/
structure RawBytesFromClientToOddBox where
  connectionKey : Nat
  isHttp2 : Bool
  data : List UInt8
  deriving DecidableEq, Repr

/-- The two streams that are wrapped: a TCP socket, and a TLS session over a
managed one. They differ in how much one peek asks for. -/
inductive StreamKind where
  | tcp
  | terminatedTls
  deriving DecidableEq, Repr

def StreamKind.peekCapacity : StreamKind → Nat
  | .tcp => 4096
  | .terminatedTls => 1024

structure ManagedStream (T : InnerStream) where
  kind : StreamKind
  stream : T.State
  buffer : List UInt8
  isSealed : Bool
  enableInspection : Bool
  isWrapped : Bool
  isHttp2 : Bool
  tcpConnectionId : Nat

variable {T : InnerStream}

def ManagedStream.seal (self : ManagedStream T) : ManagedStream T :=
  { self with isSealed := true }

/-- The `anyhow` errors of `peek_async`. -/
inductive PeekFailure where
  | message (text : String)
  | io (e : IoError)
  deriving DecidableEq, Repr

/-- Reads more from the stream, in a nondestructive manner as the data is
stored in the side buffer. Returns whether the stream is closed, and a copy of
the side buffer. -/
def ManagedStream.peekAsync (self : ManagedStream T) :
    Except PeekFailure (Bool × List UInt8) × ManagedStream T :=
  if self.isSealed then (.error (.message "Stream is sealed"), self)
  else
    match T.takeError self.stream with
    | (some e, s) => (.error (.io e), { self with stream := s })
    | (none, s) =>
      match T.pollRead s self.kind.peekCapacity with
      | (.pending, s) => (.ok (false, self.buffer), { self with stream := s })
      | (.error e, s) => (.error (.io e), { self with stream := s })
      | (.ready bytes _, s) =>
        if bytes.isEmpty then (.ok (true, self.buffer), { self with stream := s })
        else
          let buffer := self.buffer ++ bytes
          (.ok (false, buffer), { self with stream := s, buffer })

/-- What a read returns, leaves in the caller's buffer and broadcasts. -/
structure ReadOutcome (T : InnerStream) where
  result : Poll
  buf : ReadBuf
  stream : ManagedStream T
  broadcast : List RawBytesFromClientToOddBox

/-- The event of a successful read, if the stream is inspected. -/
def ManagedStream.inspect (self : ManagedStream T) (buf : ReadBuf) :
    List RawBytesFromClientToOddBox :=
  if self.enableInspection && !self.isWrapped && !buf.filled.isEmpty then
    [⟨self.tcpConnectionId, self.isHttp2, buf.filled⟩]
  else []

/-- If the stream is sealed and the side buffer is empty, read directly. -/
def ManagedStream.readDirect (self : ManagedStream T) (buf : ReadBuf) : ReadOutcome T :=
  match T.pollInto self.stream buf with
  | (.ok, buf, s) => ⟨.ok, buf, { self with stream := s }, self.inspect buf⟩
  | (result, buf, s) => ⟨result, buf, { self with stream := s }, []⟩

/-- Use any remaining space in the caller's buffer to read from the stream;
once there is data in it, neither a pending stream nor an error is reported. -/
def ManagedStream.readRest (self : ManagedStream T) (buf : ReadBuf) : ReadOutcome T :=
  match T.pollInto self.stream buf with
  | (.ok, buf, s) => ⟨.ok, buf, { self with stream := s }, self.inspect buf⟩
  | (result, buf, s) =>
    if buf.filled.isEmpty then ⟨result, buf, { self with stream := s }, []⟩
    else ⟨.ok, buf, { self with stream := s }, self.inspect buf⟩

def ManagedStream.pollRead (self : ManagedStream T) (buf : ReadBuf) : ReadOutcome T :=
  if !self.isSealed then
    ⟨.error (.other "Stream has not been properly sealed"), buf, self, []⟩
  else if self.buffer.isEmpty then self.readDirect buf
  else
    let toRead := min buf.remaining self.buffer.length
    let buf := buf.putSlice (self.buffer.take toRead) (by
      rw [List.length_take]; exact Nat.le_trans (Nat.min_le_left _ _) (Nat.min_le_left _ _))
    let self := { self with buffer := self.buffer.drop toRead }
    if buf.remaining = 0 then ⟨.ok, buf, self, self.inspect buf⟩
    else self.readRest buf

/-! ## What one operation moves -/

/-- What a poll fetched from the stream and put behind the caller's bytes. -/
structure Fetched (T : InnerStream) (s : T.State) (buf : ReadBuf) (result : Poll)
    (buf' : ReadBuf) (s' : T.State) (fetched : List UInt8) : Prop where
  filled : buf'.filled = buf.filled ++ fetched
  taken : T.taken s' = T.taken s ++ fetched
  quiet : result ≠ .ok → fetched = []
  empty : result = .ok → fetched = [] → buf.remaining = 0 ∨ T.atEof s

theorem pollInto_fetched (s : T.State) (buf : ReadBuf) :
    ∃ fetched, Fetched T s buf (T.pollInto s buf).1 (T.pollInto s buf).2.1
      (T.pollInto s buf).2.2 fetched := by
  have htaken := T.taken_pollRead s buf.remaining
  have hnil := T.ready_nil s buf.remaining
  simp only [InnerStream.pollInto]
  cases hpoll : T.pollRead s buf.remaining with
  | mk outcome s' =>
    rw [hpoll] at htaken hnil
    cases outcome with
    | pending => exact ⟨[], by simp, htaken, fun _ => rfl, fun h => by cases h⟩
    | error e => exact ⟨[], by simp, htaken, fun _ => rfl, fun h => by cases h⟩
    | ready bytes fits =>
      refine ⟨bytes, by simp, htaken, fun h => absurd rfl h, ?_⟩
      intro _ hbytes
      subst hbytes
      exact hnil fits rfl

/-- A read moves bytes from the front of the side buffer and the stream behind
it to the caller: `new` go to the caller, `fetched` come from the stream. -/
structure Moves (before : ManagedStream T) (buf : ReadBuf) (out : ReadOutcome T)
    (new fetched : List UInt8) : Prop where
  filled : out.buf.filled = buf.filled ++ new
  taken : T.taken out.stream.stream = T.taken before.stream ++ fetched
  order : before.buffer ++ fetched = new ++ out.stream.buffer
  quiet : out.result ≠ .ok → new = []
  empty : out.result = .ok → new = [] → buf.remaining = 0 ∨ T.atEof before.stream

theorem readDirect_moves (self : ManagedStream T) (buf : ReadBuf) (hbuffer : self.buffer = []) :
    ∃ new fetched, Moves self buf (self.readDirect buf) new fetched := by
  obtain ⟨fetched, h⟩ := pollInto_fetched self.stream buf
  refine ⟨fetched, fetched, ?_⟩
  simp only [ManagedStream.readDirect]
  split
  · rename_i buf' s' hpoll
    rw [hpoll] at h
    exact ⟨h.filled, h.taken, by simp [hbuffer], fun hne => absurd rfl hne, h.empty⟩
  · rename_i result buf' s' hresult hpoll
    rw [hpoll] at h
    exact ⟨h.filled, h.taken, by simp [hbuffer], h.quiet, h.empty⟩

/-- Reading on after something has been drained reports success. -/
theorem readRest_moves (self : ManagedStream T) (buf : ReadBuf) (hbuffer : self.buffer = [])
    (hfilled : buf.filled ≠ []) :
    ∃ fetched, (self.readRest buf).result = .ok ∧
      (self.readRest buf).buf.filled = buf.filled ++ fetched ∧
      T.taken (self.readRest buf).stream.stream = T.taken self.stream ++ fetched ∧
      (self.readRest buf).stream.buffer = [] := by
  obtain ⟨fetched, h⟩ := pollInto_fetched self.stream buf
  refine ⟨fetched, ?_⟩
  simp only [ManagedStream.readRest]
  split
  · rename_i buf' s' hpoll
    rw [hpoll] at h
    exact ⟨rfl, h.filled, h.taken, hbuffer⟩
  · rename_i result buf' s' hresult hpoll
    rw [hpoll] at h
    have hne : buf'.filled.isEmpty = false := by
      have hfill := h.filled
      simp only at hfill
      rw [hfill]
      cases hb : buf.filled with
      | nil => exact absurd hb hfilled
      | cons byte bytes => rfl
    simp only [hne, Bool.false_eq_true, if_false]
    exact ⟨trivial, h.filled, h.taken, hbuffer⟩

/-- **One read** takes from the side buffer first and then from the stream,
and what it does not report it does not touch. -/
theorem pollRead_moves (self : ManagedStream T) (buf : ReadBuf) :
    ∃ new fetched, Moves self buf (self.pollRead buf) new fetched := by
  simp only [ManagedStream.pollRead]
  split
  · exact ⟨[], [], by simp, by simp, by simp, fun _ => rfl, fun h => by cases h⟩
  · split
    · rename_i hempty
      exact readDirect_moves self buf (List.isEmpty_iff.mp hempty)
    · rename_i hbuffer
      have hsome : 0 < self.buffer.length := by
        rw [List.length_pos_iff]
        intro h
        rw [h] at hbuffer
        exact hbuffer rfl
      have hlen : (self.buffer.take (min buf.remaining self.buffer.length)).length =
          min buf.remaining self.buffer.length := by
        rw [List.length_take]
        omega
      split
      · refine ⟨self.buffer.take (min buf.remaining self.buffer.length), [], by simp, by simp,
          by simp, fun h => absurd rfl h, ?_⟩
        intro _ hnew
        left
        rw [hnew, List.length_nil] at hlen
        omega
      · rename_i hroom
        rw [remaining_putSlice, hlen] at hroom
        -- there is room left, so the side buffer is drained completely
        have hdrained : self.buffer.length ≤ min buf.remaining self.buffer.length := by omega
        have htake : self.buffer.take (min buf.remaining self.buffer.length) = self.buffer :=
          List.take_of_length_le hdrained
        have hnew : self.buffer.take (min buf.remaining self.buffer.length) ≠ [] := by
          rw [htake]
          exact List.ne_nil_of_length_pos hsome
        obtain ⟨fetched, hresult, hfilled, htaken, hrest⟩ := readRest_moves
          { self with buffer := self.buffer.drop (min buf.remaining self.buffer.length) }
          (buf.putSlice (self.buffer.take (min buf.remaining self.buffer.length)) (by
            rw [List.length_take]
            exact Nat.le_trans (Nat.min_le_left _ _) (Nat.min_le_left _ _)))
          (List.drop_eq_nil_of_le hdrained)
          (by
            rw [filled_putSlice]
            intro h
            exact hnew (List.append_eq_nil_iff.mp h).2)
        refine ⟨self.buffer ++ fetched, fetched, ?_, htaken, ?_, ?_, ?_⟩
        · rw [hfilled, filled_putSlice, htake, List.append_assoc]
        · rw [hrest, List.append_nil]
        · intro h
          exact absurd hresult h
        · intro _ h
          have hnil := (List.append_eq_nil_iff.mp h).1
          rw [hnil] at hsome
          cases hsome

/-- **One peek** moves bytes from the stream to the end of the side buffer and
returns the side buffer. -/
theorem peekAsync_moves (self : ManagedStream T) :
    ∃ fetched, T.taken self.peekAsync.2.stream = T.taken self.stream ++ fetched ∧
      self.peekAsync.2.buffer = self.buffer ++ fetched ∧
      ∀ closed data, self.peekAsync.1 = .ok (closed, data) → data = self.peekAsync.2.buffer := by
  have herror := T.taken_takeError self.stream
  simp only [ManagedStream.peekAsync]
  split
  · exact ⟨[], by simp, by simp, fun _ _ h => by cases h⟩
  · cases htake : T.takeError self.stream with
    | mk e s =>
      rw [htake] at herror
      simp only at herror
      cases e with
      | some e => exact ⟨[], by simp [herror], by simp, fun _ _ h => by cases h⟩
      | none =>
        have htaken := T.taken_pollRead s self.kind.peekCapacity
        rw [herror] at htaken
        simp only
        cases hpoll : T.pollRead s self.kind.peekCapacity with
        | mk outcome s' =>
          rw [hpoll] at htaken
          simp only at htaken
          cases outcome with
          | pending =>
            refine ⟨[], htaken, by simp, ?_⟩
            intro _ _ h
            cases h
            rfl
          | error e => exact ⟨[], htaken, by simp, fun _ _ h => by cases h⟩
          | ready bytes fits =>
            simp only [PollRead.bytes] at htaken
            cases hempty : bytes.isEmpty with
            | true =>
              -- the end of the stream: nothing to keep
              rw [List.isEmpty_iff.mp hempty] at htaken
              simp only [hempty, if_true]
              refine ⟨[], htaken, by simp, ?_⟩
              intro _ _ h
              cases h
              rfl
            | false =>
              simp only [hempty, Bool.false_eq_true, if_false]
              refine ⟨bytes, htaken, rfl, ?_⟩
              intro _ _ h
              cases h
              rfl

/-! ## Runs -/

inductive StreamOp where
  | peekAsync
  | sealed
  | pollRead (buf : ReadBuf)

/-- A managed stream and the bytes its successful reads have delivered. -/
structure Session (T : InnerStream) where
  stream : ManagedStream T
  delivered : List UInt8

def Session.step (session : Session T) : StreamOp → Session T
  | .peekAsync => { session with stream := session.stream.peekAsync.2 }
  | .sealed => { session with stream := session.stream.seal }
  | .pollRead buf =>
    let out := session.stream.pollRead buf
    { stream := out.stream
      delivered := session.delivered ++
        if out.result = .ok then out.buf.filled.drop buf.filled.length else [] }

/-- Wrapping a stream: the side buffer is empty and nothing is delivered. -/
def Session.new (kind : StreamKind) (stream : T.State)
    (isSealed enableInspection isWrapped isHttp2 : Bool) (tcpConnectionId : Nat) : Session T where
  stream := ⟨kind, stream, [], isSealed, enableInspection, isWrapped, isHttp2, tcpConnectionId⟩
  delivered := []

/-- Nothing is lost, duplicated or reordered since `start` was taken. -/
def Session.Transparent (start : List UInt8) (session : Session T) : Prop :=
  start ++ session.delivered ++ session.stream.buffer = T.taken session.stream.stream

theorem Session.Transparent.step {start : List UInt8} {session : Session T} (op : StreamOp)
    (h : session.Transparent start) : (session.step op).Transparent start := by
  cases op with
  | peekAsync =>
    obtain ⟨fetched, htaken, hbuffer, -⟩ := peekAsync_moves session.stream
    simp only [Session.Transparent, Session.step, hbuffer, htaken, ← List.append_assoc]
    rw [h]
  | sealed => exact h
  | pollRead buf =>
    obtain ⟨new, fetched, hmoves⟩ := pollRead_moves session.stream buf
    have hnew : (if (session.stream.pollRead buf).result = .ok then
        (session.stream.pollRead buf).buf.filled.drop buf.filled.length else []) = new := by
      split
      · rw [hmoves.filled, List.drop_left]
      · rename_i hresult
        exact (hmoves.quiet hresult).symm
    simp only [Session.Transparent, Session.step, hnew]
    rw [List.append_assoc, List.append_assoc, ← hmoves.order, hmoves.taken, ← h]
    simp only [List.append_assoc]

/-- **Peeking is transparent**: after every sequence of peeks, seals and reads
with buffers of any size, what has been delivered followed by the side buffer is
what has been taken from the stream since it was wrapped; a read before the seal
fails and changes nothing; a peek returns the side buffer it leaves; and a read
succeeds with no new byte only at the end of the stream or into a full buffer. -/
theorem peek_transparent (T : InnerStream) (kind : StreamKind) (stream : T.State)
    (isSealed enableInspection isWrapped isHttp2 : Bool) (tcpConnectionId : Nat)
    (ops : List StreamOp) :
    let session := Machine.run Session.step
      (Session.new kind stream isSealed enableInspection isWrapped isHttp2 tcpConnectionId) ops
    T.taken stream ++ session.delivered ++ session.stream.buffer =
        T.taken session.stream.stream ∧
      (session.stream.isSealed = false → ∀ buf, session.stream.pollRead buf =
        ⟨.error (.other "Stream has not been properly sealed"), buf, session.stream, []⟩) ∧
      (∀ closed data, session.stream.peekAsync.1 = .ok (closed, data) →
        data = session.stream.peekAsync.2.buffer) ∧
      ∀ buf, (session.stream.pollRead buf).result = .ok →
        buf.filled <+: (session.stream.pollRead buf).buf.filled ∧
        ((session.stream.pollRead buf).buf.filled = buf.filled →
          buf.remaining = 0 ∨ T.atEof session.stream.stream) := by
  intro session
  have hstart : (Session.new kind stream isSealed enableInspection isWrapped isHttp2
      tcpConnectionId : Session T).Transparent (T.taken stream) := by
    simp [Session.Transparent, Session.new]
  refine
    ⟨Machine.run_invariant (fun s op h => Session.Transparent.step op h) hstart ops, ?_, ?_, ?_⟩
  · intro hsealed buf
    simp [ManagedStream.pollRead, hsealed]
  · obtain ⟨fetched, -, -, hdata⟩ := peekAsync_moves session.stream
    exact hdata
  · intro buf hok
    obtain ⟨new, fetched, hmoves⟩ := pollRead_moves session.stream buf
    refine ⟨⟨new, hmoves.filled.symm⟩, ?_⟩
    intro hsame
    apply hmoves.empty hok
    rw [hmoves.filled] at hsame
    exact List.append_right_eq_self.mp hsame

/-- Two peeks and two reads of five bytes that come in two chunks. -/
example :
    let session := Machine.run Session.step
      (Session.new .tcp ([], [some (1, [2, 3]), none, some (4, [5])])
        false false false false 7 : Session scripted)
      [.peekAsync, .peekAsync, .sealed, .pollRead ⟨[], 2, by decide⟩,
        .pollRead ⟨[9], 4, by decide⟩]
    session.delivered = [1, 2, 3, 4, 5] ∧ session.stream.buffer = [] := by
  decide

end OddBox.TcpProxy

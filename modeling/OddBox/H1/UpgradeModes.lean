import OddBox.H1.Chunking

/-!
Which bytes the observer reads as websocket frames, against the protocol: the frames of a
direction begin behind the 101 response that answers an upgrade request and end with that
direction's close frame.
-/

namespace OddBox.H1

open OddBox.Incremental

/-! ## The protocol -/

/-- A response that leaves its request without an answer. -/
def ParsedResponse.isInterim (resp : ParsedResponse) : Bool :=
  decide (100 ≤ resp.statusCode) && decide (resp.statusCode < 200) && resp.statusCode != 101

/-- The requests that wait after a response, the upgrade requests marked. -/
def answer (outstanding : List Bool) (resp : ParsedResponse) : List Bool :=
  if resp.isInterim then outstanding else outstanding.tail

/-- Whether the response accepts the upgrade that the first waiting request asks for. -/
def accepts (outstanding : List Bool) (resp : ParsedResponse) : Bool :=
  resp.isUpgrade && outstanding.head? == some true

structure Protocol where
  outstanding : List Bool
  clientOpen : Bool
  serverOpen : Bool
  /-- Everything so far was read as what it is. -/
  legal : Bool
  deriving DecidableEq, Repr

def Protocol.start : Protocol := ⟨[], false, false, true⟩

/-- What follows from a message or frame that was read. -/
def Protocol.read (protocol : Protocol) : HttpData → Protocol
  | .request req => { protocol with
      outstanding := protocol.outstanding ++ [req.isUpgrade]
      legal := protocol.legal && !protocol.clientOpen }
  | .response resp =>
    let opened := accepts protocol.outstanding resp
    { outstanding := answer protocol.outstanding resp
      clientOpen := protocol.clientOpen || opened
      serverOpen := protocol.serverOpen || opened
      legal := protocol.legal && !protocol.serverOpen }
  | .webSocketSend frame => { protocol with
      clientOpen := protocol.clientOpen && !frame.isClose
      legal := protocol.legal && protocol.clientOpen }
  | .webSocketReceive frame => { protocol with
      serverOpen := protocol.serverOpen && !frame.isClose
      legal := protocol.legal && protocol.serverOpen }
  | .webSocketOpened => protocol
  | .webSocketClosed => protocol
  | .protocolSwitchedToWebSocket => protocol

/-! ## The observer against the protocol -/

structure Watched where
  observer : H1Observer
  protocol : Protocol
  /-- The client had bytes in the buffer when it was opened: they are read as frames. -/
  early : Bool
  deriving DecidableEq, Repr

def Watched.start : Watched := ⟨.default, .start, false⟩

section Watch

variable (httparse : Httparse)

def Watched.step (watched : Watched) (push : DataDirection × List UInt8) : Watched :=
  let ((sent, received), observer) := (watched.observer.push push.1 push.2).parse httparse
  let protocol := (sent ++ received).foldl Protocol.read watched.protocol
  let opened := protocol.clientOpen && !watched.protocol.clientOpen
  { observer, protocol, early := watched.early || (opened && observer.clientToServer != []) }

def watch (pushes : List (DataDirection × List UInt8)) : Watched :=
  Machine.run (Watched.step httparse) .start pushes

end Watch

/-- Frames were read where the protocol has frames, and the next bytes of each direction will
be; requests are held back only for the answer to an upgrade request. -/
structure Watched.Faithful (watched : Watched) : Prop where
  legal : watched.protocol.legal = true
  early : watched.early = false
  client : watched.observer.state = .webSocket ↔ watched.protocol.clientOpen = true
  server : watched.observer.state = .webSocket ↔ watched.protocol.serverOpen = true
  held : watched.observer.state = .upgradeRequested → true ∈ watched.protocol.outstanding

/-! ## Reading several units -/

/-- Whether one of the responses accepts an upgrade. -/
def opens : List Bool → List ParsedResponse → Bool
  | _, [] => false
  | outstanding, resp :: rest => accepts outstanding resp || opens (answer outstanding resp) rest

/-- Whether the last one does, and none before it. -/
def opensAtEnd : List Bool → List ParsedResponse → Bool
  | _, [] => false
  | outstanding, resp :: rest =>
    if accepts outstanding resp then rest.isEmpty else opensAtEnd (answer outstanding resp) rest

/-- Whether no frame comes behind a close frame, and none where the direction is not open. -/
def framesLegal (isOpen : Bool) (frames : List WebSocketFrame) : Bool :=
  frames.isEmpty || (isOpen && !frames.dropLast.any WebSocketFrame.isClose)

theorem framesLegal_cons (isOpen : Bool) (frame : WebSocketFrame) (frames : List WebSocketFrame) :
    framesLegal isOpen (frame :: frames) =
      (isOpen && framesLegal (isOpen && !frame.isClose) frames) := by
  cases frames with
  | nil => simp [framesLegal]
  | cons next frames =>
    rw [framesLegal, framesLegal, List.dropLast_cons_of_ne_nil (List.cons_ne_nil _ _),
      List.any_cons]
    cases isOpen <;> simp

theorem read_requests (protocol : Protocol) (hclosed : protocol.clientOpen = false)
    (reqs : List ParsedRequest) :
    (reqs.flatMap requestEvents).foldl Protocol.read protocol =
      { protocol with
        outstanding := protocol.outstanding ++ reqs.map ParsedRequest.isUpgrade } := by
  induction reqs generalizing protocol with
  | nil => simp
  | cons req reqs ih =>
    have hone : (requestEvents req).foldl Protocol.read protocol =
        { protocol with outstanding := protocol.outstanding ++ [req.isUpgrade] } := by
      unfold requestEvents
      split
      · simp [Protocol.read, hclosed]
      · simp [Protocol.read, hclosed]
    rw [List.flatMap_cons, List.foldl_append, hone, ih]
    · simp only [List.map_cons, List.append_assoc, List.singleton_append]
    · exact hclosed

theorem read_sent (protocol : Protocol) (sent : List WebSocketFrame) :
    (sent.flatMap sendEvents).foldl Protocol.read protocol =
      { protocol with
        clientOpen := protocol.clientOpen && !sent.any WebSocketFrame.isClose
        legal := protocol.legal && framesLegal protocol.clientOpen sent } := by
  induction sent generalizing protocol with
  | nil => simp [framesLegal]
  | cons frame sent ih =>
    have hone : (sendEvents frame).foldl Protocol.read protocol =
        { protocol with
          clientOpen := protocol.clientOpen && !frame.isClose
          legal := protocol.legal && protocol.clientOpen } := by
      unfold sendEvents
      split
      · rfl
      · rfl
    rw [List.flatMap_cons, List.foldl_append, hone, ih, framesLegal_cons]
    simp only [List.any_cons, Bool.not_or, Bool.and_assoc]

theorem read_received (protocol : Protocol) (received : List WebSocketFrame) :
    (received.flatMap receiveEvents).foldl Protocol.read protocol =
      { protocol with
        serverOpen := protocol.serverOpen && !received.any WebSocketFrame.isClose
        legal := protocol.legal && framesLegal protocol.serverOpen received } := by
  induction received generalizing protocol with
  | nil => simp [framesLegal]
  | cons frame received ih =>
    have hone : (receiveEvents frame).foldl Protocol.read protocol =
        { protocol with
          serverOpen := protocol.serverOpen && !frame.isClose
          legal := protocol.legal && protocol.serverOpen } := by
      unfold receiveEvents
      split
      · rfl
      · rfl
    rw [List.flatMap_cons, List.foldl_append, hone, ih, framesLegal_cons]
    simp only [List.any_cons, Bool.not_or, Bool.and_assoc]

theorem read_response (protocol : Protocol) (resp : ParsedResponse) :
    (responseEvents resp).foldl Protocol.read protocol = protocol.read (.response resp) := by
  unfold responseEvents
  split
  · rfl
  · rfl

/-- Behind the opening every response is one too many. -/
theorem read_responses_open {protocol : Protocol} (hclient : protocol.clientOpen = true)
    (hserver : protocol.serverOpen = true) (resps : List ParsedResponse) :
    (resps.flatMap responseEvents).foldl Protocol.read protocol =
      { protocol with
        outstanding := resps.foldl answer protocol.outstanding
        legal := protocol.legal && resps.isEmpty } := by
  induction resps generalizing protocol with
  | nil => simp
  | cons resp resps ih =>
    rw [List.flatMap_cons, List.foldl_append, read_response, ih]
    · simp [Protocol.read, hclient, hserver]
    · simp [Protocol.read, hclient]
    · simp [Protocol.read, hserver]

theorem read_responses {protocol : Protocol} (hclient : protocol.clientOpen = false)
    (hserver : protocol.serverOpen = false) (resps : List ParsedResponse) :
    (resps.flatMap responseEvents).foldl Protocol.read protocol =
      { outstanding := resps.foldl answer protocol.outstanding
        clientOpen := opens protocol.outstanding resps
        serverOpen := opens protocol.outstanding resps
        legal := protocol.legal &&
          (!opens protocol.outstanding resps || opensAtEnd protocol.outstanding resps) } := by
  induction resps generalizing protocol with
  | nil =>
    obtain ⟨outstanding, clientOpen, serverOpen, legal⟩ := protocol
    cases hclient
    cases hserver
    simp [opens]
  | cons resp resps ih =>
    rw [List.flatMap_cons, List.foldl_append, read_response]
    cases haccepts : accepts protocol.outstanding resp with
    | true =>
      rw [read_responses_open]
      · simp [Protocol.read, hserver, opens, opensAtEnd, haccepts]
      · simp [Protocol.read, haccepts]
      · simp [Protocol.read, haccepts]
    | false =>
      rw [ih]
      · simp [Protocol.read, hserver, opens, opensAtEnd, haccepts]
      · simp [Protocol.read, hclient, haccepts]
      · simp [Protocol.read, hserver, haccepts]

theorem opens_of_opensAtEnd {outstanding : List Bool} {resps : List ParsedResponse}
    (h : opensAtEnd outstanding resps = true) : opens outstanding resps = true := by
  induction resps generalizing outstanding with
  | nil => cases h
  | cons resp resps ih =>
    rw [opensAtEnd] at h
    rw [opens]
    cases haccepts : accepts outstanding resp with
    | true => rfl
    | false =>
      rw [haccepts, if_neg Bool.false_ne_true] at h
      rw [ih h, Bool.or_true]

theorem isUpgrade_of_opens {outstanding : List Bool} {resps : List ParsedResponse}
    (h : opens outstanding resps = true) : resps.any ParsedResponse.isUpgrade = true := by
  induction resps generalizing outstanding with
  | nil => cases h
  | cons resp resps ih =>
    rw [opens, Bool.or_eq_true] at h
    rw [List.any_cons, Bool.or_eq_true]
    rcases h with haccepts | hrest
    · exact Or.inl (Bool.and_eq_true_iff.mp haccepts).1
    · exact Or.inr (ih hrest)

/-! ## One push -/

section Steps

variable (httparse : Httparse)

/-- What the call of `parse` reads from the server does not leave the protocol: an accepting
101 is the last response read, it answers an upgrade request, and no bytes of the client are
left in front of it; otherwise an upgrade request that is waited for is still without an
answer. -/
structure AnsweredWell (asked : List Bool) (waits : Bool) (resps : List ParsedResponse)
    (left : List UInt8) : Prop where
  accepted : resps.any ParsedResponse.isUpgrade = true →
    opensAtEnd asked resps = true ∧ left = []
  waiting : waits = true → resps.any ParsedResponse.isUpgrade = false →
    true ∈ resps.foldl answer asked

/-- The close frames read come from both sides or from none, each as the last of its side. -/
structure ClosedWell (sent received : List WebSocketFrame) : Prop where
  both : sent.any WebSocketFrame.isClose = received.any WebSocketFrame.isClose
  sent : sent.dropLast.any WebSocketFrame.isClose = false
  received : received.dropLast.any WebSocketFrame.isClose = false

/-- The condition on a push and the state before it. -/
def Proper (watched : Watched) (push : DataDirection × List UInt8) : Prop :=
  let observer := watched.observer.push push.1 push.2
  let outstanding := watched.protocol.outstanding
  match observer.state with
  | .http =>
    let (reqs, left) := (requests httparse).decodeAll observer.clientToServer
    AnsweredWell (outstanding ++ reqs.map ParsedRequest.isUpgrade)
      (reqs.any ParsedRequest.isUpgrade)
      ((responses httparse).decodeAll observer.serverToClient).1 left
  | .upgradeRequested =>
    AnsweredWell outstanding true ((responses httparse).decodeAll observer.serverToClient).1
      observer.clientToServer
  | .webSocket =>
    ClosedWell (frames.decodeAll observer.clientToServer).1
      (frames.decodeAll observer.serverToClient).1

variable {httparse}

theorem push_state (observer : H1Observer) (push : DataDirection × List UInt8) :
    (observer.push push.1 push.2).state = observer.state := by
  obtain ⟨direction, data⟩ := push
  cases direction <;> rfl

/-- The state after responses were read, where both directions were closed before. -/
theorem answered_iff {outstanding : List Bool} {resps : List ParsedResponse} {waits : Bool}
    {left server : List UInt8} {state : ConnectionState}
    (hstate : state = if resps.any ParsedResponse.isUpgrade then .webSocket
      else if waits then .upgradeRequested else .http) :
    Watched.Faithful
      { observer := ⟨left, server, state⟩
        protocol := {
          outstanding := resps.foldl answer outstanding
          clientOpen := opens outstanding resps
          serverOpen := opens outstanding resps
          legal := !opens outstanding resps || opensAtEnd outstanding resps }
        early := opens outstanding resps && left != [] } ↔
      AnsweredWell outstanding waits resps left := by
  subst hstate
  cases hany : resps.any ParsedResponse.isUpgrade with
  | true =>
    constructor
    · intro h
      have hopens : opens outstanding resps = true := h.client.mp rfl
      have hlegal := h.legal
      have hearly := h.early
      rw [hopens, Bool.not_true, Bool.false_or] at hlegal
      rw [hopens, Bool.true_and, bne_eq_false_iff_eq] at hearly
      refine ⟨fun _ => ⟨hlegal, hearly⟩, fun _ hnone => ?_⟩
      rw [hany] at hnone
      cases hnone
    · intro h
      obtain ⟨hend, hleft⟩ := h.accepted hany
      have hopens := opens_of_opensAtEnd hend
      subst hleft
      refine ⟨?_, ?_, ?_, ?_, ?_⟩
      · simp only [hopens, hend, Bool.or_true]
      · simp
      · exact iff_of_true rfl hopens
      · exact iff_of_true rfl hopens
      · intro hstate
        cases hstate
  | false =>
    have hopens : opens outstanding resps = false := by
      rw [Bool.eq_false_iff]
      intro h
      rw [isUpgrade_of_opens h] at hany
      cases hany
    have hnot : (if waits then ConnectionState.upgradeRequested else .http) ≠ .webSocket := by
      cases waits with
      | true => decide
      | false => decide
    constructor
    · intro h
      refine ⟨fun hsome => ?_, fun hwaits _ => ?_⟩
      · rw [hany] at hsome
        cases hsome
      · apply h.held
        simp only [Bool.false_eq_true, if_false, hwaits, if_true]
    · intro h
      refine ⟨?_, ?_, ?_, ?_, ?_⟩
      · simp only [hopens, Bool.not_false, Bool.true_or]
      · simp only [hopens, Bool.false_and]
      · simp only [hopens, Bool.false_eq_true, if_false, iff_false]
        exact hnot
      · simp only [hopens, Bool.false_eq_true, if_false, iff_false]
        exact hnot
      · intro hstate
        cases hwaits : waits with
        | true => exact h.waiting hwaits hany
        | false =>
          simp only [hwaits, Bool.false_eq_true, if_false] at hstate
          cases hstate

theorem framesLegal_open (frames : List WebSocketFrame) :
    framesLegal true frames = !frames.dropLast.any WebSocketFrame.isClose := by
  cases frames with
  | nil => rfl
  | cons frame frames => simp [framesLegal]

theorem closed_iff {outstanding : List Bool} {sent received : List WebSocketFrame}
    {client server : List UInt8} :
    Watched.Faithful
      { observer := ⟨client, server, if received.any WebSocketFrame.isClose then .http
          else if sent.any WebSocketFrame.isClose then .http else .webSocket⟩
        protocol := {
          outstanding
          clientOpen := !sent.any WebSocketFrame.isClose
          serverOpen := !received.any WebSocketFrame.isClose
          legal := framesLegal true sent && framesLegal true received }
        early := false } ↔
      ClosedWell sent received := by
  rw [framesLegal_open, framesLegal_open]
  constructor
  · intro h
    obtain ⟨hsent, hreceived⟩ := Bool.and_eq_true_iff.mp h.legal
    refine ⟨?_, (Bool.not_eq_true' _).mp hsent, (Bool.not_eq_true' _).mp hreceived⟩
    have hsame := h.client.symm.trans h.server
    simp only [Bool.not_eq_true'] at hsame
    rw [Bool.eq_iff_iff, ← not_iff_not, Bool.not_eq_true, Bool.not_eq_true]
    exact hsame
  · intro h
    rw [h.both]
    refine ⟨?_, rfl, ?_, ?_, ?_⟩
    · simp only [h.sent, h.received, Bool.not_false, Bool.and_true]
    · cases received.any WebSocketFrame.isClose <;> simp
    · cases received.any WebSocketFrame.isClose <;> simp
    · intro hstate
      cases hclose : received.any WebSocketFrame.isClose with
      | true =>
        simp only [hclose, if_true] at hstate
        cases hstate
      | false =>
        simp only [hclose, Bool.false_eq_true, if_false] at hstate
        cases hstate

/-- One push keeps to the protocol exactly under the condition. -/
theorem faithful_step_iff {watched : Watched} (h : watched.Faithful)
    (push : DataDirection × List UInt8) :
    (watched.step httparse push).Faithful ↔ Proper httparse watched push := by
  obtain ⟨observer, ⟨outstanding, clientOpen, serverOpen, legal⟩, early⟩ := watched
  obtain ⟨hlegal, hearly, hclient, hserver, hheld⟩ := h
  simp only at hlegal hearly hclient hserver hheld
  subst hlegal hearly
  have hstate := push_state observer push
  simp only [Proper, Watched.step]
  generalize observer.push push.1 push.2 = pushed at hstate ⊢
  obtain ⟨client, server, state⟩ := pushed
  simp only at hstate
  rw [← hstate] at hclient hserver
  cases state with
  | http =>
    have hclient : clientOpen = false := by simpa using hclient
    have hserver : serverOpen = false := by simpa using hserver
    subst hclient hserver
    simp only [H1Observer.parse, H1Observer.readRequests, H1Observer.readResponses,
      List.foldl_append]
    rw [read_requests _ rfl, read_responses rfl rfl]
    simp only [Bool.true_and, Bool.not_false, Bool.and_true, Bool.false_or]
    exact answered_iff rfl
  | upgradeRequested =>
    have hclient : clientOpen = false := by simpa using hclient
    have hserver : serverOpen = false := by simpa using hserver
    subst hclient hserver
    simp only [H1Observer.parse, H1Observer.readResponses, List.nil_append]
    rw [read_responses rfl rfl]
    simp only [Bool.true_and, Bool.not_false, Bool.and_true, Bool.false_or]
    exact answered_iff rfl
  | webSocket =>
    have hclient : clientOpen = true := hclient.mp rfl
    have hserver : serverOpen = true := hserver.mp rfl
    subst hclient hserver
    simp only [H1Observer.parse, H1Observer.readSent, H1Observer.readReceived,
      List.foldl_append]
    rw [read_sent, read_received]
    simp only [Bool.true_and, Bool.not_true, Bool.and_false, Bool.false_and, Bool.false_or]
    exact closed_iff

/-- For all pushes in both directions: the observer keeps to the protocol in every state of the
run if and only if every push meets the condition. -/
theorem upgrade_modes_iff (httparse : Httparse) (pushes : List (DataDirection × List UInt8)) :
    (∀ first, first <+: pushes → (watch httparse first).Faithful) ↔
      Machine.Meets (Watched.step httparse) (Proper httparse) .start pushes := by
  apply Machine.meets_iff (J := fun _ => True)
  · exact fun _ _ _ => trivial
  · exact fun _ push _ h => faithful_step_iff h push
  · trivial
  · refine ⟨rfl, rfl, ?_, ?_, ?_⟩
    · exact iff_of_false (by decide) (by decide)
    · exact iff_of_false (by decide) (by decide)
    · intro h
      cases h

end Steps

/-! ## A refusal -/

def refusalHeads : Httparse where
  request := greetingHeads.request
  response := oneHead (asciiBytes "HTTP/1.1 403 Forbidden\r\n\r\n")
    ⟨some 1, some 403, some "Forbidden", []⟩ (by decide +kernel)

def askRefused : RequestMessage refusalHeads where
  text := askUpgrade.text
  head := askUpgrade.head
  body := []
  isHead := ⟨rfl, rfl⟩
  announced := by decide +kernel

def refuseUpgrade : ResponseMessage refusalHeads where
  text := asciiBytes "HTTP/1.1 403 Forbidden\r\n\r\n"
  head := ⟨some 1, some 403, some "Forbidden", []⟩
  body := []
  isHead := ⟨rfl, rfl⟩
  announced := by decide +kernel

theorem watch_askRefused :
    watch refusalHeads [(.clientToServer, askRefused.bytes)] =
      ⟨⟨[], [], .upgradeRequested⟩, ⟨[true], false, false, true⟩, false⟩ := by
  have hrequests : (requests refusalHeads).decodeAll askRefused.bytes =
      ([askRefused.request], []) := by
    simpa using decode_requests [askRefused]
  have hresponses : (responses refusalHeads).decodeAll [] = ([], []) := FrontParser.decodeAll_nil _
  have hasked : askRefused.request.isUpgrade = true := by decide +kernel
  simp only [watch, Machine.run_cons, Machine.run_nil, Watched.step, Watched.start,
    H1Observer.default, Protocol.start, H1Observer.push, List.nil_append, H1Observer.parse,
    H1Observer.readRequests, H1Observer.readResponses, hrequests, hresponses, List.foldl_append]
  rw [read_requests _ rfl, read_responses rfl rfl]
  simp [hasked, opens]

/-- After the refusal no request is read any more. -/
theorem refusal_notFaithful : ¬ ∀ (httparse : Httparse) pushes first, first <+: pushes →
    (watch httparse first).Faithful := by
  intro h
  let asked : DataDirection × List UInt8 := (.clientToServer, askRefused.bytes)
  let refused : DataDirection × List UInt8 := (.serverToClient, refuseUpgrade.bytes)
  have hfirst := h refusalHeads [asked, refused] [asked] ⟨[refused], rfl⟩
  have hsecond : ((watch refusalHeads [asked]).step refusalHeads refused).Faithful :=
    h refusalHeads [asked, refused] [asked, refused] List.prefix_rfl
  have hresponses : (responses refusalHeads).decodeAll refuseUpgrade.bytes =
      ([refuseUpgrade.response], []) := by
    simpa using decode_responses [refuseUpgrade]
  have hproper := (faithful_step_iff hfirst refused).mp hsecond
  rw [watch_askRefused] at hproper
  simp only [Proper, H1Observer.push, refused, List.nil_append, hresponses] at hproper
  have hwaiting := hproper.waiting rfl (by decide +kernel)
  exact absurd hwaiting (by decide +kernel)

end OddBox.H1

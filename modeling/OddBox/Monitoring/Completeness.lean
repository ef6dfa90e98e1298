import OddBox.H1.Chunking
import OddBox.Monitoring.Memory

/-!
Whether the station records all that is decoded of a connection. The parsers of the connection
are run on the same bytes beside the station, and their events are what it should have recorded.
-/

namespace OddBox.Monitoring

open OddBox.H1 (DataDirection H1Observer HttpData ParsedRequest ParsedResponse WebSocketFrame
  receiveEvents requestEvents requests responseEvents responses sendEvents)
open OddBox.H2 (H2FrameDirection H2Observer)

/-! ## The parsers of a connection -/

/-- Bytes of the connection, as the station is told of them. -/
structure RawBytes where
  now : Nat
  fromClient : Bool
  isHttp2 : Bool
  data : List UInt8

def RawBytes.event (self : RawBytes) (key : ConnectionKey) : TCPEvent :=
  if self.fromClient then .rawBytesFromClientToOddBox key self.isHttp2 self.data
  else .rawBytesFromOddBoxToClient key self.isHttp2 self.data

def RawBytes.direction (self : RawBytes) : DataDirection :=
  if self.fromClient then .clientToServer else .serverToClient

def RawBytes.frameDirection (self : RawBytes) : H2FrameDirection :=
  if self.fromClient then .incoming else .outgoing

variable {env : Surroundings}

/-- The parsers of a connection for both versions, with all that they have returned. -/
structure Parsers (env : Surroundings) where
  h1 : H1Observer
  h2 : H2Observer env.hpack
  events : List DecodedPacket

/-- The bytes are pushed, and every event that is ready is taken. -/
def Parsers.returned (self : Parsers env) (bytes : RawBytes) : List DecodedPacket :=
  if bytes.isHttp2 then
    let observer := self.h2.write bytes.frameDirection bytes.data
    ((observer.pollAll
      (observer.incoming.buffer.length + observer.outgoing.buffer.length + 1)).1).map .http2
  else
    let events := ((self.h1.push bytes.direction bytes.data).parse env.httparse).1
    (events.1 ++ events.2).map .http0or1

def Parsers.read (self : Parsers env) (bytes : RawBytes) : Parsers env :=
  if bytes.isHttp2 then
    let observer := self.h2.write bytes.frameDirection bytes.data
    { self with
      h2 := (observer.pollAll
        (observer.incoming.buffer.length + observer.outgoing.buffer.length + 1)).2
      events := self.events ++ self.returned bytes }
  else
    { self with
      h1 := ((self.h1.push bytes.direction bytes.data).parse env.httparse).2
      events := self.events ++ self.returned bytes }

/-- The parsers as the station has them before a run. -/
def MonitoringStation.parsers (self : MonitoringStation env) (key : ConnectionKey) :
    Parsers env where
  h1 := self.h1Observer key
  h2 := self.h2Observer key
  events := []

/-! ## What is to be recorded -/

def isMarker : DecodedPacket → Bool
  | .http0or1 data => MonitoringStation.isSwitch data
  | .http2 _ => false

def withoutMarkers (packets : List DecodedPacket) : List DecodedPacket :=
  packets.filter fun packet => !isMarker packet

/-- A station and the parsers beside it. -/
structure Supervised (env : Surroundings) where
  station : MonitoringStation env
  parsers : Parsers env

def Supervised.step (key : ConnectionKey) (self : Supervised env) (bytes : RawBytes) :
    Supervised env where
  station := self.station.push bytes.now (bytes.event key)
  parsers := self.parsers.read bytes

def supervise (station : MonitoringStation env) (key : ConnectionKey) (pushes : List RawBytes) :
    Supervised env :=
  Machine.run (Supervised.step key) ⟨station, station.parsers key⟩ pushes

/-- All events but the markers have been recorded and sent to the websocket clients, and the
station decodes as the parsers do. -/
structure Supervised.Complete (start : MonitoringStation env) (connection : TCPConnection)
    (key : ConnectionKey) (now : Supervised env) : Prop where
  packets : (now.station.tcpConnections key).map (·.packets) =
    some (connection.packets ++ withoutMarkers now.parsers.events)
  sent : now.station.sent =
    start.sent ++ (withoutMarkers now.parsers.events).map (handlePacket key)
  h1 : now.station.h1Observer key = now.parsers.h1
  h2 : now.station.h2Observer key = now.parsers.h2

/-- The requests that the parser of HTTP/1 finds complete when the bytes have been pushed. -/
def Parsers.requestsAt (self : Parsers env) (bytes : RawBytes) : List ParsedRequest :=
  ((requests env.httparse).decodeAll
    (self.h1.push bytes.direction bytes.data).clientToServer).1

def Parsers.responsesAt (self : Parsers env) (bytes : RawBytes) : List ParsedResponse :=
  ((responses env.httparse).decodeAll
    (self.h1.push bytes.direction bytes.data).serverToClient).1

/-- Bytes of the client complete no message behind an upgrade request, and bytes of the server
none. -/
def Parsers.SwitchComesLast (self : Parsers env) (bytes : RawBytes) : Prop :=
  bytes.isHttp2 = false → self.h1.state = .http →
    ∀ before request after, self.requestsAt bytes = before ++ request :: after →
      request.isUpgrade = true →
        bytes.fromClient = true ∧ after = [] ∧ self.responsesAt bytes = []

/-! ## Markers among the events -/

/-- What the station takes of a batch of events. -/
def Parsers.shown (self : Parsers env) (bytes : RawBytes) : List DecodedPacket :=
  if bytes.fromClient && !bytes.isHttp2 then
    (self.returned bytes).takeWhile fun packet => !isMarker packet
  else self.returned bytes

section Markers

variable {reqs : List ParsedRequest} {resps : List ParsedResponse}

theorem isSwitch_marker :
    MonitoringStation.isSwitch .protocolSwitchedToWebSocket = true := rfl

/-- A message whose own event is no switch is followed by none either. -/
theorem not_switch_of_mem {event first second : HttpData} {asked : Bool}
    (hfirst : MonitoringStation.isSwitch first = false)
    (hsecond : MonitoringStation.isSwitch second = false)
    (h : event ∈ first :: if asked then [second] else []) :
    MonitoringStation.isSwitch event = false := by
  rcases List.mem_cons.mp h with rfl | h
  · exact hfirst
  · split_ifs at h
    · rw [List.mem_singleton.mp h]
      exact hsecond
    · contradiction

theorem response_not_switch {event : HttpData} (h : event ∈ resps.flatMap responseEvents) :
    MonitoringStation.isSwitch event = false := by
  obtain ⟨resp, -, hevent⟩ := List.mem_flatMap.mp h
  exact not_switch_of_mem rfl rfl hevent

theorem frame_not_switch {event : HttpData} {sent received : List WebSocketFrame}
    (h : event ∈ sent.flatMap sendEvents ++ received.flatMap receiveEvents) :
    MonitoringStation.isSwitch event = false := by
  rcases List.mem_append.mp h with h | h
  · obtain ⟨frame, -, hevent⟩ := List.mem_flatMap.mp h
    exact not_switch_of_mem rfl rfl hevent
  · obtain ⟨frame, -, hevent⟩ := List.mem_flatMap.mp h
    exact not_switch_of_mem rfl rfl hevent

theorem filter_responses : (resps.flatMap responseEvents).filter
    (fun event => !MonitoringStation.isSwitch event) = resps.flatMap responseEvents := by
  apply List.filter_eq_self.mpr
  intro event hevent
  rw [response_not_switch hevent]
  rfl

theorem takeWhile_responses : (resps.flatMap responseEvents).takeWhile
    (fun event => !MonitoringStation.isSwitch event) = resps.flatMap responseEvents := by
  apply List.takeWhile_eq_self_iff.mpr
  intro event hevent
  rw [response_not_switch hevent]
  rfl

/-- Every message has an event of its own. -/
theorem filter_eq_nil_iff :
    (reqs.flatMap requestEvents ++ resps.flatMap responseEvents).filter
        (fun event => !MonitoringStation.isSwitch event) = [] ↔ reqs = [] ∧ resps = [] := by
  rw [List.filter_append, filter_responses, List.append_eq_nil_iff]
  constructor
  · rintro ⟨hreqs, hresps⟩
    constructor
    · cases reqs with
      | nil => rfl
      | cons next reqs =>
        rw [List.flatMap_cons, requestEvents, List.cons_append,
          List.filter_cons_of_pos (by rfl)] at hreqs
        contradiction
    · cases resps with
      | nil => rfl
      | cons resp resps =>
        rw [List.flatMap_cons, responseEvents, List.cons_append] at hresps
        contradiction
  · rintro ⟨rfl, rfl⟩
    exact ⟨rfl, rfl⟩

/-- Behind the switch nothing is shown, so nothing may come behind it. -/
theorem takeWhile_eq_filter_iff :
    ((reqs.flatMap requestEvents ++ resps.flatMap responseEvents).takeWhile
        (fun event => !MonitoringStation.isSwitch event) =
      (reqs.flatMap requestEvents ++ resps.flatMap responseEvents).filter
        (fun event => !MonitoringStation.isSwitch event)) ↔
      ∀ before request after, reqs = before ++ request :: after → request.isUpgrade = true →
        after = [] ∧ resps = [] := by
  induction reqs with
  | nil =>
    rw [List.flatMap_nil, List.nil_append, takeWhile_responses, filter_responses]
    refine iff_of_true rfl ?_
    intro before request after h
    simp at h
  | cons req reqs ih =>
    cases hupgrade : req.isUpgrade with
    | false =>
      have hevents : (req :: reqs).flatMap requestEvents =
          .request req :: reqs.flatMap requestEvents := by
        rw [List.flatMap_cons, requestEvents, hupgrade]
        rfl
      rw [hevents, List.cons_append, List.takeWhile_cons_of_pos (by rfl),
        List.filter_cons_of_pos (by rfl), List.cons.injEq, ih]
      constructor
      · rintro ⟨-, hlast⟩ before request after hsplit hasked
        cases before with
        | nil =>
          cases hsplit
          rw [hupgrade] at hasked
          contradiction
        | cons first before =>
          cases hsplit
          exact hlast before request after rfl hasked
      · intro hlast
        refine ⟨rfl, ?_⟩
        rintro before request after rfl hasked
        exact hlast (req :: before) request after rfl hasked
    | true =>
      have hevents : (req :: reqs).flatMap requestEvents =
          .request req :: .protocolSwitchedToWebSocket :: reqs.flatMap requestEvents := by
        rw [List.flatMap_cons, requestEvents, hupgrade]
        rfl
      rw [hevents, List.cons_append, List.cons_append, List.takeWhile_cons_of_pos (by rfl),
        List.filter_cons_of_pos (by rfl), List.takeWhile_cons_of_neg (by simp [isSwitch_marker]),
        List.filter_cons_of_neg (by simp [isSwitch_marker]), List.cons.injEq]
      constructor
      · rintro ⟨-, hnone⟩
        obtain ⟨rfl, rfl⟩ := filter_eq_nil_iff.mp hnone.symm
        intro before request after hsplit _
        cases before with
        | nil =>
          cases hsplit
          exact ⟨rfl, rfl⟩
        | cons first before => simp at hsplit
      · intro hlast
        obtain ⟨rfl, rfl⟩ := hlast [] req reqs rfl hupgrade
        exact ⟨rfl, rfl⟩

theorem filter_eq_self_iff :
    ((reqs.flatMap requestEvents ++ resps.flatMap responseEvents).filter
        (fun event => !MonitoringStation.isSwitch event) =
      reqs.flatMap requestEvents ++ resps.flatMap responseEvents) ↔
      ∀ req ∈ reqs, req.isUpgrade = false := by
  rw [List.filter_append, filter_responses, List.append_left_inj, List.filter_eq_self]
  constructor
  · intro hall req hreq
    by_contra hupgrade
    rw [Bool.not_eq_false] at hupgrade
    have hmem : HttpData.protocolSwitchedToWebSocket ∈ reqs.flatMap requestEvents := by
      apply List.mem_flatMap.mpr
      refine ⟨req, hreq, ?_⟩
      unfold requestEvents
      rw [hupgrade]
      simp
    have hkept := hall _ hmem
    contradiction
  · intro hnone event hevent
    obtain ⟨req, hreq, hevent⟩ := List.mem_flatMap.mp hevent
    unfold requestEvents at hevent
    rw [hnone req hreq, if_neg Bool.false_ne_true] at hevent
    rw [List.mem_singleton.mp hevent]
    rfl

end Markers

theorem map_withoutMarkers (events : List HttpData) :
    withoutMarkers (events.map .http0or1) =
      (events.filter fun event => !MonitoringStation.isSwitch event).map .http0or1 :=
  List.filter_map

theorem map_takeWhile (events : List HttpData) :
    (events.map DecodedPacket.http0or1).takeWhile (fun packet => !isMarker packet) =
      (events.takeWhile fun event => !MonitoringStation.isSwitch event).map .http0or1 :=
  List.takeWhile_map

theorem map_inj {first second : List HttpData} :
    first.map DecodedPacket.http0or1 = second.map DecodedPacket.http0or1 ↔ first = second := by
  apply List.map_inj_right
  intro event other h
  cases h
  rfl

section

variable {parsers : Parsers env} {bytes : RawBytes}

theorem push_state (observer : H1Observer) (direction : DataDirection) (data : List UInt8) :
    (observer.push direction data).state = observer.state := by
  cases direction with
  | clientToServer => rfl
  | serverToClient => rfl

theorem parse_http {observer : H1Observer} (hstate : observer.state = .http) :
    (observer.parse env.httparse).1 =
      (((requests env.httparse).decodeAll observer.clientToServer).1.flatMap requestEvents,
        ((responses env.httparse).decodeAll observer.serverToClient).1.flatMap responseEvents) := by
  unfold H1Observer.parse
  rw [hstate]
  rfl

/-- Only requests switch, and these are parsed in one state. -/
theorem parse_not_switch {observer : H1Observer} (hstate : observer.state ≠ .http)
    {event : HttpData} (hevent : event ∈ (observer.parse env.httparse).1.1 ++
      (observer.parse env.httparse).1.2) :
    MonitoringStation.isSwitch event = false := by
  unfold H1Observer.parse at hevent
  cases hcase : observer.state with
  | http => exact absurd hcase hstate
  | upgradeRequested =>
    rw [hcase] at hevent
    exact @response_not_switch ((responses env.httparse).decodeAll observer.serverToClient).1 _
      hevent
  | webSocket =>
    rw [hcase] at hevent
    exact frame_not_switch hevent

/-- What is shown is all but the markers exactly where a switch comes last. -/
theorem shown_iff : parsers.shown bytes = withoutMarkers (parsers.returned bytes) ↔
    parsers.SwitchComesLast bytes := by
  unfold Parsers.shown Parsers.returned Parsers.SwitchComesLast
  cases hhttp2 : bytes.isHttp2 with
  | true =>
    rw [Bool.not_true, Bool.and_false, if_neg Bool.false_ne_true, if_pos rfl]
    refine iff_of_true ?_ (by rintro ⟨⟩)
    symm
    apply List.filter_eq_self.mpr
    intro packet hpacket
    obtain ⟨event, -, rfl⟩ := List.mem_map.mp hpacket
    rfl
  | false =>
    rw [Bool.not_false, Bool.and_true, if_neg Bool.false_ne_true, map_withoutMarkers]
    dsimp only
    by_cases hstate : parsers.h1.state = .http
    · have hparse := @parse_http env (parsers.h1.push bytes.direction bytes.data)
        ((push_state _ _ _).trans hstate)
      rw [hparse]
      cases hclient : bytes.fromClient with
      | true =>
        rw [if_pos rfl, map_takeWhile, map_inj, takeWhile_eq_filter_iff]
        constructor
        · intro hlast _ _ before request after hsplit hasked
          exact ⟨rfl, hlast before request after hsplit hasked⟩
        · intro hlast before request after hsplit hasked
          exact (hlast rfl hstate before request after hsplit hasked).2
      | false =>
        rw [if_neg Bool.false_ne_true, map_inj, eq_comm, filter_eq_self_iff]
        constructor
        · intro hnone _ _ before request after hsplit hasked
          have hmem : request ∈ parsers.requestsAt bytes := by
            rw [hsplit]
            exact List.mem_append_right _ List.mem_cons_self
          rw [hnone request hmem] at hasked
          contradiction
        · intro hlast request hmem
          obtain ⟨before, after, hsplit⟩ := List.append_of_mem hmem
          rw [← Bool.not_eq_true]
          intro hasked
          have hclaim := hlast rfl hstate before request after hsplit hasked
          exact absurd hclaim.1 (by decide)
    · refine iff_of_true ?_ (fun _ hhttp => absurd hhttp hstate)
      have hnone : ∀ event ∈
          ((parsers.h1.push bytes.direction bytes.data).parse env.httparse).1.1 ++
            ((parsers.h1.push bytes.direction bytes.data).parse env.httparse).1.2,
          (!MonitoringStation.isSwitch event) = true := by
        intro event hevent
        rw [parse_not_switch (by rw [push_state]; exact hstate) hevent]
        rfl
      rw [List.filter_eq_self.mpr hnone, map_takeWhile, List.takeWhile_eq_self_iff.mpr hnone,
        ite_self]

end

/-! ## A push of the station -/

section

variable {station : MonitoringStation env} {key : ConnectionKey} {found : TCPConnection}

/-- The connection, what was sent, and the observers after packets of a known connection. -/
theorem pushPackets_found (h : station.tcpConnections key = some found)
    (packets : List DecodedPacket) (f : TCPConnection → TCPConnection) :
    (station.pushPackets key packets f).tcpConnections key =
        some { f found with packets := found.packets ++ packets } ∧
      (station.pushPackets key packets f).sent =
        station.sent ++ packets.map (handlePacket key) := by
  unfold MonitoringStation.pushPackets MonitoringStation.updateConnection
  rw [h]
  exact ⟨Function.update_self _ _ _, rfl⟩

/-- What a push of bytes leaves of the entries of a known connection. -/
structure Records (before after : MonitoringStation env) (key : ConnectionKey)
    (found : TCPConnection) (parsers : Parsers env) (bytes : RawBytes) : Prop where
  packets : (after.tcpConnections key).map (·.packets) =
    some (found.packets ++ parsers.shown bytes)
  sent : after.sent = before.sent ++ (parsers.shown bytes).map (handlePacket key)
  h1 : after.h1Observer key = (parsers.read bytes).h1
  h2 : after.h2Observer key = (parsers.read bytes).h2

theorem records_of_pushPackets {read : MonitoringStation env} {parsers : Parsers env}
    {bytes : RawBytes} {packets : List DecodedPacket} {f : TCPConnection → TCPConnection}
    (hconnections : read.tcpConnections key = some found) (hsent : read.sent = station.sent)
    (hpackets : packets = parsers.shown bytes)
    (hh1 : read.h1Observer key = (parsers.read bytes).h1)
    (hh2 : read.h2Observer key = (parsers.read bytes).h2) :
    Records station (read.pushPackets key packets f) key found parsers bytes := by
  obtain ⟨hfound, hsentTo⟩ := pushPackets_found hconnections packets f
  subst hpackets
  refine ⟨?_, ?_, ?_, ?_⟩
  · rw [hfound, Option.map_some]
  · rw [hsentTo, hsent]
  · unfold MonitoringStation.h1Observer
    rw [MonitoringStation.pushPackets_h1]
    exact hh1
  · unfold MonitoringStation.h2Observer
    rw [MonitoringStation.pushPackets_h2]
    exact hh2

theorem h1Observer_update (observer : H1Observer) :
    ({ station with h1Observers := Function.update station.h1Observers key (some observer) } :
      MonitoringStation env).h1Observer key = observer := by
  unfold MonitoringStation.h1Observer
  dsimp only
  rw [Function.update_self, Option.getD_some]

theorem h2Observer_update (observer : H2Observer env.hpack) :
    ({ station with h2Observers := Function.update station.h2Observers key (some observer) } :
      MonitoringStation env).h2Observer key = observer := by
  unfold MonitoringStation.h2Observer
  dsimp only
  rw [Function.update_self, Option.getD_some]

theorem push_records {parsers : Parsers env} (hfound : station.tcpConnections key = some found)
    (hh1 : station.h1Observer key = parsers.h1) (hh2 : station.h2Observer key = parsers.h2)
    (bytes : RawBytes) :
    Records station (station.push bytes.now (bytes.event key)) key found parsers bytes := by
  obtain ⟨now, fromClient, isHttp2, data⟩ := bytes
  cases fromClient with
  | true =>
    change Records station (station.pushBytesFromClientToOddBox key isHttp2 data) _ _ _ _
    unfold MonitoringStation.pushBytesFromClientToOddBox
    cases isHttp2 with
    | true =>
      rw [if_pos rfl]
      unfold MonitoringStation.readHttp2
      rw [hh2]
      exact records_of_pushPackets hfound rfl rfl hh1 (h2Observer_update _)
    | false =>
      rw [if_neg Bool.false_ne_true, hh1]
      exact records_of_pushPackets hfound rfl (map_takeWhile _).symm (h1Observer_update _) hh2
  | false =>
    change Records station (station.pushBytesFromOddBoxToClient key isHttp2 data) _ _ _ _
    unfold MonitoringStation.pushBytesFromOddBoxToClient
    cases isHttp2 with
    | true =>
      rw [if_pos rfl]
      unfold MonitoringStation.readHttp2
      rw [hh2]
      exact records_of_pushPackets hfound rfl rfl hh1 (h2Observer_update _)
    | false =>
      rw [if_neg Bool.false_ne_true, hh1, hfound]
      exact records_of_pushPackets hfound rfl rfl (h1Observer_update _) hh2

theorem withoutMarkers_append (first second : List DecodedPacket) :
    withoutMarkers (first ++ second) = withoutMarkers first ++ withoutMarkers second :=
  List.filter_append _ _

theorem read_events (parsers : Parsers env) (bytes : RawBytes) :
    (parsers.read bytes).events = parsers.events ++ parsers.returned bytes := by
  unfold Parsers.read
  split_ifs
  · rfl
  · rfl

/-- A push completes the record exactly where a switch comes last. -/
theorem complete_step_iff {start : MonitoringStation env} {connection : TCPConnection}
    {supervised : Supervised env} (h : supervised.Complete start connection key)
    (bytes : RawBytes) :
    (supervised.step key bytes).Complete start connection key ↔
      supervised.parsers.SwitchComesLast bytes := by
  obtain ⟨found, hfound, hpackets⟩ := Option.map_eq_some_iff.mp h.packets
  have hrecords := push_records hfound h.h1 h.h2 bytes
  have hevents := read_events supervised.parsers bytes
  rw [← shown_iff]
  constructor
  · intro hnext
    have hall := hnext.packets
    rw [Supervised.step, hrecords.packets, hpackets, hevents, withoutMarkers_append,
      ← List.append_assoc, Option.some.injEq] at hall
    exact List.append_cancel_left hall
  · intro hshown
    refine ⟨?_, ?_, hrecords.h1, hrecords.h2⟩
    · rw [Supervised.step, hrecords.packets, hpackets, hevents, withoutMarkers_append, hshown,
        List.append_assoc]
    · rw [Supervised.step, hrecords.sent, h.sent, hevents, withoutMarkers_append, hshown,
        List.map_append, List.append_assoc]

end

/-- **Completeness of the record**: at every point of every sequence of bytes, all events of the
parsers but the markers are recorded and sent on, exactly as long as no message comes behind an
upgrade request in the bytes of the client, nor one of these in bytes of the server. -/
theorem packets_complete_iff (station : MonitoringStation env) (key : ConnectionKey)
    (connection : TCPConnection) (hfound : station.tcpConnections key = some connection)
    (pushes : List RawBytes) :
    (∀ first, first <+: pushes →
      (supervise station key first).Complete station connection key) ↔
      Machine.Meets (Supervised.step key)
        (fun supervised bytes => supervised.parsers.SwitchComesLast bytes)
        ⟨station, station.parsers key⟩ pushes := by
  apply Machine.meets_iff (J := fun _ => True)
  · exact fun _ _ _ => trivial
  · exact fun supervised bytes _ h => complete_step_iff h bytes
  · trivial
  · refine ⟨?_, ?_, rfl, rfl⟩
    · rw [hfound]
      change some connection.packets = some (connection.packets ++ [])
      rw [List.append_nil]
    · exact (List.append_nil _).symm

/-! ## Two requests in one chunk -/

def greetingSurroundings : Surroundings where
  hpack := H2.staticHpack
  httparse := H1.greetingHeads
  processBySocket _ _ := none

/-- The station after the connection was opened. -/
def openedStation : MonitoringStation greetingSurroundings :=
  (MonitoringStation.new greetingSurroundings).insertConnection true 0 clientConnection

def openedConnection : TCPConnection := MonitoringStation.newConnection 0 clientConnection

/-- Bytes of the client: the request for a websocket, once or several times. -/
def askChunk (count : Nat) : RawBytes where
  now := 1
  fromClient := true
  isHttp2 := false
  data := (List.replicate count H1.askUpgrade.bytes).flatten

theorem requestsAt_askChunk (count : Nat) :
    (openedStation.parsers 7).requestsAt (askChunk count) =
      List.replicate count H1.askUpgrade.request := by
  have hdecoded := H1.decode_requests (List.replicate count H1.askUpgrade)
  rw [List.map_replicate, List.map_replicate] at hdecoded
  exact congrArg Prod.fst hdecoded

theorem responsesAt_askChunk (count : Nat) :
    (openedStation.parsers 7).responsesAt (askChunk count) = [] :=
  congrArg Prod.fst (H1.FrontParser.decodeAll_nil _)

/-- One request is recorded. -/
theorem askOnce_complete :
    (supervise openedStation 7 [askChunk 1]).Complete openedStation openedConnection 7 := by
  refine (packets_complete_iff openedStation 7 openedConnection rfl [askChunk 1]).mpr ⟨?_, trivial⟩
    [askChunk 1] List.prefix_rfl
  intro _ _ before request after hsplit _
  change (openedStation.parsers 7).requestsAt (askChunk 1) = _ at hsplit
  rw [requestsAt_askChunk] at hsplit
  refine ⟨rfl, ?_, responsesAt_askChunk 1⟩
  have hlen := congrArg List.length hsplit
  simp only [List.length_replicate, List.length_append, List.length_cons] at hlen
  exact List.length_eq_zero_iff.mp (by omega)

/-- Of two in one chunk, the second is not. -/
theorem askTwice_incomplete :
    (openedStation.parsers 7).requestsAt (askChunk 2) =
        [H1.askUpgrade.request, H1.askUpgrade.request] ∧
      ¬∀ first, first <+: [askChunk 2] →
        (supervise openedStation 7 first).Complete openedStation openedConnection 7 := by
  refine ⟨requestsAt_askChunk 2, ?_⟩
  intro hall
  have hstart := hall [] (List.nil_prefix)
  have hlast := (complete_step_iff hstart (askChunk 2)).mp (hall [askChunk 2] List.prefix_rfl)
  have hclaim := hlast rfl rfl [] H1.askUpgrade.request [H1.askUpgrade.request]
    (requestsAt_askChunk 2) (by decide +kernel)
  exact absurd hclaim.2.1 (List.cons_ne_nil _ _)

end OddBox.Monitoring

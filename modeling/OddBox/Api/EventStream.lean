import OddBox.Broadcast
import OddBox.Configuration.Reload
import OddBox.Machine

/-!
The event stream of the web interface. Events are sent on one channel, a task relays them to a
second one that the websocket clients are subscribed to, and a client reads the statuses of
the sites again when it is told that one has changed.
-/

namespace OddBox.Api

open OddBox.Broadcast OddBox.Configuration

/-! ## Events -/

abbrev Statuses := String → Option ProcState

structure SiteStatusEvent where
  hostName : String
  state : ProcState
  id : ProcId
  deriving DecidableEq, Repr

/-- `EventForWebsocketClients`; the log messages and the traffic are of a type of their own. -/
inductive StreamEvent (α : Type*) where
  | siteStatusChange (event : SiteStatusEvent)
  | other (event : α)
  deriving DecidableEq, Repr

def StreamEvent.isStatus {α : Type*} : StreamEvent α → Bool
  | .siteStatusChange _ => true
  | .other _ => false

/-- `update_status`: the event, unless the site had the status already. -/
def updateStatus (statuses : Statuses) (hostName : String) (id : ProcId) (state : ProcState) :
    Statuses × Option SiteStatusEvent :=
  (Function.update statuses hostName (some state),
    if statuses hostName = some state then none else some ⟨hostName, state, id⟩)

/-! ## The stream -/

/-- The query for the statuses that a client keeps. -/
structure StatusQuery where
  shown : Option Statuses
  /-- The answer to a request that the client still waits for. -/
  inFlight : Option Statuses
  stale : Bool

namespace StatusQuery

def new : StatusQuery := ⟨none, none, true⟩

/-- `queryClient.invalidateQueries`: a request on its way is given up. -/
def invalidate (self : StatusQuery) : StatusQuery := { self with inFlight := none, stale := true }

def ask (statuses : Statuses) (self : StatusQuery) : StatusQuery :=
  if self.stale then { self with inFlight := some statuses, stale := false } else self

def answer (self : StatusQuery) : StatusQuery :=
  match self.inFlight with
  | some statuses => { self with shown := some statuses, inFlight := none }
  | none => self

/-- What the hook does with an event. -/
def hear {α : Type*} (self : StatusQuery) (event : StreamEvent α) : StatusQuery :=
  if event.isStatus then self.invalidate else self

end StatusQuery

structure Client (α : Type*) where
  /-- How many of the events that had been sent came too early for this client. -/
  first : Nat
  reader : Reader (StreamEvent α)
  query : StatusQuery

/-- `handle_socket`: one `recv`, and the client on the other side of the socket. A client that
lags behind goes on. -/
def Client.recv {α : Type*} (channel : Channel (StreamEvent α)) (self : Client α) : Client α :=
  { self with
    reader := self.reader.recv channel
    query :=
      match (channel.tryRecv self.reader.position).1 with
      | .message event => self.query.hear event
      | _ => self.query }

/-- The task of `broadcast_manager`: it rests after an error, and then subscribes anew. -/
inductive Relay (α : Type*) where
  | resting
  | listening (reader : Reader (StreamEvent α))

def Relay.listens {α : Type*} : Relay α → Bool
  | .resting => false
  | .listening _ => true

/-- What the relay has still to read. -/
def Relay.pending {α : Type*} (published : List (StreamEvent α)) :
    Relay α → List (StreamEvent α)
  | .resting => []
  | .listening reader => reader.pending published

structure EventStream (α : Type*) where
  statuses : Statuses
  /-- The events of calls of `update_status` that have written and not sent yet. -/
  announcing : List SiteStatusEvent
  /-- Whether a status was written without an event, and none was sent since. -/
  unannounced : Bool
  events : Channel (StreamEvent α)
  /-- All events that have been sent. -/
  published : List (StreamEvent α)
  relay : Relay α
  clientsChannel : Channel (StreamEvent α)
  /-- All events that have been relayed. -/
  forwarded : List (StreamEvent α)
  clients : List (Client α)

inductive StreamOp (α : Type*) where
  /-- `update_status` writes, and sends its event later. -/
  | update (hostName : String) (id : ProcId) (state : ProcState)
  | announce (index : Nat)
  /-- An insertion into `site_status_map`, or a removal, that no event is sent for. -/
  | write (hostName : String) (state : Option ProcState)
  | publish (event : α)
  | subscribe
  | relay
  | connect
  | recv (index : Nat)
  | ask (index : Nat)
  | answer (index : Nat)
  deriving DecidableEq, Repr

namespace EventStream

variable {α : Type*}

def new (capacity clientsCapacity : Nat) : EventStream α where
  statuses := fun _ => none
  announcing := []
  unannounced := false
  events := .new capacity
  published := []
  relay := .resting
  clientsChannel := .new clientsCapacity
  forwarded := []
  clients := []

def send (self : EventStream α) (event : StreamEvent α) : EventStream α :=
  { self with
    events := self.events.send event
    published := self.published ++ [event] }

def relayPending (self : EventStream α) : List (StreamEvent α) :=
  self.relay.pending self.published

/-- `while let Ok(msg) = odd_box_broadcast_channel.recv().await`; it waits where there is no
event. -/
def relayOne (self : EventStream α) : EventStream α :=
  match self.relay with
  | .resting => self
  | .listening reader =>
    match (self.events.tryRecv reader.position).1 with
    | .message event =>
      { self with
        relay := .listening (reader.recv self.events)
        clientsChannel := self.clientsChannel.send event
        forwarded := self.forwarded ++ [event] }
    | .empty => self
    | .lagged _ => { self with relay := .resting }

def step (self : EventStream α) : StreamOp α → EventStream α
  | .update hostName id state =>
    let (statuses, event) := updateStatus self.statuses hostName id state
    { self with statuses := statuses, announcing := self.announcing ++ event.toList }
  | .announce index =>
    match self.announcing[index]? with
    | some event =>
      { self.send (.siteStatusChange event) with
        announcing := self.announcing.eraseIdx index
        unannounced := false }
    | none => self
  | .write hostName state =>
    { self with
      statuses := Function.update self.statuses hostName state
      unannounced := self.unannounced || self.statuses hostName != state }
  | .publish event => self.send (.other event)
  | .subscribe =>
    match self.relay with
    | .resting => { self with relay := .listening (.start self.events) }
    | .listening _ => self
  | .relay => self.relayOne
  | .connect =>
    { self with
      clients := self.clients ++
        [⟨self.published.length - self.relayPending.length, .start self.clientsChannel, .new⟩] }
  | .recv index => { self with clients := self.clients.modify index (.recv self.clientsChannel) }
  | .ask index =>
    { self with
      clients := self.clients.modify index fun client =>
        { client with query := client.query.ask self.statuses } }
  | .answer index =>
    { self with
      clients := self.clients.modify index fun client =>
        { client with query := client.query.answer } }

/-- The events for a client that have not reached it. -/
def onTheWay (self : EventStream α) (client : Client α) : List (StreamEvent α) :=
  client.reader.pending self.forwarded ++ self.relayPending

/-- All that was sent since the client connected has reached it or is on the way, and so has
what the relay had not read by then. -/
def Complete (self : EventStream α) (client : Client α) : Prop :=
  messages client.reader.results ++ self.onTheWay client = self.published.drop client.first

/-- The relay listens when an event is sent to a client, and neither it nor the client has more
events before it than its channel keeps. -/
def KeepsUp (self : EventStream α) : StreamOp α → Prop
  | .announce index =>
    index < self.announcing.length → self.clients ≠ [] → self.relay.listens = true
  | .publish _ => self.clients ≠ [] → self.relay.listens = true
  | .relay => self.clients ≠ [] → self.relayPending.length ≤ self.events.capacity
  | .recv index => ∀ client ∈ self.clients[index]?,
      (client.reader.pending self.forwarded).length ≤ self.clientsChannel.capacity
  | _ => True

/-! ## Delivery -/

/-- What is relayed to a client, and what is still to be relayed, comes from the events that are
for it, in their order. -/
structure Bound (stream : EventStream α) (client : Client α) : Prop where
  follows : client.reader.Follows stream.forwarded
  first_le : client.first ≤ stream.published.length
  sublist : (client.reader.offered stream.forwarded ++ stream.relayPending).Sublist
    (stream.published.drop client.first)

structure Sound (stream : EventStream α) : Prop where
  events : stream.events.Holds stream.published
  clientsChannel : stream.clientsChannel.Holds stream.forwarded
  relay : ∀ reader, stream.relay = .listening reader →
    reader.position ≤ stream.published.length
  clients : ∀ client ∈ stream.clients, stream.Bound client

/-- Nothing for the client was lost, by the relay or afterwards. -/
structure Intact (stream : EventStream α) (client : Client α) : Prop where
  missed : missed client.reader.results = 0
  relayed : client.reader.offered stream.forwarded ++ stream.relayPending =
    stream.published.drop client.first

theorem Bound.complete_iff {self : EventStream α} {client : Client α} (h : self.Bound client) :
    self.Complete client ↔ self.Intact client := by
  have hread := h.follows.sublist
  constructor
  · intro hcomplete
    have hlength := congrArg List.length hcomplete
    have hsublist := h.sublist.length_le
    have hoffered := hread.length_le
    rw [onTheWay, ← List.append_assoc, List.length_append] at hlength
    rw [List.length_append] at hsublist
    have hall := hread.eq_of_length (by omega)
    refine ⟨h.follows.complete_iff.mp hall, ?_⟩
    rw [← hcomplete, onTheWay, ← List.append_assoc, hall]
  · intro hintact
    rw [Complete, onTheWay, ← List.append_assoc, h.follows.complete_iff.mpr hintact.missed]
    exact hintact.relayed

section

variable {self next : EventStream α} {client other : Client α}

theorem Bound.of_same (h : self.Bound client) (hreader : other.reader = client.reader)
    (hfirst : other.first = client.first) (hforwarded : next.forwarded = self.forwarded)
    (hpublished : next.published = self.published)
    (hpending : next.relayPending = self.relayPending) : next.Bound other := by
  refine ⟨?_, ?_, ?_⟩
  · rw [hreader, hforwarded]
    exact h.follows
  · rw [hfirst, hpublished]
    exact h.first_le
  · rw [hreader, hforwarded, hpending, hfirst, hpublished]
    exact h.sublist

theorem Intact.of_same (h : self.Intact client) (hreader : other.reader = client.reader)
    (hfirst : other.first = client.first) (hforwarded : next.forwarded = self.forwarded)
    (hpublished : next.published = self.published)
    (hpending : next.relayPending = self.relayPending) : next.Intact other := by
  refine ⟨?_, ?_⟩
  · rw [hreader]
    exact h.missed
  · rw [hreader, hforwarded, hpending, hfirst, hpublished]
    exact h.relayed

/-! ### An event is sent -/

theorem relayPending_send (h : self.Sound) (event : StreamEvent α) :
    (self.send event).relayPending =
      self.relayPending ++ if self.relay.listens then [event] else [] := by
  change self.relay.pending (self.published ++ [event]) = self.relay.pending self.published ++ _
  cases hrelay : self.relay with
  | resting => rfl
  | listening reader =>
    have hposition := h.relay reader hrelay
    exact List.drop_append_of_le_length hposition

theorem Bound.send (hsound : self.Sound) (h : self.Bound client) (event : StreamEvent α) :
    (self.send event).Bound client := by
  have hfirst := h.first_le
  have hlength : (self.send event).published.length = self.published.length + 1 :=
    List.length_append
  refine ⟨h.follows, by omega, ?_⟩
  rw [relayPending_send hsound]
  change (client.reader.offered self.forwarded ++ _).Sublist
    ((self.published ++ [event]).drop client.first)
  rw [List.drop_append_of_le_length hfirst, ← List.append_assoc]
  apply h.sublist.append
  split
  · exact List.Sublist.refl _
  · exact List.nil_sublist _

theorem intact_send_iff (hsound : self.Sound) (hbound : self.Bound client)
    (h : self.Intact client) (event : StreamEvent α) :
    (self.send event).Intact client ↔ self.relay.listens = true := by
  have hsplit : (self.send event).published.drop client.first =
      self.published.drop client.first ++ [event] :=
    List.drop_append_of_le_length hbound.first_le
  have hpending := relayPending_send hsound event
  constructor
  · intro hintact
    by_contra hrests
    rw [if_neg hrests, List.append_nil] at hpending
    have hsame := hintact.relayed
    rw [hsplit, hpending] at hsame
    exact absurd (h.relayed.symm.trans hsame) (by simp)
  · intro hlistens
    rw [if_pos hlistens] at hpending
    refine ⟨h.missed, ?_⟩
    rw [hsplit, hpending, ← List.append_assoc, ← h.relayed]
    rfl

theorem Sound.send (h : self.Sound) (event : StreamEvent α) : (self.send event).Sound := by
  refine ⟨h.events.send event, h.clientsChannel, ?_, ?_⟩
  · intro reader hreader
    have hlength : (self.send event).published.length = self.published.length + 1 :=
      List.length_append
    have hposition := h.relay reader hreader
    omega
  · intro client hclient
    exact (h.clients client hclient).send h event

/-! ### An event is relayed -/

/-- What a turn of the relay does: nothing, or it moves an event on, or it gives up. -/
theorem relayOne_cases (h : self.Sound) :
    self.relayOne = self ∧ self.relayPending.length ≤ self.events.capacity ∨
      (∃ event reader, self.relayPending = event :: reader.pending self.published ∧
        reader.position ≤ self.published.length ∧
        self.relayPending.length ≤ self.events.capacity ∧
        self.relayOne =
          { self with
            relay := .listening reader
            clientsChannel := self.clientsChannel.send event
            forwarded := self.forwarded ++ [event] }) ∨
      self.events.capacity < self.relayPending.length ∧
        self.relayOne = { self with relay := .resting } := by
  unfold relayOne relayPending
  cases hrelay : self.relay with
  | resting => exact .inl ⟨rfl, Nat.zero_le _⟩
  | listening reader =>
    have hposition := h.relay reader hrelay
    dsimp only
    change _ ∧ (reader.pending self.published).length ≤ _ ∨
      (∃ _ _, reader.pending self.published = _ ∧ _ ∧
        (reader.pending self.published).length ≤ _ ∧ _) ∨
      _ < (reader.pending self.published).length ∧ _
    by_cases hnear : (reader.pending self.published).length ≤ self.events.capacity
    · rcases Reader.recv_near h.events hposition hnear with
          ⟨event, hmessage, hpending, hnext⟩ | ⟨hempty, -⟩
      · rw [hmessage]
        exact .inr (.inl ⟨event, _, hpending, hnext, hnear, rfl⟩)
      · rw [hempty]
        exact .inl ⟨rfl, hnear⟩
    · obtain ⟨n, hlagged⟩ := Reader.recv_far h.events (not_le.mp hnear)
      rw [hlagged]
      exact .inr (.inr ⟨not_le.mp hnear, rfl⟩)

theorem offered_forwarded (h : self.Bound client) (event : StreamEvent α) :
    client.reader.offered (self.forwarded ++ [event]) =
      client.reader.offered self.forwarded ++ [event] :=
  List.drop_append_of_le_length (h.follows.since_le.trans h.follows.position_le)

theorem Bound.relayOne (hsound : self.Sound) (h : self.Bound client) :
    self.relayOne.Bound client := by
  rcases relayOne_cases hsound with ⟨hsame, -⟩ | ⟨event, reader, hpending, -, -, hrelayed⟩ |
      ⟨-, hrested⟩
  · rw [hsame]
    exact h
  · rw [hrelayed]
    refine ⟨h.follows.send event, h.first_le, ?_⟩
    change (client.reader.offered (self.forwarded ++ [event]) ++
      reader.pending self.published).Sublist _
    rw [offered_forwarded h, List.append_assoc, List.singleton_append, ← hpending]
    exact h.sublist
  · rw [hrested]
    refine ⟨h.follows, h.first_le, ?_⟩
    change (client.reader.offered self.forwarded ++ []).Sublist _
    rw [List.append_nil]
    exact (List.sublist_append_left _ _).trans h.sublist

theorem intact_relayOne_iff (hsound : self.Sound) (hbound : self.Bound client)
    (h : self.Intact client) :
    self.relayOne.Intact client ↔ self.relayPending.length ≤ self.events.capacity := by
  rcases relayOne_cases hsound with ⟨hsame, hnear⟩ |
      ⟨event, reader, hpending, -, hnear, hrelayed⟩ | ⟨hfar, hrested⟩
  · rw [hsame]
    exact iff_of_true h hnear
  · refine iff_of_true ?_ hnear
    rw [hrelayed]
    refine ⟨h.missed, ?_⟩
    change client.reader.offered (self.forwarded ++ [event]) ++
      reader.pending self.published = self.published.drop client.first
    rw [offered_forwarded hbound, List.append_assoc, List.singleton_append, ← hpending]
    exact h.relayed
  · refine iff_of_false ?_ (not_le.mpr hfar)
    intro hintact
    rw [hrested] at hintact
    have hall : client.reader.offered self.forwarded ++ [] = self.published.drop client.first :=
      hintact.relayed
    have hnone := List.append_cancel_left (hall.trans h.relayed.symm)
    rw [← hnone] at hfar
    exact Nat.not_lt_zero _ hfar

theorem Sound.relayOne (h : self.Sound) : self.relayOne.Sound := by
  rcases relayOne_cases h with ⟨hsame, -⟩ | ⟨event, reader, -, hposition, -, hrelayed⟩ |
      ⟨-, hrested⟩
  · rw [hsame]
    exact h
  · have hbound : ∀ client ∈ self.clients, self.relayOne.Bound client :=
      fun client hclient => (h.clients client hclient).relayOne h
    rw [hrelayed] at hbound ⊢
    refine ⟨h.events, h.clientsChannel.send event, ?_, hbound⟩
    rintro _ ⟨⟩
    exact hposition
  · have hbound : ∀ client ∈ self.clients, self.relayOne.Bound client :=
      fun client hclient => (h.clients client hclient).relayOne h
    rw [hrested] at hbound ⊢
    exact ⟨h.events, h.clientsChannel, by rintro _ ⟨⟩, hbound⟩

/-! ### The clients -/

theorem Bound.recv (hsound : self.Sound) (h : self.Bound client) :
    self.Bound (client.recv self.clientsChannel) :=
  ⟨h.follows.recv hsound.clientsChannel, h.first_le, h.sublist⟩

theorem intact_recv_iff (hsound : self.Sound) (hbound : self.Bound client)
    (h : self.Intact client) :
    self.Intact (client.recv self.clientsChannel) ↔
      (client.reader.pending self.forwarded).length ≤ self.clientsChannel.capacity := by
  rw [← hbound.follows.missed_recv_iff hsound.clientsChannel h.missed]
  constructor
  · intro hintact
    exact hintact.missed
  · intro hmissed
    exact ⟨hmissed, h.relayed⟩

/-- A client that connects is given what the relay has still to read. -/
theorem connect_bound (h : self.Sound) {client : Client α}
    (hreader : client.reader = .start self.clientsChannel)
    (hfirst : client.first = self.published.length - self.relayPending.length) :
    self.Bound client ∧ self.Intact client := by
  have hsince : client.reader.since = self.forwarded.length := by
    rw [hreader]
    exact h.clientsChannel.tail
  have hnone : client.reader.offered self.forwarded = [] := by
    rw [Reader.offered, hsince, List.drop_length]
  have hpending : self.relayPending = self.published.drop client.first := by
    rw [hfirst, relayPending]
    cases hrelay : self.relay with
    | resting =>
      change [] = self.published.drop (self.published.length - 0)
      rw [Nat.sub_zero, List.drop_length]
    | listening reader =>
      have hposition := h.relay reader hrelay
      change self.published.drop reader.position =
        self.published.drop (self.published.length - (self.published.drop reader.position).length)
      rw [List.length_drop, Nat.sub_sub_self hposition]
  have hall : client.reader.offered self.forwarded ++ self.relayPending =
      self.published.drop client.first := by
    rw [hnone, List.nil_append, hpending]
  refine ⟨⟨?_, ?_, ?_⟩, ?_, hall⟩
  · rw [hreader]
    exact Reader.follows_start h.clientsChannel
  · rw [hfirst]
    exact Nat.sub_le _ _
  · rw [hall]
  · rw [hreader]
    rfl

/-- What a step with neither channel leaves as it is. -/
theorem Sound.of_same (h : self.Sound) (hevents : next.events = self.events)
    (hpublished : next.published = self.published) (hrelay : next.relay = self.relay)
    (hchannel : next.clientsChannel = self.clientsChannel)
    (hforwarded : next.forwarded = self.forwarded)
    (hclients : ∀ client ∈ next.clients, self.Bound client) : next.Sound := by
  refine ⟨?_, ?_, ?_, ?_⟩
  · rw [hevents, hpublished]
    exact h.events
  · rw [hchannel, hforwarded]
    exact h.clientsChannel
  · rw [hrelay, hpublished]
    exact h.relay
  · intro client hclient
    apply (hclients client hclient).of_same rfl rfl hforwarded hpublished
    rw [relayPending, relayPending, hrelay, hpublished]

end

theorem sound_new (capacity clientsCapacity : Nat) :
    (new capacity clientsCapacity : EventStream α).Sound where
  events := Channel.holds_new capacity
  clientsChannel := Channel.holds_new clientsCapacity
  relay := by rintro _ ⟨⟩
  clients := by rintro _ ⟨⟩

theorem subscribe_relayPending {self : EventStream α} (h : self.Sound) :
    (self.step .subscribe).relayPending = self.relayPending := by
  rw [step, relayPending, relayPending]
  cases hrelay : self.relay with
  | resting =>
    change self.published.drop self.events.tail = []
    rw [h.events.tail, List.drop_length]
  | listening reader =>
    change self.relay.pending _ = _
    rw [hrelay]

theorem Sound.step {self : EventStream α} (h : self.Sound) (op : StreamOp α) :
    (self.step op).Sound := by
  cases op with
  | update hostName id state => exact h.of_same rfl rfl rfl rfl rfl h.clients
  | write hostName state => exact h.of_same rfl rfl rfl rfl rfl h.clients
  | publish event => exact h.send _
  | announce index =>
    rw [EventStream.step]
    split
    · exact (h.send _).of_same rfl rfl rfl rfl rfl (h.send _).clients
    · exact h
  | subscribe =>
    have hpending := subscribe_relayPending h
    have hbound : ∀ client ∈ self.clients, (self.step .subscribe).Bound client := by
      intro client hclient
      apply (h.clients client hclient).of_same rfl rfl _ _ hpending
      · rw [EventStream.step]
        split <;> rfl
      · rw [EventStream.step]
        split <;> rfl
    rw [EventStream.step] at hbound ⊢
    split at hbound
    · refine ⟨h.events, h.clientsChannel, ?_, hbound⟩
      rintro _ ⟨⟩
      exact h.events.tail.le
    · exact h
  | relay => exact h.relayOne
  | connect =>
    refine h.of_same rfl rfl rfl rfl rfl ?_
    intro client hclient
    rcases List.mem_append.mp hclient with hclient | hclient
    · exact h.clients client hclient
    · rw [List.mem_singleton.mp hclient]
      exact (connect_bound h rfl rfl).1
  | recv index =>
    refine h.of_same rfl rfl rfl rfl rfl ?_
    apply forall_modify h.clients
    intro client _ hbound
    exact hbound.recv h
  | ask index =>
    refine h.of_same rfl rfl rfl rfl rfl ?_
    apply forall_modify h.clients
    intro client _ hbound
    exact hbound.of_same rfl rfl rfl rfl rfl
  | answer index =>
    refine h.of_same rfl rfl rfl rfl rfl ?_
    apply forall_modify h.clients
    intro client _ hbound
    exact hbound.of_same rfl rfl rfl rfl rfl

theorem sound_run (capacity clientsCapacity : Nat) (ops : List (StreamOp α)) :
    (Machine.run step (new capacity clientsCapacity) ops).Sound :=
  Machine.run_invariant (I := Sound) (fun _ op h => h.step op) (sound_new _ _) ops

theorem forall_iff_of_nonempty {β : Type*} {items : List β} {p : β → Prop} {q : Prop}
    (h : ∀ a ∈ items, (p a ↔ q)) : (∀ a ∈ items, p a) ↔ (items ≠ [] → q) := by
  constructor
  · intro hall hne
    obtain ⟨a, ha⟩ := List.exists_mem_of_ne_nil items hne
    exact (h a ha).mp (hall a ha)
  · intro hq a ha
    exact (h a ha).mpr (hq (List.ne_nil_of_mem ha))

theorem relayOne_clients (self : EventStream α) : self.relayOne.clients = self.clients := by
  unfold relayOne
  split
  · rfl
  · split <;> rfl

/-- Where nothing was lost for any client, a step loses nothing exactly when all keep up. -/
theorem intact_step_iff {self : EventStream α} (h : self.Sound)
    (hintact : ∀ client ∈ self.clients, self.Intact client) (op : StreamOp α) :
    (∀ client ∈ (self.step op).clients, (self.step op).Intact client) ↔ self.KeepsUp op := by
  have hsent : ∀ event, (∀ client ∈ self.clients, (self.send event).Intact client) ↔
      (self.clients ≠ [] → self.relay.listens = true) := by
    intro event
    apply forall_iff_of_nonempty
    intro client hclient
    exact intact_send_iff h (h.clients client hclient) (hintact client hclient) event
  cases op with
  | update hostName id state =>
    refine iff_of_true ?_ trivial
    intro client hclient
    exact (hintact client hclient).of_same rfl rfl rfl rfl rfl
  | write hostName state =>
    refine iff_of_true ?_ trivial
    intro client hclient
    exact (hintact client hclient).of_same rfl rfl rfl rfl rfl
  | publish event => exact hsent _
  | announce index =>
    rw [step, KeepsUp]
    cases hat : self.announcing[index]? with
    | none =>
      refine iff_of_true hintact ?_
      intro hlt
      exact absurd (List.getElem?_eq_none_iff.mp hat) (not_le.mpr hlt)
    | some event =>
      have hlt := (List.getElem?_eq_some_iff.mp hat).1
      rw [forall_prop_of_true hlt, ← hsent (.siteStatusChange event)]
      constructor
      · intro hall client hclient
        exact (hall client hclient).of_same rfl rfl rfl rfl rfl
      · intro hall client hclient
        exact (hall client hclient).of_same rfl rfl rfl rfl rfl
  | subscribe =>
    refine iff_of_true ?_ trivial
    have hpending := subscribe_relayPending h
    have hsame : (self.step .subscribe).clients = self.clients ∧
        (self.step .subscribe).forwarded = self.forwarded ∧
        (self.step .subscribe).published = self.published := by
      rw [step]
      split <;> exact ⟨rfl, rfl, rfl⟩
    obtain ⟨hclients, hforwarded, hpublished⟩ := hsame
    rw [hclients]
    intro client hclient
    exact (hintact client hclient).of_same rfl rfl hforwarded hpublished hpending
  | relay =>
    change (∀ client ∈ self.relayOne.clients, self.relayOne.Intact client) ↔ _
    rw [relayOne_clients]
    apply forall_iff_of_nonempty
    intro client hclient
    exact intact_relayOne_iff h (h.clients client hclient) (hintact client hclient)
  | connect =>
    refine iff_of_true ?_ trivial
    intro client hclient
    rcases List.mem_append.mp hclient with hclient | hclient
    · exact (hintact client hclient).of_same rfl rfl rfl rfl rfl
    · rw [List.mem_singleton.mp hclient]
      exact (connect_bound h rfl rfl).2.of_same rfl rfl rfl rfl rfl
  | recv index =>
    constructor
    · intro hall client hclient
      have hmem := List.mem_of_getElem? hclient
      rw [← intact_recv_iff h (h.clients client hmem) (hintact client hmem)]
      have hnext : client.recv self.clientsChannel ∈ (self.step (.recv index)).clients := by
        apply List.mem_of_getElem? (i := index)
        change (self.clients.modify index _)[index]? = _
        rw [List.getElem?_modify_eq, hclient]
        rfl
      exact (hall _ hnext).of_same rfl rfl rfl rfl rfl
    · intro hkeeps client hclient
      have hkept : ∀ client ∈ (self.step (.recv index)).clients, self.Intact client := by
        apply forall_modify hintact
        intro client hat hbefore
        exact (intact_recv_iff h (h.clients client (List.mem_of_getElem? hat)) hbefore).mpr
          (hkeeps client hat)
      exact (hkept client hclient).of_same rfl rfl rfl rfl rfl
  | ask index =>
    refine iff_of_true ?_ trivial
    have hkept : ∀ client ∈ (self.step (.ask index)).clients, self.Intact client := by
      apply forall_modify hintact
      intro client _ hbefore
      exact hbefore.of_same rfl rfl rfl rfl rfl
    intro client hclient
    exact (hkept client hclient).of_same rfl rfl rfl rfl rfl
  | answer index =>
    refine iff_of_true ?_ trivial
    have hkept : ∀ client ∈ (self.step (.answer index)).clients, self.Intact client := by
      apply forall_modify hintact
      intro client _ hbefore
      exact hbefore.of_same rfl rfl rfl rfl rfl
    intro client hclient
    exact (hkept client hclient).of_same rfl rfl rfl rfl rfl

/-- **Delivery**: in every order in which events are sent, relayed and read, every client has
got all events that were sent since it connected, each once and in their order, but for those
on the way, as long as exactly the following is avoided: that an event is sent while the relay
does not listen, or that the relay or a client goes on to read with more events before it than
its channel keeps. -/
theorem events_delivered_iff (capacity clientsCapacity : Nat) (ops : List (StreamOp α)) :
    (∀ first, first <+: ops →
      ∀ client ∈ (Machine.run step (new capacity clientsCapacity) first).clients,
        (Machine.run step (new capacity clientsCapacity) first).Complete client) ↔
      Machine.Meets step KeepsUp (new capacity clientsCapacity) ops := by
  have hintact : (∀ first, first <+: ops →
      ∀ client ∈ (Machine.run step (new capacity clientsCapacity) first).clients,
        (Machine.run step (new capacity clientsCapacity) first).Intact client) ↔
      Machine.Meets step KeepsUp (new capacity clientsCapacity) ops := by
    apply Machine.meets_iff (J := Sound)
      (I := fun self => ∀ client ∈ self.clients, self.Intact client)
    · intro self op h
      exact h.step op
    · intro self op h hall
      exact intact_step_iff h hall op
    · exact sound_new capacity clientsCapacity
    · rintro client ⟨⟩
  rw [← hintact]
  apply forall_congr'
  intro first
  apply imp_congr_right
  intro _
  apply forall_congr'
  intro client
  apply imp_congr_right
  intro hclient
  exact ((sound_run capacity clientsCapacity first).clients client hclient).complete_iff

end EventStream

/-! ## Statuses -/

/-- The query is asked again, or its answer is what the statuses are. -/
def StatusQuery.Current (statuses : Statuses) (self : StatusQuery) : Prop :=
  self.stale = true ∨ self.inFlight.elim (self.shown = some statuses) (· = statuses)

namespace StatusQuery

variable {statuses : Statuses} {self : StatusQuery}

theorem current_invalidate : (self.invalidate).Current statuses := .inl rfl

theorem Current.ask (h : self.Current statuses) : (self.ask statuses).Current statuses := by
  rw [StatusQuery.ask]
  split
  · exact .inr rfl
  · exact h

/-- An answer is not older than the last event that the client has got. -/
theorem Current.answer (h : self.Current statuses) : self.answer.Current statuses := by
  rw [StatusQuery.answer]
  split
  · rename_i answered hflight
    rcases h with hstale | hsame
    · exact .inl hstale
    · rw [hflight] at hsame
      exact .inr (congrArg some hsame)
  · exact h

end StatusQuery

namespace EventStream

variable {α : Type*}

/-- The client shows the statuses, or is about to read them again, or was not told. -/
def Coherent (self : EventStream α) (client : Client α) : Prop :=
  self.unannounced = true ∨ self.announcing ≠ [] ∨
    (∃ event ∈ self.onTheWay client, event.isStatus = true) ∨
    client.query.Current self.statuses

section

variable {self next : EventStream α} {client other : Client α}

theorem Coherent.of_same (h : self.Coherent client) (hstatuses : next.statuses = self.statuses)
    (hannouncing : next.announcing = self.announcing)
    (hunannounced : next.unannounced = self.unannounced)
    (hway : next.onTheWay other = self.onTheWay client)
    (hquery : client.query.Current self.statuses → other.query.Current self.statuses) :
    next.Coherent other := by
  rw [Coherent, hstatuses, hannouncing, hunannounced, hway]
  exact h.imp_right (Or.imp_right (Or.imp_right hquery))

theorem onTheWay_send (hsound : self.Sound) (event : StreamEvent α) :
    (self.send event).onTheWay client =
      self.onTheWay client ++ if self.relay.listens then [event] else [] := by
  rw [onTheWay, relayPending_send hsound, ← List.append_assoc]
  rfl

/-- An update writes what was there already, or is going to send an event. -/
theorem Coherent.update (h : self.Coherent client) (hostName : String) (id : ProcId)
    (state : ProcState) : (self.step (.update hostName id state)).Coherent client := by
  by_cases hsame : self.statuses hostName = some state
  · have hevent : (updateStatus self.statuses hostName id state).2 = none := if_pos hsame
    have hstatuses : Function.update self.statuses hostName (some state) = self.statuses := by
      rw [← hsame]
      exact Function.update_eq_self _ _
    refine h.of_same hstatuses ?_ rfl rfl (fun hcurrent => hcurrent)
    change self.announcing ++ (updateStatus self.statuses hostName id state).2.toList = _
    rw [hevent]
    exact List.append_nil _
  · refine .inr (.inl ?_)
    change self.announcing ++ (updateStatus self.statuses hostName id state).2.toList ≠ []
    rw [updateStatus, if_neg hsame]
    exact List.append_ne_nil_of_right_ne_nil _ (List.cons_ne_nil _ _)

theorem Coherent.write (h : self.Coherent client) (hostName : String)
    (state : Option ProcState) : (self.step (.write hostName state)).Coherent client := by
  by_cases hsame : self.statuses hostName = state
  · have hstatuses : Function.update self.statuses hostName state = self.statuses := by
      rw [← hsame]
      exact Function.update_eq_self _ _
    refine h.of_same hstatuses rfl ?_ rfl id
    change (self.unannounced || self.statuses hostName != state) = self.unannounced
    rw [bne_eq_false_iff_eq.mpr hsame, Bool.or_false]
  · left
    change (self.unannounced || self.statuses hostName != state) = true
    rw [bne_iff_ne.mpr hsame, Bool.or_true]

theorem Coherent.publish (hsound : self.Sound) (h : self.Coherent client) (event : α) :
    (self.step (.publish event)).Coherent client := by
  refine h.imp_right (Or.imp_right (Or.imp_left ?_))
  rintro ⟨status, hstatus, hkind⟩
  refine ⟨status, ?_, hkind⟩
  change status ∈ (self.send (.other event)).onTheWay client
  rw [onTheWay_send hsound]
  exact List.mem_append_left _ hstatus

/-- An event that is sent to a relay that listens is on its way. -/
theorem Coherent.announce (hsound : self.Sound) (h : self.Coherent client) {index : Nat}
    (hlistens : index < self.announcing.length → self.relay.listens = true) :
    (self.step (.announce index)).Coherent client := by
  rw [step]
  split
  · rename_i event hat
    have hlt := (List.getElem?_eq_some_iff.mp hat).1
    refine .inr (.inr (.inl ⟨.siteStatusChange event, ?_, rfl⟩))
    change StreamEvent.siteStatusChange event ∈
      (self.send (.siteStatusChange event)).onTheWay client
    rw [onTheWay_send hsound, if_pos (hlistens hlt)]
    exact List.mem_append_right _ (List.mem_singleton.mpr rfl)
  · exact h

theorem relayOne_statuses (self : EventStream α) :
    self.relayOne.statuses = self.statuses ∧ self.relayOne.announcing = self.announcing ∧
      self.relayOne.unannounced = self.unannounced := by
  unfold relayOne
  split
  · exact ⟨rfl, rfl, rfl⟩
  · split <;> exact ⟨rfl, rfl, rfl⟩

theorem Coherent.relayOne (hsound : self.Sound) (hbound : self.Bound client)
    (h : self.Coherent client) (hnear : self.relayPending.length ≤ self.events.capacity) :
    self.relayOne.Coherent client := by
  obtain ⟨hstatuses, hannouncing, hunannounced⟩ := self.relayOne_statuses
  refine h.of_same hstatuses hannouncing hunannounced ?_ id
  rcases relayOne_cases hsound with ⟨hsame, -⟩ | ⟨event, reader, hpending, -, -, hrelayed⟩ |
      ⟨hfar, -⟩
  · rw [hsame]
  · rw [hrelayed, onTheWay, onTheWay, hpending]
    change (self.forwarded ++ [event]).drop client.reader.position ++
      reader.pending self.published = _
    rw [List.drop_append_of_le_length hbound.follows.position_le, List.append_assoc]
    rfl
  · omega

theorem Coherent.recv (hsound : self.Sound) (hbound : self.Bound client)
    (h : self.Coherent client)
    (hnear : (client.reader.pending self.forwarded).length ≤ self.clientsChannel.capacity) :
    self.Coherent (client.recv self.clientsChannel) := by
  rcases Reader.recv_near hsound.clientsChannel hbound.follows.position_le hnear with
      ⟨event, hmessage, hpending, -⟩ | ⟨hempty, hposition⟩
  · have hquery : (client.recv self.clientsChannel).query = client.query.hear event := by
      rw [Client.recv, hmessage]
    have hway : self.onTheWay client =
        event :: self.onTheWay (client.recv self.clientsChannel) := by
      rw [onTheWay, hpending]
      rfl
    cases hkind : event.isStatus with
    | true =>
      refine .inr (.inr (.inr ?_))
      rw [hquery, StatusQuery.hear, if_pos hkind]
      exact StatusQuery.current_invalidate
    | false =>
      refine h.imp_right (Or.imp_right (Or.imp ?_ ?_))
      · rintro ⟨status, hstatus, htrue⟩
        refine ⟨status, ?_, htrue⟩
        rw [hway] at hstatus
        rcases List.mem_cons.mp hstatus with rfl | hrest
        · rw [hkind] at htrue
          cases htrue
        · exact hrest
      · rw [hquery, StatusQuery.hear, hkind]
        exact id
  · refine h.of_same rfl rfl rfl ?_ ?_
    · rw [onTheWay, onTheWay, Reader.pending, Reader.pending]
      congr 2
    · rw [Client.recv, hempty]
      exact id

end

/-- A client reads the statuses, and again when the process has been started. -/
def startedOps : List (StreamOp Unit) :=
  [.subscribe, .connect, .ask 0, .answer 0, .update "api.test" ⟨"1"⟩ .starting, .announce 0,
    .relay, .recv 0, .ask 0, .answer 0]

def started : EventStream Unit := Machine.run step (new 1024 16) startedOps

end EventStream

end OddBox.Api

import OddBox.Machine
import OddBox.Monitoring.Station

/-!
What the monitoring station remembers of closed connections. The entries of a connection are
made by several events and by the proxy itself, and taken out when it is closed; those of the
observers that decode its bytes are not.
-/

namespace OddBox.Monitoring

open OddBox.Proxy (ProxyActiveTCPConnection)

variable {env : Surroundings}

/-! ## What an operation leaves alone -/

namespace MonitoringStation

variable (self : MonitoringStation env) (key : ConnectionKey)

@[simp] theorem updateConnection_h1 (f : TCPConnection → TCPConnection) :
    (self.updateConnection key f).h1Observers = self.h1Observers := by
  unfold updateConnection
  split <;> rfl

@[simp] theorem updateConnection_h2 (f : TCPConnection → TCPConnection) :
    (self.updateConnection key f).h2Observers = self.h2Observers := by
  unfold updateConnection
  split <;> rfl

theorem updateConnection_other (f : TCPConnection → TCPConnection) {k : ConnectionKey}
    (h : key ≠ k) : (self.updateConnection key f).tcpConnections k = self.tcpConnections k := by
  unfold updateConnection
  split
  · exact Function.update_of_ne h.symm _ _
  · rfl

@[simp] theorem pushPackets_h1 (packets : List DecodedPacket)
    (f : TCPConnection → TCPConnection) :
    (self.pushPackets key packets f).h1Observers = self.h1Observers := by
  unfold pushPackets
  split
  · exact self.updateConnection_h1 key _
  · rfl

@[simp] theorem pushPackets_h2 (packets : List DecodedPacket)
    (f : TCPConnection → TCPConnection) :
    (self.pushPackets key packets f).h2Observers = self.h2Observers := by
  unfold pushPackets
  split
  · exact self.updateConnection_h2 key _
  · rfl

theorem pushPackets_other (packets : List DecodedPacket) (f : TCPConnection → TCPConnection)
    {k : ConnectionKey} (h : key ≠ k) :
    (self.pushPackets key packets f).tcpConnections k = self.tcpConnections k := by
  unfold pushPackets
  split
  · exact self.updateConnection_other key _ h
  · rfl

/-- The observer of one connection and one version of HTTP is made or changed. -/
inductive Decodes (before after : MonitoringStation env) (key : ConnectionKey) : Prop where
  | http2 (observer : H2.H2Observer env.hpack)
      (h1 : after.h1Observers = before.h1Observers)
      (h2 : after.h2Observers = Function.update before.h2Observers key (some observer))
  | http1 (observer : H1.H1Observer)
      (h1 : after.h1Observers = Function.update before.h1Observers key (some observer))
      (h2 : after.h2Observers = before.h2Observers)

theorem pushBytesFromOddBoxToClient_decodes (isHttp2 : Bool) (data : List UInt8) :
    Decodes self (self.pushBytesFromOddBoxToClient key isHttp2 data) key := by
  unfold pushBytesFromOddBoxToClient
  cases isHttp2 with
  | true =>
    apply Decodes.http2
    · exact pushPackets_h1 _ _ _ _
    · exact pushPackets_h2 _ _ _ _
  | false =>
    cases hfound : self.tcpConnections key with
    | none =>
      simp only [Bool.false_eq_true, if_false]
      apply Decodes.http1
      · rfl
      · rfl
    | some found =>
      simp only [Bool.false_eq_true, if_false]
      apply Decodes.http1
      · exact pushPackets_h1 _ _ _ _
      · exact pushPackets_h2 _ _ _ _

theorem pushBytesFromClientToOddBox_decodes (isHttp2 : Bool) (data : List UInt8) :
    Decodes self (self.pushBytesFromClientToOddBox key isHttp2 data) key := by
  unfold pushBytesFromClientToOddBox
  cases isHttp2 with
  | true =>
    apply Decodes.http2
    · exact pushPackets_h1 _ _ _ _
    · exact pushPackets_h2 _ _ _ _
  | false =>
    apply Decodes.http1
    · exact pushPackets_h1 _ _ _ _
    · exact pushPackets_h2 _ _ _ _

theorem pushBytesFromOddBoxToClient_other (isHttp2 : Bool) (data : List UInt8)
    {k : ConnectionKey} (h : key ≠ k) :
    (self.pushBytesFromOddBoxToClient key isHttp2 data).tcpConnections k =
      self.tcpConnections k := by
  unfold pushBytesFromOddBoxToClient
  cases isHttp2 with
  | true => exact pushPackets_other _ _ _ _ h
  | false =>
    cases hfound : self.tcpConnections key with
    | none => rfl
    | some found => exact pushPackets_other _ _ _ _ h

theorem pushBytesFromClientToOddBox_other (isHttp2 : Bool) (data : List UInt8)
    {k : ConnectionKey} (h : key ≠ k) :
    (self.pushBytesFromClientToOddBox key isHttp2 data).tcpConnections k =
      self.tcpConnections k := by
  unfold pushBytesFromClientToOddBox
  cases isHttp2 with
  | true => exact pushPackets_other _ _ _ _ h
  | false => exact pushPackets_other _ _ _ _ h

end MonitoringStation

/-! ## Runs -/

/-- What happens to the station while traffic is inspected: the task receives a message, or
the proxy inserts a connection. -/
inductive Action where
  | received (now : Nat) (msg : GlobalEvent)
  | inserted (now : Nat) (connection : ProxyActiveTCPConnection)

namespace Action

/-- The connection that it is about. -/
def key : Action → ConnectionKey
  | .received _ (.tcpEvent (.opened connection)) => connection.connectionKey
  | .received _ (.tcpEvent (.closed key)) => key
  | .received _ (.tcpEvent (.updated connection)) => connection.connectionKey
  | .received _ (.tcpEvent (.rawBytesFromClientToOddBox key _ _)) => key
  | .received _ (.tcpEvent (.rawBytesFromOddBoxToClient key _ _)) => key
  | .received _ (.sentHttpRequestToBackend key _) => key
  | .received _ (.gotResponseFromBackend key _) => key
  | .inserted _ connection => connection.connectionKey

/-- Whether bytes of a connection are observed. -/
def carriesBytes : Action → Bool
  | .received _ (.tcpEvent (.rawBytesFromClientToOddBox _ _ _)) => true
  | .received _ (.tcpEvent (.rawBytesFromOddBoxToClient _ _ _)) => true
  | _ => false

end Action

def step (self : MonitoringStation env) : Action → MonitoringStation env
  | .received now msg => self.receive true now msg
  | .inserted now connection => self.insertConnection true now connection

/-- The station after the actions. -/
def observed (env : Surroundings) (actions : List Action) : MonitoringStation env :=
  Machine.run step (.new env) actions

def Closes (k : ConnectionKey) (action : Action) : Prop :=
  ∃ now, action = .received now (.tcpEvent (.closed k))

def ClosedIn (actions : List Action) (k : ConnectionKey) : Prop :=
  ∃ action ∈ actions, Closes k action

/-- Nothing is said of a connection behind its `Close`. -/
def CloseIsLast (actions : List Action) : Prop :=
  ∀ before close after k, actions = before ++ close :: after → Closes k close →
    ∀ action ∈ after, action.key ≠ k

structure Forgotten (station : MonitoringStation env) (k : ConnectionKey) : Prop where
  tcp : station.tcpConnections k = none
  h1 : station.h1Observers k = none
  h2 : station.h2Observers k = none

/-- No bytes of the connection are being decoded. -/
def Undecoded (self : MonitoringStation env) (k : ConnectionKey) : Prop :=
  self.h1Observers k = none ∧ self.h2Observers k = none

theorem undecoded_congr {before after : MonitoringStation env} {k : ConnectionKey}
    (h1 : after.h1Observers = before.h1Observers) (h2 : after.h2Observers = before.h2Observers) :
    Undecoded after k ↔ Undecoded before k := by
  rw [Undecoded, Undecoded, h1, h2]

theorem undecoded_decodes {before after : MonitoringStation env} {key k : ConnectionKey}
    (h : MonitoringStation.Decodes before after key) :
    Undecoded after k ↔ Undecoded before k ∧ key ≠ k := by
  by_cases hk : k = key
  · subst hk
    refine iff_of_false ?_ (fun hboth => hboth.2 rfl)
    rintro ⟨h1none, h2none⟩
    cases h with
    | http2 observer h1 h2 =>
      rw [h2, Function.update_self] at h2none
      cases h2none
    | http1 observer h1 h2 =>
      rw [h1, Function.update_self] at h1none
      cases h1none
  · rw [and_iff_left (Ne.symm hk)]
    cases h with
    | http2 observer h1 h2 => rw [Undecoded, Undecoded, h1, h2, Function.update_of_ne hk]
    | http1 observer h1 h2 => rw [Undecoded, Undecoded, h1, h2, Function.update_of_ne hk]

section Steps

variable (self : MonitoringStation env) {k : ConnectionKey}

/-- An action is about one connection. -/
theorem step_other {action : Action} (h : action.key ≠ k) :
    (step self action).tcpConnections k = self.tcpConnections k := by
  match action, h with
  | .received now (.tcpEvent (.opened connection)), h =>
    change (self.pushOpened connection).tcpConnections k = _
    unfold MonitoringStation.pushOpened
    split
    · split
      · exact self.updateConnection_other _ _ h
      · rfl
    · rfl
  | .received now (.tcpEvent (.closed key)), h => exact Function.update_of_ne (Ne.symm h) _ _
  | .received now (.tcpEvent (.updated connection)), h =>
    change (self.pushUpdated now connection).tcpConnections k = _
    unfold MonitoringStation.pushUpdated
    simp only
    split
    · exact self.updateConnection_other _ _ h
    · exact Function.update_of_ne (Ne.symm h) _ _
  | .received now (.tcpEvent (.rawBytesFromClientToOddBox key isHttp2 data)), h =>
    exact self.pushBytesFromClientToOddBox_other key isHttp2 data h
  | .received now (.tcpEvent (.rawBytesFromOddBoxToClient key isHttp2 data)), h =>
    exact self.pushBytesFromOddBoxToClient_other key isHttp2 data h
  | .received now (.sentHttpRequestToBackend key text), h =>
    exact self.updateConnection_other key _ h
  | .received now (.gotResponseFromBackend key text), h =>
    exact self.updateConnection_other key _ h
  | .inserted now connection, h => exact Function.update_of_ne (Ne.symm h) _ _

/-- The observers of a connection are made by its bytes, and never taken out. -/
theorem undecoded_step (action : Action) :
    Undecoded (step self action) k ↔
      Undecoded self k ∧ ¬ (action.carriesBytes = true ∧ action.key = k) := by
  match action with
  | .received now (.tcpEvent (.opened connection)) =>
    rw [and_iff_left (fun h => Bool.false_ne_true h.1)]
    change Undecoded (self.pushOpened connection) k ↔ _
    unfold MonitoringStation.pushOpened
    split
    · split
      · exact undecoded_congr (self.updateConnection_h1 _ _) (self.updateConnection_h2 _ _)
      · rfl
    · rfl
  | .received now (.tcpEvent (.closed key)) =>
    rw [and_iff_left (fun h => Bool.false_ne_true h.1)]
    exact undecoded_congr rfl rfl
  | .received now (.tcpEvent (.updated connection)) =>
    rw [and_iff_left (fun h => Bool.false_ne_true h.1)]
    change Undecoded (self.pushUpdated now connection) k ↔ _
    unfold MonitoringStation.pushUpdated
    simp only
    split
    · exact undecoded_congr (self.updateConnection_h1 _ _) (self.updateConnection_h2 _ _)
    · exact undecoded_congr rfl rfl
  | .received now (.tcpEvent (.rawBytesFromClientToOddBox key isHttp2 data)) =>
    have hdecodes := undecoded_decodes (k := k)
      (self.pushBytesFromClientToOddBox_decodes key isHttp2 data)
    exact hdecodes.trans (and_congr_right fun _ => (and_iff_right rfl).not.symm)
  | .received now (.tcpEvent (.rawBytesFromOddBoxToClient key isHttp2 data)) =>
    have hdecodes := undecoded_decodes (k := k)
      (self.pushBytesFromOddBoxToClient_decodes key isHttp2 data)
    exact hdecodes.trans (and_congr_right fun _ => (and_iff_right rfl).not.symm)
  | .received now (.sentHttpRequestToBackend key text) =>
    rw [and_iff_left (fun h => Bool.false_ne_true h.1)]
    exact undecoded_congr (self.updateConnection_h1 _ _) (self.updateConnection_h2 _ _)
  | .received now (.gotResponseFromBackend key text) =>
    rw [and_iff_left (fun h => Bool.false_ne_true h.1)]
    exact undecoded_congr (self.updateConnection_h1 _ _) (self.updateConnection_h2 _ _)
  | .inserted now connection =>
    rw [and_iff_left (fun h => Bool.false_ne_true h.1)]
    exact undecoded_congr rfl rfl

end Steps

/-! ## Closed connections -/

theorem undecoded_run (self : MonitoringStation env) (actions : List Action)
    (k : ConnectionKey) :
    Undecoded (Machine.run step self actions) k ↔
      Undecoded self k ∧ ∀ action ∈ actions, ¬ (action.carriesBytes = true ∧ action.key = k) := by
  induction actions generalizing self with
  | nil => simp
  | cons action actions ih =>
    rw [Machine.run_cons, ih, undecoded_step, List.forall_mem_cons, and_assoc]

theorem run_other (self : MonitoringStation env) {actions : List Action} {k : ConnectionKey}
    (h : ∀ action ∈ actions, action.key ≠ k) :
    (Machine.run step self actions).tcpConnections k = self.tcpConnections k := by
  induction actions generalizing self with
  | nil => rfl
  | cons action actions ih =>
    obtain ⟨hfirst, hrest⟩ := List.forall_mem_cons.mp h
    rw [Machine.run_cons, ih _ hrest, step_other self hfirst]

/-- A closed connection is not known, whatever happened before. -/
theorem run_closed (self : MonitoringStation env) {actions : List Action} {k : ConnectionKey}
    (hlast : CloseIsLast actions) (hclosed : ClosedIn actions k) :
    (Machine.run step self actions).tcpConnections k = none := by
  obtain ⟨close, hmem, hcloses⟩ := hclosed
  obtain ⟨before, after, rfl⟩ := List.append_of_mem hmem
  have hquiet := hlast before close after k rfl hcloses
  obtain ⟨now, rfl⟩ := hcloses
  rw [Machine.run_append, Machine.run_cons, run_other _ hquiet]
  exact Function.update_self _ _ _

theorem CloseIsLast.of_append {first later : List Action} (h : CloseIsLast (first ++ later)) :
    CloseIsLast first := by
  intro before close after k hsplit hcloses action hmem
  apply h before close (after ++ later) k _ hcloses action (List.mem_append_left _ hmem)
  rw [hsplit, List.append_assoc, List.cons_append]

/-- **What is remembered of closed connections**: in every state of a run in which the `Close`
of a connection is its last event, all three maps have forgotten the connections closed so
far, exactly when no bytes of those connections were observed. -/
theorem closed_forgotten_iff (env : Surroundings) (actions : List Action)
    (hlast : CloseIsLast actions) :
    (∀ first, first <+: actions → ∀ k, ClosedIn first k → Forgotten (observed env first) k) ↔
      ∀ k, ClosedIn actions k → ∀ action ∈ actions,
        ¬ (action.carriesBytes = true ∧ action.key = k) := by
  constructor
  · intro hforgotten k hclosed
    have hall := hforgotten actions List.prefix_rfl k hclosed
    exact ((undecoded_run _ actions k).mp ⟨hall.h1, hall.h2⟩).2
  · rintro hquiet first ⟨later, rfl⟩ k hclosed
    obtain ⟨close, hmem, hcloses⟩ := hclosed
    have hnone := hquiet k ⟨close, List.mem_append_left _ hmem, hcloses⟩
    have hundecoded : Undecoded (observed env first) k := by
      apply (undecoded_run _ first k).mpr
      exact ⟨⟨rfl, rfl⟩, fun action hin => hnone action (List.mem_append_left _ hin)⟩
    exact ⟨run_closed _ hlast.of_append ⟨close, hmem, hcloses⟩, hundecoded.1, hundecoded.2⟩

/-! ## A connection of which bytes are observed -/

theorem closeIsLast_of_front {front : List Action} (h : ∀ action ∈ front, ∀ k, ¬ Closes k action)
    (last : Action) : CloseIsLast (front ++ [last]) := by
  intro before close after k hsplit hcloses
  induction after using List.reverseRecOn with
  | nil => simp
  | append_singleton after final =>
    rw [← List.cons_append, ← List.append_assoc] at hsplit
    obtain ⟨hfront, -⟩ := List.append_inj' hsplit rfl
    have hmem : close ∈ front := by
      rw [hfront]
      exact List.mem_append_right _ List.mem_cons_self
    exact absurd hcloses (h close hmem k)

/-- A parser that finds no head. -/
def noHead (α : Type) : H1.HeadParser α where
  IsHead _ _ := False
  parse _ := .failed
  nonempty h := h.elim
  complete_iff := by simp
  incomplete_iff := by simp

def quietSurroundings : Surroundings where
  hpack := H2.staticHpack
  httparse := ⟨noHead _, noHead _⟩
  processBySocket _ _ := none

def clientConnection : ProxyActiveTCPConnection where
  incomingSni := some "site.test"
  clientSocketAddress := none
  oddBoxSocket := none
  connectionKey := 7
  clientAddrString := "???"
  incomingConnectionUsesTls := true
  tlsTerminated := true
  httpTerminated := false
  version := 1
  resolvedConnectionType := some .pendingInit
  isGrpc := none
  httpVersion := none
  isWebsocket := none
  outgoingTunnelType := none

/-- The connection is opened and closed. -/
def silentRun : List Action :=
  [.inserted 0 clientConnection, .received 1 (.tcpEvent (.opened clientConnection)),
    .received 2 (.tcpEvent (.closed 7))]

/-- The same, and between the two the client sends the start of a preface. -/
def talkingRun : List Action :=
  [.inserted 0 clientConnection, .received 1 (.tcpEvent (.opened clientConnection)),
    .received 2 (.tcpEvent (.rawBytesFromClientToOddBox 7 true [80, 82, 73])),
    .received 3 (.tcpEvent (.closed 7))]

theorem closed_forgotten_silent :
    Forgotten (observed quietSurroundings silentRun) 7 := by
  have hfront : ∀ action ∈ [Action.inserted 0 clientConnection,
      .received 1 (.tcpEvent (.opened clientConnection))], ∀ k, ¬ Closes k action := by
    simp [Closes]
  have hlast : CloseIsLast silentRun := closeIsLast_of_front hfront _
  apply (closed_forgotten_iff quietSurroundings silentRun hlast).mpr
  · simp [silentRun, Action.carriesBytes]
  · exact List.prefix_rfl
  · exact ⟨_, by simp [silentRun], 2, rfl⟩

/-- Behind the `Close`, the three bytes are still in the observer of the connection. -/
theorem closed_remembered_talking :
    CloseIsLast talkingRun ∧ ClosedIn talkingRun 7 ∧
      ((observed quietSurroundings talkingRun).h2Observers 7).map (fun o => o.incoming.buffer) =
        some [80, 82, 73] ∧
      ¬ Forgotten (observed quietSurroundings talkingRun) 7 := by
  have hkept : ((observed quietSurroundings talkingRun).h2Observers 7).map
      (fun o => o.incoming.buffer) = some [80, 82, 73] := by decide
  have hfront : ∀ action ∈ [Action.inserted 0 clientConnection,
      .received 1 (.tcpEvent (.opened clientConnection)),
      .received 2 (.tcpEvent (.rawBytesFromClientToOddBox 7 true [80, 82, 73]))],
      ∀ k, ¬ Closes k action := by
    simp [Closes]
  refine ⟨closeIsLast_of_front hfront _, ⟨_, by simp [talkingRun], 3, rfl⟩, hkept, ?_⟩
  · intro hforgotten
    rw [hforgotten.h2] at hkept
    cases hkept

end OddBox.Monitoring

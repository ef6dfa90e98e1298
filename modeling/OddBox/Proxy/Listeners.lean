import Mathlib
import OddBox.Machine
import OddBox.Configuration.V3

/-!
The listeners of `proxy.rs` and their permits: `listen` starts `listen_http` and
`listen_https` and restarts them when an address has changed; each takes a permit,
forgets it, waits for a connection and leaves it to the task of the connection to give
the permit back.
-/

namespace OddBox.Proxy

open OddBox.Configuration (IpAddr)

structure SocketAddr where
  ip : IpAddr
  port : UInt16
  deriving DecidableEq, Repr

inductive Protocol where
  | http
  | https
  deriving DecidableEq, Repr

/-- Where a listener is. -/
inductive Place where
  | starting
  /-- At the top of its loop, or waiting for a permit. -/
  | looping
  /-- With a permit, waiting for a connection. -/
  | accepting
  /-- With a permit and a connection, reading the configuration. -/
  | accepted
  | ended
  deriving DecidableEq, Repr

structure Listener where
  place : Place
  /-- Its token is cancelled. -/
  cancelled : Bool
  deriving DecidableEq, Repr

/-- Where `listen` is; it waits for cancelled listeners before it starts new ones. -/
inductive Driver where
  | sleeping
  | waitingHttp (bindAddr bindAddrTls : SocketAddr)
  | waitingHttps (bindAddr bindAddrTls : SocketAddr)
  deriving DecidableEq, Repr

structure Listeners where
  initialIp : IpAddr
  previousBindAddr : SocketAddr
  previousBindAddrTls : SocketAddr
  driver : Driver
  http : Option Listener
  https : Option Listener
  /-- The permits of `ACTIVE_TCP_CONNECTIONS_SEMAPHORE`. -/
  available : Nat
  /-- The tasks that handle a connection. -/
  connections : Nat
  deriving DecidableEq, Repr

def Listeners.initial (bindAddr bindAddrTls : SocketAddr) : Listeners where
  initialIp := bindAddr.ip
  previousBindAddr := bindAddr
  previousBindAddrTls := bindAddrTls
  driver := .sleeping
  http := none
  https := none
  available := 200
  connections := 0

def Listeners.listener (self : Listeners) : Protocol → Option Listener
  | .http => self.http
  | .https => self.https

def Listeners.setListener (self : Listeners) (listener : Option Listener) :
    Protocol → Listeners
  | .http => { self with http := listener }
  | .https => { self with https := listener }

def Listeners.at (self : Listeners) (protocol : Protocol) (place : Place) : Bool :=
  (self.listener protocol).any fun listener => listener.place == place

def Listeners.move (self : Listeners) (protocol : Protocol) (place : Place) : Listeners :=
  self.setListener ((self.listener protocol).map fun listener =>
    { listener with place := place }) protocol

def Listeners.cancel (self : Listeners) (protocol : Protocol) : Listeners :=
  self.setListener ((self.listener protocol).map fun listener =>
    { listener with cancelled := true }) protocol

/-! ## The steps -/

/-- Both listeners are started, at the new addresses. -/
def Listeners.start (self : Listeners) (bindAddr bindAddrTls : SocketAddr) : Listeners :=
  { self with
    previousBindAddr := bindAddr
    previousBindAddrTls := bindAddrTls
    driver := .sleeping
    http := some ⟨.starting, false⟩
    https := some ⟨.starting, false⟩ }

/-- Once no http listener is left, the https listener is cancelled. -/
def Listeners.cancelHttps (self : Listeners) (bindAddr bindAddrTls : SocketAddr) : Listeners :=
  if self.https.isSome then
    { self.cancel .https with driver := .waitingHttps bindAddr bindAddrTls }
  else self.start bindAddr bindAddrTls

/-- An iteration of `listen`, with the addresses of the configuration. -/
def Listeners.check (self : Listeners) (ip : Option IpAddr) (httpPort tlsPort : Option UInt16) :
    Listeners :=
  let srvIp := ip.getD self.initialIp
  let bindAddr : SocketAddr := ⟨srvIp, httpPort.getD self.previousBindAddr.port⟩
  let bindAddrTls : SocketAddr := ⟨srvIp, tlsPort.getD self.previousBindAddrTls.port⟩
  if self.driver = .sleeping ∧ (self.http.isNone ∨ self.https.isNone ∨
      self.previousBindAddr ≠ bindAddr ∨ self.previousBindAddrTls ≠ bindAddrTls) then
    if self.http.isSome then
      { self.cancel .http with driver := .waitingHttp bindAddr bindAddrTls }
    else self.cancelHttps bindAddr bindAddrTls
  else self

/-- `listen` goes on after the listener it waits for has ended. -/
def Listeners.join (self : Listeners) : Listeners :=
  match self.driver with
  | .sleeping => self
  | .waitingHttp bindAddr bindAddrTls =>
    if self.at .http .ended then self.cancelHttps bindAddr bindAddrTls else self
  | .waitingHttps bindAddr bindAddrTls =>
    if self.at .https .ended then self.start bindAddr bindAddrTls else self

inductive Event where
  | check (ip : Option IpAddr) (httpPort tlsPort : Option UInt16)
  | join
  | bound (protocol : Protocol)
  | bindFails (protocol : Protocol)
  | acquire (protocol : Protocol)
  | accept (protocol : Protocol)
  | acceptError (protocol : Protocol)
  | serve (protocol : Protocol)
  /-- The exit flag of the program is seen. -/
  | exit (protocol : Protocol)
  /-- A cancelled listener is dropped where it waits, or leaves its loop. -/
  | stop (protocol : Protocol)
  | connectionEnds
  /-- The task of a connection panics, before it gives the permit back. -/
  | connectionPanics
  deriving DecidableEq, Repr

/-- An event that cannot happen in the state leaves it as it is. -/
def Listeners.step (self : Listeners) : Event → Listeners
  | .check ip httpPort tlsPort => self.check ip httpPort tlsPort
  | .join => self.join
  | .bound protocol =>
    if self.at protocol .starting then self.move protocol .looping else self
  | .bindFails protocol =>
    if self.at protocol .starting then self.move protocol .ended else self
  | .acquire protocol =>
    if self.at protocol .looping ∧ 0 < self.available then
      { self.move protocol .accepting with available := self.available - 1 }
    else self
  | .accept protocol =>
    if self.at protocol .accepting then self.move protocol .accepted else self
  | .acceptError protocol =>
    if self.at protocol .accepting then
      { self.move protocol .looping with available := self.available + 1 }
    else self
  | .serve protocol =>
    if self.at protocol .accepted then
      { self.move protocol .looping with connections := self.connections + 1 }
    else self
  | .exit protocol =>
    if self.at protocol .looping then self.move protocol .ended else self
  | .stop protocol =>
    if (self.listener protocol).any Listener.cancelled then self.move protocol .ended else self
  | .connectionEnds =>
    if 0 < self.connections then
      { self with connections := self.connections - 1, available := self.available + 1 }
    else self
  | .connectionPanics =>
    if 0 < self.connections then { self with connections := self.connections - 1 } else self

/-! ## The permits -/

def Place.permits : Place → Nat
  | .accepting => 1
  | .accepted => 1
  | _ => 0

def permitsOf (listener : Option Listener) : Nat :=
  listener.elim 0 fun listener => listener.place.permits

/-- The permits that are available, those of the connections and those of the listeners. -/
def Listeners.permits (self : Listeners) : Nat :=
  self.available + self.connections + (permitsOf self.http + permitsOf self.https)

def Listeners.Conserved (self : Listeners) : Prop := self.permits = 200

instance : DecidablePred Listeners.Conserved := fun _ => inferInstanceAs (Decidable (_ = _))

/-- A permit is lost by the event: with the listener that is stopped, or the task that
panics. -/
def Listeners.loses (self : Listeners) : Event → Nat
  | .stop protocol =>
    if (self.listener protocol).any Listener.cancelled then
      permitsOf (self.listener protocol)
    else 0
  | .connectionPanics => if 0 < self.connections then 1 else 0
  | _ => 0

/-- While `listen` waits for the https listener, the http listener has ended. -/
def Listeners.Orderly (self : Listeners) : Prop :=
  ∀ bindAddr bindAddrTls, self.driver = .waitingHttps bindAddr bindAddrTls →
    ∀ listener, self.http = some listener → listener.place = .ended

section

variable {self : Listeners} {protocol : Protocol}

@[simp] theorem move_available (place : Place) :
    (self.move protocol place).available = self.available := by
  cases protocol <;> rfl

@[simp] theorem move_connections (place : Place) :
    (self.move protocol place).connections = self.connections := by
  cases protocol <;> rfl

@[simp] theorem move_driver (place : Place) :
    (self.move protocol place).driver = self.driver := by
  cases protocol <;> rfl

theorem at_iff {place : Place} : self.at protocol place = true ↔
    ∃ listener, self.listener protocol = some listener ∧ listener.place = place := by
  rw [Listeners.at]
  cases self.listener protocol <;> simp

theorem permits_of_at {place : Place} (h : self.at protocol place = true) :
    permitsOf (self.listener protocol) = place.permits := by
  obtain ⟨listener, hlistener, rfl⟩ := at_iff.mp h
  rw [hlistener]
  rfl

/-- A listener that moves takes up the permits of its new place. -/
theorem permits_move (place : Place) (h : (self.listener protocol).isSome = true) :
    (self.move protocol place).permits + permitsOf (self.listener protocol) =
      self.permits + place.permits := by
  obtain ⟨listener, hlistener⟩ := Option.isSome_iff_exists.mp h
  cases protocol with
  | http =>
    change self.http = some listener at hlistener
    simp only [Listeners.permits, Listeners.move, Listeners.setListener, Listeners.listener,
      hlistener, Option.map_some, permitsOf, Option.elim_some]
    omega
  | https =>
    change self.https = some listener at hlistener
    simp only [Listeners.permits, Listeners.move, Listeners.setListener, Listeners.listener,
      hlistener, Option.map_some, permitsOf, Option.elim_some]
    omega

theorem permits_moved {place next : Place} (h : self.at protocol place = true) :
    (self.move protocol next).permits + place.permits = self.permits + next.permits := by
  have hmove := @permits_move self protocol next (by
    obtain ⟨listener, hlistener, -⟩ := at_iff.mp h
    rw [hlistener]
    rfl)
  rwa [permits_of_at h] at hmove

/-- A listener may move between places with as many permits. -/
theorem permits_moveIf {place next : Place} (h : place.permits = next.permits) :
    (if self.at protocol place then self.move protocol next else self).permits =
      self.permits := by
  split_ifs with hat
  · have hmoved := @permits_moved _ _ _ next hat
    omega
  · rfl

theorem permitsOf_cancelled (listener : Option Listener) :
    permitsOf (listener.map fun listener => { listener with cancelled := true }) =
      permitsOf listener := by
  cases listener <;> rfl

theorem permits_cancel : (self.cancel protocol).permits = self.permits := by
  cases protocol <;>
    simp only [Listeners.permits, Listeners.cancel, Listeners.setListener, Listeners.listener,
      permitsOf_cancelled]

/-! ### Restarting -/

theorem permits_start {bindAddr bindAddrTls : SocketAddr} (hhttp : permitsOf self.http = 0)
    (hhttps : permitsOf self.https = 0) :
    (self.start bindAddr bindAddrTls).permits = self.permits := by
  simp only [Listeners.permits, Listeners.start, hhttp, hhttps]
  rfl

theorem permits_cancelHttps {bindAddr bindAddrTls : SocketAddr}
    (hhttp : permitsOf self.http = 0) :
    (self.cancelHttps bindAddr bindAddrTls).permits = self.permits := by
  rw [Listeners.cancelHttps]
  split_ifs with hsome
  · exact permits_cancel
  · rw [Option.not_isSome_iff_eq_none] at hsome
    exact permits_start hhttp (by rw [hsome]; rfl)

theorem permits_check (ip : Option IpAddr) (httpPort tlsPort : Option UInt16) :
    (self.check ip httpPort tlsPort).permits = self.permits := by
  rw [Listeners.check]
  dsimp only
  split_ifs with hchanged hsome
  · exact permits_cancel
  · rw [Option.not_isSome_iff_eq_none] at hsome
    exact permits_cancelHttps (by rw [hsome]; rfl)
  · rfl

theorem permitsOf_ended {listener : Option Listener}
    (h : ∀ l, listener = some l → l.place = .ended) : permitsOf listener = 0 := by
  cases listener with
  | none => rfl
  | some l =>
    change l.place.permits = 0
    rw [h l rfl]
    rfl

theorem permits_join (horderly : self.Orderly) : self.join.permits = self.permits := by
  rw [Listeners.join]
  split
  · rfl
  · split_ifs with hended
    · exact permits_cancelHttps (permits_of_at hended)
    · rfl
  · next bindAddr bindAddrTls hdriver =>
    split_ifs with hended
    · exact permits_start (permitsOf_ended (horderly _ _ hdriver)) (permits_of_at hended)
    · rfl

/-! ### Every step -/

/-- What an event does to the permits: it keeps them but for the one it loses. -/
theorem permits_step (horderly : self.Orderly) (event : Event) :
    (self.step event).permits + self.loses event = self.permits := by
  cases event with
  | check ip httpPort tlsPort => exact permits_check ip httpPort tlsPort
  | join => exact permits_join horderly
  | bound protocol => exact permits_moveIf rfl
  | bindFails protocol => exact permits_moveIf rfl
  | acquire protocol =>
    simp only [Listeners.step, Listeners.loses]
    split_ifs with hat
    · have hmoved := @permits_moved _ _ _ .accepting hat.1
      have havailable := hat.2
      simp only [Listeners.permits, Place.permits, move_available, move_connections] at hmoved ⊢
      omega
    · rfl
  | accept protocol => exact permits_moveIf rfl
  | acceptError protocol =>
    simp only [Listeners.step, Listeners.loses]
    split_ifs with hat
    · have hmoved := @permits_moved _ _ _ .looping hat
      simp only [Listeners.permits, Place.permits, move_available, move_connections] at hmoved ⊢
      omega
    · rfl
  | serve protocol =>
    simp only [Listeners.step, Listeners.loses]
    split_ifs with hat
    · have hmoved := @permits_moved _ _ _ .looping hat
      simp only [Listeners.permits, Place.permits, move_available, move_connections] at hmoved ⊢
      omega
    · rfl
  | exit protocol => exact permits_moveIf rfl
  | stop protocol =>
    simp only [Listeners.step, Listeners.loses]
    split_ifs with hcancelled
    · refine permits_move .ended ?_
      cases hlistener : self.listener protocol with
      | none =>
        rw [hlistener] at hcancelled
        contradiction
      | some listener => rfl
    · rfl
  | connectionEnds =>
    simp only [Listeners.step, Listeners.loses]
    split_ifs with hlive
    · simp only [Listeners.permits]
      omega
    · rfl
  | connectionPanics =>
    simp only [Listeners.step, Listeners.loses]
    split_ifs with hlive
    · simp only [Listeners.permits]
      omega
    · rfl

/-! ### The order of restarts -/

theorem orderly_move {next : Place} (horderly : self.Orderly)
    (h : next = .ended ∨ ∃ place, place ≠ .ended ∧ self.at protocol place = true) :
    (self.move protocol next).Orderly := by
  intro bindAddr bindAddrTls hdriver listener hlistener
  rw [move_driver] at hdriver
  cases protocol with
  | https => exact horderly _ _ hdriver listener hlistener
  | http =>
    obtain ⟨before, hbefore, rfl⟩ := Option.map_eq_some_iff.mp hlistener
    rcases h with rfl | ⟨place, hplace, hat⟩
    · rfl
    · obtain ⟨found, hfound, rfl⟩ := at_iff.mp hat
      exact absurd (horderly _ _ hdriver found hfound) hplace

theorem orderly_moveIf {place next : Place} (horderly : self.Orderly) (hplace : place ≠ .ended) :
    (if self.at protocol place then self.move protocol next else self).Orderly := by
  split_ifs with hat
  · exact orderly_move horderly (.inr ⟨place, hplace, hat⟩)
  · exact horderly

theorem orderly_start (bindAddr bindAddrTls : SocketAddr) :
    (self.start bindAddr bindAddrTls).Orderly := by
  intro _ _ hdriver
  contradiction

theorem orderly_cancelHttps {bindAddr bindAddrTls : SocketAddr}
    (hhttp : ∀ listener, self.http = some listener → listener.place = .ended) :
    (self.cancelHttps bindAddr bindAddrTls).Orderly := by
  rw [Listeners.cancelHttps]
  split_ifs
  · intro _ _ _ listener hlistener
    exact hhttp listener hlistener
  · exact orderly_start _ _

theorem orderly_step (horderly : self.Orderly) (event : Event) : (self.step event).Orderly := by
  cases event with
  | check ip httpPort tlsPort =>
    simp only [Listeners.step, Listeners.check]
    split_ifs with hchanged hsome
    · intro _ _ hdriver
      contradiction
    · rw [Option.not_isSome_iff_eq_none] at hsome
      apply orderly_cancelHttps
      intro listener hlistener
      rw [hsome] at hlistener
      contradiction
    · exact horderly
  | join =>
    simp only [Listeners.step, Listeners.join]
    split
    · exact horderly
    · split_ifs with hended
      · apply orderly_cancelHttps
        intro listener hlistener
        obtain ⟨found, hfound, hplace⟩ := at_iff.mp hended
        obtain rfl := Option.some.inj (hlistener.symm.trans hfound)
        exact hplace
      · exact horderly
    · split_ifs
      · exact orderly_start _ _
      · exact horderly
  | bound protocol => exact orderly_moveIf horderly (by decide)
  | bindFails protocol => exact orderly_moveIf horderly (by decide)
  | accept protocol => exact orderly_moveIf horderly (by decide)
  | exit protocol => exact orderly_moveIf horderly (by decide)
  | acquire protocol =>
    simp only [Listeners.step]
    split_ifs with hat
    · exact orderly_move horderly (.inr ⟨_, by decide, hat.1⟩)
    · exact horderly
  | acceptError protocol =>
    simp only [Listeners.step]
    split_ifs with hat
    · exact orderly_move horderly (.inr ⟨_, by decide, hat⟩)
    · exact horderly
  | serve protocol =>
    simp only [Listeners.step]
    split_ifs with hat
    · exact orderly_move horderly (.inr ⟨_, by decide, hat⟩)
    · exact horderly
  | stop protocol =>
    simp only [Listeners.step]
    split_ifs
    · exact orderly_move horderly (.inl rfl)
    · exact horderly
  | connectionEnds =>
    simp only [Listeners.step]
    split_ifs
    · exact horderly
    · exact horderly
  | connectionPanics =>
    simp only [Listeners.step]
    split_ifs
    · exact horderly
    · exact horderly

end

/-! ## Conservation -/

/-- No cancelled listener is stopped while it holds a permit, and no task panics. -/
def Listeners.Keeps (self : Listeners) : Event → Prop
  | .stop protocol => ∀ listener, self.listener protocol = some listener →
      listener.cancelled = true → listener.place ≠ .accepting ∧ listener.place ≠ .accepted
  | .connectionPanics => self.connections = 0
  | _ => True

theorem loses_eq_zero_iff (self : Listeners) (event : Event) :
    self.loses event = 0 ↔ self.Keeps event := by
  cases event with
  | stop protocol =>
    simp only [Listeners.loses, Listeners.Keeps]
    cases self.listener protocol with
    | none => simp
    | some listener =>
      obtain ⟨place, cancelled⟩ := listener
      cases place <;> cases cancelled <;> simp [permitsOf, Place.permits]
  | connectionPanics =>
    simp only [Listeners.loses, Listeners.Keeps]
    by_cases hlive : 0 < self.connections
    · rw [if_pos hlive]
      exact iff_of_false Nat.one_ne_zero (Nat.ne_of_gt hlive)
    · rw [if_neg hlive]
      exact iff_of_true rfl (Nat.eq_zero_of_not_pos hlive)
  | _ => exact iff_of_true rfl trivial

/-- Available permits, connections and waiting listeners make up the 200 permits in all
states of a run, exactly when no step of the run stops a listener with a permit or
panics in the task of a connection. -/
theorem permits_conserved_iff (bindAddr bindAddrTls : SocketAddr) (events : List Event) :
    (∀ first, first <+: events →
      (Machine.run Listeners.step (.initial bindAddr bindAddrTls) first).Conserved) ↔
      Machine.Meets Listeners.step Listeners.Keeps (.initial bindAddr bindAddrTls) events := by
  apply Machine.meets_iff (J := Listeners.Orderly)
  · intro self event horderly
    exact orderly_step horderly event
  · intro self event horderly hconserved
    have hstep := permits_step horderly event
    rw [← loses_eq_zero_iff]
    unfold Listeners.Conserved at hconserved ⊢
    omega
  · intro _ _ hdriver
    contradiction
  · rfl

/-- What is lost does not come back. -/
theorem permits_run_le {self : Listeners} (horderly : self.Orderly) (events : List Event) :
    (Machine.run Listeners.step self events).permits ≤ self.permits := by
  induction events generalizing self with
  | nil => exact le_refl _
  | cons event events ih =>
    have hstep := permits_step horderly event
    have hrest := ih (orderly_step horderly event)
    rw [Machine.run_cons]
    omega

/-- A listener waits for a connection when its port is changed. -/
def portChange : List Event :=
  [.check none none none, .bound .http, .acquire .http, .check none (some 81) none, .stop .http]

theorem portChange_loses :
    ¬(Machine.run Listeners.step (.initial ⟨.v4 0 0 0 0, 80⟩ ⟨.v4 0 0 0 0, 443⟩)
        portChange).Conserved ∧
      ∀ events, (Machine.run Listeners.step (.initial ⟨.v4 0 0 0 0, 80⟩ ⟨.v4 0 0 0 0, 443⟩)
        (portChange ++ events)).permits ≤ 199 := by
  refine ⟨by decide, ?_⟩
  intro events
  rw [Machine.run_append]
  apply permits_run_le
  have hdriver : (Machine.run Listeners.step
      (.initial ⟨.v4 0 0 0 0, 80⟩ ⟨.v4 0 0 0 0, 443⟩) portChange).driver =
        .waitingHttp ⟨.v4 0 0 0 0, 81⟩ ⟨.v4 0 0 0 0, 443⟩ := by
    decide
  intro _ _ hwaiting
  rw [hdriver] at hwaiting
  contradiction

end OddBox.Proxy

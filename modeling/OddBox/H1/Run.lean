import Mathlib
import OddBox.H1.Transcript

/-!
The phases of an observation: while no upgrade is accepted, at the push that
completes the accepting response, and as a websocket.
-/

namespace OddBox.H1

open OddBox.Incremental

variable (httparse : Httparse)

/-! ## Before a websocket is opened -/

/-- What is observed of the bytes of both directions as long as no upgrade is
accepted. -/
def httpObservation (client server : List UInt8) : Observation where
  sent := ((requests httparse).decodeAll client).1.flatMap requestEvents
  received := ((responses httparse).decodeAll server).1.flatMap responseEvents
  observer := {
    clientToServer := ((requests httparse).decodeAll client).2
    serverToClient := ((responses httparse).decodeAll server).2
    state := if ((requests httparse).decodeAll client).1.any ParsedRequest.isUpgrade then
      .upgradeRequested else .http }

theorem httpObservation_nil : httpObservation httparse [] [] = .start := by
  have hclient : (requests httparse).decodeAll [] = ([], []) := FrontParser.decodeAll_nil _
  have hserver : (responses httparse).decodeAll [] = ([], []) := FrontParser.decodeAll_nil _
  simp only [httpObservation, hclient, hserver, List.flatMap_nil, List.any_nil,
    Bool.false_eq_true, if_false]
  rfl

/-- Bytes from the client, none after an upgrade request. -/
theorem httpObservation_client (client server chunk : List UInt8)
    (hquiet : ((requests httparse).decodeAll client).1.any ParsedRequest.isUpgrade = true →
      chunk = []) :
    (httpObservation httparse client server).step httparse (.clientToServer, chunk) =
      httpObservation httparse (client ++ chunk) server := by
  cases hasked : ((requests httparse).decodeAll client).1.any ParsedRequest.isUpgrade with
  | true =>
    rw [hquiet hasked, List.append_nil]
    simp only [Observation.step, httpObservation, H1Observer.push, List.append_nil, hasked,
      if_true, H1Observer.parse, H1Observer.readResponses, Decoder.decodeAll_rest,
      List.flatMap_nil, List.any_nil, Bool.false_eq_true, if_false]
  | false =>
    have happend := (requests httparse).decodeAll_append client chunk
    simp only [Observation.step, httpObservation, H1Observer.push, hasked, Bool.false_eq_true,
      if_false, H1Observer.parse, H1Observer.readRequests, H1Observer.readResponses,
      Decoder.decodeAll_rest, List.flatMap_nil, List.any_nil, List.append_nil, happend,
      List.flatMap_append, List.any_append, Bool.false_or]

/-- Bytes from the server that accept no upgrade. -/
theorem httpObservation_server (client server chunk : List UInt8)
    (hrefused : ((responses httparse).decodeAll (server ++ chunk)).1.any
      ParsedResponse.isUpgrade = false) :
    (httpObservation httparse client server).step httparse (.serverToClient, chunk) =
      httpObservation httparse client (server ++ chunk) := by
  have happend := (responses httparse).decodeAll_append server chunk
  have hnew : ((responses httparse).decodeAll
      (((responses httparse).decodeAll server).2 ++ chunk)).1.any
        ParsedResponse.isUpgrade = false := by
    rw [happend, List.any_append, Bool.or_eq_false_iff] at hrefused
    exact hrefused.2
  cases hasked : ((requests httparse).decodeAll client).1.any ParsedRequest.isUpgrade with
  | true =>
    simp only [Observation.step, httpObservation, H1Observer.push, hasked, if_true,
      H1Observer.parse, H1Observer.readResponses, hnew, Bool.false_eq_true, if_false, happend,
      List.flatMap_append, List.append_nil]
  | false =>
    simp only [Observation.step, httpObservation, H1Observer.push, hasked, Bool.false_eq_true,
      if_false, H1Observer.parse, H1Observer.readRequests, H1Observer.readResponses,
      Decoder.decodeAll_rest, List.flatMap_nil, List.any_nil, hnew, happend,
      List.flatMap_append, List.append_nil]

theorem observe_append (first second : List (DataDirection × List UInt8)) :
    observe httparse (first ++ second) =
      Machine.run (Observation.step httparse) (observe httparse first) second :=
  Machine.run_append _ _ _ _

/-- Events are only added. -/
theorem sent_mono (start : Observation) (pushes : List (DataDirection × List UInt8)) :
    start.sent <+: (Machine.run (Observation.step httparse) start pushes).sent := by
  have hstep : ∀ (now : Observation) (push : DataDirection × List UInt8),
      start.sent <+: now.sent → start.sent <+: (now.step httparse push).sent := by
    intro now push h
    exact h.trans (List.prefix_append _ _)
  exact Machine.run_invariant (I := fun now : Observation => start.sent <+: now.sent) hstep
    List.prefix_rfl pushes

/-- The run while the client sends nothing after an upgrade request and the server
accepts none. -/
theorem observe_http (pushes : List (DataDirection × List UInt8))
    (hquiet : ∀ first later, first ++ later = bytesOf .clientToServer pushes →
      ((requests httparse).decodeAll first).1.any ParsedRequest.isUpgrade = true → later = [])
    (hrefused : ((responses httparse).decodeAll (bytesOf .serverToClient pushes)).1.any
      ParsedResponse.isUpgrade = false) :
    observe httparse pushes = httpObservation httparse (bytesOf .clientToServer pushes)
      (bytesOf .serverToClient pushes) := by
  induction pushes using List.reverseRecOn with
  | nil => exact (httpObservation_nil httparse).symm
  | append_singleton pushes push ih =>
    obtain ⟨direction, chunk⟩ := push
    have hearlier : observe httparse pushes =
        httpObservation httparse (bytesOf .clientToServer pushes)
          (bytesOf .serverToClient pushes) := by
      apply ih
      · intro first later hsplit hasked
        have hall := hquiet first (later ++ bytesOf .clientToServer [(direction, chunk)])
          (by rw [← List.append_assoc, hsplit, bytesOf_append]) hasked
        exact (List.append_eq_nil_iff.mp hall).1
      · rw [bytesOf_append, Decoder.decodeAll_append, List.any_append,
          Bool.or_eq_false_iff] at hrefused
        exact hrefused.1
    rw [observe_append, hearlier, bytesOf_append, bytesOf_append]
    change (httpObservation httparse _ _).step httparse (direction, chunk) = _
    cases direction with
    | clientToServer =>
      rw [httpObservation_client]
      · simp [bytesOf]
      · intro hasked
        have hall := hquiet _ chunk (by simp [bytesOf]) hasked
        exact hall
    | serverToClient =>
      rw [httpObservation_server]
      · simp [bytesOf]
      · simpa [bytesOf] using hrefused

/-- After an upgrade request the client's bytes are only buffered, unless the
server accepts. -/
theorem run_upgradeRequested {start : Observation}
    (hstate : start.observer.state = .upgradeRequested)
    {pushes : List (DataDirection × List UInt8)}
    (hrefused : ((responses httparse).decodeAll (start.observer.serverToClient ++
      bytesOf .serverToClient pushes)).1.any ParsedResponse.isUpgrade = false) :
    (Machine.run (Observation.step httparse) start pushes).observer.clientToServer =
      start.observer.clientToServer ++ bytesOf .clientToServer pushes := by
  induction pushes generalizing start with
  | nil => rw [Machine.run_nil, bytesOf_nil, List.append_nil]
  | cons push pushes ih =>
    obtain ⟨sent, received, client, server, state⟩ := start
    obtain ⟨direction, chunk⟩ := push
    cases hstate
    rw [bytesOf_cons, ← List.append_assoc, Decoder.decodeAll_append, List.any_append,
      Bool.or_eq_false_iff] at hrefused
    cases direction with
    | clientToServer =>
      simp only [reduceCtorEq, if_false, List.append_nil] at hrefused
      simp only [Machine.run_cons, Observation.step, H1Observer.push, H1Observer.parse,
        H1Observer.readResponses, hrefused.1, Bool.false_eq_true, if_false, bytesOf_cons, if_true]
      rw [ih rfl hrefused.2, List.append_assoc]
    | serverToClient =>
      simp only [if_true] at hrefused
      simp only [Machine.run_cons, Observation.step, H1Observer.push, H1Observer.parse,
        H1Observer.readResponses, hrefused.1, Bool.false_eq_true, if_false, bytesOf_cons,
        reduceCtorEq, List.nil_append]
      rw [ih rfl hrefused.2]

/-! ## The opening -/

/-- What is observed when the server has just accepted an upgrade. -/
def openedObservation (client server : List UInt8) : Observation where
  sent := ((requests httparse).decodeAll client).1.flatMap requestEvents
  received := ((responses httparse).decodeAll server).1.flatMap responseEvents
  observer := {
    clientToServer := ((requests httparse).decodeAll client).2
    serverToClient := ((responses httparse).decodeAll server).2
    state := .webSocket }

/-- The push that completes an accepting response, whether or not an upgrade was
requested. What follows the response in it is still read as responses. -/
theorem httpObservation_opened (client server chunk : List UInt8)
    (hbefore : ((responses httparse).decodeAll server).1.any ParsedResponse.isUpgrade = false)
    (hafter : ((responses httparse).decodeAll (server ++ chunk)).1.any
      ParsedResponse.isUpgrade = true) :
    (httpObservation httparse client server).step httparse (.serverToClient, chunk) =
      openedObservation httparse client (server ++ chunk) := by
  have happend := (responses httparse).decodeAll_append server chunk
  have hnew : ((responses httparse).decodeAll
      (((responses httparse).decodeAll server).2 ++ chunk)).1.any
        ParsedResponse.isUpgrade = true := by
    rw [happend, List.any_append, hbefore, Bool.false_or] at hafter
    exact hafter
  cases hasked : ((requests httparse).decodeAll client).1.any ParsedRequest.isUpgrade with
  | true =>
    simp only [Observation.step, httpObservation, openedObservation, H1Observer.push, hasked,
      if_true, H1Observer.parse, H1Observer.readResponses, hnew, happend, List.flatMap_append,
      List.append_nil]
  | false =>
    simp only [Observation.step, httpObservation, openedObservation, H1Observer.push, hasked,
      Bool.false_eq_true, if_false, if_true, H1Observer.parse, H1Observer.readRequests,
      H1Observer.readResponses, Decoder.decodeAll_rest, List.flatMap_nil, List.any_nil, hnew,
      happend, List.flatMap_append, List.append_nil]

/-! ## As a websocket -/

/-- What is observed after frames, none of them a close frame. -/
def Observation.withFrames (self : Observation) (client server : List UInt8) : Observation where
  sent := self.sent ++
    (frames.decodeAll (self.observer.clientToServer ++ client)).1.flatMap sendEvents
  received := self.received ++
    (frames.decodeAll (self.observer.serverToClient ++ server)).1.flatMap receiveEvents
  observer := {
    clientToServer := (frames.decodeAll (self.observer.clientToServer ++ client)).2
    serverToClient := (frames.decodeAll (self.observer.serverToClient ++ server)).2
    state := .webSocket }

/-- No close frame is among what the bytes add to the buffers. -/
structure Observation.StaysOpen (self : Observation) (client server : List UInt8) : Prop where
  sent : (frames.decodeAll (self.observer.clientToServer ++ client)).1.any
    WebSocketFrame.isClose = false
  received : (frames.decodeAll (self.observer.serverToClient ++ server)).1.any
    WebSocketFrame.isClose = false

theorem withFrames_trans (start : Observation) (client server client' server' : List UInt8) :
    (start.withFrames client server).withFrames client' server' =
      start.withFrames (client ++ client') (server ++ server') := by
  have hclient := frames.decodeAll_append (start.observer.clientToServer ++ client) client'
  have hserver := frames.decodeAll_append (start.observer.serverToClient ++ server) server'
  simp only [Observation.withFrames, ← List.append_assoc, hclient, hserver, List.flatMap_append]

theorem staysOpen_earlier {start : Observation} {client server client' server' : List UInt8}
    (h : start.StaysOpen (client ++ client') (server ++ server')) :
    start.StaysOpen client server := by
  obtain ⟨hsent, hreceived⟩ := h
  rw [← List.append_assoc, frames.decodeAll_append, List.any_append,
    Bool.or_eq_false_iff] at hsent hreceived
  exact ⟨hsent.1, hreceived.1⟩

theorem staysOpen_later {start : Observation} {client server client' server' : List UInt8}
    (h : start.StaysOpen (client ++ client') (server ++ server')) :
    (start.withFrames client server).StaysOpen client' server' := by
  obtain ⟨hsent, hreceived⟩ := h
  rw [← List.append_assoc, frames.decodeAll_append, List.any_append,
    Bool.or_eq_false_iff] at hsent hreceived
  exact ⟨hsent.2, hreceived.2⟩

/-- Each push is read as frames in both directions. -/
theorem step_webSocket {start : Observation} (hstate : start.observer.state = .webSocket)
    (push : DataDirection × List UInt8)
    (hopen : start.StaysOpen (bytesOf .clientToServer [push]) (bytesOf .serverToClient [push])) :
    start.step httparse push =
      start.withFrames (bytesOf .clientToServer [push]) (bytesOf .serverToClient [push]) := by
  obtain ⟨sent, received, client, server, state⟩ := start
  obtain ⟨hsent, hreceived⟩ := hopen
  obtain ⟨direction, chunk⟩ := push
  cases hstate
  cases direction with
  | clientToServer =>
    simp only [bytesOf_cons, bytesOf_nil, if_true, reduceCtorEq, if_false, List.append_nil]
      at hsent hreceived ⊢
    simp only [Observation.step, Observation.withFrames, H1Observer.push, H1Observer.parse,
      H1Observer.readSent, H1Observer.readReceived, hsent, hreceived, Bool.false_eq_true,
      if_false, List.append_nil]
  | serverToClient =>
    simp only [bytesOf_cons, bytesOf_nil, if_true, reduceCtorEq, if_false, List.append_nil]
      at hsent hreceived ⊢
    simp only [Observation.step, Observation.withFrames, H1Observer.push, H1Observer.parse,
      H1Observer.readSent, H1Observer.readReceived, hsent, hreceived, Bool.false_eq_true,
      if_false, List.append_nil]

/-- The run of an open websocket: after at least one push all frames are read. -/
theorem run_webSocket {start : Observation} (hstate : start.observer.state = .webSocket)
    {pushes : List (DataDirection × List UInt8)} (hpushes : pushes ≠ [])
    (hopen : start.StaysOpen (bytesOf .clientToServer pushes) (bytesOf .serverToClient pushes)) :
    Machine.run (Observation.step httparse) start pushes =
      start.withFrames (bytesOf .clientToServer pushes) (bytesOf .serverToClient pushes) := by
  induction pushes generalizing start with
  | nil => exact absurd rfl hpushes
  | cons push pushes ih =>
    have hsplit : push :: pushes = [push] ++ pushes := rfl
    rw [hsplit, bytesOf_append, bytesOf_append] at hopen
    have hfirst := step_webSocket httparse hstate push (staysOpen_earlier hopen)
    rw [Machine.run_cons, hfirst, hsplit, bytesOf_append, bytesOf_append, ← withFrames_trans]
    cases pushes with
    | nil => rw [withFrames_trans, bytesOf_nil, bytesOf_nil, List.append_nil, List.append_nil,
        Machine.run_nil]
    | cons next pushes =>
      apply ih
      · rfl
      · intro h
        cases h
      · exact staysOpen_later hopen

end OddBox.H1

import OddBox.H1.UpgradeModes

/-!
The responses that the observer reads from pipelined exchanges, against those that the server
sends: a response to `HEAD` and one with status 1xx, 204 or 304 has no body, whatever length its
headers announce.
-/

namespace OddBox.H1

open OddBox.Incremental

variable {httparse : Httparse}

/-! ## Exchanges -/

/-- Whether a response has no body, whatever its headers say. -/
def bodiless (method : String) (status : UInt16) : Bool :=
  method == "HEAD" || (decide (100 ≤ status) && decide (status < 200)) || status == 204 ||
    status == 304

variable (httparse) in
/-- A response as it is sent to a request with the method. -/
structure Answer where
  method : String
  text : List UInt8
  head : ResponseHead
  body : List UInt8
  isHead : httparse.response.IsHead text head
  framed : body.length =
    if bodiless method (head.code.getD 200) then 0 else contentLength (headerTexts head.headers)

def Answer.bytes (answer : Answer httparse) : List UInt8 := answer.text ++ answer.body

/-- The length that the headers announce. -/
def Answer.announced (answer : Answer httparse) : Nat :=
  contentLength (headerTexts answer.head.headers)

def Answer.isBodiless (answer : Answer httparse) : Bool :=
  bodiless answer.method (answer.head.code.getD 200)

def Answer.response (answer : Answer httparse) : ParsedResponse where
  version := answer.head.version.getD 1
  statusCode := answer.head.code.getD 200
  reason := answer.head.reason.getD ""
  headers := headerTexts answer.head.headers
  body := if answer.body = [] then none else some answer.body

variable (httparse) in
/-- A request, its interim responses and its final one. -/
structure Exchange where
  request : RequestMessage httparse
  interim : List (Answer httparse)
  final : Answer httparse
  methods : ∀ answer ∈ interim ++ [final], answer.method = request.request.method
  isInterim : ∀ answer ∈ interim, answer.response.isInterim = true
  isFinal : final.response.isInterim = false

def Exchange.answers (exchange : Exchange httparse) : List (Answer httparse) :=
  exchange.interim ++ [exchange.final]

variable (httparse) in
/-- The exchanges of a connection. Nothing is answered behind a response that accepts a
websocket. -/
structure Connection where
  exchanges : List (Exchange httparse)
  accepted : ∀ before answer after,
    exchanges.flatMap Exchange.answers = before ++ answer :: after →
      answer.response.isUpgrade = true → after = []

def Connection.answers (connection : Connection httparse) : List (Answer httparse) :=
  connection.exchanges.flatMap Exchange.answers

/-- The pushes carry the bytes of the connection, cut and interleaved in any way. -/
structure Connection.Carried (connection : Connection httparse)
    (pushes : List (DataDirection × List UInt8)) : Prop where
  client : bytesOf .clientToServer pushes =
    (connection.exchanges.map fun exchange => exchange.request.bytes).flatten
  server : bytesOf .serverToClient pushes = (connection.answers.map Answer.bytes).flatten

def HttpData.response? : HttpData → Option ParsedResponse
  | .response resp => some resp
  | _ => none

/-- The responses among the events of the server are those sent, and no byte is left. -/
structure Connection.Framed (connection : Connection httparse)
    (pushes : List (DataDirection × List UInt8)) : Prop where
  events : (observe httparse pushes).received.filterMap HttpData.response? =
    connection.answers.map Answer.response
  consumed : (observe httparse pushes).observer.serverToClient = []

/-! ## The server's bytes -/

variable (httparse) in
/-- The responses read so far are those that the bytes decode to. -/
structure ReadsResponses (observation : Observation) (server : List UInt8) : Prop where
  received : observation.received = ((responses httparse).decodeAll server).1.flatMap responseEvents
  left : observation.observer.serverToClient = ((responses httparse).decodeAll server).2

/-- Whatever the client sends: until a websocket is accepted the server's bytes are read as
responses. -/
theorem ReadsResponses.step {observation : Observation} {server : List UInt8}
    (h : ReadsResponses httparse observation server)
    (hstate : observation.observer.state ≠ .webSocket) (push : DataDirection × List UInt8) :
    ReadsResponses httparse (observation.step httparse push)
        (server ++ bytesOf .serverToClient [push]) ∧
      (((responses httparse).decodeAll (server ++ bytesOf .serverToClient [push])).1.any
          ParsedResponse.isUpgrade = false →
        (observation.step httparse push).observer.state ≠ .webSocket) := by
  obtain ⟨sent, received, client, left, state⟩ := observation
  obtain ⟨hreceived, hleft⟩ := h
  simp only at hreceived hleft hstate
  subst hreceived hleft
  have happend := (responses httparse).decodeAll_append server (bytesOf .serverToClient [push])
  have hpushed : ((responses httparse).decodeAll server).2 ++ bytesOf .serverToClient [push] =
      (H1Observer.push ⟨client, ((responses httparse).decodeAll server).2, state⟩ push.1
        push.2).serverToClient := by
    obtain ⟨direction, chunk⟩ := push
    cases direction with
    | clientToServer => simp [bytesOf_cons, H1Observer.push]
    | serverToClient => simp [bytesOf_cons, H1Observer.push]
  have hsame := push_state ⟨client, ((responses httparse).decodeAll server).2, state⟩ push
  rw [hpushed] at happend
  simp only [Observation.step]
  generalize H1Observer.push ⟨client, ((responses httparse).decodeAll server).2, state⟩ push.1
    push.2 = pushed at happend hsame ⊢
  obtain ⟨client', server', state'⟩ := pushed
  simp only at hsame happend
  subst hsame
  -- both branches read the server's buffer by the same loop
  cases state' with
  | http =>
    refine ⟨⟨?_, ?_⟩, ?_⟩
    · simp only [H1Observer.parse, H1Observer.readRequests, H1Observer.readResponses, happend,
        List.flatMap_append]
    · simp only [H1Observer.parse, H1Observer.readRequests, H1Observer.readResponses, happend]
    · intro hnone
      rw [happend, List.any_append, Bool.or_eq_false_iff] at hnone
      simp only [H1Observer.parse, H1Observer.readRequests, H1Observer.readResponses, hnone.2,
        Bool.false_eq_true, if_false]
      split
      · decide
      · decide
  | upgradeRequested =>
    refine ⟨⟨?_, ?_⟩, ?_⟩
    · simp only [H1Observer.parse, H1Observer.readResponses, happend, List.flatMap_append]
    · simp only [H1Observer.parse, H1Observer.readResponses, happend]
    · intro hnone
      rw [happend, List.any_append, Bool.or_eq_false_iff] at hnone
      simp only [H1Observer.parse, H1Observer.readResponses, hnone.2, Bool.false_eq_true, if_false]
      decide
  | webSocket => exact absurd rfl hstate

theorem readsResponses_start : ReadsResponses httparse .start [] := by
  have hnil : (responses httparse).decodeAll [] = ([], []) := FrontParser.decodeAll_nil _
  refine ⟨?_, ?_⟩
  · rw [hnil]
    rfl
  · rw [hnil]
    rfl

/-- Once the server's buffer is empty, bytes of the client change nothing there. -/
theorem step_silent {observation : Observation} (hleft : observation.observer.serverToClient = [])
    {push : DataDirection × List UInt8} (hpush : bytesOf .serverToClient [push] = []) :
    (observation.step httparse push).received = observation.received ∧
      (observation.step httparse push).observer.serverToClient = [] := by
  have hresponses : (responses httparse).decodeAll [] = ([], []) := FrontParser.decodeAll_nil _
  have hframes : frames.decodeAll [] = ([], []) := FrontParser.decodeAll_nil _
  have hempty : (observation.observer.push push.1 push.2).serverToClient = [] := by
    obtain ⟨direction, chunk⟩ := push
    cases direction with
    | clientToServer => exact hleft
    | serverToClient =>
      have hchunk : chunk = [] := by simpa [bytesOf_cons] using hpush
      rw [hchunk, H1Observer.push, hleft]
      rfl
  simp only [Observation.step]
  generalize observation.observer.push push.1 push.2 = pushed at hempty ⊢
  obtain ⟨client, server, state⟩ := pushed
  simp only at hempty
  subst hempty
  cases state with
  | http => simp [H1Observer.parse, H1Observer.readRequests, H1Observer.readResponses, hresponses]
  | upgradeRequested => simp [H1Observer.parse, H1Observer.readResponses, hresponses]
  | webSocket => simp [H1Observer.parse, H1Observer.readSent, H1Observer.readReceived, hframes]

/-- The events of the server are only added to. -/
theorem received_step (observation : Observation) (push : DataDirection × List UInt8) :
    observation.received <+: (observation.step httparse push).received :=
  List.prefix_append _ _

theorem bytesOf_step (first : List (DataDirection × List UInt8))
    (push : DataDirection × List UInt8) :
    bytesOf .serverToClient (first ++ [push]) =
      bytesOf .serverToClient first ++ bytesOf .serverToClient [push] :=
  bytesOf_append _ _ _

/-- The run over bytes in which nothing follows a response that accepts a websocket. -/
theorem observe_reads (pushes : List (DataDirection × List UInt8))
    (hlast : ∀ first later, first ++ later = bytesOf .serverToClient pushes →
      ((responses httparse).decodeAll first).1.any ParsedResponse.isUpgrade = true →
        later = [] ∧ ((responses httparse).decodeAll first).2 = []) :
    ReadsResponses httparse (observe httparse pushes)
        (bytesOf .serverToClient pushes) ∧
      (((responses httparse).decodeAll (bytesOf .serverToClient pushes)).1.any
          ParsedResponse.isUpgrade = false →
        (observe httparse pushes).observer.state ≠ .webSocket) := by
  induction pushes using List.reverseRecOn with
  | nil => exact ⟨readsResponses_start, fun _ hstate => by cases hstate⟩
  | append_singleton first push ih =>
    have hrun : observe httparse (first ++ [push]) = (observe httparse first).step httparse push :=
      observe_append httparse first [push]
    obtain ⟨hreads, hstate⟩ := ih (by
      intro front later hsplit hupgrade
      have hall := hlast front (later ++ bytesOf .serverToClient [push])
        (by rw [← List.append_assoc, hsplit, bytesOf_step]) hupgrade
      exact ⟨(List.append_eq_nil_iff.mp hall.1).1, hall.2⟩)
    rw [hrun, bytesOf_step]
    cases hupgrade : ((responses httparse).decodeAll (bytesOf .serverToClient first)).1.any
        ParsedResponse.isUpgrade with
    | false => exact hreads.step (hstate hupgrade) push
    | true =>
      obtain ⟨hlater, hleft⟩ := hlast _ _ (bytesOf_step first push).symm hupgrade
      obtain ⟨hreceived, hempty⟩ := step_silent (hreads.left.trans hleft) hlater
      rw [hlater, List.append_nil]
      refine ⟨⟨hreceived.trans hreads.received, hempty.trans hleft.symm⟩, fun hnone => ?_⟩
      rw [hupgrade] at hnone
      cases hnone

/-! ## The units of the answers -/

theorem filterMap_responseEvents (resps : List ParsedResponse) :
    (resps.flatMap responseEvents).filterMap HttpData.response? = resps := by
  induction resps with
  | nil => rfl
  | cons resp resps ih =>
    have hone : (responseEvents resp).filterMap HttpData.response? = [resp] := by
      unfold responseEvents
      split
      · rfl
      · rfl
    rw [List.flatMap_cons, List.filterMap_append, hone, ih, List.singleton_append]

/-- The headers announce the length that the body has. -/
def Answer.Plain (answer : Answer httparse) : Prop := answer.body.length = answer.announced

theorem Answer.plain_iff (answer : Answer httparse) :
    answer.Plain ↔ (answer.isBodiless = true → answer.announced = 0) := by
  have hframed := answer.framed
  unfold Answer.Plain
  cases hbodiless : answer.isBodiless with
  | true =>
    rw [Answer.isBodiless] at hbodiless
    rw [hbodiless, if_pos rfl] at hframed
    rw [hframed, eq_comm]
    exact ⟨fun h _ => h, fun h => h rfl⟩
  | false =>
    rw [Answer.isBodiless] at hbodiless
    rw [hbodiless, if_neg Bool.false_ne_true] at hframed
    exact iff_of_true hframed fun h => absurd h Bool.false_ne_true

def Answer.message (answer : Answer httparse) (h : answer.Plain) : ResponseMessage httparse where
  text := answer.text
  head := answer.head
  body := answer.body
  isHead := answer.isHead
  announced := h

theorem Answer.next (answer : Answer httparse) (h : answer.Plain) (rest : List UInt8) :
    (responses httparse).next (answer.bytes ++ rest) = some (answer.response, rest) :=
  responses_encode.next_encode (answer.message h) rest

theorem decode_answers {answers : List (Answer httparse)} (h : ∀ answer ∈ answers, answer.Plain)
    (rest : List UInt8) :
    (responses httparse).decodeAll ((answers.map Answer.bytes).flatten ++ rest) =
      (answers.map Answer.response ++ ((responses httparse).decodeAll rest).1,
        ((responses httparse).decodeAll rest).2) := by
  induction answers with
  | nil => simp
  | cons answer answers ih =>
    obtain ⟨hanswer, hanswers⟩ := List.forall_mem_cons.mp h
    rw [List.map_cons, List.flatten_cons, List.append_assoc,
      Decoder.decodeAll_some _ (answer.next hanswer _), ih hanswers]
    simp

theorem Answer.body_misframed (answer : Answer httparse) (h : ¬ answer.Plain) :
    answer.body = [] ∧ 0 < answer.announced := by
  have hframed := answer.framed
  rw [Answer.plain_iff, Classical.not_imp] at h
  obtain ⟨hbodiless, hannounced⟩ := h
  rw [Answer.isBodiless] at hbodiless
  rw [hbodiless, if_pos rfl] at hframed
  exact ⟨List.eq_nil_of_length_eq_zero hframed, Nat.pos_of_ne_zero hannounced⟩

/-- A response without a body that announces one: the observer takes the next bytes for it, or
waits for them. -/
theorem Answer.next_misframed (answer : Answer httparse) (h : ¬ answer.Plain)
    {resp : ParsedResponse} {rest left : List UInt8}
    (hnext : (responses httparse).next (answer.bytes ++ rest) = some (resp, left)) :
    resp.body ≠ none := by
  obtain ⟨hbody, hpos⟩ := answer.body_misframed h
  have hbytes : answer.bytes = answer.text := by rw [Answer.bytes, hbody, List.append_nil]
  have hhead := httparse.response.complete_iff.mpr ⟨answer.text, rest, rfl, answer.isHead, rfl⟩
  obtain ⟨⟨found, n⟩, hparse, heq⟩ := Option.map_eq_some_iff.mp hnext
  cases heq
  obtain ⟨⟨message, consumed⟩, hmessage, heq⟩ := Option.map_eq_some_iff.mp hparse
  cases heq
  rw [hbytes] at hmessage
  change parseMessage httparse.response ResponseHead.headers (answer.text ++ rest) = _ at hmessage
  rw [Answer.announced] at hpos
  simp only [parseMessage, hhead, Option.ite_none_left_eq_some, gt_iff_lt, if_pos hpos,
    Option.some.injEq, Prod.mk.injEq] at hmessage
  obtain ⟨-, hmessage, -⟩ := hmessage
  rw [← hmessage]
  exact Option.some_ne_none _

/-! ## Framing -/

variable {connection : Connection httparse} {pushes : List (DataDirection × List UInt8)}

/-- Responses with no body are framed when they announce none. -/
theorem framed_of_plain (hcarried : connection.Carried pushes)
    (hplain : ∀ answer ∈ connection.answers, answer.Plain) : connection.Framed pushes := by
  have hdecode : (responses httparse).decodeAll (bytesOf .serverToClient pushes) =
      (connection.answers.map Answer.response, []) := by
    have h := decode_answers hplain []
    rwa [List.append_nil, ← hcarried.server, show (responses httparse).decodeAll [] = ([], []) from
      FrontParser.decodeAll_nil _, List.append_nil] at h
  have hreads := observe_reads pushes (by
    intro first later hsplit hupgrade
    have hall : (responses httparse).decodeAll (first ++ later) =
        (connection.answers.map Answer.response, []) := by rw [hsplit, hdecode]
    have hlater := Decoder.later_eq_nil_of_last hall (by
      intro before resp after hresps haccepts
      obtain ⟨before', tail, hanswers, -, htail⟩ := List.map_eq_append_iff.mp hresps
      obtain ⟨answer, after', rfl, rfl, rfl⟩ := List.map_eq_cons_iff.mp htail
      rw [connection.accepted before' answer after' hanswers haccepts, List.map_nil]) hupgrade
    rw [hlater, List.append_nil] at hall
    exact ⟨hlater, by rw [hall]⟩)
  refine ⟨?_, ?_⟩
  · rw [hreads.1.received, hdecode, filterMap_responseEvents]
  · rw [hreads.1.left, hdecode]

theorem exists_first_not {α : Type} {p : α → Prop} {xs : List α} (h : ¬ ∀ x ∈ xs, p x) :
    ∃ before x after, xs = before ++ x :: after ∧ (∀ y ∈ before, p y) ∧ ¬ p x := by
  induction xs with
  | nil => exact absurd (fun _ hx => absurd hx List.not_mem_nil) h
  | cons first xs ih =>
    by_cases hfirst : p first
    · have hrest : ¬ ∀ x ∈ xs, p x := fun hall => h (List.forall_mem_cons.mpr ⟨hfirst, hall⟩)
      obtain ⟨before, x, after, rfl, hbefore, hx⟩ := ih hrest
      exact ⟨first :: before, x, after, rfl, List.forall_mem_cons.mpr ⟨hfirst, hbefore⟩, hx⟩
    · exact ⟨[], first, xs, rfl, fun _ hx => absurd hx List.not_mem_nil, hfirst⟩

section Misframed

variable {before : List (Answer httparse)} {answer : Answer httparse} {rest : List UInt8}

/-- A part of the bytes decodes to responses that are right, or the misframed one is among
them and has a body. -/
theorem units_of_part (hbefore : ∀ answer ∈ before, answer.Plain) (hanswer : ¬ answer.Plain)
    {first later : List UInt8}
    (hall : first ++ later = (before.map Answer.bytes).flatten ++ (answer.bytes ++ rest)) :
    ((responses httparse).decodeAll first).1 <+: before.map Answer.response ∨
      ∃ resp, resp.body ≠ none ∧
        before.map Answer.response ++ [resp] <+: ((responses httparse).decodeAll first).1 := by
  have hmono := (responses httparse).decodeAll_mono first later
  rw [hall, decode_answers hbefore] at hmono
  simp only at hmono
  cases hnext : (responses httparse).next (answer.bytes ++ rest) with
  | none =>
    rw [Decoder.decodeAll_none _ hnext, List.append_nil] at hmono
    exact Or.inl hmono
  | some found =>
    obtain ⟨resp, left⟩ := found
    rw [Decoder.decodeAll_some _ hnext, List.append_cons] at hmono
    have hgood : before.map Answer.response ++ [resp] <+:
        before.map Answer.response ++ [resp] ++ ((responses httparse).decodeAll left).1 :=
      List.prefix_append _ _
    rcases Nat.lt_or_ge ((responses httparse).decodeAll first).1.length
      (before.map Answer.response ++ [resp]).length with hshort | hlong
    · refine Or.inl (List.prefix_of_prefix_length_le hmono
        ((List.prefix_append _ _).trans hgood) ?_)
      rw [List.length_append, List.length_singleton] at hshort
      exact Nat.le_of_lt_succ hshort
    · exact Or.inr ⟨resp, answer.next_misframed hanswer hnext,
        List.prefix_of_prefix_length_le hgood hmono hlong⟩

/-- Along the run: the responses so far are right and the websocket is not open, or the
misframed one has been reported with a body. -/
theorem run_misframed (hbefore : ∀ answer ∈ before, answer.Plain)
    (hclosed : ∀ answer ∈ before, answer.response.isUpgrade = false) (hanswer : ¬ answer.Plain)
    (first : List (DataDirection × List UInt8)) {later : List UInt8}
    (hall : bytesOf .serverToClient first ++ later =
      (before.map Answer.bytes).flatten ++ (answer.bytes ++ rest)) :
    (ReadsResponses httparse (observe httparse first)
        (bytesOf .serverToClient first) ∧
      (observe httparse first).observer.state ≠ .webSocket ∧
      ((responses httparse).decodeAll (bytesOf .serverToClient first)).1 <+:
        before.map Answer.response) ∨
    ∃ resp, resp.body ≠ none ∧ before.map Answer.response ++ [resp] <+:
      (observe httparse first).received.filterMap HttpData.response? := by
  induction first using List.reverseRecOn generalizing later with
  | nil =>
    have hnil : (responses httparse).decodeAll [] = ([], []) := FrontParser.decodeAll_nil _
    refine Or.inl ⟨readsResponses_start, (fun hstate => by cases hstate), ?_⟩
    rw [bytesOf_nil, hnil]
    exact List.nil_prefix
  | append_singleton first push ih =>
    have hrun : observe httparse (first ++ [push]) = (observe httparse first).step httparse push :=
      observe_append httparse first [push]
    rw [bytesOf_step, List.append_assoc] at hall
    rcases ih hall with ⟨hreads, hstate, -⟩ | ⟨resp, hbody, hreported⟩
    · obtain ⟨hnext, hopen⟩ := hreads.step hstate push
      rw [hrun, bytesOf_step]
      rw [← List.append_assoc] at hall
      rcases units_of_part hbefore hanswer hall with hgood | ⟨resp, hbody, hbad⟩
      · refine Or.inl ⟨hnext, hopen ?_, hgood⟩
        rw [List.any_eq_false]
        intro resp hresp
        obtain ⟨answer, hmem, rfl⟩ := List.mem_map.mp (hgood.subset hresp)
        rw [hclosed answer hmem]
        exact Bool.false_ne_true
      · refine Or.inr ⟨resp, hbody, ?_⟩
        rw [hnext.received, filterMap_responseEvents]
        exact hbad
    · refine Or.inr ⟨resp, hbody, hreported.trans ?_⟩
      rw [hrun]
      exact (received_step _ push).filterMap _

end Misframed

/-- The first response that is not plain is read with a body, or it stays in the buffer. -/
theorem not_framed_of_misframed (hcarried : connection.Carried pushes)
    {before after : List (Answer httparse)} {answer : Answer httparse}
    (hanswers : connection.answers = before ++ answer :: after)
    (hbefore : ∀ answer ∈ before, answer.Plain) (hanswer : ¬ answer.Plain) :
    ¬ connection.Framed pushes := by
  intro hframed
  have hevents := hframed.events
  have hclosed : ∀ answer ∈ before, answer.response.isUpgrade = false := by
    intro earlier hearlier
    obtain ⟨front, back, rfl⟩ := List.append_of_mem hearlier
    rw [List.append_assoc, List.cons_append] at hanswers
    rw [Bool.eq_false_iff]
    intro haccepts
    have hnil := connection.accepted front earlier (back ++ answer :: after) hanswers haccepts
    exact List.cons_ne_nil _ _ (List.append_eq_nil_iff.mp hnil).2
  have hall : bytesOf .serverToClient pushes ++ [] = (before.map Answer.bytes).flatten ++
      (answer.bytes ++ (after.map Answer.bytes).flatten) := by
    rw [List.append_nil, hcarried.server, hanswers, List.map_append, List.flatten_append,
      List.map_cons, List.flatten_cons]
  rcases run_misframed hbefore hclosed hanswer pushes hall with
    ⟨hreads, -, hgood⟩ | ⟨resp, hbody, hreported⟩
  · rw [hreads.received, filterMap_responseEvents] at hevents
    have hlength := hgood.length_le
    rw [hevents, hanswers, List.length_map, List.length_map, List.length_append,
      List.length_cons] at hlength
    omega
  · rw [hevents, hanswers, List.map_append, List.map_cons, List.prefix_append_right_inj,
      List.cons_prefix_cons] at hreported
    rw [hreported.1, Answer.response, (answer.body_misframed hanswer).1] at hbody
    exact hbody rfl

/-- For every connection and all pushes that carry it: exactly its responses are reported and
all bytes are consumed, if and only if every response without a body announces none. -/
theorem responses_framed_iff (hcarried : connection.Carried pushes) :
    connection.Framed pushes ↔
      ∀ answer ∈ connection.answers, answer.isBodiless = true → answer.announced = 0 := by
  constructor
  · intro hframed
    by_contra hnot
    have hplain : ¬ ∀ answer ∈ connection.answers, answer.Plain := by
      intro hall
      exact hnot fun answer hanswer => answer.plain_iff.mp (hall answer hanswer)
    obtain ⟨before, answer, after, hanswers, hbefore, hanswer⟩ := exists_first_not hplain
    exact not_framed_of_misframed hcarried hanswers hbefore hanswer hframed
  · intro hall
    exact framed_of_plain hcarried fun answer hanswer => answer.plain_iff.mpr (hall answer hanswer)

/-! ## A response to `HEAD` -/

def headText : List UInt8 := asciiBytes "HEAD / HTTP/1.1\r\n\r\n"

def headHead : RequestHead := ⟨some "HEAD", some "/", some 1, []⟩

def askHead (response : HeadParser ResponseHead) : Httparse where
  request := oneHead headText headHead (by decide +kernel)
  response := response

def headRequest (response : HeadParser ResponseHead) : RequestMessage (askHead response) where
  text := headText
  head := headHead
  body := []
  isHead := ⟨rfl, rfl⟩
  announced := by decide +kernel

/-- A head without a body answers `HEAD`. -/
def headAnswer {response : HeadParser ResponseHead} {text : List UInt8} {head : ResponseHead}
    (isHead : response.IsHead text head) : Answer (askHead response) where
  method := "HEAD"
  text := text
  head := head
  body := []
  isHead := isHead
  framed := rfl

def headConnection {response : HeadParser ResponseHead} {text : List UInt8} {head : ResponseHead}
    (isHead : response.IsHead text head)
    (isFinal : (headAnswer isHead).response.isInterim = false) :
    Connection (askHead response) where
  exchanges := [{
    request := headRequest response
    interim := []
    final := headAnswer isHead
    methods := by
      intro answer hanswer
      obtain rfl := List.mem_singleton.mp hanswer
      rfl
    isInterim := fun _ hanswer => absurd hanswer List.not_mem_nil
    isFinal := isFinal }]
  accepted := by
    intro before answer after hanswers _
    change [headAnswer isHead] = _ at hanswers
    have hlength := congrArg List.length hanswers
    rw [List.length_singleton, List.length_append, List.length_cons] at hlength
    exact List.eq_nil_of_length_eq_zero (by omega)

def headPushes (text : List UInt8) : List (DataDirection × List UInt8) :=
  [(.clientToServer, headText), (.serverToClient, text)]

theorem headConnection_carried {response : HeadParser ResponseHead} {text : List UInt8}
    {head : ResponseHead} (isHead : response.IsHead text head)
    (isFinal : (headAnswer isHead).response.isInterim = false) :
    (headConnection isHead isFinal).Carried (headPushes text) := by
  refine ⟨?_, ?_⟩
  · simp [headPushes, headConnection, bytesOf_cons, bytesOf_nil, Message.bytes, headRequest]
  · simp [headPushes, headConnection, bytesOf_cons, bytesOf_nil, Connection.answers,
      Exchange.answers, Answer.bytes, headAnswer]

def okText : List UInt8 := asciiBytes "HTTP/1.1 200 OK\r\n\r\n"

def okHead : ResponseHead := ⟨some 1, some 200, some "OK", []⟩

def okHeads : HeadParser ResponseHead := oneHead okText okHead (by decide +kernel)

theorem okHeads_isHead : okHeads.IsHead okText okHead := ⟨rfl, rfl⟩

theorem okHead_isFinal : (headAnswer okHeads_isHead).response.isInterim = false := by
  decide +kernel

theorem headOnly_framed :
    (headConnection okHeads_isHead okHead_isFinal).Framed (headPushes okText) :=
  (responses_framed_iff (headConnection_carried okHeads_isHead okHead_isFinal)).mpr (by
    intro answer hanswer _
    obtain rfl := List.mem_singleton.mp hanswer
    decide +kernel)

def lengthText : List UInt8 := asciiBytes "HTTP/1.1 200 OK\r\nContent-Length: 5\r\n\r\n"

def lengthHead : ResponseHead :=
  ⟨some 1, some 200, some "OK", [("Content-Length", asciiBytes "5")]⟩

def lengthHeads : HeadParser ResponseHead := oneHead lengthText lengthHead (by decide +kernel)

theorem lengthHeads_isHead : lengthHeads.IsHead lengthText lengthHead := ⟨rfl, rfl⟩

theorem lengthHead_isFinal : (headAnswer lengthHeads_isHead).response.isInterim = false := by
  decide +kernel

/-- The observer waits for the length that a response to `HEAD` announces. -/
theorem headLength_notFramed : ¬ ∀ (httparse : Httparse) (connection : Connection httparse) pushes,
    connection.Carried pushes → connection.Framed pushes := by
  intro h
  have hcarried := headConnection_carried lengthHeads_isHead lengthHead_isFinal
  have hlength : ¬ (headAnswer lengthHeads_isHead).Plain := by
    unfold Answer.Plain
    decide +kernel
  exact not_framed_of_misframed hcarried (List.nil_append [headAnswer lengthHeads_isHead]).symm
    (fun _ hanswer => absurd hanswer List.not_mem_nil) hlength (h _ _ _ hcarried)

end OddBox.H1

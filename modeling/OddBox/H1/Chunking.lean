import OddBox.H1.Run

/-!
Whether the observer's events depend on how a transcript is cut into chunks, and
whether it reads all of it.
-/

namespace OddBox.H1

open OddBox.Incremental

variable {httparse : Httparse}

/-! ## The property -/

variable (httparse) in
/-- No complete message is left at the front of a buffer. -/
structure Exhausted (observer : H1Observer) : Prop where
  request : ∀ (message : RequestMessage httparse) rest,
    observer.clientToServer ≠ message.bytes ++ rest
  response : ∀ (message : ResponseMessage httparse) rest,
    observer.serverToClient ≠ message.bytes ++ rest
  sent : ∀ (message : FrameMessage httparse) rest,
    observer.clientToServer ≠ message.bytes ++ rest
  received : ∀ (message : FrameMessage httparse) rest,
    observer.serverToClient ≠ message.bytes ++ rest

/-- The events of each direction are those of the transcript pushed message by
message, and nothing complete is left. -/
structure Transcript.Observed (transcript : Transcript httparse)
    (pushes : List (DataDirection × List UInt8)) : Prop where
  sent : (observe httparse pushes).sent = (observe httparse transcript.pieces).sent
  received : (observe httparse pushes).received = (observe httparse transcript.pieces).received
  exhausted : Exhausted httparse (observe httparse pushes).observer

/-- The client sends no request after an upgrade request. -/
def QuietAfterUpgrade (http : List (HttpMessage httparse)) : Prop :=
  ∀ before message after, requestsOf http = before ++ message :: after →
    message.request.isUpgrade = true → after = []

theorem exhausted_of_empty {observer : H1Observer} (hclient : observer.clientToServer = [])
    (hserver : observer.serverToClient = []) : Exhausted httparse observer := by
  have hmessage : ∀ {bytes rest : List UInt8}, bytes ≠ [] → [] ≠ bytes ++ rest := by
    intro bytes rest hbytes h
    exact hbytes (List.append_eq_nil_iff.mp h.symm).1
  refine ⟨?_, ?_, ?_, ?_⟩
  · intro message rest
    rw [hclient]
    exact hmessage message.bytes_ne_nil
  · intro message rest
    rw [hserver]
    exact hmessage message.bytes_ne_nil
  · intro message rest
    rw [hclient]
    exact hmessage message.bytes_ne_nil
  · intro message rest
    rw [hserver]
    exact hmessage message.bytes_ne_nil

/-! ## What the bytes decode to -/

theorem decode_requests (messages : List (RequestMessage httparse)) :
    (requests httparse).decodeAll (messages.map fun message => message.bytes).flatten =
      (messages.map Message.request, []) :=
  requests_encode.decodeAll_encoded (FrontParser.next_nil _) messages

theorem decode_responses (messages : List (ResponseMessage httparse)) :
    (responses httparse).decodeAll (messages.map fun message => message.bytes).flatten =
      (messages.map Message.response, []) :=
  responses_encode.decodeAll_encoded (FrontParser.next_nil _) messages

theorem decode_frames (messages : List (FrameMessage httparse)) :
    frames.decodeAll (messages.map fun message => message.bytes).flatten =
      (messages.map fun message => message.frame, []) :=
  frames_encode.decodeAll_encoded (FrontParser.next_nil _) messages

/-- A part of the client's bytes with an upgrade request in it is all of them. -/
theorem quiet_later_eq_nil {http : List (HttpMessage httparse)} (hquiet : QuietAfterUpgrade http)
    {first later : List UInt8}
    (hall : first ++ later = bytesOf .clientToServer (http.map HttpMessage.piece))
    (hasked : ((requests httparse).decodeAll first).1.any ParsedRequest.isUpgrade = true) :
    later = [] := by
  have hdecode : (requests httparse).decodeAll (first ++ later) =
      ((requestsOf http).map Message.request, []) := by
    rw [hall, clientBytes_http, decode_requests]
  apply Decoder.later_eq_nil_of_last hdecode _ hasked
  intro before u after hsplit hu
  obtain ⟨before', tail, hhttp, -, htail⟩ := List.map_eq_append_iff.mp hsplit
  obtain ⟨message, after', rfl, rfl, rfl⟩ := List.map_eq_cons_iff.mp htail
  rw [hquiet before' message after' hhttp hu, List.map_nil]

theorem responses_refused {http : List (HttpMessage httparse)}
    (hrefused : ∀ message ∈ http, message.accepts = false) :
    ∀ message ∈ responsesOf http, message.response.isUpgrade = false := by
  intro message hmessage
  obtain ⟨found, hfound, heq⟩ := List.mem_filterMap.mp hmessage
  cases found with
  | request _ => cases heq
  | response found =>
    cases heq
    exact hrefused _ hfound

/-- No part of the server's bytes before the websocket accepts an upgrade. -/
theorem refused_decode {http : List (HttpMessage httparse)}
    (hrefused : ∀ message ∈ http, message.accepts = false) {first later : List UInt8}
    (hall : first ++ later = bytesOf .serverToClient (http.map HttpMessage.piece)) :
    ((responses httparse).decodeAll first).1.any ParsedResponse.isUpgrade = false := by
  have hmono := (responses httparse).decodeAll_mono first later
  rw [hall, serverBytes_http, decode_responses] at hmono
  rw [List.any_eq_false]
  intro response hresponse
  obtain ⟨message, hmessage, rfl⟩ := List.mem_map.mp (hmono.subset hresponse)
  rw [responses_refused hrefused message hmessage]
  exact Bool.false_ne_true

/-- The run over pushes that carry such messages, however they are cut. -/
theorem observe_messages {http : List (HttpMessage httparse)} (hquiet : QuietAfterUpgrade http)
    (hrefused : ∀ message ∈ http, message.accepts = false)
    {pushes : List (DataDirection × List UInt8)}
    (hpushes : ∀ direction, bytesOf direction pushes =
      bytesOf direction (http.map HttpMessage.piece)) :
    observe httparse pushes = httpObservation httparse
      (bytesOf .clientToServer (http.map HttpMessage.piece))
      (bytesOf .serverToClient (http.map HttpMessage.piece)) := by
  rw [← hpushes, ← hpushes]
  apply observe_http
  · intro first later hall hasked
    rw [hpushes] at hall
    exact quiet_later_eq_nil hquiet hall hasked
  · have hall : bytesOf .serverToClient pushes ++ [] =
        bytesOf .serverToClient (http.map HttpMessage.piece) := by
      rw [List.append_nil, hpushes]
    exact refused_decode hrefused hall

/-! ## Transcripts without a websocket -/

variable {transcript : Transcript httparse}

theorem pieces_of_http (hupgrade : transcript.upgrade = none) :
    transcript.pieces = transcript.http.map HttpMessage.piece := by
  rw [Transcript.pieces, hupgrade, upgradePieces, List.append_nil]

/-- Every splitting of a transcript without a websocket is observed alike. -/
theorem observed_of_quiet (hupgrade : transcript.upgrade = none)
    (hquiet : QuietAfterUpgrade transcript.http)
    {pushes : List (DataDirection × List UInt8)} (hsplits : transcript.Splits pushes) :
    transcript.Observed pushes := by
  have hpieces := pieces_of_http hupgrade
  have hcanonical := observe_messages hquiet transcript.notAccepted fun _ => rfl
  have hrun := observe_messages hquiet transcript.notAccepted (fun direction =>
    (hsplits direction).trans (by rw [hpieces]))
  refine ⟨by rw [hrun, hpieces, hcanonical], by rw [hrun, hpieces, hcanonical], ?_⟩
  rw [hrun, clientBytes_http, serverBytes_http]
  apply exhausted_of_empty
  · simp only [httpObservation, decode_requests]
  · simp only [httpObservation, decode_responses]

/-- A request after an upgrade request stays in the buffer, if both come before
the server's answer. -/
theorem not_observed_of_pipelined (hupgrade : transcript.upgrade = none)
    {before : List (RequestMessage httparse)} {message next : RequestMessage httparse}
    {after : List (RequestMessage httparse)}
    (hhttp : requestsOf transcript.http = before ++ message :: next :: after)
    (hasked : message.request.isUpgrade = true) :
    ∃ pushes, transcript.Splits pushes ∧ ¬ transcript.Observed pushes := by
  have hpieces := pieces_of_http hupgrade
  let early := ((before ++ [message]).map fun message => message.bytes).flatten
  let late := ((next :: after).map fun message => message.bytes).flatten
  let server := bytesOf .serverToClient transcript.pieces
  have hclient : early ++ late = bytesOf .clientToServer transcript.pieces := by
    rw [hpieces, clientBytes_http, hhttp, ← List.flatten_append, ← List.map_append,
      List.append_assoc, List.singleton_append]
  refine ⟨[(.clientToServer, early), (.clientToServer, late), (.serverToClient, server)],
    ?_, ?_⟩
  · intro direction
    cases direction with
    | clientToServer => simp only [bytesOf_cons, bytesOf_nil, if_true, reduceCtorEq, if_false,
        List.append_nil, hclient]
    | serverToClient => simp only [bytesOf_cons, bytesOf_nil, if_true, reduceCtorEq, if_false,
        List.append_nil, List.nil_append, server]
  · intro hobserved
    have hdecode : (requests httparse).decodeAll early =
        ((before ++ [message]).map Message.request, []) := decode_requests _
    have hserver : (responses httparse).decodeAll [] = ([], []) := FrontParser.decodeAll_nil _
    have hfirst : observe httparse [(.clientToServer, early)] =
        httpObservation httparse early [] := by
      change Observation.step httparse .start (.clientToServer, early) = _
      rw [← httpObservation_nil httparse]
      apply httpObservation_client
      intro h
      rw [show (requests httparse).decodeAll [] = ([], []) from FrontParser.decodeAll_nil _] at h
      cases h
    have hstate : (httpObservation httparse early []).observer.state = .upgradeRequested := by
      simp only [httpObservation, hdecode, List.map_append, List.any_append, List.map_cons,
        List.map_nil, List.any_cons, hasked, Bool.true_or, Bool.or_true, if_true]
    have hrefused : ((responses httparse).decodeAll ((httpObservation httparse early
        []).observer.serverToClient ++ bytesOf .serverToClient
          [(.clientToServer, late), (.serverToClient, server)])).1.any
            ParsedResponse.isUpgrade = false := by
      have hall : server ++ [] =
          bytesOf .serverToClient (transcript.http.map HttpMessage.piece) := by
        rw [List.append_nil, ← hpieces]
      simp only [httpObservation, hserver, bytesOf_cons, bytesOf_nil, reduceCtorEq, if_false,
        if_true, List.nil_append, List.append_nil]
      exact refused_decode transcript.notAccepted hall
    apply hobserved.exhausted.request next ((after.map fun message => message.bytes).flatten)
    rw [← List.singleton_append, observe_append, hfirst,
      run_upgradeRequested httparse hstate hrefused]
    simp only [httpObservation, hdecode, bytesOf_cons, bytesOf_nil, if_true, reduceCtorEq,
      if_false, List.nil_append, List.append_nil, late, List.map_cons, List.flatten_cons]

/-! ## Transcripts with a websocket -/

theorem Transcript.requested (transcript : Transcript httparse) {part : WebSocketPart httparse}
    (hupgrade : transcript.upgrade = some part) :
    ∃ message ∈ transcript.http, message.isRequest = true := by
  obtain ⟨message, hmessage, hasked⟩ := transcript.asked (by rw [hupgrade]; rfl)
  refine ⟨message, hmessage, ?_⟩
  cases message with
  | request _ => rfl
  | response _ => cases hasked

/-- Pushed message by message, the first request is read as a request. -/
theorem request_mem_pieces
    (hrequest : ∃ message ∈ transcript.http, message.isRequest = true) :
    ∃ request, HttpData.request request ∈ (observe httparse transcript.pieces).sent := by
  cases hfirst : transcript.http.find? HttpMessage.isRequest with
  | none =>
    obtain ⟨message, hmessage, hyes⟩ := hrequest
    exact absurd hyes (List.find?_eq_none.mp hfirst message hmessage)
  | some found =>
    obtain ⟨hfound, before, after, hsplit, hbefore⟩ := List.find?_eq_some_iff_append.mp hfirst
    cases found with
    | response _ => cases hfound
    | request message =>
      have hrequests : requestsOf (before ++ [.request message]) = [message] := by
        have hnone : requestsOf before = [] := by
          rw [requestsOf, List.filterMap_eq_nil_iff]
          intro other hother
          have hno := hbefore other hother
          cases other with
          | request _ => cases hno
          | response _ => rfl
        rw [requestsOf, List.filterMap_append, ← requestsOf, hnone]
        rfl
      have hquiet : QuietAfterUpgrade (before ++ [HttpMessage.request message]) := by
        intro early other late hsplit _
        rw [hrequests, List.singleton_eq_append_iff] at hsplit
        rcases hsplit with ⟨-, h⟩ | ⟨-, h⟩
        · simp only [List.cons.injEq] at h
          exact h.2
        · cases h
      have hrefused : ∀ other ∈ before ++ [HttpMessage.request message],
          other.accepts = false := by
        intro other hother
        apply transcript.notAccepted
        rw [hsplit, ← List.singleton_append, ← List.append_assoc]
        exact List.mem_append_left _ hother
      have hpieces : ∃ rest, transcript.pieces =
          (before ++ [HttpMessage.request message]).map HttpMessage.piece ++ rest := by
        refine ⟨after.map HttpMessage.piece ++ upgradePieces transcript.upgrade, ?_⟩
        rw [Transcript.pieces, hsplit, ← List.append_assoc, ← List.map_append, List.append_assoc,
          List.singleton_append]
      obtain ⟨rest, hrest⟩ := hpieces
      refine ⟨message.request, ?_⟩
      rw [hrest, observe_append, observe_messages hquiet hrefused fun _ => rfl]
      apply (sent_mono httparse _ rest).subset
      change _ ∈ ((requests httparse).decodeAll _).1.flatMap requestEvents
      rw [clientBytes_http, hrequests, decode_requests]
      exact List.mem_append_left _ List.mem_cons_self

theorem clientBytes_pieces {part : WebSocketPart httparse}
    (hupgrade : transcript.upgrade = some part) :
    bytesOf .clientToServer transcript.pieces =
      bytesOf .clientToServer (transcript.http.map HttpMessage.piece) ++
        ((framesOf .clientToServer part.frames).map fun message => message.bytes).flatten := by
  rw [Transcript.pieces, hupgrade, upgradePieces, bytesOf_append, bytesOf_cons, bytesOf_frames]
  rfl

theorem serverBytes_pieces {part : WebSocketPart httparse}
    (hupgrade : transcript.upgrade = some part) :
    bytesOf .serverToClient transcript.pieces =
      ((responsesOf transcript.http ++ [part.accepted]).map fun message => message.bytes).flatten ++
        ((framesOf .serverToClient part.frames).map fun message => message.bytes).flatten := by
  rw [Transcript.pieces, hupgrade, upgradePieces, bytesOf_append, bytesOf_cons, bytesOf_frames,
    serverBytes_http, List.map_append, List.flatten_append, List.append_assoc]
  simp only [if_true, List.map_cons, List.map_nil, List.flatten_cons, List.flatten_nil,
    List.append_nil]

/-- The accepting response is read, whatever follows it. -/
theorem accepted_decode (http : List (HttpMessage httparse)) (part : WebSocketPart httparse)
    (rest : List UInt8) :
    ((responses httparse).decodeAll (((responsesOf http ++ [part.accepted]).map
      fun message => message.bytes).flatten ++ rest)).1.any ParsedResponse.isUpgrade = true := by
  rw [Decoder.decodeAll_append, decode_responses]
  simp only [List.map_append, List.map_cons, List.map_nil, List.any_append, List.any_cons,
    part.isUpgrade, Bool.true_or, Bool.or_true]

/-- An open websocket reads no requests. -/
theorem request_not_mem_step {start : Observation} (hstate : start.observer.state = .webSocket)
    {push : DataDirection × List UInt8} {request : ParsedRequest}
    (hrequest : HttpData.request request ∉ start.sent) :
    HttpData.request request ∉ (start.step httparse push).sent := by
  have hstate' : (start.observer.push push.1 push.2).state = .webSocket := by
    rw [← hstate]
    cases push.1 <;> rfl
  have hnone : ∀ read : List WebSocketFrame,
      HttpData.request request ∉ read.flatMap sendEvents := by
    intro read hmem
    obtain ⟨frame, -, hevent⟩ := List.mem_flatMap.mp hmem
    unfold sendEvents at hevent
    split at hevent <;> simp at hevent
  simp only [Observation.step, H1Observer.parse, hstate', H1Observer.readSent, List.mem_append,
    not_or]
  exact ⟨hrequest, hnone _⟩

/-- The answer that accepts the upgrade before the request for it: the request is
taken for frames. -/
theorem not_observed_of_upgrade {part : WebSocketPart httparse}
    (hupgrade : transcript.upgrade = some part) :
    ∃ pushes, transcript.Splits pushes ∧ ¬ transcript.Observed pushes := by
  let client := bytesOf .clientToServer transcript.pieces
  let server := bytesOf .serverToClient transcript.pieces
  refine ⟨[(.serverToClient, server), (.clientToServer, client)], ?_, ?_⟩
  · intro direction
    cases direction with
    | clientToServer => simp only [bytesOf_cons, bytesOf_nil, if_true, reduceCtorEq, if_false,
        List.append_nil, List.nil_append, client]
    | serverToClient => simp only [bytesOf_cons, bytesOf_nil, if_true, reduceCtorEq, if_false,
        List.append_nil, server]
  · intro hobserved
    obtain ⟨request, hrequest⟩ := request_mem_pieces (transcript.requested hupgrade)
    have hnil : (responses httparse).decodeAll [] = ([], []) := FrontParser.decodeAll_nil _
    have hopened : observe httparse [(.serverToClient, server)] =
        openedObservation httparse [] server := by
      change Observation.step httparse .start (.serverToClient, server) = _
      rw [← httpObservation_nil httparse]
      apply httpObservation_opened
      · rw [hnil]
        rfl
      · change ((responses httparse).decodeAll (bytesOf _ _)).1.any _ = true
        rw [serverBytes_pieces hupgrade]
        exact accepted_decode _ _ _
    rw [← hobserved.sent, ← List.singleton_append, observe_append, hopened] at hrequest
    have hsent : (openedObservation httparse [] server).sent = [] := by
      change ((requests httparse).decodeAll []).1.flatMap requestEvents = []
      rw [show (requests httparse).decodeAll [] = ([], []) from FrontParser.decodeAll_nil _]
      rfl
    have hnone : HttpData.request request ∉ (openedObservation httparse [] server).sent := by
      rw [hsent]
      exact List.not_mem_nil
    rw [Machine.run_cons, Machine.run_nil] at hrequest
    exact request_not_mem_step rfl hnone hrequest

/-! ## A websocket opened in order -/

/-- The pushes of a transcript in which the accepting response is completed by one
push of the server. The client has sent its requests by then and no frame yet. -/
structure OpenedInOrder (transcript : Transcript httparse) (part : WebSocketPart httparse)
    (before : List (DataDirection × List UInt8)) (chunk : List UInt8)
    (after : List (DataDirection × List UInt8)) : Prop where
  splits : transcript.Splits (before ++ (.serverToClient, chunk) :: after)
  client : bytesOf .clientToServer before =
    bytesOf .clientToServer (transcript.http.map HttpMessage.piece)
  incomplete : ∃ missing, missing ≠ [] ∧ bytesOf .serverToClient before ++ missing =
    ((responsesOf transcript.http ++ [part.accepted]).map fun message => message.bytes).flatten
  complete : ∃ extra, bytesOf .serverToClient before ++ chunk =
    ((responsesOf transcript.http ++ [part.accepted]).map fun message => message.bytes).flatten ++
      extra

/-- A part of the frames is not read as a response. -/
theorem frames_not_responses {messages : List (FrameMessage httparse)} {extra later : List UInt8}
    (hall : extra ++ later = (messages.map fun message => message.bytes).flatten) :
    (responses httparse).next extra = none := by
  cases hparse : parseMessage httparse.response ResponseHead.headers extra with
  | none =>
    change ((parseHttpResponse httparse.response extra).map _) = none
    rw [parseHttpResponse, hparse]
    rfl
  | some found =>
    obtain ⟨text, rest, rfl, hhead, -⟩ := parseMessage_eq_some.mp hparse
    obtain ⟨byte, text', rfl⟩ := List.exists_cons_of_ne_nil (httparse.response.nonempty hhead)
    cases messages with
    | nil => cases hall
    | cons message messages =>
      obtain ⟨first, bytes', hbytes⟩ := List.exists_cons_of_ne_nil message.bytes_ne_nil
      rw [List.map_cons, List.flatten_cons, hbytes] at hall
      have hhead' := message.notHead hhead
      rw [hbytes] at hhead'
      exact absurd (congrArg List.head? hall) hhead'

section InOrder

variable {part : WebSocketPart httparse} {before after : List (DataDirection × List UInt8)}
  {chunk : List UInt8}

/-- What is observed when all messages have been read. -/
def finalObservation (transcript : Transcript httparse) (part : WebSocketPart httparse) :
    Observation where
  sent := ((requestsOf transcript.http).map Message.request).flatMap requestEvents ++
    ((framesOf .clientToServer part.frames).map fun message => message.frame).flatMap sendEvents
  received := ((responsesOf transcript.http ++ [part.accepted]).map
      Message.response).flatMap responseEvents ++
    ((framesOf .serverToClient part.frames).map fun message => message.frame).flatMap
      receiveEvents
  observer := ⟨[], [], .webSocket⟩

/-- Among the responses up to it, only the accepting one accepts. -/
theorem accepted_last {http : List (HttpMessage httparse)}
    (hrefused : ∀ message ∈ http, message.accepts = false) (part : WebSocketPart httparse)
    {early late : List ParsedResponse} {response : ParsedResponse}
    (hsplit : (responsesOf http ++ [part.accepted]).map Message.response =
      early ++ response :: late) (haccepted : response.isUpgrade = true) : late = [] := by
  rcases List.eq_nil_or_concat late with h | ⟨late', last, rfl⟩
  · exact h
  · rw [List.map_append, List.concat_eq_append, ← List.cons_append, ← List.append_assoc] at hsplit
    have hmem : response ∈ (responsesOf http).map Message.response := by
      rw [(List.append_inj' hsplit rfl).1]
      exact List.mem_append_right _ List.mem_cons_self
    obtain ⟨message, hmessage, rfl⟩ := List.mem_map.mp hmem
    rw [responses_refused hrefused message hmessage] at haccepted
    cases haccepted

/-- The state after the push that completes the accepting response. -/
theorem observe_opened (hupgrade : transcript.upgrade = some part)
    (hquiet : QuietAfterUpgrade transcript.http)
    (horder : OpenedInOrder transcript part before chunk after) :
    ∃ extra,
      extra ++ bytesOf .serverToClient after =
        ((framesOf .serverToClient part.frames).map fun message => message.bytes).flatten ∧
      bytesOf .clientToServer after =
        ((framesOf .clientToServer part.frames).map fun message => message.bytes).flatten ∧
      observe httparse (before ++ [(.serverToClient, chunk)]) = {
        sent := ((requestsOf transcript.http).map Message.request).flatMap requestEvents
        received := ((responsesOf transcript.http ++ [part.accepted]).map
          Message.response).flatMap responseEvents
        observer := ⟨[], extra, .webSocket⟩ } := by
  obtain ⟨hsplits, hclient, ⟨missing, hmissing, hincomplete⟩, extra, hcomplete⟩ := horder
  have hclientAfter := hsplits .clientToServer
  rw [clientBytes_pieces hupgrade, bytesOf_append, bytesOf_cons, hclient] at hclientAfter
  have hserverAfter := hsplits .serverToClient
  rw [serverBytes_pieces hupgrade, bytesOf_append, bytesOf_cons, if_pos rfl, ← List.append_assoc,
    hcomplete, List.append_assoc] at hserverAfter
  have hframes := List.append_cancel_left hserverAfter
  refine ⟨extra, hframes, List.append_cancel_left hclientAfter, ?_⟩
  have hrefused : ((responses httparse).decodeAll (bytesOf .serverToClient before)).1.any
      ParsedResponse.isUpgrade = false := by
    rw [Bool.eq_false_iff]
    intro haccepted
    apply hmissing
    have hdecode : (responses httparse).decodeAll (bytesOf .serverToClient before ++ missing) =
        ((responsesOf transcript.http ++ [part.accepted]).map Message.response, []) := by
      rw [hincomplete, decode_responses]
    apply Decoder.later_eq_nil_of_last hdecode _ haccepted
    intro early response late hsplit
    exact accepted_last transcript.notAccepted part hsplit
  have hbefore : observe httparse before = httpObservation httparse
      (bytesOf .clientToServer before) (bytesOf .serverToClient before) := by
    apply observe_http _ _ _ hrefused
    intro first later hall hasked
    rw [hclient] at hall
    exact quiet_later_eq_nil hquiet hall hasked
  have hopened := httpObservation_opened httparse (bytesOf .clientToServer before)
    (bytesOf .serverToClient before) chunk hrefused (by
      rw [hcomplete]
      exact accepted_decode _ _ _)
  rw [observe_append, hbefore, Machine.run_cons, Machine.run_nil, hopened, hclient, hcomplete,
    clientBytes_http]
  have hdecode := responses_encode.decodeAll_append
    (responsesOf transcript.http ++ [part.accepted]) extra
  rw [(responses httparse).decodeAll_none (frames_not_responses hframes), List.append_nil]
    at hdecode
  simp only [openedObservation, decode_requests, hdecode]

/-- Once another push follows, all frames are read. -/
theorem observe_in_order (hupgrade : transcript.upgrade = some part)
    (hquiet : QuietAfterUpgrade transcript.http)
    (hopen : ∀ frame ∈ part.frames, frame.2.frame.isClose = false)
    (horder : OpenedInOrder transcript part before chunk after)
    (hnext : part.frames = [] ∨ after ≠ []) :
    observe httparse (before ++ (.serverToClient, chunk) :: after) =
      finalObservation transcript part := by
  obtain ⟨extra, hserver, hclient, hopened⟩ := observe_opened hupgrade hquiet horder
  rw [← List.singleton_append, ← List.append_assoc, observe_append, hopened]
  have hnoClose : ∀ direction, ((framesOf direction part.frames).map
      fun message => message.frame).any WebSocketFrame.isClose = false := by
    intro direction
    rw [List.any_eq_false]
    intro frame hframe
    obtain ⟨message, hmessage, rfl⟩ := List.mem_map.mp hframe
    obtain ⟨found, hfound, rfl⟩ := List.mem_map.mp hmessage
    rw [hopen found (List.mem_of_mem_filter hfound)]
    exact Bool.false_ne_true
  by_cases hafter : after = []
  · have hnone : part.frames = [] := hnext.resolve_right (not_not_intro hafter)
    rw [hafter, bytesOf_nil, List.append_nil, hnone] at hserver
    rw [hafter, Machine.run_nil, finalObservation, hserver, hnone]
    simp only [framesOf, List.filter_nil, List.map_nil, List.flatten_nil, List.flatMap_nil,
      List.append_nil]
  · rw [run_webSocket httparse rfl hafter]
    · simp only [Observation.withFrames, List.nil_append, hserver, hclient, decode_frames,
        finalObservation]
    · refine ⟨?_, ?_⟩
      · rw [List.nil_append, hclient, decode_frames]
        exact hnoClose _
      · rw [hserver, decode_frames]
        exact hnoClose _

/-- Message by message, a websocket is opened in order. -/
theorem pieces_in_order (hupgrade : transcript.upgrade = some part) :
    OpenedInOrder transcript part (transcript.http.map HttpMessage.piece) part.accepted.bytes
      part.pieces := by
  refine ⟨?_, rfl, ⟨part.accepted.bytes, part.accepted.bytes_ne_nil, ?_⟩, [], ?_⟩
  · intro direction
    rw [Transcript.pieces, hupgrade, upgradePieces]
  · rw [serverBytes_http, List.map_append, List.flatten_append]
    simp
  · rw [serverBytes_http, List.map_append, List.flatten_append]
    simp

/-- Opened in order, a websocket without close frames is observed alike if and
only if a push follows the one that completes the accepting response, or there
are no frames. -/
theorem observed_in_order_iff (hupgrade : transcript.upgrade = some part)
    (hquiet : QuietAfterUpgrade transcript.http)
    (hopen : ∀ frame ∈ part.frames, frame.2.frame.isClose = false)
    (horder : OpenedInOrder transcript part before chunk after) :
    transcript.Observed (before ++ (.serverToClient, chunk) :: after) ↔
      part.frames = [] ∨ after ≠ [] := by
  constructor
  · intro hobserved
    by_contra hnot
    obtain ⟨hframes, hafter⟩ := not_or.mp hnot
    rw [not_not] at hafter
    obtain ⟨extra, hserver, hclient, hopened⟩ := observe_opened hupgrade hquiet horder
    rw [hafter, bytesOf_nil, List.append_nil] at hserver
    rw [hafter, bytesOf_nil] at hclient
    obtain ⟨⟨direction, message⟩, frames', hsplit⟩ := List.exists_cons_of_ne_nil hframes
    rw [hsplit] at hserver hclient
    cases direction with
    | clientToServer =>
      simp only [framesOf, List.filter_cons, beq_self_eq_true, if_true, List.map_cons,
        List.flatten_cons] at hclient
      exact message.bytes_ne_nil (List.append_eq_nil_iff.mp hclient.symm).1
    | serverToClient =>
      simp only [framesOf, List.filter_cons, beq_self_eq_true, if_true, List.map_cons,
        List.flatten_cons] at hserver
      apply hobserved.exhausted.received message
      rw [hafter, hopened]
      exact hserver
  · intro hnext
    have hrun := observe_in_order hupgrade hquiet hopen horder hnext
    have hcanonical : observe httparse transcript.pieces = finalObservation transcript part := by
      have hpieces : transcript.pieces = transcript.http.map HttpMessage.piece ++
          (.serverToClient, part.accepted.bytes) :: part.pieces := by
        rw [Transcript.pieces, hupgrade, upgradePieces]
      rw [hpieces]
      apply observe_in_order hupgrade hquiet hopen (pieces_in_order hupgrade)
      by_cases hframes : part.frames = []
      · exact Or.inl hframes
      · refine Or.inr ?_
        rw [WebSocketPart.pieces, ne_eq, List.map_eq_nil_iff]
        exact hframes
    refine ⟨by rw [hrun, hcanonical], by rw [hrun, hcanonical], ?_⟩
    rw [hrun]
    exact exhausted_of_empty rfl rfl

end InOrder

/-- **Chunking of HTTP/1**: a transcript is observed alike and to its end under
every splitting if and only if no upgrade is accepted and the client sends no
request after an upgrade request. Where an upgrade is accepted and the bytes come
in order, a websocket without close frames is so if and only if it has no frames
or a push follows the one that completes the accepting response. -/
theorem observer_chunking (transcript : Transcript httparse) :
    ((∀ pushes, transcript.Splits pushes → transcript.Observed pushes) ↔
      transcript.upgrade = none ∧ QuietAfterUpgrade transcript.http) ∧
    ∀ (part : WebSocketPart httparse) (before after : List (DataDirection × List UInt8))
      (chunk : List UInt8),
      transcript.upgrade = some part → QuietAfterUpgrade transcript.http →
      (∀ frame ∈ part.frames, frame.2.frame.isClose = false) →
      OpenedInOrder transcript part before chunk after →
      (transcript.Observed (before ++ (.serverToClient, chunk) :: after) ↔
        part.frames = [] ∨ after ≠ []) := by
  refine ⟨?_, fun part before after chunk hupgrade hquiet hopen horder =>
    observed_in_order_iff hupgrade hquiet hopen horder⟩
  constructor
  · intro hobserved
    cases hupgrade : transcript.upgrade with
    | some part =>
      obtain ⟨pushes, hsplits, hnot⟩ := not_observed_of_upgrade hupgrade
      exact absurd (hobserved pushes hsplits) hnot
    | none =>
      refine ⟨rfl, ?_⟩
      intro before message after hhttp hasked
      cases after with
      | nil => rfl
      | cons next after =>
        obtain ⟨pushes, hsplits, hnot⟩ := not_observed_of_pipelined hupgrade hhttp hasked
        exact absurd (hobserved pushes hsplits) hnot
  · rintro ⟨hupgrade, hquiet⟩ pushes hsplits
    exact observed_of_quiet hupgrade hquiet hsplits

/-! ## A greeting -/

/-- A parser that knows one head. -/
def oneHead {α : Type} [DecidableEq α] (text : List UInt8) (head : α) (htext : text ≠ []) :
    HeadParser α where
  IsHead found foundHead := found = text ∧ foundHead = head
  parse buf :=
    if text <+: buf then .complete head text.length
    else if buf <+: text then .incomplete
    else .failed
  nonempty := by
    rintro _ _ ⟨rfl, -⟩
    exact htext
  complete_iff := by
    intro buf found n
    constructor
    · intro h
      split at h
      · rename_i hstart
        obtain ⟨rest, rfl⟩ := hstart
        cases h
        exact ⟨text, rest, rfl, ⟨rfl, rfl⟩, rfl⟩
      · split at h <;> cases h
    · rintro ⟨_, rest, rfl, ⟨rfl, rfl⟩, rfl⟩
      rw [if_pos (List.prefix_append _ _)]
  incomplete_iff := by
    intro buf
    constructor
    · intro h
      split at h
      · cases h
      · rename_i hstart
        split at h
        · rename_i hpart
          refine ⟨text, head, ⟨rfl, rfl⟩, hpart, ?_⟩
          rintro rfl
          exact hstart List.prefix_rfl
        · cases h
    · rintro ⟨_, _, ⟨rfl, -⟩, hpart, hne⟩
      rw [if_neg, if_pos hpart]
      intro hstart
      exact hne (hpart.eq_of_length_le hstart.length_le)

def asciiBytes (text : String) : List UInt8 := text.toList.map fun c => c.toNat.toUInt8

def upgradeHeaders : List (String × List UInt8) :=
  [("Connection", asciiBytes "Upgrade"), ("Upgrade", asciiBytes "websocket")]

def greetingHeads : Httparse where
  request := oneHead
    (asciiBytes "GET /ws HTTP/1.1\r\nConnection: Upgrade\r\nUpgrade: websocket\r\n\r\n")
    ⟨some "GET", some "/ws", some 1, upgradeHeaders⟩ (by decide +kernel)
  response := oneHead
    (asciiBytes "HTTP/1.1 101 Switching Protocols\r\nConnection: Upgrade\r\nUpgrade: websocket\r\n\r\n")
    ⟨some 1, some 101, some "Switching Protocols", upgradeHeaders⟩ (by decide +kernel)

def askUpgrade : RequestMessage greetingHeads where
  text := asciiBytes "GET /ws HTTP/1.1\r\nConnection: Upgrade\r\nUpgrade: websocket\r\n\r\n"
  head := ⟨some "GET", some "/ws", some 1, upgradeHeaders⟩
  body := []
  isHead := ⟨rfl, rfl⟩
  announced := by decide +kernel

def acceptUpgrade : ResponseMessage greetingHeads where
  text := asciiBytes "HTTP/1.1 101 Switching Protocols\r\nConnection: Upgrade\r\nUpgrade: websocket\r\n\r\n"
  head := ⟨some 1, some 101, some "Switching Protocols", upgradeHeaders⟩
  body := []
  isHead := ⟨rfl, rfl⟩
  announced := by decide +kernel

/-- The text frame `hi`. -/
def greetingFrame : FrameMessage greetingHeads where
  bytes := [0x81, 0x02, 0x68, 0x69]
  frame := ⟨true, 1, false, [0x68, 0x69]⟩
  complete := by decide +kernel
  notHead := by
    rintro _ _ ⟨rfl, -⟩
    decide +kernel

def greetingPart : WebSocketPart greetingHeads where
  accepted := acceptUpgrade
  isUpgrade := by decide +kernel
  frames := [(.serverToClient, greetingFrame)]

/-- A websocket whose server greets the client. -/
def greeting : Transcript greetingHeads where
  http := [.request askUpgrade]
  notAccepted := by
    intro message hmessage
    obtain rfl := List.mem_singleton.mp hmessage
    rfl
  upgrade := some greetingPart
  asked _ := ⟨.request askUpgrade, List.mem_singleton.mpr rfl, by decide +kernel⟩

theorem askUpgrade_quiet : QuietAfterUpgrade greeting.http := by
  intro before message after hhttp _
  change [askUpgrade] = _ at hhttp
  rw [List.singleton_eq_append_iff] at hhttp
  rcases hhttp with ⟨-, h⟩ | ⟨-, h⟩
  · exact (List.cons.inj h).2
  · cases h

/-- The greeting in a push of its own is observed. -/
theorem greeting_observed :
    greeting.Observed [(.clientToServer, askUpgrade.bytes),
      (.serverToClient, acceptUpgrade.bytes), (.serverToClient, greetingFrame.bytes)] := by
  apply ((observer_chunking greeting).2 greetingPart [(.clientToServer, askUpgrade.bytes)]
    [(.serverToClient, greetingFrame.bytes)] acceptUpgrade.bytes rfl askUpgrade_quiet _ _).mpr
  · exact Or.inr (List.cons_ne_nil _ _)
  · intro frame hframe
    obtain rfl := List.mem_singleton.mp hframe
    rfl
  · exact pieces_in_order rfl

/-- The greeting together with the accepting response, in the last chunk, is left
in the buffer. -/
theorem greeting_unread :
    greeting.Splits [(.clientToServer, askUpgrade.bytes),
        (.serverToClient, acceptUpgrade.bytes ++ greetingFrame.bytes)] ∧
      ¬ greeting.Observed [(.clientToServer, askUpgrade.bytes),
        (.serverToClient, acceptUpgrade.bytes ++ greetingFrame.bytes)] := by
  have horder : OpenedInOrder greeting greetingPart [(.clientToServer, askUpgrade.bytes)]
      (acceptUpgrade.bytes ++ greetingFrame.bytes) [] := by
    refine ⟨?_, rfl, ⟨acceptUpgrade.bytes, acceptUpgrade.bytes_ne_nil, ?_⟩,
      greetingFrame.bytes, ?_⟩
    · intro direction
      cases direction <;> rfl
    · rfl
    · rfl
  refine ⟨horder.splits, ?_⟩
  intro hobserved
  have hopen : ∀ frame ∈ greetingPart.frames, frame.2.frame.isClose = false := by
    intro frame hframe
    obtain rfl := List.mem_singleton.mp hframe
    rfl
  rcases (observed_in_order_iff rfl askUpgrade_quiet hopen horder).mp hobserved with h | h
  · cases h
  · exact h rfl

end OddBox.H1

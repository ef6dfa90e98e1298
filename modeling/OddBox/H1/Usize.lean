import OddBox.Checked
import OddBox.H1.Chunking

/-!
`H1Observer::parse` with 64-bit lengths and checked accesses: where its additions overflow, and
which runs complete.
-/

namespace OddBox.H1.Usize

open OddBox.Incremental OddBox.Checked

/-! ## Messages -/

section Messages

variable {α : Type} (parser : HeadParser α) (headersOf : α → List (String × List UInt8))

/-- The common part of `parse_http_request` and `parse_http_response`. -/
def parseMessage (buf : List UInt8) : Except Panic (Option (RawMessage α × Nat)) :=
  match parser.parse buf with
  | .complete head n => do
    let headers := headerTexts (headersOf head)
    let length := contentLength headers
    if buf.length < (← add 64 n length) then return none -- incomplete body
    let body ←
      if length > 0 then do
        let slice ← slice buf n (← add 64 n length)
        pure (some slice)
      else pure none
    return some (⟨head, headers, body⟩, ← add 64 n length)
  | .incomplete => return none
  | .failed => return none

/-- A head whose end and announced length have no sum of 64 bits. -/
def BodyTooLong (buf : List UInt8) : Prop :=
  ∃ head n, parser.parse buf = .complete head n ∧
    2 ^ 64 ≤ n + contentLength (headerTexts (headersOf head))

variable {parser headersOf}

theorem parseMessage_eq {buf : List UInt8} (h : ¬ BodyTooLong parser headersOf buf) :
    parseMessage parser headersOf buf = .ok (H1.parseMessage parser headersOf buf) := by
  unfold parseMessage H1.parseMessage
  cases hparse : parser.parse buf with
  | incomplete => rfl
  | failed => rfl
  | complete head n =>
    have hfits : n + contentLength (headerTexts (headersOf head)) < 2 ^ 64 := by
      by_contra hlong
      exact h ⟨head, n, hparse, Nat.not_lt.mp hlong⟩
    simp only [add_ok hfits, bind, Except.bind]
    split
    · rfl
    · rename_i hbody
      have hslice : slice buf n (n + contentLength (headerTexts (headersOf head))) =
          .ok ((buf.drop n).take (contentLength (headerTexts (headersOf head)))) := by
        rw [slice_ok (Nat.le_add_right _ _) (Nat.not_lt.mp hbody), Nat.add_sub_cancel_left]
      split
      · rw [hslice]
        rfl
      · rfl

theorem parseMessage_panics {buf : List UInt8} (h : BodyTooLong parser headersOf buf) :
    ∃ panic, parseMessage parser headersOf buf = .error panic := by
  obtain ⟨head, n, hparse, hlong⟩ := h
  refine ⟨.overflow, ?_⟩
  unfold parseMessage
  simp only [hparse, add_overflow hlong]
  rfl

end Messages

def parseHttpRequest (parser : HeadParser RequestHead) (buf : List UInt8) :
    Except Panic (Option (ParsedRequest × Nat)) := do
  let found ← parseMessage parser RequestHead.headers buf
  return found.map fun (message, consumed) => (message.toRequest, consumed)

def parseHttpResponse (parser : HeadParser ResponseHead) (buf : List UInt8) :
    Except Panic (Option (ParsedResponse × Nat)) := do
  let found ← parseMessage parser ResponseHead.headers buf
  return found.map fun (message, consumed) => (message.toResponse, consumed)

/-! ## Websocket frames -/

/-- `(payload_len << 8) | byte`. -/
def shiftIn (length : Nat) (byte : UInt8) : Nat := (length <<< 8) % 2 ^ 64 ||| byte.toNat

/-- The index behind the length fields and the length of the payload. -/
def payloadLen (buf : List UInt8) : Except Panic (Option (Nat × Nat)) := do
  if buf.length < 2 then return none
  let second ← index buf 1
  let short := (second &&& 0x7F).toNat
  if short = 126 then
    if buf.length < (← add 64 2 2) then return none
    let high ← index buf 2
    let low ← index buf (← add 64 2 1)
    return some (← add 64 2 2, shiftIn high.toNat low)
  else if short = 127 then
    if buf.length < (← add 64 2 8) then return none
    let length ← (List.range 8).foldlM (fun length i => do
      let byte ← index buf (← add 64 2 i)
      pure (shiftIn length byte)) 0
    return some (← add 64 2 8, length)
  else return some (2, short)

/-- The index behind the masking key, and the key. -/
def maskingKey (buf : List UInt8) (masked : Bool) (start : Nat) :
    Except Panic (Option (Nat × Option (List UInt8))) := do
  if masked then
    if buf.length < (← add 64 start 4) then return none
    let key := [← index buf start, ← index buf (← add 64 start 1),
      ← index buf (← add 64 start 2), ← index buf (← add 64 start 3)]
    return some (← add 64 start 4, some key)
  else return some (start, none)

/-- `for i in 0..payload_len { payload[i] ^= key[i % 4] }`. -/
def unmask (key payload : List UInt8) : Except Panic (List UInt8) :=
  (List.range payload.length).foldlM (fun payload i => do
    let byte ← index payload i
    let mask ← index key (i % 4)
    pure (payload.set i (byte ^^^ mask))) payload

def parseWebsocketFrame (buf : List UInt8) : Except Panic (Option (WebSocketFrame × Nat)) := do
  if buf.length < 2 then return none
  let first ← index buf 0
  let second ← index buf 1
  let masked := second &&& 0x80 != 0
  match ← payloadLen buf with
  | none => return none
  | some (start, length) =>
    match ← maskingKey buf masked start with
    | none => return none
    | some (start, key) =>
      if buf.length < (← add 64 start length) then return none
      let payload ← slice buf start (← add 64 start length)
      let payload ← match key with
        | some key => unmask key payload
        | none => pure payload
      let frame : WebSocketFrame := {
        fin := first &&& 0x80 != 0
        opcode := first &&& 0x0F
        masked := masked
        payload := payload }
      return some (frame, ← add 64 start length)

/-- A frame header whose end and payload length have no sum of 64 bits. -/
def FrameTooLong (buf : List UInt8) : Prop :=
  ∃ start length behind key, H1.payloadLen buf = some (start, length) ∧
    H1.maskingKey buf (buf.getD 1 0 &&& 0x80 != 0) start = some (behind, key) ∧
    2 ^ 64 ≤ behind + length

theorem shiftIn_eq {length : Nat} (h : length < 2 ^ 56) (byte : UInt8) :
    shiftIn length byte = length * 256 + byte.toNat := by
  have hlt : length <<< 8 < 2 ^ 64 := by
    rw [Nat.shiftLeft_eq]
    omega
  have hbyte : byte.toNat < 2 ^ 8 := byte.toNat_lt
  rw [shiftIn, Nat.mod_eq_of_lt hlt, ← Nat.shiftLeft_add_eq_or_of_lt hbyte, Nat.shiftLeft_eq]

/-- Eight bytes fill 64 bits: nothing is shifted out. -/
theorem foldl_shiftIn {bytes : List UInt8} (h : bytes.length ≤ 8) :
    bytes.foldl shiftIn 0 = bytes.foldl (fun value byte => value * 256 + byte.toNat) 0 ∧
      bytes.foldl (fun value byte => value * 256 + byte.toNat) 0 < 2 ^ (8 * bytes.length) := by
  induction bytes using List.reverseRecOn with
  | nil => exact ⟨rfl, by decide⟩
  | append_singleton bytes byte ih =>
    rw [List.length_append, List.length_singleton] at h
    obtain ⟨heq, hlt⟩ := ih (by omega)
    have hbyte : byte.toNat < 2 ^ 8 := byte.toNat_lt
    have hsmall : bytes.foldl (fun value byte => value * 256 + byte.toNat) 0 < 2 ^ 56 :=
      hlt.trans_le (Nat.pow_le_pow_right (by decide) (by omega))
    simp only [List.foldl_append, List.foldl_cons, List.foldl_nil, heq, shiftIn_eq hsmall,
      List.length_append, List.length_singleton, true_and]
    rw [Nat.mul_add, Nat.pow_add]
    omega

theorem numberAt_two {buf : List UInt8} (h : 4 ≤ buf.length) :
    numberAt buf 2 2 = (buf.getD 2 0).toNat * 256 + (buf.getD 3 0).toNat := by
  match buf, h with
  | _ :: _ :: high :: low :: rest, _ => simp [numberAt]

theorem payloadLen_eq (buf : List UInt8) : payloadLen buf = .ok (H1.payloadLen buf) := by
  unfold payloadLen H1.payloadLen
  by_cases hlen : buf.length < 2
  · rw [if_pos hlen, if_pos hlen]
    rfl
  · rw [if_neg hlen, if_neg hlen]
    simp only [index_ok (show 1 < buf.length by omega) 0, bind, Except.bind]
    split
    · rw [show add 64 2 2 = .ok 4 from rfl]
      simp only
      split
      · rfl
      · rename_i hfour
        have hhigh : (buf.getD 2 0).toNat < 2 ^ 56 :=
          (buf.getD 2 0).toNat_lt.trans (by decide)
        simp only [index_ok (show 2 < buf.length by omega) 0, show add 64 2 1 = .ok 3 from rfl,
          index_ok (show 3 < buf.length by omega) 0, shiftIn_eq hhigh,
          numberAt_two (Nat.not_lt.mp hfour)]
        rfl
    · split
      · rw [show add 64 2 8 = .ok 10 from rfl]
        simp only
        split
        · rfl
        · rename_i hten
          have hbits : 2 + 8 ≤ 2 ^ 64 := by decide
          have hloop := foldlM_index (show 2 + 8 ≤ buf.length by omega) hbits shiftIn 0
          have hbytes : ((buf.drop 2).take 8).length ≤ 8 := List.length_take_le _ _
          simp only [bind, Except.bind] at hloop
          simp only [hloop, (foldl_shiftIn hbytes).1]
          rfl
      · rfl

theorem take_four {buf : List UInt8} {start : Nat} (h : start + 4 ≤ buf.length) :
    (buf.drop start).take 4 = [buf.getD start 0, buf.getD (start + 1) 0,
      buf.getD (start + 2) 0, buf.getD (start + 3) 0] := by
  rw [List.drop_eq_getElem_cons (show start < buf.length by omega),
    List.drop_eq_getElem_cons (show start + 1 < buf.length by omega),
    List.drop_eq_getElem_cons (show start + 1 + 1 < buf.length by omega),
    List.drop_eq_getElem_cons (show start + 1 + 1 + 1 < buf.length by omega),
    List.getD_eq_getElem _ _ (show start < buf.length by omega),
    List.getD_eq_getElem _ _ (show start + 1 < buf.length by omega),
    List.getD_eq_getElem _ _ (show start + 2 < buf.length by omega),
    List.getD_eq_getElem _ _ (show start + 3 < buf.length by omega)]
  rfl

theorem maskingKey_eq {buf : List UInt8} {masked : Bool} {start : Nat} (hstart : start ≤ 10) :
    maskingKey buf masked start = .ok (H1.maskingKey buf masked start) := by
  unfold maskingKey H1.maskingKey
  cases masked with
  | false => rfl
  | true =>
    have hadd : ∀ n ≤ 4, add 64 start n = .ok (start + n) := by
      intro n hn
      exact add_ok (by omega)
    simp only [hadd 4 (by decide), if_true, bind, Except.bind]
    split
    · rfl
    · rename_i hlen
      have hkey : (buf.drop start).take 4 = [buf.getD start 0, buf.getD (start + 1) 0,
          buf.getD (start + 2) 0, buf.getD (start + 3) 0] := take_four (Nat.not_lt.mp hlen)
      simp only [hadd 1 (by decide), hadd 2 (by decide), hadd 3 (by decide),
        index_ok (show start < buf.length by omega) 0,
        index_ok (show start + 1 < buf.length by omega) 0,
        index_ok (show start + 2 < buf.length by omega) 0,
        index_ok (show start + 3 < buf.length by omega) 0, hkey]
      rfl

theorem unmask_eq {key : List UInt8} (hkey : key.length = 4) (payload : List UInt8) :
    unmask key payload = .ok (H1.unmask (some key) payload) := by
  -- after `n` rounds the first `n` bytes are unmasked
  have hloop : ∀ n ≤ payload.length, (List.range n).foldlM (fun payload i => do
      let byte ← index payload i
      let mask ← index key (i % 4)
      pure (payload.set i (byte ^^^ mask))) payload =
      .ok (payload.mapIdx fun i byte => if i < n then byte ^^^ key.getD (i % 4) 0 else byte) := by
    intro n
    induction n with
    | zero =>
      intro _
      have hsame : (payload.mapIdx fun i byte =>
          if i < 0 then byte ^^^ key.getD (i % 4) 0 else byte) = payload := by
        apply List.ext_getElem
        · rw [List.length_mapIdx]
        · intro i hi hi'
          rw [List.getElem_mapIdx, if_neg (Nat.not_lt_zero i)]
      rw [hsame]
      rfl
    | succ n ih =>
      intro hn
      have hmask : n % 4 < key.length := by omega
      have hbyte : n < (payload.mapIdx fun i byte =>
          if i < n then byte ^^^ key.getD (i % 4) 0 else byte).length := by
        rw [List.length_mapIdx]
        omega
      rw [List.range_succ, List.foldlM_append, ih (by omega)]
      simp only [bind, Except.bind, List.foldlM_cons, List.foldlM_nil, index_ok hbyte 0,
        index_ok hmask 0, pure, Except.pure, Except.ok.injEq]
      apply List.ext_getElem
      · simp only [List.length_set, List.length_mapIdx]
      · intro i hi hi'
        rw [List.getElem_set, List.getElem_mapIdx]
        split
        · rename_i hni
          subst hni
          rw [List.getD_eq_getElem _ _ hbyte, List.getElem_mapIdx, if_neg (lt_irrefl _),
            List.getElem_mapIdx, if_pos (Nat.lt_add_one _)]
        · rename_i hni
          rw [List.getElem_mapIdx]
          by_cases hlt : i < n
          · rw [if_pos hlt, if_pos (by omega)]
          · rw [if_neg hlt, if_neg (by omega)]
  have hall : payload.mapIdx (fun i byte =>
      if i < payload.length then byte ^^^ key.getD (i % 4) 0 else byte) =
      payload.mapIdx fun i byte => byte ^^^ key.getD (i % 4) 0 := by
    apply List.ext_getElem
    · simp only [List.length_mapIdx]
    · intro i hi hi'
      rw [List.length_mapIdx] at hi
      rw [List.getElem_mapIdx, List.getElem_mapIdx, if_pos hi]
  rw [unmask, hloop _ (le_refl _), H1.unmask, hall]

theorem parseWebsocketFrame_short {buf : List UInt8} (h : buf.length < 2) :
    H1.parseWebsocketFrame buf = none := by
  simp only [H1.parseWebsocketFrame, H1.payloadLen, if_pos h]

theorem payloadLen_start {buf : List UInt8} {start length : Nat}
    (h : H1.payloadLen buf = some (start, length)) : start ≤ 10 := by
  unfold H1.payloadLen at h
  rw [Option.ite_none_left_eq_some] at h
  obtain ⟨-, h⟩ := h
  simp only at h
  split at h
  · obtain ⟨-, h⟩ := Option.ite_none_left_eq_some.mp h
    cases h
    decide
  · split at h
    · obtain ⟨-, h⟩ := Option.ite_none_left_eq_some.mp h
      cases h
      decide
    · cases h
      decide

theorem maskingKey_length {buf key : List UInt8} {masked : Bool} {start behind : Nat}
    (h : H1.maskingKey buf masked start = some (behind, some key)) : key.length = 4 := by
  unfold H1.maskingKey at h
  cases masked with
  | false => cases h
  | true =>
    simp only [if_true, Option.ite_none_left_eq_some, Nat.not_lt] at h
    obtain ⟨hlen, h⟩ := h
    cases h
    rw [List.length_take, List.length_drop]
    omega

theorem parseWebsocketFrame_eq {buf : List UInt8} (h : ¬ FrameTooLong buf) :
    parseWebsocketFrame buf = .ok (H1.parseWebsocketFrame buf) := by
  by_cases hlen : buf.length < 2
  · rw [parseWebsocketFrame_short hlen, parseWebsocketFrame, if_pos hlen]
    rfl
  · unfold parseWebsocketFrame H1.parseWebsocketFrame
    rw [if_neg hlen]
    simp only [index_ok (show 0 < buf.length by omega) 0,
      index_ok (show 1 < buf.length by omega) 0, payloadLen_eq, bind, Except.bind]
    cases hpayload : H1.payloadLen buf with
    | none => rfl
    | some found =>
      obtain ⟨start, length⟩ := found
      simp only [maskingKey_eq (payloadLen_start hpayload)]
      cases hkey : H1.maskingKey buf (buf.getD 1 0 &&& 0x80 != 0) start with
      | none => rfl
      | some found =>
        obtain ⟨behind, key⟩ := found
        have hfits : behind + length < 2 ^ 64 := by
          by_contra hlong
          exact h ⟨start, length, behind, key, hpayload, hkey, Nat.not_lt.mp hlong⟩
        simp only [add_ok hfits]
        split
        · rfl
        · rename_i hpart
          have hslice : slice buf behind (behind + length) =
              .ok ((buf.drop behind).take length) := by
            rw [slice_ok (Nat.le_add_right _ _) (Nat.not_lt.mp hpart), Nat.add_sub_cancel_left]
          simp only [hslice]
          cases key with
          | none => rfl
          | some key =>
            simp only [unmask_eq (maskingKey_length hkey)]
            rfl

theorem parseWebsocketFrame_panics {buf : List UInt8} (h : FrameTooLong buf) :
    ∃ panic, parseWebsocketFrame buf = .error panic := by
  obtain ⟨start, length, behind, key, hpayload, hkey, hlong⟩ := h
  have hlen : ¬ buf.length < 2 := by
    intro hshort
    rw [H1.payloadLen, if_pos hshort] at hpayload
    cases hpayload
  refine ⟨.overflow, ?_⟩
  rw [parseWebsocketFrame, if_neg hlen]
  simp only [index_ok (show 0 < buf.length by omega) 0, index_ok (show 1 < buf.length by omega) 0,
    payloadLen_eq, hpayload, maskingKey_eq (payloadLen_start hpayload), hkey, add_overflow hlong,
    bind, Except.bind]

/-! ## Decoders -/

/-- A front parser as it is computed, by the number of bytes that it takes. -/
def checkedDecoder {α : Type} (front : FrontParser α)
    (parse : List UInt8 → Except Panic (Option (α × Nat))) (Fails : List UInt8 → Prop)
    (parse_eq : ∀ {buf}, ¬ Fails buf → parse buf = .ok (front.parse buf))
    (parse_fails : ∀ {buf}, Fails buf → ∃ panic, parse buf = .error panic) :
    CheckedDecoder front.decoder where
  next buf := (parse buf).map fun found => found.map fun (message, n) => (message, buf.drop n)
  Fails := Fails
  next_eq := by
    intro buf h
    rw [parse_eq h]
    rfl
  next_fails := by
    intro buf h
    obtain ⟨panic, hpanic⟩ := parse_fails h
    exact ⟨panic, by rw [hpanic]; rfl⟩

variable (httparse : Httparse)

def RequestTooLong : List UInt8 → Prop := BodyTooLong httparse.request RequestHead.headers

def ResponseTooLong : List UInt8 → Prop := BodyTooLong httparse.response ResponseHead.headers

def requests : CheckedDecoder (H1.requests httparse) :=
  checkedDecoder (requestParser httparse.request) (parseHttpRequest httparse.request)
    (RequestTooLong httparse)
    (by
      intro buf h
      rw [parseHttpRequest, parseMessage_eq h]
      rfl)
    (by
      intro buf h
      obtain ⟨panic, hpanic⟩ := parseMessage_panics h
      exact ⟨panic, by rw [parseHttpRequest, hpanic]; rfl⟩)

def responses : CheckedDecoder (H1.responses httparse) :=
  checkedDecoder (responseParser httparse.response) (parseHttpResponse httparse.response)
    (ResponseTooLong httparse)
    (by
      intro buf h
      rw [parseHttpResponse, parseMessage_eq h]
      rfl)
    (by
      intro buf h
      obtain ⟨panic, hpanic⟩ := parseMessage_panics h
      exact ⟨panic, by rw [parseHttpResponse, hpanic]; rfl⟩)

def frames : CheckedDecoder H1.frames :=
  checkedDecoder frameParser parseWebsocketFrame FrameTooLong parseWebsocketFrame_eq
    parseWebsocketFrame_panics

/-! ## The observer -/

def readRequests (observer : H1Observer) : Except Panic (List HttpData × H1Observer) := do
  let (read, rest) ← (requests httparse).decodeAll observer.clientToServer
  return (read.flatMap requestEvents, { observer with
    clientToServer := rest
    state := if read.any ParsedRequest.isUpgrade then .upgradeRequested else observer.state })

def readResponses (observer : H1Observer) : Except Panic (List HttpData × H1Observer) := do
  let (read, rest) ← (responses httparse).decodeAll observer.serverToClient
  return (read.flatMap responseEvents, { observer with
    serverToClient := rest
    state := if read.any ParsedResponse.isUpgrade then .webSocket else observer.state })

def readSent (observer : H1Observer) : Except Panic (List HttpData × H1Observer) := do
  let (read, rest) ← frames.decodeAll observer.clientToServer
  return (read.flatMap sendEvents, { observer with
    clientToServer := rest
    state := if read.any WebSocketFrame.isClose then .http else observer.state })

def readReceived (observer : H1Observer) : Except Panic (List HttpData × H1Observer) := do
  let (read, rest) ← frames.decodeAll observer.serverToClient
  return (read.flatMap receiveEvents, { observer with
    serverToClient := rest
    state := if read.any WebSocketFrame.isClose then .http else observer.state })

/-- `parse`, with its four loops. -/
def parse (observer : H1Observer) :
    Except Panic ((List HttpData × List HttpData) × H1Observer) :=
  match observer.state with
  | .http => do
    let (sent, observer) ← readRequests httparse observer
    let (received, observer) ← readResponses httparse observer
    return ((sent, received), observer)
  | .upgradeRequested => do
    let (received, observer) ← readResponses httparse observer
    return (([], received), observer)
  | .webSocket => do
    let (sent, observer) ← readSent observer
    let (received, observer) ← readReceived observer
    return ((sent, received), observer)

def step (observation : Observation) (push : DataDirection × List UInt8) :
    Except Panic Observation := do
  let ((sent, received), observer) ← parse httparse (observation.observer.push push.1 push.2)
  return ⟨observation.sent ++ sent, observation.received ++ received, observer⟩

/-- The calls of `push` and `parse` up to the first panic. -/
def observe (pushes : List (DataDirection × List UInt8)) : Except Panic Observation :=
  pushes.foldlM (step httparse) .start

/-! ## Where it completes -/

/-- No head and no frame header that this call of `parse` comes to is too long. -/
def Fits (observer : H1Observer) : Prop :=
  match observer.state with
  | .http =>
    (∀ rest, Leaves (H1.requests httparse) observer.clientToServer rest →
      ¬ RequestTooLong httparse rest) ∧
    ∀ rest, Leaves (H1.responses httparse) observer.serverToClient rest →
      ¬ ResponseTooLong httparse rest
  | .upgradeRequested =>
    ∀ rest, Leaves (H1.responses httparse) observer.serverToClient rest →
      ¬ ResponseTooLong httparse rest
  | .webSocket =>
    (∀ rest, Leaves H1.frames observer.clientToServer rest → ¬ FrameTooLong rest) ∧
    ∀ rest, Leaves H1.frames observer.serverToClient rest → ¬ FrameTooLong rest

variable {httparse}

theorem readRequests_eq_ok {observer : H1Observer} {read : List HttpData × H1Observer} :
    readRequests httparse observer = .ok read ↔
      observer.readRequests httparse = read ∧
        ∀ rest, Leaves (H1.requests httparse) observer.clientToServer rest →
          ¬ RequestTooLong httparse rest :=
  (requests httparse).map_decodeAll_ok_iff

theorem readResponses_eq_ok {observer : H1Observer} {read : List HttpData × H1Observer} :
    readResponses httparse observer = .ok read ↔
      observer.readResponses httparse = read ∧
        ∀ rest, Leaves (H1.responses httparse) observer.serverToClient rest →
          ¬ ResponseTooLong httparse rest :=
  (responses httparse).map_decodeAll_ok_iff

theorem readSent_eq_ok {observer : H1Observer} {read : List HttpData × H1Observer} :
    readSent observer = .ok read ↔ observer.readSent = read ∧
      ∀ rest, Leaves H1.frames observer.clientToServer rest → ¬ FrameTooLong rest :=
  frames.map_decodeAll_ok_iff

theorem readReceived_eq_ok {observer : H1Observer} {read : List HttpData × H1Observer} :
    readReceived observer = .ok read ↔ observer.readReceived = read ∧
      ∀ rest, Leaves H1.frames observer.serverToClient rest → ¬ FrameTooLong rest :=
  frames.map_decodeAll_ok_iff

/-- Two reads, one after the other, that complete where they fit. -/
theorem exists_two_reads_iff {α β γ : Type} {first : α} {second : α → β} {fits : Prop}
    {fitsBehind : α → Prop} {f : α → β → γ} {result : γ} :
    (∃ a, (first = a ∧ fits) ∧ ∃ b, (second a = b ∧ fitsBehind a) ∧
        (pure (f a b) : Except Panic γ) = .ok result) ↔
      f first (second first) = result ∧ fits ∧ fitsBehind first := by
  constructor
  · rintro ⟨_, ⟨rfl, hsent⟩, _, ⟨rfl, hreceived⟩, hresult⟩
    exact ⟨Except.ok.inj hresult, hsent, hreceived⟩
  · rintro ⟨rfl, hsent, hreceived⟩
    exact ⟨_, ⟨rfl, hsent⟩, _, ⟨rfl, hreceived⟩, rfl⟩

/-- A call completes exactly where all lengths fit, and reads what it reads without bounds. -/
theorem parse_eq_ok {observer : H1Observer}
    {result : (List HttpData × List HttpData) × H1Observer} :
    parse httparse observer = .ok result ↔
      observer.parse httparse = result ∧ Fits httparse observer := by
  rw [parse, H1Observer.parse, Fits]
  cases observer.state with
  | http =>
    simp only [bind_eq_ok, readRequests_eq_ok, readResponses_eq_ok]
    exact exists_two_reads_iff
  | upgradeRequested =>
    simp only [bind_eq_ok, readResponses_eq_ok]
    constructor
    · rintro ⟨_, ⟨rfl, hreceived⟩, hresult⟩
      exact ⟨Except.ok.inj hresult, hreceived⟩
    · rintro ⟨rfl, hreceived⟩
      exact ⟨_, ⟨rfl, hreceived⟩, rfl⟩
  | webSocket =>
    simp only [bind_eq_ok, readSent_eq_ok, readReceived_eq_ok]
    exact exists_two_reads_iff

theorem step_eq_ok {observation next : Observation} {push : DataDirection × List UInt8} :
    step httparse observation push = .ok next ↔
      observation.step httparse push = next ∧
        Fits httparse (observation.observer.push push.1 push.2) := by
  rw [step, bind_eq_ok]
  simp only [parse_eq_ok]
  constructor
  · rintro ⟨_, ⟨rfl, hfits⟩, hnext⟩
    exact ⟨Except.ok.inj hnext, hfits⟩
  · rintro ⟨rfl, hfits⟩
    exact ⟨_, ⟨rfl, hfits⟩, rfl⟩

theorem foldlM_step_eq_ok {pushes : List (DataDirection × List UInt8)}
    {observation last : Observation} :
    pushes.foldlM (step httparse) observation = .ok last ↔
      Machine.run (Observation.step httparse) observation pushes = last ∧
        Machine.Meets (Observation.step httparse)
          (fun observation push => Fits httparse (observation.observer.push push.1 push.2))
          observation pushes := by
  induction pushes generalizing observation with
  | nil =>
    rw [List.foldlM_nil]
    constructor
    · intro h
      exact ⟨Except.ok.inj h, trivial⟩
    · rintro ⟨rfl, -⟩
      rfl
  | cons push pushes ih =>
    rw [List.foldlM_cons, bind_eq_ok]
    simp only [step_eq_ok, ih]
    constructor
    · rintro ⟨_, ⟨rfl, hfits⟩, hlast, hrest⟩
      exact ⟨hlast, hfits, hrest⟩
    · rintro ⟨hlast, hfits, hrest⟩
      exact ⟨_, ⟨rfl, hfits⟩, hlast, hrest⟩

/-- For all chunks in both directions: every call of `parse` completes if and only if all
lengths that it comes to fit. -/
theorem observe_completes_iff (httparse : Httparse)
    (pushes : List (DataDirection × List UInt8)) :
    (∃ observation, observe httparse pushes = .ok observation) ↔
      Machine.Meets (Observation.step httparse)
        (fun observation push => Fits httparse (observation.observer.push push.1 push.2))
        .start pushes := by
  simp only [observe, foldlM_step_eq_ok]
  constructor
  · rintro ⟨_, -, hmeets⟩
    exact hmeets
  · intro hmeets
    exact ⟨_, rfl, hmeets⟩

/-! ## The largest length -/

def hugeBody : List UInt8 :=
  asciiBytes "POST / HTTP/1.1\r\nContent-Length: 18446744073709551615\r\n\r\n"

def hugeBodyHead : RequestHead :=
  ⟨some "POST", some "/", some 1, [("Content-Length", asciiBytes "18446744073709551615")]⟩

def hugeBodyHeads : Httparse :=
  { greetingHeads with request := oneHead hugeBody hugeBodyHead (by decide +kernel) }

/-- The sum of the head and the announced length does not fit. -/
theorem hugeBody_panics :
    ¬ ∃ observation, observe hugeBodyHeads [(.clientToServer, hugeBody)] = .ok observation := by
  rintro ⟨_, h⟩
  obtain ⟨-, ⟨hrequests, -⟩, -⟩ := foldlM_step_eq_ok.mp h
  have hparse : hugeBodyHeads.request.parse hugeBody = .complete hugeBodyHead hugeBody.length :=
    hugeBodyHeads.request.complete_iff.mpr
      ⟨hugeBody, [], (List.append_nil _).symm, ⟨rfl, rfl⟩, rfl⟩
  exact hrequests _ (.here _) ⟨hugeBodyHead, _, hparse, by decide +kernel⟩

end OddBox.H1.Usize

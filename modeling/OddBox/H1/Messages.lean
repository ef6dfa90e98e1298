import OddBox.Incremental
import OddBox.Str

/-!
The messages of `h1_parser.rs`: requests and responses with a body of announced
length, and websocket frames. The parser of message heads is the `httparse`
crate; it is a parameter that finds a head exactly where one stands at the front
of the buffer.
-/

namespace OddBox.H1

open OddBox.Incremental OddBox.Str

/-! ## Heads -/

structure RequestHead where
  method : Option String
  path : Option String
  version : Option UInt8
  headers : List (String × List UInt8)
  deriving DecidableEq, Repr

structure ResponseHead where
  version : Option UInt8
  code : Option UInt16
  reason : Option String
  headers : List (String × List UInt8)
  deriving DecidableEq, Repr

/-- `httparse::Result<Status<usize>>`, with the head that was filled in. -/
inductive HeadResult (α : Type) where
  | complete (head : α) (n : Nat)
  | incomplete
  | failed
  deriving DecidableEq, Repr

/-- A parser of heads with at most 64 headers. It returns `Complete(n)` exactly
where the first `n` bytes are a head, and `Partial` exactly on strict prefixes. -/
structure HeadParser (α : Type) where
  IsHead : List UInt8 → α → Prop
  parse : List UInt8 → HeadResult α
  nonempty : ∀ {text head}, IsHead text head → text ≠ []
  complete_iff : ∀ {buf head n}, parse buf = .complete head n ↔
    ∃ text rest, buf = text ++ rest ∧ IsHead text head ∧ n = text.length
  incomplete_iff : ∀ {buf}, parse buf = .incomplete ↔
    ∃ text head, IsHead text head ∧ buf <+: text ∧ buf ≠ text

/-- A header value as text. -/
def headerText (value : List UInt8) : String :=
  (String.fromUTF8? ⟨value.toArray⟩).getD "<invalid UTF-8>"

def headerTexts (headers : List (String × List UInt8)) : List (String × String) :=
  headers.map fun (name, value) => (name, headerText value)

/-- The first `Content-Length`, if it is a number. -/
def contentLength (headers : List (String × String)) : Nat :=
  match headers.find? fun (name, _) => eqIgnoreAsciiCase name "Content-Length" with
  | some (_, value) => (parseUnsigned 64 value).getD 0
  | none => 0

/-! ## Requests and responses -/

/-- A head with its header texts and the body that follows it. -/
structure RawMessage (α : Type) where
  head : α
  headers : List (String × String)
  body : Option (List UInt8)
  deriving DecidableEq, Repr

/-- The common part of `parse_http_request` and `parse_http_response`, with the
number of bytes consumed. -/
def parseMessage {α : Type} (parser : HeadParser α) (headersOf : α → List (String × List UInt8))
    (buf : List UInt8) : Option (RawMessage α × Nat) :=
  match parser.parse buf with
  | .complete head n =>
    let headers := headerTexts (headersOf head)
    let length := contentLength headers
    if buf.length < n + length then none -- incomplete body
    else
      let body := if length > 0 then some ((buf.drop n).take length) else none
      some (⟨head, headers, body⟩, n + length)
  | .incomplete => none
  | .failed => none

structure ParsedRequest where
  method : String
  path : String
  version : UInt8
  headers : List (String × String)
  body : Option (List UInt8)
  deriving DecidableEq, Repr

structure ParsedResponse where
  version : UInt8
  statusCode : UInt16
  reason : String
  headers : List (String × String)
  body : Option (List UInt8)
  deriving DecidableEq, Repr

def RawMessage.toRequest (message : RawMessage RequestHead) : ParsedRequest where
  method := message.head.method.getD ""
  path := message.head.path.getD ""
  version := message.head.version.getD 1
  headers := message.headers
  body := message.body

def RawMessage.toResponse (message : RawMessage ResponseHead) : ParsedResponse where
  version := message.head.version.getD 1
  statusCode := message.head.code.getD 200
  reason := message.head.reason.getD ""
  headers := message.headers
  body := message.body

def parseHttpRequest (parser : HeadParser RequestHead) (buf : List UInt8) :
    Option (ParsedRequest × Nat) :=
  (parseMessage parser RequestHead.headers buf).map fun (message, consumed) =>
    (message.toRequest, consumed)

def parseHttpResponse (parser : HeadParser ResponseHead) (buf : List UInt8) :
    Option (ParsedResponse × Nat) :=
  (parseMessage parser ResponseHead.headers buf).map fun (message, consumed) =>
    (message.toResponse, consumed)

/-! ## Websocket frames -/

structure WebSocketFrame where
  fin : Bool
  opcode : UInt8
  masked : Bool
  payload : List UInt8
  deriving DecidableEq, Repr

/-- A big-endian number of the given length at the given index. -/
def numberAt (buf : List UInt8) (index count : Nat) : Nat :=
  ((buf.drop index).take count).foldl (fun value byte => value * 256 + byte.toNat) 0

/-- The index behind the length fields and the length of the payload. -/
def payloadLen (buf : List UInt8) : Option (Nat × Nat) :=
  if buf.length < 2 then none
  else
    let short := (buf.getD 1 0 &&& 0x7F).toNat
    if short = 126 then
      if buf.length < 4 then none else some (4, numberAt buf 2 2)
    else if short = 127 then
      if buf.length < 10 then none else some (10, numberAt buf 2 8)
    else some (2, short)

/-- The index behind the masking key, and the key. -/
def maskingKey (buf : List UInt8) (masked : Bool) (index : Nat) :
    Option (Nat × Option (List UInt8)) :=
  if masked then
    if buf.length < index + 4 then none
    else some (index + 4, some ((buf.drop index).take 4))
  else some (index, none)

/-- The payload, each byte under its byte of the key. -/
def unmask (key : Option (List UInt8)) (payload : List UInt8) : List UInt8 :=
  match key with
  | some key => payload.mapIdx fun i byte => byte ^^^ key.getD (i % 4) 0
  | none => payload

def parseWebsocketFrame (buf : List UInt8) : Option (WebSocketFrame × Nat) :=
  let first := buf.getD 0 0
  let masked := buf.getD 1 0 &&& 0x80 != 0
  match payloadLen buf with
  | none => none
  | some (index, length) =>
    match maskingKey buf masked index with
    | none => none
    | some (index, key) =>
      if buf.length < index + length then none
      else
        let frame : WebSocketFrame := {
          fin := first &&& 0x80 != 0
          opcode := first &&& 0x0F
          masked := masked
          payload := unmask key ((buf.drop index).take length) }
        some (frame, index + length)

/-! ## Units of the stream -/

/-- A function that takes a message off the front of a buffer: it returns how
many bytes it took, at least one, and later bytes do not change its answer. -/
structure FrontParser (α : Type) where
  parse : List UInt8 → Option (α × Nat)
  consumes : ∀ {buf message n}, parse buf = some (message, n) → 0 < n ∧ n ≤ buf.length
  stable : ∀ {buf message n}, parse buf = some (message, n) →
    ∀ later, parse (buf ++ later) = some (message, n)

/-- The same messages under another form. -/
def FrontParser.map {α β : Type} (front : FrontParser α) (f : α → β) : FrontParser β where
  parse buf := (front.parse buf).map fun (message, n) => (f message, n)
  consumes := by
    intro buf message n h
    obtain ⟨found, hparse, heq⟩ := Option.map_eq_some_iff.mp h
    cases heq
    exact front.consumes hparse
  stable := by
    intro buf message n h later
    obtain ⟨found, hparse, heq⟩ := Option.map_eq_some_iff.mp h
    rw [front.stable hparse later, Option.map_some, heq]

def FrontParser.decoder {α : Type} (front : FrontParser α) : Decoder UInt8 α where
  next buf := (front.parse buf).map fun (message, n) => (message, buf.drop n)
  stable := by
    intro buf message rest h later
    obtain ⟨⟨found, n⟩, hparse, heq⟩ := Option.map_eq_some_iff.mp h
    cases heq
    simp only [front.stable hparse later, Option.map_some,
      List.drop_append_of_le_length (front.consumes hparse).2]
  shrinks := by
    intro buf message rest h
    obtain ⟨⟨found, n⟩, hparse, heq⟩ := Option.map_eq_some_iff.mp h
    cases heq
    have hn := front.consumes hparse
    rw [List.length_drop]
    omega

theorem FrontParser.next_nil {α : Type} (front : FrontParser α) :
    front.decoder.next [] = none := by
  cases hparse : front.parse [] with
  | none => simp only [FrontParser.decoder, hparse, Option.map_none]
  | some found =>
    obtain ⟨hpos, hle⟩ := front.consumes hparse
    rw [List.length_nil] at hle
    omega

theorem FrontParser.decodeAll_nil {α : Type} (front : FrontParser α) :
    front.decoder.decodeAll [] = ([], []) :=
  Decoder.decodeAll_none _ front.next_nil

/-- A buffer that a message fills is read as that message, whatever follows. -/
theorem FrontParser.next_append {α : Type} {front : FrontParser α} {bytes : List UInt8}
    {message : α} (h : front.parse bytes = some (message, bytes.length)) (rest : List UInt8) :
    front.decoder.next (bytes ++ rest) = some (message, rest) := by
  simp only [FrontParser.decoder, front.stable h rest, Option.map_some, List.drop_left]

section Messages

variable {α : Type} {parser : HeadParser α} {headersOf : α → List (String × List UInt8)}

theorem parseMessage_eq_some {buf : List UInt8} {message : RawMessage α} {consumed : Nat} :
    parseMessage parser headersOf buf = some (message, consumed) ↔
      ∃ text rest, buf = text ++ rest ∧ parser.IsHead text message.head ∧
        message.headers = headerTexts (headersOf message.head) ∧
        contentLength message.headers ≤ rest.length ∧
        message.body = (if contentLength message.headers > 0 then
          some (rest.take (contentLength message.headers)) else none) ∧
        consumed = text.length + contentLength message.headers := by
  obtain ⟨head, headers, body⟩ := message
  constructor
  · intro h
    unfold parseMessage at h
    split at h
    · rename_i found n hparse
      obtain ⟨text, rest, rfl, hhead, rfl⟩ := parser.complete_iff.mp hparse
      simp only [Option.ite_none_left_eq_some, Option.some.injEq, Prod.mk.injEq,
        RawMessage.mk.injEq, List.drop_left, List.length_append, Nat.not_lt] at h
      obtain ⟨hlen, ⟨rfl, rfl, rfl⟩, rfl⟩ := h
      exact ⟨text, rest, rfl, hhead, rfl, Nat.le_of_add_le_add_left hlen, rfl, rfl⟩
    · cases h
    · cases h
  · rintro ⟨text, rest, rfl, hhead, hheaders, hlen, hbody, rfl⟩
    simp only at hhead hheaders hlen hbody
    subst hheaders hbody
    have hparse := parser.complete_iff.mpr ⟨text, rest, rfl, hhead, rfl⟩
    simp only [parseMessage, hparse, List.drop_left, List.length_append]
    rw [if_neg (by omega)]

/-- The parser of requests or responses. -/
def messageParser (parser : HeadParser α) (headersOf : α → List (String × List UInt8)) :
    FrontParser (RawMessage α) where
  parse := parseMessage parser headersOf
  consumes := by
    intro buf message n h
    obtain ⟨text, rest, rfl, hhead, -, hlen, -, rfl⟩ := parseMessage_eq_some.mp h
    have hpos := List.length_pos_iff.mpr (parser.nonempty hhead)
    rw [List.length_append]
    omega
  stable := by
    intro buf message n h later
    obtain ⟨text, rest, rfl, hhead, hheaders, hlen, hbody, rfl⟩ := parseMessage_eq_some.mp h
    apply parseMessage_eq_some.mpr
    refine ⟨text, rest ++ later, List.append_assoc _ _ _, hhead, hheaders, ?_, ?_, rfl⟩
    · rw [List.length_append]
      omega
    · rw [hbody, List.take_append_of_le_length hlen]

end Messages

def requestParser (parser : HeadParser RequestHead) : FrontParser ParsedRequest :=
  (messageParser parser RequestHead.headers).map RawMessage.toRequest

def responseParser (parser : HeadParser ResponseHead) : FrontParser ParsedResponse :=
  (messageParser parser ResponseHead.headers).map RawMessage.toResponse

theorem requestParser_parse (parser : HeadParser RequestHead) :
    (requestParser parser).parse = parseHttpRequest parser := rfl

theorem responseParser_parse (parser : HeadParser ResponseHead) :
    (responseParser parser).parse = parseHttpResponse parser := rfl

/-! ## Frames are units -/

theorem numberAt_append {buf : List UInt8} {index count : Nat}
    (h : index + count ≤ buf.length) (later : List UInt8) :
    numberAt (buf ++ later) index count = numberAt buf index count := by
  have hlen : count ≤ (buf.drop index).length := by
    rw [List.length_drop]
    omega
  rw [numberAt, numberAt, List.drop_append_of_le_length (by omega),
    List.take_append_of_le_length hlen]

theorem getD_append {buf : List UInt8} {index : Nat} (h : index < buf.length)
    (later : List UInt8) : (buf ++ later).getD index 0 = buf.getD index 0 := by
  rw [List.getD_eq_getElem?_getD, List.getD_eq_getElem?_getD, List.getElem?_append_left h]

theorem payloadLen_append {buf : List UInt8} {index length : Nat}
    (h : payloadLen buf = some (index, length)) (later : List UInt8) :
    2 ≤ index ∧ index ≤ buf.length ∧ payloadLen (buf ++ later) = some (index, length) := by
  unfold payloadLen at h ⊢
  rw [Option.ite_none_left_eq_some] at h
  obtain ⟨hlen, h⟩ := h
  have hmore : ∀ n, ¬ buf.length < n → ¬ (buf ++ later).length < n := by
    intro n hn
    rw [List.length_append]
    omega
  rw [if_neg (hmore 2 hlen), getD_append (by omega)]
  simp only at h ⊢
  split at h
  · rename_i hshort
    rw [Option.ite_none_left_eq_some, Option.some.injEq, Prod.mk.injEq] at h
    obtain ⟨hlong, rfl, rfl⟩ := h
    refine ⟨by omega, by omega, ?_⟩
    rw [if_pos hshort, if_neg (hmore 4 hlong), numberAt_append (by omega)]
  · rename_i hshort
    split at h
    · rename_i hlonger
      rw [Option.ite_none_left_eq_some, Option.some.injEq, Prod.mk.injEq] at h
      obtain ⟨hlong, rfl, rfl⟩ := h
      refine ⟨by omega, by omega, ?_⟩
      rw [if_neg hshort, if_pos hlonger, if_neg (hmore 10 hlong), numberAt_append (by omega)]
    · rename_i hlonger
      rw [Option.some.injEq, Prod.mk.injEq] at h
      obtain ⟨rfl, rfl⟩ := h
      refine ⟨by omega, by omega, ?_⟩
      rw [if_neg hshort, if_neg hlonger]

theorem maskingKey_append {buf : List UInt8} {masked : Bool} {index behind : Nat}
    {key : Option (List UInt8)} (hindex : index ≤ buf.length)
    (h : maskingKey buf masked index = some (behind, key)) (later : List UInt8) :
    index ≤ behind ∧ behind ≤ buf.length ∧
      maskingKey (buf ++ later) masked index = some (behind, key) := by
  unfold maskingKey at h ⊢
  cases masked with
  | false =>
    cases h
    exact ⟨Nat.le_refl _, hindex, rfl⟩
  | true =>
    simp only [if_true, Option.ite_none_left_eq_some, Option.some.injEq, Prod.mk.injEq,
      Nat.not_lt] at h
    obtain ⟨hlen, rfl, rfl⟩ := h
    have hdrop : 4 ≤ (buf.drop index).length := by
      rw [List.length_drop]
      omega
    refine ⟨by omega, hlen, ?_⟩
    rw [if_pos rfl, if_neg (by rw [List.length_append]; omega),
      List.drop_append_of_le_length hindex, List.take_append_of_le_length hdrop]

theorem parseWebsocketFrame_append {buf : List UInt8} {frame : WebSocketFrame} {n : Nat}
    (h : parseWebsocketFrame buf = some (frame, n)) (later : List UInt8) :
    0 < n ∧ n ≤ buf.length ∧ parseWebsocketFrame (buf ++ later) = some (frame, n) := by
  unfold parseWebsocketFrame at h ⊢
  cases hpayload : payloadLen buf with
  | none =>
    simp only [hpayload, reduceCtorEq] at h
  | some found =>
    obtain ⟨index, length⟩ := found
    obtain ⟨htwo, hindex, hpayload'⟩ := payloadLen_append hpayload later
    simp only [hpayload] at h
    cases hkey : maskingKey buf (buf.getD 1 0 &&& 0x80 != 0) index with
    | none => simp only [hkey, reduceCtorEq] at h
    | some found =>
      obtain ⟨behind, key⟩ := found
      obtain ⟨hle, hbehind, hkey'⟩ := maskingKey_append hindex hkey later
      simp only [hkey, Option.ite_none_left_eq_some, Option.some.injEq, Prod.mk.injEq,
        Nat.not_lt] at h
      obtain ⟨hlen, rfl, rfl⟩ := h
      have hdrop : length ≤ (buf.drop behind).length := by
        rw [List.length_drop]
        omega
      refine ⟨by omega, hlen, ?_⟩
      rw [getD_append (show 0 < buf.length by omega), getD_append (show 1 < buf.length by omega)]
      simp only [hpayload', hkey']
      rw [if_neg (by rw [List.length_append]; omega), List.drop_append_of_le_length hbehind,
        List.take_append_of_le_length hdrop]

/-- The parser of websocket frames. -/
def frameParser : FrontParser WebSocketFrame where
  parse := parseWebsocketFrame
  consumes := by
    intro buf frame n h
    obtain ⟨hpos, hle, -⟩ := parseWebsocketFrame_append h []
    exact ⟨hpos, hle⟩
  stable := by
    intro buf frame n h later
    exact (parseWebsocketFrame_append h later).2.2

end OddBox.H1

import OddBox.Digits
import OddBox.H1.Usize

/-!
The requests of a client that asks for no websocket, however its bytes are cut: after every
chunk the buffer holds the beginning of the requests that are still to come.
-/

namespace OddBox.H1

open OddBox.Checked OddBox.Incremental OddBox.Str

/-! ## Requests on the wire -/

/-- A number in decimal digits. -/
structure IsDecimal (text : String) (number : Nat) : Prop where
  nonempty : text.toList ≠ []
  digits : ∀ c ∈ text.toList, c.isDigit = true
  value : Digits.value 10 (fun c => c.toNat - '0'.toNat) text.toList = number

def utf8 (text : String) : List UInt8 := text.toUTF8.data.toList

/-- At most one `Content-Length`, which is the length of the body. -/
def Sized (headers : List (String × List UInt8)) (body : List UInt8) : Prop :=
  match headers.filter fun header => eqIgnoreAsciiCase header.1 "Content-Length" with
  | [] => body = []
  | [(_, value)] => ∃ text, value = utf8 text ∧ IsDecimal text body.length
  | _ => False

/-- A request of HTTP/1.0 or HTTP/1.1 that asks for no websocket. Its parts are in memory
together, so that their lengths have a sum of 64 bits. -/
structure EncodedRequest (httparse : Httparse) where
  text : List UInt8
  method : String
  path : String
  version : UInt8
  headers : List (String × List UInt8)
  body : List UInt8
  isHead : httparse.request.IsHead text ⟨some method, some path, some version, headers⟩
  isHttp1 : version = 0 ∨ version = 1
  headerCount : headers.length ≤ 64
  sized : Sized headers body
  unchunked : ∀ header ∈ headers, eqIgnoreAsciiCase header.1 "Transfer-Encoding" = false
  noUpgrade : hasUpgradeHeaders (headerTexts headers) = false
  inMemory : text.length + body.length < 2 ^ 64

/-- A header is reported with its name, and with its value where that is UTF-8. -/
def HeaderReported (header : String × List UInt8) (reported : String × String) : Prop :=
  reported.1 = header.1 ∧ ∀ text, header.2 = utf8 text → reported.2 = text

/-- The event is the request. -/
def EncodedRequest.Reported {httparse : Httparse} (request : EncodedRequest httparse) :
    HttpData → Prop
  | .request parsed =>
    parsed.method = request.method ∧ parsed.path = request.path ∧
      parsed.version = request.version ∧
      List.Forall₂ HeaderReported request.headers parsed.headers ∧
      parsed.body = if request.body = [] then none else some request.body
  | _ => False

/-! ## The announced length -/

theorem le_foldl_digits (chars : List Char) (number : Nat) :
    number ≤ chars.foldl (fun value c => value * 10 + (c.toNat - '0'.toNat)) number := by
  induction chars generalizing number with
  | nil => exact Nat.le_refl number
  | cons c chars ih =>
    have hstep : number ≤ number * 10 + (c.toNat - '0'.toNat) := by omega
    exact hstep.trans (ih _)

/-- Digits are read as their value when that has so many bits. -/
theorem parseDigits_eq {bits : Nat} {chars : List Char}
    (hdigits : ∀ c ∈ chars, c.isDigit = true) {number : Nat}
    (hbits : chars.foldl (fun value c => value * 10 + (c.toNat - '0'.toNat)) number < 2 ^ bits) :
    parseDigits bits number chars =
      some (chars.foldl (fun value c => value * 10 + (c.toNat - '0'.toNat)) number) := by
  induction chars generalizing number with
  | nil => rfl
  | cons c chars ih =>
    have hsmall : number * 10 + (c.toNat - '0'.toNat) < 2 ^ bits :=
      (le_foldl_digits chars _).trans_lt hbits
    unfold parseDigits
    rw [if_pos (hdigits c List.mem_cons_self)]
    dsimp only
    rw [if_pos hsmall, ih (fun c hc => hdigits c (List.mem_cons_of_mem _ hc)) hbits]
    rfl

theorem IsDecimal.parseUnsigned_eq {text : String} {number bits : Nat}
    (h : IsDecimal text number) (hbits : number < 2 ^ bits) :
    parseUnsigned bits text = some number := by
  obtain ⟨hnonempty, hdigits, hvalue⟩ := h
  unfold parseUnsigned
  dsimp only
  split
  · next digits heq =>
    have hplus := hdigits '+' (by rw [heq]; exact List.mem_cons_self)
    contradiction
  rw [if_neg (by rwa [List.isEmpty_iff])]
  rw [← hvalue] at hbits ⊢
  exact parseDigits_eq hdigits hbits

theorem headerText_utf8 (text : String) : headerText (utf8 text) = text := by
  rw [headerText, utf8, fromUTF8_toUTF8]
  rfl

theorem contentLength_find (headers : List (String × String)) :
    contentLength headers =
      ((headers.find? fun header => eqIgnoreAsciiCase header.1 "Content-Length").map
        fun header => (parseUnsigned 64 header.2).getD 0).getD 0 := by
  unfold contentLength
  split
  · next name value hsome =>
    have hfind : (headers.find? fun header => eqIgnoreAsciiCase header.1 "Content-Length") =
        some (name, value) := hsome
    rw [hfind]
    rfl
  · next hnone =>
    have hfind : (headers.find? fun header => eqIgnoreAsciiCase header.1 "Content-Length") =
        none := hnone
    rw [hfind]
    rfl

/-- The length that is found is that of the body. -/
theorem Sized.contentLength_eq {headers : List (String × List UInt8)} {body : List UInt8}
    (h : Sized headers body) (hbits : body.length < 2 ^ 64) :
    contentLength (headerTexts headers) = body.length := by
  have hfind : (headerTexts headers).find? (fun header =>
      eqIgnoreAsciiCase header.1 "Content-Length") =
      ((headers.filter fun header => eqIgnoreAsciiCase header.1 "Content-Length").head?).map
        fun header => (header.1, headerText header.2) := by
    rw [List.head?_filter, headerTexts, List.find?_map]
    rfl
  unfold Sized at h
  rw [contentLength_find, hfind]
  split at h
  · next hnone =>
    rw [hnone, h]
    rfl
  · next name value hone =>
    obtain ⟨text, rfl, hdecimal⟩ := h
    rw [hone]
    dsimp only [List.head?_cons, Option.map_some, Option.getD_some]
    rw [headerText_utf8, hdecimal.parseUnsigned_eq hbits]
    rfl
  · contradiction

section

variable {httparse : Httparse}

def EncodedRequest.message (request : EncodedRequest httparse) : RequestMessage httparse where
  text := request.text
  head := ⟨some request.method, some request.path, some request.version, request.headers⟩
  body := request.body
  isHead := request.isHead
  announced := by
    have hbits : request.body.length < 2 ^ 64 := by
      have := request.inMemory
      omega
    exact (request.sized.contentLength_eq hbits).symm

def EncodedRequest.bytes (request : EncodedRequest httparse) : List UInt8 :=
  request.text ++ request.body

theorem EncodedRequest.isUpgrade_eq_false (request : EncodedRequest httparse) :
    request.message.request.isUpgrade = false := request.noUpgrade

theorem headers_reported (headers : List (String × List UInt8)) :
    List.Forall₂ HeaderReported headers (headerTexts headers) := by
  rw [headerTexts, List.forall₂_map_right_iff, List.forall₂_same]
  rintro ⟨name, value⟩ _
  refine ⟨rfl, ?_⟩
  rintro text rfl
  exact headerText_utf8 text

theorem EncodedRequest.reported (request : EncodedRequest httparse) :
    request.Reported (.request request.message.request) :=
  ⟨rfl, rfl, rfl, headers_reported request.headers, rfl⟩

/-! ## What is still to come -/

/-- The buffer holds the beginning of some of these messages. -/
def Begins (requests : List (EncodedRequest httparse)) (buf : List UInt8) : Prop :=
  ∃ later, later <:+ requests ∧ buf <+: (later.map EncodedRequest.bytes).flatten

/-- Taking a message off the front leaves the beginning of those behind it. -/
theorem Begins.leaves {requests : List (EncodedRequest httparse)} {buf rest : List UInt8}
    (h : Begins requests buf) (hleaves : Leaves (H1.requests httparse) buf rest) :
    Begins requests rest := by
  induction hleaves with
  | here buf => exact h
  | @later buf unit mid last hnext _ ih =>
    apply ih
    obtain ⟨later, hsuffix, tail, htail⟩ := h
    have hstable := (H1.requests httparse).stable hnext tail
    rw [htail] at hstable
    cases later with
    | nil =>
      have hnil : (H1.requests httparse).next [] = none := FrontParser.next_nil _
      rw [List.map_nil, List.flatten_nil, hnil] at hstable
      contradiction
    | cons request later =>
      have hencoded := requests_encode.next_encode request.message
        ((later.map EncodedRequest.bytes).flatten)
      rw [List.map_cons, List.flatten_cons] at hstable
      have hfound := hstable.symm.trans hencoded
      rw [Option.some.injEq, Prod.mk.injEq] at hfound
      exact ⟨later, (List.suffix_cons _ _).trans hsuffix, tail, hfound.2⟩

/-- The head at the front is that of the first message, whose length fits. -/
theorem Begins.notTooLong {requests : List (EncodedRequest httparse)} {buf : List UInt8}
    (h : Begins requests buf) : ¬Usize.RequestTooLong httparse buf := by
  rintro ⟨head, n, hparse, hlong⟩
  obtain ⟨later, -, tail, htail⟩ := h
  obtain ⟨text, rest, rfl, hhead, rfl⟩ := httparse.request.complete_iff.mp hparse
  cases later with
  | nil =>
    rw [List.map_nil, List.flatten_nil, List.append_assoc, List.append_eq_nil_iff] at htail
    exact httparse.request.nonempty hhead htail.1
  | cons request later =>
    have hwhole : httparse.request.parse
        (((request :: later).map EncodedRequest.bytes).flatten) = .complete head text.length := by
      rw [← htail]
      exact httparse.request.complete_iff.mpr ⟨text, rest ++ tail, by simp, hhead, rfl⟩
    have hfirst : httparse.request.parse
        (((request :: later).map EncodedRequest.bytes).flatten) =
          .complete request.message.head request.text.length := by
      apply httparse.request.complete_iff.mpr
      refine ⟨request.text, request.body ++ (later.map EncodedRequest.bytes).flatten, ?_,
        request.isHead, rfl⟩
      rw [List.map_cons, List.flatten_cons, EncodedRequest.bytes, List.append_assoc]
    rw [hwhole, HeadResult.complete.injEq] at hfirst
    obtain ⟨rfl, hlength⟩ := hfirst
    have hannounced := request.message.announced
    have hmemory := request.inMemory
    change request.body.length = _ at hannounced
    omega

/-! ## The run -/

theorem decode_encoded (requests : List (EncodedRequest httparse)) :
    (H1.requests httparse).decodeAll (requests.map EncodedRequest.bytes).flatten =
      (requests.map fun request => request.message.request, []) := by
  have hdecoded := decode_requests (requests.map EncodedRequest.message)
  rw [List.map_map, List.map_map] at hdecoded
  exact hdecoded

/-- No part of the bytes has a request for a websocket. -/
theorem decoded_noUpgrade {requests : List (EncodedRequest httparse)} {first later : List UInt8}
    (hall : first ++ later = (requests.map EncodedRequest.bytes).flatten) :
    ((H1.requests httparse).decodeAll first).1.any ParsedRequest.isUpgrade = false := by
  have hmono := (H1.requests httparse).decodeAll_mono first later
  rw [hall, decode_encoded] at hmono
  rw [List.any_eq_false]
  intro parsed hparsed
  obtain ⟨request, -, rfl⟩ := List.mem_map.mp (hmono.subset hparsed)
  rw [Bool.not_eq_true]
  exact request.isUpgrade_eq_false

/-- A chunk is read without a panic, and to the end. -/
theorem step_client {requests : List (EncodedRequest httparse)} {first chunk later : List UInt8}
    (hall : first ++ chunk ++ later = (requests.map EncodedRequest.bytes).flatten) :
    Usize.step httparse (httpObservation httparse first []) (.clientToServer, chunk) =
      .ok (httpObservation httparse (first ++ chunk) []) := by
  have hquiet : ((H1.requests httparse).decodeAll first).1.any ParsedRequest.isUpgrade = false :=
    decoded_noUpgrade ((List.append_assoc first chunk later).symm.trans hall)
  apply Usize.step_eq_ok.mpr
  refine ⟨httpObservation_client _ _ _ _ (by rw [hquiet]; rintro ⟨⟩), ?_⟩
  simp only [Usize.Fits, httpObservation, hquiet, Bool.false_eq_true, if_false, H1Observer.push]
  constructor
  · intro rest hrest
    have hbuffer := (leaves_decodeAll (H1.requests httparse) first).append chunk
    have hbegins : Begins requests (first ++ chunk) :=
      ⟨requests, List.suffix_refl _, later, hall⟩
    exact ((hbegins.leaves hbuffer).leaves hrest).notTooLong
  · have hempty : ((responses httparse).decodeAll []).2 = [] := by
      rw [responses, FrontParser.decodeAll_nil]
    rw [hempty]
    intro rest hrest
    rintro ⟨head, n, hparse, -⟩
    have hnone : (responses httparse).next [] = none := FrontParser.next_nil _
    cases hrest with
    | here =>
      obtain ⟨text, rest, hnil, hhead, -⟩ := httparse.response.complete_iff.mp hparse
      exact httparse.response.nonempty hhead (List.append_eq_nil_iff.mp hnil.symm).1
    | later hnext _ =>
      rw [hnone] at hnext
      contradiction

theorem foldlM_client {requests : List (EncodedRequest httparse)} {first later : List UInt8}
    {chunks : List (List UInt8)}
    (hall : first ++ chunks.flatten ++ later = (requests.map EncodedRequest.bytes).flatten) :
    (chunks.map fun chunk => (DataDirection.clientToServer, chunk)).foldlM (Usize.step httparse)
        (httpObservation httparse first []) =
      .ok (httpObservation httparse (first ++ chunks.flatten) []) := by
  induction chunks generalizing first with
  | nil =>
    rw [List.flatten_nil, List.append_nil]
    rfl
  | cons chunk chunks ih =>
    rw [List.flatten_cons, ← List.append_assoc] at hall ⊢
    have hnext : first ++ chunk ++ (chunks.flatten ++ later) =
        (requests.map EncodedRequest.bytes).flatten := by
      rw [← List.append_assoc]
      exact hall
    rw [List.map_cons, List.foldlM_cons, step_client hnext]
    exact ih hall

/-- **Reassembly of requests**: cut in any way, the bytes of the requests are reported as these
requests in their order, and nothing of them is left. -/
theorem requests_reassembled (httparse : Httparse) (requests : List (EncodedRequest httparse))
    (chunks : List (List UInt8))
    (hchunks : chunks.flatten = (requests.map EncodedRequest.bytes).flatten) :
    ∃ observation,
      Usize.observe httparse (chunks.map fun chunk => (.clientToServer, chunk)) =
        .ok observation ∧
      List.Forall₂ EncodedRequest.Reported requests observation.sent ∧
      observation.received = [] ∧ observation.observer = .default := by
  have hall : [] ++ chunks.flatten ++ [] = (requests.map EncodedRequest.bytes).flatten := by
    rw [List.append_nil, List.nil_append, hchunks]
  have hrun := foldlM_client hall
  have hdecoded := decode_encoded requests
  have hquiet : ((H1.requests httparse).decodeAll
      (requests.map EncodedRequest.bytes).flatten).1.any ParsedRequest.isUpgrade = false :=
    decoded_noUpgrade (List.append_nil _)
  have hserver : (responses httparse).decodeAll [] = ([], []) := FrontParser.decodeAll_nil _
  rw [httpObservation_nil, List.nil_append, hchunks] at hrun
  refine ⟨_, hrun, ?_, ?_, ?_⟩
  · simp only [httpObservation, hdecoded, List.flatMap_map]
    have hevents : (requests.flatMap fun request => requestEvents request.message.request) =
        requests.map fun request => HttpData.request request.message.request := by
      rw [← List.flatMap_singleton' (requests.map _), List.flatMap_map]
      congr 1
      funext request
      simp only [requestEvents, request.isUpgrade_eq_false,
        Bool.false_eq_true, if_false]
    rw [hevents, List.forall₂_map_right_iff, List.forall₂_same]
    intro request _
    exact request.reported
  · simp only [httpObservation, hserver, List.flatMap_nil]
  · rw [hdecoded] at hquiet
    simp only [httpObservation, hdecoded, hserver, hquiet, Bool.false_eq_true, if_false]
    rfl

end

/-! ## Two requests in three chunks -/

def postText : List UInt8 := asciiBytes "POST /a HTTP/1.1\r\nContent-Length: 2\r\n\r\n"

def postHead : RequestHead :=
  ⟨some "POST", some "/a", some 1, [("Content-Length", asciiBytes "2")]⟩

def postHeads : Httparse :=
  { greetingHeads with request := oneHead postText postHead (by decide +kernel) }

def post : EncodedRequest postHeads where
  text := postText
  method := "POST"
  path := "/a"
  version := 1
  headers := [("Content-Length", asciiBytes "2")]
  body := asciiBytes "hi"
  isHead := ⟨rfl, rfl⟩
  isHttp1 := .inr rfl
  headerCount := by decide
  sized := by
    refine ⟨"2", by decide +kernel, by decide +kernel, ?_, by decide +kernel⟩
    intro c hc
    obtain rfl : c = '2' := List.mem_singleton.mp hc
    rfl
  unchunked := by decide +kernel
  noUpgrade := by decide +kernel
  inMemory := by decide +kernel

/-- The first cut is in a head, the second behind the next head. -/
def postChunks : List (List UInt8) :=
  [post.bytes.take 20, post.bytes.drop 20 ++ postText, post.body]

theorem post_reassembled :
    ∃ observation,
      Usize.observe postHeads (postChunks.map fun chunk => (.clientToServer, chunk)) =
        .ok observation ∧
      List.Forall₂ EncodedRequest.Reported [post, post] observation.sent ∧
      observation.received = [] ∧ observation.observer = .default :=
  requests_reassembled postHeads [post, post] postChunks (by decide +kernel)

end OddBox.H1

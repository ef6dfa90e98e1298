import OddBox.DirectoryServer.Handle
import OddBox.TcpProxy.Requests

/-!
The headers of a backend's response that are not meant for the client: `create_proxied_response`
of `http_proxy/utils.rs`. The maps of the `http` crate are a parameter.
-/

namespace OddBox.Proxy

open OddBox.DirectoryServer (HeaderValue bytesOf)
open OddBox.TcpProxy (toAsciiLowercase trimEnd trimStart)

/-- The header names and maps of the `http` crate. A map keeps the values of a name in order. -/
structure HttpHeaders where
  HeaderName : Type
  /-- `HeaderName::from_static`, for the texts that are names. -/
  fromStatic : String → HeaderName
  /-- `HeaderName::from_bytes`, which does not regard the case of letters. -/
  fromBytes : List UInt8 → Option HeaderName
  HeaderMap : Type
  getAll : HeaderMap → HeaderName → List HeaderValue
  remove : HeaderMap → HeaderName → HeaderMap
  getAll_removed : ∀ headers name, getAll (remove headers name) name = []
  getAll_other : ∀ headers {name other}, other ≠ name →
    getAll (remove headers name) other = getAll headers other

section

variable (http : HttpHeaders)

/-! ## What the proxy removes -/

def connectionHeader : http.HeaderName := http.fromStatic "connection"

/-- `HOP_HEADERS`. -/
def hopHeaders : List http.HeaderName :=
  [connectionHeader http, http.fromStatic "te", http.fromStatic "trailer",
    http.fromStatic "keep-alive", http.fromStatic "proxy-connection",
    http.fromStatic "proxy-authenticate", http.fromStatic "proxy-authorization",
    http.fromStatic "transfer-encoding", http.fromStatic "upgrade"]

def removeAll (names : List http.HeaderName) (headers : http.HeaderMap) : http.HeaderMap :=
  names.foldl http.remove headers

def removeHopHeaders (headers : http.HeaderMap) : http.HeaderMap :=
  removeAll http (hopHeaders http) headers

/-- `str::trim`. -/
def trim (text : List Char) : List Char :=
  (text.dropWhile Char.isWhitespace).rdropWhile Char.isWhitespace

/-- `HeaderMap::remove` by a text, which removes nothing where the text is no name. -/
def removeNamed (headers : http.HeaderMap) (name : List Char) : http.HeaderMap :=
  match http.fromBytes (bytesOf (String.ofList name)) with
  | some name => http.remove headers name
  | none => headers

/-- Without a result where the first value of the header is no text. -/
def removeConnectionHeaders (headers : http.HeaderMap) : Option http.HeaderMap :=
  match (http.getAll headers (connectionHeader http)).head? with
  | some value =>
    match value.toStr with
    | some text =>
      some ((text.toList.splitOn ',').foldl (fun headers name =>
        if (trim name).isEmpty then headers else removeNamed http headers (trim name)) headers)
    | none => none
  | none => some headers

/-- A response: its headers, and all the rest of it. -/
structure Response (B : Type) where
  headers : http.HeaderMap
  rest : B

/-- No result is a panic. -/
def createProxiedResponse {B : Type} (response : Response http B) : Option (Response http B) :=
  match removeConnectionHeaders http (removeHopHeaders http response.headers) with
  | some headers => some { response with headers := headers }
  | none => none

/-! ## What has to be removed -/

/-- The tokens of a list in a header's value, without the blanks around them. -/
def tokens (value : HeaderValue) : List (List UInt8) :=
  (value.splitOn 44).map fun token => trimStart (trimEnd token)

/-- A `Connection` header lists the name. -/
def Listed (headers : http.HeaderMap) (name : http.HeaderName) : Prop :=
  ∃ value ∈ http.getAll headers (connectionHeader http), ∃ token ∈ tokens value,
    http.fromBytes token = some name

/-- What is for this connection only is gone, and all else is as it was. -/
structure EndToEnd (before after : http.HeaderMap) : Prop where
  hop : ∀ name ∈ hopHeaders http, http.getAll after name = []
  listed : ∀ name, Listed http before name → http.getAll after name = []
  kept : ∀ name, name ∉ hopHeaders http → ¬Listed http before name →
    http.getAll after name = http.getAll before name

/-- The response is passed on, with nothing but its own headers for the client. -/
def PassedOn {B : Type} (response : Response http B) : Prop :=
  ∃ proxied, createProxiedResponse http response = some proxied ∧
    proxied.rest = response.rest ∧ EndToEnd http response.headers proxied.headers

end

section

variable {http : HttpHeaders}

theorem getAll_remove_nil {headers : http.HeaderMap} {name : http.HeaderName}
    (h : http.getAll headers name = []) (removed : http.HeaderName) :
    http.getAll (http.remove headers removed) name = [] := by
  by_cases hsame : name = removed
  · rw [hsame]
    exact http.getAll_removed headers removed
  · rw [http.getAll_other headers hsame]
    exact h

theorem getAll_removeAll_nil {names : List http.HeaderName} {name : http.HeaderName} :
    ∀ {headers : http.HeaderMap}, http.getAll headers name = [] →
      http.getAll (removeAll http names headers) name = [] := by
  induction names with
  | nil =>
    intro headers h
    exact h
  | cons removed names ih =>
    intro headers h
    apply ih
    exact getAll_remove_nil h removed

theorem getAll_removeAll_mem {names : List http.HeaderName} {name : http.HeaderName}
    (hmem : name ∈ names) :
    ∀ headers : http.HeaderMap, http.getAll (removeAll http names headers) name = [] := by
  induction names with
  | nil => contradiction
  | cons removed names ih =>
    intro headers
    change http.getAll (removeAll http names (http.remove headers removed)) name = []
    rcases List.mem_cons.mp hmem with rfl | hmem
    · apply getAll_removeAll_nil
      exact http.getAll_removed headers name
    · exact ih hmem _

theorem getAll_removeAll_other {names : List http.HeaderName} {name : http.HeaderName}
    (hother : name ∉ names) :
    ∀ headers : http.HeaderMap,
      http.getAll (removeAll http names headers) name = http.getAll headers name := by
  induction names with
  | nil =>
    intro headers
    rfl
  | cons removed names ih =>
    intro headers
    rw [List.mem_cons, not_or] at hother
    have hrest := ih hother.2 (http.remove headers removed)
    rw [http.getAll_other headers hother.1] at hrest
    exact hrest

theorem connectionHeader_mem : connectionHeader http ∈ hopHeaders http := List.mem_cons_self

/-- The `Connection` headers are removed before they are read. -/
theorem removeConnectionHeaders_removed (headers : http.HeaderMap) :
    removeConnectionHeaders http (removeHopHeaders http headers) =
      some (removeHopHeaders http headers) := by
  have hgone := getAll_removeAll_mem connectionHeader_mem headers
  unfold removeConnectionHeaders removeHopHeaders
  rw [hgone]
  rfl

/-- Whatever the response is, it is passed on without the headers of the fixed list. -/
theorem createProxiedResponse_eq {B : Type} (response : Response http B) :
    createProxiedResponse http response =
      some { response with headers := removeHopHeaders http response.headers } := by
  unfold createProxiedResponse
  rw [removeConnectionHeaders_removed]

/-- **Hop-by-hop headers**: no response makes the proxy panic, and what it passes on is right
exactly where the `Connection` headers list no names but those of the fixed list and of headers
that the response does not have. -/
theorem hop_headers_removed_iff {B : Type} (response : Response http B) :
    PassedOn http response ↔
      ∀ name, Listed http response.headers name →
        name ∈ hopHeaders http ∨ http.getAll response.headers name = [] := by
  constructor
  · rintro ⟨proxied, hproxied, -, hclean⟩ name hlisted
    rw [createProxiedResponse_eq] at hproxied
    cases hproxied
    by_cases hhop : name ∈ hopHeaders http
    · exact Or.inl hhop
    · right
      rw [← getAll_removeAll_other hhop]
      exact hclean.listed name hlisted
  · intro hlisted
    refine ⟨_, createProxiedResponse_eq response, rfl, ?_, ?_, ?_⟩
    · intro name hhop
      exact getAll_removeAll_mem hhop response.headers
    · intro name hname
      rcases hlisted name hname with hhop | habsent
      · exact getAll_removeAll_mem hhop response.headers
      · exact getAll_removeAll_nil habsent
    · intro name hhop _
      exact getAll_removeAll_other hhop response.headers

end

/-! ## A header that is listed -/

/-- Maps as lists of names in lower case and values. -/
def listHeaders : HttpHeaders where
  HeaderName := List UInt8
  fromStatic := bytesOf
  fromBytes bytes := if bytes.isEmpty then none else some (bytes.map toAsciiLowercase)
  HeaderMap := List (List UInt8 × HeaderValue)
  getAll headers name := (headers.filter fun header => header.1 = name).map (·.2)
  remove headers name := headers.filter fun header => header.1 ≠ name
  getAll_removed := by
    intro headers name
    simp
  getAll_other := by
    intro headers name other hother
    rw [List.filter_filter]
    congr 1
    apply List.filter_congr
    intro header _
    simp only [ne_eq, decide_not]
    by_cases h : header.1 = other
    · simp [h, hother]
    · simp [h]

/-- A session's header that the backend wants to be dropped. -/
def listedResponse : Response listHeaders Unit where
  headers :=
    [(bytesOf "connection", bytesOf "close, X-Session"),
      (bytesOf "x-session", bytesOf "backend"), (bytesOf "server", bytesOf "test")]
  rest := ()

/-- The header that is listed reaches the client. -/
theorem listedResponse_passed :
    createProxiedResponse listHeaders listedResponse = some
        ⟨[(bytesOf "x-session", bytesOf "backend"), (bytesOf "server", bytesOf "test")], ()⟩ ∧
      ¬PassedOn listHeaders listedResponse := by
  have hpassed : createProxiedResponse listHeaders listedResponse = some
      ⟨[(bytesOf "x-session", bytesOf "backend"), (bytesOf "server", bytesOf "test")], ()⟩ := by
    rfl
  refine ⟨hpassed, ?_⟩
  rintro ⟨proxied, hproxied, -, hclean⟩
  have hlisted : Listed listHeaders listedResponse.headers (bytesOf "x-session") :=
    ⟨bytesOf "close, X-Session", by decide +kernel, bytesOf "X-Session", by decide +kernel, rfl⟩
  have hgone := hclean.listed _ hlisted
  rw [hpassed] at hproxied
  cases hproxied
  have hkept : listHeaders.getAll
      [(bytesOf "x-session", bytesOf "backend"), (bytesOf "server", bytesOf "test")]
      (bytesOf "x-session") = [bytesOf "backend"] := by
    decide +kernel
  rw [hkept] at hgone
  contradiction

end OddBox.Proxy

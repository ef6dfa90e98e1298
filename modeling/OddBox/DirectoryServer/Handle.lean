import OddBox.Configuration.V3
import OddBox.DirectoryServer.Files

/-!
`handle` of `custom_servers/directory.rs`: files, rendered markdown and listings of the directory
of a site, with whole responses kept in memory for ten seconds. Requests are handled one after
the other. Times are nanoseconds.
-/

namespace OddBox.DirectoryServer

open OddBox.Configuration

/-! ## Headers -/

def bytesOf (text : String) : List UInt8 := text.toUTF8.data.toList

theorem bytesOf_ne_nil {text : String} (h : text ≠ "") : bytesOf text ≠ [] := by
  intro hnil
  apply h
  apply String.toByteArray_inj.mp
  apply ByteArray.ext
  exact Array.toList_inj.mp hnil

/-- A header value as it is sent. -/
abbrev HeaderValue := List UInt8

/-- `HeaderValue::to_str`, for visible ASCII only. -/
def HeaderValue.toStr (self : HeaderValue) : Option String :=
  if self.all fun b => (32 ≤ b && b < 127) || b == 9 then
    some (String.ofList (self.map fun b => Char.ofNat b.toNat))
  else none

/-- A text can be put in a header: no byte of it is a control character other than the tab. -/
def headerValid (text : String) : Bool :=
  text.toList.all fun c => (32 ≤ c.toNat && c.toNat != 127) || c.toNat == 9

structure Request where
  method : String
  path : String
  cookie : Option HeaderValue
  ifNoneMatch : Option HeaderValue
  ifModifiedSince : Option HeaderValue

structure Response where
  status : Nat
  location : Option String
  contentType : Option String
  vary : Option String
  acceptRanges : Option String
  cacheControl : Option String
  etag : Option String
  lastModified : Option String
  contentLength : Option String
  memCached : Option String
  cacheKey : Option String
  body : List UInt8
  deriving DecidableEq

def Response.empty (status : Nat) : Response :=
  ⟨status, none, none, none, none, none, none, none, none, none, none, []⟩

inductive Failure where
  /-- A `CustomError`. -/
  | error (text : String)
  | panic
  deriving DecidableEq

abbrev Reply := Except Failure Response

/-! ## Libraries -/

inductive ThemeDecision where
  | dark
  | light
  | auto
  deriving DecidableEq

structure Libraries extends Texts where
  /-- `urlencoding::decode`. -/
  decode : String → Except String String
  /-- Every text is the decoding of its encoding. -/
  encoded : ∀ text, ∃ raw, decode raw = .ok text
  /-- `cookie::Cookie::parse`, to a name and a value. -/
  cookieParse : String → Option (String × String)
  /-- `fmt_http_date`, which panics before the epoch and after the year 9999. -/
  fmtHttpDate : Int → Option String
  parseHttpDate : String → Option Int
  mimeGuess : List Char → String
  fromUtf8Lossy : List UInt8 → String
  /-- `markdown::to_html_with_options`. -/
  toHtmlWithOptions : String → Except String String
  /-- The page of `markdown_to_html`, from the style of its first tag, a title and the text. -/
  page : String → String → String → String
  page_nonempty : ∀ htmlTagStyle title mdHtml, page htmlTagStyle title mdHtml ≠ ""

variable (libs : Libraries)

def ThemeDecision.fromReq (req : Request) : ThemeDecision :=
  let cookie := do
    let value ← req.cookie
    let raw ← HeaderValue.toStr value
    (raw.splitOn ";").findSome? fun (pair : String) =>
      libs.cookieParse pair.trimAscii.toString
  match cookie with
  | some ("theme", value) =>
    match value.trimAscii.toString with
    | "dark" => .dark
    | "light" => .light
    | _ => .auto
  | _ => .auto

def markdownToHtml (theme : ThemeDecision) (title text : String) : Except String String := do
  let cleaned := (text.replace "- [] " "- [ ] ").replace "* [] " "* [ ] "
  let mdHtml ← libs.toHtmlWithOptions cleaned
  let htmlTagStyle := match theme with
    | .dark => "style='background:#161a29;color:#ffffff'"
    | .light => "style='background:#ffffff;color:#000000'"
    | .auto => ""
  .ok (libs.page htmlTagStyle title mdHtml)

/-! ## Responses -/

def maxAge (age : UInt64) : String := "public, max-age=" ++ toString age.toNat ++ ", immutable"

/-- The headers of a response that is streamed. A value that cannot be a header panics. -/
def applyStreamingHeaders (status : Nat) (contentType : String) (age : Option UInt64)
    (etag lastModified : String) (contentLength : Nat) : Except Failure Response :=
  if headerValid contentType && headerValid etag && headerValid lastModified then
    .ok { Response.empty status with
      contentType := some contentType
      vary := some "Cookie"
      acceptRanges := some "bytes"
      cacheControl := age.map maxAge
      etag := some etag
      lastModified := some lastModified
      contentLength := some (toString contentLength) }
  else .error .panic

def buildResponse (status : Nat) (contentType : String) (age : Option UInt64)
    (conditional : Option (String × String)) (body : List UInt8) : Except Failure Response :=
  if headerValid contentType &&
      (conditional.all fun (etag, lastModified) => headerValid etag && headerValid lastModified)
  then
    .ok { Response.empty status with
      contentType := some contentType
      vary := some "Cookie"
      cacheControl := age.map maxAge
      etag := conditional.map Prod.fst
      lastModified := conditional.map Prod.snd
      body := body }
  else .error (.error "failed to build response: failed to parse header value")

def simpleStatus (code : Nat) (body : String) : Reply :=
  .ok { Response.empty code with
    contentType := some "text/plain"
    vary := some "Cookie"
    body := bytesOf body }

def isNotModified (req : Request) (etag : String) (modified : Option Int) : Bool :=
  let matched := match req.ifNoneMatch with
    | some hv => (HeaderValue.toStr hv).getD "" == etag
    | none => false
  let unmodified := match modified, req.ifModifiedSince with
    | some modified, some hv =>
      match libs.parseHttpDate ((HeaderValue.toStr hv).getD "") with
      | some since => decide (modified ≤ since)
      | none => false
    | _, _ => false
  matched || unmodified

/-! ## Serving -/

def smallFileMax : Nat := 2 * 1024 * 1024

/-- The reply, and the response that is put in the cache under the key of the request. -/
abbrev Served := Reply × Option Response

def nothingCached (reply : Reply) : Served := (reply, none)

/-- A response that is built is cached and sent. -/
def cacheAndSend (built : Except Failure Response) : Served :=
  match built with
  | .error e => nothingCached (.error e)
  | .ok resp => (.ok resp, some resp)

def etagOf (size : Nat) (modified : Option Int) (cacheKey : String) : String :=
  "\"" ++ toString size ++ "-" ++ toString ((modified.getD 0).toNat / 1000000000) ++ "-" ++
    cacheKey ++ "\""

def serveMarkdown (cfg : DirServer) (bytes : List UInt8) (etag lastModified : String)
    (theme : ThemeDecision) : Served :=
  match markdownToHtml libs theme "markdown" (libs.fromUtf8Lossy bytes) with
  | .error e => nothingCached (.error (.error ("Markdown→HTML failed: " ++ e)))
  | .ok html =>
    cacheAndSend (buildResponse 200 "text/html; charset=utf-8" cfg.cacheControlMaxAgeInSeconds
      (some (etag, lastModified)) (bytesOf html))

def isMarkdown (path : List Char) : Bool :=
  match extension path with
  | some ext => ext.map Char.toLower == ['m', 'd']
  | none => false

/-- The file itself. A large one is streamed from the disk by a task of its own: an error ends
the body. -/
def sendFile (cfg : DirServer) (req : Request) (mimeType etag lastModified : String)
    (bytes : List UInt8) (readError : Option String) : Served :=
  let size := bytes.length
  match applyStreamingHeaders 200 mimeType cfg.cacheControlMaxAgeInSeconds etag lastModified size
  with
  | .error e => nothingCached (.error e)
  | .ok resp =>
    if req.method = "HEAD" then nothingCached (.ok resp)
    else if size ≤ smallFileMax then
      match readError with
      | some e => nothingCached (.error (.error ("io::read failed: " ++ e)))
      | none =>
        let cached :=
          if 0 < size then
            (buildResponse 200 mimeType cfg.cacheControlMaxAgeInSeconds
              (some (etag, lastModified)) bytes).toOption
          else none
        (.ok { resp with body := bytes }, cached)
    else nothingCached (.ok { resp with body := if readError.isSome then [] else bytes })

def serveFile (tree : FileTree) (cfg : DirServer) (req : Request) (fullPath : List Char)
    (cacheKey : String) : Served :=
  match tree.node fullPath with
  | some (.file bytes modified readError) =>
    match libs.fmtHttpDate (modified.getD 0) with
    | none => nothingCached (.error .panic)
    | some lastModified =>
      let etag := etagOf bytes.length modified cacheKey
      if isNotModified libs req etag modified then nothingCached (simpleStatus 304 "")
      else
        let extIsMd := isMarkdown fullPath
        if cfg.renderMarkdown.getD false && extIsMd then
          match readError with
          | some e => nothingCached (.error (.error ("io::read failed: " ++ e)))
          | none => serveMarkdown libs cfg bytes etag lastModified (ThemeDecision.fromReq libs req)
        else
          let mimeType := if extIsMd then "text/plain; charset=utf-8" else libs.mimeGuess fullPath
          sendFile cfg req mimeType etag lastModified bytes readError
  | _ => nothingCached (simpleStatus 404 "404 - FILE NOT FOUND")

def serveDirectory (tree : FileTree) (cfg : DirServer) (req : Request) (dir : List Char)
    (entries : Except String (List DirEntry)) (reqPath cacheKey : String) : Served :=
  if reqPath.toList.getLast? ≠ some slash then
    if headerValid (reqPath ++ "/") then
      nothingCached (.ok { Response.empty 301 with location := some (reqPath ++ "/") })
    else nothingCached (.error (.error "http::Error(InvalidHeaderValue)"))
  else
    match ["index.html", "index.htm", "index.md"].find? (fun name => tree.isFile (join dir name))
    with
    | some name => serveFile libs tree cfg req (join dir name) cacheKey
    | none =>
      if cfg.enableDirectoryBrowsing.getD false then
        match buildDirListing libs.toTexts entries reqPath with
        | .error e => nothingCached (.error (.error e))
        | .ok listingHtml =>
          cacheAndSend (buildResponse 200 "text/html; charset=utf-8"
            cfg.cacheControlMaxAgeInSeconds none (bytesOf listingHtml))
      else nothingCached (simpleStatus 403 "Directory browsing is disabled")

/-- `handle` behind the lookup in the cache. -/
def serve (tree : FileTree) (target : DirServer) (req : Request)
    (pathDecoded cacheKey : String) : Served :=
  match tree.canonicalize target.dir.toList (relative pathDecoded.toList) with
  | .error .notFound => nothingCached (simpleStatus 404 "404 - FILE NOT FOUND")
  | .error (.io e) => nothingCached (.error (.error ("io::canonicalize failed: " ++ e)))
  | .ok fullPath =>
    match tree.node fullPath with
    | none => nothingCached (simpleStatus 404 "404 - NOT FOUND")
    | some node =>
      if startsWith fullPath target.dir.toList then
        match node with
        | .file _ _ _ => serveFile libs tree target req fullPath cacheKey
        | .dir entries => serveDirectory libs tree target req fullPath entries pathDecoded cacheKey
        | .other => nothingCached (simpleStatus 404 "Not Found")
      else nothingCached (.error (.error "Attempted directory traversal"))

/-! ## The cache -/

/-- `RESPONSE_CACHE`: when a response was put in, and the response. Its content type, which
stands beside it in the source too, is that of the response. -/
abbrev ResponseCache := String → Option (Nat × Response)

def cookieSig (req : Request) : String := (req.cookie.bind HeaderValue.toStr).getD "no-cookies"

/-- `trim_end_matches('/')`. -/
def trimSlashes (path : String) : String := String.ofList (path.toList.rdropWhile (· = slash))

def cacheKey (target : DirServer) (req : Request) (pathDecoded : String) : String :=
  target.hostName ++ "-" ++ cookieSig req ++ "-" ++ trimSlashes pathDecoded

def cacheLifetime : Nat := 10 * 1000000000

/-- A fresh response is marked, a stale one is removed. -/
def cachedFreshResponse (cache : ResponseCache) (now : Nat) (key : String) :
    Except Failure (Option Response) × ResponseCache :=
  match cache key with
  | some (inserted, resp) =>
    if now - inserted < cacheLifetime then
      if headerValid key then
        (.ok (some { resp with memCached := some "true", cacheKey := some key }), cache)
      else (.error (.error "InvalidHeaderValue"), cache)
    else (.ok none, Function.update cache key none)
  | none => (.ok none, cache)

def handle (tree : FileTree) (cache : ResponseCache) (now : Nat) (target : DirServer)
    (req : Request) : Reply × ResponseCache :=
  match libs.decode req.path with
  | .error e => (.error (.error e), cache)
  | .ok pathDecoded =>
    let key := cacheKey target req pathDecoded
    match cachedFreshResponse cache now key with
    | (.error e, cache) => (.error e, cache)
    | (.ok (some resp), cache) => (.ok resp, cache)
    | (.ok none, cache) =>
      match serve libs tree target req pathDecoded key with
      | (reply, some resp) => (reply, Function.update cache key (some (now, resp)))
      | (reply, none) => (reply, cache)

/-- The clean-up of the cache, twice a minute, of entries older than thirty seconds. -/
def dropOld (cache : ResponseCache) (now : Nat) : ResponseCache := fun key =>
  match cache key with
  | some (inserted, resp) =>
    if 30 < (now - inserted) / 1000000000 then none else some (inserted, resp)
  | none => none

end OddBox.DirectoryServer

import OddBox.Checked
import OddBox.DirectoryServer.Runs

/-!
What a request names, whatever its method, its validators and the slashes at its end: a file, a
rendered page or a listing. A request is answered by the whole of it only if it is plain.
-/

namespace OddBox.DirectoryServer

open OddBox.Configuration OddBox.Checked

/-- What is compared of two responses: the status, the location, the content type, the
validators and the body. -/
def Response.shown (self : Response) : Response :=
  { Response.empty self.status with
    location := self.location
    contentType := self.contentType
    etag := self.etag
    lastModified := self.lastModified
    body := self.body }

def shown (reply : Reply) : Reply := reply.map Response.shown

structure Representation where
  contentType : String
  /-- The entity tag and the time of the last modification. -/
  validators : Option (String × String)
  body : List UInt8
  deriving DecidableEq

def Representation.shown (self : Representation) : Response :=
  { Response.empty 200 with
    contentType := some self.contentType
    etag := self.validators.map Prod.fst
    lastModified := self.validators.map Prod.snd
    body := self.body }

theorem Representation.shown_injective {a b : Representation} (h : a.shown = b.shown) : a = b := by
  obtain ⟨contentType, validators, body⟩ := a
  obtain ⟨contentType', validators', body'⟩ := b
  simp only [Representation.shown, Response.mk.injEq, Option.some.injEq] at h
  obtain ⟨-, -, rfl, -, -, -, hetag, hmodified, -, -, -, rfl⟩ := h
  cases validators with
  | none =>
    cases validators' with
    | none => rfl
    | some other => cases hetag
  | some pair =>
    cases validators' with
    | none => cases hetag
    | some other =>
      have hpair : pair = other :=
        Prod.ext (Option.some.inj hetag) (Option.some.inj hmodified)
      rw [hpair]

/-- A representation that is not empty and whose headers can be sent. -/
structure Representation.Servable (rep : Representation) : Prop where
  body : rep.body ≠ []
  contentType : headerValid rep.contentType = true
  validators : (rep.validators.all fun pair => headerValid pair.1 && headerValid pair.2) = true

/-- The reply is the whole of a representation. -/
def Whole (reply : Reply) (rep : Representation) : Prop :=
  ∃ resp, reply = .ok resp ∧ resp.shown = rep.shown

variable (libs : Libraries) (tree : FileTree)

/-! ## What is named -/

inductive Named where
  /-- A file, or the index of a directory. -/
  | file (path : List Char) (isIndex : Bool)
  | listing (entries : Except String (List DirEntry))

def named (target : DirServer) (pathDecoded : String) : Option Named :=
  match tree.canonicalize target.dir.toList (relative pathDecoded.toList) with
  | .error _ => none
  | .ok fullPath =>
    if startsWith fullPath target.dir.toList then
      match tree.node fullPath with
      | some (.file _ _ _) => some (.file fullPath false)
      | some (.dir entries) =>
        match ["index.html", "index.htm", "index.md"].find?
          (fun name => tree.isFile (join fullPath name)) with
        | some name => some (.file (join fullPath name) true)
        | none =>
          if target.enableDirectoryBrowsing.getD false then some (.listing entries) else none
      | _ => none
    else none

/-- A file is shown as a page. -/
def rendered (target : DirServer) (path : List Char) : Bool :=
  target.renderMarkdown.getD false && isMarkdown path

def mimeType (path : List Char) : String :=
  if isMarkdown path then "text/plain; charset=utf-8" else libs.mimeGuess path

/-- What a file is sent as, for a theme and under a key. What cannot be read is empty. -/
def fileRepresentation (target : DirServer) (theme : ThemeDecision) (path : List Char)
    (cacheKey : String) : Option Representation :=
  match tree.node path with
  | some (.file bytes modified readError) =>
    match libs.fmtHttpDate (modified.getD 0) with
    | none => none
    | some lastModified =>
      let validators := some (etagOf bytes.length modified cacheKey, lastModified)
      if rendered target path then
        match readError, markdownToHtml libs theme "markdown" (libs.fromUtf8Lossy bytes) with
        | none, .ok html => some ⟨"text/html; charset=utf-8", validators, bytesOf html⟩
        | _, _ => none
      else some ⟨mimeType libs path, validators, if readError.isSome then [] else bytes⟩
  | _ => none

def Named.representation (target : DirServer) (req : Request) (pathDecoded cacheKey : String) :
    Named → Option Representation
  | .file path _ =>
    fileRepresentation libs tree target (ThemeDecision.fromReq libs req) path cacheKey
  | .listing entries =>
    match buildDirListing libs.toTexts entries pathDecoded with
    | .ok html => some ⟨"text/html; charset=utf-8", none, bytesOf html⟩
    | .error _ => none

/-! ## Plain requests -/

/-- The validators of the request are those of the file. -/
def unchangedSince (req : Request) (path : List Char) (cacheKey : String) : Bool :=
  match tree.node path with
  | some (.file bytes modified _) =>
    isNotModified libs req (etagOf bytes.length modified cacheKey) modified
  | _ => false

/-- The whole of a file is asked for: the validators do not match, and the request is not a
`HEAD`, unless the file is rendered. -/
structure PlainForFile (target : DirServer) (req : Request) (path : List Char)
    (cacheKey : String) : Prop where
  changed : unchangedSince libs tree req path cacheKey = false
  method : req.method = "HEAD" → rendered target path = true

/-- The whole of what is named is asked for. A directory is named with a slash at the end. -/
def Named.Plain (target : DirServer) (req : Request) (pathDecoded cacheKey : String) :
    Named → Prop
  | .file path isIndex =>
    (isIndex = true → pathDecoded.toList.getLast? = some slash) ∧
      PlainForFile libs tree target req path cacheKey
  | .listing _ => pathDecoded.toList.getLast? = some slash

/-! ## Building responses -/

theorem buildResponse_ok {contentType : String} {age : Option UInt64}
    {conditional : Option (String × String)} {body : List UInt8} {resp : Response}
    (h : buildResponse 200 contentType age conditional body = .ok resp) :
    resp.shown = (⟨contentType, conditional, body⟩ : Representation).shown ∧
      (body ≠ [] → (⟨contentType, conditional, body⟩ : Representation).Servable) := by
  unfold buildResponse at h
  split at h
  · rename_i hvalid
    rw [Bool.and_eq_true] at hvalid
    cases h
    exact ⟨rfl, fun hbody => ⟨hbody, hvalid.1, hvalid.2⟩⟩
  · cases h

theorem buildResponse_of_servable {rep : Representation} (h : rep.Servable)
    (age : Option UInt64) :
    ∃ resp, buildResponse 200 rep.contentType age rep.validators rep.body = .ok resp := by
  refine ⟨_, if_pos ?_⟩
  rw [Bool.and_eq_true]
  exact ⟨h.contentType, h.validators⟩

theorem applyStreamingHeaders_ok {contentType etag lastModified : String} {age : Option UInt64}
    {contentLength : Nat} {resp : Response}
    (h : applyStreamingHeaders 200 contentType age etag lastModified contentLength = .ok resp)
    (body : List UInt8) :
    ({ resp with body := body } : Response).shown =
      (⟨contentType, some (etag, lastModified), body⟩ : Representation).shown := by
  unfold applyStreamingHeaders at h
  split at h
  · cases h
    rfl
  · cases h

theorem applyStreamingHeaders_of_servable {contentType etag lastModified : String}
    {body : List UInt8}
    (h : (⟨contentType, some (etag, lastModified), body⟩ : Representation).Servable)
    (age : Option UInt64) (contentLength : Nat) :
    ∃ resp, applyStreamingHeaders 200 contentType age etag lastModified contentLength =
      .ok resp := by
  have hvalidators := h.validators
  rw [Option.all_some, Bool.and_eq_true] at hvalidators
  refine ⟨_, if_pos ?_⟩
  rw [Bool.and_eq_true, Bool.and_eq_true]
  exact ⟨⟨h.contentType, hvalidators.1⟩, hvalidators.2⟩

/-- Other statuses are no representation. -/
theorem not_whole_of_status {resp : Response} (h : resp.status ≠ 200) (rep : Representation) :
    ¬ Whole (.ok resp) rep := by
  rintro ⟨_, hresp, hshown⟩
  cases hresp
  exact h (congrArg Response.status hshown)

theorem not_whole_of_empty {resp : Response} (h : resp.body = []) {rep : Representation}
    (hrep : rep.Servable) : ¬ Whole (.ok resp) rep := by
  rintro ⟨_, hresp, hshown⟩
  cases hresp
  exact hrep.body ((congrArg Response.body hshown).symm.trans h)

theorem not_whole_error (failure : Failure) (rep : Representation) :
    ¬ Whole (.error failure) rep := by
  rintro ⟨_, hresp, -⟩
  cases hresp

theorem whole_ok_iff {resp : Response} {own rep : Representation} (h : resp.shown = own.shown) :
    Whole (.ok resp) rep ↔ some own = some rep := by
  constructor
  · rintro ⟨_, hresp, hshown⟩
    cases hresp
    exact congrArg some (Representation.shown_injective (h.symm.trans hshown))
  · intro hsame
    cases hsame
    exact ⟨resp, rfl, h⟩

/-- A response that is built and cached is the whole of its own representation. -/
theorem cacheAndSend_whole_iff {contentType : String} {conditional : Option (String × String)}
    {body : List UInt8} {rep : Representation} (hrep : rep.Servable) (age : Option UInt64) :
    Whole (cacheAndSend (buildResponse 200 contentType age conditional body)).1 rep ↔
      some (⟨contentType, conditional, body⟩ : Representation) = some rep := by
  cases hbuild : buildResponse 200 contentType age conditional body with
  | ok resp => exact whole_ok_iff (buildResponse_ok hbuild).1
  | error e =>
    constructor
    · intro h
      exact absurd h (not_whole_error e rep)
    · intro h
      cases h
      obtain ⟨resp, hresp⟩ := buildResponse_of_servable hrep age
      rw [hresp] at hbuild
      cases hbuild

/-- What is cached is sent too, as the whole of a representation. -/
def Coherent (served : Served) : Prop :=
  ∀ resp, served.2 = some resp →
    ∃ rep : Representation, rep.Servable ∧ resp.shown = rep.shown ∧ Whole served.1 rep

theorem coherent_nothingCached (reply : Reply) : Coherent (nothingCached reply) := by
  intro resp h
  cases h

theorem coherent_cacheAndSend {body : List UInt8} (hbody : body ≠ []) (contentType : String)
    (age : Option UInt64) (conditional : Option (String × String)) :
    Coherent (cacheAndSend (buildResponse 200 contentType age conditional body)) := by
  intro resp h
  cases hbuild : buildResponse 200 contentType age conditional body with
  | error e =>
    rw [hbuild] at h
    cases h
  | ok built =>
    rw [hbuild] at h
    cases h
    obtain ⟨hshown, hservable⟩ := buildResponse_ok hbuild
    exact ⟨_, hservable hbody, hshown, resp, rfl, hshown⟩

/-! ## Files -/

theorem markdownToHtml_nonempty {theme : ThemeDecision} {title text html : String}
    (h : markdownToHtml libs theme title text = .ok html) : bytesOf html ≠ [] := by
  unfold markdownToHtml at h
  cases hmarkdown : libs.toHtmlWithOptions
    ((text.replace "- [] " "- [ ] ").replace "* [] " "* [ ] ") with
  | error e =>
    simp only [hmarkdown] at h
    cases h
  | ok mdHtml =>
    simp only [hmarkdown] at h
    cases h
    exact bytesOf_ne_nil (libs.page_nonempty _ _ _)

theorem coherent_sendFile (target : DirServer) (req : Request)
    (mimeType etag lastModified : String) (bytes : List UInt8) (readError : Option String) :
    Coherent (sendFile target req mimeType etag lastModified bytes readError) := by
  unfold sendFile
  dsimp only
  split
  · exact coherent_nothingCached _
  · rename_i streamed hheaders
    split
    · exact coherent_nothingCached _
    · split
      · split
        · exact coherent_nothingCached _
        · intro resp h
          by_cases hsize : 0 < bytes.length
          · rw [if_pos hsize] at h
            cases hbuild : buildResponse 200 mimeType target.cacheControlMaxAgeInSeconds
              (some (etag, lastModified)) bytes with
            | error e =>
              rw [hbuild] at h
              cases h
            | ok built =>
              rw [hbuild] at h
              cases h
              obtain ⟨hshown, hservable⟩ := buildResponse_ok hbuild
              exact ⟨_, hservable (List.ne_nil_of_length_pos hsize), hshown, _, rfl,
                applyStreamingHeaders_ok hheaders bytes⟩
          · rw [if_neg hsize] at h
            cases h
      · exact coherent_nothingCached _

theorem sendFile_whole_iff {target : DirServer} {req : Request}
    {mimeType etag lastModified : String} {bytes : List UInt8} {readError : Option String}
    {rep : Representation} (hrep : rep.Servable) :
    Whole (sendFile target req mimeType etag lastModified bytes readError).1 rep ↔
      req.method ≠ "HEAD" ∧
        some (⟨mimeType, some (etag, lastModified),
          if readError.isSome then [] else bytes⟩ : Representation) = some rep := by
  cases hheaders : applyStreamingHeaders 200 mimeType target.cacheControlMaxAgeInSeconds etag
    lastModified bytes.length with
  | error e =>
    simp only [sendFile, hheaders]
    constructor
    · intro h
      exact absurd h (not_whole_error e rep)
    · rintro ⟨-, hsame⟩
      cases hsame
      obtain ⟨resp, hresp⟩ := applyStreamingHeaders_of_servable hrep
        target.cacheControlMaxAgeInSeconds bytes.length
      rw [hresp] at hheaders
      cases hheaders
  | ok resp =>
  simp only [sendFile, hheaders]
  by_cases hhead : req.method = "HEAD"
  · have hempty : resp.body = [] := by
      unfold applyStreamingHeaders at hheaders
      split at hheaders
      · cases hheaders
        rfl
      · cases hheaders
    have hno : ¬ Whole (.ok resp) rep := not_whole_of_empty hempty hrep
    simp only [hhead, if_true, nothingCached, hno, ne_eq, not_true_eq_false, false_and]
  rw [if_neg hhead]
  simp only [ne_eq, hhead, not_false_eq_true, true_and]
  have hwhole (body : List UInt8) :
      Whole (.ok { resp with body := body }) rep ↔
        some (⟨mimeType, some (etag, lastModified), body⟩ : Representation) = some rep :=
    whole_ok_iff (applyStreamingHeaders_ok hheaders body)
  by_cases hsmall : bytes.length ≤ smallFileMax
  · rw [if_pos hsmall]
    cases readError with
    | none => exact hwhole bytes
    | some e =>
      constructor
      · intro h
        exact absurd h (not_whole_error _ rep)
      · intro hsame
        cases hsame
        exact absurd rfl hrep.body
  · rw [if_neg hsmall]
    exact hwhole _

/-- A file is sent as a whole exactly to plain requests. -/
theorem serveFile_whole_iff {target : DirServer} {req : Request} {path : List Char}
    {cacheKey : String} {rep : Representation} (hrep : rep.Servable) :
    Whole (serveFile libs tree target req path cacheKey).1 rep ↔
      PlainForFile libs tree target req path cacheKey ∧
        fileRepresentation libs tree target (ThemeDecision.fromReq libs req) path cacheKey =
          some rep := by
  have hplain : PlainForFile libs tree target req path cacheKey ↔
      unchangedSince libs tree req path cacheKey = false ∧
        (req.method = "HEAD" → rendered target path = true) :=
    ⟨fun h => ⟨h.changed, h.method⟩, fun h => ⟨h.1, h.2⟩⟩
  rw [hplain]
  unfold serveFile fileRepresentation unchangedSince
  have hmissing : ¬ Whole (simpleStatus 404 "404 - FILE NOT FOUND") rep :=
    not_whole_of_status (by decide) rep
  cases hnode : tree.node path with
  | none =>
    simp only [nothingCached, hmissing, reduceCtorEq, and_false]
  | some node =>
  cases node with
  | dir entries => simp only [nothingCached, hmissing, reduceCtorEq, and_false]
  | other => simp only [nothingCached, hmissing, reduceCtorEq, and_false]
  | file bytes modified readError =>
  simp only
  generalize hetag : etagOf bytes.length modified cacheKey = etag
  cases libs.fmtHttpDate (modified.getD 0) with
  | none => simp only [nothingCached, not_whole_error, reduceCtorEq, and_false]
  | some lastModified =>
  simp only
  by_cases hunchanged : isNotModified libs req etag modified = true
  · have hno : ¬ Whole (simpleStatus 304 "") rep := not_whole_of_status (by decide) rep
    simp only [hunchanged, if_true, nothingCached, hno, Bool.true_eq_false, false_and]
  · rw [if_neg hunchanged]
    rw [Bool.not_eq_true] at hunchanged
    simp only [hunchanged, true_and]
    have hrendered : (target.renderMarkdown.getD false && isMarkdown path) = rendered target path :=
      rfl
    rw [hrendered]
    by_cases hpage : rendered target path = true
    · rw [if_pos hpage, if_pos hpage]
      simp only [hpage, implies_true, true_and]
      cases readError with
      | some e => simp only [nothingCached, not_whole_error, reduceCtorEq]
      | none =>
        cases hmarkdown : markdownToHtml libs (ThemeDecision.fromReq libs req) "markdown"
          (libs.fromUtf8Lossy bytes) with
        | error e =>
          simp only [serveMarkdown, hmarkdown, nothingCached, not_whole_error, reduceCtorEq]
        | ok html =>
          simp only [serveMarkdown, hmarkdown]
          exact cacheAndSend_whole_iff hrep _
    · rw [if_neg hpage, if_neg hpage]
      have hmime : (if isMarkdown path = true then "text/plain; charset=utf-8"
          else libs.mimeGuess path) = mimeType libs path := rfl
      rw [hmime]
      simp only [hpage, Bool.false_eq_true, imp_false]
      exact sendFile_whole_iff hrep

theorem coherent_serveMarkdown (target : DirServer) (bytes : List UInt8)
    (etag lastModified : String) (theme : ThemeDecision) :
    Coherent (serveMarkdown libs target bytes etag lastModified theme) := by
  unfold serveMarkdown
  cases hmarkdown : markdownToHtml libs theme "markdown" (libs.fromUtf8Lossy bytes) with
  | error e => exact coherent_nothingCached _
  | ok html => exact coherent_cacheAndSend (markdownToHtml_nonempty libs hmarkdown) _ _ _

theorem coherent_serveFile (target : DirServer) (req : Request) (path : List Char)
    (cacheKey : String) : Coherent (serveFile libs tree target req path cacheKey) := by
  unfold serveFile
  split
  · split
    · exact coherent_nothingCached _
    · dsimp only
      split_ifs
      · exact coherent_nothingCached _
      · split
        · exact coherent_nothingCached _
        · exact coherent_serveMarkdown libs _ _ _ _ _
      · exact coherent_sendFile _ _ _ _ _ _ _
      · exact coherent_sendFile _ _ _ _ _ _ _
  · exact coherent_nothingCached _

/-! ## Directories -/

theorem buildDirListing_nonempty {texts : Texts} {entries : Except String (List DirEntry)}
    {reqPath html : String} (h : buildDirListing texts entries reqPath = .ok html) :
    bytesOf html ≠ [] := by
  unfold buildDirListing at h
  obtain ⟨found, -, h⟩ := bind_eq_ok.mp h
  obtain ⟨lines, -, h⟩ := bind_eq_ok.mp h
  cases h
  apply bytesOf_ne_nil
  intro hempty
  exact absurd (String.append_eq_empty_iff.mp hempty).2 (by decide)

theorem coherent_serveDirectory (target : DirServer) (req : Request) (dir : List Char)
    (entries : Except String (List DirEntry)) (reqPath cacheKey : String) :
    Coherent (serveDirectory libs tree target req dir entries reqPath cacheKey) := by
  unfold serveDirectory
  split
  · split
    · exact coherent_nothingCached _
    · exact coherent_nothingCached _
  · split
    · exact coherent_serveFile libs tree _ _ _ _
    · split
      · cases hlisting : buildDirListing libs.toTexts entries reqPath with
        | error e => exact coherent_nothingCached _
        | ok html => exact coherent_cacheAndSend (buildDirListing_nonempty hlisting) _ _ _
      · exact coherent_nothingCached _

theorem serveDirectory_whole_iff {target : DirServer} {req : Request} {dir : List Char}
    {entries : Except String (List DirEntry)} {reqPath cacheKey : String} {rep : Representation}
    (hrep : rep.Servable) :
    Whole (serveDirectory libs tree target req dir entries reqPath cacheKey).1 rep ↔
      reqPath.toList.getLast? = some slash ∧
        ((∃ name, ["index.html", "index.htm", "index.md"].find?
              (fun name => tree.isFile (join dir name)) = some name ∧
            Whole (serveFile libs tree target req (join dir name) cacheKey).1 rep) ∨
          ["index.html", "index.htm", "index.md"].find?
              (fun name => tree.isFile (join dir name)) = none ∧
            target.enableDirectoryBrowsing.getD false = true ∧
            (Named.listing entries).representation libs tree target req reqPath cacheKey =
              some rep) := by
  unfold serveDirectory
  by_cases hslash : reqPath.toList.getLast? = some slash
  case neg =>
    simp only [ne_eq, hslash, not_false_eq_true, if_true, false_and, iff_false]
    split
    · exact not_whole_of_status (show (301 : Nat) ≠ 200 by decide) rep
    · exact not_whole_error _ rep
  simp only [ne_eq, hslash, not_true_eq_false, if_false, true_and]
  cases hindex : ["index.html", "index.htm", "index.md"].find?
    (fun name => tree.isFile (join dir name)) with
  | some name =>
    simp only [Option.some.injEq, exists_eq_left', reduceCtorEq, false_and, or_false]
  | none =>
    simp only [reduceCtorEq, false_and, exists_false, false_or, true_and]
    by_cases hbrowsing : target.enableDirectoryBrowsing.getD false = true
    case neg =>
      simp only [hbrowsing, Bool.false_eq_true, if_false, false_and, iff_false]
      exact not_whole_of_status (show (403 : Nat) ≠ 200 by decide) rep
    simp only [hbrowsing, if_true, true_and, Named.representation]
    cases hlisting : buildDirListing libs.toTexts entries reqPath with
    | error e => simp only [nothingCached, not_whole_error, reduceCtorEq]
    | ok html => exact cacheAndSend_whole_iff hrep _

/-- **Whole replies**: a representation is sent as a whole exactly to the plain requests for what
has it. -/
theorem serve_whole_iff {target : DirServer} {req : Request} {pathDecoded cacheKey : String}
    {rep : Representation} (hrep : rep.Servable) :
    Whole (serve libs tree target req pathDecoded cacheKey).1 rep ↔
      ∃ what, named tree target pathDecoded = some what ∧
        what.Plain libs tree target req pathDecoded cacheKey ∧
        what.representation libs tree target req pathDecoded cacheKey = some rep := by
  unfold serve named
  have hmissing (text : String) : ¬ Whole (simpleStatus 404 text) rep :=
    not_whole_of_status (show (404 : Nat) ≠ 200 by decide) rep
  cases hcanonicalize : tree.canonicalize target.dir.toList (relative pathDecoded.toList) with
  | error e =>
    cases e with
    | notFound => simp only [nothingCached, hmissing, reduceCtorEq, false_and, exists_false]
    | io text => simp only [nothingCached, not_whole_error, reduceCtorEq, false_and, exists_false]
  | ok fullPath =>
  cases hnode : tree.node fullPath with
  | none =>
    simp only [hnode, nothingCached, hmissing, reduceCtorEq, ite_self, false_and, exists_false]
  | some node =>
  simp only [hnode]
  by_cases hinside : startsWith fullPath target.dir.toList = true
  case neg =>
    simp only [hinside, Bool.false_eq_true, if_false, nothingCached, not_whole_error, reduceCtorEq,
      false_and, exists_false]
  rw [if_pos hinside, if_pos hinside]
  cases node with
  | other => simp only [nothingCached, hmissing, reduceCtorEq, false_and, exists_false]
  | file bytes modified readError =>
    simp only [Option.some.injEq, exists_eq_left', Named.Plain, Named.representation,
      Bool.false_eq_true, false_implies, true_and]
    exact serveFile_whole_iff libs tree hrep
  | dir entries =>
    simp only
    rw [serveDirectory_whole_iff libs tree hrep]
    cases hindex : ["index.html", "index.htm", "index.md"].find?
      (fun name => tree.isFile (join fullPath name)) with
    | some name =>
      simp only [Option.some.injEq, exists_eq_left', reduceCtorEq, false_and, or_false,
        Named.Plain, Named.representation, forall_const]
      rw [serveFile_whole_iff libs tree hrep, and_assoc]
    | none =>
      simp only [reduceCtorEq, false_and, exists_false, false_or, true_and]
      by_cases hbrowsing : target.enableDirectoryBrowsing.getD false = true
      · simp only [hbrowsing, if_true, true_and, Option.some.injEq, exists_eq_left', Named.Plain]
      · simp only [hbrowsing, Bool.false_eq_true, if_false, false_and, and_false, reduceCtorEq,
          exists_false]

theorem coherent_serve (target : DirServer) (req : Request) (pathDecoded cacheKey : String) :
    Coherent (serve libs tree target req pathDecoded cacheKey) := by
  unfold serve
  split
  · exact coherent_nothingCached _
  · exact coherent_nothingCached _
  · split
    · exact coherent_nothingCached _
    · split_ifs
      · split
        · exact coherent_serveFile libs tree _ _ _ _
        · exact coherent_serveDirectory libs tree _ _ _ _ _ _
        · exact coherent_nothingCached _
      · exact coherent_nothingCached _

/-- What is cached for a request is the representation of what it names. -/
theorem serve_stores {target : DirServer} {req : Request} {pathDecoded cacheKey : String}
    {resp : Response} (h : (serve libs tree target req pathDecoded cacheKey).2 = some resp) :
    ∃ what rep, named tree target pathDecoded = some what ∧
      what.representation libs tree target req pathDecoded cacheKey = some rep ∧
      rep.Servable ∧ resp.shown = rep.shown := by
  obtain ⟨rep, hservable, hshown, hwhole⟩ := coherent_serve libs tree _ _ _ _ resp h
  obtain ⟨what, hnamed, -, hrep⟩ := (serve_whole_iff libs tree hservable).mp hwhole
  exact ⟨what, rep, hnamed, hrep, hservable, hshown⟩

end OddBox.DirectoryServer

import OddBox.DirectoryServer.Handle

/-!
The errors that the directory server answers with: those of an operation name it first, and
only a path outside of the directory is an attempted traversal.
-/

namespace OddBox.DirectoryServer

open OddBox.Configuration

def traversal : Reply := .error (.error "Attempted directory traversal")

/-- Neither an attempted traversal nor an invalid header value. -/
def namesOperation (text : String) : Bool :=
  text.toList.head?.any fun letter => letter != 'A' && letter != 'I'

/-- No error, a panic, or the error of an operation. -/
def Ordinary (reply : Reply) : Prop :=
  ∀ text, reply = .error (.error text) → namesOperation text = true

theorem ordinary_ok (resp : Response) : Ordinary (.ok resp) := by
  intro text h
  cases h

theorem ordinary_panic : Ordinary (.error .panic) := by
  intro text h
  cases h

theorem ordinary_text {text : String} (htext : namesOperation text = true) :
    Ordinary (.error (.error text)) := by
  intro other hsame
  cases hsame
  exact htext

/-- The name of an operation stands before what the system says of it. -/
theorem ordinary_append {front : String} (hfront : namesOperation front = true) (text : String) :
    Ordinary (.error (.error (front ++ text))) := by
  apply ordinary_text
  unfold namesOperation at hfront ⊢
  rw [String.toList_append]
  cases hletters : front.toList with
  | nil =>
      rw [hletters] at hfront
      cases hfront
  | cons letter rest => rwa [hletters] at hfront

theorem Ordinary.ne {reply : Reply} (h : Ordinary reply) {text : String}
    (hother : namesOperation text = false) : reply ≠ .error (.error text) := by
  intro hsame
  rw [h text hsame] at hother
  cases hother

theorem Ordinary.ne_traversal {reply : Reply} (h : Ordinary reply) : reply ≠ traversal :=
  h.ne rfl

theorem invalidHeaderValue_ne :
    (.error (.error "InvalidHeaderValue") : Reply) ≠ traversal := by
  unfold traversal
  decide +kernel

/-! ## Responses -/

theorem ordinary_cacheAndSend (status : Nat) (contentType : String) (age : Option UInt64)
    (conditional : Option (String × String)) (body : List UInt8) :
    Ordinary (cacheAndSend (buildResponse status contentType age conditional body)).1 := by
  unfold buildResponse
  split
  · exact ordinary_ok _
  · exact ordinary_text rfl

/-- The headers of a stream fail in one way. -/
theorem applyStreamingHeaders_error {status contentLength : Nat}
    {contentType etag lastModified : String} {age : Option UInt64} {e : Failure}
    (h : applyStreamingHeaders status contentType age etag lastModified contentLength = .error e) :
    e = .panic := by
  unfold applyStreamingHeaders at h
  split at h <;> cases h
  rfl

theorem ordinary_sendFile (cfg : DirServer) (req : Request) (mimeType etag lastModified : String)
    (bytes : List UInt8) (readError : Option String) :
    Ordinary (sendFile cfg req mimeType etag lastModified bytes readError).1 := by
  unfold sendFile
  dsimp only
  split
  · next e hheaders =>
    rw [applyStreamingHeaders_error hheaders]
    exact ordinary_panic
  · split
    · exact ordinary_ok _
    · split
      · split
        · exact ordinary_append rfl _
        · exact ordinary_ok _
      · exact ordinary_ok _

/-! ## Serving -/

variable (libs : Libraries) (tree : FileTree)

theorem ordinary_serveMarkdown (cfg : DirServer) (bytes : List UInt8) (etag lastModified : String)
    (theme : ThemeDecision) :
    Ordinary (serveMarkdown libs cfg bytes etag lastModified theme).1 := by
  unfold serveMarkdown
  split
  · exact ordinary_append rfl _
  · exact ordinary_cacheAndSend _ _ _ _ _

theorem ordinary_serveFile (cfg : DirServer) (req : Request) (path : List Char) (cacheKey : String) :
    Ordinary (serveFile libs tree cfg req path cacheKey).1 := by
  unfold serveFile
  split
  · split
    · exact ordinary_panic
    · dsimp only
      split
      · exact ordinary_ok _
      · split
        · split
          · exact ordinary_append rfl _
          · exact ordinary_serveMarkdown _ _ _ _ _ _
        · exact ordinary_sendFile _ _ _ _ _ _ _
  · exact ordinary_ok _

theorem ordinary_listing {texts : Texts} {entries : Except String (List DirEntry)}
    {reqPath e : String} (h : buildDirListing texts entries reqPath = .error e) :
    Ordinary (.error (.error e)) := by
  unfold buildDirListing at h
  cases entries with
  | error text =>
      cases h
      exact ordinary_append rfl _
  | ok found =>
      cases hlines : (found.mergeSort (DirEntry.le texts)).mapM (listingLine texts reqPath) with
      | error text =>
          simp only [Except.mapError, bind, Except.bind, hlines] at h
          cases h
          exact ordinary_append rfl _
      | ok lines =>
          simp only [Except.mapError, bind, Except.bind, hlines] at h
          cases h

theorem ordinary_serveDirectory (cfg : DirServer) (req : Request) (dir : List Char)
    (entries : Except String (List DirEntry)) (reqPath cacheKey : String) :
    Ordinary (serveDirectory libs tree cfg req dir entries reqPath cacheKey).1 := by
  unfold serveDirectory
  split
  · split
    · exact ordinary_ok _
    · exact ordinary_text rfl
  · split
    · exact ordinary_serveFile _ _ _ _ _ _
    · split
      · split
        · next hlisting => exact ordinary_listing hlisting
        · exact ordinary_cacheAndSend _ _ _ _ _
      · exact ordinary_ok _

/-- What a request resolves to decides whether it is an attempted traversal. -/
theorem serve_errors (target : DirServer) (req : Request) (pathDecoded cacheKey : String) :
    Ordinary (serve libs tree target req pathDecoded cacheKey).1 ∨
      (serve libs tree target req pathDecoded cacheKey).1 = traversal ∧
        ∃ full, tree.canonicalize target.dir.toList (relative pathDecoded.toList) = .ok full ∧
          startsWith full target.dir.toList = false := by
  unfold serve
  split
  · exact .inl (ordinary_ok _)
  · exact .inl (ordinary_append rfl _)
  · next full hfull =>
    split
    · exact .inl (ordinary_ok _)
    · split
      · refine .inl ?_
        split
        · exact ordinary_serveFile _ _ _ _ _ _
        · exact ordinary_serveDirectory _ _ _ _ _ _ _ _
        · exact ordinary_ok _
      · next houtside => exact .inr ⟨rfl, full, hfull, Bool.eq_false_iff.mpr houtside⟩

end OddBox.DirectoryServer

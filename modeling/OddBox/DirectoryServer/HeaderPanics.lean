import OddBox.Digits
import OddBox.Str
import OddBox.Utf8
import OddBox.PercentCoding
import OddBox.DirectoryServer.Confinement

/-!
When a request makes the directory server panic: the entity tag of a file repeats the host name
and the decoded path, and its date is formatted before anything else.
-/

namespace OddBox.DirectoryServer

open OddBox.Configuration

/-! ## Which texts fit -/

/-- The second after the year 9999, in nanoseconds. -/
def lastDate : Int := 253402300800 * 1000000000

/-- What the libraries promise of the texts that are put into headers unchecked. -/
structure HeaderTexts (libs : Libraries) : Prop where
  mimeGuess : ∀ path, headerValid (libs.mimeGuess path) = true
  fmtHttpDate : ∀ time text, libs.fmtHttpDate time = some text → headerValid text = true
  formatted : ∀ time, (libs.fmtHttpDate time).isSome = true ↔ 0 ≤ time ∧ time < lastDate

/-- A character that can stand in a header. -/
def headerChar (c : Char) : Bool := (32 ≤ c.toNat && c.toNat != 127) || c.toNat == 9

theorem headerValid_eq (text : String) : headerValid text = text.toList.all headerChar := rfl

theorem headerValid_toString (n : Nat) : headerValid (toString n) = true := by
  have hlist : (toString n).toList = Nat.toDigits 10 n := Nat.toList_repr
  rw [headerValid_eq, hlist, List.all_eq_true]
  exact Digits.forall_mem_toDigits (by decide) (by decide) n

theorem headerValid_etagOf (size : Nat) (modified : Option Int) (key : String) :
    headerValid (etagOf size modified key) = headerValid key := by
  have hquote : headerValid "\"" = true := by decide
  have hdash : headerValid "-" = true := by decide
  simp only [etagOf, headerValid_append, headerValid_toString, hquote, hdash, Bool.true_and,
    Bool.and_true]

theorem headerValid_trimSlashes (path : String) :
    headerValid (trimSlashes path) = headerValid path := by
  have htrim : ∀ letters : List Char,
      (letters.rdropWhile (· = slash)).all headerChar = letters.all headerChar := by
    intro letters
    induction letters using List.reverseRecOn with
    | nil => rfl
    | append_singleton letters c ih =>
        by_cases hslash : c = slash
        · have hfits : headerChar slash = true := by decide
          rw [hslash, List.rdropWhile_concat_pos _ _ _ (by decide), ih, List.all_append,
            List.all_cons, hfits, List.all_nil, Bool.and_true, Bool.and_true]
        · rw [List.rdropWhile_concat_neg _ _ _ (by simpa using hslash)]
  rw [headerValid_eq, headerValid_eq, trimSlashes, String.toList_ofList, htrim]

/-- The cookies always fit, as they are left out where they do not. -/
theorem headerValid_cacheKey (target : DirServer) (req : Request) (pathDecoded : String) :
    headerValid (cacheKey target req pathDecoded) =
      (headerValid target.hostName && headerValid pathDecoded) := by
  have hkey := headerValid_key
    ⟨target.hostName, req.cookie, trimSlashes pathDecoded, trimSlashes_idem pathDecoded⟩
  rw [headerValid_trimSlashes] at hkey
  exact hkey

/-! ## Where it panics -/

/-- What a request is answered from, if it is a file, can be sent: its time has a date, and
where the file itself is sent, its entity tag is a header value. -/
def HeadersFit (libs : Libraries) (tree : FileTree) (target : DirServer) (req : Request)
    (cache : ResponseCache) (now : Nat) : Prop :=
  ∀ pathDecoded path bytes modified readError, libs.decode req.path = .ok pathDecoded →
    opened libs tree target req cache now = some path →
    tree.node path = some (.file bytes modified readError) →
    (0 ≤ modified.getD 0 ∧ modified.getD 0 < lastDate) ∧
      (unchangedSince libs tree req path (cacheKey target req pathDecoded) = true ∨
        rendered target path = true ∨
        headerValid target.hostName = true ∧ headerValid pathDecoded = true)

variable {libs : Libraries} (tree : FileTree) (target : DirServer) (req : Request)

theorem sendFile_panic_iff (mimeType etag lastModified : String) (bytes : List UInt8)
    (readError : Option String) :
    (sendFile target req mimeType etag lastModified bytes readError).1 = .error .panic ↔
      (headerValid mimeType && headerValid etag && headerValid lastModified) = false := by
  unfold sendFile applyStreamingHeaders
  cases hvalid : headerValid mimeType && headerValid etag && headerValid lastModified with
  | false => exact iff_of_true rfl rfl
  | true =>
      refine iff_of_false ?_ (by decide)
      simp only [if_true]
      split
      · exact fun h => by cases h
      · split
        · cases readError <;> exact fun h => by cases h
        · exact fun h => by cases h

theorem serveMarkdown_ne_panic (bytes : List UInt8) (etag lastModified : String)
    (theme : ThemeDecision) :
    (serveMarkdown libs target bytes etag lastModified theme).1 ≠ .error .panic := by
  unfold serveMarkdown buildResponse
  split
  · exact fun h => by cases h
  · split <;> exact fun h => by cases h

theorem headerValid_mimeType (htexts : HeaderTexts libs) (path : List Char) :
    headerValid (mimeType libs path) = true := by
  unfold mimeType
  split
  · decide +kernel
  · exact htexts.mimeGuess path

theorem serveFile_panic_iff (htexts : HeaderTexts libs) {path : List Char} {bytes : List UInt8}
    {modified : Option Int} {readError : Option String}
    (hnode : tree.node path = some (.file bytes modified readError))
    (key : String) :
    (serveFile libs tree target req path key).1 ≠ .error .panic ↔
      (0 ≤ modified.getD 0 ∧ modified.getD 0 < lastDate) ∧
        (unchangedSince libs tree req path key = true ∨ rendered target path = true ∨
          headerValid key = true) := by
  unfold serveFile unchangedSince
  rw [← htexts.formatted, hnode]
  simp only
  cases hdate : libs.fmtHttpDate (modified.getD 0) with
  | none => simp [nothingCached]
  | some lastModified =>
      simp only [Option.isSome_some, true_and]
      cases isNotModified libs req (etagOf bytes.length modified key) modified with
      | true => exact iff_of_true (fun h => by cases h) (.inl rfl)
      | false =>
          have hrendered : (target.renderMarkdown.getD false && isMarkdown path) =
              rendered target path := rfl
          simp only [Bool.false_eq_true, if_false, false_or, hrendered]
          cases rendered target path with
          | true =>
              refine iff_of_true ?_ (.inl rfl)
              cases readError with
              | none => exact serveMarkdown_ne_panic _ _ _ _ _
              | some e => exact fun h => by cases h
          | false =>
              have hmime : (if isMarkdown path = true then "text/plain; charset=utf-8"
                  else libs.mimeGuess path) = mimeType libs path := rfl
              rw [if_neg Bool.false_ne_true, hmime, Ne, sendFile_panic_iff,
                headerValid_mimeType htexts, headerValid_etagOf,
                htexts.fmtHttpDate _ _ hdate, Bool.true_and, Bool.and_true, Bool.not_eq_false]
              simp

theorem serveDirectory_ne_panic {dir : List Char} {pathDecoded : String}
    (entries : Except String (List DirEntry)) (key : String)
    (hindex : indexOf tree dir pathDecoded = none) :
    (serveDirectory libs tree target req dir entries pathDecoded key).1 ≠ .error .panic := by
  unfold serveDirectory
  split
  · split <;> exact fun h => by cases h
  · next hslash =>
    rw [indexOf, if_pos (not_not.mp hslash), Option.map_eq_none_iff] at hindex
    rw [hindex]
    simp only
    split
    · split
      · exact fun h => by cases h
      · unfold buildResponse
        split <;> exact fun h => by cases h
    · exact fun h => by cases h

theorem serveFile_other {path : List Char} (key : String)
    (hother : ∀ bytes modified readError,
      tree.node path ≠ some (.file bytes modified readError)) :
    (serveFile libs tree target req path key).1 ≠ .error .panic := by
  unfold serveFile
  split
  · next bytes modified readError hnode => exact absurd hnode (hother _ _ _)
  · exact fun h => by cases h

theorem serve_panic_iff (htexts : HeaderTexts libs) (pathDecoded : String) :
    (serve libs tree target req pathDecoded (cacheKey target req pathDecoded)).1 ≠ .error .panic ↔
      ∀ path bytes modified readError, servedPath tree target pathDecoded = some path →
        tree.node path = some (.file bytes modified readError) →
        (0 ≤ modified.getD 0 ∧ modified.getD 0 < lastDate) ∧
          (unchangedSince libs tree req path (cacheKey target req pathDecoded) = true ∨
            rendered target path = true ∨
            headerValid target.hostName = true ∧ headerValid pathDecoded = true) := by
  cases hserved : servedPath tree target pathDecoded with
  | none =>
      obtain ⟨reply, hrefusal, hserve⟩ := serve_of_none libs tree target req pathDecoded
        (cacheKey target req pathDecoded) hserved
      refine iff_of_true ?_ (fun _ _ _ _ hnone => by cases hnone)
      rw [hserve]
      cases hrefusal with
      | notFound body reply h => exact h ▸ fun hsame => by cases hsame
      | error text => exact fun hsame => by cases hsame
  | some path =>
      rcases serve_of_some libs tree target req pathDecoded (cacheKey target req pathDecoded)
        hserved with hserve | ⟨entries, hnode, hindex, hserve⟩
      · rw [hserve]
        by_cases hfile : ∃ bytes modified readError,
            tree.node path = some (.file bytes modified readError)
        · obtain ⟨bytes, modified, readError, hnode⟩ := hfile
          rw [serveFile_panic_iff tree target req htexts hnode, headerValid_cacheKey,
            Bool.and_eq_true]
          constructor
          · intro h _ _ _ _ hpath hsame
            cases hpath
            rw [hnode] at hsame
            cases hsame
            exact h
          · intro h
            exact h path bytes modified readError rfl hnode
        · simp only [not_exists] at hfile
          refine iff_of_true (serveFile_other tree target req _ hfile) ?_
          intro _ bytes modified readError hpath hnode
          cases hpath
          exact absurd hnode (hfile _ _ _)
      · rw [hserve]
        refine iff_of_true (serveDirectory_ne_panic tree target req entries _ hindex) ?_
        intro _ _ _ _ hpath hfile
        cases hpath
        rw [hnode] at hfile
        cases hfile

/-- The server panics at most for a file that it reads, and only where the host name, the path
or the time of the file does not fit into a header. -/
theorem handle_panic_iff (htexts : HeaderTexts libs) (cache : ResponseCache) (now : Nat) :
    (handle libs tree cache now target req).1 ≠ .error .panic ↔
      HeadersFit libs tree target req cache now := by
  unfold HeadersFit opened
  cases hdecode : libs.decode req.path with
  | error e =>
      have hreply : (handle libs tree cache now target req).1 = .error (.error e) := by
        simp only [handle, hdecode]
      rw [hreply]
      exact iff_of_true (fun h => by cases h) fun _ _ _ _ _ hnone => by cases hnone
  | ok pathDecoded =>
      rw [handle_fst libs tree target req pathDecoded cache now hdecode]
      simp only
      cases hfound : (cachedFreshResponse cache now (cacheKey target req pathDecoded)).1 with
      | error e =>
          rw [cachedFreshResponse_error _ hfound]
          exact iff_of_true (fun h => by cases h) fun _ _ _ _ _ _ hnone => by cases hnone
      | ok found =>
          cases found with
          | some resp =>
              exact iff_of_true (fun h => by cases h) fun _ _ _ _ _ _ hnone => by cases hnone
          | none =>
              simp only
              rw [serve_panic_iff tree target req htexts pathDecoded]
              constructor
              · intro h _ path bytes modified readError hsame
                cases hsame
                exact h path bytes modified readError
              · intro h path bytes modified readError
                exact h pathDecoded path bytes modified readError rfl

/-! ## A file with a line feed in its name -/

/-- Percent-encoded UTF-8. -/
def urlDecode (text : String) : Except String String :=
  match String.fromUTF8? ⟨(PercentCoding.decode (bytesOf text)).toArray⟩ with
  | some decoded => .ok decoded
  | none => .error "FromUtf8Error"

theorem urlDecode_encoded (text : String) : ∃ raw, urlDecode raw = .ok text := by
  have hascii := PercentCoding.encode_lt (bytesOf text)
  refine ⟨String.ofList ((PercentCoding.encode (bytesOf text)).map fun byte =>
    Char.ofNat byte.toNat), ?_⟩
  have hbytes : bytesOf (String.ofList ((PercentCoding.encode (bytesOf text)).map fun byte =>
      Char.ofNat byte.toNat)) = PercentCoding.encode (bytesOf text) := by
    rw [bytesOf, Utf8.toList_toUTF8, String.toList_ofList, Utf8.utf8_map_ofNat hascii]
  rw [urlDecode, hbytes, PercentCoding.decode_encode, bytesOf, Str.fromUTF8_toUTF8]

/-- Libraries that decode paths and know one date and one kind of file. -/
def urlLibraries : Libraries :=
  { plainLibraries with
    decode := urlDecode
    encoded := urlDecode_encoded
    fmtHttpDate := fun time =>
      if 0 ≤ time ∧ time < lastDate then some "Thu, 01 Jan 1970 00:00:00 GMT" else none
    mimeGuess := fun path =>
      if extension path = some "txt".toList then "text/plain" else "application/octet-stream" }

theorem headerTexts_urlLibraries : HeaderTexts urlLibraries where
  mimeGuess path := by
    change headerValid (if extension path = some "txt".toList then _ else _) = true
    split <;> decide +kernel
  fmtHttpDate time text h := by
    change (if 0 ≤ time ∧ time < lastDate then some _ else none) = some text at h
    split at h <;> cases h
    decide +kernel
  formatted time := by
    change (if 0 ≤ time ∧ time < lastDate then some _ else none).isSome = true ↔ _
    split <;> simp_all

theorem handle_panic_iff_site :
    (handle urlLibraries (siteDisk "a.txt").tree (fun _ => none) 0 (siteAt "/site")
        (siteRequest "/a.txt")).1 ≠ .error .panic ↔
      HeadersFit urlLibraries (siteDisk "a.txt").tree (siteAt "/site") (siteRequest "/a.txt")
        (fun _ => none) 0 :=
  handle_panic_iff (siteDisk "a.txt").tree (siteAt "/site") (siteRequest "/a.txt")
    headerTexts_urlLibraries (fun _ => none) 0

/-- A file whose name has a line feed in it makes the server panic when it is asked for. -/
theorem line_feed_panics :
    (handle urlLibraries (siteDisk "a\nb").tree (fun _ => none) 0 (siteAt "/site")
        (siteRequest "/a%0Ab")).1 = .error .panic := by
  decide +kernel

end OddBox.DirectoryServer

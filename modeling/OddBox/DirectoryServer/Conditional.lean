import OddBox.DirectoryServer.HeaderPanics

/-!
Which conditional requests for a file are answered with 304: a list of entity tags is compared
with the tag of the file as one text, the date is looked at whether there are tags or not, and
the time it is compared with is finer than the one that was sent.
-/

namespace OddBox.DirectoryServer

open OddBox.Configuration

/-! ## Validators -/

/-- An element of a list of entity tags: a weak mark or none, and a text in double quotes. -/
structure EntityTag where
  weak : Bool
  quoted : List UInt8
  ends : ∃ content, quoted = 34 :: content ++ [34]

def EntityTag.text (tag : EntityTag) : List UInt8 :=
  if tag.weak then 87 :: 47 :: tag.quoted else tag.quoted

/-- An element with the blanks around it. -/
structure ListedTag where
  before : List UInt8
  tag : EntityTag
  after : List UInt8
  blanks : ∀ byte ∈ before ++ after, byte = 32 ∨ byte = 9

def ListedTag.text (listed : ListedTag) : List UInt8 :=
  listed.before ++ listed.tag.text ++ listed.after

/-- The value can be read as a list of entity tags that has this one in it. -/
def Lists (value : HeaderValue) (quoted : List UInt8) : Prop :=
  ∃ tags : List ListedTag, value = [44].intercalate (tags.map ListedTag.text) ∧
    ∃ listed ∈ tags, listed.tag.quoted = quoted

theorem infix_intercalate {element : List UInt8} {elements : List (List UInt8)}
    (hmem : element ∈ elements) (separator : List UInt8) :
    element <:+: separator.intercalate elements := by
  induction elements with
  | nil => exact absurd hmem List.not_mem_nil
  | cons first elements ih =>
      cases elements with
      | nil =>
          rw [List.mem_singleton.mp hmem, List.intercalate_singleton]
      | cons second elements =>
          rw [List.intercalate_cons_cons]
          rcases List.mem_cons.mp hmem with rfl | hlater
          · exact (List.prefix_append _ _).isInfix.trans (List.prefix_append _ _).isInfix
          · exact (ih hlater).trans (List.suffix_append _ _).isInfix

/-- A listed tag stands in the value. -/
theorem Lists.isInfix {value : HeaderValue} {quoted : List UInt8} (h : Lists value quoted) :
    quoted <:+: value := by
  obtain ⟨tags, rfl, listed, hmem, rfl⟩ := h
  have hquoted : listed.tag.quoted <:+: listed.tag.text := by
    rw [EntityTag.text]
    split
    · exact ⟨[87, 47], [], by simp⟩
    · exact List.infix_rfl
  have hlisted : listed.tag.text <:+: listed.text := ⟨listed.before, listed.after, rfl⟩
  exact (hquoted.trans hlisted).trans (infix_intercalate (List.mem_map_of_mem hmem) _)

/-- A time without its fraction of a second. -/
def wholeSeconds (time : Int) : Int := time / 1000000000 * 1000000000

/-- What the libraries promise of dates: they are whole seconds, those of the time that was
formatted. -/
structure HttpDates (libs : Libraries) : Prop where
  readBack : ∀ time text, libs.fmtHttpDate time = some text →
    libs.parseHttpDate text = some (wholeSeconds time)
  whole : ∀ text since, libs.parseHttpDate text = some since → wholeSeconds since = since

variable (libs : Libraries) (tree : FileTree) (target : DirServer) (req : Request)

/-- The date of the request. -/
def sinceOf : Option Int :=
  req.ifModifiedSince.bind fun value => libs.parseHttpDate ((HeaderValue.toStr value).getD "")

/-- The date that is sent with a file, as its client reads it. -/
def lastModifiedOf (modified : Option Int) : Option Int :=
  (libs.fmtHttpDate (modified.getD 0)).bind libs.parseHttpDate

/-- What a request asks about a file: whether one of its tags is that of the file, or without
tags, whether the file was not modified since. -/
def Unchanged (etag : String) (modified : Option Int) : Prop :=
  match req.ifNoneMatch with
  | some value => Lists value (bytesOf etag)
  | none => ∃ since sent, sinceOf libs req = some since ∧
      lastModifiedOf libs modified = some sent ∧ sent ≤ since

/-! ## The answer -/

def NotModified (reply : Reply) : Prop := ∃ resp, reply = .ok resp ∧ resp.status = 304

def visible (byte : UInt8) : Bool := (32 ≤ byte && byte < 127) || byte == 9

theorem visible_lt : ∀ byte : UInt8, visible byte = true → byte < 128 := by
  decide +kernel

/-- The value is the tag and nothing else, in visible ASCII. -/
def IsTag (value : HeaderValue) (etag : String) : Prop :=
  value = bytesOf etag ∧ value.all visible = true

theorem bytesOf_injective {a b : String} (h : bytesOf a = bytesOf b) : a = b := by
  rw [bytesOf, bytesOf, Utf8.toList_toUTF8, Utf8.toList_toUTF8] at h
  exact String.toList_inj.mp (Utf8.utf8_injective h)

theorem toStr_eq_some {value : HeaderValue} {text : String} :
    HeaderValue.toStr value = some text ↔ IsTag value text := by
  have hshown : HeaderValue.toStr value = if value.all visible then
      some (String.ofList (value.map fun byte => Char.ofNat byte.toNat)) else none := rfl
  rw [hshown, IsTag]
  cases hall : value.all visible with
  | false => simp
  | true =>
      have hascii : ∀ byte ∈ value, byte < 128 := fun byte hmem =>
        visible_lt byte (List.all_eq_true.mp hall byte hmem)
      have hbytes :
          bytesOf (String.ofList (value.map fun byte => Char.ofNat byte.toNat)) = value := by
        rw [bytesOf, Utf8.toList_toUTF8, String.toList_ofList, Utf8.utf8_map_ofNat hascii]
      rw [if_pos rfl, Option.some.injEq, and_iff_left rfl]
      constructor
      · rintro rfl
        exact hbytes.symm
      · intro hvalue
        exact bytesOf_injective (hbytes.trans hvalue)

theorem isNotModified_iff {etag : String} (hetag : etag ≠ "") (modified : Option Int) :
    isNotModified libs req etag modified = true ↔
      (∃ value, req.ifNoneMatch = some value ∧ IsTag value etag) ∨
        ∃ time since, modified = some time ∧ sinceOf libs req = some since ∧ time ≤ since := by
  unfold isNotModified
  rw [Bool.or_eq_true]
  apply or_congr
  · cases req.ifNoneMatch with
    | none => simp
    | some value =>
        simp only [Option.some.injEq, exists_eq_left', beq_iff_eq, ← toStr_eq_some]
        cases HeaderValue.toStr value with
        | none => simpa using hetag.symm
        | some text => simp
  · unfold sinceOf
    cases req.ifModifiedSince with
    | none => cases modified <;> simp
    | some value =>
        cases modified with
        | none => simp
        | some time =>
            simp only [Option.bind_some, Option.some.injEq, exists_and_left, exists_eq_left']
            cases libs.parseHttpDate ((HeaderValue.toStr value).getD "") with
            | none => simp
            | some since => simp only [decide_eq_true_eq, Option.some.injEq, exists_eq_left']

theorem not_notModified {resp : Response} (h : resp.status ≠ 304) : ¬ NotModified (.ok resp) := by
  rintro ⟨_, hresp, hstatus⟩
  cases hresp
  exact h hstatus

theorem not_notModified_error (failure : Failure) : ¬ NotModified (.error failure) := by
  rintro ⟨_, hresp, -⟩
  cases hresp

theorem applyStreamingHeaders_status {status contentLength : Nat}
    {contentType etag lastModified : String} {age : Option UInt64} {resp : Response}
    (h : applyStreamingHeaders status contentType age etag lastModified contentLength = .ok resp) :
    resp.status = status := by
  unfold applyStreamingHeaders at h
  split at h <;> cases h
  rfl

theorem sendFile_notModified (mimeType etag lastModified : String) (bytes : List UInt8)
    (readError : Option String) :
    ¬ NotModified (sendFile target req mimeType etag lastModified bytes readError).1 := by
  unfold sendFile
  dsimp only
  split
  · exact not_notModified_error _
  · next resp hheaders =>
    have hstatus := applyStreamingHeaders_status hheaders
    split
    · exact not_notModified (by simp [hstatus])
    · split
      · split
        · exact not_notModified_error _
        · exact not_notModified (by simp [hstatus])
      · exact not_notModified (by simp [hstatus])

theorem serveMarkdown_notModified (bytes : List UInt8) (etag lastModified : String)
    (theme : ThemeDecision) :
    ¬ NotModified (serveMarkdown libs target bytes etag lastModified theme).1 := by
  unfold serveMarkdown
  split
  · exact not_notModified_error _
  · unfold buildResponse
    split
    · exact not_notModified (show 200 ≠ 304 by decide)
    · exact not_notModified_error _

/-- A file is answered with 304 where its time has a date and the validators match. -/
theorem serveFile_notModified_iff {path : List Char} {bytes : List UInt8} {modified : Option Int}
    {readError : Option String} (hnode : tree.node path = some (.file bytes modified readError))
    (key : String) :
    NotModified (serveFile libs tree target req path key).1 ↔
      (libs.fmtHttpDate (modified.getD 0)).isSome = true ∧
        isNotModified libs req (etagOf bytes.length modified key) modified = true := by
  unfold serveFile
  simp only [hnode]
  cases libs.fmtHttpDate (modified.getD 0) with
  | none => exact iff_of_false (not_notModified_error _) (by simp)
  | some lastModified =>
      simp only [Option.isSome_some, true_and]
      cases isNotModified libs req (etagOf bytes.length modified key) modified with
      | true => exact iff_of_true ⟨_, rfl, rfl⟩ rfl
      | false =>
          simp only [Bool.false_eq_true, if_false, iff_false]
          split
          · split
            · exact not_notModified_error _
            · exact serveMarkdown_notModified _ _ _ _ _ _
          · exact sendFile_notModified _ _ _ _ _ _ _

/-! ## Where the answer is right -/

theorem bytesOf_append (front back : String) :
    bytesOf (front ++ back) = bytesOf front ++ bytesOf back := by
  simp only [bytesOf, Utf8.toList_toUTF8, String.toList_append, Utf8.utf8_append]

theorem bytesOf_etagOf (size : Nat) (modified : Option Int) (key : String) :
    ∃ content, bytesOf (etagOf size modified key) = 34 :: content ++ [34] := by
  have hquote : bytesOf "\"" = [34] := by decide +kernel
  refine ⟨bytesOf (toString size ++ "-" ++ toString ((modified.getD 0).toNat / 1000000000) ++ "-" ++
    key), ?_⟩
  simp only [etagOf, bytesOf_append, hquote, List.append_assoc, List.cons_append, List.nil_append]

/-- The tag on its own is a list of tags. -/
theorem lists_of_isTag {value : HeaderValue} {size : Nat} {modified : Option Int} {key : String}
    (h : IsTag value (etagOf size modified key)) :
    Lists value (bytesOf (etagOf size modified key)) := by
  let tag : EntityTag :=
    ⟨false, bytesOf (etagOf size modified key), bytesOf_etagOf size modified key⟩
  refine ⟨[⟨[], tag, [], fun byte hmem => absurd hmem List.not_mem_nil⟩], ?_, _,
    List.mem_singleton_self _, rfl⟩
  simpa [ListedTag.text, EntityTag.text, tag] using h.1

theorem etagOf_ne_empty (size : Nat) (modified : Option Int) (key : String) :
    etagOf size modified key ≠ "" := by
  intro hempty
  obtain ⟨content, hcontent⟩ := bytesOf_etagOf size modified key
  rw [hempty] at hcontent
  cases hcontent

/-- The time of the file has a date. -/
def Dated (modified : Option Int) : Prop := (libs.fmtHttpDate (modified.getD 0)).isSome = true

/-- With tags: a tag of the file stands alone, or the date happens to match too; and where the
tags do not match, no date matches. Without: the date is not the second in which the file was
modified, unless nothing was cut off the time. -/
def AnsweredRight (etag : String) (modified : Option Int) : Prop :=
  match req.ifNoneMatch with
  | some value =>
    (Lists value (bytesOf etag) → Dated libs modified ∧ (IsTag value etag ∨
        ∃ time since, modified = some time ∧ sinceOf libs req = some since ∧ time ≤ since)) ∧
      (¬ Lists value (bytesOf etag) → Dated libs modified → ∀ time since, modified = some time →
        sinceOf libs req = some since → since < time)
  | none =>
    Dated libs modified → ∀ since, sinceOf libs req = some since →
      (modified = none → since < 0) ∧
        ∀ time, modified = some time → since = wholeSeconds time → wholeSeconds time = time

variable {libs}

theorem sinceOf_whole (hdates : HttpDates libs) {since : Int} (h : sinceOf libs req = some since) :
    wholeSeconds since = since := by
  obtain ⟨value, -, hparse⟩ := Option.bind_eq_some_iff.mp h
  exact hdates.whole _ _ hparse

theorem lastModifiedOf_eq (hdates : HttpDates libs) {modified : Option Int}
    (hdated : Dated libs modified) :
    lastModifiedOf libs modified = some (wholeSeconds (modified.getD 0)) := by
  obtain ⟨text, htext⟩ := Option.isSome_iff_exists.mp hdated
  rw [lastModifiedOf, htext]
  exact hdates.readBack _ _ htext

theorem lastModifiedOf_undated {modified : Option Int} (hdated : ¬ Dated libs modified) :
    lastModifiedOf libs modified = none := by
  rw [lastModifiedOf, Option.not_isSome_iff_eq_none.mp hdated]
  rfl

/-- Among whole seconds, only that of the time itself lies before the time and not before it
as it is sent. -/
theorem le_iff_of_whole {time since : Int} (hwhole : wholeSeconds since = since) :
    (time ≤ since ↔ wholeSeconds time ≤ since) ↔
      (since = wholeSeconds time → wholeSeconds time = time) := by
  unfold wholeSeconds at *
  omega

theorem answered_without_tags (hdates : HttpDates libs) (modified : Option Int) :
    ((Dated libs modified ∧ ∃ time since, modified = some time ∧ sinceOf libs req = some since ∧
        time ≤ since) ↔
      ∃ since sent, sinceOf libs req = some since ∧ lastModifiedOf libs modified = some sent ∧
        sent ≤ since) ↔
    (Dated libs modified → ∀ since, sinceOf libs req = some since →
      (modified = none → since < 0) ∧
        ∀ time, modified = some time → since = wholeSeconds time → wholeSeconds time = time) := by
  by_cases hdated : Dated libs modified
  · rw [lastModifiedOf_eq hdates hdated]
    simp only [hdated, true_and, true_implies, Option.some.injEq, exists_and_left, exists_eq_left']
    cases hsince : sinceOf libs req with
    | none => simp
    | some since =>
        have hwhole := sinceOf_whole req hdates hsince
        simp only [Option.some.injEq, exists_eq_left', forall_eq']
        cases modified with
        | none =>
            have hepoch : wholeSeconds 0 = 0 := by decide
            simp [hepoch]
        | some time =>
            simp only [Option.some.injEq, Option.getD_some, exists_eq_left', forall_eq',
              reduceCtorEq, false_implies, true_and]
            exact le_iff_of_whole hwhole
  · rw [lastModifiedOf_undated hdated]
    simp [hdated]

/-- The answer to a request for a file is 304 exactly for what the request asks, in these cases
and in no others. -/
theorem serveFile_notModified_right_iff (hdates : HttpDates libs) {path : List Char}
    {bytes : List UInt8} {modified : Option Int} {readError : Option String}
    (hnode : tree.node path = some (.file bytes modified readError)) (key : String) :
    (NotModified (serveFile libs tree target req path key).1 ↔
        Unchanged libs req (etagOf bytes.length modified key) modified) ↔
      AnsweredRight libs req (etagOf bytes.length modified key) modified := by
  rw [serveFile_notModified_iff libs tree target req hnode key, isNotModified_iff libs req (etagOf_ne_empty _ _ _), Unchanged, AnsweredRight]
  change (Dated libs modified ∧ _ ↔ _) ↔ _
  cases req.ifNoneMatch with
  | none =>
      simp only [reduceCtorEq, false_and, exists_false, false_or]
      exact answered_without_tags req hdates modified
  | some value =>
      simp only [Option.some.injEq, exists_eq_left']
      have halone := @lists_of_isTag value bytes.length modified key
      have hlater : (∀ time since, modified = some time → sinceOf libs req = some since →
          since < time) ↔
          ¬ ∃ time since, modified = some time ∧ sinceOf libs req = some since ∧ time ≤ since := by
        simp only [not_exists, not_and, not_le]
      rw [hlater]
      by_cases hlists : Lists value (bytesOf (etagOf bytes.length modified key))
      · simp only [hlists, iff_true, true_implies, not_true_eq_false, false_implies, and_true]
      · have hnot := mt halone hlists
        simp only [hlists, hnot, iff_false, false_implies, false_or, not_false_eq_true,
          true_implies, true_and, not_and]

/-! ## A tag that changed -/

def epochText : String := "Thu, 01 Jan 1970 00:00:00 GMT"

/-- Libraries that know the first second of the epoch. -/
def epochLibraries : Libraries :=
  { urlLibraries with
    fmtHttpDate := fun time => if 0 ≤ time ∧ time < 1000000000 then some epochText else none
    parseHttpDate := fun text => if text = epochText then some 0 else none }

theorem httpDates_epochLibraries : HttpDates epochLibraries where
  readBack time text h := by
    change (if 0 ≤ time ∧ time < 1000000000 then some epochText else none) = some text at h
    split at h <;> cases h
    change (if epochText = epochText then some 0 else none) = some (wholeSeconds time)
    rw [if_pos rfl, wholeSeconds]
    congr 1
    omega
  whole text since h := by
    change (if text = epochText then some 0 else none) = some since at h
    split at h <;> cases h
    rfl

/-- A client that has the file in an older version, from the same second. -/
def staleRequest : Request :=
  ⟨"GET", "/a.txt", none, some (bytesOf "\"1-0-docs-no-cookies-/a.txt\""), some (bytesOf epochText)⟩

theorem siteDisk_node :
    (siteDisk "a.txt").tree.node "/site/a.txt".toList =
      some (.file [104, 105] (some 0) none) := by
  decide +kernel

theorem serveFile_notModified_right_iff_site :
    (NotModified (serveFile epochLibraries (siteDisk "a.txt").tree (siteAt "/site") staleRequest
          "/site/a.txt".toList "docs-no-cookies-/a.txt").1 ↔
        Unchanged epochLibraries staleRequest
          (etagOf [(104 : UInt8), 105].length (some 0) "docs-no-cookies-/a.txt") (some 0)) ↔
      AnsweredRight epochLibraries staleRequest
        (etagOf [(104 : UInt8), 105].length (some 0) "docs-no-cookies-/a.txt") (some 0) :=
  serveFile_notModified_right_iff (siteDisk "a.txt").tree (siteAt "/site") staleRequest
    httpDates_epochLibraries siteDisk_node "docs-no-cookies-/a.txt"

/-- A client whose tag is that of an older version is told that nothing changed. -/
theorem stale_tag_not_modified :
    ¬ (NotModified (serveFile epochLibraries (siteDisk "a.txt").tree (siteAt "/site") staleRequest
          "/site/a.txt".toList "docs-no-cookies-/a.txt").1 ↔
        Unchanged epochLibraries staleRequest
          (etagOf [(104 : UInt8), 105].length (some 0) "docs-no-cookies-/a.txt") (some 0)) := by
  intro hright
  have hanswer := (serveFile_notModified_iff epochLibraries (siteDisk "a.txt").tree
    (siteAt "/site") staleRequest siteDisk_node "docs-no-cookies-/a.txt").mpr
    ⟨by decide +kernel, by decide +kernel⟩
  have hlisted : Lists (bytesOf "\"1-0-docs-no-cookies-/a.txt\"")
      (bytesOf (etagOf [(104 : UInt8), 105].length (some 0) "docs-no-cookies-/a.txt")) :=
    hright.mp hanswer
  exact absurd hlisted.isInfix (by decide +kernel)

end OddBox.DirectoryServer

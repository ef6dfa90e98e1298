import OddBox.Checked
import OddBox.Html
import OddBox.Segments
import OddBox.DirectoryServer.HeaderPanics

/-!
What the links of a directory listing lead to, and what markup a listing has: the names of the
entries are put into both as they are.
-/

namespace OddBox.DirectoryServer

open OddBox.Checked Html Segments Utf8

/-! ## Paths and their bytes -/

/-- The names of a path, every character of weight one. -/
def pathCut : Cut Char where
  separator := slash
  counts name := name ≠ [] && name ≠ ['.']
  weight _ := 1
  counts_nil := rfl

/-- The names of a path in bytes, every character of weight one. -/
def byteCut : Cut UInt8 where
  separator := 47
  counts name := name ≠ [] && name ≠ [46]
  weight byte := if isContinuation byte then 0 else 1
  counts_nil := rfl

theorem parts_pathCut (path : List Char) : pathCut.parts path = names path := rfl

theorem total_pathCut (path : List Char) : pathCut.total path = path.length := by
  simp [Cut.total, pathCut]

theorem total_utf8 (path : List Char) : byteCut.total (utf8 path) = path.length := by
  rw [← countP_utf8 path, Cut.total]
  induction utf8 path with
  | nil => rfl
  | cons byte bytes ih =>
      rw [List.map_cons, List.sum_cons, ih, List.countP_cons]
      cases hbyte : isContinuation byte <;> simp [byteCut, hbyte, Nat.add_comm]

theorem slash_mem_utf8 {path : List Char} : 47 ∈ utf8 path ↔ slash ∈ path :=
  mem_utf8_iff (by decide)

theorem counts_utf8 (path : List Char) : byteCut.counts (utf8 path) = pathCut.counts path := by
  have hempty : utf8 path = [] ↔ path = [] := utf8_injective.eq_iff' rfl
  have hdot : utf8 path = [46] ↔ path = ['.'] := utf8_injective.eq_iff' rfl
  simp only [byteCut, pathCut, ne_eq, hempty, hdot]

theorem size_utf8 (path : List Char) : byteCut.size (utf8 path) = pathCut.size path := by
  have hpart : ∀ part, slash ∉ part → byteCut.size (utf8 part) = pathCut.size part := by
    intro part h
    have hbytes : byteCut.separator ∉ utf8 part := mt slash_mem_utf8.mp h
    have hchars : pathCut.separator ∉ part := h
    rw [Cut.size_of_not_mem hchars, Cut.size_of_not_mem hbytes, counts_utf8, total_utf8,
      total_pathCut]
  induction path using Cut.induction_on pathCut with
  | part part h => exact hpart part h
  | more part rest h ih =>
      have hslash : utf8 (part ++ pathCut.separator :: rest) =
          utf8 part ++ byteCut.separator :: utf8 rest := by
        rw [utf8_append, utf8_cons]
        rfl
      rw [hslash, Cut.size_append, Cut.size_append, ih, hpart part h]

/-! ## The way of a link -/

/-- Without the fragment and the query, as a browser requests it. -/
def requested (url : List Char) : List Char := url.takeWhile fun c => c != '#' && c != '?'

/-- The value of the link of an entry, as it is written. -/
def hrefOf (reqPath : String) (entry : DirEntry) : List Char :=
  reqPath.toList ++ entry.fileName.toList ++ if entry.isDir then [slash] else []

/-- `urlencoding::decode`: the percent-encoded bytes, if they are UTF-8. -/
def Decodes (libs : Libraries) : Prop :=
  ∀ raw text, libs.decode raw = .ok text ↔ bytesOf text = PercentCoding.decode (bytesOf raw)

/-- The link leads back to its entry: what the server takes from the request for it is the path
of the listing and the name. -/
def Leads (libs : Libraries) (refs : References) (reqPath : String) (entry : DirEntry) : Prop :=
  ∃ decoded,
    libs.decode (String.ofList (requested (refs.resolve (hrefOf reqPath entry)))) = .ok decoded ∧
      relative decoded.toList = relative reqPath.toList ++ [entry.fileName.toList]

/-- Nothing on the way of the link changes it. -/
structure Unchanging (refs : References) (href : List Char) : Prop where
  references : refs.resolve href = href
  fragment : '#' ∉ href
  query : '?' ∉ href
  percent : ¬ PercentCoding.Encoded (utf8 href)

/-- What does not count is empty or a dot. -/
theorem void_pathCut {part : List Char} (h : pathCut.counts part = false) :
    part = [] ∨ part = ['.'] := by
  simpa [pathCut, or_iff_not_imp_left] using h

theorem void_byteCut {part : List UInt8} (h : byteCut.counts part = false) :
    part = [] ∨ part = [46] := by
  simpa [byteCut, or_iff_not_imp_left] using h

theorem local_resolve (refs : References) : pathCut.Local refs.resolve where
  split := refs.split
  lighter part _ := by
    rw [total_pathCut, total_pathCut]
    exact refs.length_le part
  void part h := by
    rcases void_pathCut h with rfl | rfl
    · exact refs.plain [] (by decide) (by decide) (by decide)
    · exact refs.plain ['.'] (by decide) (by decide) (by decide)

theorem decode_lighter (bytes : List UInt8) : PercentCoding.decode bytes = bytes ∨
    byteCut.total (PercentCoding.decode bytes) < byteCut.total bytes := by
  refine PercentCoding.decode_weight ?_ ?_ bytes
  · intro byte
    change (if isContinuation byte then 0 else 1) ≤ 1
    split <;> decide
  · intro byte hascii
    refine if_neg fun hcontinuation => continuation_large hcontinuation hascii

theorem local_decode : byteCut.Local PercentCoding.decode where
  split := PercentCoding.decode_append_slash
  lighter part _ := by
    rcases decode_lighter part with hsame | hless
    · rw [hsame]
    · exact hless.le
  void part h := by
    rcases void_byteCut h with rfl | rfl <;> rfl

/-- A browser requests the whole of a text, or loses a part of a name. -/
theorem requested_cases (url : List Char) :
    (requested url = url ∧ '#' ∉ url ∧ '?' ∉ url) ∨
      pathCut.size (requested url) < pathCut.size url := by
  have hsplit : requested url ++ url.dropWhile (fun c => c != '#' && c != '?') = url :=
    List.takeWhile_append_dropWhile
  cases hrest : url.dropWhile (fun c => c != '#' && c != '?') with
  | nil =>
      have hall := List.dropWhile_eq_nil_iff.mp hrest
      rw [hrest, List.append_nil] at hsplit
      refine .inl ⟨hsplit, fun hmem => ?_, fun hmem => ?_⟩
      · exact absurd (hall _ hmem) (by decide)
      · exact absurd (hall _ hmem) (by decide)
  | cons c back =>
      have hc : (c != '#' && c != '?') = false := by
        have hhead := List.head?_dropWhile_not (fun c => c != '#' && c != '?') url
        rw [hrest] at hhead
        simpa using hhead
      have hletter : c = '#' ∨ c = '?' := by
        rw [Bool.and_eq_false_iff, bne_eq_false_iff_eq, bne_eq_false_iff_eq] at hc
        exact hc
      rw [hrest] at hsplit
      refine .inr ?_
      conv_rhs => rw [← hsplit]
      refine Cut.size_lt_of_cut ?_ ?_ Nat.one_pos _ _
      · rcases hletter with rfl | rfl <;> decide
      · intro part hmem
        cases hcounts : pathCut.counts part with
        | true => rfl
        | false =>
            rcases void_pathCut hcounts with rfl | rfl
            · cases hmem
            · rw [List.mem_singleton] at hmem
              rcases hletter with rfl | rfl <;> cases hmem

/-- What a link decodes to has the names of the link only if nothing on its way changes it. -/
theorem unchanging_of_names (refs : References) {href decoded : List Char}
    (hbytes : utf8 decoded = PercentCoding.decode (utf8 (requested (refs.resolve href))))
    (hnames : names decoded = names href) : Unchanging refs href := by
  have hsize : pathCut.size decoded = pathCut.size href := by
    rw [Cut.size, Cut.size, parts_pathCut, parts_pathCut, hnames]
  have hresolved := (local_resolve refs).size_le href
  have hdecoded := local_decode.size_le (utf8 (requested (refs.resolve href)))
  rw [← hbytes, size_utf8, size_utf8] at hdecoded
  rcases requested_cases (refs.resolve href) with ⟨hwhole, hfragment, hquery⟩ | hless
  · rw [hwhole] at hdecoded hbytes
    have hpercent : PercentCoding.decode (utf8 (refs.resolve href)) = utf8 (refs.resolve href) := by
      apply local_decode.eq_of_size
      · intro part _ htotal
        exact (decode_lighter part).resolve_right fun hless => hless.ne htotal
      · rw [← hbytes, size_utf8, size_utf8]
        omega
    have hsame : decoded = refs.resolve href := utf8_injective (hbytes.trans hpercent)
    have hreferences : refs.resolve href = href := by
      apply (local_resolve refs).eq_of_parts (fun _ => Nat.one_pos)
      rw [parts_pathCut, parts_pathCut, ← hsame, hnames]
    rw [hreferences] at hfragment hquery hpercent
    exact ⟨hreferences, hfragment, hquery, PercentCoding.decode_eq_self_iff.mp hpercent⟩
  · omega

/-! ## Names on the way -/

theorem dot_not_mem_names (path : List Char) : ['.'] ∉ names path := by
  intro hmem
  have hkept := (List.mem_filter.mp hmem).2
  revert hkept
  decide

theorem relative_of_head {path : List Char} (h : path.head? = some slash) :
    relative path = names path := by
  rw [relative, if_pos h, components, if_pos h, List.tail_cons]

/-- Without a dot at its start a path is its names. -/
theorem relative_eq_names {path : List Char} (h : ['.'] ∉ relative path) :
    relative path = names path := by
  by_cases hhead : path.head? = some slash
  · exact relative_of_head hhead
  · rw [relative, if_neg hhead, components, if_neg hhead] at h ⊢
    split
    · next hdot =>
      rw [if_pos hdot] at h
      exact absurd List.mem_cons_self h
    · rfl

section Entry

variable {reqPath : String} {entry : DirEntry} {name : FileName}

theorem names_hrefOf (hend : reqPath.toList.getLast? = some slash)
    (hname : entry.fileName.toList = name.text) :
    names (hrefOf reqPath entry) = names reqPath.toList ++ [entry.fileName.toList] := by
  obtain ⟨inner, hinner⟩ := List.getLast?_eq_some_iff.mp hend
  have hentry : names (hrefOf reqPath entry) = names (inner ++ slash :: name.text) := by
    have hshape : inner ++ [slash] ++ name.text = inner ++ slash :: name.text := by simp
    rw [hrefOf, hinner, hname, hshape]
    split
    · exact names_concat _
    · rw [List.append_nil]
  rw [hentry, names_append, names_text, hinner, names_concat, hname]

theorem head_hrefOf (hstart : reqPath.toList.head? = some slash) :
    (hrefOf reqPath entry).head? = some slash := by
  rw [hrefOf, List.append_assoc, List.head?_append, hstart]
  rfl

/-- A link leads back to its entry exactly if nothing on the way changes it. -/
theorem leads_iff {libs : Libraries} (hdecodes : Decodes libs) (refs : References)
    (hstart : reqPath.toList.head? = some slash) (hend : reqPath.toList.getLast? = some slash)
    (hname : entry.fileName.toList = name.text) :
    Leads libs refs reqPath entry ↔ Unchanging refs (hrefOf reqPath entry) := by
  have hnames := names_hrefOf hend hname
  constructor
  · rintro ⟨decoded, hdecoded, hrelative⟩
    rw [relative_of_head hstart, ← hnames] at hrelative
    have hbytes := (hdecodes _ _).mp hdecoded
    rw [bytesOf, bytesOf, toList_toUTF8, toList_toUTF8, String.toList_ofList] at hbytes
    refine unchanging_of_names refs hbytes ?_
    rw [← relative_eq_names (hrelative ▸ dot_not_mem_names _), hrelative]
  · rintro ⟨hreferences, hfragment, hquery, hpercent⟩
    refine ⟨String.ofList (hrefOf reqPath entry), ?_, ?_⟩
    · have hwhole : requested (hrefOf reqPath entry) = hrefOf reqPath entry := by
        rw [requested, List.takeWhile_eq_self_iff]
        intro c hmem
        rw [Bool.and_eq_true, bne_iff_ne, bne_iff_ne]
        exact ⟨fun heq => hfragment (heq ▸ hmem), fun heq => hquery (heq ▸ hmem)⟩
      rw [hreferences, hwhole, hdecodes, bytesOf, toList_toUTF8, String.toList_ofList,
        PercentCoding.decode_of_not_encoded hpercent]
    · rw [String.toList_ofList, relative_of_head (head_hrefOf hstart), hnames,
        relative_of_head hstart]

end Entry

/-! ## Lines -/

def openTag (name : String) (attributes : List Attribute) : Markup :=
  .tag ⟨false, name.toList, attributes⟩

def closeTag (name : String) : Markup := .tag ⟨true, name.toList, []⟩

/-- A line of a listing: a link behind an icon, and what follows the link. -/
structure Line where
  icon : List Char
  href : List Char
  label : List Char
  tail : List Char

def Line.text (line : Line) : List Char :=
  "<li><span class=icon>".toList ++ line.icon ++ "</span><a href=\"".toList ++ line.href ++
    "\">".toList ++ line.label ++ "</a>".toList ++ line.tail

/-- The listing's own markup of the line. -/
def Line.markup (line : Line) : List Markup :=
  [openTag "li" [], openTag "span" [("class".toList, "icon".toList)], closeTag "span"] ++
    openTag "a" [("href".toList, line.href)] :: closeTag "a" :: markups .text line.tail

/-- What the listing itself puts into a line is sound. -/
structure Line.Own (line : Line) : Prop where
  icon : '<' ∉ line.icon
  tail : after .text line.tail = .text
  label : ∀ front back, line.label = front ++ '<' :: '/' :: back → back = []

/-- What is put into the line from outside adds no markup. -/
def Line.Safe (line : Line) : Prop := '"' ∉ line.href ∧ hasMarkup line.label = false

/-- The mode in which the value of a link is read. -/
def inHref (value : List Char) : Mode :=
  .value ⟨false, "a".toList, []⟩ "href".toList (some '"') value

theorem read_icon_start :
    markups .text "<li><span class=icon>".toList =
        [openTag "li" [], openTag "span" [("class".toList, "icon".toList)]] ∧
      after .text "<li><span class=icon>".toList = .text :=
  ⟨rfl, rfl⟩

theorem read_link_start :
    markups .text "</span><a href=\"".toList = [closeTag "span"] ∧
      after .text "</span><a href=\"".toList = inHref [] :=
  ⟨rfl, rfl⟩

/-- Up to the value of the link a line reads as it is meant. -/
theorem read_line_start {line : Line} (hown : line.Own) (rest : List Char) :
    markups .text (line.text ++ rest) =
      [openTag "li" [], openTag "span" [("class".toList, "icon".toList)], closeTag "span"] ++
        markups (inHref []) (line.href ++ '"' :: '>' :: (line.label ++ ("</a>".toList ++
          (line.tail ++ rest)))) := by
  have hend : "\">".toList = ['"', '>'] := rfl
  obtain ⟨hicon, hafter⟩ := markups_text hown.icon
  unfold Line.text
  simp only [hend, List.append_assoc]
  rw [markups_append, read_icon_start.1, read_icon_start.2, markups_append, hicon, hafter,
    markups_append, read_link_start.1, read_link_start.2]
  simp only [List.nil_append, List.cons_append]

/-- A value without a quote in it ends where it is meant to. -/
theorem read_href {href : List Char} (h : '"' ∉ href) (rest : List Char) :
    markups (inHref []) (href ++ '"' :: '>' :: rest) =
      openTag "a" [("href".toList, href)] :: markups .text rest := by
  obtain ⟨hread, hafter⟩ := markups_value h ⟨false, "a".toList, []⟩ "href".toList []
  have hvalue : inHref [] = .value ⟨false, "a".toList, []⟩ "href".toList (some '"') [] := rfl
  rw [hvalue, markups_append, hread, hafter]
  rfl

/-- A quote in a value ends it early, and the tag keeps the short value. -/
theorem read_href_quote {href : List Char} (h : '"' ∈ href) (rest : List Char)
    (expected : List Markup) :
    markups (inHref []) (href ++ rest) ≠ openTag "a" [("href".toList, href)] :: expected := by
  obtain ⟨front, back, rfl, hfront⟩ := List.eq_append_cons_of_mem h
  obtain ⟨hread, hafter⟩ := markups_value hfront ⟨false, "a".toList, []⟩ "href".toList []
  have hvalue : inHref [] = .value ⟨false, "a".toList, []⟩ "href".toList (some '"') [] := rfl
  have hshape : front ++ '"' :: back ++ rest = front ++ '"' :: (back ++ rest) := by simp
  have hcarries : Carries (fun tag => tag.attributes.head? = some ("href".toList, front))
      (.valueEnd (Tag.add ⟨false, "a".toList, []⟩ "href".toList front)) := rfl
  have hadd : ∀ (tag : Tag) (name value : List Char),
      tag.attributes.head? = some ("href".toList, front) →
      (tag.add name value).attributes.head? = some ("href".toList, front) := by
    intro tag name value htag
    rw [Tag.add, List.head?_append, htag]
    rfl
  intro hsame
  rw [hshape, hvalue, markups_append, hread, hafter, List.nil_append, List.nil_append] at hsame
  change markups (.valueEnd (Tag.add ⟨false, "a".toList, []⟩ "href".toList front))
    (back ++ rest) = _ at hsame
  have hhead := carries_markups hadd hcarries (back ++ rest)
  rw [hsame] at hhead
  have hshort : some ("href".toList, front ++ '"' :: back) = some ("href".toList, front) :=
    hhead _ rfl
  have hlength := congrArg List.length (Prod.mk.inj (Option.some.inj hshort)).2
  simp at hlength

/-- A label without markup is followed by the end of the link. -/
theorem read_label {label : List Char} (h : hasMarkup label = false) (rest : List Char) :
    markups .text (label ++ ("</a>".toList ++ rest)) = closeTag "a" :: markups .text rest := by
  obtain ⟨hread, hafter⟩ := markups_of_hasMarkup.1 h
  have htext : markups .text "</a>".toList = [closeTag "a"] ∧ after .text "</a>".toList = .text :=
    ⟨rfl, rfl⟩
  have hopened : markups .opened "</a>".toList = [closeTag "a"] ∧
      after .opened "</a>".toList = .text := ⟨rfl, rfl⟩
  rw [markups_append, hread, List.nil_append, markups_append]
  rcases hafter with hmode | hmode
  · rw [hmode, htext.1, htext.2]
    rfl
  · rw [hmode, hopened.1, hopened.2]
    rfl

theorem read_label_markup {label : List Char} (h : hasMarkup label = true)
    (hslash : ∀ front back, label = front ++ '<' :: '/' :: back → back = []) (rest : List Char)
    (expected : List Markup) :
    markups .text (label ++ ("</a>".toList ++ rest)) ≠ closeTag "a" :: expected := by
  intro hsame
  have hend : "</a>".toList = '<' :: "/a>".toList := rfl
  rw [hend, List.cons_append] at hsame
  have hhead := head_of_hasMarkup h hslash '<' (by decide) ("/a>".toList ++ rest)
  rw [hsame] at hhead
  cases hhead _ rfl

/-- A line reads as it is meant exactly if what is put into it adds no markup. -/
theorem read_line_iff {line : Line} (hown : line.Own) (rest : List Char) (expected : List Markup) :
    markups .text (line.text ++ rest) = line.markup ++ expected ↔
      line.Safe ∧ markups .text rest = expected := by
  unfold Line.markup Line.Safe
  rw [read_line_start hown, List.append_assoc, List.append_cancel_left_eq]
  by_cases hquote : '"' ∈ line.href
  · exact iff_of_false (read_href_quote hquote _ _) fun h => h.1.1 hquote
  rw [read_href hquote, List.cons_append, List.cons_append, List.cons_inj_right]
  cases hmarkup : hasMarkup line.label with
  | true => exact iff_of_false (read_label_markup hmarkup hown.label _ _) fun h => by cases h.1.2
  | false =>
      rw [read_label hmarkup, List.cons_inj_right, markups_append, hown.tail,
        List.append_cancel_left_eq]
      exact (and_iff_right ⟨hquote, rfl⟩).symm

theorem read_lines_iff {lines : List Line} (hown : ∀ line ∈ lines, line.Own) (rest : List Char)
    (expected : List Markup) :
    markups .text (lines.flatMap Line.text ++ rest) = lines.flatMap Line.markup ++ expected ↔
      (∀ line ∈ lines, line.Safe) ∧ markups .text rest = expected := by
  induction lines with
  | nil => simp
  | cons line lines ih =>
      rw [List.flatMap_cons, List.flatMap_cons, List.append_assoc, List.append_assoc,
        read_line_iff (hown line List.mem_cons_self),
        ih fun other hmem => hown other (List.mem_cons_of_mem _ hmem), List.forall_mem_cons,
        and_assoc]

/-! ## Listings -/

variable (texts : Texts) (reqPath : String)

/-- The name of an entry as it is shown. -/
def labelOf (entry : DirEntry) : List Char :=
  entry.fileName.toList ++ if entry.isDir then [slash] else []

def DirEntry.size (entry : DirEntry) : Nat :=
  match entry.metadata with
  | .ok (_, size) => size
  | .error _ => 0

def folder : String := "📁"

def iconOf (entry : DirEntry) : String :=
  if entry.isDir then folder
  else icon (String.ofList (entry.fileName.toList.reverse.takeWhile (· ≠ '.')).reverse)

def tailOf (entry : DirEntry) : String :=
  if entry.isDir then "</li>"
  else "<span class=size>(" ++ texts.fmtSize entry.size ++ ")</span></li>"

def lineOf (entry : DirEntry) : Line where
  icon := (iconOf entry).toList
  href := hrefOf reqPath entry
  label := labelOf entry
  tail := (tailOf texts entry).toList

/-- The link to the directory above. -/
def upLines : List Line :=
  if reqPath ≠ "/" then
    [⟨folder.toList, parent reqPath.toList, ".. (parent)".toList, "</li>".toList⟩]
  else []

theorem directory_line_start :
    "<li><span class=icon>📁</span><a href=\"".toList =
      "<li><span class=icon>".toList ++ folder.toList ++ "</span><a href=\"".toList :=
  rfl

theorem listingLine_toList {entry : DirEntry} {line : String}
    (h : listingLine texts reqPath entry = .ok line) :
    line.toList = (lineOf texts reqPath entry).text := by
  obtain ⟨fileName, metadata⟩ := entry
  cases metadata with
  | error e => cases h
  | ok found =>
      obtain ⟨isDir, size⟩ := found
      unfold Line.text
      cases isDir with
      | true =>
          have hhref : "/\">".toList = slash :: "\">".toList := rfl
          have hlabel : "/</a></li>".toList = slash :: ("</a>".toList ++ "</li>".toList) :=
            rfl
          cases h
          simp only [String.toList_append, directory_line_start, hhref, hlabel, lineOf, iconOf,
            hrefOf, labelOf, tailOf, DirEntry.isDir, if_pos, List.append_assoc, List.cons_append,
            List.nil_append]
      | false =>
          have hend : "</a><span class=size>(".toList =
              "</a>".toList ++ "<span class=size>(".toList := rfl
          cases h
          simp only [String.toList_append, hend, lineOf, iconOf, hrefOf, labelOf, tailOf,
            DirEntry.isDir, DirEntry.size, Bool.false_eq_true, if_false, List.append_assoc,
            List.append_nil]

theorem icon_toList (ext : String) : '<' ∉ (icon ext).toList := by
  have hicons : ∀ pair ∈ icons, '<' ∉ pair.2.toList := by decide
  rw [icon]
  cases hfound : icons.lookup ext with
  | none => decide
  | some value =>
      obtain ⟨before, later, hpair, -⟩ := List.lookup_eq_some_iff.mp hfound
      exact hicons (ext, value) (hpair ▸ List.mem_append_right _ List.mem_cons_self)

theorem iconOf_toList (entry : DirEntry) : '<' ∉ (iconOf entry).toList := by
  rw [iconOf]
  split
  · decide
  · exact icon_toList _

theorem after_tailOf (hsize : ∀ size, '<' ∉ (texts.fmtSize size).toList) (entry : DirEntry) :
    after .text (tailOf texts entry).toList = .text := by
  have hopen : after .text "<span class=size>(".toList = .text := rfl
  have hclose : after .text ")</span></li>".toList = .text := rfl
  rw [tailOf]
  split
  · decide
  · rw [String.toList_append, String.toList_append, after_append, after_append, hopen,
      (markups_text (hsize _)).2, hclose]

/-- The only slash of what is shown for an entry is at its end. -/
theorem labelOf_slash {entry : DirEntry} {name : FileName}
    (hname : entry.fileName.toList = name.text) (front back : List Char)
    (hlabel : labelOf entry = front ++ '<' :: '/' :: back) : back = [] := by
  rw [labelOf, hname] at hlabel
  rcases List.eq_nil_or_concat back with hempty | ⟨inner, last, rfl⟩
  · exact hempty
  refine absurd ?_ name.no_slash
  split at hlabel
  · have hshape : front ++ '<' :: '/' :: inner.concat last =
        (front ++ '<' :: '/' :: inner) ++ [last] := by simp
    rw [hshape] at hlabel
    rw [List.append_inj_left' hlabel rfl]
    exact List.mem_append_right _ (List.mem_cons_of_mem _ List.mem_cons_self)
  · rw [List.append_nil] at hlabel
    rw [hlabel]
    exact List.mem_append_right _ (List.mem_cons_of_mem _ List.mem_cons_self)

theorem own_lineOf (hsize : ∀ size, '<' ∉ (texts.fmtSize size).toList) {entry : DirEntry}
    {name : FileName} (hname : entry.fileName.toList = name.text) :
    (lineOf texts reqPath entry).Own where
  icon := iconOf_toList entry
  tail := after_tailOf texts hsize entry
  label := labelOf_slash hname

theorem own_upLines : ∀ line ∈ upLines reqPath, line.Own := by
  intro line hmem
  rw [upLines] at hmem
  split at hmem
  · rw [List.mem_singleton] at hmem
    have hicon : '<' ∉ folder.toList := by decide
    have htail : after .text "</li>".toList = .text := rfl
    have hlabel : '<' ∉ ".. (parent)".toList := by decide
    subst hmem
    refine ⟨hicon, htail, fun front back hshape => ?_⟩
    change ".. (parent)".toList = _ at hshape
    rw [hshape] at hlabel
    exact absurd (List.mem_append_right _ List.mem_cons_self) hlabel
  · cases hmem

theorem safe_upLines : (∀ line ∈ upLines reqPath, line.Safe) ↔
    (reqPath ≠ "/" → '"' ∉ parent reqPath.toList) := by
  have hlabel : hasMarkup ".. (parent)".toList = false := rfl
  rw [upLines]
  split
  · next hroot =>
    rw [List.forall_mem_singleton]
    exact ⟨fun hsafe _ => hsafe.1, fun hquote => ⟨hquote hroot, hlabel⟩⟩
  · next hroot => exact iff_of_true (List.forall_mem_nil _) fun h => absurd h hroot

theorem upLines_text :
    (if reqPath ≠ "/" then
        "<li><span class=icon>📁</span><a href=\"" ++ String.ofList (parent reqPath.toList) ++
          "\">.. (parent)</a></li>"
      else "").toList = (upLines reqPath).flatMap Line.text := by
  have hend : "\">.. (parent)</a></li>".toList =
      "\">".toList ++ ".. (parent)".toList ++ "</a>".toList ++ "</li>".toList := rfl
  rw [upLines]
  split
  · rw [List.flatMap_singleton]
    unfold Line.text
    simp only [String.toList_append, String.toList_ofList, directory_line_start, hend,
      List.append_assoc]
  · rfl

theorem listingLines_toList {entries : List DirEntry} {lines : List String}
    (h : entries.mapM (listingLine texts reqPath) = .ok lines) :
    lines.flatMap String.toList = (entries.map (lineOf texts reqPath)).flatMap Line.text := by
  induction entries generalizing lines with
  | nil =>
      cases h
      rfl
  | cons entry entries ih =>
      rw [List.mapM_cons] at h
      obtain ⟨line, hline, h⟩ := bind_eq_ok.mp h
      obtain ⟨others, hothers, h⟩ := bind_eq_ok.mp h
      cases h
      rw [List.flatMap_cons, List.map_cons, List.flatMap_cons, ih hothers,
        listingLine_toList texts reqPath hline]

theorem buildDirListing_toList {entries : List DirEntry} {html : String}
    (h : buildDirListing texts (.ok entries) reqPath = .ok html) :
    html.toList = texts.listingHead.toList ++ ((upLines reqPath ++
      (entries.mergeSort (DirEntry.le texts)).map (lineOf texts reqPath)).flatMap Line.text ++
        "</ul>".toList) := by
  unfold buildDirListing at h
  cases hlines : (entries.mergeSort (DirEntry.le texts)).mapM (listingLine texts reqPath) with
  | error e =>
      simp only [Except.mapError, bind, Except.bind, hlines] at h
      cases h
  | ok lines =>
      simp only [Except.mapError, bind, Except.bind, hlines] at h
      cases h
      rw [String.toList_append, String.toList_append, String.toList_append, String.toList_join,
        listingLines_toList texts reqPath hlines, upLines_text, List.flatMap_append]
      simp only [List.append_assoc]

/-- Where the metadata of every entry can be read, there is a listing. -/
theorem exists_listing {entries : List DirEntry}
    (h : ∀ entry ∈ entries, ∃ found, entry.metadata = .ok found) :
    ∃ html, buildDirListing texts (.ok entries) reqPath = .ok html := by
  have hlines : ∀ sorted : List DirEntry, (∀ entry ∈ sorted, entry ∈ entries) →
      ∃ lines, sorted.mapM (listingLine texts reqPath) = .ok lines := by
    intro sorted hsorted
    induction sorted with
    | nil => exact ⟨[], rfl⟩
    | cons entry sorted ih =>
        rw [List.forall_mem_cons] at hsorted
        obtain ⟨⟨isDir, size⟩, hfound⟩ := h entry hsorted.1
        obtain ⟨lines, hrest⟩ := ih hsorted.2
        have hline : ∃ line, listingLine texts reqPath entry = .ok line := by
          rw [listingLine, hfound]
          cases isDir <;> exact ⟨_, rfl⟩
        obtain ⟨line, hline⟩ := hline
        refine ⟨line :: lines, ?_⟩
        rw [List.mapM_cons, hline, hrest]
        rfl
  obtain ⟨lines, hlines⟩ := hlines (entries.mergeSort (DirEntry.le texts)) fun entry hmem =>
    List.mem_mergeSort.mp hmem
  unfold buildDirListing
  simp only [Except.mapError, bind, Except.bind, hlines]
  exact ⟨_, rfl⟩

/-- The lines of the head of every listing; the long ones are broken. -/
def pageLines : List String :=
  ["<!doctype html><meta charset=utf-8><title>Directory listing</title>\n",
    "<style>\n",
    "body\x7bfont-family:Arial,system-ui;margin:0;padding:2rem;background:#161a29;",
    "color:#fff\x7d\n",
    "a\x7bcolor:#1e90ff;text-decoration:none\x7d\n",
    "a:hover\x7btext-decoration:underline\x7d\n",
    "ul\x7blist-style:none;padding:0;max-width:900px;margin:auto;",
    "border:4px solid transparent;\n",
    "background-image:linear-gradient(45deg,#ff0000,#ff7f00,#ffff00,#00ff00,#0000ff,",
    "#4b0082,#8f00ff,#ff0000);\n",
    "background-size:200% 200%;animation:rb 10s alternate-reverse infinite;",
    "border-radius:8px\x7d\n",
    "li\x7bdisplay:flex;padding:.6rem 1rem;border-bottom:1px solid #333;",
    "background:#1e2336\x7d\n",
    "li:nth-child(even)\x7bbackground:#0e1623\x7d.icon\x7bmargin-right:.6rem\x7d",
    ".size\x7bmargin-left:auto;color:#888\x7d\n",
    "@keyframes rb\x7b0%\x7bbackground-position:0 50%\x7d",
    "100%\x7bbackground-position:100% 50%\x7d\x7d\n",
    "</style><ul>"]

def pageHead : String := String.join pageLines

theorem read_pageLines : ∀ line ∈ pageLines, after .text line.toList = .text := by
  decide +kernel

theorem read_pageHead : after .text pageHead.toList = .text := by
  have hjoin : pageHead.toList = pageLines.flatMap String.toList := String.toList_join
  exact hjoin ▸ after_flatMap pageLines read_pageLines

/-- What markup the listing itself has. -/
def ownMarkup (entries : List DirEntry) : List Markup :=
  markups .text pageHead.toList ++ ((upLines reqPath ++
    (entries.mergeSort (DirEntry.le texts)).map (lineOf texts reqPath)).flatMap Line.markup ++
      [closeTag "ul"])

theorem read_listing_iff (hhead : texts.listingHead = pageHead)
    (hsize : ∀ size, '<' ∉ (texts.fmtSize size).toList) {entries : List DirEntry}
    (hnames : ∀ entry ∈ entries, ∃ name : FileName, entry.fileName.toList = name.text)
    {html : String} (h : buildDirListing texts (.ok entries) reqPath = .ok html) :
    markups .text html.toList = ownMarkup texts reqPath entries ↔
      (reqPath ≠ "/" → '"' ∉ parent reqPath.toList) ∧
        ∀ entry ∈ entries, (lineOf texts reqPath entry).Safe := by
  have hend : markups .text "</ul>".toList = [closeTag "ul"] := rfl
  have hown : ∀ line ∈ upLines reqPath ++
      (entries.mergeSort (DirEntry.le texts)).map (lineOf texts reqPath), line.Own := by
    rw [List.forall_mem_append, List.forall_mem_map]
    refine ⟨own_upLines reqPath, fun entry hmem => ?_⟩
    obtain ⟨name, hname⟩ := hnames entry (List.mem_mergeSort.mp hmem)
    exact own_lineOf texts reqPath hsize hname
  rw [buildDirListing_toList texts reqPath h, ownMarkup, hhead, markups_append, read_pageHead,
    List.append_cancel_left_eq, read_lines_iff hown, and_iff_left hend, List.forall_mem_append,
    safe_upLines, List.forall_mem_map]
  simp only [List.mem_mergeSort]

/-- The links of a listing lead back to its entries, and it has no markup but its own, exactly if
no name and no path in it has a quote, starts markup, or is changed on the way of a link. -/
theorem listing_sound_iff {libs : Libraries} (hdecodes : Decodes libs) (refs : References)
    (hhead : libs.listingHead = pageHead) (hsize : ∀ size, '<' ∉ (libs.fmtSize size).toList)
    {entries : List DirEntry} {reqPath html : String}
    (hstart : reqPath.toList.head? = some slash) (hend : reqPath.toList.getLast? = some slash)
    (hnames : ∀ entry ∈ entries, ∃ name : FileName, entry.fileName.toList = name.text)
    (hlisting : buildDirListing libs.toTexts (.ok entries) reqPath = .ok html) :
    (markups .text html.toList = ownMarkup libs.toTexts reqPath entries ∧
        ∀ entry ∈ entries, Leads libs refs reqPath entry) ↔
      (reqPath ≠ "/" → '"' ∉ parent reqPath.toList) ∧
        ∀ entry ∈ entries, '"' ∉ hrefOf reqPath entry ∧ hasMarkup (labelOf entry) = false ∧
          Unchanging refs (hrefOf reqPath entry) := by
  have hleads : (∀ entry ∈ entries, Leads libs refs reqPath entry) ↔
      ∀ entry ∈ entries, Unchanging refs (hrefOf reqPath entry) := by
    refine forall₂_congr fun entry hmem => ?_
    obtain ⟨name, hname⟩ := hnames entry hmem
    exact leads_iff hdecodes refs hstart hend hname
  rw [read_listing_iff libs.toTexts reqPath hhead hsize hnames hlisting, hleads, and_assoc,
    ← forall₂_and]
  refine and_congr_right' (forall₂_congr fun entry _ => ?_)
  rw [← and_assoc]
  rfl

/-- No character references, and no line ends to change. -/
def plainReferences : References where
  resolve value := value
  plain _ _ _ _ := rfl
  split _ _ := rfl
  length_le _ := Nat.le_refl _

def listingLibraries : Libraries := { urlLibraries with listingHead := pageHead }

theorem decodes_listingLibraries : Decodes listingLibraries := by
  intro raw text
  change urlDecode raw = .ok text ↔ _
  constructor
  · intro h
    rw [urlDecode] at h
    split at h
    · next decoded hdecoded =>
      cases h
      rw [String.fromUTF8?] at hdecoded
      split at hdecoded <;> cases hdecoded
      rfl
    · cases h
  · intro h
    rw [urlDecode, ← h, bytesOf, Str.fromUTF8_toUTF8]

def fileEntry (name : String) : DirEntry := ⟨name, .ok (false, 0)⟩

theorem exists_fileListing (name : String) :
    ∃ html, buildDirListing listingLibraries.toTexts (.ok [fileEntry name]) "/docs/" = .ok html :=
  exists_listing _ _ fun entry hmem => by
    rw [List.mem_singleton.mp hmem]
    exact ⟨_, rfl⟩

theorem listing_sound_iff_docs :
    ∃ html, buildDirListing listingLibraries.toTexts (.ok [fileEntry "a.txt"]) "/docs/" = .ok html ∧
      ((markups .text html.toList =
            ownMarkup listingLibraries.toTexts "/docs/" [fileEntry "a.txt"] ∧
          ∀ entry ∈ [fileEntry "a.txt"],
            Leads listingLibraries plainReferences "/docs/" entry) ↔
        ("/docs/" ≠ "/" → '"' ∉ parent "/docs/".toList) ∧
          ∀ entry ∈ [fileEntry "a.txt"], '"' ∉ hrefOf "/docs/" entry ∧
            hasMarkup (labelOf entry) = false ∧
              Unchanging plainReferences (hrefOf "/docs/" entry)) := by
  obtain ⟨html, hlisting⟩ := exists_fileListing "a.txt"
  refine ⟨html, hlisting, listing_sound_iff decodes_listingLibraries plainReferences rfl ?_ rfl rfl
    ?_ hlisting⟩
  · intro size
    change '<' ∉ "0 B".toList
    decide
  · rw [List.forall_mem_singleton]
    exact ⟨⟨"a.txt".toList, by decide, by decide, by decide⟩, rfl⟩

/-- A number sign in a name cuts the link to it, and a name may be a tag. -/
theorem hash_and_tag_in_names :
    ¬ Leads listingLibraries plainReferences "/docs/" (fileEntry "a#b") ∧
      ∀ html, buildDirListing listingLibraries.toTexts (.ok [fileEntry "<b>"]) "/docs/" = .ok html →
        markups .text html.toList ≠
          ownMarkup listingLibraries.toTexts "/docs/" [fileEntry "<b>"] := by
  have hsize : ∀ size, '<' ∉ (listingLibraries.fmtSize size).toList := by
    intro size
    change '<' ∉ "0 B".toList
    decide
  have hname : (fileEntry "a#b").fileName.toList =
      (⟨"a#b".toList, by decide, by decide, by decide⟩ : FileName).text := rfl
  constructor
  · rw [leads_iff decodes_listingLibraries plainReferences rfl rfl hname]
    exact fun h => h.fragment (by decide)
  · intro html hlisting hsame
    rw [read_listing_iff listingLibraries.toTexts "/docs/" rfl hsize ?_ hlisting,
      List.forall_mem_singleton] at hsame
    · exact absurd hsame.2.2 (by decide)
    · rw [List.forall_mem_singleton]
      exact ⟨⟨"<b>".toList, by decide, by decide, by decide⟩, rfl⟩

end OddBox.DirectoryServer

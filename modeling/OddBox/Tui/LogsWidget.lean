import OddBox.Tui.Wrapping

/-!
The lines that `draw` of the log widget makes of a message. Its text has the width that the
other columns leave: with a long thread name none, and then the widget does not come back.
-/

namespace OddBox.Tui

open OddBox.Str OddBox.TextLayout
open OddBox.Api (isWhitespace)

/-! ## Columns -/

/-- `tracing::Level`. -/
inductive Level where
  | error
  | warn
  | info
  | debug
  | trace
  deriving DecidableEq, Repr

structure LogMsg where
  msg : List Char
  lvl : Level
  thread : Option (List Char)

def nrStr (index itemCountLen : Nat) : List Char :=
  (Nat.toDigits 10 (index + 1)).leftpad itemCountLen ' ' ++ " | ".toList

def systemMessage (x : LogMsg) : Bool := "odd_box".toList.isPrefixOf (x.thread.getD [])

def levelText (systemMessage : Bool) : Level → String
  | .info => if systemMessage then "INF 🧊" else "INF 🥝"
  | .trace => if systemMessage then "TRC 🧊" else "TRC 🥸"
  | .debug => if systemMessage then "DBG 🧊" else "DBG 👀"
  | .error => if systemMessage then "ERR 🧊" else "ERR 👺"
  | .warn => if systemMessage then "WRN 🧊" else "WRN 🥦"

def lvlStr (x : LogMsg) : List Char :=
  (levelText (systemMessage x) x.lvl).toList.leftpad 5 ' ' ++ [' ']

def threadStr (maxSiteLen : Nat) (x : LogMsg) : List Char :=
  match x.thread with
  | some name => name ++ List.replicate (maxSiteLen - byteLen name) ' ' ++ "  ".toList
  | none => " -".toList

/-- What the columns leave of the width of the area. -/
def maxWidth (areaWidth : Nat) (columns : List (List Char)) : Nat :=
  areaWidth - 4 - (columns.map byteLen).sum

/-! ## The message -/

def charIndices : Nat → List Char → List (Nat × Char)
  | _, [] => []
  | index, c :: s => (index, c) :: charIndices (index + c.utf8Size) s

def trimToMaxChars (s : List Char) (maxChars : Nat) : Except Halt (List Char) :=
  let stop := ((charIndices 0 s).take maxChars).foldl (fun _ entry => entry.1) (byteLen s)
  if s.length > maxChars then do
    let front ← slice s 0 stop
    .ok (front ++ "..".toList)
  else .ok s

def trim (text : List Char) : List Char := (text.dropWhile isWhitespace).rdropWhile isWhitespace

/-- The index that the loop ends with is that of the last character that is left. -/
theorem foldl_charIndices (s : List Char) (index start count : Nat) (h : count < s.length) :
    ((charIndices start s).take (count + 1)).foldl (fun _ entry => entry.1) index =
      start + byteLen (s.take count) := by
  induction s generalizing index start count with
  | nil => exact absurd h (Nat.not_lt_zero _)
  | cons c s ih =>
      rw [charIndices, List.take_succ_cons, List.foldl_cons]
      cases count with
      | zero => rfl
      | succ count =>
          rw [ih _ _ count (Nat.lt_of_succ_lt_succ h), List.take_succ_cons, byteLen_eq_total,
            byteLen_eq_total, total_cons, Nat.add_assoc]

/-- A long text loses its end from the last of the allowed characters on. -/
theorem trimToMaxChars_eq (s : List Char) (count : Nat) :
    trimToMaxChars s (count + 1) =
      .ok (if s.length > count + 1 then s.take count ++ "..".toList else s) := by
  unfold trimToMaxChars
  dsimp only
  split_ifs with hlong
  · have hfront := slice_append [] (s.take count) (s.drop count)
    rw [List.nil_append, List.take_append_drop] at hfront
    rw [foldl_charIndices s _ 0 count (by omega), Nat.zero_add]
    change (slice s (byteLen []) _ >>= _) = _
    rw [hfront]
    rfl
  · rfl

/-! ## Lines -/

def subtract (a b : Nat) : Except Halt Nat := if b ≤ a then .ok (a - b) else .error .overflow

/-- `" ".repeat(a - b)`. -/
def blanks (a b : Nat) : Except Halt (List Char) := do
  let count ← subtract a b
  .ok (List.replicate count ' ')

/-- The spans of a line: the first has the level and the thread, the others are indented. -/
def spans (nrStr lvlStr threadStr : List Char) (maxWidth : Nat) (line : List Char × Nat) :
    Except Halt (List (List Char)) := do
  let padding ← blanks maxWidth (byteLen line.1)
  let text := line.1 ++ padding
  if line.2 = 0 then .ok [nrStr, lvlStr, threadStr, text]
  else do
    let _ ← blanks (byteLen lvlStr) 1
    let indent ← blanks (byteLen lvlStr + byteLen threadStr) 2
    .ok [nrStr, indent, [], [], text]

/-- The lines of the message of that index. -/
def logLines (rounds areaWidth maxSiteLen itemCountLen index : Nat) (x : LogMsg) :
    Except Halt (List (List (List Char))) := do
  let nr := nrStr index itemCountLen
  let lvl := lvlStr x
  let thread := threadStr maxSiteLen x
  let msg ← trimToMaxChars (trim x.msg) 2000
  let width := maxWidth areaWidth [nr, lvl, thread]
  let wrapped ← wrapString rounds msg width
  wrapped.zipIdx.mapM (spans nr lvl thread width)

theorem blanks_ok {a b : Nat} (h : b ≤ a) : blanks a b = .ok (List.replicate (a - b) ' ') := by
  rw [blanks, subtract, if_pos h]
  rfl

theorem byteLen_lvlStr (x : LogMsg) : byteLen (lvlStr x) = 9 := by
  rw [lvlStr]
  cases systemMessage x <;> cases x.lvl <;> rfl

theorem two_le_threadStr (maxSiteLen : Nat) (x : LogMsg) :
    2 ≤ byteLen (threadStr maxSiteLen x) := by
  rw [threadStr]
  cases x.thread with
  | none => exact le_rfl
  | some name =>
      have htail : byteLen "  ".toList = 2 := rfl
      dsimp only
      rw [byteLen_append, htail]
      exact Nat.le_add_left _ _

theorem byteLen_blanks (count : Nat) : byteLen (List.replicate count ' ') = count := by
  rw [byteLen, List.map_replicate, List.sum_replicate]
  exact Nat.mul_one count

/-- A line that is not too long is filled up to the width. -/
theorem spans_ok (nr : List Char) {lvl thread : List Char} {width : Nat}
    (hlvl : 1 ≤ byteLen lvl) (hthread : 2 ≤ byteLen thread) {line : List Char × Nat}
    (h : byteLen line.1 ≤ width) :
    ∃ row text, spans nr lvl thread width line = .ok row ∧ row.getLast? = some text ∧
      byteLen text = width := by
  have hfilled : byteLen (line.1 ++ List.replicate (width - byteLen line.1) ' ') = width := by
    rw [byteLen_append, byteLen_blanks]
    omega
  have hindent : 2 ≤ byteLen lvl + byteLen thread := by omega
  rw [spans, blanks_ok h, blanks_ok hlvl, blanks_ok hindent]
  by_cases hfirst : line.2 = 0
  · exact ⟨_, _, if_pos hfirst, rfl, hfilled⟩
  · exact ⟨_, _, if_neg hfirst, rfl, hfilled⟩

theorem mapM_spans {nr lvl thread : List Char} {width : Nat} (hlvl : 1 ≤ byteLen lvl)
    (hthread : 2 ≤ byteLen thread) {lines : List (List Char × Nat)}
    (h : ∀ line ∈ lines, byteLen line.1 ≤ width) :
    ∃ rows, lines.mapM (spans nr lvl thread width) = .ok rows ∧
      ∀ row ∈ rows, ∃ text, row.getLast? = some text ∧ byteLen text = width := by
  induction lines with
  | nil => exact ⟨[], rfl, fun _ hmem => absurd hmem List.not_mem_nil⟩
  | cons line lines ih =>
      obtain ⟨hline, hlines⟩ := List.forall_mem_cons.mp h
      obtain ⟨row, text, hrow, hlast, htext⟩ := spans_ok nr hlvl hthread hline
      obtain ⟨rows, hrows, hfilled⟩ := ih hlines
      refine ⟨row :: rows, ?_, List.forall_mem_cons.mpr ⟨⟨text, hlast, htext⟩, hfilled⟩⟩
      rw [List.mapM_cons, hrow, hrows]
      rfl

/-- The text that is wrapped. -/
def shownText (x : LogMsg) : List Char :=
  if (trim x.msg).length > 2000 then (trim x.msg).take 1999 ++ "..".toList else trim x.msg

/-- The width of the text of a message. -/
def textWidth (areaWidth maxSiteLen itemCountLen index : Nat) (x : LogMsg) : Nat :=
  maxWidth areaWidth [nrStr index itemCountLen, lvlStr x, threadStr maxSiteLen x]

section

variable (rounds areaWidth maxSiteLen itemCountLen index : Nat) (x : LogMsg)

/-- Where the text is wrapped, its lines are filled up to the width: no subtraction panics. -/
theorem logLines_cases :
    (∃ lines rows,
      wrapString rounds (shownText x) (textWidth areaWidth maxSiteLen itemCountLen index x) =
        .ok lines ∧
      logLines rounds areaWidth maxSiteLen itemCountLen index x = .ok rows ∧
      ∀ row ∈ rows, ∃ text, row.getLast? = some text ∧
        byteLen text = textWidth areaWidth maxSiteLen itemCountLen index x) ∨
    (wrapString rounds (shownText x) (textWidth areaWidth maxSiteLen itemCountLen index x) =
        .error .unfinished ∧
      logLines rounds areaWidth maxSiteLen itemCountLen index x = .error .unfinished) := by
  have hlines : logLines rounds areaWidth maxSiteLen itemCountLen index x =
      (wrapString rounds (shownText x) (textWidth areaWidth maxSiteLen itemCountLen index x)) >>=
        fun wrapped => wrapped.zipIdx.mapM (spans (nrStr index itemCountLen) (lvlStr x)
          (threadStr maxSiteLen x) (textWidth areaWidth maxSiteLen itemCountLen index x)) := by
    rw [logLines, trimToMaxChars_eq]
    rfl
  rw [hlines]
  rcases wrapString_cases rounds (shownText x)
    (textWidth areaWidth maxSiteLen itemCountLen index x) with
    ⟨lines, hrun, hbounded, -⟩ | ⟨-, hrun⟩
  · have hlvl : 1 ≤ byteLen (lvlStr x) := by
      rw [byteLen_lvlStr]
      decide
    have hlen : ∀ line ∈ lines.zipIdx, byteLen line.1 ≤
        textWidth areaWidth maxSiteLen itemCountLen index x := fun line hmem =>
      hbounded line.1 (List.fst_mem_of_mem_zipIdx hmem)
    obtain ⟨rows, hrows, hfilled⟩ := mapM_spans hlvl (two_le_threadStr maxSiteLen x) hlen
    rw [hrun]
    exact .inl ⟨lines, rows, rfl, hrows, hfilled⟩
  · rw [hrun]
    exact .inr ⟨rfl, rfl⟩

/-- A message is drawn exactly if no character of its words is wider than the text. -/
theorem logLines_returns_iff :
    (∃ rounds rows, logLines rounds areaWidth maxSiteLen itemCountLen index x = .ok rows) ↔
      ∀ c ∈ shownText x, isWhitespace c = false →
        c.utf8Size ≤ textWidth areaWidth maxSiteLen itemCountLen index x := by
  rw [← wrapString_returns_iff]
  apply exists_congr
  intro rounds
  rcases logLines_cases rounds areaWidth maxSiteLen itemCountLen index x with
    ⟨lines, rows, hwrap, hrows, -⟩ | ⟨hwrap, hrows⟩
  · exact iff_of_true ⟨rows, hrows⟩ ⟨lines, hwrap⟩
  · rw [hwrap, hrows]
    exact iff_of_false (fun ⟨_, h⟩ => nomatch h) fun ⟨_, h⟩ => nomatch h

/-- The columns of a thread with a long name leave nothing for the text. -/
theorem textWidth_eq_zero_iff :
    textWidth areaWidth maxSiteLen itemCountLen index x = 0 ↔
      areaWidth ≤ 13 + byteLen (nrStr index itemCountLen) + byteLen (threadStr maxSiteLen x) := by
  have hsum : ([nrStr index itemCountLen, lvlStr x, threadStr maxSiteLen x].map byteLen).sum =
      byteLen (nrStr index itemCountLen) + (9 + byteLen (threadStr maxSiteLen x)) := by
    simp only [List.map_cons, List.map_nil, List.sum_cons, List.sum_nil, byteLen_lvlStr,
      Nat.add_zero]
  rw [textWidth, maxWidth, hsum]
  omega

/-- Then the widget comes back only from a message without words. -/
theorem logLines_no_width (hwidth : textWidth areaWidth maxSiteLen itemCountLen index x = 0) :
    (∃ rounds rows, logLines rounds areaWidth maxSiteLen itemCountLen index x = .ok rows) ↔
      splitWhitespace (shownText x) = [] := by
  rw [logLines_returns_iff, hwidth]
  constructor
  · intro h
    by_contra hwords
    obtain ⟨word, hword⟩ := List.exists_mem_of_ne_nil _ hwords
    obtain ⟨c, hc⟩ := List.exists_mem_of_ne_nil _ (word_ne_nil hword)
    obtain ⟨hmem, hletter⟩ := mem_word_iff.mp ⟨word, hword, hc⟩
    have hnone := h c hmem hletter
    exact absurd c.utf8Size_pos hnone.not_gt
  · intro hnone c hc hletter
    obtain ⟨word, hword, -⟩ := mem_word_iff.mpr ⟨hc, hletter⟩
    rw [hnone] at hword
    exact absurd hword List.not_mem_nil

end

/-- A message of a thread whose name has sixty-four characters. -/
def longName : LogMsg where
  msg := ['a']
  lvl := .info
  thread := some (List.replicate 64 't')

/-- In an area of eighty columns there is no width for its text. -/
example : textWidth 80 0 6 0 longName = 0 := by decide +kernel

end OddBox.Tui

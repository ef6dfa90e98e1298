import OddBox.Api.Controllers
import OddBox.Checked
import OddBox.Str
import OddBox.TextLayout

/-!
`wrap_string` and `split_string_into_chunks`. The loop of the latter has a number of rounds that
it may take, and is not finished when they are used up.
-/

namespace OddBox.Tui

open OddBox.Str OddBox.TextLayout
open OddBox.Api (isWhitespace)

/-- Why there is no result. -/
inductive Halt where
  /-- The loop is still running. -/
  | unfinished
  /-- A slice panics. -/
  | notABoundary
  /-- A subtraction panics. -/
  | overflow
  deriving DecidableEq, Repr

/-! ## Chunks -/

def isCharBoundary (s : List Char) (index : Nat) : Bool := (takeBytes index s).isSome

/-- `while !s.is_char_boundary(end) { end -= 1; }`. -/
def previousBoundary (s : List Char) : Nat → Except Halt Nat
  | 0 => if isCharBoundary s 0 then .ok 0 else .error .overflow
  | index + 1 => if isCharBoundary s (index + 1) then .ok (index + 1) else previousBoundary s index

/-- `s[start..end]`. -/
def slice (s : List Char) (start stop : Nat) : Except Halt (List Char) :=
  match takeBytes start s, takeBytes stop s with
  | some before, some front =>
    if start ≤ stop then .ok (front.drop before.length) else .error .notABoundary
  | _, _ => .error .notABoundary

/-- Where the chunk from `start` on ends. -/
def chunkEnd (s : List Char) (start chunkSize : Nat) : Except Halt Nat :=
  if start + chunkSize > byteLen s then .ok (byteLen s)
  else previousBoundary s (start + chunkSize)

def chunkLoop (s : List Char) (chunkSize : Nat) :
    Nat → Nat → List (List Char) → Except Halt (List (List Char))
  | 0, _, _ => .error .unfinished
  | rounds + 1, start, chunks =>
    if start < byteLen s then do
      let stop ← chunkEnd s start chunkSize
      let chunk ← slice s start stop
      chunkLoop s chunkSize rounds stop (chunks ++ [chunk])
    else .ok chunks

def splitStringIntoChunks (rounds : Nat) (s : List Char) (chunkSize : Nat) :
    Except Halt (List (List Char)) :=
  chunkLoop s chunkSize rounds 0 []

/-! ## Lines -/

/-- `str::split_whitespace`. -/
def splitWhitespace (input : List Char) : List (List Char) :=
  (input.splitOnP isWhitespace).filter (· ≠ [])

structure Wrapping where
  wrappedLines : List (List Char)
  currentLine : List Char

namespace Wrapping

/-- A current line that is not empty is pushed, and a new one is begun. -/
def pushed (self : Wrapping) : Wrapping :=
  if self.currentLine.isEmpty then self
  else ⟨self.wrappedLines ++ [self.currentLine], []⟩

/-- One round of `wrap_string`. -/
def wrapWord (rounds maxLength : Nat) (self : Wrapping) (word : List Char) :
    Except Halt Wrapping :=
  if byteLen word ≤ maxLength then
    if self.currentLine.isEmpty then .ok { self with currentLine := self.currentLine ++ word }
    else if byteLen self.currentLine + 1 + byteLen word > maxLength then
      .ok ⟨self.wrappedLines ++ [self.currentLine], word⟩
    else .ok { self with currentLine := self.currentLine ++ [' '] ++ word }
  else do
    let chunks ← splitStringIntoChunks rounds word maxLength
    .ok { self.pushed with wrappedLines := self.pushed.wrappedLines ++ chunks }

end Wrapping

def wrapString (rounds : Nat) (input : List Char) (maxLength : Nat) :
    Except Halt (List (List Char)) := do
  let wrapping ← (splitWhitespace input).foldlM (Wrapping.wrapWord rounds maxLength) ⟨[], []⟩
  .ok wrapping.pushed.wrappedLines

/-! ## The loop -/

theorem byteLen_eq_total (text : List Char) : byteLen text = total Char.utf8Size text := rfl

theorem isCharBoundary_iff {s : List Char} {index : Nat} :
    isCharBoundary s index = true ↔ ∃ front back, s = front ++ back ∧ byteLen front = index := by
  rw [isCharBoundary, Option.isSome_iff_exists]
  exact exists_congr fun front => takeBytes_eq_some

theorem previousBoundary_eq_self {s : List Char} {index : Nat}
    (h : isCharBoundary s index = true) : previousBoundary s index = .ok index := by
  cases index <;> rw [previousBoundary, if_pos h]

/-- A boundary that is not before another one is the end of what fits there. -/
theorem fitting_of_boundary {front rest : List Char} {size : Nat}
    (h : isCharBoundary (front ++ rest) (byteLen front + size) = true) :
    total Char.utf8Size (fitting Char.utf8Size size rest) = size := by
  obtain ⟨long, after, htext, hlen⟩ := isCharBoundary_iff.mp h
  rcases List.append_eq_append_iff.mp htext with ⟨more, rfl, rfl⟩ | ⟨more, rfl, rfl⟩
  · rw [byteLen_append] at hlen
    have hmore : total Char.utf8Size more = size := Nat.add_left_cancel hlen
    rw [fitting_of_total_eq Char.utf8Size_pos hmore, hmore]
  · rw [byteLen_append] at hlen
    have hnone : byteLen more = 0 := by omega
    have hsize : size = 0 := by omega
    subst hsize
    exact Nat.le_zero.mp (total_fitting_le _ _)

/-- From a boundary on, the boundary before an index is the end of what fits. -/
theorem previousBoundary_append (front rest : List Char) (size : Nat) :
    previousBoundary (front ++ rest) (byteLen front + size) =
      .ok (byteLen (front ++ fitting Char.utf8Size size rest)) := by
  obtain ⟨back, hback⟩ : fitting Char.utf8Size size rest <+: rest := fitting_prefix _ _
  induction size with
  | zero =>
      have hnone : total Char.utf8Size (fitting Char.utf8Size 0 rest) = 0 :=
        Nat.le_zero.mp (total_fitting_le _ _)
      rw [Nat.add_zero, byteLen_append, byteLen_eq_total (fitting _ _ _), hnone, Nat.add_zero]
      exact previousBoundary_eq_self (isCharBoundary_iff.mpr ⟨front, rest, rfl, rfl⟩)
  | succ size ih =>
      by_cases hexact : total Char.utf8Size (fitting Char.utf8Size (size + 1) rest) = size + 1
      · have hend : byteLen (front ++ fitting Char.utf8Size (size + 1) rest) =
            byteLen front + (size + 1) := by
          rw [byteLen_append, byteLen_eq_total (fitting _ _ _), hexact]
        have htext : front ++ rest = front ++ fitting Char.utf8Size (size + 1) rest ++ back := by
          rw [List.append_assoc, hback]
        rw [hend]
        exact previousBoundary_eq_self (isCharBoundary_iff.mpr ⟨_, back, htext, hend⟩)
      · have hnot : ¬isCharBoundary (front ++ rest) (byteLen front + (size + 1)) = true :=
          fun hboundary => hexact (fitting_of_boundary hboundary)
        have hshorter := fitting_succ hexact
        rw [hshorter] at hback ⊢
        rw [← Nat.add_assoc] at hnot ⊢
        rw [previousBoundary, if_neg hnot]
        exact ih hback

theorem chunkEnd_append (front rest : List Char) (chunkSize : Nat) :
    chunkEnd (front ++ rest) (byteLen front) chunkSize =
      .ok (byteLen (front ++ fitting Char.utf8Size chunkSize rest)) := by
  rw [chunkEnd]
  split_ifs with hlast
  · have hall : fitting Char.utf8Size chunkSize rest = rest := by
      apply fitting_of_total_le
      rw [byteLen_append] at hlast
      exact (Nat.lt_of_add_lt_add_left hlast).le
    rw [hall]
  · exact previousBoundary_append front rest chunkSize

theorem slice_append (front piece rest : List Char) :
    slice (front ++ piece ++ rest) (byteLen front) (byteLen (front ++ piece)) = .ok piece := by
  have hbefore : takeBytes (byteLen front) (front ++ piece ++ rest) = some front := by
    rw [List.append_assoc]
    exact takeBytes_append front _
  have hle : byteLen front ≤ byteLen (front ++ piece) := by
    rw [byteLen_append]
    exact Nat.le_add_right _ _
  rw [slice, hbefore, takeBytes_append]
  dsimp only
  rw [if_pos hle, List.drop_left]

/-- One round: what fits is the next chunk. -/
theorem chunkLoop_round {front rest : List Char} (hne : rest ≠ []) (chunkSize rounds : Nat)
    (chunks : List (List Char)) :
    chunkLoop (front ++ rest) chunkSize (rounds + 1) (byteLen front) chunks =
      chunkLoop (front ++ rest) chunkSize rounds
        (byteLen (front ++ fitting Char.utf8Size chunkSize rest))
        (chunks ++ [fitting Char.utf8Size chunkSize rest]) := by
  have hpos : 0 < byteLen rest := by
    obtain ⟨c, cs, rfl⟩ := List.exists_cons_of_ne_nil hne
    have hc := c.utf8Size_pos
    rw [byteLen_eq_total, total_cons]
    omega
  have hmore : byteLen front < byteLen (front ++ rest) := by
    rw [byteLen_append]
    omega
  obtain ⟨back, hback⟩ : fitting Char.utf8Size chunkSize rest <+: rest := fitting_prefix _ _
  have hchunk : slice (front ++ rest) (byteLen front)
      (byteLen (front ++ fitting Char.utf8Size chunkSize rest)) =
      .ok (fitting Char.utf8Size chunkSize rest) := by
    have h := slice_append front (fitting Char.utf8Size chunkSize rest) back
    rwa [List.append_assoc, hback] at h
  rw [chunkLoop, if_pos hmore, chunkEnd_append]
  change (slice _ _ _ >>= _) = _
  rw [hchunk]
  rfl

/-- The loop returns the pieces of what is left, if there are any and it has a round for each and
one to see that it is done. It does not panic. -/
theorem chunkLoop_eq {front rest : List Char} {chunkSize rounds : Nat}
    {chunks : List (List Char)} :
    (∃ pieces, Pieces Char.utf8Size chunkSize rest pieces ∧ pieces.length < rounds ∧
      chunkLoop (front ++ rest) chunkSize rounds (byteLen front) chunks =
        .ok (chunks ++ pieces)) ∨
    (¬(∃ pieces, Pieces Char.utf8Size chunkSize rest pieces ∧ pieces.length < rounds) ∧
      chunkLoop (front ++ rest) chunkSize rounds (byteLen front) chunks = .error .unfinished) := by
  induction rounds generalizing front rest chunks with
  | zero =>
      refine .inr ⟨?_, rfl⟩
      rintro ⟨pieces, -, hnone⟩
      exact absurd hnone (Nat.not_lt_zero _)
  | succ rounds ih =>
      by_cases hne : rest = []
      · subst hne
        refine .inl ⟨[], .done, Nat.succ_pos _, ?_⟩
        rw [chunkLoop, List.append_nil, if_neg (Nat.lt_irrefl _), List.append_nil]
      · rw [chunkLoop_round hne]
        obtain ⟨back, hback⟩ : fitting Char.utf8Size chunkSize rest <+: rest := fitting_prefix _ _
        have htext : front ++ rest = front ++ fitting Char.utf8Size chunkSize rest ++ back := by
          rw [List.append_assoc, hback]
        by_cases hstuck : fitting Char.utf8Size chunkSize rest = []
        · -- The next round starts where this one did.
          rw [hstuck, List.append_nil]
          have hnone : ¬∃ pieces, Pieces Char.utf8Size chunkSize rest pieces := by
            rintro ⟨pieces, hpieces⟩
            exact ((pieces_iff hne hback).mp hpieces).1 hstuck
          rcases @ih front rest (chunks ++ [[]]) with ⟨pieces, hpieces, -⟩ | ⟨-, hrun⟩
          · exact absurd ⟨pieces, hpieces⟩ hnone
          · exact .inr ⟨fun ⟨pieces, hpieces, _⟩ => hnone ⟨pieces, hpieces⟩, hrun⟩
        · rw [htext]
          rcases @ih (front ++ fitting Char.utf8Size chunkSize rest) back
            (chunks ++ [fitting Char.utf8Size chunkSize rest]) with
            ⟨pieces, hpieces, hrounds, hrun⟩ | ⟨hnone, hrun⟩
          · refine .inl ⟨fitting Char.utf8Size chunkSize rest :: pieces, ?_, ?_, ?_⟩
            · exact (pieces_iff hne hback).mpr ⟨hstuck, pieces, hpieces, rfl⟩
            · exact Nat.succ_lt_succ hrounds
            · rw [hrun, List.append_assoc, List.singleton_append]
          · refine .inr ⟨?_, hrun⟩
            rintro ⟨pieces, hpieces, hrounds⟩
            obtain ⟨-, more, hmore, rfl⟩ := (pieces_iff hne hback).mp hpieces
            exact hnone ⟨more, hmore, Nat.lt_of_succ_lt_succ hrounds⟩

/-- The chunks of a text are its pieces. -/
theorem splitStringIntoChunks_cases (rounds : Nat) (s : List Char) (chunkSize : Nat) :
    (∃ pieces, Pieces Char.utf8Size chunkSize s pieces ∧ pieces.length < rounds ∧
      splitStringIntoChunks rounds s chunkSize = .ok pieces) ∨
    (¬(∃ pieces, Pieces Char.utf8Size chunkSize s pieces ∧ pieces.length < rounds) ∧
      splitStringIntoChunks rounds s chunkSize = .error .unfinished) :=
  @chunkLoop_eq [] s chunkSize rounds []

/-- The loop ends exactly if no character is wider than the chunks. -/
theorem splitStringIntoChunks_returns_iff {s : List Char} {chunkSize : Nat} :
    (∃ rounds chunks, splitStringIntoChunks rounds s chunkSize = .ok chunks) ↔
      ∀ c ∈ s, c.utf8Size ≤ chunkSize := by
  rw [← exists_pieces_iff]
  constructor
  · rintro ⟨rounds, chunks, hchunks⟩
    rcases splitStringIntoChunks_cases rounds s chunkSize with ⟨pieces, hpieces, -⟩ | ⟨-, hrun⟩
    · exact ⟨pieces, hpieces⟩
    · rw [hchunks] at hrun
      contradiction
  · rintro ⟨pieces, hpieces⟩
    rcases splitStringIntoChunks_cases (pieces.length + 1) s chunkSize with
      ⟨chunks, -, -, hrun⟩ | ⟨hnone, -⟩
    · exact ⟨_, chunks, hrun⟩
    · exact absurd ⟨pieces, hpieces, Nat.lt_succ_self _⟩ hnone

/-! ## Words -/

theorem flatten_splitOnP (p : Char → Bool) (text : List Char) :
    (text.splitOnP p).flatten = text.filter fun c => !p c := by
  induction text with
  | nil => rfl
  | cons c text ih =>
      rw [List.splitOnP_cons_eq_if_modifyHead]
      obtain ⟨first, more, hsplit⟩ := List.exists_cons_of_ne_nil (List.splitOnP_ne_nil p text)
      rw [hsplit] at ih ⊢
      cases hc : p c with
      | true =>
          rw [if_pos rfl, List.filter_cons_of_neg (by simp [hc]), List.flatten_cons,
            List.nil_append, ih]
      | false =>
          rw [if_neg Bool.false_ne_true, List.filter_cons_of_pos (by simp [hc]),
            List.modifyHead_cons, List.flatten_cons, List.cons_append, ← List.flatten_cons, ih]

/-- The words are the text without its white space. -/
theorem flatten_splitWhitespace (input : List Char) :
    (splitWhitespace input).flatten = input.filter fun c => !isWhitespace c := by
  rw [splitWhitespace, List.flatten_filter_ne_nil, flatten_splitOnP]

theorem word_ne_nil {input word : List Char} (h : word ∈ splitWhitespace input) : word ≠ [] := by
  exact of_decide_eq_true (List.mem_filter.mp h).2

theorem mem_word_iff {input : List Char} {c : Char} :
    (∃ word ∈ splitWhitespace input, c ∈ word) ↔ c ∈ input ∧ isWhitespace c = false := by
  rw [← List.mem_flatten, flatten_splitWhitespace, List.mem_filter, Bool.not_eq_true']

theorem word_length_le {input word : List Char} (h : word ∈ splitWhitespace input) :
    word.length ≤ input.length := by
  have hsub : word.Sublist (splitWhitespace input).flatten := List.sublist_flatten_of_mem h
  rw [flatten_splitWhitespace] at hsub
  exact hsub.length_le.trans (List.length_filter_le _ _)

/-! ## Progress -/

/-- The words so far are laid out in the lines, and those since then are the current line. -/
structure Progress (maxLength : Nat) (words : List (List Char)) (wrapping : Wrapping) :
    Prop where
  laid : ∃ done row, words = done ++ row ∧ Layout ' ' done wrapping.wrappedLines ∧
    wrapping.currentLine = [' '].intercalate row
  lines : ∀ line ∈ wrapping.wrappedLines, byteLen line ≤ maxLength
  current : byteLen wrapping.currentLine ≤ maxLength

variable {maxLength rounds : Nat} {words : List (List Char)} {self : Wrapping}

theorem Progress.pushed (h : Progress maxLength words self) (hwords : ∀ word ∈ words, word ≠ []) :
    Layout ' ' words self.pushed.wrappedLines ∧
      (∀ line ∈ self.pushed.wrappedLines, byteLen line ≤ maxLength) ∧
      self.pushed.currentLine = [] := by
  obtain ⟨done, row, rfl, hdone, hcurrent⟩ := h.laid
  have hrow : ∀ word ∈ row, word ≠ [] := fun word hmem =>
    hwords word (List.mem_append_right _ hmem)
  rw [Wrapping.pushed]
  split_ifs with hempty
  · rw [List.isEmpty_iff] at hempty
    rw [hempty, eq_comm, intercalate_eq_nil_iff hrow] at hcurrent
    subst hcurrent
    rw [List.append_nil]
    exact ⟨hdone, h.lines, hempty⟩
  · have hne : row ≠ [] := by
      rintro rfl
      exact hempty (List.isEmpty_iff.mpr hcurrent)
    refine ⟨?_, fun line hmem => ?_, rfl⟩
    · have hline : Layout ' ' row [[' '].intercalate row] := Layout.of_row hne
      rw [← hcurrent] at hline
      exact hdone.append hline
    · rcases List.mem_append.mp hmem with hmem | hmem
      · exact h.lines line hmem
      · rw [List.mem_singleton.mp hmem]
        exact h.current

/-- A word that fits goes on the current line or begins a new one. -/
theorem wrapWord_short (h : Progress maxLength words self) (hwords : ∀ word ∈ words, word ≠ [])
    (rounds : Nat) {word : List Char} (hshort : byteLen word ≤ maxLength) :
    ∃ after, self.wrapWord rounds maxLength word = .ok after ∧
      Progress maxLength (words ++ [word]) after := by
  rw [Wrapping.wrapWord, if_pos hshort]
  obtain ⟨done, row, hsplit, hdone, hcurrent⟩ := h.laid
  have hrow : ∀ other ∈ row, other ≠ [] := fun other hmem =>
    hwords other (hsplit ▸ List.mem_append_right _ hmem)
  split_ifs with hempty hlong
  · -- The first word of a line.
    rw [List.isEmpty_iff] at hempty
    rw [hempty, eq_comm, intercalate_eq_nil_iff hrow] at hcurrent
    refine ⟨_, rfl, ⟨done, [word], ?_, hdone, ?_⟩, h.lines, ?_⟩
    · rw [hsplit, hcurrent, List.append_nil]
    · rw [hempty, List.nil_append, List.intercalate_singleton]
    · rwa [hempty, List.nil_append]
  · -- The line is full.
    obtain ⟨hlaid, hlines, -⟩ := h.pushed hwords
    rw [Wrapping.pushed, if_neg hempty] at hlaid hlines
    exact ⟨_, rfl, ⟨words, [word], rfl, hlaid, List.intercalate_singleton.symm⟩, hlines, hshort⟩
  · have hne : row ≠ [] := by
      rintro rfl
      exact hempty (List.isEmpty_iff.mpr hcurrent)
    refine ⟨_, rfl, ⟨done, row ++ [word], ?_, hdone, ?_⟩, h.lines, ?_⟩
    · rw [hsplit, List.append_assoc]
    · rw [intercalate_concat hne, hcurrent]
    · have hblank : byteLen [' '] = 1 := rfl
      rw [byteLen_append, byteLen_append, hblank]
      omega

/-- A word that does not fit is broken after the line before it, if it has pieces. -/
theorem wrapWord_long (h : Progress maxLength words self) (hwords : ∀ word ∈ words, word ≠ [])
    {word : List Char} (hword : word ≠ []) (hlong : ¬byteLen word ≤ maxLength)
    {pieces : List (List Char)} (hpieces : Pieces Char.utf8Size maxLength word pieces)
    (hrun : splitStringIntoChunks rounds word maxLength = .ok pieces) :
    ∃ after, self.wrapWord rounds maxLength word = .ok after ∧
      Progress maxLength (words ++ [word]) after := by
  rw [Wrapping.wrapWord, if_neg hlong, hrun]
  obtain ⟨hlaid, hlines, hcurrent⟩ := h.pushed hwords
  have hne : pieces ≠ [] := by
    rintro rfl
    exact hword hpieces.flatten.symm
  have hbroken : Layout ' ' [pieces.flatten] pieces := Layout.of_pieces hne hpieces.ne_nil
  rw [hpieces.flatten] at hbroken
  refine ⟨_, rfl, ⟨words ++ [word], [], ?_, hlaid.append hbroken, hcurrent⟩, ?_, ?_⟩
  · rw [List.append_nil]
  · intro line hmem
    rcases List.mem_append.mp hmem with hmem | hmem
    · exact hlines line hmem
    · exact hpieces.total_le line hmem
  · change byteLen self.pushed.currentLine ≤ maxLength
    rw [hcurrent]
    exact Nat.zero_le _

/-- A round of a word that is returned from keeps the lines within the length. -/
theorem wrapWord_cases (h : Progress maxLength words self) (hwords : ∀ word ∈ words, word ≠ [])
    (rounds : Nat) {word : List Char} (hword : word ≠ []) :
    (∃ after, self.wrapWord rounds maxLength word = .ok after ∧
      Progress maxLength (words ++ [word]) after ∧ ∀ c ∈ word, c.utf8Size ≤ maxLength) ∨
    (¬(∃ pieces, Pieces Char.utf8Size maxLength word pieces ∧ pieces.length < rounds) ∧
      self.wrapWord rounds maxLength word = .error .unfinished) := by
  by_cases hshort : byteLen word ≤ maxLength
  · obtain ⟨after, hrun, hafter⟩ := wrapWord_short h hwords rounds hshort
    exact .inl ⟨after, hrun, hafter, fun c hc => (weight_le_total hc).trans hshort⟩
  · rcases splitStringIntoChunks_cases rounds word maxLength with
      ⟨pieces, hpieces, -, hrun⟩ | ⟨hnone, hrun⟩
    · obtain ⟨after, hafter, hprogress⟩ := wrapWord_long h hwords hword hshort hpieces hrun
      exact .inl ⟨after, hafter, hprogress, exists_pieces_iff.mp ⟨pieces, hpieces⟩⟩
    · rw [Wrapping.wrapWord, if_neg hshort, hrun]
      exact .inr ⟨hnone, rfl⟩

/-- The rounds of all words. -/
theorem wrapWords_cases (h : Progress maxLength words self) (hwords : ∀ word ∈ words, word ≠ [])
    (rounds : Nat) {more : List (List Char)} (hmore : ∀ word ∈ more, word ≠ []) :
    (∃ after, more.foldlM (Wrapping.wrapWord rounds maxLength) self = .ok after ∧
      Progress maxLength (words ++ more) after ∧
      ∀ word ∈ more, ∀ c ∈ word, c.utf8Size ≤ maxLength) ∨
    ((∃ word ∈ more,
        ¬∃ pieces, Pieces Char.utf8Size maxLength word pieces ∧ pieces.length < rounds) ∧
      more.foldlM (Wrapping.wrapWord rounds maxLength) self = .error .unfinished) := by
  induction more generalizing words self with
  | nil =>
      refine .inl ⟨self, rfl, ?_, fun _ hmem => absurd hmem List.not_mem_nil⟩
      rwa [List.append_nil]
  | cons word more ih =>
      rw [List.foldlM_cons]
      rcases wrapWord_cases h hwords rounds (hmore word List.mem_cons_self) with
        ⟨after, hrun, hafter, hchars⟩ | ⟨hnone, hrun⟩
      · have hlonger : ∀ other ∈ words ++ [word], other ≠ [] := by
          intro other hmem
          rcases List.mem_append.mp hmem with hmem | hmem
          · exact hwords other hmem
          · exact hmore other (List.mem_singleton.mp hmem ▸ List.mem_cons_self)
        have hnext : (Except.ok after >>= fun init =>
            more.foldlM (Wrapping.wrapWord rounds maxLength) init) =
            more.foldlM (Wrapping.wrapWord rounds maxLength) after := rfl
        rw [hrun, hnext]
        rcases ih hafter hlonger fun other hmem => hmore other (List.mem_cons_of_mem _ hmem) with
          ⟨last, hlast, hprogress, hrest⟩ | ⟨⟨other, hmem, hnone⟩, hlast⟩
        · rw [List.append_assoc] at hprogress
          refine .inl ⟨last, hlast, hprogress, fun other hmem => ?_⟩
          rcases List.mem_cons.mp hmem with rfl | hmem
          · exact hchars
          · exact hrest other hmem
        · exact .inr ⟨⟨other, List.mem_cons_of_mem _ hmem, hnone⟩, hlast⟩
      · rw [hrun]
        exact .inr ⟨⟨word, List.mem_cons_self, hnone⟩, rfl⟩

/-! ## Log messages -/

/-- What is to be made of a message: lines that are not too long, in which nothing is lost. -/
structure Wrapped (input : List Char) (maxLength : Nat) (lines : List (List Char)) : Prop where
  bounded : (∀ c ∈ input, c.utf8Size ≤ maxLength) → ∀ line ∈ lines, byteLen line ≤ maxLength
  laid : Layout ' ' (splitWhitespace input) lines
  letters : lines.flatten.filter (· ≠ ' ') = (splitWhitespace input).flatten

/-- The lines are made, and those of every word for itself. -/
def Wraps (input : List Char) (maxLength : Nat) : Prop :=
  (∃ rounds lines, wrapString rounds input maxLength = .ok lines ∧
    Wrapped input maxLength lines) ∧
  ∀ word ∈ splitWhitespace input,
    ∃ rounds chunks, splitStringIntoChunks rounds word maxLength = .ok chunks

theorem blank_not_mem_word {input word : List Char} (h : word ∈ splitWhitespace input) :
    ' ' ∉ word := by
  intro hblank
  obtain ⟨-, hletter⟩ := mem_word_iff.mp ⟨word, h, hblank⟩
  revert hletter
  decide

/-- What `wrap_string` returns is in order, and it does not panic. -/
theorem wrapString_cases (rounds : Nat) (input : List Char) (maxLength : Nat) :
    (∃ lines, wrapString rounds input maxLength = .ok lines ∧
      (∀ line ∈ lines, byteLen line ≤ maxLength) ∧ Layout ' ' (splitWhitespace input) lines ∧
      ∀ word ∈ splitWhitespace input, ∀ c ∈ word, c.utf8Size ≤ maxLength) ∨
    ((∃ word ∈ splitWhitespace input,
        ¬∃ pieces, Pieces Char.utf8Size maxLength word pieces ∧ pieces.length < rounds) ∧
      wrapString rounds input maxLength = .error .unfinished) := by
  have hstart : Progress maxLength [] ⟨[], []⟩ :=
    ⟨⟨[], [], rfl, .done, rfl⟩, fun _ hmem => absurd hmem List.not_mem_nil, Nat.zero_le _⟩
  have hall : ∀ word ∈ splitWhitespace input, word ≠ [] := fun _ => word_ne_nil
  rw [wrapString]
  rcases wrapWords_cases hstart (fun _ hmem => absurd hmem List.not_mem_nil) rounds hall with
    ⟨after, hrun, hafter, hchars⟩ | ⟨hstuck, hrun⟩
  · rw [hrun]
    obtain ⟨hlaid, hlines, -⟩ := hafter.pushed hall
    exact .inl ⟨_, rfl, hlines, hlaid, hchars⟩
  · rw [hrun]
    exact .inr ⟨hstuck, rfl⟩

/-- The loops come to an end exactly if no character of a word is wider than a line. -/
theorem wrapString_returns_iff {input : List Char} {maxLength : Nat} :
    (∃ rounds lines, wrapString rounds input maxLength = .ok lines) ↔
      ∀ c ∈ input, isWhitespace c = false → c.utf8Size ≤ maxLength := by
  constructor
  · rintro ⟨rounds, lines, hlines⟩ c hc hletter
    rcases wrapString_cases rounds input maxLength with ⟨-, -, -, -, hchars⟩ | ⟨-, hrun⟩
    · obtain ⟨word, hword, hmem⟩ := mem_word_iff.mpr ⟨hc, hletter⟩
      exact hchars word hword c hmem
    · rw [hlines] at hrun
      contradiction
  · intro h
    -- A word has no more pieces than the input has characters.
    rcases wrapString_cases (input.length + 1) input maxLength with
      ⟨lines, hrun, -⟩ | ⟨⟨word, hword, hnone⟩, -⟩
    · exact ⟨_, lines, hrun⟩
    · have hchars : ∀ c ∈ word, c.utf8Size ≤ maxLength := by
        intro c hmem
        obtain ⟨hc, hletter⟩ := mem_word_iff.mp ⟨word, hword, hmem⟩
        exact h c hc hletter
      obtain ⟨pieces, hpieces⟩ := exists_pieces_iff.mpr hchars
      have hlen := hpieces.length_le.trans (word_length_le hword)
      exact absurd ⟨pieces, hpieces, Nat.lt_succ_of_le hlen⟩ hnone

/-- **Log wrapping**: the loops come to an end, with lines in which nothing is lost, exactly if
no character of a word is wider than a line. -/
theorem wraps_iff_fits (input : List Char) (maxLength : Nat) :
    Wraps input maxLength ↔
      ∀ c ∈ input, isWhitespace c = false → c.utf8Size ≤ maxLength := by
  constructor
  · rintro ⟨⟨rounds, lines, hlines, -⟩, -⟩
    exact wrapString_returns_iff.mp ⟨rounds, lines, hlines⟩
  · intro h
    obtain ⟨rounds, lines, hlines⟩ := wrapString_returns_iff.mpr h
    constructor
    · rcases wrapString_cases rounds input maxLength with
        ⟨others, hrun, hbounded, hlaid, -⟩ | ⟨-, hrun⟩
      · exact ⟨rounds, others, hrun, fun _ => hbounded, hlaid,
          hlaid.letters fun word hmem => blank_not_mem_word hmem⟩
      · rw [hlines] at hrun
        contradiction
    · intro word hword
      apply splitStringIntoChunks_returns_iff.mpr
      intro c hmem
      obtain ⟨hc, hletter⟩ := mem_word_iff.mp ⟨word, hword, hmem⟩
      exact h c hc hletter

/-- A line without room for the letter is never left. -/
theorem narrow_line_unfinished :
    (∀ rounds, wrapString rounds ['a'] 0 = .error .unfinished) ∧ ¬Wraps ['a'] 0 := by
  have hstuck : ∀ rounds, wrapString rounds ['a'] 0 = .error .unfinished := by
    intro rounds
    rcases wrapString_cases rounds ['a'] 0 with ⟨lines, -, -, -, hchars⟩ | ⟨-, hrun⟩
    · have hwide := hchars ['a'] (by decide) 'a' (by decide)
      exact absurd hwide (by decide)
    · exact hrun
  refine ⟨hstuck, ?_⟩
  rintro ⟨⟨rounds, lines, hlines, -⟩, -⟩
  rw [hstuck] at hlines
  contradiction

end OddBox.Tui

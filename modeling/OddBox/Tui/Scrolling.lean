import OddBox.Checked
import OddBox.Machine

/-!
`ScrollStateWrapper` and the tables that are scrolled with it. Each operation on the position
looks at the rows of the frame before; the next frame cuts its own rows at it.
-/

namespace OddBox.Tui

open OddBox.Checked OddBox.Machine

/-! ## The scroll state -/

/-- `ratatui::widgets::ScrollbarState`. -/
structure ScrollbarState where
  contentLength : Nat
  position : Nat
  deriving DecidableEq, Repr

structure ScrollStateWrapper where
  verticalScrollState : ScrollbarState
  /-- The first row that is shown; without one the table follows its end. -/
  verticalScroll : Option Nat
  totalRows : Nat
  visibleRows : Nat
  areaHeight : Nat
  areaWidth : Nat
  scrollBarHovered : Bool
  lastMouseDownYPos : Nat
  deriving DecidableEq, Repr

/-- `n as f32`. -/
def asF32 (n : Nat) : Float32 := (UInt64.ofNat n).toFloat32

/-- `n as f64`. -/
def asF64 (n : Nat) : Float := (UInt64.ofNat n).toFloat

/-- `f32::max`. -/
def maxF32 (a b : Float32) : Float32 :=
  if a.isNaN then b else if b.isNaN then a else if a < b then b else a

namespace ScrollStateWrapper

variable (self : ScrollStateWrapper)

/-- The highest position that a scroll operation may store. -/
def maxScroll : Nat := self.totalRows - self.areaHeight

/-- The position and that of the scroll bar are stored. -/
def moved (scroll : Option Nat) (newVal : Nat) : ScrollStateWrapper :=
  { self with
    verticalScroll := scroll
    verticalScrollState := { self.verticalScrollState with position := newVal } }

def scrollUp (count : Option Nat) : ScrollStateWrapper :=
  match self.verticalScroll with
  | some current =>
    if current > 0 then
      let newVal := max (current - count.getD 1) 0
      self.moved (some newVal) newVal
    else self
  | none =>
    let newVal := self.maxScroll - count.getD 1
    self.moved (some newVal) newVal

def scrollDown (count : Option Nat) : ScrollStateWrapper :=
  let current := self.verticalScroll.getD self.maxScroll
  if current < self.maxScroll then
    let newVal := min (current + count.getD 1) self.maxScroll
    self.moved (some newVal) newVal
  else { self with verticalScroll := none }

def calculateThumbSize : Float32 :=
  if self.totalRows ≤ self.areaHeight then asF32 self.areaHeight
  else (asF64 self.areaHeight / asF64 self.totalRows * asF64 self.areaHeight).ceil.toFloat32

def handleMouseMove (column row : Nat) : ScrollStateWrapper :=
  let thumbSize := maxF32 self.calculateThumbSize 1
  let vscroll := self.verticalScroll.getD self.maxScroll
  let thumbPosition := maxF32
    (if self.totalRows > self.areaHeight then
      asF32 vscroll / (asF32 self.totalRows - asF32 self.areaHeight) *
        (asF32 self.areaHeight - thumbSize)
    else 1) 1
  let horizontalMatch : Bool := column ≥ self.areaWidth - 1 && column ≤ self.areaWidth + 1
  let verticalMatch : Bool := (row : Int) ≥ thumbPosition.toInt64.toInt - 2 &&
    row ≤ (thumbPosition + thumbSize + 1).toUInt64.toNat
  { self with scrollBarHovered := horizontalMatch && verticalMatch }

def handleMouseDrag (_column row : Nat) : ScrollStateWrapper :=
  if self.scrollBarHovered then
    let clickPosition := max (min row self.areaHeight) 0
    let percentage := asF32 clickPosition / asF32 self.areaHeight
    let scrollTo := (percentage * asF32 self.totalRows).round.toUInt64.toNat
    let newVal := min scrollTo self.maxScroll
    if newVal = self.maxScroll then self.moved none newVal else self.moved (some newVal) newVal
  else { self with lastMouseDownYPos := row }

end ScrollStateWrapper

/-! ## Frames -/

/-- `Rect`, as far as a table looks at it. -/
structure Area where
  width : Nat
  height : Nat
  deriving DecidableEq, Repr

/-- The cells of a row. The first is what the rows are sorted by. -/
structure TableRow where
  first : String
  rest : List String
  deriving DecidableEq, Repr

/-- `&rows[start..end]`. -/
def displayRows (rows : List TableRow) (areaHeight : Nat) (scrollPos : Option Nat) :
    Except Panic (List TableRow) := do
  let above ← sub areaHeight 1
  let maxScrollPos := rows.length - above
  let visibleRows := areaHeight
  let start := scrollPos.getD maxScrollPos
  let stop := min (start + visibleRows) rows.length
  slice rows start stop

/-- What a frame leaves in the state. -/
def ScrollStateWrapper.drawn (self : ScrollStateWrapper) (rows visible : Nat) (area : Area) :
    ScrollStateWrapper :=
  { self with
    totalRows := rows
    visibleRows := visible
    areaHeight := area.height
    areaWidth := area.width
    verticalScrollState :=
      { contentLength := rows - area.height
        position := if self.verticalScroll.isNone then rows - area.height
          else self.verticalScrollState.position } }

/-- A table that is drawn in an area, if that is not too small, and the rows that it shows. -/
def ScrollStateWrapper.draw (self : ScrollStateWrapper) (rows : List TableRow) (area : Area) :
    Except Panic (Option (List TableRow) × ScrollStateWrapper) :=
  if area.height < 10 || area.width < 10 then .ok (none, self)
  else do
    let rows := rows.mergeSort fun a b => decide (a.first ≤ b.first)
    let shown ← displayRows rows area.height self.verticalScroll
    .ok (some shown, self.drawn rows.length shown.length area)

/-! ## The tables -/

structure TuiState where
  connectionsTabState : ScrollStateWrapper
  threadsTabState : ScrollStateWrapper
  deriving DecidableEq, Repr

/-- `ScrollStateWrapper::default()`, scrolled to the top. -/
def topState : ScrollStateWrapper where
  verticalScrollState := ⟨0, 0⟩
  verticalScroll := some 0
  totalRows := 0
  visibleRows := 0
  areaHeight := 0
  areaWidth := 0
  scrollBarHovered := false
  lastMouseDownYPos := 0

/-- The pages with a table. -/
inductive Page where
  | connections
  | threads
  deriving DecidableEq, Repr

inductive TuiEvent where
  | scrollUp (page : Page) (count : Option Nat)
  | scrollDown (page : Page) (count : Option Nat)
  | mouseMove (page : Page) (column row : Nat)
  | mouseDrag (page : Page) (column row : Nat)
  /-- A frame, with the rows that there are and the area of the terminal that is left. -/
  | draw (page : Page) (rows : List TableRow) (area : Area)

namespace TuiState

def new : TuiState := ⟨topState, topState⟩

def tab (self : TuiState) : Page → ScrollStateWrapper
  | .connections => self.connectionsTabState
  | .threads => self.threadsTabState

def withTab (self : TuiState) (state : ScrollStateWrapper) : Page → TuiState
  | .connections => { self with connectionsTabState := state }
  | .threads => { self with threadsTabState := state }

def drawTab (self : TuiState) (page : Page) (rows : List TableRow) (area : Area) :
    Except Panic (Option (List TableRow) × TuiState) := do
  let (shown, state) ← (self.tab page).draw rows area
  .ok (shown, self.withTab state page)

/-- `draw` of `connections_widget.rs`. -/
def drawConnections (self : TuiState) (rows : List TableRow) (area : Area) :
    Except Panic (Option (List TableRow) × TuiState) :=
  self.drawTab .connections rows area

/-- `draw` of `threads_widget.rs`. -/
def drawThreads (self : TuiState) (rows : List TableRow) (area : Area) :
    Except Panic (Option (List TableRow) × TuiState) :=
  self.drawTab .threads rows area

def handle (self : TuiState) : TuiEvent → Except Panic TuiState
  | .scrollUp page count => .ok (self.withTab ((self.tab page).scrollUp count) page)
  | .scrollDown page count => .ok (self.withTab ((self.tab page).scrollDown count) page)
  | .mouseMove page column row =>
    .ok (self.withTab ((self.tab page).handleMouseMove column row) page)
  | .mouseDrag page column row =>
    .ok (self.withTab ((self.tab page).handleMouseDrag column row) page)
  | .draw .connections rows area => Prod.snd <$> self.drawConnections rows area
  | .draw .threads rows area => Prod.snd <$> self.drawThreads rows area

end TuiState

/-- The interface, and whether it has panicked. -/
structure Screen where
  tui : TuiState
  panicked : Bool

def Screen.new : Screen := ⟨.new, false⟩

/-- After a panic there is nothing more. -/
def Screen.step (self : Screen) (event : TuiEvent) : Screen :=
  if self.panicked then self
  else
    match self.tui.handle event with
    | .ok tui => ⟨tui, false⟩
    | .error _ => { self with panicked := true }

/-! ## Positions in range -/

namespace ScrollStateWrapper

/-- The position that is stored, if any, is one of that many rows or their end. -/
def Within (self : ScrollStateWrapper) (rows : Nat) : Prop :=
  ∀ position, self.verticalScroll = some position → position ≤ rows

/-- The position is within the rows of the last frame. -/
def InRange (self : ScrollStateWrapper) : Prop := self.Within self.totalRows

variable {self : ScrollStateWrapper}

theorem maxScroll_le : self.maxScroll ≤ self.totalRows := Nat.sub_le _ _

theorem inRange_moved {newVal : Nat} (h : newVal ≤ self.totalRows) :
    (self.moved (some newVal) newVal).InRange := by
  intro position hposition
  cases hposition
  exact h

theorem inRange_of_none (h : self.verticalScroll = none) : self.InRange := by
  intro position hposition
  rw [h] at hposition
  contradiction

theorem scrollUp_inRange (h : self.InRange) (count : Option Nat) :
    (self.scrollUp count).InRange := by
  unfold scrollUp
  cases hscroll : self.verticalScroll with
  | none =>
      apply inRange_moved
      exact (Nat.sub_le _ _).trans maxScroll_le
  | some current =>
      have hcurrent := h current hscroll
      dsimp only
      split_ifs with hpos
      · apply inRange_moved
        omega
      · exact h

theorem scrollDown_inRange (count : Option Nat) : (self.scrollDown count).InRange := by
  unfold scrollDown
  dsimp only
  split_ifs with hless
  · apply inRange_moved
    exact (Nat.min_le_right _ _).trans maxScroll_le
  · exact inRange_of_none rfl

theorem handleMouseMove_inRange (h : self.InRange) (column row : Nat) :
    (self.handleMouseMove column row).InRange := h

/-- However the numbers are rounded, the position is not higher than the highest. -/
theorem handleMouseDrag_inRange (h : self.InRange) (column row : Nat) :
    (self.handleMouseDrag column row).InRange := by
  unfold handleMouseDrag
  dsimp only
  split_ifs with hhovered hend
  · exact inRange_of_none rfl
  · apply inRange_moved
    exact (Nat.min_le_right _ _).trans maxScroll_le
  · exact h

end ScrollStateWrapper

/-! ## Frames -/

theorem displayRows_cases (rows : List TableRow) {areaHeight : Nat} (hheight : 1 ≤ areaHeight)
    (scrollPos : Option Nat) :
    ((∀ position, scrollPos = some position → position ≤ rows.length) ∧
      ∃ shown, displayRows rows areaHeight scrollPos = .ok shown) ∨
    ((∃ position, scrollPos = some position ∧ rows.length < position) ∧
      displayRows rows areaHeight scrollPos = .error .outOfRange) := by
  rw [displayRows, sub_ok hheight]
  change (_ ∧ ∃ shown, slice rows (scrollPos.getD (rows.length - (areaHeight - 1)))
      (min (scrollPos.getD (rows.length - (areaHeight - 1)) + areaHeight) rows.length) =
        .ok shown) ∨
    (_ ∧ slice rows (scrollPos.getD (rows.length - (areaHeight - 1)))
      (min (scrollPos.getD (rows.length - (areaHeight - 1)) + areaHeight) rows.length) = _)
  by_cases hstart : scrollPos.getD (rows.length - (areaHeight - 1)) ≤ rows.length
  · left
    refine ⟨fun position hposition => ?_, _, slice_ok ?_ (Nat.min_le_right _ _)⟩
    · rwa [hposition, Option.getD_some] at hstart
    · exact le_min (Nat.le_add_right _ _) hstart
  · right
    cases scrollPos with
    | none => exact absurd (Nat.sub_le _ _) hstart
    | some position =>
        rw [Option.getD_some] at hstart ⊢
        refine ⟨⟨position, rfl, Nat.lt_of_not_le hstart⟩, ?_⟩
        rw [slice, if_neg]
        rintro ⟨hle, -⟩
        exact hstart (hle.trans (Nat.min_le_right _ _))

/-- All that a frame may do. It panics only at the slice. -/
theorem draw_cases (self : ScrollStateWrapper) (rows : List TableRow) (area : Area) :
    ((area.height < 10 ∨ area.width < 10) ∧ self.draw rows area = .ok (none, self)) ∨
    ((10 ≤ area.height ∧ 10 ≤ area.width) ∧ self.Within rows.length ∧
      ∃ shown, self.draw rows area =
        .ok (some shown, self.drawn rows.length shown.length area)) ∨
    ((10 ≤ area.height ∧ 10 ≤ area.width) ∧ ¬self.Within rows.length ∧
      self.draw rows area = .error .outOfRange) := by
  unfold ScrollStateWrapper.draw
  by_cases hsmall : area.height < 10 ∨ area.width < 10
  · left
    exact ⟨hsmall, if_pos (by simpa using hsmall)⟩
  · right
    have hlarge : 10 ≤ area.height ∧ 10 ≤ area.width := by omega
    have hheight : 1 ≤ area.height := by omega
    rw [if_neg (by simpa using hlarge)]
    dsimp only
    have hrows := displayRows_cases (rows.mergeSort fun a b => decide (a.first ≤ b.first))
      hheight self.verticalScroll
    rw [List.length_mergeSort] at hrows
    rcases hrows with ⟨hwithin, shown, hshown⟩ | ⟨⟨position, hscroll, hless⟩, hpanic⟩
    · left
      rw [hshown]
      exact ⟨hlarge, hwithin, shown, by rw [List.length_mergeSort]; rfl⟩
    · right
      rw [hpanic]
      exact ⟨hlarge, fun hwithin => absurd hless (hwithin position hscroll).not_gt, rfl⟩

/-! ## Sessions -/

namespace TuiState

/-- The positions of both tables are within the rows of their last frames. -/
def InRange (self : TuiState) : Prop := ∀ page, (self.tab page).InRange

variable {self : TuiState}

theorem inRange_new : TuiState.new.InRange := by
  intro page position hposition
  cases page <;> (cases hposition; exact Nat.le_refl 0)

theorem inRange_withTab (h : self.InRange) {state : ScrollStateWrapper} (hstate : state.InRange)
    (page : Page) : (self.withTab state page).InRange := by
  intro other
  cases page <;> cases other
  · exact hstate
  · exact h .threads
  · exact h .connections
  · exact hstate

/-- The frame has not lost the rows that its table is scrolled to. -/
def Kept (self : TuiState) : TuiEvent → Prop
  | .draw page rows area =>
    10 ≤ area.height → 10 ≤ area.width → rows.length < (self.tab page).totalRows →
      (self.tab page).Within rows.length
  | _ => True

/-- An event is handled, and leaves the positions in range, exactly if it keeps the rows that
its table is scrolled to. -/
theorem handle_cases (h : self.InRange) (event : TuiEvent) :
    (self.Kept event ∧ ∃ after, self.handle event = .ok after ∧ after.InRange) ∨
      (¬self.Kept event ∧ self.handle event = .error .outOfRange) := by
  cases event with
  | scrollUp page count =>
      exact .inl ⟨trivial, _, rfl,
        inRange_withTab h (ScrollStateWrapper.scrollUp_inRange (h page) count) page⟩
  | scrollDown page count =>
      exact .inl ⟨trivial, _, rfl,
        inRange_withTab h (ScrollStateWrapper.scrollDown_inRange count) page⟩
  | mouseMove page column row =>
      exact .inl ⟨trivial, _, rfl, inRange_withTab h
        (ScrollStateWrapper.handleMouseMove_inRange (h page) column row) page⟩
  | mouseDrag page column row =>
      exact .inl ⟨trivial, _, rfl, inRange_withTab h
        (ScrollStateWrapper.handleMouseDrag_inRange (h page) column row) page⟩
  | draw page rows area =>
      have hhandle : self.handle (.draw page rows area) =
          Prod.snd <$> self.drawTab page rows area := by
        cases page <;> rfl
      rw [hhandle, drawTab]
      rcases draw_cases (self.tab page) rows area with
        ⟨hsmall, hdraw⟩ | ⟨-, hwithin, shown, hdraw⟩ | ⟨⟨hheight, hwidth⟩, hout, hdraw⟩
      · rw [hdraw]
        refine .inl ⟨fun hheight hwidth => ?_, _, rfl, inRange_withTab h (h page) page⟩
        omega
      · have hrange : ((self.tab page).drawn rows.length shown.length area).InRange := hwithin
        rw [hdraw]
        exact .inl ⟨fun _ _ _ => hwithin, _, rfl, inRange_withTab h hrange page⟩
      · rw [hdraw]
        refine .inr ⟨fun hkept => hout ?_, rfl⟩
        -- As many rows as before are enough for every position.
        by_cases hfewer : rows.length < (self.tab page).totalRows
        · exact hkept hheight hwidth hfewer
        · intro position hposition
          exact (h page position hposition).trans (Nat.le_of_not_lt hfewer)

end TuiState

namespace Screen

/-- Frames do not lose the rows that their table is scrolled to. -/
def Kept (self : Screen) (event : TuiEvent) : Prop := self.tui.Kept event

theorem step_ok {self : Screen} {event : TuiEvent} {tui : TuiState}
    (hrunning : self.panicked = false) (h : self.tui.handle event = .ok tui) :
    self.step event = ⟨tui, false⟩ := by
  rw [step, hrunning, if_neg Bool.false_ne_true, h]

theorem step_inRange {self : Screen} (h : self.tui.InRange) (event : TuiEvent) :
    (self.step event).tui.InRange := by
  unfold step
  split_ifs with hpanicked
  · exact h
  · rcases TuiState.handle_cases h event with ⟨-, after, hafter, hrange⟩ | ⟨-, hpanic⟩
    · rw [hafter]
      exact hrange
    · rw [hpanic]
      exact h

theorem step_panicked_iff {self : Screen} (h : self.tui.InRange) (hrunning : self.panicked = false)
    (event : TuiEvent) : (self.step event).panicked = false ↔ self.Kept event := by
  rcases TuiState.handle_cases h event with ⟨hkept, after, hafter, -⟩ | ⟨hlost, hpanic⟩
  · rw [step_ok hrunning hafter]
    exact iff_of_true rfl hkept
  · rw [step, hrunning, if_neg Bool.false_ne_true, hpanic]
    exact iff_of_false (fun hnone => nomatch hnone) hlost

/-- No frame of a table has fewer rows than the one before. -/
def Grows (self : Screen) : TuiEvent → Prop
  | .draw page rows _ => (self.tui.tab page).totalRows ≤ rows.length
  | _ => True

/-- As long as rows only come, no session panics. -/
theorem growing_never_panics {events first : List TuiEvent}
    (h : Meets step Grows Screen.new events) (hfirst : first <+: events) :
    (run step Screen.new first).panicked = false := by
  have hstart : Screen.new.tui.InRange ∧ Screen.new.panicked = false :=
    ⟨TuiState.inRange_new, rfl⟩
  have hstep : ∀ (self : Screen) event, self.tui.InRange ∧ self.panicked = false →
      self.Grows event → (self.step event).tui.InRange ∧ (self.step event).panicked = false := by
    intro self event hself hgrows
    have hkept : self.Kept event := by
      cases event with
      | draw page rows area => exact fun _ _ hfewer => absurd hfewer (Nat.not_lt_of_le hgrows)
      | scrollUp | scrollDown | mouseMove | mouseDrag => trivial
    exact ⟨step_inRange hself.1 event, (step_panicked_iff hself.1 hself.2 event).mpr hkept⟩
  exact (h.always hstep hstart hfirst).2

/-- **Scrolling**: a session with the two tables panics exactly if a frame has fewer rows than
the one before, and fewer than the position its table is scrolled to. -/
theorem scrolling_panics_iff (events : List TuiEvent) :
    (∀ first, first <+: events → (run step Screen.new first).panicked = false) ↔
      Meets step Kept Screen.new events := by
  apply meets_iff (J := fun screen : Screen => screen.tui.InRange)
    (I := fun screen => screen.panicked = false)
  · intro screen event h
    exact step_inRange h event
  · intro screen event h hrunning
    exact step_panicked_iff h hrunning event
  · exact TuiState.inRange_new
  · rfl

/-- Twelve connections in an area for ten; the user scrolls down by one, and all are closed. -/
def closedConnections : List TuiEvent :=
  [.draw .connections (List.replicate 12 ⟨"127.0.0.1", []⟩) ⟨80, 10⟩, .scrollDown .connections none,
    .draw .connections [] ⟨80, 10⟩]

theorem closed_connections_panic : (run step Screen.new closedConnections).panicked = true := by
  have hwithin : topState.Within (List.replicate 12 (⟨"127.0.0.1", []⟩ : TableRow)).length := by
    rintro position ⟨⟩
    exact Nat.zero_le _
  rcases draw_cases topState (List.replicate 12 ⟨"127.0.0.1", []⟩) ⟨80, 10⟩ with
    ⟨hsmall, -⟩ | ⟨-, -, shown, hdraw⟩ | ⟨-, hout, -⟩
  · exact absurd hsmall (by decide)
  · -- Where the first frame and the scrolling lead to.
    let scrolled : Screen :=
      ⟨⟨(topState.drawn 12 shown.length ⟨80, 10⟩).moved (some 1) 1, topState⟩, false⟩
    have hscrolled : (Screen.new.step (.draw .connections (List.replicate 12 ⟨"127.0.0.1", []⟩)
        ⟨80, 10⟩)).step (.scrollDown .connections none) = scrolled := by
      have hfirst : Screen.new.step (.draw .connections (List.replicate 12 ⟨"127.0.0.1", []⟩)
          ⟨80, 10⟩) = ⟨⟨topState.drawn 12 shown.length ⟨80, 10⟩, topState⟩, false⟩ := by
        have hhandle : TuiState.new.handle (.draw .connections (List.replicate 12
            ⟨"127.0.0.1", []⟩) ⟨80, 10⟩) =
            .ok ⟨topState.drawn 12 shown.length ⟨80, 10⟩, topState⟩ := by
          change Prod.snd <$> (topState.draw _ _ >>= _) = _
          rw [hdraw]
          rfl
        exact step_ok rfl hhandle
      rw [hfirst]
      rfl
    have hrange : scrolled.tui.InRange := by
      rw [← hscrolled]
      exact step_inRange (step_inRange TuiState.inRange_new _) _
    have hlost : ¬scrolled.Kept (.draw .connections [] ⟨80, 10⟩) := by
      intro hkept
      have hfewer : 0 < 12 := by decide
      have hposition := hkept (Nat.le_refl 10) (by decide) hfewer 1 rfl
      exact absurd hposition (by decide)
    rw [closedConnections, run_cons, run_cons, hscrolled, run_cons, run_nil, ← Bool.not_eq_false,
      step_panicked_iff hrange rfl]
    exact hlost
  · exact absurd hwithin hout

end Screen

end OddBox.Tui

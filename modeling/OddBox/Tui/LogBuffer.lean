import OddBox.Tui.LogsWidget
import OddBox.Tui.Scrolling

/-!
The buffer of the log page. Every thread pushes its messages into it; it may grow while the page
is scrolled, and takes nothing while it is paused. Frames rewrite the messages in it, and one that
does not come back keeps it for good.
-/

namespace OddBox.Tui

open OddBox.Api (isWhitespace)

/-! ## The buffer -/

structure SharedLogBuffer where
  logs : List LogMsg
  limit : Option Nat
  pause : Bool

/-- `while logs.len() > x { logs.pop_front(); }`. -/
def popFrontTo (x : Nat) : List LogMsg → List LogMsg
  | [] => []
  | oldest :: logs =>
    if (oldest :: logs).length > x then popFrontTo x logs else oldest :: logs

namespace SharedLogBuffer

def new : SharedLogBuffer := ⟨[], some 500, false⟩

def push (self : SharedLogBuffer) (message : LogMsg) : SharedLogBuffer :=
  if self.pause then self
  else
    match self.limit with
    | some x => { self with logs := popFrontTo x (self.logs ++ [message]) }
    -- A hard maximum, even if the page is scrolled.
    | none => { self with logs := popFrontTo 1000 (self.logs ++ [message]) }

end SharedLogBuffer

/-! ## The page -/

structure LogsPage where
  buffer : SharedLogBuffer
  scrollState : ScrollStateWrapper
  /-- A frame has the buffer and does not come back. -/
  stuck : Bool
  /-- What came into the buffer since it was cleared, the oldest first. -/
  history : List LogMsg
  /-- The notices that came since the last message. -/
  notices : Nat

/-- What happens to the page and its buffer. -/
inductive LogsEvent where
  | message (x : LogMsg)
  /-- The space key. -/
  | togglePause
  | enter
  /-- The key `c`. -/
  | clear
  | scrollUp (count : Option Nat)
  | scrollDown (count : Option Nat)
  | mouseMove (column row : Nat)
  | mouseDrag (column row : Nat)
  /-- A frame, with the longest host name and the number of lines that the messages make. -/
  | draw (area : Area) (maxSiteLen lines : Nat)

/-- A message as a frame leaves it. -/
def LogMsg.drawn (x : LogMsg) : LogMsg := { x with msg := shownText x }

def pauseNotice (paused : Bool) : LogMsg where
  msg := (if paused then "LOGGING PAUSED! PRESS SPACE TO RESUME."
    else "LOGGING RESUMED! PRESS SPACE TO PAUSE.").toList
  lvl := .warn
  thread := some "odd_box::tracing".toList

/-- The lines of the message come back. -/
def LogMsg.fits (areaWidth maxSiteLen itemCountLen index : Nat) (x : LogMsg) : Bool :=
  (shownText x).all fun c =>
    isWhitespace c || decide (c.utf8Size ≤ textWidth areaWidth maxSiteLen itemCountLen index x)

/-- `item_count_len`. -/
def itemCountLen (logs : List LogMsg) : Nat := max (Nat.toDigits 10 logs.length).length 6

/-- What a frame leaves in the scroll state. -/
def ScrollStateWrapper.logsDrawn (self : ScrollStateWrapper) (lines : Nat) (area : Area) :
    ScrollStateWrapper :=
  let maxScrollPos := lines - area.height
  let start := self.verticalScroll.getD maxScrollPos
  let stop := min (start + area.height) lines
  let self := { self with totalRows := lines, areaHeight := area.height, areaWidth := area.width }
  if start > lines || stop > lines || start ≥ stop then self
  else
    { self with
      verticalScrollState :=
        { contentLength := maxScrollPos
          position := if self.verticalScroll.isNone then maxScrollPos
            else self.verticalScrollState.position } }

namespace LogsPage

def new : LogsPage where
  buffer := .new
  scrollState := { topState with verticalScroll := none }
  stuck := false
  history := []
  notices := 0

def draw (self : LogsPage) (area : Area) (maxSiteLen lines : Nat) : LogsPage :=
  if area.height < 10 || area.width < 80 then self
  else
    let limit :=
      if self.scrollState.verticalScroll.isNone && self.buffer.limit.isNone then some 500
      else if self.scrollState.verticalScroll.isSome && self.buffer.limit.isSome then none
      else self.buffer.limit
    let fit := self.buffer.logs.zipIdx.all fun (x, index) =>
      x.fits area.width maxSiteLen (itemCountLen self.buffer.logs) index
    { self with
      buffer := { self.buffer with limit := limit, logs := self.buffer.logs.map LogMsg.drawn }
      scrollState := if fit then self.scrollState.logsDrawn lines area else self.scrollState
      stuck := !fit }

def handle (self : LogsPage) : LogsEvent → LogsPage
  | .message x =>
    { self with
      buffer := self.buffer.push x
      history := if self.buffer.pause then self.history else self.history ++ [x]
      notices := if self.buffer.pause then self.notices else 0 }
  | .togglePause =>
    let notice := pauseNotice !self.buffer.pause
    { self with
      buffer := { self.buffer with
        pause := !self.buffer.pause
        logs := self.buffer.logs ++ [notice] }
      history := self.history ++ [notice]
      notices := self.notices + 1 }
  | .enter =>
    { self with
      buffer := { self.buffer with
        logs :=
          match self.buffer.limit with
          | some x => popFrontTo x self.buffer.logs
          | none => self.buffer.logs }
      scrollState := { self.scrollState with verticalScroll := none } }
  | .clear =>
    { self with
      buffer := { self.buffer with logs := [] }
      scrollState := { self.scrollState with
        totalRows := 0
        verticalScroll := none
        verticalScrollState := { self.scrollState.verticalScrollState with position := 0 } }
      history := []
      notices := 0 }
  | .scrollUp count => { self with scrollState := self.scrollState.scrollUp count }
  | .scrollDown count => { self with scrollState := self.scrollState.scrollDown count }
  | .mouseMove column row =>
    { self with scrollState := self.scrollState.handleMouseMove column row }
  | .mouseDrag column row =>
    { self with scrollState := self.scrollState.handleMouseDrag column row }
  | .draw area maxSiteLen lines => self.draw area maxSiteLen lines

/-- Whoever needs the buffer waits for the frame that has it. -/
def step (self : LogsPage) (event : LogsEvent) : LogsPage :=
  if self.stuck then self else self.handle event

end LogsPage

/-! ## The lines of a frame -/

theorem fits_iff (areaWidth maxSiteLen itemCountLen index : Nat) (x : LogMsg) :
    x.fits areaWidth maxSiteLen itemCountLen index = true ↔
      ∃ rounds rows, logLines rounds areaWidth maxSiteLen itemCountLen index x = .ok rows := by
  rw [logLines_returns_iff, LogMsg.fits, List.all_eq_true]
  refine forall₂_congr fun c _ => ?_
  rw [Bool.or_eq_true, decide_eq_true_iff]
  cases isWhitespace c <;> simp

/-- The text has no blanks at its ends. -/
def Trimmed (text : List Char) : Prop :=
  (∀ c ∈ text.head?, isWhitespace c = false) ∧ ∀ c ∈ text.getLast?, isWhitespace c = false

theorem trimmed_trim (text : List Char) : Trimmed (trim text) := by
  constructor
  · intro c hc
    obtain ⟨rest, hrest⟩ : trim text <+: text.dropWhile isWhitespace :=
      List.rdropWhile_prefix _ _
    have hhead : (text.dropWhile isWhitespace).head? = some c := by
      rw [← hrest, List.head?_append, Option.mem_def.mp hc, Option.some_or]
    have hnot := List.head?_dropWhile_not isWhitespace text
    rw [hhead] at hnot
    exact hnot
  · intro c hc
    obtain ⟨hne, hlast⟩ := List.mem_getLast?_eq_getLast hc
    rw [hlast]
    exact Bool.eq_false_iff.mpr (List.rdropWhile_last_not _ _ hne)

theorem trim_of_trimmed {text : List Char} (h : Trimmed text) : trim text = text := by
  have hdrop : text.dropWhile isWhitespace = text := by
    cases text with
    | nil => rfl
    | cons c text => exact List.dropWhile_cons_of_neg (by simp [h.1 c rfl])
  rw [trim, hdrop, List.rdropWhile_eq_self_iff]
  intro hne
  simp [h.2 _ (List.getLast?_eq_some_getLast hne)]

/-- A text that was cut short and drawn again is the same. -/
theorem shownText_drawn (x : LogMsg) : shownText x.drawn = shownText x := by
  have htrimmed := trimmed_trim x.msg
  by_cases hlong : (trim x.msg).length > 2000
  · have hshown : shownText x = (trim x.msg).take 1999 ++ "..".toList := if_pos hlong
    have hfront : ((trim x.msg).take 1999).length = 1999 := by
      rw [List.length_take]
      omega
    have hcut : Trimmed ((trim x.msg).take 1999 ++ "..".toList) := by
      constructor
      · intro c hc
        apply htrimmed.1
        rwa [List.head?_append_of_ne_nil _ (List.ne_nil_of_length_pos (by omega)),
          List.head?_take, if_neg (by decide)] at hc
      · intro c hc
        rw [List.getLast?_append_of_ne_nil _ (by decide)] at hc
        cases hc
        decide
    have hlength : ((trim x.msg).take 1999 ++ "..".toList).length > 2000 := by
      rw [List.length_append, hfront]
      decide
    rw [shownText, LogMsg.drawn, hshown, trim_of_trimmed hcut, if_pos hlength,
      List.take_left' hfront]
  · have hshown : shownText x = trim x.msg := if_neg hlong
    rw [shownText, LogMsg.drawn, hshown, trim_of_trimmed htrimmed, if_neg hlong]

theorem drawn_drawn (x : LogMsg) : x.drawn.drawn = x.drawn := by
  rw [LogMsg.drawn, shownText_drawn]
  rfl

/-! ## What is left in the buffer -/

theorem popFrontTo_eq (x : Nat) (logs : List LogMsg) :
    popFrontTo x logs = logs.drop (logs.length - x) := by
  induction logs with
  | nil => exact List.drop_nil.symm
  | cons oldest logs ih =>
    rw [popFrontTo]
    split_ifs with hmore
    · have hcount : (oldest :: logs).length - x = logs.length - x + 1 := by
        rw [List.length_cons] at hmore ⊢
        omega
      rw [ih, hcount, List.drop_succ_cons]
    · rw [Nat.sub_eq_zero_of_le (Nat.le_of_not_lt hmore), List.drop_zero]

theorem length_popFrontTo (x : Nat) (logs : List LogMsg) :
    (popFrontTo x logs).length = min x logs.length := by
  rw [popFrontTo_eq, List.length_drop]
  omega

theorem SharedLogBuffer.push_eq {self : SharedLogBuffer} (hpause : ¬self.pause = true)
    (message : LogMsg) :
    self.push message =
      { self with logs := popFrontTo (self.limit.getD 1000) (self.logs ++ [message]) } := by
  rw [push, if_neg hpause]
  cases self.limit with
  | some x => rfl
  | none => rfl

/-- A message as it came, or as a frame left it. -/
def Shows (shown x : LogMsg) : Prop := shown = x ∨ shown = x.drawn

/-- The messages are the last of the history, 500 of them if there are, and not more than the
most. -/
structure Held (logs history : List LogMsg) (most : Nat) : Prop where
  recent : ∃ kept, kept <:+ history ∧ List.Forall₂ Shows logs kept
  enough : min history.length 500 ≤ logs.length
  bounded : logs.length ≤ most

namespace Held

variable {logs history : List LogMsg} {most : Nat}

theorem nil (most : Nat) : Held [] [] most where
  recent := ⟨[], List.nil_suffix, .nil⟩
  enough := Nat.le_refl 0
  bounded := Nat.zero_le most

theorem mono (h : Held logs history most) {more : Nat} (hmore : logs.length ≤ more) :
    Held logs history more :=
  ⟨h.recent, h.enough, hmore⟩

/-- No limit under which the buffer is cut is below 500. -/
theorem popFrontTo (h : Held logs history most) {x : Nat} (hx : 500 ≤ x) :
    Held (popFrontTo x logs) history (min x most) where
  recent := by
    obtain ⟨kept, hsuffix, hshows⟩ := h.recent
    rw [popFrontTo_eq]
    exact ⟨_, (List.drop_suffix _ kept).trans hsuffix, List.forall₂_drop _ hshows⟩
  enough := by
    have henough := h.enough
    rw [length_popFrontTo]
    omega
  bounded := by
    have hbounded := h.bounded
    rw [length_popFrontTo]
    omega

theorem append (h : Held logs history most) (x : LogMsg) :
    Held (logs ++ [x]) (history ++ [x]) (most + 1) where
  recent := by
    obtain ⟨kept, ⟨dropped, rfl⟩, hshows⟩ := h.recent
    refine ⟨kept ++ [x], ⟨dropped, (List.append_assoc ..).symm⟩, ?_⟩
    exact List.rel_append hshows (.cons (.inl rfl) .nil)
  enough := by
    have henough := h.enough
    simp only [List.length_append, List.length_singleton]
    omega
  bounded := by
    have hbounded := h.bounded
    simp only [List.length_append, List.length_singleton]
    omega

theorem drawn (h : Held logs history most) : Held (logs.map LogMsg.drawn) history most where
  recent := by
    obtain ⟨kept, hsuffix, hshows⟩ := h.recent
    refine ⟨kept, hsuffix, ?_⟩
    rw [List.forall₂_map_left_iff]
    apply hshows.imp
    rintro shown x (rfl | rfl)
    · exact .inr rfl
    · exact .inr (drawn_drawn x)
  enough := by
    rw [List.length_map]
    exact h.enough
  bounded := by
    rw [List.length_map]
    exact h.bounded

end Held

namespace LogsPage

/-- What every step keeps: one of two limits, and the last messages. -/
structure Kept (page : LogsPage) : Prop where
  limit : page.buffer.limit = some 500 ∨ page.buffer.limit = none
  held : Held page.buffer.logs page.history (1000 + page.notices)

variable {self : LogsPage}

theorem Kept.message (h : self.Kept) (x : LogMsg) : (self.handle (.message x)).Kept := by
  rw [handle]
  by_cases hpause : self.buffer.pause = true
  · rw [SharedLogBuffer.push, if_pos hpause, if_pos hpause, if_pos hpause]
    exact h
  · rw [SharedLogBuffer.push_eq hpause, if_neg hpause, if_neg hpause]
    have hlimit : 500 ≤ self.buffer.limit.getD 1000 ∧ self.buffer.limit.getD 1000 ≤ 1000 := by
      rcases h.limit with hlimit | hlimit <;> simp [hlimit]
    refine ⟨h.limit, ((h.held.append x).popFrontTo hlimit.1).mono ?_⟩
    rw [length_popFrontTo]
    omega

theorem Kept.enter (h : self.Kept) : (self.handle .enter).Kept := by
  rw [handle]
  refine ⟨h.limit, ?_⟩
  rcases h.limit with hlimit | hlimit
  · rw [hlimit]
    apply (h.held.popFrontTo (Nat.le_refl 500)).mono
    rw [length_popFrontTo]
    omega
  · rw [hlimit]
    exact h.held

theorem Kept.draw (h : self.Kept) (area : Area) (maxSiteLen lines : Nat) :
    (self.draw area maxSiteLen lines).Kept := by
  rw [LogsPage.draw]
  by_cases hsmall : (decide (area.height < 10) || decide (area.width < 80)) = true
  · rw [if_pos hsmall]
    exact h
  · rw [if_neg hsmall]
    refine ⟨?_, h.held.drawn⟩
    dsimp only
    split_ifs
    · exact .inl rfl
    · exact .inr rfl
    · exact h.limit

theorem Kept.step (h : self.Kept) (event : LogsEvent) : (self.step event).Kept := by
  rw [LogsPage.step]
  split_ifs
  · exact h
  · cases event with
    | message x => exact h.message x
    | togglePause => exact ⟨h.limit, h.held.append _⟩
    | enter => exact h.enter
    | clear => exact ⟨h.limit, .nil _⟩
    | scrollUp count => exact ⟨h.limit, h.held⟩
    | scrollDown count => exact ⟨h.limit, h.held⟩
    | mouseMove column row => exact ⟨h.limit, h.held⟩
    | mouseDrag column row => exact ⟨h.limit, h.held⟩
    | draw area maxSiteLen lines => exact h.draw area maxSiteLen lines

theorem kept_run (events : List LogsEvent) : (Machine.run step new events).Kept :=
  Machine.run_invariant (I := Kept) (fun _ event h => h.step event) ⟨.inl rfl, .nil _⟩ events

/-- **The log page keeps the last messages**: in every run, what is in the buffer is the end of
what came into it since it was cleared, in its order, each message as it came or as a frame
shortens it; the last 500 are there, and never more than 1000 and the notices behind them. -/
theorem messages_kept (events : List LogsEvent) :
    (∃ kept, kept <:+ (Machine.run step new events).history ∧
      List.Forall₂ Shows (Machine.run step new events).buffer.logs kept) ∧
    min (Machine.run step new events).history.length 500 ≤
      (Machine.run step new events).buffer.logs.length ∧
    (Machine.run step new events).buffer.logs.length ≤
      1000 + (Machine.run step new events).notices :=
  have hheld := (kept_run events).held
  ⟨hheld.recent, hheld.enough, hheld.bounded⟩

/-! ## Frames that come back -/

/-- A frame finds no message whose lines do not come back. -/
def Drawable (self : LogsPage) : LogsEvent → Prop
  | .draw area maxSiteLen _ => 10 ≤ area.height → 80 ≤ area.width →
      ∀ entry ∈ self.buffer.logs.zipIdx, ∃ rounds rows,
        logLines rounds area.width maxSiteLen (itemCountLen self.buffer.logs) entry.2 entry.1 =
          .ok rows
  | _ => True

theorem draw_stuck_iff (hfree : self.stuck = false) (area : Area) (maxSiteLen lines : Nat) :
    (self.draw area maxSiteLen lines).stuck = false ↔
      self.Drawable (.draw area maxSiteLen lines) := by
  rw [LogsPage.draw]
  by_cases hsmall : (decide (area.height < 10) || decide (area.width < 80)) = true
  · rw [if_pos hsmall]
    refine iff_of_true hfree ?_
    intro hheight hwidth
    simp only [Bool.or_eq_true, decide_eq_true_iff] at hsmall
    omega
  · rw [if_neg hsmall]
    simp only [Bool.or_eq_true, decide_eq_true_iff, not_or, Nat.not_lt] at hsmall
    change (!_) = false ↔ _
    rw [Bool.not_eq_false', List.all_eq_true]
    have hlines : ∀ entry ∈ self.buffer.logs.zipIdx, _ := fun entry _ =>
      fits_iff area.width maxSiteLen (itemCountLen self.buffer.logs) entry.2 entry.1
    refine (forall₂_congr hlines).trans ⟨fun h _ _ => h, fun h => h hsmall.1 hsmall.2⟩

theorem step_stuck_iff (hfree : self.stuck = false) (event : LogsEvent) :
    (self.step event).stuck = false ↔ self.Drawable event := by
  rw [LogsPage.step, hfree]
  cases event with
  | draw area maxSiteLen lines => exact draw_stuck_iff hfree area maxSiteLen lines
  | _ => exact iff_of_true hfree trivial

/-- Once a frame is stuck, no message is taken and no key is obeyed. -/
theorem stuck_run (hstuck : self.stuck = true) (events : List LogsEvent) :
    Machine.run step self events = self :=
  Machine.run_invariant (I := (· = self))
    (fun page _ h => by rw [h, LogsPage.step, if_pos hstuck]) rfl events

/-- The page is never stuck exactly if every frame of the run finds only messages whose lines
come back. -/
theorem never_stuck_iff (events : List LogsEvent) :
    (∀ first, first <+: events → (Machine.run step new first).stuck = false) ↔
      Machine.Meets step Drawable new events :=
  Machine.meets_iff (I := (LogsPage.stuck · = false)) (J := fun _ => True)
    (fun _ _ _ => trivial) (fun _ event _ hfree => step_stuck_iff hfree event) events trivial rfl

end LogsPage

end OddBox.Tui

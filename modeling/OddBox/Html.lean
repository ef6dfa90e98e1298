import Mathlib

/-!
Where the tags of an HTML text begin and end: the states of a tokenizer between them, inside of
them and inside of the values of their attributes. Character references, and elements whose
content is no markup, are left out.
-/

namespace OddBox.Html

/-! ## Tags -/

/-- An attribute with its value as it is written. -/
abbrev Attribute := List Char × List Char

structure Tag where
  closing : Bool
  name : List Char
  attributes : List Attribute
  deriving DecidableEq

def Tag.add (self : Tag) (name value : List Char) : Tag :=
  { self with attributes := self.attributes ++ [(name, value)] }

/-- A tag, or what is read as a declaration, a comment or an instruction. -/
inductive Markup where
  | tag (tag : Tag)
  | declaration
  deriving DecidableEq

inductive Mode where
  | text
  | opened
  | closing
  | declaration
  | name (closing : Bool) (name : List Char)
  | attributes (tag : Tag)
  | attribute (tag : Tag) (name : List Char)
  | attributeEnd (tag : Tag) (name : List Char)
  | equals (tag : Tag) (name : List Char)
  | value (tag : Tag) (name : List Char) (quote : Option Char) (value : List Char)
  | valueEnd (tag : Tag)
  deriving DecidableEq

def isBlank (c : Char) : Bool := c == ' ' || c == '\n' || c == '\t' || c == '\x0c' || c == '\r'

/-- What makes the character before it, if that is a less-than sign, the start of markup. -/
def startsMarkup (c : Char) : Bool := c.isAlpha || c == '/' || c == '!' || c == '?'

def closed (tag : Tag) : Mode × Option Markup := (.text, some (.tag tag))

def step : Mode → Char → Mode × Option Markup
  | .text, c => if c = '<' then (.opened, none) else (.text, none)
  | .opened, c =>
    if c = '<' then (.opened, none)
    else if c = '/' then (.closing, none)
    else if c = '!' ∨ c = '?' then (.declaration, none)
    else if c.isAlpha then (.name false [c], none)
    else (.text, none)
  | .closing, c =>
    if c.isAlpha then (.name true [c], none)
    else if c = '>' then (.text, none)
    else (.declaration, none)
  | .declaration, c => if c = '>' then (.text, some .declaration) else (.declaration, none)
  | .name closing name, c =>
    if c = '>' then closed ⟨closing, name, []⟩
    else if isBlank c || c == '/' then (.attributes ⟨closing, name, []⟩, none)
    else (.name closing (name ++ [c]), none)
  | .attributes tag, c =>
    if c = '>' then closed tag
    else if isBlank c || c == '/' then (.attributes tag, none)
    else (.attribute tag [c], none)
  | .attribute tag name, c =>
    if c = '>' then closed (tag.add name [])
    else if c = '=' then (.equals tag name, none)
    else if c = '/' then (.attributes (tag.add name []), none)
    else if isBlank c then (.attributeEnd tag name, none)
    else (.attribute tag (name ++ [c]), none)
  | .attributeEnd tag name, c =>
    if c = '>' then closed (tag.add name [])
    else if c = '=' then (.equals tag name, none)
    else if c = '/' then (.attributes (tag.add name []), none)
    else if isBlank c then (.attributeEnd tag name, none)
    else (.attribute (tag.add name []) [c], none)
  | .equals tag name, c =>
    if c = '>' then closed (tag.add name [])
    else if isBlank c then (.equals tag name, none)
    else if c = '"' ∨ c = '\'' then (.value tag name (some c) [], none)
    else (.value tag name none [c], none)
  | .value tag name (some quote) value, c =>
    if c = quote then (.valueEnd (tag.add name value), none)
    else (.value tag name (some quote) (value ++ [c]), none)
  | .value tag name none value, c =>
    if c = '>' then closed (tag.add name value)
    else if isBlank c then (.attributes (tag.add name value), none)
    else (.value tag name none (value ++ [c]), none)
  | .valueEnd tag, c =>
    if c = '>' then closed tag
    else if isBlank c || c == '/' then (.attributes tag, none)
    else (.attribute tag [c], none)

def after : Mode → List Char → Mode
  | mode, [] => mode
  | mode, c :: text => after (step mode c).1 text

/-- The markup that is complete at the end of the text. -/
def markups : Mode → List Char → List Markup
  | _, [] => []
  | mode, c :: text => (step mode c).2.toList ++ markups (step mode c).1 text

@[simp] theorem after_append (mode : Mode) (front back : List Char) :
    after mode (front ++ back) = after (after mode front) back := by
  induction front generalizing mode with
  | nil => rfl
  | cons c front ih => exact ih _

theorem after_flatMap {α : Type} {f : α → List Char} {mode : Mode} (items : List α)
    (h : ∀ item ∈ items, after mode (f item) = mode) : after mode (items.flatMap f) = mode := by
  induction items with
  | nil => rfl
  | cons item items ih =>
      rw [List.forall_mem_cons] at h
      rw [List.flatMap_cons, after_append, h.1, ih h.2]

@[simp] theorem markups_append (mode : Mode) (front back : List Char) :
    markups mode (front ++ back) = markups mode front ++ markups (after mode front) back := by
  induction front generalizing mode with
  | nil => rfl
  | cons c front ih =>
      rw [List.cons_append, markups, ih, markups, List.append_assoc]
      rfl

/-! ## Text and values -/

/-- Markup starts somewhere in the text. -/
def hasMarkup : List Char → Bool
  | [] => false
  | [_] => false
  | first :: second :: text => (first == '<' && startsMarkup second) || hasMarkup (second :: text)

theorem hasMarkup_cons_cons (first second : Char) (text : List Char) :
    hasMarkup (first :: second :: text) = false ↔
      (first = '<' → startsMarkup second = false) ∧ hasMarkup (second :: text) = false := by
  rw [hasMarkup, Bool.or_eq_false_iff, Bool.and_eq_false_iff, beq_eq_false_iff_ne]
  exact and_congr_left' imp_iff_not_or.symm

theorem hasMarkup_tail {c : Char} {text : List Char} (h : hasMarkup (c :: text) = false) :
    hasMarkup text = false := by
  cases text with
  | nil => rfl
  | cons next text => exact ((hasMarkup_cons_cons c next text).mp h).2

/-- Where no markup starts, none is read; a less-than sign at the end is still open. -/
theorem markups_of_hasMarkup {text : List Char} :
    (hasMarkup text = false →
      markups .text text = [] ∧ (after .text text = .text ∨ after .text text = .opened)) ∧
    (hasMarkup ('<' :: text) = false →
      markups .opened text = [] ∧ (after .opened text = .text ∨ after .opened text = .opened)) := by
  induction text with
  | nil => exact ⟨fun _ => ⟨rfl, .inl rfl⟩, fun _ => ⟨rfl, .inr rfl⟩⟩
  | cons c text ih =>
      constructor
      · intro h
        by_cases hless : c = '<'
        · subst hless
          exact ih.2 h
        · have hstep : step .text c = (.text, none) := if_neg hless
          rw [markups, after, hstep]
          exact ih.1 (hasMarkup_tail h)
      · intro h
        obtain ⟨hstart, hrest⟩ := (hasMarkup_cons_cons '<' c text).mp h
        by_cases hless : c = '<'
        · subst hless
          exact ih.2 hrest
        · have hletter := hstart rfl
          simp only [startsMarkup, Bool.or_eq_false_iff, beq_eq_false_iff_ne] at hletter
          obtain ⟨⟨⟨halpha, hslash⟩, hbang⟩, hask⟩ := hletter
          have hstep : step .opened c = (.text, none) := by
            rw [step, if_neg hless, if_neg hslash, if_neg (not_or.mpr ⟨hbang, hask⟩),
              if_neg (by simp [halpha])]
          rw [markups, after, hstep]
          exact ih.1 (hasMarkup_tail hrest)

theorem markups_text {text : List Char} (h : '<' ∉ text) :
    markups .text text = [] ∧ after .text text = .text := by
  induction text with
  | nil => exact ⟨rfl, rfl⟩
  | cons c text ih =>
      rw [List.mem_cons, not_or] at h
      have hstep : step .text c = (.text, none) := if_neg fun hless => h.1 hless.symm
      rw [markups, after, hstep]
      exact ih h.2

/-- The first place where markup starts. -/
theorem exists_of_hasMarkup {text : List Char} (h : hasMarkup text = true) :
    ∃ front c back, text = front ++ '<' :: c :: back ∧ startsMarkup c = true ∧
      hasMarkup (front ++ ['<']) = false := by
  induction text with
  | nil => cases h
  | cons first text ih =>
      cases text with
      | nil => cases h
      | cons second text =>
          by_cases hhere : first = '<' ∧ startsMarkup second = true
          · exact ⟨[], second, text, by rw [hhere.1]; rfl, hhere.2, rfl⟩
          · have hlater : hasMarkup (second :: text) = true := by
              rw [hasMarkup, Bool.or_eq_true, Bool.and_eq_true, beq_iff_eq] at h
              exact h.resolve_left hhere
            obtain ⟨front, c, back, htext, hstart, hfront⟩ := ih hlater
            refine ⟨first :: front, c, back, by rw [htext]; rfl, hstart, ?_⟩
            cases front with
            | nil =>
                obtain ⟨rfl, -⟩ := List.cons.inj htext
                rw [List.cons_append, List.nil_append, hasMarkup_cons_cons]
                exact ⟨fun _ => by decide, hfront⟩
            | cons next front =>
                obtain ⟨rfl, -⟩ := List.cons.inj htext
                rw [List.cons_append, List.cons_append, hasMarkup_cons_cons]
                refine ⟨fun hless => ?_, hfront⟩
                rw [not_and, Bool.not_eq_true] at hhere
                exact hhere hless

theorem hasMarkup_front {front back : List Char} (h : hasMarkup (front ++ back) = false) :
    hasMarkup front = false := by
  induction front with
  | nil => rfl
  | cons first front ih =>
      cases front with
      | nil => rfl
      | cons second front =>
          obtain ⟨hstart, hrest⟩ := (hasMarkup_cons_cons first second (front ++ back)).mp h
          exact (hasMarkup_cons_cons first second front).mpr ⟨hstart, ih hrest⟩

theorem after_less {text : List Char} (h : hasMarkup (text ++ ['<']) = false) :
    markups .text (text ++ ['<']) = [] ∧ after .text (text ++ ['<']) = .opened := by
  refine ⟨(markups_of_hasMarkup.1 h).1, ?_⟩
  rw [after_append]
  rcases (markups_of_hasMarkup.1 (hasMarkup_front h)).2 with htext | hopened
  · rw [htext]
    rfl
  · rw [hopened]
    rfl

/-- What is left of a quoted value is read up to the quote. -/
theorem markups_value {quote : Char} {text : List Char} (h : quote ∉ text) (tag : Tag)
    (name value : List Char) :
    markups (.value tag name (some quote) value) text = [] ∧
      after (.value tag name (some quote) value) text =
        .value tag name (some quote) (value ++ text) := by
  induction text generalizing value with
  | nil => simp [markups, after]
  | cons c text ih =>
      rw [List.mem_cons, not_or] at h
      have hstep : step (.value tag name (some quote) value) c =
          (.value tag name (some quote) (value ++ [c]), none) :=
        if_neg fun hquote => h.1 hquote.symm
      rw [markups, after, hstep]
      simpa using ih h.2 (value ++ [c])

/-- How the value of an attribute is read: its character references are resolved and its line
ends are made alike. Both end at a slash, and neither makes the value longer. -/
structure References where
  resolve : List Char → List Char
  plain : ∀ value, '&' ∉ value → '\r' ∉ value → '\x00' ∉ value → resolve value = value
  split : ∀ front back, resolve (front ++ '/' :: back) = resolve front ++ '/' :: resolve back
  length_le : ∀ value, (resolve value).length ≤ value.length

/-! ## What a tag in progress carries -/

/-- The tag that is being read will have the property, or it is no tag. -/
def Carries (Q : Tag → Prop) : Mode → Prop
  | .text | .opened | .closing => False
  | .declaration => True
  | .name closing _ => ∀ name, Q ⟨closing, name, []⟩
  | .attributes tag | .attribute tag _ | .attributeEnd tag _ | .equals tag _
  | .value tag _ _ _ | .valueEnd tag => Q tag

/-- A declaration, or a tag with the property. -/
def Markup.Has (Q : Tag → Prop) : Markup → Prop
  | .tag written => Q written
  | .declaration => True

section Carries

variable {Q : Tag → Prop} (hadd : ∀ tag name value, Q tag → Q (tag.add name value))
include hadd

theorem carries_step {mode : Mode} (h : Carries Q mode) (c : Char) :
    ((step mode c).2 = none ∧ Carries Q (step mode c).1) ∨
      ∃ markup, (step mode c).2 = some markup ∧ markup.Has Q := by
  fun_cases step mode c
  all_goals first
    | exact absurd h not_false
    | exact .inl ⟨rfl, h⟩
    | exact .inl ⟨rfl, h _⟩
    | exact .inl ⟨rfl, hadd _ _ _ h⟩
    | exact .inr ⟨_, rfl, h⟩
    | exact .inr ⟨_, rfl, h _⟩
    | exact .inr ⟨_, rfl, hadd _ _ _ h⟩

/-- A property that further attributes keep holds of the next markup, if any is read. -/
theorem carries_markups {mode : Mode} (h : Carries Q mode) (text : List Char) :
    ∀ markup ∈ (markups mode text).head?, markup.Has Q := by
  induction text generalizing mode with
  | nil =>
      intro markup hmem
      cases hmem
  | cons c text ih =>
      rcases carries_step hadd h c with ⟨hnone, hnext⟩ | ⟨markup, hsome, hhas⟩
      · rw [markups, hnone]
        exact ih hnext
      · rw [markups, hsome]
        intro other hmem
        cases hmem
        exact hhas

end Carries

/-- After a less-than sign a letter begins a tag that opens, and most other marks no tag. -/
theorem carries_opened {c : Char} (hstart : startsMarkup c = true) (hslash : c ≠ '/') :
    (step .opened c).2 = none ∧ Carries (fun tag => tag.closing = false) (step .opened c).1 := by
  have hless : c ≠ '<' := by
    rintro rfl
    cases hstart
  rw [step, if_neg hless, if_neg hslash]
  split
  · exact ⟨rfl, trivial⟩
  · next hmark =>
    have halpha : c.isAlpha = true := by
      simpa [startsMarkup, hslash, not_or.mp hmark] using hstart
    rw [if_pos halpha]
    exact ⟨rfl, fun _ => rfl⟩

/-- Where markup starts in a text, no end tag is read next. A slash that starts it must be the
last character, and a letter may not follow. -/
theorem head_of_hasMarkup {text : List Char} (h : hasMarkup text = true)
    (hslash : ∀ front back, text = front ++ '<' :: '/' :: back → back = []) (next : Char)
    (hnext : next.isAlpha = false ∧ next ≠ '>') (rest : List Char) :
    ∀ markup ∈ (markups .text (text ++ next :: rest)).head?,
      markup.Has fun tag => tag.closing = false := by
  obtain ⟨front, c, back, rfl, hstart, hfront⟩ := exists_of_hasMarkup h
  have hadd : ∀ (tag : Tag) (name value : List Char), tag.closing = false →
      (tag.add name value).closing = false := fun _ _ _ hclosing => hclosing
  obtain ⟨hread, hafter⟩ := after_less hfront
  have hshape : front ++ '<' :: c :: back ++ next :: rest =
      (front ++ ['<']) ++ c :: (back ++ next :: rest) := by simp
  rw [hshape, markups_append, hread, hafter, List.nil_append, markups]
  by_cases hc : c = '/'
  · subst hc
    obtain rfl := hslash front back rfl
    have hopened : step .opened '/' = (.closing, none) := rfl
    have hclosing : step .closing next = (.declaration, none) := by
      rw [step, if_neg (by simp [hnext.1]), if_neg hnext.2]
    have hcarries : Carries (fun tag => tag.closing = false) .declaration := trivial
    rw [hopened, List.nil_append, markups, hclosing]
    exact carries_markups hadd hcarries rest
  · obtain ⟨hnone, hcarries⟩ := carries_opened hstart hc
    rw [hnone]
    exact carries_markups hadd hcarries _

end OddBox.Html

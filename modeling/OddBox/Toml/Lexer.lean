import Mathlib

/-!
The tokens of a TOML text, for the part of TOML without multi-line strings and
quoted keys. A character outside that part is refused.
-/

namespace OddBox.Toml

inductive Token where
  | word (text : String)
  | text (content : String)
  | equals
  | comma
  | openBracket
  | closeBracket
  | openBrace
  | closeBrace
  | blank
  | newline
  deriving DecidableEq, Repr

/-- What the characters read so far leave unfinished, its characters newest first. -/
inductive Mode where
  | plain
  | word (read : List Char)
  | basic (read : List Char)
  | escape (read : List Char)
  | unicode (read : List Char) (left value : Nat)
  | literal (read : List Char)
  | comment
  deriving DecidableEq, Repr

/-- The characters of bare keys, of truth values and of decimal numbers. -/
def isBare (c : Char) : Bool := c.isAlphanum || c == '_' || c == '-'

/-- No control character other than the tab. -/
def isPrinted (c : Char) : Bool := c == '\t' || (decide (' ' ≤ c) && c != '\x7f')

def plainStep (c : Char) : Option (List Token × Mode) :=
  if c = '\n' then some ([.newline], .plain)
  else if c = ' ' ∨ c = '\t' then some ([.blank], .plain)
  else if c = '#' then some ([], .comment)
  else if c = '"' then some ([], .basic [])
  else if c = '\'' then some ([], .literal [])
  else if c = '=' then some ([.equals], .plain)
  else if c = ',' then some ([.comma], .plain)
  else if c = '[' then some ([.openBracket], .plain)
  else if c = ']' then some ([.closeBracket], .plain)
  else if c = '\x7b' then some ([.openBrace], .plain)
  else if c = '\x7d' then some ([.closeBrace], .plain)
  else if isBare c then some ([], .word [c])
  else none

/-- The character an escape of one character stands for. -/
def escaped : Char → Option Char
  | 'b' => some '\x08'
  | 't' => some '\t'
  | 'n' => some '\n'
  | 'f' => some '\x0c'
  | 'r' => some '\r'
  | '"' => some '"'
  | '\\' => some '\\'
  | _ => none

def hexDigit (c : Char) : Option Nat :=
  if '0' ≤ c ∧ c ≤ '9' then some (c.toNat - '0'.toNat)
  else if 'a' ≤ c ∧ c ≤ 'f' then some (c.toNat - 'a'.toNat + 10)
  else if 'A' ≤ c ∧ c ≤ 'F' then some (c.toNat - 'A'.toNat + 10)
  else none

def lexStep : Mode → Char → Option (List Token × Mode)
  | .plain, c => plainStep c
  | .word read, c =>
    if isBare c then some ([], .word (c :: read))
    else do
      let (tokens, mode) ← plainStep c
      pure (.word (String.ofList read.reverse) :: tokens, mode)
  | .basic read, c =>
    if c = '"' then some ([.text (String.ofList read.reverse)], .plain)
    else if c = '\\' then some ([], .escape read)
    else if isPrinted c then some ([], .basic (c :: read))
    else none
  | .escape read, c =>
    if c = 'u' then some ([], .unicode read 4 0)
    else if c = 'U' then some ([], .unicode read 8 0)
    else do
      let character ← escaped c
      pure ([], .basic (character :: read))
  | .unicode read left value, c => do
    let value := value * 16 + (← hexDigit c)
    -- the last digit makes a scalar value or an error
    if left > 1 then pure ([], .unicode read (left - 1) value)
    else if value.isValidChar then pure ([], .basic (Char.ofNat value :: read))
    else none
  | .literal read, c =>
    if c = '\'' then some ([.text (String.ofList read.reverse)], .plain)
    else if isPrinted c then some ([], .literal (c :: read))
    else none
  | .comment, c =>
    if c = '\n' then some ([.newline], .plain)
    else if isPrinted c then some ([], .comment)
    else none

def lexFrom : Mode → List Char → Option (List Token × Mode)
  | mode, [] => some ([], mode)
  | mode, c :: cs => do
    let (tokens, mode) ← lexStep mode c
    let (more, mode) ← lexFrom mode cs
    pure (tokens ++ more, mode)

/-- The tokens of a text; its end counts as the end of a line. -/
def tokens (text : String) : Option (List Token) := do
  let (tokens, _) ← lexFrom .plain (text ++ "\n").toList
  pure tokens

/-! ## Texts that begin and end between tokens -/

def Lexes (text : String) (tokens : List Token) : Prop :=
  lexFrom .plain text.toList = some (tokens, .plain)

instance (text : String) (tokens : List Token) : Decidable (Lexes text tokens) :=
  inferInstanceAs (Decidable (_ = _))

theorem lexFrom_append {mode next : Mode} {chars more : List Char} {found : List Token}
    (h : lexFrom mode chars = some (found, next)) :
    lexFrom mode (chars ++ more) =
      (lexFrom next more).map fun rest => (found ++ rest.1, rest.2) := by
  induction chars generalizing mode found with
  | nil =>
    obtain ⟨rfl, rfl⟩ := Prod.mk.inj (Option.some.inj h)
    cases hmore : lexFrom mode more <;> simp [hmore]
  | cons c chars ih =>
    rw [lexFrom] at h
    simp only [Option.bind_eq_bind, Option.bind_eq_some_iff] at h
    obtain ⟨⟨first, mode'⟩, hstep, ⟨rest, last⟩, hrest, hfound⟩ := h
    obtain ⟨rfl, rfl⟩ := Prod.mk.inj (Option.some.inj hfound)
    rw [List.cons_append, lexFrom, hstep]
    simp only [Option.bind_eq_bind, Option.bind_some]
    rw [ih hrest]
    cases hmore : lexFrom last more <;> simp

theorem lexes_append {first second : String} {a b : List Token} (hfirst : Lexes first a)
    (hsecond : Lexes second b) : Lexes (first ++ second) (a ++ b) := by
  rw [Lexes, String.toList_append, lexFrom_append hfirst, hsecond]
  rfl

theorem lexes_empty : Lexes "" [] := rfl

theorem tokens_of_lexes {text : String} {found : List Token} (h : Lexes (text ++ "\n") found) :
    tokens text = some found := by
  rw [tokens, show lexFrom .plain (text ++ "\n").toList = some (found, .plain) from h]
  rfl

/-! ## Words and strings -/

theorem plainStep_bare {c : Char} (h : isBare c = true) : plainStep c = some ([], .word [c]) := by
  unfold plainStep
  repeat rw [if_neg (by rintro rfl; revert h; decide)]
  rw [if_neg (by rintro (rfl | rfl) <;> revert h <;> decide)]
  repeat rw [if_neg (by rintro rfl; revert h; decide)]
  rw [if_pos h]

theorem lexFrom_word {read chars : List Char} (h : ∀ c ∈ chars, isBare c = true) :
    lexFrom (.word read) chars = some ([], .word (chars.reverse ++ read)) := by
  induction chars generalizing read with
  | nil => rfl
  | cons c chars ih =>
    obtain ⟨hc, hchars⟩ := List.forall_mem_cons.mp h
    rw [lexFrom, lexStep, if_pos hc]
    simp only [Option.bind_eq_bind, Option.bind_some]
    rw [ih hchars]
    simp

/-- The next character ends a word if it can stand in none. -/
theorem lexFrom_word_end {read : List Char} {c : Char} {cs : List Char} {found : List Token}
    {mode : Mode} (hc : isBare c = false) (h : lexFrom .plain (c :: cs) = some (found, mode)) :
    lexFrom (.word read) (c :: cs) =
      some (.word (String.ofList read.reverse) :: found, mode) := by
  rw [lexFrom] at h ⊢
  simp only [Option.bind_eq_bind, Option.bind_eq_some_iff] at h
  obtain ⟨⟨first, next⟩, hstep, ⟨rest, last⟩, hrest, hfound⟩ := h
  obtain ⟨rfl, rfl⟩ := Prod.mk.inj (Option.some.inj hfound)
  rw [lexStep] at hstep
  rw [lexStep, if_neg (by simp [hc]), hstep]
  simp only [Option.bind_eq_bind, Option.bind_some, Option.pure_def, hrest]
  rfl

def IsWord (text : String) : Prop := text ≠ "" ∧ ∀ c ∈ text.toList, isBare c = true

instance (text : String) : Decidable (IsWord text) :=
  have : Decidable (∀ c ∈ text.toList, isBare c = true) := List.decidableBAll _ _
  inferInstanceAs (Decidable (_ ∧ _))

/-- A text whose first character can stand in no word. -/
def Delimits (text : String) : Prop := ∃ c cs, text.toList = c :: cs ∧ isBare c = false

theorem delimits_append {first : String} (h : Delimits first) (second : String) :
    Delimits (first ++ second) := by
  obtain ⟨c, cs, htext, hc⟩ := h
  exact ⟨c, cs ++ second.toList, by rw [String.toList_append, htext, List.cons_append], hc⟩

theorem lexes_word {word rest : String} {found : List Token} (hword : IsWord word)
    (hrest : Delimits rest) (h : Lexes rest found) :
    Lexes (word ++ rest) (.word word :: found) := by
  obtain ⟨hne, hbare⟩ := hword
  obtain ⟨c, cs, htext, hc⟩ := hrest
  rw [Lexes, htext] at h
  rw [Lexes, String.toList_append, htext]
  cases hchars : word.toList with
  | nil => exact absurd (String.toList_inj.mp hchars) hne
  | cons d ds =>
    rw [hchars] at hbare
    obtain ⟨hd, hds⟩ := List.forall_mem_cons.mp hbare
    have hrun : lexFrom .plain (d :: ds) = some ([], .word (ds.reverse ++ [d])) := by
      rw [lexFrom, lexStep, plainStep_bare hd]
      simp only [Option.bind_eq_bind, Option.bind_some]
      rw [lexFrom_word hds]
      rfl
    rw [lexFrom_append hrun, lexFrom_word_end hc h]
    simp only [Option.map_some, List.nil_append, List.reverse_append, List.reverse_reverse,
      List.reverse_cons, List.reverse_nil, List.singleton_append, ← hchars, String.ofList_toList]

theorem lexFrom_basic {read chars : List Char}
    (h : ∀ c ∈ chars, c ≠ '"' ∧ c ≠ '\\' ∧ isPrinted c = true) :
    lexFrom (.basic read) chars = some ([], .basic (chars.reverse ++ read)) := by
  induction chars generalizing read with
  | nil => rfl
  | cons c chars ih =>
    obtain ⟨⟨hquote, hslash, hprinted⟩, hchars⟩ := List.forall_mem_cons.mp h
    rw [lexFrom, lexStep, if_neg hquote, if_neg hslash, if_pos hprinted]
    simp only [Option.bind_eq_bind, Option.bind_some]
    rw [ih hchars]
    simp

/-- A basic string without quotes, backslashes and control characters. -/
theorem lexes_basic {content : String}
    (h : ∀ c ∈ content.toList, c ≠ '"' ∧ c ≠ '\\' ∧ isPrinted c = true) :
    Lexes ("\"" ++ content ++ "\"") [.text content] := by
  have hopen : lexFrom .plain "\"".toList = some ([], .basic []) := rfl
  have hclose : lexFrom (.basic (content.toList.reverse ++ [])) "\"".toList =
      some ([.text content], .plain) := by
    rw [show "\"".toList = ['"'] from rfl, lexFrom, lexStep, if_pos rfl]
    simp [lexFrom]
  rw [Lexes, String.toList_append, String.toList_append, List.append_assoc,
    lexFrom_append hopen, lexFrom_append (lexFrom_basic h), hclose]
  rfl

/-! ## Strings without escapes -/

/-- A character that a basic string may hold as it is. -/
def NeedsNoEscape (c : Char) : Prop := c ≠ '"' ∧ c ≠ '\\' ∧ isPrinted c = true

instance : DecidablePred NeedsNoEscape := fun _ => inferInstanceAs (Decidable (_ ∧ _))

/-- The characters of the unfinished string. -/
def pending : Mode → Option (List Char)
  | .basic chars => some chars
  | .escape chars => some chars
  | .unicode chars _ _ => some chars
  | _ => none

/-- A character ends the string or adds at most one character to it. -/
theorem lexStep_pending {mode next : Mode} {read : List Char} {c : Char} {first : List Token}
    (hmode : pending mode = some read) (h : lexStep mode c = some (first, next)) :
    (first = [.text (String.ofList read.reverse)] ∧ next = .plain) ∨
      (first = [] ∧ ∃ more, pending next = some more ∧ more.length ≤ read.length + 1) := by
  cases mode with
  | plain => contradiction
  | word _ => contradiction
  | literal _ => contradiction
  | comment => contradiction
  | basic chars =>
    obtain rfl := Option.some.inj hmode
    simp only [lexStep] at h
    split_ifs at h with hquote hslash hprinted
    · obtain ⟨rfl, rfl⟩ := Prod.mk.inj (Option.some.inj h)
      exact .inl ⟨rfl, rfl⟩
    · obtain ⟨rfl, rfl⟩ := Prod.mk.inj (Option.some.inj h)
      exact .inr ⟨rfl, _, rfl, Nat.le_succ _⟩
    · obtain ⟨rfl, rfl⟩ := Prod.mk.inj (Option.some.inj h)
      exact .inr ⟨rfl, _, rfl, le_refl _⟩
  | escape chars =>
    obtain rfl := Option.some.inj hmode
    simp only [lexStep] at h
    split_ifs at h with hu hU
    · obtain ⟨rfl, rfl⟩ := Prod.mk.inj (Option.some.inj h)
      exact .inr ⟨rfl, _, rfl, Nat.le_succ _⟩
    · obtain ⟨rfl, rfl⟩ := Prod.mk.inj (Option.some.inj h)
      exact .inr ⟨rfl, _, rfl, Nat.le_succ _⟩
    · simp only [Option.bind_eq_bind, Option.bind_eq_some_iff] at h
      obtain ⟨character, -, h⟩ := h
      obtain ⟨rfl, rfl⟩ := Prod.mk.inj (Option.some.inj h)
      exact .inr ⟨rfl, _, rfl, le_refl _⟩
  | unicode chars left value =>
    obtain rfl := Option.some.inj hmode
    simp only [lexStep, Option.bind_eq_bind, Option.bind_eq_some_iff] at h
    obtain ⟨digit, -, h⟩ := h
    split_ifs at h with hleft hvalid
    · obtain ⟨rfl, rfl⟩ := Prod.mk.inj (Option.some.inj h)
      exact .inr ⟨rfl, _, rfl, Nat.le_succ _⟩
    · obtain ⟨rfl, rfl⟩ := Prod.mk.inj (Option.some.inj h)
      exact .inr ⟨rfl, _, rfl, le_refl _⟩

/-- Of the characters of a string, the quote that ends it at least is not its content. -/
theorem content_length {mode last : Mode} {read chars : List Char} {content : String}
    {more : List Token} (hmode : pending mode = some read)
    (h : lexFrom mode chars = some (.text content :: more, last)) :
    content.length + 1 ≤ read.length + chars.length := by
  induction chars generalizing mode read with
  | nil =>
    rw [lexFrom] at h
    obtain ⟨hnil, -⟩ := Prod.mk.inj (Option.some.inj h)
    contradiction
  | cons c chars ih =>
    rw [lexFrom] at h
    simp only [Option.bind_eq_bind, Option.bind_eq_some_iff] at h
    obtain ⟨⟨first, next⟩, hstep, ⟨rest, final⟩, hrest, hfound⟩ := h
    obtain ⟨hall, rfl⟩ := Prod.mk.inj (Option.some.inj hfound)
    rcases lexStep_pending hmode hstep with ⟨rfl, rfl⟩ | ⟨rfl, more, hnext, hlength⟩
    · obtain ⟨hcontent, -⟩ := List.cons.inj hall
      obtain rfl := Token.text.inj hcontent
      simp
    · rw [List.nil_append] at hall
      subst hall
      have hless := ih hnext hrest
      simp only [List.length_cons]
      omega

/-- Only a text that needs no escape stands between quotes for itself. -/
theorem needsNoEscape_of_decodes {read chars : List Char}
    (h : lexFrom (.basic read) (chars ++ ['"']) =
      some ([.text (String.ofList (read.reverse ++ chars))], .plain)) :
    ∀ c ∈ chars, NeedsNoEscape c := by
  induction chars generalizing read with
  | nil => simp
  | cons c chars ih =>
    rw [List.cons_append, lexFrom] at h
    simp only [Option.bind_eq_bind, Option.bind_eq_some_iff] at h
    obtain ⟨⟨first, next⟩, hstep, ⟨rest, final⟩, hrest, hfound⟩ := h
    obtain ⟨hfirst, hlast⟩ := Prod.mk.inj (Option.some.inj hfound)
    simp only [lexStep] at hstep
    split_ifs at hstep with hquote hslash hprinted
    · obtain ⟨rfl, rfl⟩ := Prod.mk.inj (Option.some.inj hstep)
      obtain ⟨hcontent, -⟩ := List.cons.inj hfirst
      have hchars := String.ofList_injective (Token.text.inj hcontent)
      simp at hchars
    · obtain ⟨rfl, rfl⟩ := Prod.mk.inj (Option.some.inj hstep)
      rw [List.nil_append] at hfirst
      subst hfirst
      have hless := @content_length (.escape read) _ read _ _ _ rfl hrest
      simp at hless
    · obtain ⟨rfl, rfl⟩ := Prod.mk.inj (Option.some.inj hstep)
      rw [List.nil_append] at hfirst
      subst hfirst hlast
      refine List.forall_mem_cons.mpr ⟨⟨hquote, hslash, hprinted⟩, @ih (c :: read) ?_⟩
      rw [hrest, List.reverse_cons, List.append_assoc]
      rfl

theorem lexes_basic_iff (text : String) :
    Lexes ("\"" ++ text ++ "\"") [.text text] ↔ ∀ c ∈ text.toList, NeedsNoEscape c := by
  refine ⟨?_, lexes_basic⟩
  intro h
  have hopen : lexFrom .plain "\"".toList = some ([], .basic []) := rfl
  unfold Lexes at h
  rw [String.toList_append, String.toList_append, List.append_assoc, lexFrom_append hopen,
    show "\"".toList = ['"'] from rfl] at h
  apply @needsNoEscape_of_decodes []
  cases hlex : lexFrom (.basic []) (text.toList ++ ['"']) with
  | none =>
    rw [hlex] at h
    contradiction
  | some found =>
    rw [hlex] at h
    rw [List.reverse_nil, List.nil_append, String.ofList_toList]
    exact h

end OddBox.Toml

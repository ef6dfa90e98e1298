import Mathlib
import OddBox.Digits
import OddBox.Toml.Lexer
import OddBox.Toml.Reader

/-!
What the reader makes of a text that is put together from phrases: values, the
items of an array, the members of an inline table, lines and headers. A phrase
keeps its tokens to itself, so that a writer is followed phrase by phrase.
-/

namespace OddBox.Toml

theorem run_append_ok {state next : State} {first : List Token}
    (h : run state first = .ok next) (second : List Token) :
    run state (first ++ second) = run next second := by
  rw [run_append, h]
  rfl

/-! ## Phrases -/

/-- The text has these tokens before every text that ends a word. -/
def LexesBefore (text : String) (found : List Token) : Prop :=
  ∀ rest more, Delimits rest → Lexes rest more → Lexes (text ++ rest) (found ++ more)

theorem lexesBefore_of_lexes {text : String} {found : List Token} (h : Lexes text found) :
    LexesBefore text found := fun _ _ _ hrest => lexes_append h hrest

theorem lexesBefore_word {word : String} (h : IsWord word) : LexesBefore word [.word word] :=
  fun _ _ hdelimits hrest => lexes_word h hdelimits hrest

theorem lexesBefore_append {first second : String} {a b : List Token}
    (hfirst : LexesBefore first a) (hsecond : LexesBefore second b) (hdelimits : Delimits second) :
    LexesBefore (first ++ second) (a ++ b) := by
  intro rest more hrest hlexes
  rw [String.append_assoc, List.append_assoc]
  exact hfirst _ _ (delimits_append hdelimits rest) (hsecond rest more hrest hlexes)

/-- The phrase may be followed by a closed one, whether or not that is empty. -/
theorem lexesBefore_append_closed {first second : String} {a b : List Token}
    (hfirst : LexesBefore first a) (hsecond : Lexes second b)
    (hdelimits : second = "" ∨ Delimits second) : LexesBefore (first ++ second) (a ++ b) := by
  rcases hdelimits with rfl | hdelimits
  · obtain rfl : b = [] := by
      have hnil : lexFrom .plain "".toList = some ([], .plain) := rfl
      exact (Prod.mk.inj (Option.some.inj (hsecond.symm.trans hnil))).1
    rwa [String.append_empty, List.append_nil]
  · exact lexesBefore_append hfirst (lexesBefore_of_lexes hsecond) hdelimits

/-! ## Gaps -/

def IsBlank (gap : String) : Prop := ∀ c ∈ gap.toList, c = ' ' ∨ c = '\t'

def IsGap (gap : String) : Prop := ∀ c ∈ gap.toList, c = ' ' ∨ c = '\t' ∨ c = '\n'

instance (gap : String) : Decidable (IsBlank gap) := List.decidableBAll _ _

instance (gap : String) : Decidable (IsGap gap) := List.decidableBAll _ _

theorem gap_of_blank {gap : String} (h : IsBlank gap) : IsGap gap := by
  intro c hc
  rcases h c hc with rfl | rfl <;> simp

theorem gap_step {c : Char} (h : c = ' ' ∨ c = '\t' ∨ c = '\n') :
    ∃ token, lexStep .plain c = some ([token], .plain) ∧
      (token = .blank ∨ token = .newline) ∧ (c ≠ '\n' → token = .blank) := by
  rcases h with rfl | rfl | rfl
  · exact ⟨.blank, rfl, .inl rfl, fun _ => rfl⟩
  · exact ⟨.blank, rfl, .inl rfl, fun _ => rfl⟩
  · exact ⟨.newline, rfl, .inr rfl, fun hne => absurd rfl hne⟩

theorem gap_tokens {gap : String} (h : IsGap gap) :
    ∃ found, Lexes gap found ∧ (∀ token ∈ found, token = .blank ∨ token = .newline) ∧
      (IsBlank gap → ∀ token ∈ found, token = .blank) := by
  unfold Lexes
  unfold IsGap at h
  unfold IsBlank
  generalize gap.toList = chars at h ⊢
  induction chars with
  | nil => exact ⟨[], rfl, by simp, by simp⟩
  | cons c chars ih =>
    obtain ⟨hc, hchars⟩ := List.forall_mem_cons.mp h
    obtain ⟨found, hfound, hgap, hblank⟩ := ih hchars
    obtain ⟨token, hstep, htoken, hline⟩ := gap_step hc
    refine ⟨token :: found, ?_, ?_, ?_⟩
    · rw [lexFrom, hstep]
      simp [hfound]
    · exact List.forall_mem_cons.mpr ⟨htoken, hgap⟩
    · intro hall
      obtain ⟨hfirst, hrest⟩ := List.forall_mem_cons.mp hall
      refine List.forall_mem_cons.mpr ⟨hline ?_, hblank hrest⟩
      rintro rfl
      revert hfirst
      decide

theorem gap_delimits {gap : String} (h : IsGap gap) : gap = "" ∨ Delimits gap := by
  cases hchars : gap.toList with
  | nil => exact .inl (String.toList_inj.mp hchars)
  | cons c cs =>
    refine .inr ⟨c, cs, hchars, ?_⟩
    rcases h c (by simp [hchars]) with rfl | rfl | rfl <;> rfl

/-- Tokens that leave the machine where it is. -/
theorem run_stay {state : State} {found : List Token}
    (h : ∀ token ∈ found, step state token = .ok state) : run state found = .ok state := by
  induction found with
  | nil => rfl
  | cons token found ih =>
    obtain ⟨htoken, hfound⟩ := List.forall_mem_cons.mp h
    rw [run, List.foldlM_cons, htoken]
    exact ih hfound

/-! ## Values -/

/-- A place where a value may begin, and what is open around the value. -/
inductive Expects : Place → Context → Prop where
  | value (context : Context) : Expects (.value context) context
  | item (items : List Value) (outer : Context) :
      Expects (.item items outer) (.array items outer)

def Denotes (found : List Token) (value : Value) : Prop :=
  ∀ document place context, Expects place context →
    run ⟨document, place⟩ found = .ok (deliver document context value)

/-- The text is the value, whatever delimiter follows it. -/
def Spells (text : String) (value : Value) : Prop :=
  ∃ found, LexesBefore text found ∧ Denotes found value

theorem spells_string {content : String}
    (h : ∀ c ∈ content.toList, c ≠ '"' ∧ c ≠ '\\' ∧ isPrinted c = true) :
    Spells ("\"" ++ content ++ "\"") (.string content) := by
  refine ⟨_, lexesBefore_of_lexes (lexes_basic h), ?_⟩
  rintro document _ _ ⟨⟩ <;> rfl

/-- A literal string, given by the tokens of its text. -/
theorem spells_of_text {text content : String} (h : Lexes text [.text content]) :
    Spells text (.string content) := by
  refine ⟨_, lexesBefore_of_lexes h, ?_⟩
  rintro document _ _ ⟨⟩ <;> rfl

theorem spells_scalar {word : String} {value : Value} (hword : IsWord word)
    (h : scalar word = .ok value) : Spells word value := by
  refine ⟨_, lexesBefore_word hword, ?_⟩
  rintro document _ _ ⟨⟩
  · change (do let state ← openValue document _ (.word word); run state []) = _
    simp only [openValue, h]
    rfl
  · change (do let state ← openValue document _ (.word word); run state []) = _
    simp only [openValue, h]
    rfl

theorem spells_boolean (flag : Bool) : Spells (toString flag) (.boolean flag) := by
  cases flag
  · exact spells_scalar (by decide) rfl
  · exact spells_scalar (by decide) rfl

/-! ## Numbers -/

theorem decimal_toDigits (n : Nat) : decimal (Nat.toDigits 10 n) = some n := by
  have hdigits : (Nat.toDigits 10 n).all Char.isDigit = true := by
    rw [List.all_eq_true]
    intro c hc
    exact Nat.isDigit_of_mem_toDigits (by decide) (by decide) hc
  have hzero : (Nat.toDigits 10 n).head? = some '0' → Nat.toDigits 10 n = ['0'] := by
    intro hhead
    rw [Digits.toDigits_head hhead, Nat.toDigits_zero]
  rw [decimal, if_pos ⟨Nat.toDigits_ne_nil, hdigits, hzero⟩, Nat.ofDigitChars_ten_toDigits]

theorem isBare_of_isDigit {c : Char} (h : c.isDigit = true) : isBare c = true := by
  simp [isBare, Char.isAlphanum, h]

theorem isWord_toString (n : Nat) : IsWord (toString n) := by
  have hlist : (toString n).toList = Nat.toDigits 10 n := Nat.toList_repr
  refine ⟨?_, ?_⟩
  · intro hempty
    rw [hempty] at hlist
    exact Nat.toDigits_ne_nil hlist.symm
  · rw [hlist]
    intro c hc
    exact isBare_of_isDigit (Nat.isDigit_of_mem_toDigits (by decide) (by decide) hc)

/-- A number is neither of the truth values. -/
theorem toString_ne_of_not_digit {n : Nat} {word : String}
    (h : word.toList.all Char.isDigit = false) : toString n ≠ word := by
  rintro rfl
  have hlist : (toString n).toList = Nat.toDigits 10 n := Nat.toList_repr
  rw [hlist, List.all_eq_false] at h
  obtain ⟨c, hc, hdigit⟩ := h
  exact hdigit (Nat.isDigit_of_mem_toDigits (by decide) (by decide) hc)

theorem scalar_toString (n : Nat) :
    scalar (toString n) = if n < 2 ^ 63 then .ok (.integer n) else .error .overflow := by
  have hlist : (toString n).toList = Nat.toDigits 10 n := Nat.toList_repr
  rw [scalar, if_neg (toString_ne_of_not_digit (by decide)),
    if_neg (toString_ne_of_not_digit (by decide)), hlist, decimal_toDigits]

theorem spells_integer {n : Nat} (h : n < 2 ^ 63) : Spells (toString n) (.integer n) :=
  spells_scalar (isWord_toString n) (by rw [scalar_toString, if_pos h])

/-! ## Arrays -/

/-- A place in an array from which it can be closed, with the items read so far. -/
inductive Closes (items : List Value) (outer : Context) : Place → Prop where
  | item : Closes items outer (.item items outer)
  | itemEnd : Closes items outer (.itemEnd items outer)

def Lists (text : String) (values : List Value) : Prop :=
  ∃ found, LexesBefore text found ∧ ∀ document items outer, ∃ place,
    Closes (items ++ values) outer place ∧
      run ⟨document, .item items outer⟩ found = .ok ⟨document, place⟩

theorem closes_stays {items : List Value} {outer : Context} {place : Place} {document : Document}
    {token : Token} (h : Closes items outer place) (htoken : token = .blank ∨ token = .newline) :
    step ⟨document, place⟩ token = .ok ⟨document, place⟩ := by
  cases h <;> rcases htoken with rfl | rfl <;> rfl

theorem lists_nil : Lists "" [] := by
  refine ⟨[], lexesBefore_of_lexes lexes_empty, ?_⟩
  intro document items outer
  exact ⟨_, by rw [List.append_nil]; exact .item, rfl⟩

theorem lists_single {text : String} {value : Value} (h : Spells text value) :
    Lists text [value] := by
  obtain ⟨found, hlexes, hdenotes⟩ := h
  refine ⟨found, hlexes, ?_⟩
  intro document items outer
  exact ⟨_, .itemEnd, hdenotes document _ _ (.item items outer)⟩

theorem lists_gap_left {gap text : String} {values : List Value} (hgap : IsGap gap)
    (h : Lists text values) : Lists (gap ++ text) values := by
  obtain ⟨found, hlexes, hruns⟩ := h
  obtain ⟨skipped, hskipped, htokens, -⟩ := gap_tokens hgap
  refine ⟨skipped ++ found, ?_, ?_⟩
  · intro rest more hdelimits hrest
    rw [String.append_assoc, List.append_assoc]
    exact lexes_append hskipped (hlexes rest more hdelimits hrest)
  · intro document items outer
    have hstay : run ⟨document, .item items outer⟩ skipped = .ok ⟨document, .item items outer⟩ :=
      run_stay fun token htoken => closes_stays .item (htokens token htoken)
    rw [run_append_ok hstay]
    exact hruns document items outer

theorem lists_gap_right {gap text : String} {values : List Value} (hgap : IsGap gap)
    (h : Lists text values) : Lists (text ++ gap) values := by
  obtain ⟨found, hlexes, hruns⟩ := h
  obtain ⟨skipped, hskipped, htokens, -⟩ := gap_tokens hgap
  refine ⟨found ++ skipped, lexesBefore_append_closed hlexes hskipped (gap_delimits hgap), ?_⟩
  intro document items outer
  obtain ⟨place, hcloses, hrun⟩ := hruns document items outer
  refine ⟨place, hcloses, ?_⟩
  rw [run_append_ok hrun]
  exact run_stay fun token htoken => closes_stays hcloses (htokens token htoken)

theorem lexes_comma : Lexes "," [.comma] := rfl

theorem lexes_equals : Lexes "=" [.equals] := rfl

theorem delimits_comma (text : String) : Delimits ("," ++ text) :=
  ⟨',', text.toList, by rw [String.toList_append]; rfl, rfl⟩

theorem lists_cons {text rest : String} {value : Value} {values : List Value}
    (hvalue : Spells text value) (hrest : Lists rest values) :
    Lists (text ++ ("," ++ rest)) (value :: values) := by
  obtain ⟨first, hfirst, hdenotes⟩ := hvalue
  obtain ⟨found, hlexes, hruns⟩ := hrest
  have hcomma : LexesBefore ("," ++ rest) ([Token.comma] ++ found) := by
    intro after more hdelimits hafter
    rw [String.append_assoc, List.append_assoc]
    exact lexes_append rfl (hlexes after more hdelimits hafter)
  refine ⟨first ++ ([Token.comma] ++ found),
    lexesBefore_append hfirst hcomma (delimits_comma rest), ?_⟩
  intro document items outer
  obtain ⟨place, hcloses, hrun⟩ := hruns document (items ++ [value]) outer
  refine ⟨place, by rwa [List.append_assoc] at hcloses, ?_⟩
  rw [run_append_ok (hdenotes document _ _ (.item items outer))]
  exact hrun

/-- Items joined by a comma and a gap, each behind a gap of its own. -/
theorem lists_intercalate {α : Type} (lead gap : String) {text : α → String} {value : α → Value}
    (hlead : IsGap lead) (hgap : IsGap gap) {items : List α}
    (h : ∀ item ∈ items, Spells (text item) (value item)) :
    Lists (String.intercalate ("," ++ gap) (items.map fun item => lead ++ text item))
      (items.map value) := by
  induction items with
  | nil => exact lists_nil
  | cons item items ih =>
    obtain ⟨hitem, hitems⟩ := List.forall_mem_cons.mp h
    cases items with
    | nil => exact lists_gap_left hlead (lists_single hitem)
    | cons next items =>
      rw [List.map_cons, List.map_cons, String.intercalate_cons_cons,
        ← List.map_cons (f := fun item => lead ++ text item), String.append_assoc,
        String.append_assoc, String.append_assoc]
      exact lists_gap_left hlead (lists_cons hitem (lists_gap_left hgap (ih hitems)))

theorem spells_array {text : String} {values : List Value} (h : Lists text values) :
    Spells ("[" ++ text ++ "]") (.array values) := by
  obtain ⟨found, hlexes, hruns⟩ := h
  have hclose : LexesBefore (text ++ "]") (found ++ [Token.closeBracket]) :=
    lexesBefore_append hlexes (lexesBefore_of_lexes rfl) ⟨']', [], rfl, rfl⟩
  refine ⟨.openBracket :: (found ++ [Token.closeBracket]), ?_, ?_⟩
  · intro rest more hdelimits hrest
    rw [String.append_assoc, String.append_assoc, ← @String.append_assoc text]
    exact lexes_append (a := [.openBracket]) rfl (hclose rest more hdelimits hrest)
  · intro document place context hexpects
    obtain ⟨after, hcloses, hrun⟩ := hruns document [] context
    have hopen : run ⟨document, place⟩ [.openBracket] = .ok ⟨document, .item [] context⟩ := by
      cases hexpects <;> rfl
    have hend : run ⟨document, after⟩ [.closeBracket] =
        .ok (deliver document context (.array values)) := by
      cases hcloses <;> rfl
    rw [← List.singleton_append, run_append_ok hopen, run_append_ok hrun, hend]

/-! ## Inline tables -/

def Members (text : String) (entries : Table) : Prop :=
  ∃ found, LexesBefore text found ∧ ∀ document before outer,
    run ⟨document, .member before outer⟩ found =
      .ok ⟨document, .memberEnd (before ++ entries) outer⟩

theorem members_single {key left right text : String} {value : Value} (hkey : IsWord key)
    (hleft : IsBlank left) (hright : IsBlank right) (hvalue : Spells text value) :
    Members (key ++ (left ++ ("=" ++ (right ++ text)))) [(key, value)] := by
  obtain ⟨found, hlexes, hdenotes⟩ := hvalue
  obtain ⟨a, ha, -, hablank⟩ := gap_tokens (gap_of_blank hleft)
  obtain ⟨b, hb, -, hbblank⟩ := gap_tokens (gap_of_blank hright)
  have hequals : ∀ rest, Delimits (left ++ ("=" ++ rest)) := by
    intro rest
    have hrest : Delimits ("=" ++ rest) :=
      ⟨'=', rest.toList, by rw [String.toList_append]; rfl, rfl⟩
    rcases gap_delimits (gap_of_blank hleft) with rfl | hdelimits
    · rwa [String.empty_append]
    · exact delimits_append hdelimits _
  refine ⟨.word key :: (a ++ (.equals :: (b ++ found))), ?_, ?_⟩
  · intro rest more hdelimits hrest
    have hend := hlexes rest more hdelimits hrest
    have hafter := lexes_append ha (lexes_append lexes_equals (lexes_append hb hend))
    have hword := lexes_word hkey (hequals (right ++ (text ++ rest))) hafter
    simpa only [String.append_assoc, List.append_assoc, List.cons_append, List.nil_append]
      using hword
  · intro document before outer
    have hkeyed : run ⟨document, .member before outer⟩ [.word key] =
        .ok ⟨document, .memberEquals before key outer⟩ := by
      cases before <;> rfl
    have hfirst : run ⟨document, .memberEquals before key outer⟩ a =
        .ok ⟨document, .memberEquals before key outer⟩ :=
      run_stay fun token htoken => by rw [hablank hleft token htoken]; rfl
    have hsecond : run ⟨document, .value (.table before key outer)⟩ b =
        .ok ⟨document, .value (.table before key outer)⟩ :=
      run_stay fun token htoken => by rw [hbblank hright token htoken]; rfl
    have hsign : run ⟨document, .memberEquals before key outer⟩ [.equals] =
        .ok ⟨document, .value (.table before key outer)⟩ := rfl
    rw [← List.singleton_append, run_append_ok hkeyed, run_append_ok hfirst,
      ← List.singleton_append, run_append_ok hsign, run_append_ok hsecond,
      hdenotes document _ _ (.value _)]
    rfl

theorem members_append {first second : String} {a b : Table} (gap : String)
    (hfirst : Members first a) (hgap : IsBlank gap) (hsecond : Members second b) :
    Members (first ++ ("," ++ (gap ++ second))) (a ++ b) := by
  obtain ⟨found, hlexes, hruns⟩ := hfirst
  obtain ⟨more, hmore, hmoreRuns⟩ := hsecond
  obtain ⟨skipped, hskipped, -, hblank⟩ := gap_tokens (gap_of_blank hgap)
  have hcomma : LexesBefore ("," ++ (gap ++ second)) (.comma :: (skipped ++ more)) := by
    intro rest after hdelimits hrest
    have hafter := lexes_append hskipped (hmore rest after hdelimits hrest)
    simpa only [String.append_assoc, List.append_assoc, List.cons_append, List.nil_append]
      using lexes_append lexes_comma hafter
  refine ⟨found ++ (.comma :: (skipped ++ more)),
    lexesBefore_append hlexes hcomma (delimits_comma _), ?_⟩
  intro document before outer
  have hsign : run ⟨document, .memberEnd (before ++ a) outer⟩ [.comma] =
      .ok ⟨document, .member (before ++ a) outer⟩ := rfl
  have hstay : run ⟨document, .member (before ++ a) outer⟩ skipped =
      .ok ⟨document, .member (before ++ a) outer⟩ :=
    run_stay fun token htoken => by
      rw [hblank hgap token htoken]
      cases before ++ a <;> rfl
  rw [run_append_ok (hruns document before outer), ← List.singleton_append, run_append_ok hsign,
    run_append_ok hstay, hmoreRuns document (before ++ a) outer, List.append_assoc]

theorem spells_table (left right : String) {text : String} {entries : Table} (hleft : IsBlank left)
    (hright : IsBlank right) (h : Members text entries)
    (hkeys : (entries.map Prod.fst).Nodup) :
    Spells ("\x7b" ++ (left ++ (text ++ (right ++ "\x7d")))) (.table entries) := by
  obtain ⟨found, hlexes, hruns⟩ := h
  obtain ⟨a, ha, -, hablank⟩ := gap_tokens (gap_of_blank hleft)
  obtain ⟨b, hb, -, hbblank⟩ := gap_tokens (gap_of_blank hright)
  have hbrace : Delimits (right ++ "\x7d") := by
    rcases gap_delimits (gap_of_blank hright) with rfl | hdelimits
    · exact ⟨'\x7d', [], rfl, rfl⟩
    · exact delimits_append hdelimits _
  have hclosed : Lexes ("\x7b" ++ (left ++ (text ++ (right ++ "\x7d"))))
      (.openBrace :: (a ++ (found ++ (b ++ [Token.closeBrace])))) :=
    lexes_append (a := [.openBrace]) rfl
      (lexes_append ha (hlexes _ _ hbrace (lexes_append hb rfl)))
  refine ⟨_, lexesBefore_of_lexes hclosed, ?_⟩
  intro document place context hexpects
  have hopen : run ⟨document, place⟩ [.openBrace] = .ok ⟨document, .member [] context⟩ := by
    cases hexpects <;> rfl
  have hfirst : run ⟨document, .member [] context⟩ a = .ok ⟨document, .member [] context⟩ :=
    run_stay fun token htoken => by rw [hablank hleft token htoken]; rfl
  have hsecond : run ⟨document, .memberEnd entries context⟩ b =
      .ok ⟨document, .memberEnd entries context⟩ :=
    run_stay fun token htoken => by rw [hbblank hright token htoken]; rfl
  have hend : run ⟨document, .memberEnd entries context⟩ [.closeBrace] =
      .ok (deliver document context (.table entries)) := by
    change (do let state ← closeTable document entries context; run state []) = _
    rw [closeTable, if_pos hkeys]
    rfl
  rw [← List.singleton_append, run_append_ok hopen, run_append_ok hfirst,
    run_append_ok (hruns document [] context), List.nil_append, run_append_ok hsecond, hend]

/-! ## Lines -/

/-- From the start of a line to the start of a line, the text changes the document so. -/
def Reads (text : String) (change : Document → Except Error Document) : Prop :=
  ∃ found, Lexes text found ∧ ∀ document,
    run ⟨document, .start⟩ found = (change document).map (⟨·, .start⟩)

theorem reads_append {first second : String} {f g : Document → Except Error Document}
    (hfirst : Reads first f) (hsecond : Reads second g) :
    Reads (first ++ second) fun document => (f document).bind g := by
  obtain ⟨a, ha, hfruns⟩ := hfirst
  obtain ⟨b, hb, hgruns⟩ := hsecond
  refine ⟨a ++ b, lexes_append ha hb, ?_⟩
  intro document
  rw [run_append, hfruns]
  cases hf : f document with
  | error e => simp [Except.map, Except.bind, hf]
  | ok next => simpa [Except.map, Except.bind, hf] using hgruns next

theorem reads_empty : Reads "" .ok := ⟨[], lexes_empty, fun _ => rfl⟩

theorem reads_newline {text : String} (h : Lexes text [.newline]) : Reads text .ok :=
  ⟨_, h, fun _ => rfl⟩

theorem line_lexes {key text : String} {found : List Token} (hkey : IsWord key)
    (h : LexesBefore text found) :
    Lexes (key ++ (" = " ++ (text ++ "\n")))
      (.word key :: .blank :: .equals :: .blank :: (found ++ [Token.newline])) := by
  have hvalue : Lexes (text ++ "\n") (found ++ [Token.newline]) :=
    h _ _ ⟨'\n', [], rfl, rfl⟩ rfl
  have hsign : Lexes (" = " ++ (text ++ "\n"))
      (.blank :: .equals :: .blank :: (found ++ [Token.newline])) :=
    lexes_append (a := [.blank, .equals, .blank]) rfl hvalue
  exact lexes_word hkey ⟨' ', _, by rw [String.toList_append]; rfl, rfl⟩ hsign

theorem reads_entry {key text : String} {value : Value} (hkey : IsWord key)
    (h : Spells text value) :
    Reads (key ++ (" = " ++ (text ++ "\n"))) fun document => .ok (document.add (key, value)) := by
  obtain ⟨found, hlexes, hdenotes⟩ := h
  refine ⟨_, line_lexes hkey hlexes, ?_⟩
  intro document
  have hopen : run ⟨document, .start⟩ [.word key, .blank, .equals, .blank] =
      .ok ⟨document, .value (.line key)⟩ := rfl
  change run ⟨document, .start⟩
    ([Token.word key, .blank, .equals, .blank] ++ (found ++ [Token.newline])) = _
  rw [run_append_ok hopen, run_append_ok (hdenotes document _ _ (.value _))]
  rfl

/-- A number that is too large is an error wherever the line stands. -/
theorem reads_overflow {key : String} {n : Nat} (hkey : IsWord key) (h : 2 ^ 63 ≤ n) :
    Reads (key ++ (" = " ++ (toString n ++ "\n"))) fun _ => .error .overflow := by
  refine ⟨_, line_lexes hkey (lexesBefore_word (isWord_toString n)), ?_⟩
  intro document
  have hopen : run ⟨document, .start⟩ [.word key, .blank, .equals, .blank] =
      .ok ⟨document, .value (.line key)⟩ := rfl
  change run ⟨document, .start⟩
    ([Token.word key, .blank, .equals, .blank] ++
      ([Token.word (toString n)] ++ [Token.newline])) = _
  rw [run_append_ok hopen]
  change (do
    let state ← (scalar (toString n)).map (deliver document (.line key))
    run state [.newline]) = _
  rw [scalar_toString, if_neg (by omega)]
  rfl

theorem reads_header {name : String} (hname : IsWord name) :
    Reads ("[[" ++ (name ++ "]]\n")) fun document => .ok (document.openSection name) := by
  have hword : Lexes (name ++ "]]\n")
      (.word name :: [.closeBracket, .closeBracket, .newline]) :=
    lexes_word hname ⟨']', _, rfl, rfl⟩ rfl
  exact ⟨_, lexes_append (a := [.openBracket, .openBracket]) rfl hword, fun _ => rfl⟩

theorem read_of_reads {text : String} {change : Document → Except Error Document}
    (h : Reads (text ++ "\n") change) :
    read text = (change ⟨[], []⟩).bind fun document =>
      if document.Distinct then .ok document.table else .error .unsupported := by
  obtain ⟨found, hlexes, hruns⟩ := h
  rw [read, tokens_of_lexes hlexes]
  simp only [hruns]
  cases change ⟨[], []⟩ <;> rfl

end OddBox.Toml

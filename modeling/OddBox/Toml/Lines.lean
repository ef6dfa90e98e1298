import Mathlib
import OddBox.Toml.Fields
import OddBox.Toml.Phrases

/-!
Whole documents line by line: the lines that add entries, the sections, and what
the keys of the table of a document hold.
-/

namespace OddBox.Toml

/-! ## Lines of entries -/

def unlines (lines : List String) : String :=
  lines.foldr (fun line rest => line ++ ("\n" ++ rest)) ""

theorem unlines_cons (line : String) (lines : List String) :
    unlines (line :: lines) = line ++ ("\n" ++ unlines lines) := rfl

theorem unlines_append (first second : List String) :
    unlines (first ++ second) = unlines first ++ unlines second := by
  induction first with
  | nil => exact String.empty_append.symm
  | cons line first ih =>
    rw [List.cons_append, unlines_cons, unlines_cons, ih, String.append_assoc, String.append_assoc]

theorem intercalate_newline {lines : List String} (h : lines ≠ []) :
    "\n".intercalate lines ++ "\n" = unlines lines := by
  induction lines with
  | nil => exact absurd rfl h
  | cons line lines ih =>
    cases lines with
    | nil => simp [unlines]
    | cons next lines =>
      rw [String.intercalate_cons_cons, String.append_assoc, ih (by simp), unlines_cons line,
        String.append_assoc]

def Document.addAll (document : Document) (entries : Table) : Document :=
  entries.foldl Document.add document

def Document.addSections (document : Document) (parts : List Section) : Document :=
  { document with sections := document.sections ++ parts }

theorem addAll_append (document : Document) (first second : Table) :
    document.addAll (first ++ second) = (document.addAll first).addAll second :=
  List.foldl_append

theorem addAll_root (root entries : Table) :
    (⟨root, []⟩ : Document).addAll entries = ⟨root ++ entries, []⟩ := by
  induction entries generalizing root with
  | nil => simp [Document.addAll]
  | cons entry entries ih =>
    change (⟨root ++ [entry], []⟩ : Document).addAll entries = _
    rw [ih, List.append_assoc, List.singleton_append]

theorem add_addSections (document : Document) (name : String) (entries : Table)
    (entry : String × Value) :
    (document.addSections [⟨name, entries⟩]).add entry =
      document.addSections [⟨name, entries ++ [entry]⟩] := by
  simp [Document.add, Document.addSections]

/-- The entries after a header are those of its section. -/
theorem addAll_openSection (document : Document) (name : String) (entries : Table) :
    (document.openSection name).addAll entries = document.addSections [⟨name, entries⟩] := by
  have hrun : ∀ (later earlier : Table),
      (document.addSections [⟨name, earlier⟩]).addAll later =
        document.addSections [⟨name, earlier ++ later⟩] := by
    intro later
    induction later with
    | nil => intro earlier; rw [List.append_nil]; rfl
    | cons entry later ih =>
      intro earlier
      change ((document.addSections [⟨name, earlier⟩]).add entry).addAll later = _
      rw [add_addSections, ih, List.append_assoc, List.singleton_append]
  exact hrun entries []

/-- The lines add those of the entries that are there. -/
def Adds (lines : List String) (fields : List (String × Option Value)) : Prop :=
  Reads (unlines lines) fun document => .ok (document.addAll (present fields))

theorem adds_append {first second : List String} {a b : List (String × Option Value)}
    (hfirst : Adds first a) (hsecond : Adds second b) : Adds (first ++ second) (a ++ b) := by
  have hboth := reads_append hfirst hsecond
  rw [← unlines_append] at hboth
  have hchange : (fun document : Document =>
      (Except.ok (document.addAll (present a)) : Except Error Document).bind fun document =>
        .ok (document.addAll (present b))) =
      fun document => .ok (document.addAll (present (a ++ b))) := by
    funext document
    rw [present_append, addAll_append]
    rfl
  rwa [hchange] at hboth

theorem adds_absent (key : String) : Adds [] [(key, none)] := reads_empty

/-- The lines of one entry; its value may take several of them. -/
theorem adds_entry {lines : List String} {key text : String} {value : Value} (hkey : IsWord key)
    (h : Spells text value) (hlines : unlines lines = key ++ (" = " ++ (text ++ "\n"))) :
    Adds lines [(key, some value)] := by
  have hentry := reads_entry hkey h
  rwa [← hlines] at hentry

theorem adds_line {line key text : String} {value : Value} (hkey : IsWord key)
    (h : Spells text value) (hline : line = key ++ (" = " ++ text)) :
    Adds [line] [(key, some value)] := by
  refine adds_entry hkey h ?_
  rw [hline, unlines_cons]
  simp [unlines, String.append_assoc]

theorem adds_comment {line : String} (h : Lexes (line ++ "\n") [.newline]) : Adds [line] [] :=
  reads_newline (by rwa [unlines_cons, unlines, List.foldr_nil, String.append_empty])

/-! ## Sections -/

theorem reads_section {lines : List String} (name : String)
    {fields : List (String × Option Value)} (hname : IsWord name) (h : Adds lines fields) :
    Reads (unlines (("\n[[" ++ (name ++ "]]")) :: lines)) fun document =>
      .ok (document.addSections [⟨name, present fields⟩]) := by
  have hnewline : Reads "\n" .ok := reads_newline rfl
  have hheader := reads_append (reads_append hnewline (reads_header hname)) h
  have htext : "\n" ++ ("[[" ++ (name ++ "]]\n")) ++ unlines lines =
      unlines (("\n[[" ++ (name ++ "]]")) :: lines) := by
    rw [unlines_cons, show "\n[[" = "\n" ++ "[[" from rfl, show "]]\n" = "]]" ++ "\n" from rfl]
    simp only [String.append_assoc]
  rw [htext] at hheader
  have hchange : ∀ document : Document,
      Except.ok ((document.openSection name).addAll (present fields)) =
        (.ok (document.addSections [⟨name, present fields⟩]) : Except Error Document) := by
    intro document
    rw [addAll_openSection]
  simpa only [Except.bind, hchange] using hheader

/-- Sections one after the other; the first that does not fit ends the reading. -/
theorem reads_sections {α : Type} {lines : α → List String} {fits : α → Prop}
    [DecidablePred fits] {part : α → Section} {items : List α}
    (h : ∀ x ∈ items, Reads (unlines (lines x)) fun document =>
      if fits x then .ok (document.addSections [part x]) else .error .overflow) :
    Reads (unlines (items.flatMap lines)) fun document =>
      if ∀ x ∈ items, fits x then .ok (document.addSections (items.map part))
      else .error .overflow := by
  induction items with
  | nil =>
    have hnil : (fun document : Document =>
        if ∀ x ∈ ([] : List α), fits x then
          (.ok (document.addSections (([] : List α).map part)) : Except Error Document)
        else .error .overflow) = .ok := by
      funext document
      simp [Document.addSections]
    rw [hnil]
    exact reads_empty
  | cons x items ih =>
    obtain ⟨hx, hitems⟩ := List.forall_mem_cons.mp h
    have hboth := reads_append hx (ih hitems)
    rw [← unlines_append] at hboth
    rw [List.flatMap_cons]
    refine (congrArg (Reads _) (funext fun document => ?_)).mp hboth
    by_cases hfits : fits x
    · simp [hfits, Except.bind, Document.addSections]
    · simp [hfits, Except.bind]

theorem reads_all_sections {α : Type} {lines : α → List String} {part : α → Section}
    {items : List α} (h : ∀ x ∈ items, Reads (unlines (lines x)) fun document =>
      .ok (document.addSections [part x])) :
    Reads (unlines (items.flatMap lines)) fun document =>
      .ok (document.addSections (items.map part)) := by
  have hall := @reads_sections _ lines (fun _ => True) _ part items fun x hx => by
    simpa only [if_true] using h x hx
  simpa only [implies_true, if_true] using hall

/-! ## Keys of a document -/

theorem lookup_append {first second : Table} {key : String}
    (h : key ∉ second.map Prod.fst) : (first ++ second).lookup key = first.lookup key := by
  rw [List.lookup_append, lookup_eq_none h, Option.or_none]

theorem document_sections_keys (document : Document) :
    ((document.sections.map Section.name).dedup.map fun name => ((name, .array
      ((document.sections.filter (·.name = name)).map (.table ·.entries))) :
        String × Value)).map Prod.fst = (document.sections.map Section.name).dedup := by
  rw [List.map_map]
  exact List.map_id _

theorem table_lookup_root {document : Document} {key : String}
    (h : key ∉ document.sections.map Section.name) :
    document.table.lookup key = document.root.lookup key := by
  refine lookup_append ?_
  rw [document_sections_keys, List.mem_dedup]
  exact h

theorem lookup_map {names : List String} {content : String → Value} {key : String}
    (h : key ∈ names) : (names.map fun name => (name, content name)).lookup key =
      some (content key) := by
  induction names with
  | nil => simp at h
  | cons name names ih =>
    rw [List.map_cons, List.lookup_cons]
    by_cases hname : key = name
    · simp [hname]
    · rw [beq_eq_false_iff_ne.mpr hname]
      exact ih ((List.mem_cons.mp h).resolve_left hname)

/-- The sections of a name, none or an array of tables. -/
theorem table_lookup_section {document : Document} {key : String}
    (h : key ∉ document.root.map Prod.fst) :
    document.table.lookup key =
      if (document.sections.filter (·.name = key)) = [] then none
      else some (.array ((document.sections.filter (·.name = key)).map (.table ·.entries))) := by
  rw [Document.table, List.lookup_append, lookup_eq_none h, Option.none_or]
  split
  · next hempty =>
    refine lookup_eq_none ?_
    rw [document_sections_keys, List.mem_dedup, List.mem_map]
    rintro ⟨part, hpart, hname⟩
    have hmem : part ∈ document.sections.filter (·.name = key) := by simp [hpart, hname]
    rw [hempty] at hmem
    simp at hmem
  · next hsome =>
    obtain ⟨part, hpart⟩ := List.exists_mem_of_ne_nil _ hsome
    obtain ⟨hpart, hname⟩ := List.mem_filter.mp hpart
    refine lookup_map (List.mem_dedup.mpr ?_)
    exact List.mem_map.mpr ⟨part, hpart, by simpa using hname⟩

end OddBox.Toml

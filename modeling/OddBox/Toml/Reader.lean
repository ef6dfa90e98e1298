import Mathlib
import OddBox.Toml.Lexer

/-!
A reader of TOML texts: a machine over the tokens that keeps the sections read so
far, the place it is in and, inside a value, what is open around it. It takes key
and value lines, headers of arrays of tables, and as values strings, truth values,
natural numbers, arrays and inline tables. What is outside that part is refused
as `unsupported`; a number that no signed 64-bit integer holds is no TOML at all.
-/

namespace OddBox.Toml

inductive Value where
  | string (content : String)
  | integer (number : Int)
  | float (text : String)
  | boolean (flag : Bool)
  | datetime (text : String)
  | array (items : List Value)
  | table (entries : List (String × Value))
  deriving Repr

/-- A table, its entries in the order of the text. -/
abbrev Table := List (String × Value)

inductive Error where
  | unsupported
  | overflow
  deriving DecidableEq, Repr

/-- The lines under one `[[name]]` header. -/
structure Section where
  name : String
  entries : Table

structure Document where
  root : Table
  sections : List Section

/-- A line belongs to the last section, if there is one. -/
def Document.add (document : Document) (entry : String × Value) : Document :=
  match document.sections.getLast? with
  | none => { document with root := document.root ++ [entry] }
  | some last =>
    { document with
      sections := document.sections.dropLast ++
        [{ last with entries := last.entries ++ [entry] }] }

def Document.openSection (document : Document) (name : String) : Document :=
  { document with sections := document.sections ++ [⟨name, []⟩] }

/-- What is open around a value. -/
inductive Context where
  | line (key : String)
  | array (items : List Value) (outer : Context)
  | table (entries : Table) (key : String) (outer : Context)

inductive Place where
  | start
  | headerOpen
  | headerName
  | headerNamed (name : String)
  | headerClose (name : String)
  | lineEnd
  | equals (key : String)
  | value (context : Context)
  | item (items : List Value) (outer : Context)
  | itemEnd (items : List Value) (outer : Context)
  | member (entries : Table) (outer : Context)
  | memberEquals (entries : Table) (key : String) (outer : Context)
  | memberEnd (entries : Table) (outer : Context)

structure State where
  document : Document
  place : Place

/-! ## One token -/

/-- A number without sign, separators and leading zeros. -/
def decimal (digits : List Char) : Option Nat :=
  if digits ≠ [] ∧ digits.all Char.isDigit ∧ (digits.head? = some '0' → digits = ['0']) then
    some (Nat.ofDigitChars 10 digits 0)
  else none

def scalar (word : String) : Except Error Value :=
  if word = "true" then .ok (.boolean true)
  else if word = "false" then .ok (.boolean false)
  else
    match decimal word.toList with
    | some number => if number < 2 ^ 63 then .ok (.integer number) else .error .overflow
    | none => .error .unsupported

/-- The state after a whole value. -/
def deliver (document : Document) (context : Context) (value : Value) : State :=
  match context with
  | .line key => ⟨document.add (key, value), .lineEnd⟩
  | .array items outer => ⟨document, .itemEnd (items ++ [value]) outer⟩
  | .table entries key outer => ⟨document, .memberEnd (entries ++ [(key, value)]) outer⟩

def openValue (document : Document) (context : Context) : Token → Except Error State
  | .text content => .ok (deliver document context (.string content))
  | .word word => (scalar word).map (deliver document context)
  | .openBracket => .ok ⟨document, .item [] context⟩
  | .openBrace => .ok ⟨document, .member [] context⟩
  | _ => .error .unsupported

/-- No key twice. -/
def closeTable (document : Document) (entries : Table) (outer : Context) : Except Error State :=
  if (entries.map Prod.fst).Nodup then .ok (deliver document outer (.table entries))
  else .error .unsupported

def step (state : State) (token : Token) : Except Error State :=
  let document := state.document
  match state.place, token with
  | .start, .blank | .start, .newline => .ok state
  | .start, .word key => .ok ⟨document, .equals key⟩
  | .start, .openBracket => .ok ⟨document, .headerOpen⟩
  | .headerOpen, .openBracket => .ok ⟨document, .headerName⟩
  | .headerName, .blank => .ok state
  | .headerName, .word name => .ok ⟨document, .headerNamed name⟩
  | .headerNamed _, .blank => .ok state
  | .headerNamed name, .closeBracket => .ok ⟨document, .headerClose name⟩
  | .headerClose name, .closeBracket => .ok ⟨document.openSection name, .lineEnd⟩
  | .lineEnd, .blank => .ok state
  | .lineEnd, .newline => .ok ⟨document, .start⟩
  | .equals _, .blank => .ok state
  | .equals key, .equals => .ok ⟨document, .value (.line key)⟩
  | .value _, .blank => .ok state
  | .value context, token => openValue document context token
  | .item _ _, .blank | .item _ _, .newline => .ok state
  | .item items outer, .closeBracket => .ok (deliver document outer (.array items))
  | .item items outer, token => openValue document (.array items outer) token
  | .itemEnd _ _, .blank | .itemEnd _ _, .newline => .ok state
  | .itemEnd items outer, .comma => .ok ⟨document, .item items outer⟩
  | .itemEnd items outer, .closeBracket => .ok (deliver document outer (.array items))
  | .member _ _, .blank => .ok state
  | .member entries outer, .word key => .ok ⟨document, .memberEquals entries key outer⟩
  -- a comma may not stand before the closing brace
  | .member [] outer, .closeBrace => closeTable document [] outer
  | .memberEquals _ _ _, .blank => .ok state
  | .memberEquals entries key outer, .equals => .ok ⟨document, .value (.table entries key outer)⟩
  | .memberEnd _ _, .blank => .ok state
  | .memberEnd entries outer, .comma => .ok ⟨document, .member entries outer⟩
  | .memberEnd entries outer, .closeBrace => closeTable document entries outer
  | _, _ => .error .unsupported

/-! ## Whole texts -/

def run (state : State) (tokens : List Token) : Except Error State := tokens.foldlM step state

/-- The sections of one name are an array of tables in the table of the document. -/
def Document.table (document : Document) : Table :=
  document.root ++ (document.sections.map Section.name).dedup.map fun name =>
    (name, .array ((document.sections.filter (·.name = name)).map (.table ·.entries)))

/-- No key twice in the root or in a section, and no section named as a key of the root. -/
def Document.Distinct (document : Document) : Prop :=
  (document.root.map Prod.fst).Nodup ∧
    ∀ part ∈ document.sections,
      (part.entries.map Prod.fst).Nodup ∧ part.name ∉ document.root.map Prod.fst

instance (document : Document) : Decidable document.Distinct :=
  inferInstanceAs (Decidable (_ ∧ _))

def finish (state : State) : Except Error Table :=
  match state.place with
  | .start =>
    if state.document.Distinct then .ok state.document.table else .error .unsupported
  | _ => .error .unsupported

def read (text : String) : Except Error Table :=
  match tokens text with
  | none => .error .unsupported
  | some tokens => do
    let state ← run ⟨⟨[], []⟩, .start⟩ tokens
    finish state

theorem run_append (state : State) (first second : List Token) :
    run state (first ++ second) = (run state first).bind (run · second) :=
  List.foldlM_append

end OddBox.Toml

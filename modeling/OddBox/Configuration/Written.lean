import Mathlib
import OddBox.Configuration.ToString
import OddBox.Toml.Lines

/-!
What the lines of `to_string` say as TOML, for texts that need no escapes: the
entries of the root and one section for every site, each with the keys that are
never written.
-/

namespace OddBox.Configuration

open Toml

/-! ## The texts of a configuration -/

section

variable (P Q : String → Prop)

def EnvVar.Texts (envVar : EnvVar) : Prop := P envVar.key ∧ P envVar.value

def DirServer.Texts (s : DirServer) : Prop := P s.hostName ∧ P s.dir

def RemoteSiteConfig.Texts (site : RemoteSiteConfig) : Prop :=
  P site.hostName ∧ ∀ b ∈ site.backends, Q b.address

structure InProcessSiteConfig.Texts (process : InProcessSiteConfig) : Prop where
  hostName : P process.hostName
  dir : ∀ dir ∈ process.dir, P dir
  bin : P process.bin
  args : ∀ arg ∈ process.args.getD [], P arg
  envVars : ∀ envVar ∈ process.envVars.getD [], envVar.Texts P

/-- All texts of the document: `P` for those that `Debug` writes, `Q` for those that
are put between quotes as they are. -/
structure OddBoxV3Config.Texts (config : OddBoxV3Config) : Prop where
  rootDir : ∀ dir ∈ config.rootDir, P dir
  envVars : ∀ envVar ∈ config.envVars, envVar.Texts P
  email : ∀ email ∈ config.letsEncryptAccountEmail, Q email
  oddBoxUrl : ∀ url ∈ config.oddBoxUrl, P url
  oddBoxPassword : ∀ password ∈ config.oddBoxPassword, P password
  dirServers : ∀ s ∈ config.dirServer.getD [], s.Texts P
  remoteTargets : ∀ site ∈ config.remoteTarget.getD [], site.Texts P Q
  hostedProcesses : ∀ process ∈ config.hostedProcess.getD [], process.Texts P

variable {P Q} {P' Q' : String → Prop} (hP : ∀ text, P text → P' text)
  (hQ : ∀ text, Q text → Q' text)

include hP

theorem envVar_texts_mono {envVar : EnvVar} (h : envVar.Texts P) : envVar.Texts P' :=
  ⟨hP _ h.1, hP _ h.2⟩

theorem process_texts_mono {process : InProcessSiteConfig} (h : process.Texts P) :
    process.Texts P' where
  hostName := hP _ h.hostName
  dir := fun dir hdir => hP _ (h.dir dir hdir)
  bin := hP _ h.bin
  args := fun arg harg => hP _ (h.args arg harg)
  envVars := fun envVar henvVar => envVar_texts_mono hP (h.envVars envVar henvVar)

include hQ

theorem config_texts_mono {config : OddBoxV3Config} (h : config.Texts P Q) :
    config.Texts P' Q' where
  rootDir := fun dir hdir => hP _ (h.rootDir dir hdir)
  envVars := fun envVar henvVar => envVar_texts_mono hP (h.envVars envVar henvVar)
  email := fun email hemail => hQ _ (h.email email hemail)
  oddBoxUrl := fun url hurl => hP _ (h.oddBoxUrl url hurl)
  oddBoxPassword := fun password hpassword => hP _ (h.oddBoxPassword password hpassword)
  dirServers := fun s hs => ⟨hP _ (h.dirServers s hs).1, hP _ (h.dirServers s hs).2⟩
  remoteTargets := fun site hsite =>
    ⟨hP _ (h.remoteTargets site hsite).1, fun b hb => hQ _ ((h.remoteTargets site hsite).2 b hb)⟩
  hostedProcesses := fun process hprocess =>
    process_texts_mono hP (h.hostedProcesses process hprocess)

end

/-! ## Plain texts -/

/-- Printable ASCII without quotes and backslashes. -/
def IsPlain (text : String) : Prop :=
  ∀ c ∈ text.toList, ' ' ≤ c ∧ c ≤ '~' ∧ c ≠ '"' ∧ c ≠ '\'' ∧ c ≠ '\\'

instance (text : String) : Decidable (IsPlain text) := List.decidableBAll _ _

/-- The literal that `Debug` writes is the text as a TOML string. -/
def SpelledQuoted (printable : Char → Bool) (text : String) : Prop :=
  Spells (quoted printable text) (.string text)

/-- The text between quotes is itself as a TOML string. -/
def SpelledRaw (text : String) : Prop := Spells ("\"" ++ text ++ "\"") (.string text)

def OddBoxV3Config.Plain (config : OddBoxV3Config) : Prop := config.Texts IsPlain IsPlain

/-- Every literal of the configuration is its text. -/
def OddBoxV3Config.Spelled (printable : Char → Bool) (config : OddBoxV3Config) : Prop :=
  config.Texts (SpelledQuoted printable) SpelledRaw

theorem plain_basic {text : String} (h : IsPlain text) :
    ∀ c ∈ text.toList, c ≠ '"' ∧ c ≠ '\\' ∧ isPrinted c = true := by
  intro c hc
  obtain ⟨hlow, hhigh, hquote, -, hslash⟩ := h c hc
  refine ⟨hquote, hslash, ?_⟩
  have hdel : c ≠ '\x7f' := by
    rintro rfl
    exact absurd hhigh (by decide)
  simp [isPrinted, hlow, hdel]

theorem spells_plain {text : String} (h : IsPlain text) : SpelledRaw text :=
  spells_string (plain_basic h)

theorem escapeDebug_plain (printable : Char → Bool) {c : Char} (hlow : ' ' ≤ c) (hhigh : c ≤ '~')
    (hquote : c ≠ '"') (hslash : c ≠ '\\') : escapeDebug printable c = [c] := by
  have hcontrol : ∀ d : Char, d < ' ' → c ≠ d := by
    rintro d hd rfl
    exact absurd hlow (Char.not_le.mpr hd)
  have hascii : c.val < 128 := UInt32.lt_of_le_of_lt hhigh (by decide)
  have hdel : c ≠ '\x7f' := by
    rintro rfl
    exact absurd hhigh (by decide)
  rw [escapeDebug, if_neg (hcontrol _ (by decide)), if_neg (hcontrol _ (by decide)),
    if_neg (hcontrol _ (by decide)), if_neg (hcontrol _ (by decide)),
    if_neg (by rintro (h | h) <;> contradiction), if_pos hascii, if_pos ⟨hlow, hdel⟩]

theorem quoted_plain (printable : Char → Bool) {text : String} (h : IsPlain text) :
    quoted printable text = "\"" ++ text ++ "\"" := by
  have hchars : text.toList.flatMap (escapeDebug printable) = text.toList := by
    have hall := h
    unfold IsPlain at hall
    revert hall
    induction text.toList with
    | nil => intro _; rfl
    | cons c chars ih =>
      intro hall
      obtain ⟨⟨hlow, hhigh, hquote, -, hslash⟩, hchars⟩ := List.forall_mem_cons.mp hall
      rw [List.flatMap_cons, escapeDebug_plain printable hlow hhigh hquote hslash, ih hchars]
      rfl
  rw [quoted, hchars, String.ofList_toList]

theorem spells_quoted (printable : Char → Bool) {text : String} (h : IsPlain text) :
    SpelledQuoted printable text := by
  rw [SpelledQuoted, quoted_plain printable h]
  exact spells_plain h

theorem plain_spelled (printable : Char → Bool) {config : OddBoxV3Config} (h : config.Plain) :
    config.Spelled printable :=
  config_texts_mono (fun _ => spells_quoted printable) (fun _ => spells_plain) h

theorem spells_ip (ip : IpAddr) : Spells ("\"" ++ ip.fmt ++ "\"") (.string ip.fmt) := by
  have hall : ∀ n : Fin 128, IsIpChar (Char.ofNat n) → Char.ofNat n ≠ '"' ∧
      Char.ofNat n ≠ '\\' ∧ isPrinted (Char.ofNat n) = true := by
    unfold IsIpChar
    decide +kernel
  refine spells_string fun c hc => ?_
  have hip := ip.fmt_chars c hc
  have hascii : c.toNat < 128 := by
    rcases hip with halnum | rfl | rfl
    · simp only [Char.isAlphanum, Char.isAlpha, Char.isUpper, Char.isLower, Char.isDigit,
        Bool.or_eq_true, decide_eq_true_eq, Bool.and_eq_true, ge_iff_le] at halnum
      rw [Char.toNat]
      simp only [UInt32.le_iff_toNat_le] at halnum
      have hz : ('Z'.val.toNat, 'z'.val.toNat, '9'.val.toNat) = (90, 122, 57) := rfl
      simp only [Prod.mk.injEq] at hz
      omega
    · decide
    · decide
  have hcheck := hall ⟨c.toNat, hascii⟩
  simp only [Char.ofNat_toNat] at hcheck
  exact hcheck hip

/-! ## Options -/

/-- What is written of a truth value that is written only when it is true. -/
def trueOnly : Option Bool → Option Bool
  | some true => some true
  | _ => none

/-- A key and a value, the text up to the value given as the source has it. -/
theorem adds_assignment {label key text : String} {value : Value} (hkey : IsWord key)
    (hlabel : label = key ++ " = ") (h : Spells text value) :
    Adds [label ++ text] [(key, some value)] :=
  adds_line hkey h (by rw [hlabel, String.append_assoc])

/-- The same for a value between quotes. -/
theorem adds_quotation {label key content : String} {value : Value} (hkey : IsWord key)
    (hlabel : label = key ++ " = \"") (h : Spells ("\"" ++ content ++ "\"") value) :
    Adds [label ++ content ++ "\""] [(key, some value)] := by
  refine adds_line hkey h ?_
  rw [hlabel, show " = \"" = " = " ++ "\"" from rfl]
  simp only [String.append_assoc]

theorem adds_pushAll {α : Type} {option : Option α} {lines : α → List String} {key : String}
    {value : α → Value} (h : ∀ x ∈ option, Adds (lines x) [(key, some (value x))]) :
    Adds (pushAll option lines) [(key, option.map value)] := by
  cases option with
  | none => exact adds_absent key
  | some x => exact h x rfl

theorem adds_pushIf {α : Type} {option : Option α} {line : α → String} {key : String}
    {value : α → Value} (h : ∀ x ∈ option, Adds [line x] [(key, some (value x))]) :
    Adds (pushIf option line) [(key, option.map value)] := adds_pushAll h

theorem adds_pushOr {α : Type} {option : Option α} {line : α → String} {absent key : String}
    (value : α → Value) {other : α} (h : ∀ x ∈ option, Adds [line x] [(key, some (value x))])
    (habsent : Adds [absent] [(key, some (value other))]) :
    Adds [pushOr option line absent] [(key, some (value (option.getD other)))] := by
  cases option with
  | none => exact habsent
  | some x => exact h x rfl

theorem adds_pushIfTrue (option : Option Bool) {line key : String} (hkey : IsWord key)
    (hline : line = key ++ (" = " ++ "true")) :
    Adds (pushIfTrue option line) [(key, (trueOnly option).map .boolean)] := by
  match option with
  | some true => exact adds_line hkey (spells_boolean true) hline
  | some false => exact adds_absent key
  | none => exact adds_absent key

/-- The lines of an array whose brackets stand on lines of their own. -/
theorem adds_array {lines : List String} {key body : String} {values : List Value}
    (hkey : IsWord key) (h : Lists body values)
    (hlines : unlines lines = key ++ (" = " ++ ("[" ++ body ++ "]" ++ "\n"))) :
    Adds lines [(key, some (.array values))] :=
  adds_entry hkey (spells_array h) hlines

theorem isGap_newline : IsGap "\n" := by decide

/-! ## Environment variables and hints -/

def EnvVar.fields (envVar : EnvVar) : List (String × Option Value) :=
  [("key", some (.string envVar.key)), ("value", some (.string envVar.value))]

def EnvVar.toValue (envVar : EnvVar) : Value := .table (present envVar.fields)

theorem EnvVar.spells (printable : Char → Bool) {envVar : EnvVar}
    (h : envVar.Texts (SpelledQuoted printable)) :
    ∃ text, Spells text envVar.toValue ∧ envVar.line printable = "\t" ++ (text ++ ",") := by
  have hkey : Members ("key" ++ (" " ++ ("=" ++ (" " ++ quoted printable envVar.key))))
      [("key", .string envVar.key)] :=
    members_single (by decide) (by decide) (by decide) h.1
  have hvalue : Members ("value" ++ (" " ++ ("=" ++ (" " ++ quoted printable envVar.value))))
      [("value", .string envVar.value)] :=
    members_single (by decide) (by decide) (by decide) h.2
  have hmembers := members_append " " hkey (by decide) hvalue
  have hkeys : ["key", "value"].Nodup := by decide
  refine ⟨_, spells_table " " " " (by decide) (by decide) hmembers hkeys, ?_⟩
  rw [EnvVar.line, show "\t\x7b key = " =
      "\t" ++ ("\x7b" ++ (" " ++ ("key" ++ (" " ++ ("=" ++ " "))))) from rfl,
    show ", value = " = "," ++ (" " ++ ("value" ++ (" " ++ ("=" ++ " ")))) from rfl,
    show " \x7d," = " " ++ ("\x7d" ++ ",") from rfl]
  simp only [String.append_assoc]

theorem envVars_lists (printable : Char → Bool) {envVars : List EnvVar}
    (h : ∀ envVar ∈ envVars, envVar.Texts (SpelledQuoted printable)) :
    Lists (unlines (envVars.map (EnvVar.line printable))) (envVars.map EnvVar.toValue) := by
  induction envVars with
  | nil => exact lists_nil
  | cons envVar envVars ih =>
    obtain ⟨henvVar, henvVars⟩ := List.forall_mem_cons.mp h
    obtain ⟨text, hspells, hline⟩ := EnvVar.spells printable henvVar
    rw [List.map_cons, List.map_cons, unlines_cons, hline, String.append_assoc,
      String.append_assoc]
    exact lists_gap_left (by decide)
      (lists_cons hspells (lists_gap_left isGap_newline (ih henvVars)))

theorem envVars_adds (printable : Char → Bool) {envVars : List EnvVar}
    (h : ∀ envVar ∈ envVars, envVar.Texts (SpelledQuoted printable)) :
    Adds (envVarLines printable envVars)
      [("env_vars", some (.array (envVars.map EnvVar.toValue)))] := by
  refine adds_array (by decide) (lists_gap_left isGap_newline (envVars_lists printable h)) ?_
  rw [envVarLines, unlines_append, unlines_append,
    show unlines ["env_vars = ["] = "env_vars" ++ (" = " ++ ("[" ++ "\n")) from rfl,
    show unlines ["]"] = "]" ++ "\n" from rfl]
  simp only [String.append_assoc]

def hintValues (hints : List Hint) : List Value := hints.map fun h => .string h.fmt

theorem spells_hint (h : Hint) : Spells ("'" ++ h.fmt ++ "'") (.string h.fmt) := by
  cases h <;> exact spells_of_text (by decide)

theorem hints_list (hints : List Hint) : Lists (hintTexts hints) (hintValues hints) := by
  have hlists := lists_intercalate "" " " (by decide) (by decide) fun h (_ : h ∈ hints) =>
    spells_hint h
  rw [hintTexts, show ", " = "," ++ " " from rfl]
  simpa only [String.empty_append, hintValues] using hlists

/-! ## Directory servers -/

theorem adds_line_cons {line : String} {lines : List String} {field : String × Option Value}
    {fields : List (String × Option Value)} (hline : Adds [line] [field])
    (h : Adds lines fields) : Adds (line :: lines) (field :: fields) := by
  rw [← List.singleton_append, ← List.singleton_append]
  exact adds_append hline h

theorem adds_lines_cons {first lines : List String} {field : String × Option Value}
    {fields : List (String × Option Value)} (hfirst : Adds first [field])
    (h : Adds lines fields) : Adds (first ++ lines) (field :: fields) := adds_append hfirst h

/-- The fields whose values are texts and truth values. -/
def DirServer.plainFields (s : DirServer) : List (String × Option Value) :=
  [("host_name", some (.string s.hostName)), ("dir", some (.string s.dir)),
    ("capture_subdomains", (trueOnly s.captureSubdomains).map .boolean),
    ("enable_directory_browsing", (trueOnly s.enableDirectoryBrowsing).map .boolean),
    ("enable_lets_encrypt", (trueOnly s.enableLetsEncrypt).map .boolean),
    ("render_markdown", (trueOnly s.renderMarkdown).map .boolean),
    ("redirect_to_https", (trueOnly s.redirectToHttps).map .boolean)]

def DirServer.fields (s : DirServer) : List (String × Option Value) :=
  s.plainFields ++ [("cache_control_max_age_in_seconds",
    s.cacheControlMaxAgeInSeconds.map fun v => Value.integer v.toNat)]

def DirServer.toSection (s : DirServer) : Section := ⟨"dir_server", present s.fields⟩

/-- The age is a TOML integer. -/
def DirServer.Fits (s : DirServer) : Prop :=
  ∀ age ∈ s.cacheControlMaxAgeInSeconds, age.toNat < 2 ^ 63

instance : DecidablePred DirServer.Fits := fun s =>
  inferInstanceAs (Decidable (∀ age ∈ s.cacheControlMaxAgeInSeconds, age.toNat < 2 ^ 63))

def DirServer.plainLines (printable : Char → Bool) (s : DirServer) : List String :=
  ["host_name = " ++ quoted printable s.hostName, "dir = " ++ quoted printable s.dir] ++
  pushIfTrue s.captureSubdomains "capture_subdomains = true" ++
  pushIfTrue s.enableDirectoryBrowsing "enable_directory_browsing = true" ++
  pushIfTrue s.enableLetsEncrypt "enable_lets_encrypt = true" ++
  pushIfTrue s.renderMarkdown "render_markdown = true" ++
  pushIfTrue s.redirectToHttps "redirect_to_https = true"

theorem DirServer.plainLines_adds (printable : Char → Bool) {s : DirServer}
    (h : s.Texts (SpelledQuoted printable)) :
    Adds (s.plainLines printable) s.plainFields := by
  simp only [DirServer.plainLines, DirServer.plainFields, List.append_assoc, List.cons_append,
    List.nil_append]
  refine adds_line_cons (adds_assignment (by decide) (by rfl) h.1) ?_
  refine adds_line_cons (adds_assignment (by decide) (by rfl) h.2) ?_
  refine adds_lines_cons (adds_pushIfTrue _ (by decide) (by rfl)) ?_
  refine adds_lines_cons (adds_pushIfTrue _ (by decide) (by rfl)) ?_
  refine adds_lines_cons (adds_pushIfTrue _ (by decide) (by rfl)) ?_
  refine adds_lines_cons (adds_pushIfTrue _ (by decide) (by rfl)) ?_
  exact adds_pushIfTrue _ (by decide) (by rfl)

theorem DirServer.lines_eq (printable : Char → Bool) (s : DirServer) :
    s.lines printable = ("\n[[" ++ ("dir_server" ++ "]]")) ::
      (s.plainLines printable ++ pushIf s.cacheControlMaxAgeInSeconds fun v =>
        "cache_control_max_age_in_seconds = " ++ toString v.toNat) := by
  simp only [DirServer.lines, DirServer.plainLines, List.append_assoc, List.cons_append,
    List.nil_append]
  rfl

theorem DirServer.reads (printable : Char → Bool) {s : DirServer}
    (h : s.Texts (SpelledQuoted printable)) :
    Reads (unlines (s.lines printable)) fun document =>
      if s.Fits then .ok (document.addSections [s.toSection]) else .error .overflow := by
  have hplain := DirServer.plainLines_adds printable h
  rw [DirServer.lines_eq]
  by_cases hfits : s.Fits
  · simp only [if_pos hfits]
    refine reads_section _ (by decide) (adds_append hplain ?_)
    exact adds_pushIf fun v hv => adds_assignment (by decide) (by rfl) (spells_integer (hfits v hv))
  · simp only [if_neg hfits]
    obtain ⟨age, hage, hlarge⟩ : ∃ age ∈ s.cacheControlMaxAgeInSeconds, ¬age.toNat < 2 ^ 63 := by
      simpa [DirServer.Fits] using hfits
    have hover := @reads_overflow "cache_control_max_age_in_seconds" _ (by decide)
      (Nat.le_of_not_lt hlarge)
    have hboth := reads_append (reads_section "dir_server" (by decide) hplain) hover
    have hline : unlines (pushIf s.cacheControlMaxAgeInSeconds fun v =>
        "cache_control_max_age_in_seconds = " ++ toString v.toNat) =
          "cache_control_max_age_in_seconds" ++ (" = " ++ (toString age.toNat ++ "\n")) := by
      rw [Option.mem_def.mp hage, show "cache_control_max_age_in_seconds = " =
        "cache_control_max_age_in_seconds" ++ " = " from rfl]
      simp only [pushIf, pushAll, unlines, List.foldr_cons, List.foldr_nil, String.append_assoc,
        String.append_empty]
    rw [← List.cons_append, unlines_append, hline]
    exact hboth

/-! ## Remote sites -/

def Backend.fields (b : Backend) : List (String × Option Value) :=
  [("https", (trueOnly b.https).map .boolean), ("address", some (.string b.address)),
    ("port", some (.integer b.port.toNat)),
    ("hints", b.hints.map fun hints => .array (hintValues hints))]

def Backend.toValue (b : Backend) : Value := .table (present b.fields)

theorem backend_keys (b : Backend) : (b.fields.map Prod.fst).Nodup := by
  change ["https", "address", "port", "hints"].Nodup
  decide

theorem uint16_fits (n : UInt16) : n.toNat < 2 ^ 63 :=
  Nat.lt_of_lt_of_le n.toNat_lt (by decide)

theorem https_members (https : Option Bool) {text : String} {entries : Table}
    (h : Members text entries) :
    Members (httpsText https ++ text)
      (present [("https", (trueOnly https).map Value.boolean)] ++ entries) := by
  match https with
  | some true =>
    have hflag : Members ("https" ++ (" " ++ ("=" ++ (" " ++ "true"))))
        [("https", .boolean true)] :=
      members_single (by decide) (by decide) (by decide) (spells_boolean true)
    have hboth := members_append " " hflag (by decide) h
    rw [← String.append_assoc, ← String.append_assoc] at hboth
    exact hboth
  | some false => exact (String.empty_append (s := text)).symm ▸ h
  | none => exact (String.empty_append (s := text)).symm ▸ h

theorem hints_members (hints : Option (List Hint)) {text : String} {entries : Table}
    (h : Members text entries) :
    Members (text ++ hintsText hints)
      (entries ++ present [("hints", hints.map fun hints => Value.array (hintValues hints))]) := by
  cases hints with
  | some hints =>
    have hvalue : Members ("hints" ++ (" " ++ ("=" ++ (" " ++ ("[" ++ hintTexts hints ++ "]")))))
        [("hints", .array (hintValues hints))] :=
      members_single (by decide) (by decide) (by decide) (spells_array (hints_list hints))
    have hboth := members_append " " h (by decide) hvalue
    have htext : hintsText (some hints) = "," ++ (" " ++
        ("hints" ++ (" " ++ ("=" ++ (" " ++ ("[" ++ hintTexts hints ++ "]")))))) := by
      rw [hintsText, show ", hints = [" =
        "," ++ (" " ++ ("hints" ++ (" " ++ ("=" ++ (" " ++ "["))))) from rfl]
      simp only [String.append_assoc]
    rw [htext]
    exact hboth
  | none =>
    rw [hintsText, String.append_empty]
    exact (List.append_nil entries).symm ▸ h

/-- The line of a backend without its indentation. -/
def Backend.tableText (b : Backend) : String :=
  "\x7b " ++ httpsText b.https ++ "address=\"" ++ b.address ++ "\", port=" ++
    toString b.port.toNat ++ hintsText b.hints ++ "\x7d"

theorem Backend.line_eq (b : Backend) : b.line = "\t" ++ b.tableText := by
  rw [Backend.line, Backend.tableText, show "\t\x7b " = "\t" ++ "\x7b " from rfl]
  simp only [String.append_assoc]

theorem Backend.spells {b : Backend} (h : SpelledRaw b.address) : Spells b.tableText b.toValue := by
  have haddress : Members ("address" ++ ("" ++ ("=" ++ ("" ++ ("\"" ++ b.address ++ "\"")))))
      [("address", .string b.address)] :=
    members_single (by decide) (by decide) (by decide) h
  have hport : Members ("port" ++ ("" ++ ("=" ++ ("" ++ toString b.port.toNat))))
      [("port", .integer b.port.toNat)] :=
    members_single (by decide) (by decide) (by decide) (spells_integer (uint16_fits b.port))
  have hmembers := hints_members b.hints
    (https_members b.https (members_append " " haddress (by decide) hport))
  have hentries : present [("https", (trueOnly b.https).map Value.boolean)] ++
      ([("address", Value.string b.address)] ++ [("port", Value.integer b.port.toNat)]) ++
        present [("hints", b.hints.map fun hints => Value.array (hintValues hints))] =
      present b.fields := by
    have hmiddle :
        [("address", Value.string b.address)] ++ [("port", Value.integer b.port.toNat)] =
        present [("address", some (.string b.address)),
          ("port", some (.integer b.port.toNat))] := rfl
    rw [hmiddle, ← present_append, ← present_append]
    rfl
  rw [hentries] at hmembers
  have htable := spells_table " " "" (by decide) (by decide) hmembers
    (present_nodup (backend_keys b))
  rw [Backend.tableText, show "\x7b " = "\x7b" ++ " " from rfl,
    show "address=\"" = "address" ++ ("=" ++ "\"") from rfl,
    show "\", port=" = "\"" ++ ("," ++ (" " ++ ("port" ++ "="))) from rfl]
  simpa only [Backend.toValue, String.append_assoc, String.empty_append] using htable

def RemoteSiteConfig.fields (site : RemoteSiteConfig) : List (String × Option Value) :=
  [("host_name", some (.string site.hostName)),
    ("forward_subdomains", (trueOnly site.forwardSubdomains).map .boolean),
    ("redirect_to_https", (trueOnly site.redirectToHttps).map .boolean),
    ("capture_subdomains", (trueOnly site.captureSubdomains).map .boolean),
    ("terminate_tls", (trueOnly site.terminateTls).map .boolean),
    ("enable_lets_encrypt", (trueOnly site.enableLetsEncrypt).map .boolean),
    ("backends", some (.array (site.backends.map Backend.toValue))),
    ("terminate_http", none),
    ("keep_original_host_header", none),
    ("disable_tcp_tunnel_mode", none)]

def RemoteSiteConfig.toSection (site : RemoteSiteConfig) : Section :=
  ⟨"remote_target", present site.fields⟩

theorem backends_lists {backends : List Backend} (h : ∀ b ∈ backends, SpelledRaw b.address) :
    Lists (",\n".intercalate (backends.map Backend.line)) (backends.map Backend.toValue) := by
  have hline : Backend.line = fun b => "\t" ++ b.tableText := funext Backend.line_eq
  rw [hline, show ",\n" = "," ++ "\n" from rfl]
  exact lists_intercalate _ _ (by decide) isGap_newline fun b hb => Backend.spells (h b hb)

theorem RemoteSiteConfig.reads (printable : Char → Bool) {site : RemoteSiteConfig}
    (h : site.Texts (SpelledQuoted printable) SpelledRaw) :
    Reads (unlines (site.lines printable)) fun document =>
      .ok (document.addSections [site.toSection]) := by
  have hbackends : Adds ["backends = [", ",\n".intercalate (site.backends.map Backend.line), "]"]
      [("backends", some (.array (site.backends.map Backend.toValue)))] := by
    refine adds_array (by decide)
      (lists_gap_left isGap_newline (lists_gap_right isGap_newline (backends_lists h.2))) ?_
    rw [unlines_cons, show "backends = [" = "backends" ++ (" = " ++ "[") from rfl]
    simp only [unlines, List.foldr_cons, List.foldr_nil, String.append_assoc, String.append_empty]
  have hlines : site.lines printable = ("\n[[" ++ ("remote_target" ++ "]]")) ::
      (site.lines printable).tail := rfl
  rw [hlines]
  refine @reads_section _ "remote_target" site.fields (by decide) ?_
  simp only [RemoteSiteConfig.lines, RemoteSiteConfig.fields, List.append_assoc, List.cons_append,
    List.nil_append, List.tail_cons]
  refine adds_line_cons (adds_assignment (by decide) (by rfl) h.1) ?_
  refine adds_lines_cons (adds_pushIfTrue _ (by decide) (by rfl)) ?_
  refine adds_lines_cons (adds_pushIfTrue _ (by decide) (by rfl)) ?_
  refine adds_lines_cons (adds_pushIfTrue _ (by decide) (by rfl)) ?_
  refine adds_lines_cons (adds_pushIfTrue _ (by decide) (by rfl)) ?_
  refine adds_lines_cons (adds_pushIfTrue _ (by decide) (by rfl)) ?_
  have habsent := adds_lines_cons (adds_absent "terminate_http")
    (adds_lines_cons (adds_absent "keep_original_host_header")
      (adds_absent "disable_tcp_tunnel_mode"))
  have hall := adds_lines_cons hbackends habsent
  rwa [List.append_nil, List.append_nil, List.append_nil] at hall

/-! ## Hosted processes -/

def InProcessSiteConfig.fields (process : InProcessSiteConfig) : List (String × Option Value) :=
  [("host_name", some (.string process.hostName)),
    ("dir", process.dir.map .string),
    ("bin", some (.string process.bin)),
    ("hints", process.hints.map fun hints => .array (hintValues hints)),
    ("args", some (.array ((process.args.getD []).map .string))),
    ("auto_start", process.autoStart.map .boolean),
    ("log_level", process.logLevel.map fun level => .string level.fmt),
    ("redirect_to_https", (trueOnly process.redirectToHttps).map .boolean),
    ("enable_lets_encrypt", (trueOnly process.enableLetsEncrypt).map .boolean),
    ("exclude_from_start_all", (trueOnly process.excludeFromStartAll).map .boolean),
    ("https", process.https.map .boolean),
    ("port", process.port.map fun port => .integer port.toNat),
    ("capture_subdomains", (trueOnly process.captureSubdomains).map .boolean),
    ("terminate_tls", (trueOnly process.terminateTls).map .boolean),
    ("env_vars", process.envVars.map fun envVars => .array (envVars.map EnvVar.toValue)),
    ("terminate_http", none),
    ("forward_subdomains", none),
    ("log_format", none),
    ("disable_tcp_tunnel_mode", none)]

def InProcessSiteConfig.toSection (process : InProcessSiteConfig) : Section :=
  ⟨"hosted_process", present process.fields⟩

theorem logLevel_adds (level : LogLevel) :
    Adds ["log_level = \"" ++ level.fmt ++ "\""] [("log_level", some (.string level.fmt))] := by
  refine adds_quotation (by decide) (by rfl) (spells_of_text ?_)
  cases level <;> decide

theorem hints_adds (hints : List Hint) :
    Adds ["hints = [", hintTexts hints, "]"] [("hints", some (.array (hintValues hints)))] := by
  refine adds_array (by decide)
    (lists_gap_left isGap_newline (lists_gap_right isGap_newline (hints_list hints))) ?_
  rw [unlines_cons, show "hints = [" = "hints" ++ (" = " ++ "[") from rfl]
  simp only [unlines, List.foldr_cons, List.foldr_nil, String.append_assoc, String.append_empty]

theorem args_adds (printable : Char → Bool) {args : List String}
    (h : ∀ arg ∈ args, SpelledQuoted printable arg) :
    Adds ["args = [" ++ ", ".intercalate (args.map fun arg =>
      "\n  " ++ quoted printable arg) ++ "]"]
      [("args", some (.array (args.map .string)))] := by
  have hlists := lists_intercalate "\n  " " " (by decide) (by decide)
    fun arg harg => h arg harg
  refine adds_line (by decide) (spells_array hlists) ?_
  rw [show "args = [" = "args" ++ (" = " ++ "[") from rfl, show ", " = "," ++ " " from rfl]
  simp only [String.append_assoc]

theorem InProcessSiteConfig.reads (printable : Char → Bool) {process : InProcessSiteConfig}
    (h : process.Texts (SpelledQuoted printable)) :
    Reads (unlines (process.lines printable)) fun document =>
      .ok (document.addSections [process.toSection]) := by
  have htitle : "\n[[hosted_process]]" = "\n[[" ++ ("hosted_process" ++ "]]") := by
    simp only [String.reduceAppend]
  simp only [InProcessSiteConfig.lines, List.append_assoc, List.cons_append, List.nil_append]
  rw [htitle]
  refine @reads_section _ "hosted_process" process.fields (by decide) ?_
  simp only [InProcessSiteConfig.fields]
  refine adds_line_cons (adds_assignment (by decide) (by rfl)
    h.hostName) ?_
  refine adds_lines_cons (adds_pushIf fun dir hdir => adds_assignment (by decide) (by rfl)
    (h.dir dir hdir)) ?_
  refine adds_line_cons (adds_assignment (by decide) (by rfl) h.bin) ?_
  refine adds_lines_cons (adds_pushAll fun hints _ => hints_adds hints) ?_
  refine adds_line_cons (args_adds printable h.args) ?_
  refine adds_lines_cons (adds_pushIf fun autoStart _ => adds_assignment (by decide) (by rfl)
    (spells_boolean autoStart)) ?_
  refine adds_lines_cons (adds_pushIf fun level _ => logLevel_adds level) ?_
  refine adds_lines_cons (adds_pushIfTrue _ (by decide) (by rfl)) ?_
  refine adds_lines_cons (adds_pushIfTrue _ (by decide) (by rfl)) ?_
  refine adds_lines_cons (adds_pushIfTrue _ (by decide) (by rfl)) ?_
  refine adds_lines_cons (adds_pushIf fun https _ => adds_assignment (by decide) (by rfl)
    (spells_boolean https)) ?_
  refine adds_lines_cons (adds_pushIf fun port _ => adds_assignment (by decide) (by rfl)
    (spells_integer (uint16_fits port))) ?_
  refine adds_lines_cons (adds_pushIfTrue _ (by decide) (by rfl)) ?_
  refine adds_lines_cons (adds_pushIfTrue _ (by decide) (by rfl)) ?_
  have habsent := adds_lines_cons (adds_absent "terminate_http")
    (adds_lines_cons (adds_absent "forward_subdomains")
      (adds_lines_cons (adds_absent "log_format") (adds_absent "disable_tcp_tunnel_mode")))
  have henvVars : Adds (pushAll process.envVars (envVarLines printable))
      [("env_vars", process.envVars.map fun envVars => .array (envVars.map EnvVar.toValue))] := by
    refine adds_pushAll fun envVars hmem => envVars_adds printable fun envVar henvVar => ?_
    refine h.envVars envVar ?_
    rwa [Option.mem_def.mp hmem]
  have hall := adds_lines_cons henvVars habsent
  rwa [List.append_nil, List.append_nil, List.append_nil, List.append_nil] at hall

/-! ## The root -/

def OddBoxV3Config.fields (config : OddBoxV3Config) : List (String × Option Value) :=
  [("version", some (.string config.version.fmt)),
    ("alpn", some (.boolean (config.alpn.getD false))),
    ("http_port", config.httpPort.map fun port => .integer port.toNat),
    ("tls_port", config.tlsPort.map fun port => .integer port.toNat),
    ("ip", some (.string (config.ip.getD (.v4 127 0 0 1)).fmt)),
    ("auto_start", some (.boolean (config.autoStart.getD false))),
    ("root_dir", some (.string (config.rootDir.getD "~"))),
    ("log_level", config.logLevel.map fun level => .string level.fmt),
    ("odd_box_url", config.oddBoxUrl.map .string),
    ("odd_box_password", config.oddBoxPassword.map .string),
    ("port_range_start", some (.integer config.portRangeStart.toNat)),
    ("default_log_format", some (.string config.defaultLogFormat.fmt)),
    ("lets_encrypt_account_email", config.letsEncryptAccountEmail.map .string),
    ("env_vars", some (.array (config.envVars.map EnvVar.toValue))),
    ("use_loopback_ip_for_procs", none)]

theorem rootEnvVars_adds (printable : Char → Bool) {envVars : List EnvVar}
    (h : ∀ envVar ∈ envVars, envVar.Texts (SpelledQuoted printable)) :
    Adds (if envVars.length > 0 then envVarLines printable envVars else ["env_vars = []"])
      [("env_vars", some (.array (envVars.map EnvVar.toValue)))] := by
  split
  · exact envVars_adds printable h
  · next hempty =>
    obtain rfl : envVars = [] := by simpa using hempty
    exact adds_line (by decide) (spells_array lists_nil) (by rfl)

theorem isPlain_home : IsPlain "~" := by decide

theorem root_adds (printable : Char → Bool) {config : OddBoxV3Config}
    (h : config.Spelled printable) :
    Adds (config.rootLines printable) config.fields := by
  have hformat : Adds ["default_log_format = \"" ++ config.defaultLogFormat.fmt ++ "\""]
      [("default_log_format", some (.string config.defaultLogFormat.fmt))] := by
    refine adds_quotation (by decide) (by rfl) (spells_of_text ?_)
    cases config.defaultLogFormat <;> decide
  have hversion : Adds ["version = \"" ++ config.version.fmt ++ "\""]
      [("version", some (.string config.version.fmt))] := by
    refine adds_quotation (by decide) (by rfl) (spells_of_text ?_)
    cases config.version
    decide
  simp only [OddBoxV3Config.rootLines, OddBoxV3Config.fields, List.append_assoc, List.cons_append,
    List.nil_append]
  refine @adds_append [_] _ [] _ (adds_comment (by decide +kernel)) ?_
  refine adds_line_cons hversion ?_
  refine adds_line_cons (adds_pushOr .boolean
    (fun alpn _ => adds_assignment (by decide) (by rfl) (spells_boolean alpn))
    (adds_line (by decide) (spells_boolean false) (by rfl))) ?_
  refine adds_lines_cons (adds_pushIf fun port _ => adds_assignment (by decide) (by rfl)
    (spells_integer (uint16_fits port))) ?_
  refine adds_lines_cons (adds_pushIf fun port _ => adds_assignment (by decide) (by rfl)
    (spells_integer (uint16_fits port))) ?_
  refine adds_line_cons (adds_pushOr (fun ip => .string ip.fmt)
    (fun ip _ => adds_quotation (by decide) (by rfl) (spells_ip ip))
    (adds_line (by decide) (spells_ip (.v4 127 0 0 1)) (by rfl))) ?_
  refine adds_line_cons (adds_pushOr .boolean
    (fun autoStart _ => adds_assignment (by decide) (by rfl) (spells_boolean autoStart))
    (adds_line (by decide) (spells_boolean false) (by rfl))) ?_
  refine adds_line_cons (adds_pushOr .string
    (fun dir hdir => adds_assignment (by decide) (by rfl)
      (h.rootDir dir hdir))
    (adds_line (by decide) (spells_plain isPlain_home) (by rfl))) ?_
  refine adds_lines_cons (adds_pushIf fun level _ => logLevel_adds level) ?_
  refine adds_lines_cons (adds_pushIf fun url hurl => adds_assignment (by decide) (by rfl)
    (h.oddBoxUrl url hurl)) ?_
  refine adds_lines_cons (adds_pushIf fun password hpassword => adds_assignment (by decide)
    (by rfl) (h.oddBoxPassword password hpassword)) ?_
  refine adds_line_cons (adds_assignment (by decide) (by rfl)
    (spells_integer (uint16_fits config.portRangeStart))) ?_
  refine adds_line_cons hformat ?_
  refine adds_lines_cons (adds_pushIf fun email hemail => adds_quotation (by decide) (by rfl)
    (h.email email hemail)) ?_
  have hall := adds_lines_cons (rootEnvVars_adds printable h.envVars)
    (adds_absent "use_loopback_ip_for_procs")
  rwa [List.append_nil] at hall

/-! ## The document -/

def OddBoxV3Config.sections (config : OddBoxV3Config) : List Section :=
  (config.dirServer.getD []).map DirServer.toSection ++
  (config.remoteTarget.getD []).map RemoteSiteConfig.toSection ++
  (config.hostedProcess.getD []).map InProcessSiteConfig.toSection

def OddBoxV3Config.document (config : OddBoxV3Config) : Document :=
  ⟨present config.fields, config.sections⟩

theorem lines_reads (printable : Char → Bool) {config : OddBoxV3Config}
    (h : config.Spelled printable) :
    Reads (unlines (config.lines printable)) fun document =>
      if ∀ s ∈ config.dirServer.getD [], s.Fits then
        .ok ((document.addAll (present config.fields)).addSections config.sections)
      else .error .overflow := by
  have hdirs := reads_sections fun s (hs : s ∈ config.dirServer.getD []) =>
    DirServer.reads printable (h.dirServers s hs)
  have hremotes := reads_all_sections
    fun site (hsite : site ∈ config.remoteTarget.getD []) =>
      RemoteSiteConfig.reads printable (h.remoteTargets site hsite)
  have hprocesses := reads_all_sections
    fun process (hprocess : process ∈ config.hostedProcess.getD []) =>
      InProcessSiteConfig.reads printable (h.hostedProcesses process hprocess)
  have hall := reads_append (reads_append (reads_append (root_adds printable h) hdirs) hremotes)
    hprocesses
  rw [← unlines_append, ← unlines_append, ← unlines_append] at hall
  refine (congrArg (Reads _) (funext fun document => ?_)).mp hall
  by_cases hfits : ∀ s ∈ config.dirServer.getD [], s.Fits
  · simp only [Except.bind, if_pos hfits, Document.addSections, OddBoxV3Config.sections,
      List.append_assoc]
  · simp only [Except.bind, if_neg hfits]

theorem fields_keys (config : OddBoxV3Config) : config.fields.map Prod.fst =
    ["version", "alpn", "http_port", "tls_port", "ip", "auto_start", "root_dir", "log_level",
      "odd_box_url", "odd_box_password", "port_range_start", "default_log_format",
      "lets_encrypt_account_email", "env_vars", "use_loopback_ip_for_procs"] := rfl

theorem sections_names (config : OddBoxV3Config) :
    ∀ part ∈ config.sections, part.name ∈ ["dir_server", "remote_target", "hosted_process"] := by
  intro part hpart
  simp only [OddBoxV3Config.sections, List.mem_append, List.mem_map] at hpart
  rcases hpart with (⟨s, -, rfl⟩ | ⟨s, -, rfl⟩) | ⟨s, -, rfl⟩ <;>
    simp [DirServer.toSection, RemoteSiteConfig.toSection, InProcessSiteConfig.toSection]

theorem dirServer_keys (s : DirServer) : (s.fields.map Prod.fst).Nodup := by
  change ["host_name", "dir", "capture_subdomains", "enable_directory_browsing",
    "enable_lets_encrypt", "render_markdown", "redirect_to_https",
    "cache_control_max_age_in_seconds"].Nodup
  decide

theorem remoteSite_keys (site : RemoteSiteConfig) : (site.fields.map Prod.fst).Nodup := by
  change ["host_name", "forward_subdomains", "redirect_to_https", "capture_subdomains",
    "terminate_tls", "enable_lets_encrypt", "backends", "terminate_http",
    "keep_original_host_header", "disable_tcp_tunnel_mode"].Nodup
  decide

theorem process_keys (process : InProcessSiteConfig) : (process.fields.map Prod.fst).Nodup := by
  change ["host_name", "dir", "bin", "hints", "args", "auto_start", "log_level",
    "redirect_to_https", "enable_lets_encrypt", "exclude_from_start_all", "https", "port",
    "capture_subdomains", "terminate_tls", "env_vars", "terminate_http", "forward_subdomains",
    "log_format", "disable_tcp_tunnel_mode"].Nodup
  decide

theorem document_distinct (config : OddBoxV3Config) : config.document.Distinct := by
  have hroot : (config.fields.map Prod.fst).Nodup := by
    rw [fields_keys]
    decide
  refine ⟨present_nodup hroot, ?_⟩
  intro part hpart
  refine ⟨?_, ?_⟩
  · simp only [OddBoxV3Config.document, OddBoxV3Config.sections, List.mem_append,
      List.mem_map] at hpart
    rcases hpart with (⟨s, -, rfl⟩ | ⟨site, -, rfl⟩) | ⟨process, -, rfl⟩
    · exact present_nodup (dirServer_keys s)
    · exact present_nodup (remoteSite_keys site)
    · exact present_nodup (process_keys process)
  · intro hmem
    have hkey := (present_keys config.fields).subset hmem
    rw [fields_keys] at hkey
    have hname := sections_names config part hpart
    revert hkey
    simp only [List.mem_cons, List.not_mem_nil, or_false] at hname
    rcases hname with hname | hname | hname <;> rw [hname] <;> decide

/-- What the reader makes of the text that `to_string` gives. -/
theorem read_toString (printable : Char → Bool) {config : OddBoxV3Config}
    (h : config.Spelled printable) :
    read (config.toString printable) =
      if ∀ s ∈ config.dirServer.getD [], s.Fits then .ok config.document.table
      else .error .overflow := by
  have hne : config.lines printable ≠ [] := by
    simp [OddBoxV3Config.lines, OddBoxV3Config.rootLines]
  have hreads := lines_reads printable h
  rw [← intercalate_newline hne] at hreads
  have hread := read_of_reads hreads
  rw [show (⟨[], []⟩ : Document).addAll (present config.fields) =
    ⟨[] ++ present config.fields, []⟩ from addAll_root _ _] at hread
  rw [OddBoxV3Config.toString, hread]
  split
  · exact if_pos (document_distinct config)
  · rfl

end OddBox.Configuration

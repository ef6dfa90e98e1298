import OddBox.H1.Chunking
import OddBox.TcpProxy.Requests

/-!
The host that `parse_http_request_fast` finds in the text of a request, against the headers
that `httparse` reads from it for the terminating proxy. The parser of heads is a parameter;
of the texts that it accepts their documented form is used.
-/

namespace OddBox.TcpProxy

open OddBox.H1 (HeadParser RequestHead oneHead)

/-! ## The text of a head -/

/-- A byte of a token: of a method or of the name of a header. -/
def isTokenByte (byte : UInt8) : Bool :=
  (48 ≤ byte && byte ≤ 57) || (65 ≤ byte && byte ≤ 90) || (97 ≤ byte && byte ≤ 122) ||
    [33, 35, 36, 37, 38, 39, 42, 43, 45, 46, 94, 95, 96, 124, 126].contains byte

/-- A byte of the value of a header: a tab, or no control character. -/
def isValueByte (byte : UInt8) : Bool := byte == 9 || (32 ≤ byte && byte != 127)

def isBlank (byte : UInt8) : Bool := byte == 32 || byte == 9

def endOfLine (crlf : Bool) : List UInt8 := if crlf then [13, 10] else [10]

/-- The line `name: value`, with blanks around the value, which neither begins nor ends with
one. -/
structure HeaderLine where
  name : List UInt8
  before : List UInt8
  value : List UInt8
  behind : List UInt8
  crlf : Bool
  named : name ≠ []
  token : ∀ byte ∈ name, isTokenByte byte = true
  blanks : ∀ byte ∈ before ++ behind, isBlank byte = true
  printable : ∀ byte ∈ value, isValueByte byte = true
  trimmed : value.head?.all (!isBlank ·) = true ∧ value.getLast?.all (!isBlank ·) = true

def HeaderLine.body (line : HeaderLine) : List UInt8 :=
  line.name ++ 58 :: (line.before ++ (line.value ++ line.behind))

/-- Empty lines, the request line, the headers and the empty line that ends them. -/
structure HeadText where
  empty : List Bool
  method : List UInt8
  /-- What follows the method and a blank in the request line. -/
  target : List UInt8
  crlf : Bool
  headers : List HeaderLine
  last : Bool
  named : method ≠ []
  token : ∀ byte ∈ method, isTokenByte byte = true
  oneLine : ∀ byte ∈ target, byte ≠ 13 ∧ byte ≠ 10

def HeadText.requestLine (head : HeadText) : List UInt8 := head.method ++ 32 :: head.target

def HeadText.text (head : HeadText) : List UInt8 :=
  head.empty.flatMap endOfLine ++ (head.requestLine ++ endOfLine head.crlf ++
    (head.headers.flatMap (fun line => line.body ++ endOfLine line.crlf) ++ endOfLine head.last))

/-! ## Lines -/

section Lines

variable {line rest : List UInt8}

theorem lines_cons (h : ∀ byte ∈ line, byte ≠ 10) (rest : List UInt8) :
    lines (line ++ 10 :: rest) = (line ++ [10]) :: lines rest := by
  induction line with
  | nil => rfl
  | cons byte line ih =>
    obtain ⟨hbyte, hline⟩ := List.forall_mem_cons.mp h
    rw [List.cons_append, lines, if_neg hbyte, ih hline]
    rfl

theorem lines_endOfLine (h : ∀ byte ∈ line, byte ≠ 10) (crlf : Bool) (rest : List UInt8) :
    lines (line ++ endOfLine crlf ++ rest) = (line ++ endOfLine crlf) :: lines rest := by
  cases crlf with
  | true =>
    have hline : ∀ byte ∈ line ++ [13], byte ≠ 10 := by
      intro byte hbyte
      obtain hbyte | hbyte := List.mem_append.mp hbyte
      · exact h byte hbyte
      · rw [List.mem_singleton.mp hbyte]
        decide
    have hsplit : line ++ endOfLine true = line ++ [13] ++ [10] := by simp [endOfLine]
    rw [hsplit, List.append_assoc (line ++ [13]), List.singleton_append, lines_cons hline]
  | false =>
    have hsplit : line ++ endOfLine false = line ++ [10] := rfl
    rw [hsplit, List.append_assoc, List.singleton_append, lines_cons h]

/-- The end of the line goes, and nothing else. -/
theorem trimLine_text {first : UInt8} (hfirst : isAsciiWhitespace first = false)
    (hline : ∀ byte ∈ first :: line, byte ≠ 13) (crlf : Bool) :
    trimLine (first :: line ++ endOfLine crlf) = first :: line := by
  have hstart : trimStart (first :: line) = first :: line := by
    rw [trimStart, List.dropWhile_cons_of_neg (by rw [hfirst]; exact Bool.false_ne_true)]
  cases crlf with
  | true =>
    have hsuffix : [13, 10].isSuffixOf (first :: line ++ endOfLine true) = true :=
      List.isSuffixOf_iff_suffix.mpr (List.suffix_append _ _)
    have hdrop : (first :: line ++ endOfLine true).dropLast.dropLast = first :: line := by
      have hsplit : first :: line ++ endOfLine true = first :: line ++ [13] ++ [10] := by
        simp [endOfLine]
      rw [hsplit, List.dropLast_concat, List.dropLast_concat]
    rw [trimLine, if_pos hsuffix, hdrop, hstart]
  | false =>
    have hsuffix : [10].isSuffixOf (first :: line ++ endOfLine false) = true :=
      List.isSuffixOf_iff_suffix.mpr (List.suffix_append _ _)
    have hnot : ¬ [13, 10].isSuffixOf (first :: line ++ endOfLine false) = true := by
      rw [List.isSuffixOf_iff_suffix]
      rintro ⟨front, hfront⟩
      have hdrop := congrArg List.dropLast hfront
      rw [show front ++ [13, 10] = (front ++ [13]) ++ [10] by simp,
        show first :: line ++ endOfLine false = (first :: line) ++ [10] from rfl,
        List.dropLast_concat, List.dropLast_concat] at hdrop
      have hmem : (13 : UInt8) ∈ first :: line := by
        rw [← hdrop]
        simp
      exact hline 13 hmem rfl
    have hdrop : (first :: line ++ endOfLine false).dropLast = first :: line := by
      rw [show first :: line ++ endOfLine false = (first :: line) ++ [10] from rfl,
        List.dropLast_concat]
    rw [trimLine, if_neg hnot, if_pos hsuffix, hdrop, hstart]

end Lines

/-! ## Names -/

theorem toAsciiLowercase_cases (byte : UInt8) :
    toAsciiLowercase byte = byte ∨
      (toAsciiLowercase byte).toNat = byte.toNat + 32 ∧ 65 ≤ byte.toNat ∧ byte.toNat ≤ 90 := by
  unfold toAsciiLowercase
  split_ifs with hupper
  · right
    simp only [Bool.and_eq_true, decide_eq_true_eq, UInt8.le_iff_toNat_le] at hupper
    have hlow : 65 ≤ byte.toNat := hupper.1
    have hhigh : byte.toNat ≤ 90 := hupper.2
    have hsum : (byte + 32).toNat = (byte.toNat + 32) % 256 := UInt8.toNat_add byte 32
    omega
  · exact .inl rfl

theorem isTokenByte_of_letter {byte : UInt8}
    (h : 65 ≤ byte.toNat ∧ byte.toNat ≤ 90 ∨ 97 ≤ byte.toNat ∧ byte.toNat ≤ 122) :
    isTokenByte byte = true := by
  unfold isTokenByte
  rcases h with ⟨hlow, hhigh⟩ | ⟨hlow, hhigh⟩
  · have hupper : (65 ≤ byte && byte ≤ 90) = true := by
      simp only [Bool.and_eq_true, decide_eq_true_eq, UInt8.le_iff_toNat_le]
      exact ⟨hlow, hhigh⟩
    rw [hupper, Bool.or_true, Bool.true_or, Bool.true_or]
  · have hlower : (97 ≤ byte && byte ≤ 122) = true := by
      simp only [Bool.and_eq_true, decide_eq_true_eq, UInt8.le_iff_toNat_le]
      exact ⟨hlow, hhigh⟩
    rw [hlower, Bool.or_true, Bool.true_or]

theorem isTokenByte_lower (byte : UInt8) :
    isTokenByte (toAsciiLowercase byte) = isTokenByte byte := by
  rcases toAsciiLowercase_cases byte with hsame | ⟨hlower, hlow, hhigh⟩
  · rw [hsame]
  · rw [isTokenByte_of_letter (.inr (by omega)), isTokenByte_of_letter (.inl ⟨hlow, hhigh⟩)]

theorem lower_eq_colon {byte : UInt8} : toAsciiLowercase byte = 58 ↔ byte = 58 := by
  rcases toAsciiLowercase_cases byte with hsame | ⟨hlower, hlow, hhigh⟩
  · rw [hsame]
  · rw [← UInt8.toNat_inj, ← UInt8.toNat_inj, hlower]
    change byte.toNat + 32 = 58 ↔ byte.toNat = 58
    omega

/-- A token and a byte that ends it, against a name with its colon. -/
theorem take_word {word key : List UInt8} {separator : UInt8}
    (hword : ∀ byte ∈ word, isTokenByte byte = true)
    (hkey : ∀ byte ∈ key, isTokenByte byte = true)
    (hseparator : isTokenByte separator = false) (rest : List UInt8) :
    eqIgnoreAsciiCase ((word ++ separator :: rest).take (key.length + 1)) (key ++ [58]) = true ↔
      separator = 58 ∧ eqIgnoreAsciiCase word key = true := by
  have hdiffer : ∀ {a b : UInt8}, isTokenByte a = true → isTokenByte b = false →
      toAsciiLowercase a ≠ toAsciiLowercase b := by
    intro a b ha hb heq
    rw [← isTokenByte_lower, heq, isTokenByte_lower, hb] at ha
    exact Bool.false_ne_true ha
  simp only [eqIgnoreAsciiCase, beq_iff_eq]
  induction word generalizing key with
  | nil =>
    cases key with
    | nil => simp [lower_eq_colon, show toAsciiLowercase 58 = 58 from rfl]
    | cons first key =>
      have hfirst := hdiffer (hkey first List.mem_cons_self) hseparator
      simp [hfirst.symm]
  | cons byte word ih =>
    obtain ⟨hbyte, hword⟩ := List.forall_mem_cons.mp hword
    cases key with
    | nil =>
      have hcolon := hdiffer hbyte (show isTokenByte 58 = false from rfl)
      simp [hcolon]
    | cons first key =>
      obtain ⟨-, hkey⟩ := List.forall_mem_cons.mp hkey
      have htail := ih hword hkey
      simp only [List.cons_append, List.length_cons, List.take_succ_cons, List.map_cons,
        List.cons.injEq]
      constructor
      · rintro ⟨hhead, hrest⟩
        obtain ⟨hcolon, hname⟩ := htail.mp hrest
        exact ⟨hcolon, hhead, hname⟩
      · rintro ⟨hcolon, hhead, hname⟩
        exact ⟨hhead, htail.mpr ⟨hcolon, hname⟩⟩

/-- The names that are looked for. -/
def lookedFor : List String := ["Host", "Upgrade", "Connection", "HTTP2-Settings"]

theorem lookedFor_tokens : ∀ name ∈ lookedFor, ∀ byte ∈ ascii name, isTokenByte byte = true := by
  decide +kernel

theorem ascii_colon (name : String) : ascii (name ++ ":") = ascii name ++ [58] := by
  rw [ascii, String.toList_append, List.map_append]
  rfl

theorem length_colon (name : String) : (name ++ ":").length = (ascii name).length + 1 := by
  rw [String.length_append, ascii, List.length_map, String.length_toList]
  rfl

theorem isHeader_word {name : String} (hname : name ∈ lookedFor) {word : List UInt8}
    (hword : ∀ byte ∈ word, isTokenByte byte = true) {separator : UInt8}
    (hseparator : isTokenByte separator = false) (rest : List UInt8) :
    isHeader (name ++ ":") (word ++ separator :: rest) = true ↔
      separator = 58 ∧ eqIgnoreAsciiCase word (ascii name) = true := by
  rw [isHeader, ascii_colon, length_colon]
  exact take_word hword (lookedFor_tokens name hname) hseparator rest

/-! ## Values -/

theorem toList_loop (bytes : ByteArray) (i : Nat) (front : List UInt8) :
    ByteArray.toList.loop bytes i front = front.reverse ++ bytes.data.toList.drop i := by
  fun_induction ByteArray.toList.loop bytes i front with
  | case1 i front hlt ih =>
    have hi : i < bytes.data.toList.length := hlt
    have hget : bytes.get! i = bytes.data.toList[i] := getElem!_pos bytes.data i hlt
    rw [ih, List.drop_eq_getElem_cons hi, hget, List.reverse_cons, List.append_assoc,
      List.singleton_append]
  | case2 i front hge =>
    have hi : bytes.data.toList.length ≤ i := Nat.le_of_not_lt hge
    rw [List.drop_eq_nil_of_le hi, List.append_nil]

theorem toList_eq (bytes : ByteArray) : bytes.toList = bytes.data.toList := by
  rw [ByteArray.toList, toList_loop, List.reverse_nil, List.nil_append, List.drop_zero]

/-- A value without the colons and blanks that it begins with, or nothing where the rest is
not UTF-8. -/
def shown (value : List UInt8) : List UInt8 :=
  let value := value.dropWhile fun byte => byte == 58 || isAsciiWhitespace byte
  if (ByteArray.mk value.toArray).IsValidUTF8 then value else []

theorem isAsciiWhitespace_of_isBlank {byte : UInt8} (h : isBlank byte = true) :
    isAsciiWhitespace byte = true := by
  rw [isBlank, Bool.or_eq_true, beq_iff_eq, beq_iff_eq] at h
  obtain rfl | rfl := h
  · rfl
  · rfl

theorem isAsciiWhitespace_iff {byte : UInt8} : isAsciiWhitespace byte = true ↔
    byte = 9 ∨ byte = 10 ∨ byte = 12 ∨ byte = 13 ∨ byte = 32 := by
  simp only [isAsciiWhitespace, List.contains_eq_mem, decide_eq_true_eq, List.mem_cons,
    List.not_mem_nil, or_false]

theorem isBlank_of_isValueByte {byte : UInt8} (h : isValueByte byte = true)
    (hspace : isAsciiWhitespace byte = true) : isBlank byte = true := by
  obtain rfl | rfl | rfl | rfl | rfl := isAsciiWhitespace_iff.mp hspace
  · rfl
  · contradiction
  · contradiction
  · contradiction
  · rfl

theorem rdropWhile_append_of_pos {α : Type} {p : α → Bool} {front back : List α}
    (h : ∀ x ∈ back, p x = true) : (front ++ back).rdropWhile p = front.rdropWhile p := by
  have hback : ∀ x ∈ back.reverse, p x = true := fun x hx => h x (List.mem_reverse.mp hx)
  rw [List.rdropWhile, List.rdropWhile, List.reverse_append, List.dropWhile_append_of_pos hback]

/-- The blanks around a value are not part of what is read. -/
theorem getHeaderValue_blanks {before value behind : List UInt8}
    (h : ∀ byte ∈ before ++ behind, isBlank byte = true) :
    getHeaderValue (before ++ (value ++ behind)) = getHeaderValue value := by
  obtain ⟨hbefore, hbehind⟩ := List.forall_mem_append.mp h
  have hspace : ∀ byte ∈ behind, isAsciiWhitespace byte = true :=
    fun byte hbyte => isAsciiWhitespace_of_isBlank (hbehind byte hbyte)
  have hskipped : ∀ {bytes : List UInt8}, (∀ byte ∈ bytes, isBlank byte = true) →
      ∀ byte ∈ bytes, (byte == 58 || isAsciiWhitespace byte) = true := by
    intro bytes hbytes byte hbyte
    rw [isAsciiWhitespace_of_isBlank (hbytes byte hbyte), Bool.or_true]
  have hdrop : trimEnd ((before ++ (value ++ behind)).dropWhile
      fun byte => byte == 58 || isAsciiWhitespace byte) =
      trimEnd (value.dropWhile fun byte => byte == 58 || isAsciiWhitespace byte) := by
    rw [List.dropWhile_append_of_pos (hskipped hbefore), List.dropWhile_append]
    split
    · rename_i hnone
      rw [List.isEmpty_iff.mp hnone, List.dropWhile_eq_nil_iff.mpr (hskipped hbehind)]
    · rw [trimEnd, trimEnd, rdropWhile_append_of_pos hspace]
  rw [getHeaderValue, getHeaderValue, hdrop]

/-- The bytes of what is read from a value that ends in no blank. -/
theorem getHeaderValue_bytes {value : List UInt8}
    (hprintable : ∀ byte ∈ value, isValueByte byte = true)
    (htrimmed : value.getLast?.all (!isBlank ·) = true) :
    (getHeaderValue value).toUTF8.toList = shown value := by
  have hend : trimEnd (value.dropWhile fun byte => byte == 58 || isAsciiWhitespace byte) =
      value.dropWhile fun byte => byte == 58 || isAsciiWhitespace byte := by
    apply List.rdropWhile_eq_self_iff.mpr
    intro hne hspace
    obtain ⟨front, hfront⟩ := List.dropWhile_suffix
      (fun byte => byte == 58 || isAsciiWhitespace byte) (l := value)
    have hlast : value.getLast? = some (List.getLast _ hne) := by
      conv_lhs => rw [← hfront]
      rw [List.getLast?_append_of_ne_nil _ hne, List.getLast?_eq_some_getLast hne]
    have hmem := List.mem_of_getLast? hlast
    have hblank := isBlank_of_isValueByte (hprintable _ hmem) hspace
    rw [hlast, Option.all_some, hblank] at htrimmed
    exact Bool.false_ne_true htrimmed
  rw [getHeaderValue, shown, hend, toList_eq, String.fromUTF8?]
  split
  · rfl
  · rfl

/-! ## The scan -/

def isH2c (value : List UInt8) : Bool := eqIgnoreAsciiCase value (ascii "h2c")

def holdsUpgrade (value : List UInt8) : Bool := containsIgnoreAsciiCase value (ascii "upgrade")

def valueBytes (value : List UInt8) : List UInt8 := (getHeaderValue value).toUTF8.toList

/-- What the scan makes of a header whose name and value are known. -/
def HeaderScan.header (scan : HeaderScan) (name value : List UInt8) : HeaderScan :=
  if eqIgnoreAsciiCase name (ascii "Host") then { scan with host := some (getHeaderValue value) }
  else if eqIgnoreAsciiCase name (ascii "Upgrade") then
    if isH2c (valueBytes value) then { scan with hasUpgradeH2c := true } else scan
  else if eqIgnoreAsciiCase name (ascii "Connection") then
    if holdsUpgrade (valueBytes value) then { scan with hasConnectionUpgrade := true } else scan
  else if eqIgnoreAsciiCase name (ascii "HTTP2-Settings") then
    { scan with hasHttp2Settings := true }
  else scan

theorem eqIgnoreAsciiCase_length {a b : List UInt8} (h : eqIgnoreAsciiCase a b = true) :
    a.length = b.length := by
  rw [eqIgnoreAsciiCase, beq_iff_eq] at h
  rw [← List.length_map toAsciiLowercase, h, List.length_map]

/-- The value behind a name with its colon. -/
theorem HeaderLine.value_drop (line : HeaderLine) (name : String)
    (h : eqIgnoreAsciiCase line.name (ascii name) = true) :
    getHeaderValue (line.body.drop (name ++ ":").length) = getHeaderValue line.value := by
  have hbody : line.body = (line.name ++ [58]) ++ (line.before ++ (line.value ++ line.behind)) := by
    rw [HeaderLine.body, List.append_assoc, List.singleton_append]
  have hlength : (name ++ ":").length = (line.name ++ [58]).length := by
    rw [length_colon, List.length_append, eqIgnoreAsciiCase_length h, List.length_singleton]
  rw [hbody, hlength, List.drop_left, getHeaderValue_blanks line.blanks]

theorem HeaderScan.line_header (scan : HeaderScan) (line : HeaderLine) :
    scan.line line.body = scan.header line.name line.value := by
  have hheader : ∀ name ∈ lookedFor, isHeader (name ++ ":") line.body =
      eqIgnoreAsciiCase line.name (ascii name) := by
    intro name hname
    rw [Bool.eq_iff_iff, HeaderLine.body, isHeader_word hname line.token rfl]
    exact and_iff_right rfl
  have hhost := hheader "Host" (by decide)
  have hupgrade := hheader "Upgrade" (by decide)
  have hconnection := hheader "Connection" (by decide)
  have hsettings := hheader "HTTP2-Settings" (by decide)
  change isHeader "Host:" line.body = _ at hhost
  change isHeader "Upgrade:" line.body = _ at hupgrade
  change isHeader "Connection:" line.body = _ at hconnection
  change isHeader "HTTP2-Settings:" line.body = _ at hsettings
  rw [HeaderScan.line, HeaderScan.header, hhost, hupgrade, hconnection, hsettings]
  split
  · rename_i h
    have hvalue : getHeaderValue (line.body.drop 5) = getHeaderValue line.value :=
      line.value_drop "Host" h
    rw [hvalue]
  · split
    · rename_i h
      have hvalue : getHeaderValue (line.body.drop 8) = getHeaderValue line.value :=
        line.value_drop "Upgrade" h
      rw [hvalue]
      rfl
    · split
      · rename_i h
        have hvalue : getHeaderValue (line.body.drop 11) = getHeaderValue line.value :=
          line.value_drop "Connection" h
        rw [hvalue]
        rfl
      · rfl

/-- The request line is no header: a blank ends its first word. -/
theorem HeaderScan.line_requestLine (scan : HeaderScan) (head : HeadText) :
    scan.line head.requestLine = scan := by
  have hno : ∀ name ∈ lookedFor, isHeader (name ++ ":") head.requestLine = false := by
    intro name hname
    rw [Bool.eq_false_iff, HeadText.requestLine, Ne, isHeader_word hname head.token rfl]
    rintro ⟨h, -⟩
    exact absurd h (by decide)
  have hhost : isHeader "Host:" head.requestLine = false := hno "Host" (by decide)
  have hupgrade : isHeader "Upgrade:" head.requestLine = false := hno "Upgrade" (by decide)
  have hconnection : isHeader "Connection:" head.requestLine = false :=
    hno "Connection" (by decide)
  have hsettings : isHeader "HTTP2-Settings:" head.requestLine = false :=
    hno "HTTP2-Settings" (by decide)
  simp only [HeaderScan.line, hhost, hupgrade, hconnection, hsettings, Bool.false_eq_true,
    if_false]

/-! ## The lines of a head -/

/-- One line of text, which a token begins. -/
structure StartsWithToken (body : List UInt8) : Prop where
  first : ∃ first rest, body = first :: rest ∧ isTokenByte first = true
  oneLine : ∀ byte ∈ body, byte ≠ 13 ∧ byte ≠ 10

theorem plain_of_isTokenByte {byte : UInt8} (h : isTokenByte byte = true) :
    isAsciiWhitespace byte = false ∧ byte ≠ 13 ∧ byte ≠ 10 := by
  refine ⟨?_, ?_, ?_⟩
  · rw [Bool.eq_false_iff]
    intro hspace
    obtain rfl | rfl | rfl | rfl | rfl := isAsciiWhitespace_iff.mp hspace <;> contradiction
  · rintro rfl
    contradiction
  · rintro rfl
    contradiction

theorem plain_of_isBlank {byte : UInt8} (h : isBlank byte = true) : byte ≠ 13 ∧ byte ≠ 10 := by
  constructor
  · rintro rfl
    contradiction
  · rintro rfl
    contradiction

theorem plain_of_isValueByte {byte : UInt8} (h : isValueByte byte = true) :
    byte ≠ 13 ∧ byte ≠ 10 := by
  constructor
  · rintro rfl
    contradiction
  · rintro rfl
    contradiction

theorem startsWithToken {word rest : List UInt8} (hne : word ≠ [])
    (hword : ∀ byte ∈ word, isTokenByte byte = true)
    (hrest : ∀ byte ∈ rest, byte ≠ 13 ∧ byte ≠ 10) :
    StartsWithToken (word ++ rest) where
  first := by
    obtain ⟨first, word', rfl⟩ := List.exists_cons_of_ne_nil hne
    exact ⟨first, word' ++ rest, rfl, hword first List.mem_cons_self⟩
  oneLine := by
    intro byte hbyte
    obtain hbyte | hbyte := List.mem_append.mp hbyte
    · exact (plain_of_isTokenByte (hword byte hbyte)).2
    · exact hrest byte hbyte

theorem HeadText.requestLine_startsWithToken (head : HeadText) :
    StartsWithToken head.requestLine := by
  apply startsWithToken head.named head.token
  exact List.forall_mem_cons.mpr ⟨by decide, head.oneLine⟩

theorem HeaderLine.body_startsWithToken (line : HeaderLine) : StartsWithToken line.body := by
  apply startsWithToken line.named line.token
  obtain ⟨hbefore, hbehind⟩ := List.forall_mem_append.mp line.blanks
  refine List.forall_mem_cons.mpr
    ⟨by decide, List.forall_mem_append.mpr ⟨?_, List.forall_mem_append.mpr ⟨?_, ?_⟩⟩⟩
  · exact fun byte hbyte => plain_of_isBlank (hbefore byte hbyte)
  · exact fun byte hbyte => plain_of_isValueByte (line.printable byte hbyte)
  · exact fun byte hbyte => plain_of_isBlank (hbehind byte hbyte)

theorem StartsWithToken.lines {body : List UInt8} (h : StartsWithToken body) (crlf : Bool)
    (rest : List UInt8) :
    TcpProxy.lines (body ++ endOfLine crlf ++ rest) =
      (body ++ endOfLine crlf) :: TcpProxy.lines rest :=
  lines_endOfLine (fun byte hbyte => (h.oneLine byte hbyte).2) crlf rest

theorem StartsWithToken.trimLine {body : List UInt8} (h : StartsWithToken body) (crlf : Bool) :
    TcpProxy.trimLine (body ++ endOfLine crlf) = body := by
  obtain ⟨first, rest, rfl, hfirst⟩ := h.first
  exact trimLine_text (plain_of_isTokenByte hfirst).1
    (fun byte hbyte => (h.oneLine byte hbyte).1) crlf

/-- Not the empty line that ends the headers. -/
theorem StartsWithToken.kept {body : List UInt8} (h : StartsWithToken body) (crlf : Bool) :
    (body ++ endOfLine crlf != [13, 10] && body ++ endOfLine crlf != [10]) = true := by
  obtain ⟨first, rest, rfl, hfirst⟩ := h.first
  obtain ⟨-, hcr, hlf⟩ := plain_of_isTokenByte hfirst
  rw [Bool.and_eq_true, bne_iff_ne, bne_iff_ne, List.cons_append]
  exact ⟨fun heq => hcr (List.cons.inj heq).1, fun heq => hlf (List.cons.inj heq).1⟩

theorem lines_headers (headers : List HeaderLine) (rest : List UInt8) :
    lines (headers.flatMap (fun line => line.body ++ endOfLine line.crlf) ++ rest) =
      headers.map (fun line => line.body ++ endOfLine line.crlf) ++ lines rest := by
  induction headers with
  | nil => rfl
  | cons line headers ih =>
    rw [List.flatMap_cons, List.append_assoc, line.body_startsWithToken.lines, ih, List.map_cons,
      List.cons_append]

theorem takeWhile_endOfLine (crlf : Bool) (rest : List UInt8) :
    (lines (endOfLine crlf ++ rest)).takeWhile (fun line => line != [13, 10] && line != [10]) =
      [] := by
  have hlines := @lines_endOfLine [] (by simp) crlf rest
  rw [List.nil_append] at hlines
  cases crlf with
  | true => rw [hlines, List.takeWhile_cons_of_neg (by decide)]
  | false => rw [hlines, List.takeWhile_cons_of_neg (by decide)]

/-- An empty line before the request ends the scan at once. -/
theorem scanHeaders_empty {head : HeadText} (hempty : head.empty ≠ []) (later : List UInt8) :
    scanHeaders (head.text ++ later) = ⟨none, false, false, false⟩ := by
  obtain ⟨crlf, empty, hcons⟩ := List.exists_cons_of_ne_nil hempty
  rw [scanHeaders, HeadText.text, hcons, List.flatMap_cons, List.append_assoc, List.append_assoc,
    takeWhile_endOfLine]
  rfl

/-- Otherwise the scan goes through the headers. -/
theorem scanHeaders_text {head : HeadText} (hempty : head.empty = []) (later : List UInt8) :
    scanHeaders (head.text ++ later) =
      head.headers.foldl (fun scan line => scan.header line.name line.value)
        ⟨none, false, false, false⟩ := by
  have hall : (lines (head.text ++ later)).takeWhile
      (fun line => line != [13, 10] && line != [10]) =
      (head.requestLine ++ endOfLine head.crlf) ::
        head.headers.map (fun line => line.body ++ endOfLine line.crlf) := by
    have hkept : ∀ line ∈ head.headers.map (fun line => line.body ++ endOfLine line.crlf),
        (line != [13, 10] && line != [10]) = true := by
      intro text htext
      obtain ⟨line, -, rfl⟩ := List.mem_map.mp htext
      exact line.body_startsWithToken.kept line.crlf
    have hfirst := head.requestLine_startsWithToken.kept head.crlf
    rw [HeadText.text, hempty, List.flatMap_nil, List.nil_append, List.append_assoc,
      head.requestLine_startsWithToken.lines, List.append_assoc, lines_headers,
      List.takeWhile_cons_of_pos (p := fun line => line != [13, 10] && line != [10]) hfirst,
      List.takeWhile_append_of_pos hkept, takeWhile_endOfLine, List.append_nil]
  rw [scanHeaders, hall, List.map_cons, List.foldl_cons,
    head.requestLine_startsWithToken.trimLine, HeaderScan.line_requestLine, List.map_map,
    List.foldl_map]
  congr 1
  funext scan line
  rw [Function.comp_apply, line.body_startsWithToken.trimLine, HeaderScan.line_header]

/-! ## What the scan has found at the end -/

/-- The values under a name, in order. -/
def valuesOf (name : String) (headers : List (List UInt8 × List UInt8)) : List (List UInt8) :=
  (headers.filter fun header => eqIgnoreAsciiCase header.1 (ascii name)).map Prod.snd

theorem valuesOf_cons (name : String) (found value : List UInt8)
    (headers : List (List UInt8 × List UInt8)) :
    valuesOf name ((found, value) :: headers) =
      if eqIgnoreAsciiCase found (ascii name) then value :: valuesOf name headers
      else valuesOf name headers := by
  rw [valuesOf, List.filter_cons]
  split
  · rfl
  · rfl

/-- Only one of the names can match. -/
theorem eqIgnoreAsciiCase_names {found : List UInt8} {a b : String} (ha : a ∈ lookedFor)
    (hb : b ∈ lookedFor) (h : eqIgnoreAsciiCase found (ascii a) = true) (hne : a ≠ b) :
    eqIgnoreAsciiCase found (ascii b) = false := by
  have hall : ∀ a ∈ lookedFor, ∀ b ∈ lookedFor, a ≠ b →
      (ascii a).map toAsciiLowercase ≠ (ascii b).map toAsciiLowercase := by
    decide +kernel
  rw [eqIgnoreAsciiCase, beq_iff_eq] at h
  rw [eqIgnoreAsciiCase, h, beq_eq_false_iff_ne]
  exact hall a ha b hb hne

/-- One header changes the flag that it is about. -/
theorem HeaderScan.header_eq (scan : HeaderScan) (name value : List UInt8) :
    scan.header name value =
      { host := if eqIgnoreAsciiCase name (ascii "Host") then some (getHeaderValue value)
          else scan.host
        hasUpgradeH2c := scan.hasUpgradeH2c ||
          (eqIgnoreAsciiCase name (ascii "Upgrade") && isH2c (valueBytes value))
        hasConnectionUpgrade := scan.hasConnectionUpgrade ||
          (eqIgnoreAsciiCase name (ascii "Connection") && holdsUpgrade (valueBytes value))
        hasHttp2Settings := scan.hasHttp2Settings ||
          eqIgnoreAsciiCase name (ascii "HTTP2-Settings") } := by
  have hother : ∀ {a b}, eqIgnoreAsciiCase name (ascii a) = true → a ∈ lookedFor →
      b ∈ lookedFor → a ≠ b → eqIgnoreAsciiCase name (ascii b) = false :=
    fun h ha hb hne => eqIgnoreAsciiCase_names ha hb h hne
  by_cases hhost : eqIgnoreAsciiCase name (ascii "Host") = true
  · have hupgrade := hother (b := "Upgrade") hhost (by decide) (by decide) (by decide)
    have hconnection := hother (b := "Connection") hhost (by decide) (by decide) (by decide)
    have hsettings := hother (b := "HTTP2-Settings") hhost (by decide) (by decide) (by decide)
    simp [header, hhost, hupgrade, hconnection, hsettings]
  · by_cases hupgrade : eqIgnoreAsciiCase name (ascii "Upgrade") = true
    · have hconnection := hother (b := "Connection") hupgrade (by decide) (by decide) (by decide)
      have hsettings := hother (b := "HTTP2-Settings") hupgrade (by decide) (by decide) (by decide)
      cases hvalue : isH2c (valueBytes value) with
      | true => simp [header, hhost, hupgrade, hconnection, hsettings, hvalue]
      | false => simp [header, hhost, hupgrade, hconnection, hsettings, hvalue]
    · by_cases hconnection : eqIgnoreAsciiCase name (ascii "Connection") = true
      · have hsettings := hother (b := "HTTP2-Settings") hconnection (by decide) (by decide)
          (by decide)
        cases hvalue : holdsUpgrade (valueBytes value) with
        | true => simp [header, hhost, hupgrade, hconnection, hsettings, hvalue]
        | false => simp [header, hhost, hupgrade, hconnection, hsettings, hvalue]
      · by_cases hsettings : eqIgnoreAsciiCase name (ascii "HTTP2-Settings") = true
        · simp [header, hhost, hupgrade, hconnection, hsettings]
        · simp [header, hhost, hupgrade, hconnection, hsettings]

/-- The last `Host` and any of the others. -/
theorem foldl_header (headers : List (List UInt8 × List UInt8)) (scan : HeaderScan) :
    headers.foldl (fun scan header => scan.header header.1 header.2) scan =
      { host := ((valuesOf "Host" headers).getLast?.map getHeaderValue).or scan.host
        hasUpgradeH2c := scan.hasUpgradeH2c ||
          (valuesOf "Upgrade" headers).any (fun value => isH2c (valueBytes value))
        hasConnectionUpgrade := scan.hasConnectionUpgrade ||
          (valuesOf "Connection" headers).any (fun value => holdsUpgrade (valueBytes value))
        hasHttp2Settings := scan.hasHttp2Settings ||
          !(valuesOf "HTTP2-Settings" headers).isEmpty } := by
  induction headers generalizing scan with
  | nil => simp [valuesOf]
  | cons header headers ih =>
    obtain ⟨name, value⟩ := header
    rw [List.foldl_cons, ih, HeaderScan.header_eq, HeaderScan.mk.injEq]
    simp only [valuesOf_cons]
    refine ⟨?_, ?_, ?_, ?_⟩
    · split
      · rw [List.getLast?_cons]
        cases (valuesOf "Host" headers).getLast? <;> rfl
      · rfl
    · cases eqIgnoreAsciiCase name (ascii "Upgrade") <;> simp [Bool.or_assoc]
    · cases eqIgnoreAsciiCase name (ascii "Connection") <;> simp [Bool.or_assoc]
    · cases eqIgnoreAsciiCase name (ascii "HTTP2-Settings") <;> simp

/-! ## The headers that are passed on -/

/-- The headers of a head, the names as bytes. -/
def headersOf (head : RequestHead) : List (List UInt8 × List UInt8) :=
  head.headers.map fun (name, value) => (ascii name, value)

/-- Whether the token is one of the parts of a list. -/
def listsToken (token value : List UInt8) : Bool :=
  (value.splitOn 44).any fun part => eqIgnoreAsciiCase (trimStart (trimEnd part)) token

/-- The three headers of an upgrade to HTTP/2. -/
def asksH2c (headers : List (List UInt8 × List UInt8)) : Bool :=
  (valuesOf "Upgrade" headers).any isH2c &&
    (valuesOf "Connection" headers).any (listsToken (ascii "upgrade")) &&
      !(valuesOf "HTTP2-Settings" headers).isEmpty

/-- The result of the scan says what the headers say; `get` gives the first of several. -/
structure Agrees (headers : List (List UInt8 × List UInt8)) (found : Option ParsedHttpRequest) :
    Prop where
  isOk : found.isSome = (valuesOf "Host" headers).head?.isSome
  host : ∀ request ∈ found, some request.host.toUTF8.toList = (valuesOf "Host" headers).head?
  upgrade : ∀ request ∈ found, request.isH2cUpgrade = asksH2c headers

/-- No empty line stands in front, the last `Host` without its colons is the first `Host`, and
with `HTTP2-Settings` the other two headers ask for the upgrade when their letters do. -/
structure ReadAlike (request : List UInt8) (headers : List (List UInt8 × List UInt8)) : Prop where
  front : ∀ byte ∈ request.head?, byte ≠ 13 ∧ byte ≠ 10
  host : (valuesOf "Host" headers).getLast?.map shown = (valuesOf "Host" headers).head?
  upgrade : valuesOf "HTTP2-Settings" headers ≠ [] →
    ((valuesOf "Upgrade" headers).any (fun value => isH2c (shown value)) &&
      (valuesOf "Connection" headers).any (fun value => holdsUpgrade (shown value))) =
    ((valuesOf "Upgrade" headers).any isH2c &&
      (valuesOf "Connection" headers).any (listsToken (ascii "upgrade")))

/-- The heads of the parser have the documented form. -/
def Documented (httparse : HeadParser RequestHead) : Prop :=
  ∀ text head, httparse.IsHead text head → ∃ layout : HeadText, layout.text = text ∧
    layout.headers.map (fun line => (line.name, line.value)) = headersOf head

theorem HeadText.valueBytes (layout : HeadText) {name : String} {value : List UInt8}
    (h : value ∈ valuesOf name (layout.headers.map fun line => (line.name, line.value))) :
    TcpProxy.valueBytes value = shown value := by
  obtain ⟨header, hheader, rfl⟩ := List.mem_map.mp h
  obtain ⟨line, -, rfl⟩ := List.mem_map.mp (List.mem_filter.mp hheader).1
  exact getHeaderValue_bytes line.printable line.trimmed.2

theorem HeadText.any_valueBytes (layout : HeadText) (name : String) (p : List UInt8 → Bool) :
    let headers := layout.headers.map fun line => (line.name, line.value)
    (valuesOf name headers).any (fun value => p (TcpProxy.valueBytes value)) =
      (valuesOf name headers).any fun value => p (shown value) := by
  intro headers
  rw [Bool.eq_iff_iff, List.any_eq_true, List.any_eq_true]
  apply exists_congr
  intro value
  apply and_congr_right
  intro hvalue
  rw [layout.valueBytes hvalue]

theorem HeadText.front_iff (layout : HeadText) (later : List UInt8) :
    (∀ byte ∈ (layout.text ++ later).head?, byte ≠ 13 ∧ byte ≠ 10) ↔ layout.empty = [] := by
  cases hempty : layout.empty with
  | nil =>
    obtain ⟨first, rest, hline, hfirst⟩ := layout.requestLine_startsWithToken.first
    have hhead : (layout.text ++ later).head? = some first := by
      rw [HeadText.text, hempty, hline]
      rfl
    rw [hhead]
    refine ⟨fun _ => rfl, ?_⟩
    rintro - byte hbyte
    rw [← Option.some.inj hbyte]
    exact (plain_of_isTokenByte hfirst).2
  | cons crlf empty =>
    rw [HeadText.text, hempty]
    refine iff_of_false ?_ (List.cons_ne_nil _ _)
    intro h
    cases crlf with
    | true => exact (h 13 rfl).1 rfl
    | false => exact (h 10 rfl).2 rfl

/-- The scan of a head that no empty line precedes. -/
theorem parseHttpRequestFast_text {layout : HeadText} (hempty : layout.empty = [])
    (later : List UInt8) :
    let headers := layout.headers.map fun line => (line.name, line.value)
    parseHttpRequestFast (layout.text ++ later) =
      (valuesOf "Host" headers).getLast?.map fun value =>
        { host := getHeaderValue value
          isH2cUpgrade :=
            (valuesOf "Upgrade" headers).any (fun value => isH2c (shown value)) &&
            (valuesOf "Connection" headers).any (fun value => holdsUpgrade (shown value)) &&
              !(valuesOf "HTTP2-Settings" headers).isEmpty } := by
  intro headers
  have hfold := foldl_header headers ⟨none, false, false, false⟩
  rw [List.foldl_map] at hfold
  rw [parseHttpRequestFast, scanHeaders_text hempty, hfold, layout.any_valueBytes,
    layout.any_valueBytes]
  simp only [Option.or_none, Option.map_map, Bool.false_or]
  rfl

theorem parseHttpRequestFast_empty {layout : HeadText} (hempty : layout.empty ≠ [])
    (later : List UInt8) : parseHttpRequestFast (layout.text ++ later) = none := by
  rw [parseHttpRequestFast, scanHeaders_empty hempty]
  rfl

theorem agrees_none_iff {headers : List (List UInt8 × List UInt8)} :
    Agrees headers none ↔ valuesOf "Host" headers = [] := by
  constructor
  · intro h
    have hisOk := h.isOk
    rw [Option.isSome_none, eq_comm, Option.isSome_eq_false_iff, Option.isNone_iff_eq_none] at hisOk
    exact List.head?_eq_none_iff.mp hisOk
  · intro hnone
    refine ⟨?_, ?_, ?_⟩
    · rw [hnone]
      rfl
    · exact fun request hrequest => absurd hrequest (Option.not_mem_none request)
    · exact fun request hrequest => absurd hrequest (Option.not_mem_none request)

theorem agrees_some_iff {headers : List (List UInt8 × List UInt8)} {request : ParsedHttpRequest} :
    Agrees headers (some request) ↔
      some request.host.toUTF8.toList = (valuesOf "Host" headers).head? ∧
        request.isH2cUpgrade = asksH2c headers := by
  constructor
  · intro h
    exact ⟨h.host request rfl, h.upgrade request rfl⟩
  · rintro ⟨hhost, hupgrade⟩
    refine ⟨?_, ?_, ?_⟩
    · rw [← hhost]
      rfl
    · rintro _ ⟨⟩
      exact hhost
    · rintro _ ⟨⟩
      exact hupgrade

/-- For every head that the parser finds at the front of the bytes: the scan agrees with it if
and only if it has no `Host` header or is read alike. -/
theorem host_agrees_iff {httparse : HeadParser RequestHead} (hdocumented : Documented httparse)
    {request : List UInt8} {head : RequestHead} {n : Nat}
    (hparse : httparse.parse request = .complete head n) :
    Agrees (headersOf head) (parseHttpRequestFast request) ↔
      valuesOf "Host" (headersOf head) = [] ∨ ReadAlike request (headersOf head) := by
  obtain ⟨text, later, rfl, hhead, -⟩ := httparse.complete_iff.mp hparse
  obtain ⟨layout, rfl, hheaders⟩ := hdocumented text head hhead
  rw [← hheaders]
  generalize hall : layout.headers.map (fun line => (line.name, line.value)) = headers
  by_cases hempty : layout.empty = []
  · have hfast := parseHttpRequestFast_text hempty later
    have hbytes : ∀ value ∈ valuesOf "Host" headers, valueBytes value = shown value := by
      intro value hvalue
      rw [← hall] at hvalue
      exact layout.valueBytes hvalue
    simp only [hall] at hfast
    rw [hfast]
    cases hlast : (valuesOf "Host" headers).getLast? with
    | none =>
      have hnone := List.getLast?_eq_none_iff.mp hlast
      exact iff_of_true (agrees_none_iff.mpr hnone) (Or.inl hnone)
    | some value =>
      have hmem := List.mem_of_getLast? hlast
      have hhost : (getHeaderValue value).toUTF8.toList = shown value := hbytes value hmem
      have hfront := (layout.front_iff later).mpr hempty
      rw [Option.map_some, agrees_some_iff, hhost, asksH2c]
      constructor
      · rintro ⟨hfirst, hupgrade⟩
        refine Or.inr ⟨hfront, ?_, ?_⟩
        · rw [hlast, Option.map_some, hfirst]
        · intro hsettings
          rw [List.isEmpty_eq_false_iff.mpr hsettings] at hupgrade
          simpa only [Bool.not_false, Bool.and_true] using hupgrade
      · rintro (hnone | h)
        · exact absurd hnone (List.ne_nil_of_mem hmem)
        · refine ⟨?_, ?_⟩
          · rw [← h.host, hlast, Option.map_some]
          · cases hsettings : (valuesOf "HTTP2-Settings" headers).isEmpty with
            | true => simp only [Bool.not_true, Bool.and_false]
            | false => rw [h.upgrade (List.isEmpty_eq_false_iff.mp hsettings)]
  · have hnotRead : ¬ ReadAlike (layout.text ++ later) headers := by
      intro h
      exact hempty ((layout.front_iff later).mp h.front)
    rw [parseHttpRequestFast_empty hempty, agrees_none_iff, or_iff_left hnotRead]

/-! ## Two requests -/

def askH2c : HeadText where
  empty := []
  method := ascii "GET"
  target := ascii "/ HTTP/1.1"
  crlf := true
  headers := [
    { name := ascii "Host", before := [32], value := ascii "a.test", behind := [], crlf := true
      named := by decide +kernel, token := by decide +kernel, blanks := by decide +kernel
      printable := by decide +kernel, trimmed := by decide +kernel },
    { name := ascii "Connection", before := [32], value := ascii "Upgrade, HTTP2-Settings"
      behind := [], crlf := true
      named := by decide +kernel, token := by decide +kernel, blanks := by decide +kernel
      printable := by decide +kernel, trimmed := by decide +kernel },
    { name := ascii "Upgrade", before := [32], value := ascii "h2c", behind := [], crlf := true
      named := by decide +kernel, token := by decide +kernel, blanks := by decide +kernel
      printable := by decide +kernel, trimmed := by decide +kernel },
    { name := ascii "HTTP2-Settings", before := [32], value := ascii "AAMAAABk", behind := []
      crlf := true
      named := by decide +kernel, token := by decide +kernel, blanks := by decide +kernel
      printable := by decide +kernel, trimmed := by decide +kernel }]
  last := true
  named := by decide +kernel
  token := by decide +kernel
  oneLine := by decide +kernel

def askH2cHead : RequestHead :=
  ⟨some "GET", some "/", some 1,
    [("Host", ascii "a.test"), ("Connection", ascii "Upgrade, HTTP2-Settings"),
      ("Upgrade", ascii "h2c"), ("HTTP2-Settings", ascii "AAMAAABk")]⟩

/-- A parser that knows the request. -/
def askH2cParser : HeadParser RequestHead := oneHead askH2c.text askH2cHead (by decide +kernel)

theorem askH2c_documented : Documented askH2cParser := by
  rintro _ _ ⟨rfl, rfl⟩
  exact ⟨askH2c, rfl, by decide +kernel⟩

theorem askH2c_agrees :
    Agrees (headersOf askH2cHead) (parseHttpRequestFast (askH2c.text ++ ascii "PRI")) :=
  (host_agrees_iff askH2c_documented
    (askH2cParser.complete_iff.mpr ⟨askH2c.text, ascii "PRI", rfl, ⟨rfl, rfl⟩, rfl⟩)).mpr
      (Or.inr ⟨by decide +kernel, by decide +kernel, fun _ => by decide +kernel⟩)

def twoHosts : HeadText where
  empty := []
  method := ascii "GET"
  target := ascii "/ HTTP/1.1"
  crlf := true
  headers := [
    { name := ascii "Host", before := [32], value := ascii "a.test", behind := [], crlf := true
      named := by decide +kernel, token := by decide +kernel, blanks := by decide +kernel
      printable := by decide +kernel, trimmed := by decide +kernel },
    { name := ascii "Host", before := [32], value := ascii "b.test", behind := [], crlf := true
      named := by decide +kernel, token := by decide +kernel, blanks := by decide +kernel
      printable := by decide +kernel, trimmed := by decide +kernel }]
  last := true
  named := by decide +kernel
  token := by decide +kernel
  oneLine := by decide +kernel

def twoHostsHead : RequestHead :=
  ⟨some "GET", some "/", some 1, [("Host", ascii "a.test"), ("Host", ascii "b.test")]⟩

def twoHostsParser : HeadParser RequestHead :=
  oneHead twoHosts.text twoHostsHead (by decide +kernel)

/-- The scan keeps the last of two hosts, where the headers give the first. -/
theorem twoHosts_notAgreed : ¬ ∀ (httparse : HeadParser RequestHead), Documented httparse →
    ∀ request head n, httparse.parse request = .complete head n →
      Agrees (headersOf head) (parseHttpRequestFast request) := by
  intro h
  have hdocumented : Documented twoHostsParser := by
    rintro _ _ ⟨rfl, rfl⟩
    exact ⟨twoHosts, rfl, by decide +kernel⟩
  have hagrees := h twoHostsParser hdocumented twoHosts.text twoHostsHead _
    (twoHostsParser.complete_iff.mpr ⟨twoHosts.text, [], by simp, ⟨rfl, rfl⟩, rfl⟩)
  have hfast : parseHttpRequestFast twoHosts.text = some ⟨"b.test", false⟩ := by decide +kernel
  rw [hfast, agrees_some_iff, toList_eq] at hagrees
  exact absurd hagrees.1 (by decide +kernel)

end OddBox.TcpProxy

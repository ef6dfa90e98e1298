import Mathlib
import OddBox.Digits
import OddBox.Configuration.V3

/-!
The texts of addresses: `Display` of the standard library and its parser, which
reads back what `Display` writes.
-/

namespace OddBox.Configuration

/-! ## Writing -/

def decimalText (n : Nat) : List Char := Nat.toDigits 10 n

def hexText (n : Nat) : List Char := Nat.toDigits 16 n

def ipv4Text (a b c d : UInt8) : List Char :=
  decimalText a.toNat ++ '.' :: (decimalText b.toNat ++ '.' ::
    (decimalText c.toNat ++ '.' :: decimalText d.toNat))

/-- `fmt_subslice`: the segments, separated by colons. -/
def segmentsText : List UInt16 → List Char
  | [] => []
  | [segment] => hexText segment.toNat
  | segment :: tail => hexText segment.toNat ++ ':' :: segmentsText tail

structure Span where
  start : Nat
  len : Nat
  deriving DecidableEq, Repr

/-- One step of the search for the longest run of zero segments. -/
def zeroStep (state : Span × Span) (segment : UInt16 × Nat) : Span × Span :=
  let (current, longest) := state
  if segment.1 = 0 then
    let start := if current.len = 0 then segment.2 else current.start
    let current : Span := ⟨start, current.len + 1⟩
    (current, if current.len > longest.len then current else longest)
  else (⟨0, 0⟩, longest)

def longestZeroes (segments : List UInt16) : Span :=
  (segments.zipIdx.foldl zeroStep (⟨0, 0⟩, ⟨0, 0⟩)).2

def ipv6Text (segments : List UInt16) : List Char :=
  match segments with
  | [0, 0, 0, 0, 0, 0xffff, ab, cd] =>
    "::ffff:".toList ++ ipv4Text (ab.toNat / 256).toUInt8 (ab.toNat % 256).toUInt8
      (cd.toNat / 256).toUInt8 (cd.toNat % 256).toUInt8
  | segments =>
    let zeroes := longestZeroes segments
    if zeroes.len > 1 then
      segmentsText (segments.take zeroes.start) ++ "::".toList ++
        segmentsText (segments.drop (zeroes.start + zeroes.len))
    else segmentsText segments

def IpAddr.fmt : IpAddr → String
  | .v4 a b c d => String.ofList (ipv4Text a b c d)
  | .v6 s0 s1 s2 s3 s4 s5 s6 s7 => String.ofList (ipv6Text [s0, s1, s2, s3, s4, s5, s6, s7])

/-! ## Reading -/

/-- `char::to_digit`. -/
def toDigit (radix : Nat) (c : Char) : Option Nat :=
  let digit :=
    if '0' ≤ c ∧ c ≤ '9' then c.toNat - '0'.toNat
    else if 'a' ≤ c ∧ c ≤ 'z' then c.toNat - 'a'.toNat + 10
    else if 'A' ≤ c ∧ c ≤ 'Z' then c.toNat - 'A'.toNat + 10
    else radix
  if digit < radix then some digit else none

/-- `read_number`: all digits that come next, if they are not too many. -/
def readNumber (radix maxDigits bound : Nat) (allowZeroPrefix : Bool) (chars : List Char) :
    Option (Nat × List Char) :=
  let digits := chars.takeWhile fun c => (toDigit radix c).isSome
  let value := Digits.value radix (fun c => (toDigit radix c).getD 0) digits
  if digits.length > maxDigits ∨ digits = [] then none
  else if allowZeroPrefix = false ∧ digits.head? = some '0' ∧ digits.length > 1 then none
  else if value < bound then some (value, chars.drop digits.length)
  else none

def readGivenChar (given : Char) : List Char → Option (List Char)
  | c :: cs => if c = given then some cs else none
  | [] => none

def readSeparator (separator : Char) (index : Nat) (chars : List Char) : Option (List Char) :=
  if index > 0 then readGivenChar separator chars else some chars

def readOctet (index : Nat) (chars : List Char) : Option (Nat × List Char) := do
  let chars ← readSeparator '.' index chars
  readNumber 10 3 256 false chars

def readIpv4Addr (chars : List Char) : Option ((Nat × Nat × Nat × Nat) × List Char) := do
  let (a, chars) ← readOctet 0 chars
  let (b, chars) ← readOctet 1 chars
  let (c, chars) ← readOctet 2 chars
  let (d, chars) ← readOctet 3 chars
  pure ((a, b, c, d), chars)

/-- `read_groups`: the groups read into that many free slots, whether the last two
were an IPv4 address, and what is left. -/
def readGroups : Nat → Nat → List Char → List Nat × Bool × List Char
  | 0, _, chars => ([], false, chars)
  | slots + 1, index, chars =>
    -- an IPv4 address fills two slots
    let ipv4 := if slots ≥ 1 then readSeparator ':' index chars >>= readIpv4Addr else none
    match ipv4 with
    | some ((a, b, c, d), rest) => ([a * 256 + b, c * 256 + d], true, rest)
    | none =>
      match readSeparator ':' index chars >>= readNumber 16 4 65536 true with
      | some (group, rest) =>
        let (groups, hasIpv4, rest) := readGroups slots (index + 1) rest
        (group :: groups, hasIpv4, rest)
      | none => ([], false, chars)

def readIpv6Addr (chars : List Char) : Option (List Nat × List Char) :=
  let (head, headIpv4, rest) := readGroups 8 0 chars
  if head.length = 8 then some (head, rest)
  else if headIpv4 then none
  else do
    let rest ← readGivenChar ':' rest
    let rest ← readGivenChar ':' rest
    let (tail, _, rest) := readGroups (8 - (head.length + 1)) 0 rest
    pure (head ++ List.replicate (8 - head.length - tail.length) 0 ++ tail, rest)

def ofGroups : List Nat → Option IpAddr
  | [s0, s1, s2, s3, s4, s5, s6, s7] =>
    some (.v6 s0.toUInt16 s1.toUInt16 s2.toUInt16 s3.toUInt16 s4.toUInt16 s5.toUInt16
      s6.toUInt16 s7.toUInt16)
  | _ => none

/-- `IpAddr::from_str`; nothing may be left over. -/
def IpAddr.parse (text : String) : Option IpAddr :=
  match readIpv4Addr text.toList with
  | some ((a, b, c, d), rest) =>
    if rest = [] then some (.v4 a.toUInt8 b.toUInt8 c.toUInt8 d.toUInt8) else none
  | none => do
    let (groups, rest) ← readIpv6Addr text.toList
    if rest = [] then ofGroups groups else none

/-! ## Numbers -/

theorem toDigit_ten : ∀ d < 10, toDigit 10 (Nat.digitChar d) = some d := by decide

theorem toDigit_sixteen : ∀ d < 16, toDigit 16 (Nat.digitChar d) = some d := by decide

/-- No digit comes next. -/
def EndsNumber (radix : Nat) (rest : List Char) : Prop :=
  ∀ c cs, rest = c :: cs → toDigit radix c = none

theorem endsNumber_nil (radix : Nat) : EndsNumber radix [] := by
  intro c cs h
  simp at h

theorem endsNumber_cons {radix : Nat} {c : Char} (h : toDigit radix c = none) (cs : List Char) :
    EndsNumber radix (c :: cs) := by
  rintro _ _ ⟨⟩
  exact h

theorem takeWhile_digits {radix : Nat} (digits : List Char) {rest : List Char}
    (hdigits : ∀ c ∈ digits, (toDigit radix c).isSome = true) (hrest : EndsNumber radix rest) :
    ((digits ++ rest).takeWhile fun c => (toDigit radix c).isSome) = digits := by
  rw [List.takeWhile_append_of_pos hdigits]
  cases rest with
  | nil => simp
  | cons c cs => simp [hrest c cs rfl]

theorem readNumber_toDigits {radix maxDigits bound n : Nat} {allowZeroPrefix : Bool}
    {rest : List Char} (hradix : 1 < radix)
    (hdigit : ∀ d < radix, toDigit radix (Nat.digitChar d) = some d)
    (hlength : (Nat.toDigits radix n).length ≤ maxDigits) (hbound : n < bound)
    (hzero : allowZeroPrefix = true ∨ radix = 10) (hrest : EndsNumber radix rest) :
    readNumber radix maxDigits bound allowZeroPrefix (Nat.toDigits radix n ++ rest) =
      some (n, rest) := by
  have hdigits := Digits.forall_mem_toDigits (P := fun c => (toDigit radix c).isSome = true)
    hradix (fun d hd => by rw [hdigit d hd]; rfl) n
  have hvalue := Digits.value_toDigits (fun c => (toDigit radix c).getD 0) hradix
    (fun d hd => by rw [hdigit d hd]; rfl) n
  have hzeroes : ¬(allowZeroPrefix = false ∧ (Nat.toDigits radix n).head? = some '0' ∧
      (Nat.toDigits radix n).length > 1) := by
    rintro ⟨hallow, hhead, hlong⟩
    rcases hzero with htrue | rfl
    · rw [htrue] at hallow
      contradiction
    · rw [Digits.toDigits_head hhead, Nat.toDigits_zero] at hlong
      contradiction
  unfold readNumber
  simp only [takeWhile_digits _ hdigits hrest, hvalue]
  rw [if_neg (by simpa [Nat.toDigits_ne_nil] using hlength), if_neg hzeroes, if_pos hbound,
    List.drop_left]

theorem readNumber_nil {radix maxDigits bound : Nat} {allowZeroPrefix : Bool} {rest : List Char}
    (hrest : EndsNumber radix rest) :
    readNumber radix maxDigits bound allowZeroPrefix rest = none := by
  have hdigits := takeWhile_digits [] (by simp) hrest
  rw [List.nil_append] at hdigits
  unfold readNumber
  simp only [hdigits]
  rw [if_pos (by simp)]

theorem readOctet_decimalText {n : Nat} {rest : List Char} (hn : n < 256)
    (hrest : EndsNumber 10 rest) :
    readNumber 10 3 256 false (decimalText n ++ rest) = some (n, rest) :=
  readNumber_toDigits (by decide) toDigit_ten
    ((Nat.length_toDigits_le_iff (by decide) (by decide)).mpr (by omega)) hn (.inr rfl) hrest

theorem readGroup_hexText (segment : UInt16) {rest : List Char} (hrest : EndsNumber 16 rest) :
    readNumber 16 4 65536 true (hexText segment.toNat ++ rest) = some (segment.toNat, rest) := by
  have hlt : segment.toNat < 65536 := segment.toNat_lt
  exact readNumber_toDigits (by decide) toDigit_sixteen
    ((Nat.length_toDigits_le_iff (by decide) (by decide)).mpr hlt) hlt (.inl rfl) hrest

/-! ## IPv4 -/

theorem readIpv4Addr_ipv4Text (a b c d : UInt8) {rest : List Char} (hrest : EndsNumber 10 rest) :
    readIpv4Addr (ipv4Text a b c d ++ rest) =
      some ((a.toNat, b.toNat, c.toNat, d.toNat), rest) := by
  have hdot : ∀ more, EndsNumber 10 ('.' :: more) := endsNumber_cons rfl
  have hsep : ∀ index more, readSeparator '.' (index + 1) ('.' :: more) = some more :=
    fun _ _ => rfl
  have hfirst : ∀ more, readSeparator '.' 0 more = some more := fun _ => rfl
  simp only [readIpv4Addr, ipv4Text, readOctet, List.append_assoc, List.cons_append, hfirst,
    Option.bind_eq_bind, Option.bind_some]
  rw [readOctet_decimalText a.toNat_lt (hdot _)]
  simp only [Option.bind_some, hsep]
  rw [readOctet_decimalText b.toNat_lt (hdot _)]
  simp only [Option.bind_some, hsep]
  rw [readOctet_decimalText c.toNat_lt (hdot _)]
  simp only [Option.bind_some, hsep]
  rw [readOctet_decimalText d.toNat_lt hrest]
  rfl

/-- What is left after a number is a tail of the text. -/
theorem readNumber_rest {radix maxDigits bound n : Nat} {allowZeroPrefix : Bool}
    {chars rest : List Char}
    (h : readNumber radix maxDigits bound allowZeroPrefix chars = some (n, rest)) :
    rest = chars.dropWhile fun c => (toDigit radix c).isSome := by
  unfold readNumber at h
  dsimp only at h
  split at h
  · contradiction
  · split at h
    · contradiction
    · split at h
      · obtain ⟨-, rfl⟩ := Prod.mk.inj (Option.some.inj h)
        conv_lhs =>
          enter [2]
          rw [← List.takeWhile_append_dropWhile (p := fun c => (toDigit radix c).isSome)
            (l := chars)]
        exact List.drop_left
      · contradiction

/-- Hexadecimal digits before a colon or the end are no IPv4 address. -/
theorem readIpv4Addr_none (digits : List Char) {rest : List Char}
    (hdigits : ∀ c ∈ digits, (toDigit 16 c).isSome = true)
    (hrest : rest = [] ∨ ∃ more, rest = ':' :: more) : readIpv4Addr (digits ++ rest) = none := by
  have hnodot : ∀ n left, readNumber 10 3 256 false (digits ++ rest) = some (n, left) →
      readGivenChar '.' left = none := by
    intro n left hread
    rw [readNumber_rest hread]
    clear hread
    induction digits with
    | nil => rcases hrest with rfl | ⟨more, rfl⟩ <;> rfl
    | cons c digits ih =>
      obtain ⟨hc, htail⟩ := List.forall_mem_cons.mp hdigits
      rw [List.cons_append, List.dropWhile_cons]
      split
      · exact ih htail
      · rw [readGivenChar, if_neg]
        rintro rfl
        revert hc
        decide
  have hfirst : readOctet 0 (digits ++ rest) = readNumber 10 3 256 false (digits ++ rest) := rfl
  rw [readIpv4Addr, hfirst]
  cases hread : readNumber 10 3 256 false (digits ++ rest) with
  | none => rfl
  | some result =>
    obtain ⟨n, left⟩ := result
    have hsecond : readOctet 1 left = none := by
      rw [readOctet, show readSeparator '.' 1 left = readGivenChar '.' left from rfl,
        hnodot n left hread]
      rfl
    simp only [Option.bind_eq_bind, Option.bind_some, hsecond, Option.bind_none]

/-! ## Groups -/

/-- The segments as they follow `index` others. -/
def groupsText : Nat → List UInt16 → List Char
  | _, [] => []
  | index, segment :: tail =>
    (if index > 0 then [':'] else []) ++ hexText segment.toNat ++ groupsText (index + 1) tail

theorem segmentsText_tail (segment : UInt16) (tail : List UInt16) (index : Nat) :
    segmentsText (segment :: tail) = hexText segment.toNat ++ groupsText (index + 1) tail := by
  induction tail generalizing segment index with
  | nil => simp [segmentsText, groupsText]
  | cons next tail ih =>
    rw [segmentsText, ih next (index + 1), groupsText]
    · simp
    · simp

theorem segmentsText_groups (segments : List UInt16) :
    segmentsText segments = groupsText 0 segments := by
  cases segments with
  | nil => rfl
  | cons segment tail => rw [segmentsText_tail segment tail 0, groupsText]; rfl

theorem hexText_digits (n : Nat) : ∀ c ∈ hexText n, (toDigit 16 c).isSome = true :=
  Digits.forall_mem_toDigits (P := fun c => (toDigit 16 c).isSome = true) (by decide)
    (fun d hd => by rw [toDigit_sixteen d hd]; rfl) n

/-- The text in which no further group can be read: the end, or a double colon. -/
def Stops (rest : List Char) : Prop := rest = [] ∨ ∃ more, rest = ':' :: ':' :: more

theorem groupsText_next (index : Nat) (segments : List UInt16) {rest : List Char}
    (hrest : Stops rest) :
    groupsText (index + 1) segments ++ rest = [] ∨
      ∃ more, groupsText (index + 1) segments ++ rest = ':' :: more := by
  cases segments with
  | nil =>
    rcases hrest with rfl | ⟨more, rfl⟩
    · exact .inl rfl
    · exact .inr ⟨_, rfl⟩
  | cons segment tail => exact .inr ⟨_, rfl⟩

theorem endsNumber_of_next {radix : Nat} {rest : List Char} (hcolon : toDigit radix ':' = none)
    (h : rest = [] ∨ ∃ more, rest = ':' :: more) : EndsNumber radix rest := by
  rcases h with rfl | ⟨more, rfl⟩
  · exact endsNumber_nil radix
  · exact endsNumber_cons hcolon more

theorem readGroups_stops {slots index : Nat} {rest : List Char} (h : Stops rest) :
    readGroups slots index rest = ([], false, rest) := by
  cases slots with
  | zero => rfl
  | succ slots =>
    have hnone : ∀ left, readSeparator ':' index rest = some left →
        (left = [] ∨ ∃ more, left = ':' :: more) := by
      intro left hleft
      rw [readSeparator] at hleft
      split at hleft
      · rcases h with rfl | ⟨more, rfl⟩
        · contradiction
        · exact .inr ⟨more, (Option.some.inj hleft).symm⟩
      · obtain rfl := Option.some.inj hleft
        rcases h with rfl | ⟨more, rfl⟩
        · exact .inl rfl
        · exact .inr ⟨_, rfl⟩
    have hipv4 : readSeparator ':' index rest >>= readIpv4Addr = none := by
      cases hleft : readSeparator ':' index rest with
      | none => rfl
      | some left => exact readIpv4Addr_none [] (by simp) (hnone left hleft)
    have hgroup : readSeparator ':' index rest >>= readNumber 16 4 65536 true = none := by
      cases hleft : readSeparator ':' index rest with
      | none => rfl
      | some left => exact readNumber_nil (endsNumber_of_next rfl (hnone left hleft))
    rw [readGroups, hipv4, hgroup, ite_self]

/-- The groups of a text that ends or goes on with a double colon. -/
theorem readGroups_groupsText (segments : List UInt16) (slots index : Nat) (rest : List Char)
    (hslots : segments.length ≤ slots) (hrest : Stops rest) :
    readGroups slots index (groupsText index segments ++ rest) =
      (segments.map UInt16.toNat, false, rest) := by
  induction segments generalizing slots index with
  | nil => exact readGroups_stops hrest
  | cons segment tail ih =>
    cases slots with
    | zero => simp at hslots
    | succ slots =>
      have hlength : tail.length ≤ slots := by simpa using hslots
      have hnext := groupsText_next index tail hrest
      have hsep : readSeparator ':' index (groupsText index (segment :: tail) ++ rest) =
          some (hexText segment.toNat ++ (groupsText (index + 1) tail ++ rest)) := by
        rw [readSeparator, groupsText]
        split
        · simp [readGivenChar]
        · simp
      have hipv4 : readIpv4Addr (hexText segment.toNat ++ (groupsText (index + 1) tail ++ rest)) =
          none := readIpv4Addr_none _ (hexText_digits _) hnext
      rw [readGroups, hsep]
      simp only [Option.bind_eq_bind, Option.bind_some, hipv4, ite_self,
        readGroup_hexText segment (endsNumber_of_next rfl hnext), ih _ _ hlength, List.map_cons]

/-! ## The longest run of zeroes -/

/-- The span is a run of zeroes of the segments. -/
def IsZeroRun (segments : List UInt16) (span : Span) : Prop :=
  ∃ before after, segments = before ++ List.replicate span.len 0 ++ after ∧
    before.length = span.start

/-- What the search knows after the segments: the current run ends here. -/
def Searched (segments : List UInt16) (state : Span × Span) : Prop :=
  (0 < state.1.len → ∃ before, segments = before ++ List.replicate state.1.len 0 ∧
    before.length = state.1.start) ∧ IsZeroRun segments state.2

theorem zeroStep_searched {segments : List UInt16} {state : Span × Span} (segment : UInt16)
    (h : Searched segments state) :
    Searched (segments ++ [segment]) (zeroStep state (segment, segments.length)) := by
  obtain ⟨current, longest⟩ := state
  obtain ⟨hcurrent, before, after, hsegments, hstart⟩ := h
  have hlongest : IsZeroRun (segments ++ [segment]) longest :=
    ⟨before, after ++ [segment], by rw [hsegments]; simp, hstart⟩
  rw [zeroStep]
  dsimp only
  split
  · next hzero =>
    have hgrown : ∃ front, segments ++ [segment] =
        front ++ List.replicate (current.len + 1) 0 ∧
          front.length = if current.len = 0 then segments.length else current.start := by
      split
      · next hempty => exact ⟨segments, by simp [hempty, hzero], rfl⟩
      · next hsome =>
        obtain ⟨front, hfront, hlength⟩ := hcurrent (Nat.pos_of_ne_zero hsome)
        refine ⟨front, ?_, hlength⟩
        rw [hfront, hzero, List.replicate_succ', List.append_assoc]
    generalize (if current.len = 0 then segments.length else current.start) = start at hgrown ⊢
    refine ⟨fun _ => hgrown, ?_⟩
    dsimp only
    split
    · obtain ⟨front, hfront, hlength⟩ := hgrown
      exact ⟨front, [], by rw [hfront]; simp, hlength⟩
    · exact hlongest
  · exact ⟨fun hpos => absurd hpos (by simp), hlongest⟩

theorem longestZeroes_run (segments : List UInt16) :
    IsZeroRun segments (longestZeroes segments) := by
  have hrun : ∀ (rest done : List UInt16) (state : Span × Span), Searched done state →
      Searched (done ++ rest) ((rest.zipIdx done.length).foldl zeroStep state) := by
    intro rest
    induction rest with
    | nil => intro done state h; simpa using h
    | cons segment rest ih =>
      intro done state h
      have hstep := ih (done ++ [segment]) _ (zeroStep_searched segment h)
      simpa using hstep
  exact (hrun segments [] _ ⟨fun h => absurd h (by simp), [], [], by simp, rfl⟩).2

/-! ## IPv6 -/

theorem stops_colons (more : List Char) : Stops ("::".toList ++ more) := .inr ⟨more, rfl⟩

theorem readIpv6Addr_segments {segments : List UInt16} (h : segments.length = 8) :
    readIpv6Addr (segmentsText segments) = some (segments.map UInt16.toNat, []) := by
  have hread := readGroups_groupsText segments 8 0 [] (by omega) (.inl rfl)
  rw [List.append_nil, ← segmentsText_groups] at hread
  rw [readIpv6Addr, hread]
  simp [h]

theorem readIpv6Addr_compressed {before after : List UInt16}
    (h : before.length + after.length ≤ 7) :
    readIpv6Addr (segmentsText before ++ "::".toList ++ segmentsText after) =
      some (before.map UInt16.toNat ++ List.replicate (8 - before.length - after.length) 0 ++
        after.map UInt16.toNat, []) := by
  have hhead := readGroups_groupsText before 8 0 ("::".toList ++ segmentsText after) (by omega)
    (stops_colons _)
  have htail := readGroups_groupsText after (8 - (before.length + 1)) 0 [] (by omega) (.inl rfl)
  have hcolons : ∀ more : List Char,
      (readGivenChar ':' ("::".toList ++ more) >>= readGivenChar ':') = some more := fun _ => rfl
  rw [List.append_nil, ← segmentsText_groups] at htail
  rw [← segmentsText_groups, ← List.append_assoc] at hhead
  rw [readIpv6Addr, hhead]
  dsimp only
  rw [if_neg (by simp; omega), if_neg (by simp)]
  have hassoc : ∀ f : List Char → Option (List Nat × List Char),
      (do
        let rest ← readGivenChar ':' ("::".toList ++ segmentsText after)
        let rest ← readGivenChar ':' rest
        f rest) = f (segmentsText after) := by
    intro f
    exact congrArg (· >>= f) (hcolons (segmentsText after))
  rw [hassoc, List.length_map, htail]
  simp

theorem readIpv4Addr_groups {segments : List UInt16} {rest : List Char}
    (hrest : Stops rest) : readIpv4Addr (segmentsText segments ++ rest) = none := by
  cases segments with
  | nil =>
    refine readIpv4Addr_none [] (by simp) ?_
    rcases hrest with rfl | ⟨more, rfl⟩
    · exact .inl rfl
    · exact .inr ⟨_, rfl⟩
  | cons segment tail =>
    rw [segmentsText_tail segment tail 0, List.append_assoc]
    exact readIpv4Addr_none _ (hexText_digits _) (groupsText_next 0 tail hrest)

theorem readIpv6Addr_mapped (a b c d : UInt8) :
    readIpv6Addr ("::ffff:".toList ++ ipv4Text a b c d) =
      some ([0, 0, 0, 0, 0, 0xffff, a.toNat * 256 + b.toNat, c.toNat * 256 + d.toNat], []) := by
  have hipv4 := @readIpv4Addr_ipv4Text a b c d [] (endsNumber_nil 10)
  rw [List.append_nil] at hipv4
  have hffff : "ffff:".toList ++ ipv4Text a b c d =
      hexText (0xffff : UInt16).toNat ++ ':' :: ipv4Text a b c d := rfl
  have hlast : readGroups 6 1 (':' :: ipv4Text a b c d) =
      ([a.toNat * 256 + b.toNat, c.toNat * 256 + d.toNat], true, []) := by
    have hsep : readSeparator ':' 1 (':' :: ipv4Text a b c d) = some (ipv4Text a b c d) := rfl
    rw [readGroups, hsep]
    simp only [Option.bind_eq_bind, Option.bind_some, hipv4]
    rfl
  have htail : readGroups 7 0 ("ffff:".toList ++ ipv4Text a b c d) =
      ([0xffff, a.toNat * 256 + b.toNat, c.toNat * 256 + d.toNat], true, []) := by
    have hsep : ∀ chars, readSeparator ':' 0 chars = some chars := fun _ => rfl
    have hends : EndsNumber 16 (':' :: ipv4Text a b c d) := endsNumber_cons (by decide) _
    rw [hffff, readGroups, hsep]
    simp only [Option.bind_eq_bind, Option.bind_some,
      readIpv4Addr_none _ (hexText_digits _) (.inr ⟨_, rfl⟩), ite_self,
      readGroup_hexText 0xffff hends, hlast]
    rfl
  have hhead : readGroups 8 0 ("::ffff:".toList ++ ipv4Text a b c d) =
      ([], false, "::ffff:".toList ++ ipv4Text a b c d) := readGroups_stops (.inr ⟨_, rfl⟩)
  have hcolons : ∀ f : List Char → Option (List Nat × List Char),
      (do
        let rest ← readGivenChar ':' ("::ffff:".toList ++ ipv4Text a b c d)
        let rest ← readGivenChar ':' rest
        f rest) = f ("ffff:".toList ++ ipv4Text a b c d) := fun _ => rfl
  rw [readIpv6Addr, hhead]
  dsimp only
  rw [if_neg (by decide), if_neg (by decide), hcolons]
  rw [show 8 - (([] : List Nat).length + 1) = 7 from rfl, htail]
  rfl

theorem groups_of_run {segments : List UInt16} {span : Span} (h : IsZeroRun segments span) :
    segments = segments.take span.start ++ List.replicate span.len 0 ++
      segments.drop (span.start + span.len) := by
  obtain ⟨before, after, rfl, hstart⟩ := h
  rw [← hstart, List.append_assoc before, List.take_left, ← List.drop_drop, List.drop_left,
    List.drop_left' List.length_replicate, List.append_assoc]

theorem ofGroups_segments (s0 s1 s2 s3 s4 s5 s6 s7 : UInt16) :
    ofGroups ([s0, s1, s2, s3, s4, s5, s6, s7].map UInt16.toNat) =
      some (.v6 s0 s1 s2 s3 s4 s5 s6 s7) := by
  simp [ofGroups]

theorem readIpv6Addr_ipv6Text {segments : List UInt16} (h : segments.length = 8) :
    readIpv4Addr (ipv6Text segments) = none ∧
      readIpv6Addr (ipv6Text segments) = some (segments.map UInt16.toNat, []) := by
  unfold ipv6Text
  split
  · next ab cd =>
    refine ⟨readIpv4Addr_none [] (by simp) (.inr ⟨_, rfl⟩), ?_⟩
    have hab := ab.toNat_lt
    have hcd := cd.toNat_lt
    rw [readIpv6Addr_mapped]
    simp
    omega
  · dsimp only
    split
    · next hlong =>
      have hrun := groups_of_run (longestZeroes_run segments)
      have hlength := congrArg List.length hrun
      simp only [List.length_append, List.length_replicate] at hlength
      refine ⟨?_, ?_⟩
      · rw [List.append_assoc]
        exact readIpv4Addr_groups (stops_colons _)
      · rw [readIpv6Addr_compressed (by omega)]
        conv_rhs => rw [hrun]
        have hzeroes : 8 - (segments.take (longestZeroes segments).start).length -
            (segments.drop ((longestZeroes segments).start + (longestZeroes segments).len)).length =
              (longestZeroes segments).len := by omega
        rw [hzeroes]
        simp
    · refine ⟨?_, readIpv6Addr_segments h⟩
      have hnone := @readIpv4Addr_groups segments [] (.inl rfl)
      rwa [List.append_nil] at hnone

/-- What `Display` writes is read as the address that was written. -/
theorem IpAddr.parse_fmt (ip : IpAddr) : IpAddr.parse ip.fmt = some ip := by
  cases ip with
  | v4 a b c d =>
    have hread := @readIpv4Addr_ipv4Text a b c d [] (endsNumber_nil 10)
    rw [List.append_nil] at hread
    rw [IpAddr.parse, IpAddr.fmt, String.toList_ofList, hread]
    simp
  | v6 s0 s1 s2 s3 s4 s5 s6 s7 =>
    obtain ⟨hipv4, hread⟩ :=
      @readIpv6Addr_ipv6Text [s0, s1, s2, s3, s4, s5, s6, s7] rfl
    rw [IpAddr.parse, IpAddr.fmt, String.toList_ofList, hipv4]
    simp only [hread, Option.bind_eq_bind, Option.bind_some, if_true]
    exact ofGroups_segments s0 s1 s2 s3 s4 s5 s6 s7

/-! ## Characters -/

/-- The characters of an address: digits, small letters, dots and colons. -/
def IsIpChar (c : Char) : Prop := c.isAlphanum = true ∨ c = '.' ∨ c = ':'

theorem decimalText_chars (n : Nat) : ∀ c ∈ decimalText n, IsIpChar c := by
  have hdigit : ∀ d < 10, (Nat.digitChar d).isAlphanum = true := by decide
  exact Digits.forall_mem_toDigits (by decide) (fun d hd => .inl (hdigit d hd)) n

theorem hexText_chars (n : Nat) : ∀ c ∈ hexText n, IsIpChar c := by
  have hdigit : ∀ d < 16, (Nat.digitChar d).isAlphanum = true := by decide
  exact Digits.forall_mem_toDigits (by decide) (fun d hd => .inl (hdigit d hd)) n

theorem ipv4Text_chars (a b c d : UInt8) : ∀ x ∈ ipv4Text a b c d, IsIpChar x := by
  have hdot : IsIpChar '.' := .inr (.inl rfl)
  intro x hx
  simp only [ipv4Text, List.mem_append, List.mem_cons] at hx
  rcases hx with hx | rfl | hx | rfl | hx | rfl | hx
  · exact decimalText_chars _ x hx
  · exact hdot
  · exact decimalText_chars _ x hx
  · exact hdot
  · exact decimalText_chars _ x hx
  · exact hdot
  · exact decimalText_chars _ x hx

theorem segmentsText_chars (segments : List UInt16) : ∀ x ∈ segmentsText segments, IsIpChar x := by
  rw [segmentsText_groups]
  generalize 0 = index
  induction segments generalizing index with
  | nil => intro x hx; simp [groupsText] at hx
  | cons segment tail ih =>
    intro x hx
    simp only [groupsText, List.mem_append] at hx
    rcases hx with (hx | hx) | hx
    · split at hx
      · exact .inr (.inr (List.mem_singleton.mp hx))
      · simp at hx
    · exact hexText_chars _ x hx
    · exact ih (index + 1) x hx

theorem IpAddr.fmt_chars (ip : IpAddr) : ∀ x ∈ ip.fmt.toList, IsIpChar x := by
  have hcolons : ∀ x ∈ "::".toList, IsIpChar x := by
    intro x hx
    exact .inr (.inr (by simpa using hx))
  have hffff : ∀ x ∈ "::ffff:".toList, IsIpChar x := by
    have hcheck : ("::ffff:".toList.all fun x => x.isAlphanum || x == ':') = true := by decide
    intro x hx
    have hx := List.all_eq_true.mp hcheck x hx
    rw [Bool.or_eq_true, beq_iff_eq] at hx
    exact hx.imp_right .inr
  cases ip with
  | v4 a b c d =>
    rw [IpAddr.fmt, String.toList_ofList]
    exact ipv4Text_chars a b c d
  | v6 s0 s1 s2 s3 s4 s5 s6 s7 =>
    rw [IpAddr.fmt, String.toList_ofList]
    unfold ipv6Text
    split
    · intro x hx
      rcases List.mem_append.mp hx with hx | hx
      · exact hffff x hx
      · exact ipv4Text_chars _ _ _ _ x hx
    · dsimp only
      split
      · intro x hx
        simp only [List.mem_append] at hx
        rcases hx with (hx | hx) | hx
        · exact segmentsText_chars _ x hx
        · exact hcolons x hx
        · exact segmentsText_chars _ x hx
      · exact segmentsText_chars _

end OddBox.Configuration

import Mathlib
import OddBox.Configuration.RoundTrip

/-!
Which literals of `to_string` are the strings they are written for: `Debug` and
TOML agree on all escapes but those of NUL and of the characters that are written
by their number, and a text between quotes must need no escape.
-/

namespace OddBox.Configuration

open Toml

/-! ## What `Debug` writes -/

section

variable (printable : Char → Bool)

/-- `Debug` writes the character as it is, or by an escape that TOML has. -/
def EscapesAlike (c : Char) : Prop :=
  c = '\t' ∨ c = '\r' ∨ c = '\n' ∨
    (' ' ≤ c ∧ c ≠ '\x7f' ∧ (128 ≤ c.val → printable c = true))

instance : DecidablePred (EscapesAlike printable) := fun _ => inferInstanceAs (Decidable (_ ∨ _))

/-- The text that `Debug` writes is a TOML string with the content of the text. -/
def DecodesQuoted (text : String) : Prop := Lexes (quoted printable text) [.text text]

/-- The text between quotes is a TOML string with the content of the text. -/
def DecodesRaw (text : String) : Prop := Lexes ("\"" ++ text ++ "\"") [.text text]

theorem plain_alike {c : Char} (hlow : ' ' ≤ c) (hhigh : c ≤ '~') : EscapesAlike printable c := by
  refine .inr (.inr (.inr ⟨hlow, ?_, ?_⟩))
  · rintro rfl
    exact absurd hhigh (by decide)
  · intro hlarge
    exact absurd (UInt32.le_trans hlarge hhigh) (by decide)

variable {printable} {read rest : List Char} {c : Char}

theorem lexFrom_escape {d : Char} (h : escaped d = some c) (hu : d ≠ 'u') (hU : d ≠ 'U') :
    lexFrom (.basic read) ['\\', d] = some ([], .basic (c :: read)) := by
  simp only [lexFrom, lexStep, if_neg (show ('\\' : Char) ≠ '"' by decide), if_true, if_neg hu,
    if_neg hU, h, Option.bind_eq_bind, Option.bind_some, Option.pure_def, List.nil_append]

theorem lexFrom_itself (hquote : c ≠ '"') (hslash : c ≠ '\\') (hprinted : isPrinted c = true) :
    lexFrom (.basic read) [c] = some ([], .basic (c :: read)) := by
  have h := @lexFrom_basic read [c]
    (List.forall_mem_cons.mpr ⟨⟨hquote, hslash, hprinted⟩, by simp⟩)
  exact h

theorem lexFrom_alike (h : EscapesAlike printable c) :
    lexFrom (.basic read) (escapeDebug printable c) = some ([], .basic (c :: read)) := by
  unfold escapeDebug
  split_ifs with hnul htab hreturn hline hself hascii hshown hprintable
  · subst hnul
    exact absurd h (by simp [EscapesAlike])
  · subst htab
    exact lexFrom_escape rfl (by decide) (by decide)
  · subst hreturn
    exact lexFrom_escape rfl (by decide) (by decide)
  · subst hline
    exact lexFrom_escape rfl (by decide) (by decide)
  · rcases hself with rfl | rfl
    · exact lexFrom_escape rfl (by decide) (by decide)
    · exact lexFrom_escape rfl (by decide) (by decide)
  · rw [not_or] at hself
    exact lexFrom_itself hself.1 hself.2 (by simp [isPrinted, hshown.1, hshown.2])
  · rcases h with rfl | rfl | rfl | ⟨hlow, hdel, -⟩
    · contradiction
    · contradiction
    · contradiction
    · exact absurd ⟨hlow, hdel⟩ hshown
  · rw [not_or] at hself
    rcases h with rfl | rfl | rfl | ⟨hlow, hdel, -⟩
    · contradiction
    · contradiction
    · contradiction
    · exact lexFrom_itself hself.1 hself.2 (by simp [isPrinted, hlow, hdel])
  · rcases h with rfl | rfl | rfl | ⟨-, -, hall⟩
    · contradiction
    · contradiction
    · contradiction
    · exact absurd (hall (UInt32.not_lt.mp hascii)) hprintable

/-- The number of a character stands in braces, which TOML does not read. -/
theorem lexFrom_unicodeEscape : lexFrom (.basic read) (unicodeEscape c ++ rest) = none := by
  rfl

theorem lexFrom_unlike (h : ¬EscapesAlike printable c) :
    lexFrom (.basic read) (escapeDebug printable c ++ rest) = none := by
  unfold escapeDebug
  split_ifs with hnul htab hreturn hline hself hascii hshown hprintable
  · rfl
  · exact absurd (.inl htab) h
  · exact absurd (.inr (.inl hreturn)) h
  · exact absurd (.inr (.inr (.inl hline))) h
  · refine absurd (.inr (.inr (.inr ?_))) h
    rcases hself with rfl | rfl
    · exact ⟨by decide, by decide, fun hlarge => absurd hlarge (by decide)⟩
    · exact ⟨by decide, by decide, fun hlarge => absurd hlarge (by decide)⟩
  · refine absurd (.inr (.inr (.inr ⟨hshown.1, hshown.2, ?_⟩))) h
    intro hlarge
    exact absurd hascii (UInt32.not_lt.mpr hlarge)
  · exact lexFrom_unicodeEscape
  · refine absurd (.inr (.inr (.inr ⟨?_, ?_, fun _ => hprintable⟩))) h
    · exact UInt32.le_trans (b := 128) (by decide) (UInt32.not_lt.mp hascii)
    · rintro rfl
      exact hascii (by decide)
  · exact lexFrom_unicodeEscape

theorem lexFrom_close : lexFrom (.basic read) ['"'] =
    some ([.text (String.ofList read.reverse)], .plain) := rfl

/-- The characters of a text that `Debug` writes, from the first that differs on. -/
theorem lexFrom_escaped (chars : List Char) :
    lexFrom (.basic read) (chars.flatMap (escapeDebug printable) ++ ['"']) =
      if ∀ c ∈ chars, EscapesAlike printable c then
        some ([.text (String.ofList (read.reverse ++ chars))], .plain)
      else none := by
  induction chars generalizing read with
  | nil => simp [lexFrom_close]
  | cons c chars ih =>
    rw [List.flatMap_cons, List.append_assoc]
    by_cases hc : EscapesAlike printable c
    · rw [lexFrom_append (lexFrom_alike hc), ih]
      by_cases hchars : ∀ c ∈ chars, EscapesAlike printable c
      · rw [if_pos hchars, if_pos (List.forall_mem_cons.mpr ⟨hc, hchars⟩)]
        simp
      · have hnot : ¬∀ d ∈ c :: chars, EscapesAlike printable d := fun h =>
          hchars (List.forall_mem_cons.mp h).2
        rw [if_neg hchars, if_neg hnot]
        rfl
    · have hnot : ¬∀ d ∈ c :: chars, EscapesAlike printable d := fun h =>
        hc (List.forall_mem_cons.mp h).1
      rw [lexFrom_unlike hc, if_neg hnot]

theorem decodes_quoted_iff (text : String) :
    DecodesQuoted printable text ↔ ∀ c ∈ text.toList, EscapesAlike printable c := by
  have hopen : lexFrom .plain "\"".toList = some ([], .basic []) := rfl
  unfold DecodesQuoted Lexes quoted
  rw [String.toList_append, String.toList_append, List.append_assoc, lexFrom_append hopen,
    String.toList_ofList, show "\"".toList = ['"'] from rfl, lexFrom_escaped]
  split_ifs with h
  · simp only [Option.map_some, List.nil_append, List.reverse_nil, String.ofList_toList]
    exact iff_of_true trivial h
  · exact iff_of_false (by simp) h

end

/-! ## The written document -/

section

variable {toml : TomlCrate} (newId : Nat → ProcId) (printable : Char → Bool)
  {config : OddBoxV3Config}

theorem decodes_spelled (h : config.Texts (DecodesQuoted printable) DecodesRaw) :
    config.Spelled printable :=
  config_texts_mono (fun _ => spells_of_text) (fun _ => spells_of_text) h

/-- Every literal decodes to its string and the file is read with the keys of the
document, exactly when the strings hold no character that `Debug` and TOML write
differently, or that the two texts between quotes would have to escape (and no number is
too large for TOML). -/
theorem literals_decode_iff (htoml : toml.ReadsToml) :
    (config.Texts (DecodesQuoted printable) DecodesRaw ∧
      toml.parse (config.toString printable) = some config.document.table ∧
      AnyOddBoxConfig.parse newId toml (config.toString printable) =
        .ok (.v3 (config.readBack newId))) ↔
      config.Texts (fun text => ∀ c ∈ text.toList, EscapesAlike printable c)
          (fun text => ∀ c ∈ text.toList, NeedsNoEscape c) ∧
        ∀ s ∈ config.dirServer.getD [], s.Fits := by
  constructor
  · rintro ⟨htexts, hparse, -⟩
    refine ⟨config_texts_mono (fun text => (decodes_quoted_iff text).mp)
      (fun text => (lexes_basic_iff text).mp) htexts, ?_⟩
    by_contra hfits
    have hread := read_toString printable (decodes_spelled printable htexts)
    rw [if_neg hfits] at hread
    rw [htoml.overflows _ hread] at hparse
    contradiction
  · rintro ⟨htexts, hfits⟩
    have hdecodes := config_texts_mono (fun text => (decodes_quoted_iff text).mpr)
      (fun text => (lexes_basic_iff text).mpr) htexts
    have hspelled := decodes_spelled printable hdecodes
    have hread := read_toString printable hspelled
    rw [if_pos hfits] at hread
    refine ⟨hdecodes, htoml.reads _ _ hread, ?_⟩
    rw [parse_v3_iff]
    exact v3_toString newId printable htoml hspelled hfits

end

theorem sampleConfig_decoded :
    (sampleConfig none).Texts (DecodesQuoted fun _ => true) DecodesRaw ∧
      readerCrate.parse ((sampleConfig none).toString fun _ => true) =
        some (sampleConfig none).document.table ∧
      AnyOddBoxConfig.parse (fun _ => ⟨"id"⟩) readerCrate
        ((sampleConfig none).toString fun _ => true) =
          .ok (.v3 ((sampleConfig none).readBack fun _ => ⟨"id"⟩)) := by
  apply (literals_decode_iff _ _ readerCrate_readsToml).mpr
  refine ⟨config_texts_mono ?_ ?_ (sampleConfig_plain none), sampleConfig_fits none⟩
  · intro text htext c hc
    exact plain_alike _ (htext c hc).1 (htext c hc).2.1
  · intro text htext
    exact plain_basic htext

/-- An address whose local part is quoted. -/
def quotedEmail : OddBoxV3Config :=
  { sampleConfig none with letsEncryptAccountEmail := some "\"site admin\"@site.local" }

theorem quotedEmail_not_decoded :
    ¬(quotedEmail.Texts (DecodesQuoted fun _ => true) DecodesRaw ∧
      readerCrate.parse (quotedEmail.toString fun _ => true) = some quotedEmail.document.table ∧
      AnyOddBoxConfig.parse (fun _ => ⟨"id"⟩) readerCrate
        (quotedEmail.toString fun _ => true) =
          .ok (.v3 (quotedEmail.readBack fun _ => ⟨"id"⟩))) := by
  rintro ⟨htexts, -, -⟩
  have hemail := htexts.email _ rfl
  revert hemail
  unfold DecodesRaw
  decide

end OddBox.Configuration

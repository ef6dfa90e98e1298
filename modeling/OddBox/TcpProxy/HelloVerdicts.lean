import OddBox.TcpProxy.HelloLayout
import OddBox.TcpProxy.Peek

/-!
The verdict on the first bytes of a TLS stream: accepted, rejected, or to be looked at again
when there are more. A verdict other than the last must not depend on how much of the
stream has come in.
-/

namespace OddBox.TcpProxy

open OddBox.H2 (HpackDecoder)

/-- `Err(MessageIncomplete(_))`. -/
def Incomplete (data : List UInt8) : Prop :=
  ∃ index, TlsClientHello.tryFrom data = .error (.error (.messageIncomplete index))

/-- Verdicts are final, except that of an incomplete message, and that is given only while
more bytes can make the message complete. A peek follows the verdict. -/
structure VerdictsStable (data : List UInt8) : Prop where
  final : ¬ Incomplete data →
    ∀ later, TlsClientHello.tryFrom (data ++ later) = TlsClientHello.tryFrom data
  completes : Incomplete data →
    ∃ later hello, TlsClientHello.tryFrom (data ++ later) = .ok hello
  rejects : ∀ {T : InnerStream} {hpack : HpackDecoder} (self : PeekStream T hpack) e,
    (self.peekTls data).1 = .done (.error e) →
      ∀ later hello, TlsClientHello.tryFrom (data ++ later) ≠ .ok hello
  waits : ∀ {T : InnerStream} {hpack : HpackDecoder} (self : PeekStream T hpack) counted,
    (self.peekTls data).1 = .again counted →
      ∃ later hello, TlsClientHello.tryFrom (data ++ later) = .ok hello

/-- An extension is too long for the block that announces it, with a zero for each byte that
is not there yet. -/
def ExtensionOverruns (data : List UInt8) : Prop :=
  Overruns data (extensionsEnd data) (extensionsAt data)

section Verdicts

variable {data : List UInt8}

theorem octet_first (hfirst : data.head? = some 0x16) : data.getD 0 0 = 0x16 := by
  rw [List.getD_eq_getElem?_getD, ← List.head?_eq_getElem?, hfirst, Option.getD_some]

/-- Of bytes that are no client hello, this is known. -/
theorem tryFrom_cases (hfirst : data.head? = some 0x16) (hlen : 6 ≤ data.length) :
    IsClientHello data ∨ ∀ later,
      TlsClientHello.tryFrom (data ++ later) = .error (.error .notClientHello) := by
  by_cases htype : data.getD 5 0 = 0x01
  · exact Or.inl ⟨hlen, octet_first hfirst, htype⟩
  · right
    intro later
    apply tryFrom_notClientHello
    · rw [List.length_append]
      omega
    · rw [List.getD_append _ _ _ _ (by omega), octet_first hfirst]
    · rwa [List.getD_append _ _ _ _ (by omega)]

/-- Six bytes tell whether it is a client hello. -/
theorem isClientHello_append_iff (hlen : 6 ≤ data.length) (later : List UInt8) :
    IsClientHello (data ++ later) ↔ IsClientHello data := by
  rw [IsClientHello, IsClientHello, List.getD_append _ _ _ _ (by omega),
    List.getD_append _ _ _ _ (by omega), List.length_append]
  exact and_congr_left fun _ => iff_of_true (by omega) hlen

theorem IsClientHello.append (h : IsClientHello data) (later : List UInt8) :
    IsClientHello (data ++ later) :=
  (isClientHello_append_iff h.1 later).mpr h

/-- Fewer than six bytes are no handshake, but with zeros behind them they are one. -/
theorem tryFrom_short_zeros (hfirst : data.head? = some 0x16) (hshort : data.length < 6) :
    TlsClientHello.tryFrom (data ++ List.replicate 6 0) = .error (.error .notClientHello) := by
  have hmissing : octet (data ++ List.replicate 6 0) 5 = 0 := by
    rw [octet_append_zeros]
    exact octet_missing (by omega)
  apply tryFrom_notClientHello
  · rw [List.length_append, List.length_replicate]
    omega
  · apply octet_first
    rw [List.head?_append, hfirst]
    rfl
  · intro htype
    rw [octet, htype] at hmissing
    cases hmissing

/-- An accepted message is accepted with anything behind it. -/
theorem tryFrom_ok_append (h : IsClientHello data) (hend : extensionsEnd data ≤ data.length)
    {extensions : List TlsExtension}
    (hextensions : Extensions data (extensionsEnd data) (extensionsAt data) extensions)
    (later : List UInt8) :
    TlsClientHello.tryFrom (data ++ later) = .ok (helloOf data extensions) := by
  have horder := layout_order data
  have hlayout := layout_append (show extensionsAt data ≤ data.length by
    rw [extensionsAt]
    omega) later
  have hmore := extensions_append hextensions hend later
  rw [← hlayout.start, ← hlayout.stop] at hmore
  rw [tryFrom_ok (h.append later) _ hmore, helloOf_append hend]
  rw [hlayout.stop, List.length_append]
  omega

/-- A cut message without an extension that is too long is completed by zeros. -/
theorem tryFrom_completes (h : IsClientHello data) (hfits : ¬ ExtensionOverruns data) :
    ∃ later hello, TlsClientHello.tryFrom (data ++ later) = .ok hello := by
  refine ⟨List.replicate (extensionsEnd data) 0, ?_⟩
  obtain ⟨hstart, hstop⟩ := layout_append_zeros data (extensionsEnd data)
  obtain ⟨extensions, hextensions⟩ | hover := extensions_or_overruns
    (data ++ List.replicate (extensionsEnd data) 0)
    (extensionsEnd (data ++ List.replicate (extensionsEnd data) 0))
    (extensionsAt (data ++ List.replicate (extensionsEnd data) 0))
  · refine ⟨_, tryFrom_ok (h.append _) ?_ hextensions⟩
    rw [hstop, List.length_append, List.length_replicate]
    omega
  · rw [hstart, hstop] at hover
    exact absurd (overruns_append_zeros _ hover) hfits

/-- With an extension that is too long, no bytes behind it help. -/
theorem tryFrom_overruns (h : IsClientHello data) (hover : ExtensionOverruns data)
    (later : List UInt8) : Incomplete (data ++ later) := by
  apply tryFrom_incomplete (h.append later)
  right
  have hthere : extensionsAt data ≤ data.length := by
    by_contra hmissing
    exact not_overruns_missing (by omega) hover
  have hlayout := layout_append hthere later
  rw [hlayout.start, hlayout.stop]
  exact overruns_append hover later

theorem peekTls_error {T : InnerStream} {hpack : HpackDecoder} {self : PeekStream T hpack}
    {e : PeekError} (h : (self.peekTls data).1 = .done (.error e)) :
    ¬ Incomplete data ∧ ∀ hello, TlsClientHello.tryFrom data ≠ .ok hello := by
  unfold PeekStream.peekTls at h
  refine ⟨?_, ?_⟩
  · rintro ⟨index, hincomplete⟩
    rw [hincomplete] at h
    cases h
  · intro hello hok
    rw [hok] at h
    simp only at h
    split at h <;> cases h

theorem peekTls_again {T : InnerStream} {hpack : HpackDecoder} {self : PeekStream T hpack}
    {counted : Bool} (h : (self.peekTls data).1 = .again counted) :
    Incomplete data ∨ ∃ hello, TlsClientHello.tryFrom data = .ok hello := by
  unfold PeekStream.peekTls at h
  split at h
  · rename_i hello hok
    exact Or.inr ⟨hello, hok⟩
  · rename_i index hincomplete
    exact Or.inl ⟨index, hincomplete⟩
  · cases h
  · cases h

/-- A peek follows the verdict, so it is enough that the verdict is right. -/
theorem verdictsStable_of
    (final : ¬ Incomplete data →
      ∀ later, TlsClientHello.tryFrom (data ++ later) = TlsClientHello.tryFrom data)
    (completes : Incomplete data →
      ∃ later hello, TlsClientHello.tryFrom (data ++ later) = .ok hello) :
    VerdictsStable data where
  final := final
  completes := completes
  rejects self e h later hello := by
    obtain ⟨hfinal, hrejected⟩ := peekTls_error h
    rw [final hfinal later]
    exact hrejected hello
  waits self counted h := by
    obtain hincomplete | ⟨hello, hok⟩ := peekTls_again h
    · exact completes hincomplete
    · exact ⟨[], hello, by rw [List.append_nil, hok]⟩

theorem not_stable_of_short (hfirst : data.head? = some 0x16) (hshort : data.length < 6) :
    ¬ VerdictsStable data := by
  intro hstable
  have hverdict := tryFrom_short hshort
  have hfinal := hstable.final (by
    rintro ⟨index, hincomplete⟩
    rw [hverdict] at hincomplete
    cases hincomplete) (List.replicate 6 0)
  rw [hverdict, tryFrom_short_zeros hfirst hshort] at hfinal
  cases hfinal

theorem not_stable_of_overruns (h : IsClientHello data) (hover : ExtensionOverruns data) :
    ¬ VerdictsStable data := by
  intro hstable
  have hincomplete := tryFrom_overruns h hover []
  rw [List.append_nil] at hincomplete
  obtain ⟨later, hello, hok⟩ := hstable.completes hincomplete
  obtain ⟨index, herror⟩ := tryFrom_overruns h hover later
  rw [hok] at herror
  cases herror

/-- **Verdicts are stable** on exactly those first bytes of a handshake that are at least six
and, if they are a client hello, have no extension that is too long for its block. -/
theorem verdicts_stable_iff (data : List UInt8) (hfirst : data.head? = some 0x16) :
    VerdictsStable data ↔
      6 ≤ data.length ∧ (data.getD 5 0 = 0x01 → ¬ ExtensionOverruns data) := by
  constructor
  · intro hstable
    have hlen : 6 ≤ data.length := by
      by_contra hshort
      exact not_stable_of_short hfirst (by omega) hstable
    refine ⟨hlen, ?_⟩
    intro htype hover
    exact not_stable_of_overruns ⟨hlen, octet_first hfirst, htype⟩ hover hstable
  · rintro ⟨hlen, hfits⟩
    obtain hhello | hother := tryFrom_cases hfirst hlen
    · have hfits := hfits hhello.2.2
      apply verdictsStable_of
      · intro hverdict later
        obtain ⟨extensions, hextensions⟩ | hover :=
          extensions_or_overruns data (extensionsEnd data) (extensionsAt data)
        · have hend : extensionsEnd data ≤ data.length := by
            by_contra hcut
            exact hverdict (tryFrom_incomplete hhello (Or.inl (by omega)))
          rw [tryFrom_ok_append hhello hend hextensions, tryFrom_ok hhello hend hextensions]
        · exact absurd hover hfits
      · intro _
        exact tryFrom_completes hhello hfits
    · have hverdict := hother []
      rw [List.append_nil] at hverdict
      apply verdictsStable_of
      · intro _ later
        rw [hother, hverdict]
      · rintro ⟨index, hincomplete⟩
        rw [hverdict] at hincomplete
        cases hincomplete

end Verdicts

/-- A client hello with one extension, the server name `a`; the length of the extension is
given. -/
def sampleHello (extensionLength : UInt8) : List UInt8 :=
  [0x16, 3, 1, 0, 57, 1, 0, 0, 53, 3, 3] ++ List.replicate 32 0 ++
    [0, 0, 2, 0x13, 1, 1, 0, 0, 10, 0, 0, 0, extensionLength, 0, 4, 0, 0, 1, 97]

/-- The hello of 62 bytes, of which the last four are still missing. -/
theorem cutHello_stable : VerdictsStable ((sampleHello 6).take 58) := by
  apply (verdicts_stable_iff ((sampleHello 6).take 58) (by decide)).mpr
  refine ⟨by decide, ?_⟩
  intro _
  exact extensions_not_overruns (.next (by decide) (by decide) (.done (by decide)))

/-- Five bytes of the same hello are rejected, and one whose extension is announced a byte too
long is waited for, which no more bytes complete. -/
theorem shortHello_notStable :
    ¬ VerdictsStable ((sampleHello 6).take 5) ∧ ¬ VerdictsStable (sampleHello 7) := by
  constructor
  · exact not_stable_of_short (by decide) (by decide)
  · exact not_stable_of_overruns ⟨by decide, by decide, by decide⟩
      (.here (by decide) (by decide))

end OddBox.TcpProxy

import OddBox.TcpProxy.ClientHello

/-!
Where the fields of a client hello lie, read off any bytes with a zero for each that is not
there yet. `tryFrom` accepts exactly the messages that have all bytes of this layout and
whose extensions fill their block.
-/

namespace OddBox.TcpProxy

/-! ## Checked reads -/

section Reading

variable {ε : Type} {data : List UInt8}

/-- The byte at an index, zero where there is none. -/
def octet (data : List UInt8) (index : Nat) : Nat := (data.getD index 0).toNat

def octetPair (data : List UInt8) (index : Nat) : Nat :=
  octet data index * 256 + octet data (index + 1)

theorem byteAt_eq {index : Nat} (h : index < data.length) :
    (byteAt data index : Except (Halt ε) UInt8) = .ok (data.getD index 0) := by
  simp only [byteAt, List.getD_eq_getElem?_getD, List.getElem?_eq_getElem h, Option.getD_some]

theorem u16At_eq {index : Nat} (h : index + 2 ≤ data.length) :
    (u16At data index : Except (Halt ε) Nat) = .ok (octetPair data index) := by
  rw [u16At, byteAt_eq (by omega), byteAt_eq (by omega)]
  rfl

theorem sliceAt_eq {start stop : Nat} (horder : start ≤ stop) (h : stop ≤ data.length) :
    (sliceAt data start stop : Except (Halt ε) (List UInt8)) =
      .ok ((data.drop start).take (stop - start)) := by
  rw [sliceAt, if_pos ⟨horder, h⟩]

theorem require_true {holds : Prop} [Decidable holds] (h : holds) (e : ε) :
    require (decide holds) e = .ok () := by
  rw [require, decide_eq_true h, if_pos rfl]

theorem require_false {holds : Prop} [Decidable holds] (h : ¬ holds) (e : ε) :
    require (decide holds) e = .error (.error e) := by
  rw [require, decide_eq_false h, if_neg Bool.false_ne_true]

section Bind

variable {α : Type}

theorem byteAt_bind {index : Nat} (h : index < data.length)
    (rest : UInt8 → Except (Halt ε) α) :
    (byteAt data index >>= rest) = rest (data.getD index 0) := by
  rw [byteAt_eq h]
  rfl

theorem u16At_bind {index : Nat} (h : index + 2 ≤ data.length)
    (rest : Nat → Except (Halt ε) α) :
    (u16At data index >>= rest) = rest (octetPair data index) := by
  rw [u16At_eq h]
  rfl

theorem sliceAt_bind {start stop : Nat} (horder : start ≤ stop) (h : stop ≤ data.length)
    (rest : List UInt8 → Except (Halt ε) α) :
    (sliceAt data start stop >>= rest) = rest ((data.drop start).take (stop - start)) := by
  rw [sliceAt_eq horder h]
  rfl

theorem minus_bind {a b : Nat} (h : b ≤ a) (rest : Nat → Except (Halt ε) α) :
    (minus a b >>= rest) = rest (a - b) := by
  rw [minus, if_pos h]
  rfl

theorem require_bind_true {holds : Prop} [Decidable holds] (h : holds) (e : ε)
    (rest : Unit → Except (Halt ε) α) : (require (decide holds) e >>= rest) = rest () := by
  rw [require_true h]
  rfl

theorem require_bind_false {holds : Prop} [Decidable holds] (h : ¬ holds) (e : ε)
    (rest : Unit → Except (Halt ε) α) :
    (require (decide holds) e >>= rest) = .error (.error e) := by
  rw [require_false h]
  rfl

end Bind

theorem octet_append {index : Nat} (h : index < data.length) (later : List UInt8) :
    octet (data ++ later) index = octet data index := by
  rw [octet, octet, List.getD_append _ _ _ _ h]

theorem octet_missing {index : Nat} (h : data.length ≤ index) : octet data index = 0 := by
  simp only [octet, List.getD_eq_getElem?_getD, List.getElem?_eq_none h]
  rfl

theorem octet_append_zeros (data : List UInt8) (count index : Nat) :
    octet (data ++ List.replicate count 0) index = octet data index := by
  by_cases h : index < data.length
  · exact octet_append h _
  · have hmissing := Nat.le_of_not_lt h
    rw [octet_missing hmissing]
    simp only [octet, List.getD_eq_getElem?_getD, List.getElem?_append_right hmissing,
      List.getElem?_replicate]
    split <;> rfl

theorem octet_le_append (data later : List UInt8) (index : Nat) :
    octet data index ≤ octet (data ++ later) index := by
  by_cases h : index < data.length
  · rw [octet_append h]
  · rw [octet_missing (by omega)]
    exact Nat.zero_le _

theorem octetPair_append {index : Nat} (h : index + 2 ≤ data.length) (later : List UInt8) :
    octetPair (data ++ later) index = octetPair data index := by
  rw [octetPair, octetPair, octet_append (by omega), octet_append (by omega)]

theorem octetPair_missing {index : Nat} (h : data.length ≤ index) : octetPair data index = 0 := by
  rw [octetPair, octet_missing h, octet_missing (by omega)]

theorem octetPair_append_zeros (data : List UInt8) (count index : Nat) :
    octetPair (data ++ List.replicate count 0) index = octetPair data index := by
  rw [octetPair, octetPair, octet_append_zeros, octet_append_zeros]

theorem octetPair_le_append (data later : List UInt8) (index : Nat) :
    octetPair data index ≤ octetPair (data ++ later) index := by
  have hhigh := octet_le_append data later index
  have hlow := octet_le_append data later (index + 1)
  rw [octetPair, octetPair]
  omega

theorem slice_append {start count : Nat} (h : start + count ≤ data.length)
    (later : List UInt8) :
    ((data ++ later).drop start).take count = (data.drop start).take count := by
  rw [List.drop_append_of_le_length (by omega), List.take_append_of_le_length]
  rw [List.length_drop]
  omega

end Reading

/-! ## The fields -/

section Layout

variable (data : List UInt8)

/-- Behind the session id, whose length stands at 43. -/
def cipherSuitesAt : Nat := 44 + octet data 43

def compressionMethodsAt : Nat := cipherSuitesAt data + 2 + octetPair data (cipherSuitesAt data)

def extensionsLengthAt : Nat :=
  compressionMethodsAt data + 1 + octet data (compressionMethodsAt data)

def extensionsAt : Nat := extensionsLengthAt data + 2

/-- The end of the message, as far as the parser reads it. -/
def extensionsEnd : Nat := extensionsAt data + octetPair data (extensionsLengthAt data)

/-- The extensions from an index on fill the block that ends at `stop`, up to less than a
header. -/
inductive Extensions (stop : Nat) : Nat → List TlsExtension → Prop where
  | done {current : Nat} (h : stop < current + 4) : Extensions stop current []
  | next {current : Nat} {extensions : List TlsExtension} (h : current + 4 ≤ stop)
      (hfits : current + 4 + octetPair data (current + 2) ≤ stop)
      (rest : Extensions stop (current + 4 + octetPair data (current + 2)) extensions) :
      Extensions stop current
        (⟨.fromU16 (octetPair data current),
          (data.drop (current + 4)).take (octetPair data (current + 2))⟩ :: extensions)

/-- Some extension from an index on is longer than what is left of the block. -/
inductive Overruns (stop : Nat) : Nat → Prop where
  | here {current : Nat} (h : current + 4 ≤ stop)
      (hover : stop < current + 4 + octetPair data (current + 2)) : Overruns stop current
  | next {current : Nat} (h : current + 4 ≤ stop)
      (rest : Overruns stop (current + 4 + octetPair data (current + 2))) : Overruns stop current

theorem overruns_iff {stop current : Nat} :
    Overruns data stop current ↔ current + 4 ≤ stop ∧
      (stop < current + 4 + octetPair data (current + 2) ∨
        Overruns data stop (current + 4 + octetPair data (current + 2))) := by
  constructor
  · rintro (⟨h, hover⟩ | ⟨h, rest⟩)
    · exact ⟨h, Or.inl hover⟩
    · exact ⟨h, Or.inr rest⟩
  · rintro ⟨h, hover | rest⟩
    · exact .here h hover
    · exact .next h rest

variable {data}

theorem layout_order (data : List UInt8) :
    44 ≤ cipherSuitesAt data ∧ cipherSuitesAt data + 2 ≤ compressionMethodsAt data ∧
      compressionMethodsAt data + 1 ≤ extensionsLengthAt data ∧
      extensionsLengthAt data + 2 ≤ extensionsEnd data := by
  simp only [extensionsEnd, extensionsAt, extensionsLengthAt, compressionMethodsAt, cipherSuitesAt]
  omega

/-- The layout does not change with bytes behind its last field. -/
structure SameLayout (data later : List UInt8) : Prop where
  cipherSuites : cipherSuitesAt (data ++ later) = cipherSuitesAt data
  compressionMethods : compressionMethodsAt (data ++ later) = compressionMethodsAt data
  start : extensionsAt (data ++ later) = extensionsAt data
  stop : extensionsEnd (data ++ later) = extensionsEnd data

theorem layout_append (h : extensionsAt data ≤ data.length) (later : List UInt8) :
    SameLayout data later := by
  obtain ⟨hfirst, hsecond, hthird, -⟩ := layout_order data
  rw [extensionsAt] at h
  have hcipher : cipherSuitesAt (data ++ later) = cipherSuitesAt data := by
    rw [cipherSuitesAt, octet_append (by omega), cipherSuitesAt]
  have hcompression : compressionMethodsAt (data ++ later) = compressionMethodsAt data := by
    rw [compressionMethodsAt, hcipher, octetPair_append (by omega), compressionMethodsAt]
  have hlength : extensionsLengthAt (data ++ later) = extensionsLengthAt data := by
    rw [extensionsLengthAt, hcompression, octet_append (by omega), extensionsLengthAt]
  refine ⟨hcipher, hcompression, ?_, ?_⟩
  · rw [extensionsAt, hlength, extensionsAt]
  · rw [extensionsEnd, extensionsAt, hlength, octetPair_append h, extensionsEnd, extensionsAt]

theorem layout_append_zeros (data : List UInt8) (count : Nat) :
    extensionsAt (data ++ List.replicate count 0) = extensionsAt data ∧
      extensionsEnd (data ++ List.replicate count 0) = extensionsEnd data := by
  simp only [extensionsEnd, extensionsAt, extensionsLengthAt, compressionMethodsAt, cipherSuitesAt,
    octet_append_zeros, octetPair_append_zeros, and_self]

theorem overruns_append_zeros {stop current : Nat} (count : Nat)
    (h : Overruns (data ++ List.replicate count 0) stop current) : Overruns data stop current := by
  induction h with
  | here h hover =>
    rw [octetPair_append_zeros] at hover
    exact .here h hover
  | next h rest ih =>
    rw [octetPair_append_zeros] at ih
    exact .next h ih

/-- Where no bytes are, no extension is too long. -/
theorem not_overruns_missing {stop current : Nat} (h : data.length ≤ current) :
    ¬ Overruns data stop current := by
  intro hover
  induction hover with
  | here hroom hover =>
    rw [octetPair_missing (by omega)] at hover
    omega
  | next hroom rest ih => exact ih (by omega)

/-- What is too long stays so, whatever the bytes are that are not there yet. -/
theorem overruns_append {stop current : Nat} (h : Overruns data stop current)
    (later : List UInt8) : Overruns (data ++ later) stop current := by
  induction h with
  | @here current hroom hover =>
    have hle := octetPair_le_append data later (current + 2)
    exact .here hroom (by omega)
  | @next current hroom rest ih =>
    by_cases hthere : current + 4 ≤ data.length
    · rw [← octetPair_append (by omega) later] at ih
      exact .next hroom ih
    · exact absurd rest (not_overruns_missing (by omega))

/-- The extensions fill their block, or one of them is too long. -/
theorem extensions_or_overruns (data : List UInt8) (stop current : Nat) :
    (∃ extensions, Extensions data stop current extensions) ∨ Overruns data stop current := by
  by_cases hroom : current + 4 ≤ stop
  · by_cases hfits : current + 4 + octetPair data (current + 2) ≤ stop
    · obtain ⟨extensions, h⟩ | hover := extensions_or_overruns data stop
        (current + 4 + octetPair data (current + 2))
      · exact Or.inl ⟨_, .next hroom hfits h⟩
      · exact Or.inr (.next hroom hover)
    · exact Or.inr (.here hroom (by omega))
  · exact Or.inl ⟨[], .done (by omega)⟩
termination_by stop - current

theorem extensions_not_overruns {stop current : Nat} {extensions : List TlsExtension}
    (h : Extensions data stop current extensions) : ¬ Overruns data stop current := by
  induction h with
  | done h =>
    rw [overruns_iff]
    omega
  | next h hfits rest ih =>
    rw [overruns_iff]
    rintro ⟨-, hover | hover⟩
    · omega
    · exact ih hover

theorem extensions_append {stop current : Nat} {extensions : List TlsExtension}
    (h : Extensions data stop current extensions) (hstop : stop ≤ data.length)
    (later : List UInt8) : Extensions (data ++ later) stop current extensions := by
  induction h with
  | done h => exact .done h
  | @next current extensions hroom hfits rest ih =>
    have htyp : octetPair (data ++ later) current = octetPair data current :=
      octetPair_append (by omega) later
    have hlength : octetPair (data ++ later) (current + 2) = octetPair data (current + 2) :=
      octetPair_append (by omega) later
    have hbody : ((data ++ later).drop (current + 4)).take (octetPair data (current + 2)) =
        (data.drop (current + 4)).take (octetPair data (current + 2)) :=
      slice_append (by omega) later
    rw [← hlength] at ih hfits
    have hnext := Extensions.next hroom hfits ih
    rwa [htyp, hlength, hbody] at hnext

end Layout

/-! ## What the parser returns -/

/-- The parser of the extensions returns those that fill the block, whatever comes behind
it. -/
theorem readExtensions_of_extensions {data : List UInt8} {stop current : Nat}
    {extensions : List TlsExtension} (h : Extensions data stop current extensions)
    (hstop : stop ≤ data.length) {fuel : Nat} (hfuel : stop < current + fuel) (hpos : 0 < fuel) :
    readExtensions data stop fuel current = .ok extensions := by
  induction h generalizing fuel with
  | @done current h =>
    cases fuel with
    | zero => omega
    | succ fuel => rw [readExtensions, if_neg (by omega)]
  | @next current extensions h hfits rest ih =>
    cases fuel with
    | zero => omega
    | succ fuel =>
      rw [readExtensions, if_pos h, u16At_eq (by omega), u16At_eq (by omega)]
      have htail := @ih fuel (by omega) (by omega)
      simp only [bind, Except.bind, pure, Except.pure, require_true hfits,
        require_true (show current + 4 + octetPair data (current + 2) ≤ data.length by omega),
        sliceAt_eq (Nat.le_add_right _ _)
          (show current + 4 + octetPair data (current + 2) ≤ data.length by omega),
        Nat.add_sub_cancel_left, htail]

theorem readExtensions_of_overruns {data : List UInt8} {stop current : Nat}
    (h : Overruns data stop current) (hstop : stop ≤ data.length) {fuel : Nat}
    (hfuel : stop < current + fuel) :
    ∃ index,
      readExtensions data stop fuel current = .error (.error (.messageIncomplete index)) := by
  induction h generalizing fuel with
  | @here current h hover =>
    cases fuel with
    | zero => omega
    | succ fuel =>
      refine ⟨current + 4, ?_⟩
      rw [readExtensions, if_pos h, u16At_eq (by omega), u16At_eq (by omega)]
      simp only [bind, Except.bind, require_false (Nat.not_le_of_lt hover)]
  | @next current h rest ih =>
    cases fuel with
    | zero => omega
    | succ fuel =>
      rw [readExtensions, if_pos h, u16At_eq (by omega), u16At_eq (by omega)]
      by_cases hfits : current + 4 + octetPair data (current + 2) ≤ stop
      · obtain ⟨index, htail⟩ := @ih fuel (by omega)
        refine ⟨index, ?_⟩
        simp only [bind, Except.bind, require_true hfits,
          require_true (show current + 4 + octetPair data (current + 2) ≤ data.length by omega),
          sliceAt_eq (Nat.le_add_right _ _)
            (show current + 4 + octetPair data (current + 2) ≤ data.length by omega), htail]
      · refine ⟨current + 4, ?_⟩
        simp only [bind, Except.bind, require_false hfits]

theorem readCipherSuites_eq {data : List UInt8} {current count : Nat}
    (h : current + count * 2 ≤ data.length) :
    readCipherSuites data current count =
      .ok ((List.range count).map fun i => octetPair data (current + i * 2)) := by
  rw [readCipherSuites]
  have hall : ∀ indices : List Nat, (∀ i ∈ indices, i < count) →
      (indices.mapM fun i => (u16At data (current + i * 2) :
        Except (Halt TlsClientHelloError) Nat)) =
        .ok (indices.map fun i => octetPair data (current + i * 2)) := by
    intro indices hindices
    induction indices with
    | nil => rfl
    | cons i indices ih =>
      obtain ⟨hi, hrest⟩ := List.forall_mem_cons.mp hindices
      rw [List.mapM_cons, u16At_eq (by omega), ih hrest]
      rfl
  exact hall _ (fun i hi => List.mem_range.mp hi)

theorem readCipherSuites_bind {α : Type} {data : List UInt8} {current count : Nat}
    (h : current + count * 2 ≤ data.length)
    (rest : List Nat → Except (Halt TlsClientHelloError) α) :
    (readCipherSuites data current count >>= rest) =
      rest ((List.range count).map fun i => octetPair data (current + i * 2)) := by
  rw [readCipherSuites_eq h]
  rfl

/-- The message that a layout with these extensions spells. -/
def helloOf (data : List UInt8) (extensions : List TlsExtension) : TlsClientHello where
  protocolVersion := (data.getD 9 0, data.getD 10 0)
  random := (data.drop 11).take 32
  sessionId := (data.drop 44).take (octet data 43)
  cipherSuites := (List.range (octetPair data (cipherSuitesAt data) / 2)).map fun i =>
    octetPair data (cipherSuitesAt data + 2 + i * 2)
  compressionMethods :=
    (data.drop (compressionMethodsAt data + 1)).take (octet data (compressionMethodsAt data))
  extensions := extensions

/-- A record of type handshake whose first message is a client hello. -/
def IsClientHello (data : List UInt8) : Prop :=
  6 ≤ data.length ∧ data.getD 0 0 = 0x16 ∧ data.getD 5 0 = 0x01

section Verdicts

variable {data : List UInt8}

/-- From the session id on, a message is read where the layout has its fields, and is
incomplete where one of them is cut. -/
theorem readFromSessionId_eq (data : List UInt8) (protocolVersion : UInt8 × UInt8)
    (random : List UInt8) :
    (extensionsEnd data ≤ data.length →
      readFromSessionId data protocolVersion random 43 =
        (readExtensions data (extensionsEnd data) (data.length + 1) (extensionsAt data)).map
          fun extensions => { helloOf data extensions with protocolVersion, random }) ∧
      (data.length < extensionsEnd data → ∃ index,
        readFromSessionId data protocolVersion random 43 =
          .error (.error (.messageIncomplete index))) := by
  obtain ⟨hcipher, hcompression, hlength, hle⟩ := layout_order data
  have hsession : 43 + (1 + octet data 43) = cipherSuitesAt data := by
    rw [cipherSuitesAt]
    omega
  have hsuites : cipherSuitesAt data + (2 + octetPair data (cipherSuitesAt data)) =
      compressionMethodsAt data := (Nat.add_assoc _ _ _).symm
  have hmethods : compressionMethodsAt data + (1 + octet data (compressionMethodsAt data)) =
      extensionsLengthAt data := (Nat.add_assoc _ _ _).symm
  have hoctet : ∀ index, (data.getD index 0).toNat = octet data index := fun _ => rfl
  have hstop : extensionsLengthAt data + 2 + octetPair data (extensionsLengthAt data) =
      extensionsEnd data := rfl
  unfold readFromSessionId
  by_cases h43 : 43 < data.length
  case neg => exact ⟨fun h => by omega, fun _ => ⟨_, require_bind_false h43 _ _⟩⟩
  rw [require_bind_true h43, byteAt_bind h43]
  simp only [hoctet, hsession]
  by_cases hid : 43 + 1 + octet data 43 ≤ data.length
  case neg => exact ⟨fun h => by omega, fun _ => ⟨_, require_bind_false hid _ _⟩⟩
  rw [require_bind_true hid, sliceAt_bind (Nat.le_add_right _ _) hid]
  by_cases hcount : cipherSuitesAt data + 2 ≤ data.length
  case neg => exact ⟨fun h => by omega, fun _ => ⟨_, require_bind_false hcount _ _⟩⟩
  rw [require_bind_true hcount, u16At_bind hcount]
  simp only [hsuites]
  by_cases hsuites' : cipherSuitesAt data + 2 + octetPair data (cipherSuitesAt data) ≤ data.length
  case neg => exact ⟨fun h => by omega, fun _ => ⟨_, require_bind_false hsuites' _ _⟩⟩
  rw [require_bind_true hsuites', readCipherSuites_bind (by omega)]
  by_cases hmethod : compressionMethodsAt data < data.length
  case neg => exact ⟨fun h => by omega, fun _ => ⟨_, require_bind_false hmethod _ _⟩⟩
  rw [require_bind_true hmethod, byteAt_bind hmethod]
  simp only [hoctet, hmethods]
  by_cases hmethods' :
      compressionMethodsAt data + 1 + octet data (compressionMethodsAt data) ≤ data.length
  case neg => exact ⟨fun h => by omega, fun _ => ⟨_, require_bind_false hmethods' _ _⟩⟩
  rw [require_bind_true hmethods', sliceAt_bind (Nat.le_add_right _ _) hmethods']
  by_cases hblock : extensionsLengthAt data + 2 ≤ data.length
  case neg => exact ⟨fun h => by omega, fun _ => ⟨_, require_bind_false hblock _ _⟩⟩
  rw [require_bind_true hblock, u16At_bind hblock]
  simp only [hstop]
  by_cases hend : extensionsEnd data ≤ data.length
  case neg => exact ⟨fun h => absurd h hend, fun _ => ⟨_, require_bind_false hend _ _⟩⟩
  rw [require_bind_true hend]
  refine ⟨fun _ => ?_, fun h => by omega⟩
  simp only [helloOf, Nat.add_sub_cancel_left]
  rfl

theorem tryFrom_short (h : data.length < 6) :
    TlsClientHello.tryFrom data = .error (.error .notTLSHandshake) := by
  unfold TlsClientHello.tryFrom
  exact require_bind_false (Nat.not_le_of_lt h) _ _

theorem tryFrom_notClientHello (hlen : 6 ≤ data.length) (hfirst : data.getD 0 0 = 0x16)
    (htype : data.getD 5 0 ≠ 0x01) :
    TlsClientHello.tryFrom data = .error (.error .notClientHello) := by
  unfold TlsClientHello.tryFrom
  rw [require_bind_true hlen, byteAt_bind (by omega)]
  simp only [beq_eq_decide]
  rw [require_bind_true hfirst, require_bind_true (by omega), require_bind_true (by omega),
    byteAt_bind (by omega)]
  exact require_bind_false htype _ _

/-- A client hello is read where the layout has its fields, and is incomplete where one of
them is cut. -/
theorem tryFrom_eq (h : IsClientHello data) :
    (extensionsEnd data ≤ data.length → TlsClientHello.tryFrom data =
      (readExtensions data (extensionsEnd data) (data.length + 1) (extensionsAt data)).map
        (helloOf data)) ∧
      (data.length < extensionsEnd data → ∃ index,
        TlsClientHello.tryFrom data = .error (.error (.messageIncomplete index))) := by
  obtain ⟨hlen, hfirst, htype⟩ := h
  obtain ⟨hcipher, hcompression, hlength, hle⟩ := layout_order data
  unfold TlsClientHello.tryFrom
  rw [require_bind_true hlen, byteAt_bind (by omega)]
  simp only [beq_eq_decide]
  rw [require_bind_true hfirst, require_bind_true (by omega), require_bind_true (by omega),
    byteAt_bind (by omega), require_bind_true htype]
  by_cases hsize : 9 ≤ data.length
  case neg => exact ⟨fun h => by omega, fun _ => ⟨_, require_bind_false hsize _ _⟩⟩
  rw [require_bind_true hsize]
  by_cases hversion : 11 ≤ data.length
  case neg => exact ⟨fun h => by omega, fun _ => ⟨_, require_bind_false hversion _ _⟩⟩
  rw [require_bind_true hversion, byteAt_bind (by omega), byteAt_bind (by omega)]
  by_cases hrandom : 43 ≤ data.length
  case neg => exact ⟨fun h => by omega, fun _ => ⟨_, require_bind_false hrandom _ _⟩⟩
  rw [require_bind_true hrandom, sliceAt_bind (by omega) hrandom]
  exact readFromSessionId_eq data _ _

theorem tryFrom_ok (h : IsClientHello data) (hend : extensionsEnd data ≤ data.length)
    {extensions : List TlsExtension}
    (hextensions : Extensions data (extensionsEnd data) (extensionsAt data) extensions) :
    TlsClientHello.tryFrom data = .ok (helloOf data extensions) := by
  rw [(tryFrom_eq h).1 hend, readExtensions_of_extensions hextensions hend (by omega) (by omega)]
  rfl

theorem helloOf_append (hend : extensionsEnd data ≤ data.length) (later : List UInt8)
    (extensions : List TlsExtension) :
    helloOf (data ++ later) extensions = helloOf data extensions := by
  obtain ⟨hcipher, hcompression, hlength, hle⟩ := layout_order data
  have hlayout := layout_append (show extensionsAt data ≤ data.length by
    rw [extensionsAt]
    omega) later
  have hsuites : ∀ i ∈ List.range (octetPair data (cipherSuitesAt data) / 2),
      octetPair (data ++ later) (cipherSuitesAt data + 2 + i * 2) =
        octetPair data (cipherSuitesAt data + 2 + i * 2) := by
    intro i hi
    rw [List.mem_range] at hi
    have hbehind : cipherSuitesAt data + 2 + octetPair data (cipherSuitesAt data) =
        compressionMethodsAt data := rfl
    exact octetPair_append (by omega) later
  have hid : 44 + octet data 43 = cipherSuitesAt data := rfl
  have hmethods : compressionMethodsAt data + 1 + octet data (compressionMethodsAt data) =
      extensionsLengthAt data := rfl
  simp only [helloOf, hlayout.cipherSuites, hlayout.compressionMethods]
  rw [List.getD_append _ _ _ _ (show 9 < data.length by omega),
    List.getD_append _ _ _ _ (show 10 < data.length by omega), slice_append (by omega),
    octet_append (by omega), slice_append (by omega), octetPair_append (by omega),
    octet_append (by omega), slice_append (by omega), List.map_congr_left hsuites]

/-- A message that is cut, or in which an extension is too long for its block. -/
theorem tryFrom_incomplete (h : IsClientHello data)
    (hcut : data.length < extensionsEnd data ∨
      Overruns data (extensionsEnd data) (extensionsAt data)) :
    ∃ index, TlsClientHello.tryFrom data = .error (.error (.messageIncomplete index)) := by
  by_cases hend : extensionsEnd data ≤ data.length
  · obtain hcut | hover := hcut
    · omega
    · obtain ⟨index, hread⟩ := readExtensions_of_overruns hover hend
        (show extensionsEnd data < extensionsAt data + (data.length + 1) by omega)
      refine ⟨index, ?_⟩
      rw [(tryFrom_eq h).1 hend, hread]
      rfl
  · exact (tryFrom_eq h).2 (by omega)

end Verdicts

/-! ## Panics -/

/-- A parser comes back, with what it has read or with an error. -/
def Returns {ε α : Type} (result : Except (Halt ε) α) : Prop :=
  (∃ a, result = .ok a) ∨ ∃ e, result = .error (.error e)

/-- The first name that is asked for lies within its extension. -/
theorem readSniHostname_returns (extensions : List TlsExtension) :
    Returns (readSniHostname extensions) := by
  induction extensions with
  | nil => exact Or.inr ⟨_, rfl⟩
  | cons extension extensions ih =>
    unfold readSniHostname
    split
    · by_cases hlen : 5 ≤ extension.data.length
      case neg => exact Or.inr ⟨_, require_bind_false hlen _ _⟩
      rw [require_bind_true hlen, byteAt_bind (by omega)]
      split
      · exact ih
      · rw [u16At_bind (by omega), minus_bind hlen]
        by_cases hname : octetPair extension.data 3 ≤ extension.data.length - 5
        case neg => exact Or.inr ⟨_, require_bind_false hname _ _⟩
        rw [require_bind_true hname, sliceAt_bind (by omega) (by omega)]
        split
        · exact Or.inl ⟨_, rfl⟩
        · exact Or.inr ⟨_, rfl⟩
    · exact ih

end OddBox.TcpProxy

import OddBox.BigEndian
import OddBox.Str
import OddBox.TcpProxy.HelloLayout
import OddBox.TcpProxy.Peek

/-!
The name that a client asks for. Whatever bytes a client sends, the parser of its hello and
the search for a name in it come back; and a hello written as the protocol lays it out is
read as what was written, with the name that stands first in its first list of names.
-/

namespace OddBox.TcpProxy

open OddBox.H2 (HpackDecoder)

/-! ## Any bytes -/

theorem tryFrom_returns (data : List UInt8) : Returns (TlsClientHello.tryFrom data) := by
  by_cases hlen : 6 ≤ data.length
  case neg => exact Or.inr ⟨_, tryFrom_short (Nat.lt_of_not_le hlen)⟩
  by_cases hfirst : data.getD 0 0 = 0x16
  case neg =>
    refine Or.inr ⟨.notTLSHandshake, ?_⟩
    unfold TlsClientHello.tryFrom
    rw [require_bind_true hlen, byteAt_bind (by omega)]
    simp only [beq_eq_decide]
    exact require_bind_false hfirst _ _
  by_cases htype : data.getD 5 0 = 0x01
  case neg => exact Or.inr ⟨_, tryFrom_notClientHello hlen hfirst htype⟩
  have hhello : IsClientHello data := ⟨hlen, hfirst, htype⟩
  by_cases hcut : data.length < extensionsEnd data
  · obtain ⟨index, hincomplete⟩ := tryFrom_incomplete hhello (Or.inl hcut)
    exact Or.inr ⟨_, hincomplete⟩
  · obtain ⟨extensions, hextensions⟩ | hover :=
      extensions_or_overruns data (extensionsEnd data) (extensionsAt data)
    · exact Or.inl ⟨_, tryFrom_ok hhello (Nat.le_of_not_lt hcut) hextensions⟩
    · obtain ⟨index, hincomplete⟩ := tryFrom_incomplete hhello (Or.inr hover)
      exact Or.inr ⟨_, hincomplete⟩

theorem Returns.ne_outOfBounds {ε α : Type} {result : Except (Halt ε) α}
    (h : Returns result) : result ≠ .error .outOfBounds := by
  obtain ⟨a, rfl⟩ | ⟨e, rfl⟩ := h <;> simp

theorem Returns.ne_running {ε α : Type} {result : Except (Halt ε) α}
    (h : Returns result) : result ≠ .error .running := by
  obtain ⟨a, rfl⟩ | ⟨e, rfl⟩ := h <;> simp

theorem peekTls_ne_panicked {T : InnerStream} {hpack : HpackDecoder} (self : PeekStream T hpack)
    (data : List UInt8) : (self.peekTls data).1 ≠ .done .panicked := by
  unfold PeekStream.peekTls
  obtain ⟨hello, hok⟩ | ⟨e, herror⟩ := tryFrom_returns data
  · rw [hok]
    obtain ⟨sni, hsni⟩ | ⟨e, herror⟩ := readSniHostname_returns hello.extensions
    · simp [TlsClientHello.readSniHostname, hsni]
    · simp [TlsClientHello.readSniHostname, herror]
  · rw [herror]
    cases e <;> simp

/-- **Parsing a client hello is total**: no bytes make the parser or the search for a name
read, slice or subtract out of range, and the loop over the extensions ends. So no bytes
crash the peek. -/
theorem client_hello_total (data : List UInt8) :
    (TlsClientHello.tryFrom data ≠ .error .outOfBounds ∧
      TlsClientHello.tryFrom data ≠ .error .running) ∧
    (∀ hello : TlsClientHello, hello.readSniHostname ≠ .error .outOfBounds ∧
      hello.readSniHostname ≠ .error .running) ∧
    ∀ {T : InnerStream} {hpack : HpackDecoder} (self : PeekStream T hpack),
      (self.peekTls data).1 ≠ .done .panicked := by
  have hparse := tryFrom_returns data
  refine ⟨⟨hparse.ne_outOfBounds, hparse.ne_running⟩, ?_, ?_⟩
  · intro hello
    have hname := readSniHostname_returns hello.extensions
    exact ⟨hname.ne_outOfBounds, hname.ne_running⟩
  · intro T hpack self
    exact peekTls_ne_panicked self data

/-! ## A hello as it is written -/

/-- A field of variable length: the number of its bytes, and the bytes. -/
def vector (width : Nat) (body : List UInt8) : List UInt8 :=
  BigEndian.bytes width body.length ++ body

structure WrittenExtension where
  typ : Nat
  body : List UInt8
  typ_lt : typ < 2 ^ 16
  body_lt : body.length < 2 ^ 16

def WrittenExtension.bytes (extension : WrittenExtension) : List UInt8 :=
  BigEndian.bytes 2 extension.typ ++ vector 2 extension.body

def WrittenExtension.read (extension : WrittenExtension) : TlsExtension :=
  ⟨.fromU16 extension.typ, extension.body⟩

structure HelloFields where
  version : UInt8 × UInt8
  random : List UInt8
  sessionId : List UInt8
  cipherSuites : List UInt16
  compressionMethods : List UInt8
  extensions : List WrittenExtension

namespace HelloFields

variable (fields : HelloFields)

def cipherSuiteBytes : List UInt8 :=
  fields.cipherSuites.flatMap fun suite => BigEndian.bytes 2 suite.toNat

def extensionBytes : List UInt8 := fields.extensions.flatMap WrittenExtension.bytes

def body : List UInt8 :=
  fields.version.1 :: fields.version.2 :: (fields.random ++ (vector 1 fields.sessionId ++
    (vector 2 fields.cipherSuiteBytes ++ (vector 1 fields.compressionMethods ++
      vector 2 fields.extensionBytes))))

/-- The handshake message: its type, and its body under a length of three bytes. -/
def message : List UInt8 := 0x01 :: vector 3 fields.body

end HelloFields

/-- A client hello in which every length fits its field, the record around it included. -/
structure WrittenHello extends HelloFields where
  recordVersion : UInt8 × UInt8
  random_length : random.length = 32
  sessionId_lt : sessionId.length < 2 ^ 8
  compressionMethods_lt : compressionMethods.length < 2 ^ 8
  message_lt : toHelloFields.message.length < 2 ^ 16

theorem HelloFields.length_cipherSuiteBytes (fields : HelloFields) :
    fields.cipherSuiteBytes.length = 2 * fields.cipherSuites.length := by
  rw [HelloFields.cipherSuiteBytes, List.length_flatMap]
  simp only [BigEndian.length_bytes, List.map_const', List.sum_replicate, smul_eq_mul]
  omega

namespace WrittenHello

variable (hello : WrittenHello)

/-- The record that contains the message. -/
def bytes : List UInt8 :=
  0x16 :: hello.recordVersion.1 :: hello.recordVersion.2 :: vector 2 hello.message

/-- What there is to read in it. -/
def read : TlsClientHello where
  protocolVersion := hello.version
  random := hello.random
  sessionId := hello.sessionId
  cipherSuites := hello.cipherSuites.map UInt16.toNat
  compressionMethods := hello.compressionMethods
  extensions := hello.extensions.map WrittenExtension.read

end WrittenHello

/-! ## Fields at an index -/

section Fields

variable {data rest : List UInt8} {index : Nat}

theorem drop_field {field : List UInt8} (h : data.drop index = field ++ rest) :
    data.drop (index + field.length) = rest := by
  rw [← List.drop_drop, h, List.drop_left]

theorem drop_byte {byte : UInt8} (h : data.drop index = byte :: rest) :
    data.drop (index + 1) = rest := by
  rw [← List.drop_drop, h, List.drop_one, List.tail_cons]

theorem getD_of_drop {byte : UInt8} (h : data.drop index = byte :: rest) :
    data.getD index 0 = byte := by
  rw [List.getD_eq_getElem?_getD, ← List.head?_drop, h]
  rfl

theorem octet_of_drop {byte : UInt8} (h : data.drop index = byte :: rest) :
    octet data index = byte.toNat := by
  rw [octet, getD_of_drop h]

/-- A number of two bytes. -/
theorem octetPair_of_drop {n : Nat} (hn : n < 2 ^ 16)
    (h : data.drop index = BigEndian.bytes 2 n ++ rest) : octetPair data index = n := by
  have hhigh : octet data index = (UInt8.ofNat (n / 256)).toNat := octet_of_drop h
  have hlow : octet data (index + 1) = (UInt8.ofNat n).toNat :=
    octet_of_drop (drop_byte h)
  rw [octetPair, hhigh, hlow, UInt8.toNat_ofNat', UInt8.toNat_ofNat']
  omega

/-- A field under a length of one byte. -/
theorem vector_one {body : List UInt8} (hbody : body.length < 2 ^ 8)
    (h : data.drop index = vector 1 body ++ rest) :
    octet data index = body.length ∧ data.drop (index + 1) = body ++ rest ∧
      data.drop (index + 1 + body.length) = rest := by
  have hlength : octet data index = (UInt8.ofNat body.length).toNat := octet_of_drop h
  have hfield : data.drop (index + 1) = body ++ rest := drop_byte h
  refine ⟨?_, hfield, drop_field hfield⟩
  rw [hlength, UInt8.toNat_ofNat', Nat.mod_eq_of_lt hbody]

/-- A field under a length of two bytes. -/
theorem vector_two {body : List UInt8} (hbody : body.length < 2 ^ 16)
    (h : data.drop index = vector 2 body ++ rest) :
    octetPair data index = body.length ∧ data.drop (index + 2) = body ++ rest ∧
      data.drop (index + 2 + body.length) = rest := by
  rw [vector, List.append_assoc] at h
  have hfield := drop_field h
  rw [BigEndian.length_bytes] at hfield
  exact ⟨octetPair_of_drop hbody h, hfield, drop_field hfield⟩

theorem take_of_drop {body : List UInt8} (h : data.drop index = body ++ rest) :
    (data.drop index).take body.length = body := by
  rw [h, List.take_left]

end Fields

/-! ## What is read of a written hello -/

section Written

variable {data rest : List UInt8} {index : Nat}

theorem WrittenExtension.length_bytes (extension : WrittenExtension) :
    extension.bytes.length = 4 + extension.body.length := by
  rw [WrittenExtension.bytes, vector, List.length_append, List.length_append,
    BigEndian.length_bytes, BigEndian.length_bytes, ← Nat.add_assoc]

/-- Each extension is read where it stands, up to the end of the last one. -/
theorem extensions_written (extensions : List WrittenExtension) {stop : Nat}
    (h : data.drop index = extensions.flatMap WrittenExtension.bytes ++ rest)
    (hstop : index + (extensions.flatMap WrittenExtension.bytes).length = stop) :
    Extensions data stop index (extensions.map WrittenExtension.read) := by
  induction extensions generalizing index with
  | nil =>
    rw [List.flatMap_nil, List.length_nil] at hstop
    exact .done (by omega)
  | cons extension extensions ih =>
    rw [List.flatMap_cons, List.length_append, extension.length_bytes] at hstop
    rw [List.flatMap_cons, WrittenExtension.bytes, List.append_assoc, List.append_assoc] at h
    have htyp := octetPair_of_drop extension.typ_lt h
    have hvector := drop_field h
    rw [BigEndian.length_bytes] at hvector
    obtain ⟨hlength, hbody, htail⟩ := vector_two extension.body_lt hvector
    have hdata : (data.drop (index + 4)).take extension.body.length = extension.body :=
      take_of_drop hbody
    have hrest : Extensions data stop (index + 4 + octetPair data (index + 2))
        (extensions.map WrittenExtension.read) := by
      rw [hlength]
      exact ih htail (by omega)
    have hnext := Extensions.next (by omega) (by rw [hlength]; omega) hrest
    rwa [hlength, hdata, htyp] at hnext

theorem octetPairs_of_drop (suites : List UInt16)
    (h : data.drop index =
      (suites.flatMap fun suite => BigEndian.bytes 2 suite.toNat) ++ rest) :
    ((List.range suites.length).map fun i => octetPair data (index + i * 2)) =
      suites.map UInt16.toNat := by
  induction suites generalizing index with
  | nil => rfl
  | cons suite suites ih =>
    rw [List.flatMap_cons, List.append_assoc] at h
    have hfirst := octetPair_of_drop suite.toNat_lt h
    have hrest := drop_field h
    rw [BigEndian.length_bytes] at hrest
    have hindex : ∀ i, index + (i + 1) * 2 = index + 2 + i * 2 := fun i => by omega
    rw [List.length_cons, List.range_succ_eq_map, List.map_cons, List.map_map, List.map_cons,
      Nat.zero_mul, Nat.add_zero, hfirst]
    simp only [Function.comp_def, Nat.succ_eq_add_one, hindex, ih hrest]

/-- **A written hello is read** as what was written, whatever comes behind it. -/
theorem tryFrom_written (hello : WrittenHello) (later : List UInt8) :
    TlsClientHello.tryFrom (hello.bytes ++ later) = .ok hello.read := by
  have hmessage := hello.message_lt
  have hsuiteBytes := hello.length_cipherSuiteBytes
  simp only [HelloFields.message, HelloFields.body, vector, List.length_cons, List.length_append,
    BigEndian.length_bytes] at hmessage
  generalize hdata : hello.bytes ++ later = data
  have hversion : data.drop 9 = hello.version.1 :: hello.version.2 :: (hello.random ++
      (vector 1 hello.sessionId ++ (vector 2 hello.cipherSuiteBytes ++
        (vector 1 hello.compressionMethods ++ (vector 2 hello.extensionBytes ++ later))))) := by
    have hbody : data.drop 9 = hello.body ++ later := by
      rw [← hdata]
      rfl
    rw [hbody]
    simp only [HelloFields.body, List.cons_append, List.append_assoc]
  have hrandom := drop_byte (drop_byte hversion)
  have hsession := drop_field hrandom
  rw [hello.random_length] at hsession
  obtain ⟨hid, hidBytes, hsuites⟩ := vector_one hello.sessionId_lt hsession
  have hcipher : cipherSuitesAt data = 44 + hello.sessionId.length := by
    rw [cipherSuitesAt, hid]
  rw [← hcipher] at hsuites
  obtain ⟨hcount, hsuiteList, hmethods⟩ := vector_two (by omega) hsuites
  have hcompression : compressionMethodsAt data =
      cipherSuitesAt data + 2 + hello.cipherSuiteBytes.length := by
    rw [compressionMethodsAt, hcount]
  rw [← hcompression] at hmethods
  obtain ⟨hmethod, hmethodList, hblock⟩ := vector_one hello.compressionMethods_lt hmethods
  have hlength : extensionsLengthAt data =
      compressionMethodsAt data + 1 + hello.compressionMethods.length := by
    rw [extensionsLengthAt, hmethod]
  rw [← hlength] at hblock
  obtain ⟨hsize, hlist, -⟩ := vector_two (by omega) hblock
  have hextensions := extensions_written hello.extensions hlist
    (show extensionsAt data + hello.extensionBytes.length = extensionsEnd data by
      rw [extensionsEnd, hsize])
  have hlen : data.length = 9 + hello.body.length + later.length := by
    rw [← hdata, List.length_append]
    simp only [WrittenHello.bytes, HelloFields.message, vector, List.length_cons,
      List.length_append, BigEndian.length_bytes]
    omega
  have hend : extensionsEnd data ≤ data.length := by
    rw [extensionsEnd, hsize, extensionsAt, hlength, hcompression, hcipher, hlen]
    simp only [HelloFields.body, vector, List.length_cons, List.length_append,
      BigEndian.length_bytes, hello.random_length]
    omega
  have hhello : IsClientHello data := by
    refine ⟨by omega, ?_, ?_⟩
    · rw [← hdata]
      rfl
    · rw [← hdata]
      rfl
  rw [tryFrom_ok hhello hend hextensions]
  have hhalf : hello.cipherSuiteBytes.length / 2 = hello.cipherSuites.length := by omega
  have hrandomBytes := take_of_drop hrandom
  rw [hello.random_length] at hrandomBytes
  rw [helloOf, getD_of_drop hversion, getD_of_drop (drop_byte hversion), hid, hcount, hmethod,
    hhalf, octetPairs_of_drop hello.cipherSuites hsuiteList, hrandomBytes, take_of_drop hidBytes,
    take_of_drop hmethodList]
  rfl

end Written

/-! ## The name -/

/-- The body of a `server_name` extension: a list of names, of which the first is a host
name. -/
def serverNames (host : String) (others : List UInt8) : List UInt8 :=
  vector 2 (0x00 :: (vector 2 host.toUTF8.data.toList ++ others))

theorem readSniHostname_other {extension : TlsExtension} (h : extension.typ ≠ .serverName)
    (extensions : List TlsExtension) :
    readSniHostname (extension :: extensions) = readSniHostname extensions := by
  rw [readSniHostname, if_neg h]

theorem fromU16_ne_serverName {typ : Nat} (h : typ ≠ 0) :
    TlsExtensionType.fromU16 typ ≠ .serverName := by
  unfold TlsExtensionType.fromU16
  split <;> simp_all

/-- The name that stands first in the list is found. -/
theorem readSniHostname_serverNames {extension : TlsExtension} {host : String}
    {others : List UInt8} (htyp : extension.typ = .serverName)
    (hbody : extension.data = serverNames host others) (hlt : extension.data.length < 2 ^ 16)
    (extensions : List TlsExtension) :
    readSniHostname (extension :: extensions) = .ok host := by
  have hname : extension.data.drop 2 = 0x00 :: (vector 2 host.toUTF8.data.toList ++ others) := by
    rw [hbody]
    rfl
  have hlen : extension.data.length = 5 + host.toUTF8.data.toList.length + others.length := by
    rw [hbody]
    simp only [serverNames, vector, List.length_cons, List.length_append, BigEndian.length_bytes]
    omega
  obtain ⟨hlength, hhost, -⟩ := vector_two (by omega) (drop_byte hname)
  have hslice := take_of_drop hhost
  rw [readSniHostname, if_pos htyp, require_bind_true (by omega), byteAt_bind (by omega),
    getD_of_drop hname, if_neg (by simp), u16At_bind (by omega), minus_bind (by omega), hlength,
    require_bind_true (by omega), sliceAt_bind (by omega) (by omega), Nat.add_sub_cancel_left,
    hslice, Str.fromUTF8_toUTF8]
  rfl

/-- **The server name is extracted**: of a written hello whose first `server_name` extension
carries a list that starts with a host name, that name is read, wherever the extension
stands and whatever follows the hello. -/
theorem server_name_extracted (hello : WrittenHello) (before after : List WrittenExtension)
    (extension : WrittenExtension) (host : String) (others : List UInt8)
    (hextensions : hello.extensions = before ++ extension :: after)
    (hbefore : ∀ other ∈ before, other.typ ≠ 0x0000) (htyp : extension.typ = 0x0000)
    (hbody : extension.body = serverNames host others) (later : List UInt8) :
    ∃ parsed, TlsClientHello.tryFrom (hello.bytes ++ later) = .ok parsed ∧
      parsed.readSniHostname = .ok host := by
  refine ⟨hello.read, tryFrom_written hello later, ?_⟩
  have hfound : readSniHostname
      ((extension :: after).map WrittenExtension.read) = .ok host := by
    apply readSniHostname_serverNames
    · rw [WrittenExtension.read, htyp]
      rfl
    · exact hbody
    · exact extension.body_lt
  have hskipped : ∀ skipped : List WrittenExtension, (∀ other ∈ skipped, other.typ ≠ 0x0000) →
      readSniHostname ((skipped ++ extension :: after).map WrittenExtension.read) =
        .ok host := by
    intro skipped hskipped
    induction skipped with
    | nil => exact hfound
    | cons other skipped ih =>
      obtain ⟨hother, hrest⟩ := List.forall_mem_cons.mp hskipped
      rw [List.cons_append, List.map_cons,
        readSniHostname_other (fromU16_ne_serverName hother), ih hrest]
  rw [TlsClientHello.readSniHostname, WrittenHello.read, hextensions]
  exact hskipped before hbefore

def namedExtension : WrittenExtension where
  typ := 0x0000
  body := serverNames "site.test" []
  typ_lt := by decide
  body_lt := by decide +kernel

/-- With the supported versions in front of the name. -/
def namedHello : WrittenHello where
  version := (0x03, 0x03)
  random := List.replicate 32 0x07
  sessionId := [0x01, 0x02]
  cipherSuites := [0x1301, 0x1302]
  compressionMethods := [0x00]
  extensions := [⟨0x002b, [0x02, 0x03, 0x04], by decide, by decide⟩, namedExtension]
  recordVersion := (0x03, 0x01)
  random_length := by decide
  sessionId_lt := by decide
  compressionMethods_lt := by decide
  message_lt := by decide +kernel

theorem server_name_extracted_named :
    ∃ parsed, TlsClientHello.tryFrom (namedHello.bytes ++ [0x16, 0x03]) = .ok parsed ∧
      parsed.readSniHostname = .ok "site.test" :=
  server_name_extracted namedHello [⟨0x002b, [0x02, 0x03, 0x04], by decide, by decide⟩] []
    namedExtension "site.test" [] rfl (by simp) rfl rfl [0x16, 0x03]

end OddBox.TcpProxy

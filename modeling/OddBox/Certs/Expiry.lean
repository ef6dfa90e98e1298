import OddBox.Certs.Resolver

/-!
Which certificates are served past their validity: none of the caches in memory and none that
was just made, but the one in the files, which is taken as it is.
-/

namespace OddBox.Certs

variable {libs : CertLibraries}

theorem keeps_valid {certifiedKey : CertifiedKey libs} {now : Int}
    (h : DynamicCertResolver.keeps certifiedKey now = true) :
    ¬ certifiedKey.PastValidity now := by
  rintro ⟨der, validity, hder, hvalidity, hpast⟩
  unfold DynamicCertResolver.keeps at h
  have hleft : certifiedKey.timeToExpiration now = libs.timeToExpiration validity now := by
    simp only [CertifiedKey.timeToExpiration, hder, hvalidity, bind, Option.bind]
  rw [hleft] at h
  cases htime : libs.timeToExpiration validity now with
  | none =>
    rw [htime] at h
    cases h
  | some left =>
    have heq := libs.timeToExpiration_eq htime
    omega

/-! ## Files -/

/-- The files for a name can be served. -/
structure Stored (libs : CertLibraries) (files : Files) (serverName : String)
    (certifiedKey : CertifiedKey libs) : Prop where
  chain : getCertsFromPath libs files (certPath serverName) = some certifiedKey.cert
  nonempty : certifiedKey.cert ≠ []
  key : getPrivKeyFromPath libs files (keyPath serverName) = some certifiedKey.key
  supported : libs.anySupportedType certifiedKey.key = true

/-- The files for a name are there, and what they hold can be served although it is past its
validity. -/
def StoredExpired (libs : CertLibraries) (files : Files) (now : Int) (serverName : String) :
    Prop :=
  files.createDirAll (".odd_box_cache/" ++ serverName) = true ∧
    files.exist (certPath serverName) = true ∧ files.exist (keyPath serverName) = true ∧
    ∃ certifiedKey, Stored libs files serverName certifiedKey ∧ certifiedKey.PastValidity now

theorem certPath_ne_keyPath (serverName : String) : certPath serverName ≠ keyPath serverName := by
  intro h
  have hlen : (".odd_box_cache/" ++ serverName ++ "/cert.pem").length =
      (".odd_box_cache/" ++ serverName ++ "/key.pem").length := congrArg String.length h
  simp only [String.length_append] at hlen
  have hcert : "/cert.pem".length = 9 := by decide
  have hkey : "/key.pem".length = 8 := by decide
  omega

theorem write_entry (files : Files) (path text other : String) :
    (files.write path text).entry other =
      if files.writable path = true ∧ other = path then some (some text)
      else files.entry other := by
  unfold Files.write
  by_cases hwritable : files.writable path = true
  · rw [if_pos hwritable]
    by_cases hother : other = path
    · rw [if_pos ⟨hwritable, hother⟩, hother]
      exact Function.update_self _ _ _
    · rw [if_neg (fun h => hother h.2)]
      exact Function.update_of_ne hother _ _
  · rw [if_neg hwritable, if_neg (fun h => hwritable h.1)]

/-- What is in the certificate file after a new pair was written. -/
theorem read_generated {files : Files} {serverName cert key : String}
    (hcrt : files.exist (certPath serverName) = false) {text : String}
    (h : ((files.write (certPath serverName) cert).write (keyPath serverName) key).read
      (certPath serverName) = some text) : text = cert := by
  rw [Files.read, write_entry, if_neg (fun h => certPath_ne_keyPath serverName h.2),
    write_entry] at h
  split at h
  · cases h
    rfl
  · have hnone : files.entry (certPath serverName) = none := Option.isSome_eq_false_iff.mp hcrt |>
      Option.isNone_iff_eq_none.mp
    rw [hnone] at h
    cases h

theorem resolveFromFiles_eq_some {self : DynamicCertResolver libs} {files : Files} {now : Int}
    {serverName : String} {certifiedKey : CertifiedKey libs} :
    (self.resolveFromFiles files now serverName).1 = some certifiedKey ↔
      files.createDirAll (".odd_box_cache/" ++ serverName) = true ∧
        ∃ after, generateCertIfNotExist libs files now serverName (certPath serverName)
            (keyPath serverName) = .ok after ∧ Stored libs after serverName certifiedKey := by
  constructor
  · intro h
    unfold DynamicCertResolver.resolveFromFiles at h
    by_cases hdir : files.createDirAll (".odd_box_cache/" ++ serverName) = true
    case neg =>
      rw [if_neg hdir] at h
      cases h
    rw [if_pos hdir] at h
    refine ⟨hdir, ?_⟩
    cases hgenerate : generateCertIfNotExist libs files now serverName (certPath serverName)
      (keyPath serverName) with
    | error e =>
      rw [hgenerate] at h
      cases h
    | ok after =>
      simp only [hgenerate] at h
      cases hchain : getCertsFromPath libs after (certPath serverName) with
      | none =>
        rw [hchain] at h
        cases h
      | some chain =>
        cases chain with
        | nil =>
          rw [hchain] at h
          cases h
        | cons der rest =>
          simp only [hchain] at h
          cases hkey : getPrivKeyFromPath libs after (keyPath serverName) with
          | none =>
            rw [hkey] at h
            cases h
          | some privateKey =>
            simp only [hkey] at h
            by_cases hsupported : libs.anySupportedType privateKey = true
            · rw [if_pos hsupported] at h
              cases h
              exact ⟨after, rfl, hchain, List.cons_ne_nil _ _, hkey, hsupported⟩
            · rw [if_neg hsupported] at h
              cases h
  · rintro ⟨hdir, after, hgenerate, hchain, hnonempty, hkey, hsupported⟩
    obtain ⟨cert, key⟩ := certifiedKey
    cases cert with
    | nil => exact absurd rfl hnonempty
    | cons der rest =>
      simp only [DynamicCertResolver.resolveFromFiles, if_pos hdir, hgenerate, hchain, hkey,
        if_pos hsupported]

/-- A pair that was just made is not past its validity. -/
theorem generated_not_past {files after : Files} {now : Int} {serverName : String}
    {certifiedKey : CertifiedKey libs} (hcrt : files.exist (certPath serverName) = false)
    (hgenerate : generateCertIfNotExist libs files now serverName (certPath serverName)
      (keyPath serverName) = .ok after)
    (hstored : Stored libs after serverName certifiedKey) : ¬ certifiedKey.PastValidity now := by
  rintro ⟨der, validity, hder, hvalidity, hpast⟩
  simp only [generateCertIfNotExist, hcrt, Bool.false_and, Bool.false_eq_true, if_false]
    at hgenerate
  split at hgenerate
  · cases hgenerate
  · split at hgenerate
    · rename_i cert key hmade
      cases hgenerate
      obtain ⟨text, htext, hcerts⟩ := Option.map_eq_some_iff.mp hstored.chain
      obtain rfl := read_generated hcrt htext
      have hle := libs.generated_valid hmade (hcerts ▸ hder) validity hvalidity
      omega
    · cases hgenerate

theorem resolveFromFiles_valid_iff (self : DynamicCertResolver libs) (files : Files) (now : Int)
    (serverName : String) :
    (∀ certifiedKey, (self.resolveFromFiles files now serverName).1 = some certifiedKey →
      ¬ certifiedKey.PastValidity now) ↔ ¬ StoredExpired libs files now serverName := by
  constructor
  · rintro hvalid ⟨hdir, hcrt, hkey, certifiedKey, hstored, hpast⟩
    refine hvalid certifiedKey ?_ hpast
    apply resolveFromFiles_eq_some.mpr
    refine ⟨hdir, files, ?_, hstored⟩
    rw [generateCertIfNotExist, hcrt, hkey]
    rfl
  · intro hfresh certifiedKey h hpast
    obtain ⟨hdir, after, hgenerate, hstored⟩ := resolveFromFiles_eq_some.mp h
    cases hcrt : files.exist (certPath serverName) with
    | false => exact generated_not_past hcrt hgenerate hstored hpast
    | true =>
      cases hkey : files.exist (keyPath serverName) with
      | false =>
        rw [generateCertIfNotExist, hcrt, hkey] at hgenerate
        cases hgenerate
      | true =>
        rw [generateCertIfNotExist, hcrt, hkey] at hgenerate
        cases hgenerate
        exact hfresh ⟨hdir, hcrt, hkey, certifiedKey, hstored, hpast⟩

/-! ## The caches -/

/-- A cache has a certificate that is kept. -/
def Kept (cache : String → Option (CertifiedKey libs)) (now : Int) (domain : String) : Prop :=
  ∃ certifiedKey, cache domain = some certifiedKey ∧
    DynamicCertResolver.keeps certifiedKey now = true

/-- Neither cache that is asked has a certificate that is kept. -/
def Misses (resolver : DynamicCertResolver libs) (now : Int) (domain : String) : Prop :=
  ¬ (resolver.asksLetsEncrypt domain = true ∧ Kept resolver.letsEncryptSignedCerts now domain) ∧
    ¬ Kept resolver.selfSignedCertCache now domain

theorem getFromCache_cases (self : DynamicCertResolver libs)
    (cache : String → Option (CertifiedKey libs)) (now : Int) (domain : String) :
    (∃ certifiedKey, self.getFromCache cache now domain = (some certifiedKey, self) ∧
        cache domain = some certifiedKey ∧ DynamicCertResolver.keeps certifiedKey now = true) ∨
      ¬ Kept cache now domain ∧ ∃ after, self.getFromCache cache now domain = (none, after) ∧
        after.selfSignedCertCache = self.selfSignedCertCache := by
  unfold DynamicCertResolver.getFromCache
  cases hcache : cache domain with
  | none =>
    right
    refine ⟨?_, self, rfl, rfl⟩
    rintro ⟨certifiedKey, hsome, -⟩
    rw [hcache] at hsome
    cases hsome
  | some certifiedKey =>
    by_cases hkeeps : DynamicCertResolver.keeps certifiedKey now = true
    · left
      refine ⟨certifiedKey, ?_, rfl, hkeeps⟩
      simp only [if_pos hkeeps]
    · right
      refine ⟨?_, self.purge domain, ?_, rfl⟩
      · rintro ⟨other, hsome, hother⟩
        rw [hcache] at hsome
        cases hsome
        exact hkeeps hother
      · simp only [if_neg hkeeps]

theorem resolveFromFiles_fst (self other : DynamicCertResolver libs) (files : Files) (now : Int)
    (serverName : String) :
    (self.resolveFromFiles files now serverName).1 =
      (other.resolveFromFiles files now serverName).1 := by
  apply Option.ext
  intro certifiedKey
  exact resolveFromFiles_eq_some.trans resolveFromFiles_eq_some.symm

/-- A resolution is answered by a certificate that is kept, or from the files. -/
theorem resolve_cases (self : DynamicCertResolver libs) (files : Files) (now : Int)
    (serverName : String) :
    (∃ certifiedKey, (self.resolve files now (some serverName)).1 = some certifiedKey ∧
        DynamicCertResolver.keeps certifiedKey now = true ∧
        ¬ Misses self now (DynamicCertResolver.hostOf serverName)) ∨
      Misses self now (DynamicCertResolver.hostOf serverName) ∧
        (self.resolve files now (some serverName)).1 =
          (self.resolveFromFiles files now (DynamicCertResolver.hostOf serverName)).1 := by
  generalize hhost : DynamicCertResolver.hostOf serverName = host
  simp only [DynamicCertResolver.resolve, hhost]
  -- What is left after the cache of Let's Encrypt certificates: the other cache is the same.
  have hself (after : DynamicCertResolver libs)
      (hcache : after.selfSignedCertCache = self.selfSignedCertCache)
      (hmiss : ¬ (self.asksLetsEncrypt host = true ∧ Kept self.letsEncryptSignedCerts now host)) :
      (∃ certifiedKey, after.getSelfSignedCertFromCache now host = (some certifiedKey, after) ∧
          DynamicCertResolver.keeps certifiedKey now = true ∧ ¬ Misses self now host) ∨
        Misses self now host ∧
          ∃ last, after.getSelfSignedCertFromCache now host = (none, last) := by
    obtain ⟨certifiedKey, hget, hfound, hkeeps⟩ | ⟨hnone, last, hget, -⟩ :=
      getFromCache_cases after after.selfSignedCertCache now host
    · exact Or.inl ⟨certifiedKey, hget, hkeeps,
        fun h => h.2 ⟨certifiedKey, hcache ▸ hfound, hkeeps⟩⟩
    · exact Or.inr ⟨⟨hmiss, hcache ▸ hnone⟩, last, hget⟩
  by_cases hasks : self.asksLetsEncrypt host = true
  · rw [if_pos hasks]
    obtain ⟨certifiedKey, hget, hfound, hkeeps⟩ | ⟨hnone, after, hget, hcache⟩ :=
      getFromCache_cases self self.letsEncryptSignedCerts now host
    · left
      rw [DynamicCertResolver.getLetsEncryptSignedCertFromMemCache, hget]
      exact ⟨certifiedKey, rfl, hkeeps, fun h => h.1 ⟨hasks, certifiedKey, hfound, hkeeps⟩⟩
    · rw [DynamicCertResolver.getLetsEncryptSignedCertFromMemCache, hget]
      obtain ⟨certifiedKey, hget, hkeeps, hkept⟩ | ⟨hmisses, last, hget⟩ :=
        hself after hcache (fun h => hnone h.2)
      · left
        simp only [hget]
        exact ⟨certifiedKey, rfl, hkeeps, hkept⟩
      · right
        simp only [hget]
        exact ⟨hmisses, resolveFromFiles_fst _ _ _ _ _⟩
  · rw [if_neg hasks]
    obtain ⟨certifiedKey, hget, hkeeps, hkept⟩ | ⟨hmisses, last, hget⟩ :=
      hself self rfl (fun h => hasks h.1)
    · left
      simp only [hget]
      exact ⟨certifiedKey, rfl, hkeeps, hkept⟩
    · right
      simp only [hget]
      exact ⟨hmisses, resolveFromFiles_fst _ _ _ _ _⟩

/-- What is served is past its validity only where both caches miss and the files of the name
hold an expired certificate: these are never replaced. -/
theorem resolve_valid_iff (self : DynamicCertResolver libs) (files : Files) (now : Int)
    (serverName : Option String) :
    (∀ certifiedKey, (self.resolve files now serverName).1 = some certifiedKey →
        ¬ certifiedKey.PastValidity now) ↔
      ∀ name, serverName = some name →
        ¬ (Misses self now (DynamicCertResolver.hostOf name) ∧
          StoredExpired libs files now (DynamicCertResolver.hostOf name)) := by
  cases serverName with
  | none =>
    constructor
    · intro _ name hname
      cases hname
    · intro _ certifiedKey h
      cases h
  | some serverName =>
    obtain ⟨served, hresolve, hkeeps, hkept⟩ | ⟨hmisses, hresolve⟩ :=
      resolve_cases self files now serverName
    · constructor
      · intro _ name hname h
        cases hname
        exact hkept h.1
      · intro _ certifiedKey h
        rw [hresolve] at h
        cases h
        exact keeps_valid hkeeps
    · rw [hresolve, resolveFromFiles_valid_iff]
      constructor
      · intro hfresh name hname h
        cases hname
        exact hfresh h.2
      · intro h hexpired
        exact h serverName rfl ⟨hmisses, hexpired⟩

/-- Libraries for which the text `old` is a certificate that ends after a hundred seconds, and
every other text, as the ones they make, a certificate that ends in the year 4096. -/
def sampleLibraries : CertLibraries where
  CertificateDer := Validity
  PrivateKeyDer := Unit
  validity := some
  timeToExpiration validity now :=
    if validity.notBefore ≤ now ∧ now ≤ validity.notAfter then
      some (validity.notAfter - now).toNat
    else none
  timeToExpiration_eq := by
    intro validity now left h
    split at h
    · cases h
      omega
    · cases h
  certs text := if text = "old" then [⟨0, 100⟩] else [⟨157766400, 67090377600⟩]
  pkcs8PrivateKeys _ := some [()]
  anySupportedType _ := true
  generateSimpleSelfSigned _ now :=
    if now ≤ 67090377600 then .ok ("new", "key") else .error "no time is left"
  generated_valid := by
    intro hostname now cert key der h hder validity hvalidity
    split at h
    · cases h
      cases hvalidity
      rw [if_neg (by decide)] at hder
      cases hder
      assumption
    · cases h

/-- An old pair is in the files. -/
def sampleFiles : Files where
  entry path :=
    if path = certPath "example.com" then some (some "old")
    else if path = keyPath "example.com" then some (some "key")
    else none
  createDirAll _ := true
  writable _ := true

/-- With nothing in memory, the old certificate is served long after its end. -/
theorem resolve_served_expired :
    ∃ certifiedKey : CertifiedKey sampleLibraries,
      ((⟨false, fun _ => none, fun _ => none⟩ : DynamicCertResolver sampleLibraries).resolve
        sampleFiles 1700000000 (some "example.com")).1 = some certifiedKey ∧
      certifiedKey.PastValidity 1700000000 :=
  ⟨⟨[⟨0, 100⟩], ()⟩, rfl, ⟨0, 100⟩, ⟨0, 100⟩, rfl, rfl, by decide⟩

end OddBox.Certs

import OddBox.Routing.Agreement

/-!
Which names `get_subdomain` takes for subdomains of a site. The end of the requested name is
compared in upper case, and cut off at the number of bytes of the site's name as it is written.
-/

namespace OddBox.Routing

open OddBox.FirstMatch OddBox.Str

/-! ## What a subdomain is -/

/-- The requested name is the site's, up to the case of ASCII letters, behind a dot and a name;
the subdomain is that name without the dots at its end. -/
def IsSubdomain (requested site subdomain : String) : Prop :=
  ∃ front tail : String, requested = front ++ "." ++ tail ∧ front ≠ "" ∧
    eqIgnoreAsciiCase tail site = true ∧
    subdomain = String.ofList (front.toList.rdropWhile (· == '.'))

/-- `get_subdomain` of `http_proxy/service.rs`, which has the same text. -/
def Service.getSubdomain (mapping : CaseMapping) (requestedHostname backendHostname : String) :
    Answer String :=
  Routing.getSubdomain mapping requestedHostname backendHostname

/-- Both copies give the subdomains and nothing else, and nothing panics. -/
structure MatchesSubdomains (mapping : CaseMapping) (requested site : String) : Prop where
  subdomains : ∀ subdomain, getSubdomain mapping requested site = .yes subdomain ↔
    IsSubdomain requested site subdomain
  total : getSubdomain mapping requested site ≠ .failed
  copied : Service.getSubdomain mapping requested site = getSubdomain mapping requested site
  filterTotal : ∀ allowSubdomains, filterFun mapping requested site allowSubdomains ≠ .failed

/-- In upper case the requested name ends with the site's. -/
def EndsWith (mapping : CaseMapping) (requested site : String) : Prop :=
  mapping.toUppercase site <:+ mapping.toUppercase requested

/-- The last bytes of the name, as many as the site's name has, are all of it or stand behind a
dot. -/
def CutAt (requested site : String) (front : List Char) : Prop :=
  (∃ tail, requested.toList = front ++ tail ∧ byteLen tail = byteLen site.toList) ∧
    (front = [] ∨ front.getLast? = some '.')

/-- The site's name has more bytes than a name that ends with it in upper case. -/
def Outgrown (mapping : CaseMapping) (requested site : String) : Prop :=
  EndsWith mapping requested site ∧ byteLen requested.toList < byteLen site.toList

/-- Upper case loses nothing that matters: no name that ends with the site's is shorter, and
where it is cut, there is more than a dot in front and the site's name behind. -/
structure CleanEnd (mapping : CaseMapping) (requested site : String) : Prop where
  name : ¬Outgrown mapping requested site
  host : ¬Outgrown mapping (stripPort requested) site
  cut : ∀ front tail, requested ≠ site → EndsWith mapping requested site →
    CutAt requested site front → requested.toList = front ++ tail →
      1 < front.length ∧ eqIgnoreAsciiCase (String.ofList tail) site = true

section

variable {mapping : CaseMapping} {requested site : String}

/-! ## The function by its cases -/

theorem outgrown_ne (h : Outgrown mapping requested site) : requested ≠ site := by
  rintro rfl
  exact Nat.lt_irrefl _ h.2

/-- Where a name is cut, if it is. -/
theorem takeBytes_site {front : List Char}
    (hlen : byteLen site.toList ≤ byteLen requested.toList) :
    takeBytes (byteLen requested.toList - byteLen site.toList) requested.toList = some front ↔
      ∃ tail, requested.toList = front ++ tail ∧ byteLen tail = byteLen site.toList := by
  rw [takeBytes_eq_some]
  apply exists_congr
  intro tail
  apply and_congr_right
  intro hsplit
  rw [hsplit, byteLen_append] at hlen ⊢
  omega

theorem getSubdomain_cases (mapping : CaseMapping) (requested site : String) :
    (getSubdomain mapping requested site = .failed ∧ Outgrown mapping requested site) ∨
      (¬Outgrown mapping requested site ∧
        ((∃ front, getSubdomain mapping requested site =
            .yes (String.ofList (front.rdropWhile (· == '.'))) ∧ requested ≠ site ∧
            EndsWith mapping requested site ∧ CutAt requested site front) ∨
          (getSubdomain mapping requested site = .no ∧
            (requested = site ∨ ¬EndsWith mapping requested site ∨
              ∀ front, ¬CutAt requested site front)))) := by
  by_cases hsame : requested = site
  · rw [getSubdomain, if_pos hsame]
    exact Or.inr ⟨fun houtgrown => outgrown_ne houtgrown hsame, Or.inr ⟨rfl, Or.inl hsame⟩⟩
  rw [getSubdomain, if_neg hsame]
  by_cases hends : EndsWith mapping requested site
  · rw [if_pos (List.isSuffixOf_iff_suffix.mpr hends)]
    dsimp only
    by_cases hshort : byteLen requested.toList < byteLen site.toList
    · rw [if_pos hshort]
      exact Or.inl ⟨rfl, hends, hshort⟩
    · rw [if_neg hshort]
      refine Or.inr ⟨fun houtgrown => hshort houtgrown.2, ?_⟩
      have hlen : byteLen site.toList ≤ byteLen requested.toList := Nat.le_of_not_lt hshort
      cases htake : takeBytes (byteLen requested.toList - byteLen site.toList)
          requested.toList with
      | none =>
        refine Or.inr ⟨rfl, Or.inr (Or.inr ?_)⟩
        intro front hcut
        have hfront := (takeBytes_site hlen).mpr hcut.1
        rw [htake] at hfront
        contradiction
      | some front =>
        have hdot : (front.isEmpty || front.getLast? == some '.') = true ↔
            front = [] ∨ front.getLast? = some '.' := by
          rw [Bool.or_eq_true, List.isEmpty_iff, beq_iff_eq]
        dsimp only
        by_cases hcut : front = [] ∨ front.getLast? = some '.'
        · rw [if_pos (hdot.mpr hcut)]
          exact Or.inl ⟨front, rfl, hsame, hends, (takeBytes_site hlen).mp htake, hcut⟩
        · rw [if_neg fun h => hcut (hdot.mp h)]
          refine Or.inr ⟨rfl, Or.inr (Or.inr ?_)⟩
          intro other hother
          have hfront := (takeBytes_site hlen).mpr hother.1
          rw [htake] at hfront
          cases hfront
          exact hcut hother.2
  · rw [if_neg fun h => hends (List.isSuffixOf_iff_suffix.mp h)]
    exact Or.inr ⟨fun houtgrown => hends houtgrown.1, Or.inr ⟨rfl, Or.inr (Or.inl hends)⟩⟩

theorem getSubdomain_failed_iff :
    getSubdomain mapping requested site = .failed ↔ Outgrown mapping requested site := by
  rcases getSubdomain_cases mapping requested site with
    ⟨hfailed, houtgrown⟩ | ⟨hfits, ⟨front, hyes, -⟩ | ⟨hno, -⟩⟩
  · exact iff_of_true hfailed houtgrown
  · rw [hyes]
    exact iff_of_false (by rintro ⟨⟩) hfits
  · rw [hno]
    exact iff_of_false (by rintro ⟨⟩) hfits

/-- The two copies and the filter fail together. -/
theorem filterFun_total_iff :
    (∀ allowSubdomains, filterFun mapping requested site allowSubdomains ≠ .failed) ↔
      ¬Outgrown mapping (stripPort requested) site := by
  rw [← getSubdomain_failed_iff]
  constructor
  · intro htotal hfailed
    have houtgrown := getSubdomain_failed_iff.mp hfailed
    apply htotal true
    have hdiffer : eqIgnoreAsciiCase site (stripPort requested) = false := by
      rw [Bool.eq_false_iff]
      intro hsame
      have hlen := byteLen_of_eqIgnoreAsciiCase hsame
      exact absurd houtgrown.2 (by omega)
    simp only [filterFun, hdiffer, Bool.false_eq_true, if_false, if_true, hfailed, Answer.map]
  · intro htotal allowSubdomains hfailed
    unfold filterFun at hfailed
    dsimp only at hfailed
    split_ifs at hfailed
    cases hsub : getSubdomain mapping (stripPort requested) site with
    | failed => exact htotal hsub
    | no =>
      rw [hsub] at hfailed
      contradiction
    | yes subdomain =>
      rw [hsub] at hfailed
      contradiction

/-! ## Subdomains are found -/

/-- A subdomain is cut off where its name ends. -/
theorem getSubdomain_of_isSubdomain {subdomain : String}
    (h : IsSubdomain requested site subdomain) :
    getSubdomain mapping requested site = .yes subdomain := by
  obtain ⟨front, tail, rfl, -, hsame, rfl⟩ := h
  have hlen := byteLen_of_eqIgnoreAsciiCase hsame
  have hsplit : (front ++ "." ++ tail).toList = (front.toList ++ ['.']) ++ tail.toList := by
    simp only [String.toList_append]
    rfl
  have htotal : byteLen (front ++ "." ++ tail).toList =
      byteLen front.toList + 1 + byteLen site.toList := by
    rw [hsplit, byteLen_append, byteLen_append, hlen]
    rfl
  have hne : front ++ "." ++ tail ≠ site := by
    intro heq
    rw [heq] at htotal
    omega
  have hends : EndsWith mapping (front ++ "." ++ tail) site := by
    unfold EndsWith
    rw [← toUppercase_of_eqIgnoreAsciiCase hsame]
    exact toUppercase_suffix ⟨_, hsplit.symm⟩
  have hcut : CutAt (front ++ "." ++ tail) site (front.toList ++ ['.']) :=
    ⟨⟨tail.toList, hsplit, hlen⟩, Or.inr List.getLast?_concat⟩
  rcases getSubdomain_cases mapping (front ++ "." ++ tail) site with
    ⟨-, houtgrown⟩ | ⟨-, ⟨other, hyes, -, -, hother⟩ | ⟨-, hno⟩⟩
  · exact absurd houtgrown.2 (by omega)
  · have hsite : byteLen site.toList ≤ byteLen (front ++ "." ++ tail).toList := by omega
    have hsame := ((takeBytes_site hsite).mpr hother.1).symm.trans
      ((takeBytes_site hsite).mpr hcut.1)
    cases hsame
    rw [hyes, List.rdropWhile_concat_pos _ _ _ (by rfl)]
  · rcases hno with heq | hnot | hnone
    · exact absurd heq hne
    · exact absurd hends hnot
    · exact absurd hcut (hnone _)

/-- A name that is cut is that of a subdomain if it is cut behind one and in front of the site. -/
theorem isSubdomain_of_cut {front tail : List Char} (hsplit : requested.toList = front ++ tail)
    (hcut : CutAt requested site front) (hfront : 1 < front.length)
    (hsame : eqIgnoreAsciiCase (String.ofList tail) site = true) :
    ∃ subdomain, IsSubdomain requested site subdomain := by
  rcases hcut.2 with rfl | hlast
  · contradiction
  · obtain ⟨name, rfl⟩ := List.getLast?_eq_some_iff.mp hlast
    refine ⟨_, String.ofList name, String.ofList tail, ?_, ?_, hsame, rfl⟩
    · apply String.toList_injective
      have htail : (String.ofList tail).toList = tail := String.toList_ofList
      rw [hsplit, String.toList_append, String.toList_append, String.toList_ofList, htail]
      rfl
    · rintro hnil
      have hname : name = [] := by
        rw [← String.toList_ofList (l := name), hnil]
        rfl
      rw [hname] at hfront
      contradiction

/-- The name of a subdomain is cut nowhere else. -/
theorem cut_of_isSubdomain {front tail : List Char} {subdomain : String}
    (hsplit : requested.toList = front ++ tail) (hcut : CutAt requested site front)
    (h : IsSubdomain requested site subdomain) :
    1 < front.length ∧ eqIgnoreAsciiCase (String.ofList tail) site = true := by
  obtain ⟨name, site', rfl, hname, hsame, -⟩ := h
  obtain ⟨⟨tail', hsplit', hlen⟩, -⟩ := hcut
  have hparts : (name ++ "." ++ site').toList = (name.toList ++ ['.']) ++ site'.toList := by
    simp only [String.toList_append]
    rfl
  have htotal : byteLen site.toList ≤ byteLen (name ++ "." ++ site').toList := by
    rw [hsplit', byteLen_append, hlen]
    exact Nat.le_add_left _ _
  have hfronts := ((takeBytes_site htotal).mpr ⟨tail', hsplit', hlen⟩).symm.trans
    ((takeBytes_site htotal).mpr ⟨site'.toList, hparts, byteLen_of_eqIgnoreAsciiCase hsame⟩)
  rw [Option.some.injEq] at hfronts
  subst hfronts
  rw [hparts] at hsplit
  obtain rfl := List.append_cancel_left hsplit
  refine ⟨?_, by rwa [String.ofList_toList]⟩
  have hlength : name.toList ≠ [] := fun hnil => hname (String.toList_eq_nil_iff.mp hnil)
  have hpos := List.length_pos_iff.mpr hlength
  rw [List.length_append, List.length_singleton]
  omega

end

/-- **Subdomain matching**: the two copies of `get_subdomain` give the subdomains of a site, and
nothing panics, exactly where upper case and bytes agree about the end of the requested name. -/
theorem subdomains_matched_iff (mapping : CaseMapping) (requested site : String) :
    MatchesSubdomains mapping requested site ↔ CleanEnd mapping requested site := by
  constructor
  · intro hmatches
    refine ⟨?_, filterFun_total_iff.mp hmatches.filterTotal, ?_⟩
    · intro houtgrown
      exact hmatches.total (getSubdomain_failed_iff.mpr houtgrown)
    · intro front tail hne hends hcut hsplit
      rcases getSubdomain_cases mapping requested site with
        ⟨hfailed, -⟩ | ⟨-, ⟨_, hyes, -⟩ | ⟨-, hno⟩⟩
      · exact absurd hfailed hmatches.total
      · exact cut_of_isSubdomain hsplit hcut ((hmatches.subdomains _).mp hyes)
      · rcases hno with heq | hnot | hnone
        · exact absurd heq hne
        · exact absurd hends hnot
        · exact absurd hcut (hnone front)
  · intro hclean
    refine ⟨?_, ?_, rfl, filterFun_total_iff.mpr hclean.host⟩
    · intro subdomain
      constructor
      · intro hyes
        rcases getSubdomain_cases mapping requested site with
          ⟨hfailed, -⟩ | ⟨-, ⟨front, -, hne, hends, hcut⟩ | ⟨hno, -⟩⟩
        · rw [hfailed] at hyes
          contradiction
        · obtain ⟨tail, hsplit, -⟩ := hcut.1
          obtain ⟨hfront, htail⟩ := hclean.cut front tail hne hends hcut hsplit
          obtain ⟨found, hfound⟩ := isSubdomain_of_cut hsplit hcut hfront htail
          have hsame : getSubdomain mapping requested site = .yes found :=
            getSubdomain_of_isSubdomain hfound
          rw [hyes] at hsame
          cases hsame
          exact hfound
        · rw [hno] at hyes
          contradiction
      · exact getSubdomain_of_isSubdomain
    · intro hfailed
      exact hclean.name (getSubdomain_failed_iff.mp hfailed)

/-- A site in another case has the empty subdomain, and so has a site behind a mere dot. -/
theorem otherCase_subdomain :
    getSubdomain asciiOnly "A.test" "a.test" = .yes "" ∧
      getSubdomain asciiOnly ".a.test" "a.test" = .yes "" ∧
      ¬MatchesSubdomains asciiOnly "A.test" "a.test" := by
  have hempty : getSubdomain asciiOnly "A.test" "a.test" = .yes "" := by decide +kernel
  refine ⟨hempty, by decide +kernel, ?_⟩
  intro hmatches
  obtain ⟨front, tail, hrequested, hfront, hsame, -⟩ := (hmatches.subdomains "").mp hempty
  have hlen := byteLen_of_eqIgnoreAsciiCase hsame
  have htotal := congrArg (fun text : String => byteLen text.toList) hrequested
  simp only [String.toList_append, byteLen_append] at htotal
  have hdot : byteLen ".".toList = 1 := by decide +kernel
  have hrequestedLen : byteLen "A.test".toList = 6 := by decide +kernel
  have hsiteLen : byteLen "a.test".toList = 6 := by decide +kernel
  omega

end OddBox.Routing

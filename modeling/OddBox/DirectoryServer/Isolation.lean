import OddBox.DirectoryServer.Runs

/-!
Whose response a visitor can be given: the key of the cache joins the host name of the site, the
cookies and the path with dashes, which may stand in each of them.
-/

namespace OddBox.DirectoryServer

open OddBox.Configuration OddBox.ExpiringCache

/-! ## Texts joined by a dash -/

/-- The two ways to cut a text at a dash: at the same one, or at an earlier and a later one. -/
theorem dash_cut {front back front' back' : List Char} :
    front ++ '-' :: back = front' ++ '-' :: back' ↔
      (front = front' ∧ back = back') ∨
      (∃ rest, front' = front ++ '-' :: rest ∧ back = rest ++ '-' :: back') ∨
      ∃ rest, front = front' ++ '-' :: rest ∧ back' = rest ++ '-' :: back := by
  constructor
  · intro h
    obtain ⟨more, hfront, hback⟩ | ⟨more, hfront, hback⟩ := List.append_eq_append_iff.mp h
    · cases more with
      | nil =>
        rw [List.append_nil] at hfront
        exact Or.inl ⟨hfront.symm, (List.cons.inj hback).2⟩
      | cons c rest =>
        obtain ⟨rfl, hrest⟩ := List.cons.inj hback
        exact Or.inr (Or.inl ⟨rest, hfront, hrest⟩)
    · cases more with
      | nil =>
        rw [List.append_nil] at hfront
        exact Or.inl ⟨hfront, (List.cons.inj hback).2.symm⟩
      | cons c rest =>
        obtain ⟨rfl, hrest⟩ := List.cons.inj hback
        exact Or.inr (Or.inr ⟨rest, hfront, hrest⟩)
  · rintro (⟨rfl, rfl⟩ | ⟨rest, rfl, rfl⟩ | ⟨rest, rfl, rfl⟩)
    · rfl
    · rw [List.append_assoc, List.cons_append]
    · rw [List.append_assoc, List.cons_append]

/-! ## What tells visits apart -/

/-- The host name of a site, the cookies, and a decoded path without trailing slashes. -/
@[ext]
structure Triple where
  host : String
  cookie : Option HeaderValue
  path : String
  trimmed : trimSlashes path = path

theorem trimSlashes_idem (path : String) : trimSlashes (trimSlashes path) = trimSlashes path := by
  simp only [trimSlashes, String.toList_ofList]
  rw [List.rdropWhile_idempotent]

/-- What tells a visit apart, if its path can be decoded. -/
def Visit.triple (libs : Libraries) (asked : Visit) : Option Triple :=
  (libs.decode asked.req.path).toOption.map fun pathDecoded =>
    ⟨asked.host, asked.req.cookie, trimSlashes pathDecoded, trimSlashes_idem pathDecoded⟩

/-- The cookies as they stand in the key. -/
def Triple.sig (self : Triple) : String := (self.cookie.bind HeaderValue.toStr).getD "no-cookies"

def Triple.key (self : Triple) : String := self.host ++ "-" ++ self.sig ++ "-" ++ self.path

variable (libs : Libraries)

theorem key_of_triple (world : World) {asked : Visit} {triple : Triple}
    (h : asked.triple libs = some triple) : world.key libs asked = some triple.key := by
  obtain ⟨pathDecoded, hdecode, rfl⟩ := Option.map_eq_some_iff.mp h
  rw [World.key, hdecode]
  simp only [Option.map_some, cacheKey, world.target_hostName]
  rfl

/-- One is cut at a later dash than the other: of its host, or of its cookies. -/
def Triple.ShiftedTo (a b : Triple) : Prop :=
  ∃ rest : List Char,
    (b.host.toList = a.host.toList ++ '-' :: rest ∧
      a.sig.toList ++ '-' :: a.path.toList =
        rest ++ '-' :: (b.sig.toList ++ '-' :: b.path.toList)) ∨
    (a.host = b.host ∧ b.sig.toList = a.sig.toList ++ '-' :: rest ∧
      a.path.toList = rest ++ '-' :: b.path.toList)

/-- Nothing but what the key leaves of the cookies: they are missing, no text, or say so. -/
def Triple.SameTexts (a b : Triple) : Prop := a.host = b.host ∧ a.sig = b.sig ∧ a.path = b.path

theorem key_toList (a : Triple) :
    a.key.toList = a.host.toList ++ '-' :: (a.sig.toList ++ '-' :: a.path.toList) := by
  have hdash : "-".toList = ['-'] := by decide
  simp only [Triple.key, String.toList_append, hdash, List.append_assoc, List.cons_append,
    List.nil_append]

theorem key_eq_iff (a b : Triple) :
    a.key = b.key ↔ a.SameTexts b ∨ a.ShiftedTo b ∨ b.ShiftedTo a := by
  rw [← String.toList_inj, key_toList, key_toList, dash_cut]
  constructor
  · rintro (⟨hhost, hrest⟩ | ⟨rest, hhost, hrest⟩ | ⟨rest, hhost, hrest⟩)
    · have hhost := String.toList_inj.mp hhost
      obtain ⟨hsig, hpath⟩ | ⟨rest, hsig, hpath⟩ | ⟨rest, hsig, hpath⟩ := dash_cut.mp hrest
      · exact Or.inl ⟨hhost, String.toList_inj.mp hsig, String.toList_inj.mp hpath⟩
      · exact Or.inr (Or.inl ⟨rest, Or.inr ⟨hhost, hsig, hpath⟩⟩)
      · exact Or.inr (Or.inr ⟨rest, Or.inr ⟨hhost.symm, hsig, hpath⟩⟩)
    · exact Or.inr (Or.inl ⟨rest, Or.inl ⟨hhost, hrest⟩⟩)
    · exact Or.inr (Or.inr ⟨rest, Or.inl ⟨hhost, hrest⟩⟩)
  · rintro (⟨hhost, hsig, hpath⟩ | ⟨rest, ⟨hhost, hrest⟩ | ⟨hhost, hsig, hpath⟩⟩ |
      ⟨rest, ⟨hhost, hrest⟩ | ⟨hhost, hsig, hpath⟩⟩)
    · exact Or.inl ⟨congrArg _ hhost, by rw [hsig, hpath]⟩
    · exact Or.inr (Or.inl ⟨rest, hhost, hrest⟩)
    · refine Or.inl ⟨congrArg _ hhost, dash_cut.mpr ?_⟩
      exact Or.inr (Or.inl ⟨rest, hsig, hpath⟩)
    · exact Or.inr (Or.inr ⟨rest, hhost, hrest⟩)
    · refine Or.inl ⟨congrArg _ hhost.symm, dash_cut.mpr ?_⟩
      exact Or.inr (Or.inr ⟨rest, hsig, hpath⟩)

/-! ## What is given to whom -/

/-- In the run the response that `maker` put in the cache is the one that `asked` is given. -/
def ServedTo (world : World) (happenings : List Happening) (maker asked : Visit) : Prop :=
  ∃ key resp marked,
    (world.service libs).Given (happenings.map Happening.event) maker asked key resp ∧
      replay key resp = .ok marked

/-- Over all files, sites and runs, nothing made for the one is given to the other. -/
def Isolated (a b : Triple) : Prop :=
  a ≠ b → ∀ world happenings maker asked, maker.triple libs = some a →
    asked.triple libs = some b → ¬ ServedTo libs world happenings maker asked

/-- Two triples that differ and have one key, which can be put in a header. -/
structure Triple.Collides (a b : Triple) : Prop where
  ne : a ≠ b
  host : headerValid a.host = true
  path : headerValid a.path = true
  texts : a.SameTexts b ∨ a.ShiftedTo b ∨ b.ShiftedTo a

theorem headerValid_append (a b : String) :
    headerValid (a ++ b) = (headerValid a && headerValid b) := by
  simp only [headerValid, String.toList_append, List.all_append]

/-- The cookies that can be read are visible ASCII. -/
theorem headerValid_sig (a : Triple) : headerValid a.sig = true := by
  unfold Triple.sig
  cases htext : a.cookie.bind HeaderValue.toStr with
  | none => decide
  | some text =>
    obtain ⟨value, -, hvalue⟩ := Option.bind_eq_some_iff.mp htext
    unfold HeaderValue.toStr at hvalue
    split at hvalue
    · rename_i hall
      cases hvalue
      simp only [headerValid, Option.getD_some, String.toList_ofList, List.all_map]
      apply List.all_eq_true.mpr
      intro b hb
      have hvisible := List.all_eq_true.mp hall b hb
      revert hvisible
      clear * -
      revert b
      decide +kernel
    · cases hvalue

theorem headerValid_key (a : Triple) :
    headerValid a.key = (headerValid a.host && headerValid a.path) := by
  have hdash : headerValid "-" = true := by decide
  simp only [Triple.key, headerValid_append, headerValid_sig, hdash, Bool.and_true]

/-! ## A world that gives away -/

/-- Every path is an empty directory, and every site lists directories. -/
def browsingWorld : World where
  tree :=
    { canonicalize := fun dir _ => .ok dir
      node := fun _ => some (.dir (.ok [])) }
  target host := ⟨"/", host, none, none, some true, none, none, none⟩
  target_hostName _ := rfl

/-- A request for a directory. -/
def Triple.visit (self : Triple) (raw : String) : Visit where
  host := self.host
  req := ⟨"GET", raw, self.cookie, none, none⟩

theorem visit_triple {a : Triple} {raw : String} (h : libs.decode raw = .ok (a.path ++ "/")) :
    (a.visit raw).triple libs = some a := by
  have htrim : trimSlashes (a.path ++ "/") = a.path := by
    have hslash : "/".toList = [slash] := by decide
    conv_rhs => rw [← a.trimmed]
    simp only [trimSlashes, String.toList_append, hslash]
    rw [List.rdropWhile_concat_pos _ _ _ (by decide)]
  simp only [Visit.triple, Triple.visit, h]
  apply congrArg some
  ext1
  · rfl
  · rfl
  · exact htrim

theorem visit_stores {a : Triple} {raw : String} (h : libs.decode raw = .ok (a.path ++ "/")) :
    ∃ resp, browsingWorld.stores libs (a.visit raw) = some resp := by
  have hlast : (a.path ++ "/").toList.getLast? = some slash := by
    have hslash : "/".toList = [slash] := by decide
    rw [String.toList_append, hslash, List.getLast?_concat]
  have hinside : startsWith "/".toList "/".toList = true := by decide
  obtain ⟨listing, hlisting⟩ : ∃ listing,
      buildDirListing libs.toTexts (.ok []) (a.path ++ "/") = .ok listing := by
    simp only [buildDirListing, bind, Except.bind, List.mergeSort_nil, List.mapM_nil, pure,
      Except.pure, Except.mapError]
    exact ⟨_, rfl⟩
  have hvalid : headerValid "text/html; charset=utf-8" = true := by decide
  simp only [World.stores, Triple.visit, h]
  simp only [serve, browsingWorld, hinside, if_true, serveDirectory, hlast, ne_eq,
    not_true_eq_false, if_false, FileTree.isFile, hlisting, Option.getD_some, buildResponse, hvalid]
  exact ⟨_, rfl⟩

theorem served_of_key_eq {a b : Triple} (hkey : a.key = b.key) (hvalid : headerValid a.key = true) :
    ∃ world happenings maker asked, maker.triple libs = some a ∧ asked.triple libs = some b ∧
      ServedTo libs world happenings maker asked := by
  obtain ⟨rawMaker, hmaker⟩ := libs.encoded (a.path ++ "/")
  obtain ⟨rawAsked, hasked⟩ := libs.encoded (b.path ++ "/")
  obtain ⟨resp, hstores⟩ := visit_stores libs hmaker
  refine ⟨browsingWorld, [.visit 0 (a.visit rawMaker), .visit 0 (b.visit rawAsked)],
    a.visit rawMaker, b.visit rawAsked, visit_triple libs hmaker, visit_triple libs hasked, ?_⟩
  refine ⟨a.key, resp, _, ⟨[], 0, [], 0, [], rfl, ?_, hstores, ?_, ?_⟩, if_pos hvalid⟩
  · exact key_of_triple libs browsingWorld (visit_triple libs hmaker)
  · rw [hkey]
    exact key_of_triple libs browsingWorld (visit_triple libs hasked)
  · apply (Service.find_eq_some _).mpr
    have hzero : 0 < cacheLifetime := by decide
    refine ⟨0, ?_, hzero⟩
    have hkeyMaker := key_of_triple libs browsingWorld (visit_triple libs hmaker)
    rw [Service.after_append, Service.step, Service.next_missed _ hkeyMaker rfl,
      Function.update_self]
    exact congrArg (Option.map (0, ·)) hstores

/-- **Isolation**: over all runs, nothing that is made for the one is given to the other, exactly
when they do not collide. -/
theorem isolated_iff (a b : Triple) : Isolated libs a b ↔ ¬ a.Collides b := by
  constructor
  · intro hisolated hcollides
    have hkey := (key_eq_iff a b).mpr hcollides.texts
    have hvalid : headerValid a.key = true := by
      rw [headerValid_key, hcollides.host, hcollides.path]
      rfl
    obtain ⟨world, happenings, maker, asked, hmaker, hasked, hserved⟩ :=
      served_of_key_eq libs hkey hvalid
    exact hisolated hcollides.ne world happenings maker asked hmaker hasked hserved
  · rintro hnot hne world happenings maker asked hmaker hasked
      ⟨key, resp, marked, hgiven, hreplay⟩
    obtain ⟨_, _, _, _, _, -, hkeyMaker, -, hkeyAsked, -⟩ := hgiven
    have ha : a.key = key :=
      Option.some.inj ((key_of_triple libs world hmaker).symm.trans hkeyMaker)
    have hb : b.key = key :=
      Option.some.inj ((key_of_triple libs world hasked).symm.trans hkeyAsked)
    have hvalid : headerValid a.key = true := by
      unfold replay at hreplay
      split at hreplay
      · rename_i hkey
        rw [ha]
        exact hkey
      · cases hreplay
    rw [headerValid_key, Bool.and_eq_true] at hvalid
    exact hnot ⟨hne, hvalid.1, hvalid.2, (key_eq_iff a b).mp (ha.trans hb.symm)⟩

/-! ## Two sites -/

def triple (host cookie path : String) (h : trimSlashes path = path) : Triple :=
  ⟨host, some (bytesOf cookie), path, h⟩

/-- A visitor of the site `files-team` with the cookie `a=1` is given the listing that was made
for one of the site `files` with the cookie `team-a=1`. -/
theorem not_isolated_across_sites :
    ∃ a b : Triple, a.host = "files" ∧ b.host = "files-team" ∧
      ∀ libs : Libraries, ¬ Isolated libs a b := by
  refine ⟨triple "files" "team-a=1" "/report" (by decide +kernel),
    triple "files-team" "a=1" "/report" (by decide +kernel), rfl, rfl, ?_⟩
  intro libs hisolated
  obtain ⟨world, happenings, maker, asked, hmaker, hasked, hserved⟩ :=
    served_of_key_eq libs
      (show (triple "files" "team-a=1" "/report" (by decide +kernel)).key =
        (triple "files-team" "a=1" "/report" (by decide +kernel)).key by decide +kernel)
      (by decide +kernel)
  refine hisolated ?_ world happenings maker asked hmaker hasked hserved
  intro heq
  have hhost : "files" = "files-team" := congrArg Triple.host heq
  exact absurd hhost (by decide)

end OddBox.DirectoryServer

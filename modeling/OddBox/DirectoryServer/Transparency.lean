import OddBox.DirectoryServer.Failures
import OddBox.DirectoryServer.Isolation
import OddBox.DirectoryServer.Representations

/-!
When the cache of the directory server cannot be seen: a response is given again to requests
that ask for less than the whole of what they name, and to requests that name something else.
-/

namespace OddBox.DirectoryServer

open OddBox.Configuration OddBox.ExpiringCache OddBox.Checked

variable (libs : Libraries) (world : World)

/-! ## The error of a key -/

/-- The reply is not the error of a key that is no header value. -/
def OtherError (reply : Reply) : Prop := reply ≠ .error (.error "InvalidHeaderValue")

theorem otherError_serve (tree : FileTree) (target : DirServer) (req : Request)
    (pathDecoded cacheKey : String) :
    OtherError (serve libs tree target req pathDecoded cacheKey).1 := by
  rcases serve_errors libs tree target req pathDecoded cacheKey with hordinary | ⟨htraversal, -⟩
  · exact hordinary.ne (by decide +kernel)
  · rw [OtherError, htraversal]
    exact invalidHeaderValue_ne.symm

/-! ## What is given again -/

/-- The representation of what a visit names. -/
def World.representation (asked : Visit) : Option Representation :=
  match libs.decode asked.req.path with
  | .error _ => none
  | .ok pathDecoded =>
    (named world.tree (world.target asked.host) pathDecoded).bind
      (Named.representation libs world.tree (world.target asked.host) asked.req pathDecoded
        (cacheKey (world.target asked.host) asked.req pathDecoded))

/-- The visit asks for the whole of what it names. -/
def World.Plain (asked : Visit) : Prop :=
  ∃ pathDecoded what, libs.decode asked.req.path = .ok pathDecoded ∧
    named world.tree (world.target asked.host) pathDecoded = some what ∧
    what.Plain libs world.tree (world.target asked.host) asked.req pathDecoded
      (cacheKey (world.target asked.host) asked.req pathDecoded)

theorem stores_representation {maker : Visit} {resp : Response}
    (h : world.stores libs maker = some resp) :
    ∃ rep, world.representation libs maker = some rep ∧ rep.Servable ∧
      resp.shown = rep.shown := by
  unfold World.stores at h
  unfold World.representation
  cases hdecode : libs.decode maker.req.path with
  | error e =>
    rw [hdecode] at h
    cases h
  | ok pathDecoded =>
    simp only [hdecode] at h
    obtain ⟨what, rep, hnamed, hrep, hservable, hshown⟩ := serve_stores libs world.tree h
    refine ⟨rep, ?_, hservable, hshown⟩
    simp only [hnamed, Option.bind_some, hrep]

/-- Alone, a visit is answered by the whole of a representation exactly if it is plain and what
it names has it. -/
theorem handleAlone_whole_iff {asked : Visit} {rep : Representation} (hrep : rep.Servable) :
    Whole (world.handleAlone libs asked) rep ↔
      world.Plain libs asked ∧ world.representation libs asked = some rep := by
  unfold World.Plain World.representation
  cases hdecode : libs.decode asked.req.path with
  | error e =>
    have halone : world.handleAlone libs asked = .error (.error e) := by
      simp only [World.handleAlone, World.handle, handle, hdecode]
    rw [halone]
    constructor
    · intro h
      exact absurd h (not_whole_error _ rep)
    · rintro ⟨-, hnone⟩
      cases hnone
  | ok pathDecoded =>
    rw [handleAlone_eq libs world hdecode, serve_whole_iff libs world.tree hrep]
    constructor
    · rintro ⟨what, hnamed, hplain, hwhat⟩
      refine ⟨⟨pathDecoded, what, rfl, hnamed, hplain⟩, ?_⟩
      simp only [hnamed, Option.bind_some, hwhat]
    · rintro ⟨⟨_, what, hsame, hnamed, hplain⟩, hwhat⟩
      cases hsame
      simp only [hnamed, Option.bind_some] at hwhat
      exact ⟨what, hnamed, hplain, hwhat⟩

/-- A response that is given again looks as the answer to the request exactly if its key is a
header value, the request is plain, and what it names has the representation that was cached. -/
theorem replay_shown_iff {maker asked : Visit} {key pathDecoded : String} {resp : Response}
    (hdecode : libs.decode asked.req.path = .ok pathDecoded)
    (hstores : world.stores libs maker = some resp) :
    shown (replay key resp) = shown (world.handleAlone libs asked) ↔
      headerValid key = true ∧ world.Plain libs asked ∧
        world.representation libs asked = world.representation libs maker := by
  obtain ⟨rep, hmaker, hrep, hshown⟩ := stores_representation libs world hstores
  rw [hmaker]
  unfold replay
  by_cases hkey : headerValid key = true
  · rw [if_pos hkey]
    simp only [hkey, true_and]
    rw [← handleAlone_whole_iff libs world hrep]
    constructor
    · intro h
      cases halone : world.handleAlone libs asked with
      | error failure =>
        rw [halone] at h
        cases h
      | ok answer =>
        rw [halone] at h
        exact ⟨answer, rfl, (Except.ok.inj h).symm.trans hshown⟩
    · rintro ⟨answer, halone, hanswer⟩
      rw [halone]
      exact congrArg Except.ok (hshown.trans hanswer.symm)
  · rw [if_neg hkey]
    simp only [hkey, Bool.false_eq_true, false_and, iff_false]
    intro h
    rw [handleAlone_eq libs world hdecode] at h
    refine otherError_serve libs world.tree (world.target asked.host) asked.req pathDecoded
      (cacheKey (world.target asked.host) asked.req pathDecoded) ?_
    generalize (serve libs world.tree (world.target asked.host) asked.req pathDecoded _).1 =
      reply at h ⊢
    cases reply with
    | error failure =>
      cases h
      rfl
    | ok answer => cases h

/-- The visit is given the response that another one made, under a key. -/
def GivenTo (happenings : List Happening) (maker asked : Visit) (key : String) : Prop :=
  ∃ resp, (world.service libs).Given (happenings.map Happening.event) maker asked key resp

theorem split_event {happenings : List Happening} {before later : List (Event Visit Response)}
    {now : Nat} {asked : Visit}
    (h : happenings.map Happening.event = before ++ Event.request now asked :: later) :
    ∃ front back, happenings = front ++ Happening.visit now asked :: back ∧
      front.map Happening.event = before := by
  obtain ⟨front, rest, rfl, hfront, hrest⟩ := List.map_eq_append_iff.mp h
  obtain ⟨happening, back, rfl, hevent, -⟩ := List.map_eq_cons_iff.mp hrest
  cases happening with
  | dropOld now => cases hevent
  | visit now asked =>
    cases hevent
    exact ⟨front, back, rfl, hfront⟩

/-- **Transparency**: in a run every response looks as it would with an empty cache, exactly when
every response that is given again has a key that is a header value, goes to a plain request,
and is the representation of what that request names. -/
theorem transparent_iff (happenings : List Happening) :
    (∀ before now asked later, happenings = before ++ .visit now asked :: later →
        shown (world.handle libs (world.cacheAfter libs before) now asked).1 =
          shown (world.handleAlone libs asked)) ↔
      ∀ maker asked key, GivenTo libs world happenings maker asked key →
        headerValid key = true ∧ world.Plain libs asked ∧
          world.representation libs asked = world.representation libs maker := by
  have hruns := (world.service libs).invisible_iff shown (happenings.map Happening.event)
  have hleft : (∀ before now asked later, happenings = before ++ .visit now asked :: later →
        shown (world.handle libs (world.cacheAfter libs before) now asked).1 =
          shown (world.handleAlone libs asked)) ↔
      ∀ before now asked later,
        happenings.map Happening.event = before ++ Event.request now asked :: later →
        shown ((world.service libs).reply ((world.service libs).after before) now asked) =
          shown ((world.service libs).answer asked) := by
    constructor
    · intro h before now asked later hsplit
      obtain ⟨front, back, hhappenings, rfl⟩ := split_event hsplit
      have hstep := h front now asked back hhappenings
      rw [handle_eq, cacheAfter_eq] at hstep
      exact hstep
    · rintro h before now asked later rfl
      have hstep := h (before.map Happening.event) now asked (later.map Happening.event) (by
        rw [List.map_append, List.map_cons]
        rfl)
      rw [handle_eq, cacheAfter_eq]
      exact hstep
  rw [hleft, hruns]
  have hgiven {maker asked : Visit} {key : String} {resp : Response}
      (h : (world.service libs).Given (happenings.map Happening.event) maker asked key resp) :
      shown ((world.service libs).replay key resp) = shown ((world.service libs).answer asked) ↔
        headerValid key = true ∧ world.Plain libs asked ∧
          world.representation libs asked = world.representation libs maker := by
    obtain ⟨_, _, _, _, _, -, -, hstores, hkey, -⟩ := h
    obtain ⟨pathDecoded, hdecode, -⟩ := Option.map_eq_some_iff.mp hkey
    have hok : libs.decode asked.req.path = .ok pathDecoded := by
      cases hdecoded : libs.decode asked.req.path with
      | error e =>
        rw [hdecoded] at hdecode
        cases hdecode
      | ok found =>
        rw [hdecoded] at hdecode
        cases hdecode
        rfl
    exact replay_shown_iff libs world hok hstores
  constructor
  · rintro h maker asked key ⟨resp, hfrom⟩
    exact (hgiven hfrom).mp (h maker asked key resp hfrom)
  · intro h maker asked key resp hfrom
    exact (hgiven hfrom).mpr (h maker asked key ⟨resp, hfrom⟩)

/-! ## The same place -/

theorem named_of_trimSlashes (tree : FileTree) (target : DirServer) {p q : String}
    (h : trimSlashes p = trimSlashes q) : named tree target p = named tree target q := by
  have hpath : relative p.toList = relative q.toList := by
    rw [← relative_rdropWhile p.toList, ← relative_rdropWhile q.toList]
    exact congrArg relative (String.ofList_injective h)
  simp only [named, hpath]

/-- Visits that nothing tells apart name the same, and a file has one representation for them. A
listing shows the slashes that it was asked for with. -/
theorem representation_of_same_triple {a b : Visit} (h : a.triple libs = b.triple libs)
    (hfile : ∀ pathDecoded entries, libs.decode b.req.path = .ok pathDecoded →
      named world.tree (world.target b.host) pathDecoded ≠ some (.listing entries)) :
    world.representation libs a = world.representation libs b := by
  unfold Visit.triple at h
  unfold World.representation
  cases ha : libs.decode a.req.path with
  | error e =>
    cases hb : libs.decode b.req.path with
    | error e => rfl
    | ok pathDecoded =>
      rw [ha, hb] at h
      cases h
  | ok p =>
    cases hb : libs.decode b.req.path with
    | error e =>
      rw [ha, hb] at h
      cases h
    | ok q =>
      rw [ha, hb] at h
      obtain ⟨hhost, hcookie, hpath⟩ := Triple.mk.inj (Option.some.inj h)
      have hkey : cacheKey (world.target a.host) a.req p =
          cacheKey (world.target b.host) b.req q := by
        simp only [cacheKey, cookieSig, hhost, hcookie, hpath]
      have htheme : ThemeDecision.fromReq libs a.req = ThemeDecision.fromReq libs b.req := by
        simp only [ThemeDecision.fromReq, hcookie]
      simp only [hhost, named_of_trimSlashes world.tree (world.target b.host) hpath]
      rw [hhost] at hkey
      cases hnamed : named world.tree (world.target b.host) q with
      | none => rfl
      | some what =>
        cases what with
        | listing entries => exact absurd hnamed (hfile q entries hb)
        | file path isIndex =>
          simp only [Option.bind_some, Named.representation, htheme, hkey]

/-! ## A redirect that is missed -/

/-- Every path is a directory with nothing in it but a page for it. -/
def indexedWorld : World where
  tree :=
    { canonicalize := fun dir _ => .ok dir
      node := fun path =>
        if path = ['/'] then some (.dir (.ok [])) else some (.file [104, 105] none none) }
  target host := ⟨"/", host, none, none, none, none, none, none⟩
  target_hostName _ := rfl

def plainLibraries : Libraries where
  toLowercase text := text
  fmtSize _ := "0 B"
  listingHead := "<ul>"
  decode text := .ok text
  encoded text := ⟨text, rfl⟩
  cookieParse _ := none
  fmtHttpDate _ := some "Thu, 01 Jan 1970 00:00:00 GMT"
  parseHttpDate _ := none
  mimeGuess _ := "text/html"
  fromUtf8Lossy _ := "hi"
  toHtmlWithOptions text := .ok text
  page _ _ _ := "<!doctype html>"
  page_nonempty _ _ _ := by decide

def docs (path : String) : Visit := ⟨"docs", ⟨"GET", path, none, none, none⟩⟩

/-- A second after `/guide/` was served, `/guide` gets the page and not the redirect. -/
theorem redirect_missed :
    shown (indexedWorld.handle plainLibraries
        (indexedWorld.cacheAfter plainLibraries [.visit 0 (docs "/guide/")]) 1000000000
        (docs "/guide")).1 ≠
      shown (indexedWorld.handleAlone plainLibraries (docs "/guide")) := by
  decide +kernel

end OddBox.DirectoryServer

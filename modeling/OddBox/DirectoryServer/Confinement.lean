import OddBox.DirectoryServer.Disk
import OddBox.DirectoryServer.Transparency

/-!
Which files and directories a directory server answers from: the canonical path of a request is
compared with the directory as its configuration writes it, and an index file is not compared
at all.
-/

namespace OddBox.DirectoryServer

open OddBox.Configuration

/-! ## What a request is answered from -/

/-- The index file of a directory whose path is requested with a slash at its end. -/
def indexOf (tree : FileTree) (dir : List Char) (pathDecoded : String) : Option (List Char) :=
  if pathDecoded.toList.getLast? = some slash then
    (["index.html", "index.htm", "index.md"].find? fun name => tree.isFile (join dir name)).map
      (join dir)
  else none

/-- The path that `handle` gives to `serve_file` or `serve_directory`, or the index file that
the latter gives to `serve_file`. -/
def servedPath (tree : FileTree) (target : DirServer) (pathDecoded : String) :
    Option (List Char) :=
  match tree.canonicalize target.dir.toList (relative pathDecoded.toList) with
  | .error _ => none
  | .ok fullPath =>
    if startsWith fullPath target.dir.toList then
      match tree.node fullPath with
      | some (.file _ _ _) => some fullPath
      | some (.dir _) => some ((indexOf tree fullPath pathDecoded).getD fullPath)
      | _ => none
    else none

/-- An answer that shows nothing of the directory. -/
inductive Refusal : Reply → Prop
  | notFound (body : String) (reply : Reply) (h : reply = simpleStatus 404 body) : Refusal reply
  | error (text : String) : Refusal (.error (.error text))

variable (libs : Libraries) (tree : FileTree) (target : DirServer) (req : Request)
  (pathDecoded key : String)

theorem serve_of_none (h : servedPath tree target pathDecoded = none) :
    ∃ reply, Refusal reply ∧ serve libs tree target req pathDecoded key = nothingCached reply := by
  unfold servedPath at h
  unfold serve
  cases hfull : tree.canonicalize target.dir.toList (relative pathDecoded.toList) with
  | error e =>
      cases e with
      | notFound => exact ⟨_, .notFound _ _ rfl, rfl⟩
      | io text => exact ⟨_, .error _, rfl⟩
  | ok full =>
      simp only [hfull] at h ⊢
      cases hnode : tree.node full with
      | none => exact ⟨_, .notFound _ _ rfl, rfl⟩
      | some node =>
          simp only [hnode] at h ⊢
          split
          · next hinside =>
            rw [if_pos hinside] at h
            cases node with
            | file bytes modified readError => cases h
            | dir entries => cases h
            | other => exact ⟨_, .notFound _ _ rfl, rfl⟩
          · exact ⟨_, .error _, rfl⟩

theorem serveDirectory_index {dir index : List Char} (entries : Except String (List DirEntry))
    (h : indexOf tree dir pathDecoded = some index) :
    serveDirectory libs tree target req dir entries pathDecoded key =
      serveFile libs tree target req index key := by
  rw [indexOf] at h
  split at h
  · next hslash =>
    obtain ⟨name, hname, rfl⟩ := Option.map_eq_some_iff.mp h
    rw [serveDirectory, if_neg (not_not.mpr hslash), hname]
  · cases h

/-- The answer is that of `serve_file` or `serve_directory` for the path. -/
theorem serve_of_some {path : List Char} (h : servedPath tree target pathDecoded = some path) :
    serve libs tree target req pathDecoded key = serveFile libs tree target req path key ∨
      ∃ entries, tree.node path = some (.dir entries) ∧ indexOf tree path pathDecoded = none ∧
        serve libs tree target req pathDecoded key =
          serveDirectory libs tree target req path entries pathDecoded key := by
  unfold servedPath at h
  unfold serve
  split at h
  · cases h
  next full hfull =>
  split at h
  · next hinside =>
    split at h
    · next hnode =>
      cases h
      simp only [hfull, hnode, if_pos hinside, true_or]
    · next entries hnode =>
      simp only [hfull, hnode, if_pos hinside]
      cases hindex : indexOf tree full pathDecoded with
      | none =>
          rw [hindex] at h
          cases h
          exact .inr ⟨entries, hnode, hindex, rfl⟩
      | some index =>
          rw [hindex] at h
          cases h
          exact .inl (serveDirectory_index libs tree target req pathDecoded key entries hindex)
    · cases h
  · cases h

/-! ## Attempted traversals -/

/-- Only a path that does not start with the directory as it is written is refused. -/
theorem serve_traversal {full : List Char}
    (hfull : tree.canonicalize target.dir.toList (relative pathDecoded.toList) = .ok full)
    (hnode : tree.node full ≠ none) :
    (serve libs tree target req pathDecoded key).1 = traversal ↔
      startsWith full target.dir.toList = false := by
  unfold serve
  simp only [hfull]
  cases hnodes : tree.node full with
  | none => exact absurd hnodes hnode
  | some node =>
      simp only
      cases hstarts : startsWith full target.dir.toList with
      | false => exact iff_of_true rfl rfl
      | true =>
          simp only [if_true, Bool.true_eq_false, iff_false]
          cases node with
          | file bytes modified readError => exact (ordinary_serveFile _ _ _ _ _ _).ne_traversal
          | dir entries => exact (ordinary_serveDirectory _ _ _ _ _ _ _ _).ne_traversal
          | other => exact (ordinary_ok _).ne_traversal

/-! ## Confinement -/

/-- What `handle` opens: nothing, where it answers from the cache. -/
def opened (cache : ResponseCache) (now : Nat) : Option (List Char) :=
  match libs.decode req.path with
  | .error _ => none
  | .ok pathDecoded =>
    match (cachedFreshResponse cache now (cacheKey target req pathDecoded)).1 with
    | .ok none => servedPath tree target pathDecoded
    | _ => none

/-- The canonical path lies in the directory. -/
def Inside (path root : List Char) : Prop :=
  ∃ canonical, tree.canonicalize path [] = .ok canonical ∧ startsWith canonical root = true

/-- One request, of the directory whose canonical path is `root`. -/
structure Confined (root : List Char) (cache : ResponseCache) (now : Nat) : Prop where
  inside : ∀ path, opened libs tree target req cache now = some path → Inside tree path root
  admitted : ∀ pathDecoded full, libs.decode req.path = .ok pathDecoded →
    tree.canonicalize target.dir.toList (relative pathDecoded.toList) = .ok full →
    startsWith full root = true → (handle libs tree cache now target req).1 ≠ traversal

/-- If what is requested lies in the directory, its configuration writes the canonical path,
and the index file that stands for what is requested lies in the directory too. -/
def WellPlaced (root : List Char) : Prop :=
  ∀ pathDecoded full, libs.decode req.path = .ok pathDecoded →
    tree.canonicalize target.dir.toList (relative pathDecoded.toList) = .ok full →
    startsWith full root = true →
    components target.dir.toList = components root ∧
      ∀ entries index, tree.node full = some (.dir entries) →
        indexOf tree full pathDecoded = some index → Inside tree index root

theorem cachedFreshResponse_error {cache : ResponseCache} {now : Nat} {e : Failure}
    (h : (cachedFreshResponse cache now key).1 = .error e) : e = .error "InvalidHeaderValue" := by
  unfold cachedFreshResponse at h
  split at h
  · split at h
    · split at h <;> cases h
      rfl
    · cases h
  · cases h

/-- What is not found in the cache is served. -/
theorem handle_fst (cache : ResponseCache) (now : Nat)
    (hdecode : libs.decode req.path = .ok pathDecoded) :
    (handle libs tree cache now target req).1 =
      match (cachedFreshResponse cache now (cacheKey target req pathDecoded)).1 with
      | .error e => .error e
      | .ok (some resp) => .ok resp
      | .ok none =>
        (serve libs tree target req pathDecoded (cacheKey target req pathDecoded)).1 := by
  unfold handle
  simp only [hdecode]
  generalize cachedFreshResponse cache now (cacheKey target req pathDecoded) = found
  obtain ⟨found, cache⟩ := found
  cases found with
  | error e => rfl
  | ok found =>
      cases found with
      | some resp => rfl
      | none =>
          generalize serve libs tree target req pathDecoded (cacheKey target req pathDecoded) =
            served
          obtain ⟨reply, cached⟩ := served
          cases cached <;> rfl

theorem handle_traversal {cache : ResponseCache} {now : Nat}
    (hdecode : libs.decode req.path = .ok pathDecoded)
    (h : (handle libs tree cache now target req).1 = traversal) :
    (serve libs tree target req pathDecoded (cacheKey target req pathDecoded)).1 = traversal := by
  rw [handle_fst libs tree target req pathDecoded cache now hdecode] at h
  split at h
  · next e hfound =>
    rw [cachedFreshResponse_error _ hfound] at h
    exact absurd h invalidHeaderValue_ne
  · cases h
  · exact h

theorem handle_unknown (now : Nat) (hdecode : libs.decode req.path = .ok pathDecoded) :
    (handle libs tree (fun _ => none) now target req).1 =
        (serve libs tree target req pathDecoded (cacheKey target req pathDecoded)).1 ∧
      opened libs tree target req (fun _ => none) now = servedPath tree target pathDecoded := by
  rw [handle_fst libs tree target req pathDecoded _ now hdecode]
  unfold opened
  simp only [hdecode, cachedFreshResponse, and_self]

theorem startsWith_congr {dir root : List Char} (h : components dir = components root)
    (path : List Char) : startsWith path dir = startsWith path root := by
  rw [startsWith, startsWith, h]

variable (disk : Disk) {root : List Char}

theorem node_ne_none {dir full : List Char} {below : List (List Char)}
    (hfull : disk.tree.canonicalize dir below = .ok full) : disk.tree.node full ≠ none := by
  obtain ⟨path, hpath, rfl⟩ := Disk.canonicalize_ok hfull
  obtain ⟨node, hnode⟩ := Disk.node_render hpath
  exact hnode ▸ Option.some_ne_none node

theorem inside_self {dir full : List Char} {below : List (List Char)}
    (hfull : disk.tree.canonicalize dir below = .ok full) (hinside : startsWith full root = true) :
    Inside disk.tree full root := by
  obtain ⟨path, hpath, rfl⟩ := Disk.canonicalize_ok hfull
  exact ⟨_, Disk.canonicalize_self hpath, hinside⟩

theorem wellPlaced_of_confined
    (hroot : disk.tree.canonicalize target.dir.toList [] = .ok root)
    (h : Confined libs disk.tree target req root (fun _ => none) 0) :
    WellPlaced libs disk.tree target req root := by
  intro pathDecoded full hdecode hfull hinside
  obtain ⟨hreply, hopened⟩ := handle_unknown libs disk.tree target req pathDecoded 0 hdecode
  have hadmitted := h.admitted pathDecoded full hdecode hfull hinside
  rw [hreply, Ne, serve_traversal libs disk.tree target req pathDecoded _ hfull
    (node_ne_none disk hfull), Bool.not_eq_false] at hadmitted
  refine ⟨Disk.components_of_startsWith hfull hroot hadmitted, ?_⟩
  intro entries index hnode hindex
  apply h.inside
  rw [hopened, servedPath]
  simp only [hfull, hadmitted, if_true, hnode, hindex, Option.getD_some]

theorem confined_of_wellPlaced (cache : ResponseCache) (now : Nat)
    (hroot : disk.tree.canonicalize target.dir.toList [] = .ok root)
    (h : WellPlaced libs disk.tree target req root) :
    Confined libs disk.tree target req root cache now := by
  constructor
  · intro path hpath
    unfold opened at hpath
    split at hpath
    · cases hpath
    next pathDecoded hdecode =>
    split at hpath
    · unfold servedPath at hpath
      split at hpath
      · cases hpath
      next full hfull =>
      split at hpath
      · next hstarts =>
        have hcomponents := Disk.components_of_startsWith hfull hroot hstarts
        rw [startsWith_congr hcomponents] at hstarts
        have hself := inside_self disk hfull hstarts
        split at hpath
        · exact Option.some.inj hpath ▸ hself
        · next entries hnode =>
          have hindex := (h pathDecoded full hdecode hfull hstarts).2 entries
          cases hfound : indexOf disk.tree full pathDecoded with
          | none =>
              rw [hfound] at hpath
              exact Option.some.inj hpath ▸ hself
          | some index =>
              rw [hfound] at hpath
              exact Option.some.inj hpath ▸ hindex index hnode hfound
        · cases hpath
      · cases hpath
    · cases hpath
  · intro pathDecoded full hdecode hfull hinside htraversal
    have hserve := handle_traversal libs disk.tree target req pathDecoded hdecode htraversal
    rw [serve_traversal libs disk.tree target req pathDecoded _ hfull (node_ne_none disk hfull),
      startsWith_congr (h pathDecoded full hdecode hfull hinside).1, hinside] at hserve
    cases hserve

/-- Whatever the cache holds, the requests of a directory are confined to it, and what lies in
it is not refused, exactly when they are well placed. -/
theorem confined_iff (hroot : disk.tree.canonicalize target.dir.toList [] = .ok root) :
    (∀ cache now, Confined libs disk.tree target req root cache now) ↔
      WellPlaced libs disk.tree target req root :=
  ⟨fun h => wellPlaced_of_confined libs target req disk hroot (h _ _),
    fun h cache now => confined_of_wellPlaced libs target req disk cache now hroot h⟩

/-! ## A directory with a relative path -/

/-- `/site` with one file, in a process that runs in the root. -/
def siteDisk (file : String) : Disk where
  find path :=
    if path.map FileName.text = [] then .ok (.dir (.ok []))
    else if path.map FileName.text = ["site".toList] then .ok (.dir (.ok []))
    else if path.map FileName.text = ["site".toList, file.toList] then
      .ok (.leaf (.file [104, 105] (some 0) none))
    else .error .notFound
  cwd := []
  cwd_dirs path hpath := ⟨.ok [], by rw [List.prefix_nil.mp hpath]; rfl⟩
  notDirectory := .io "Not a directory"
  tooManyLinks := .io "Too many levels of symbolic links"
  maxLinks := 40

def siteAt (dir : String) : DirServer := ⟨dir, "docs", none, none, none, none, none, none⟩

def siteRequest (path : String) : Request := ⟨"GET", path, none, none, none⟩

theorem confined_iff_site :
    (∀ cache now, Confined plainLibraries (siteDisk "a.txt").tree (siteAt "/site")
        (siteRequest "/a.txt") "/site".toList cache now) ↔
      WellPlaced plainLibraries (siteDisk "a.txt").tree (siteAt "/site") (siteRequest "/a.txt")
        "/site".toList :=
  confined_iff plainLibraries (siteAt "/site") (siteRequest "/a.txt") (siteDisk "a.txt")
    (by decide +kernel)

/-- The file of a directory that is written as `site` is refused as an attempted traversal. -/
theorem relative_dir_refused :
    (siteDisk "a.txt").tree.canonicalize "site".toList [] = .ok "/site".toList ∧
      ¬ Confined plainLibraries (siteDisk "a.txt").tree (siteAt "site") (siteRequest "/a.txt")
        "/site".toList (fun _ => none) 0 := by
  refine ⟨by decide +kernel, fun h => ?_⟩
  refine h.admitted "/a.txt" "/site/a.txt".toList rfl (by decide +kernel) (by decide +kernel) ?_
  decide +kernel

end OddBox.DirectoryServer

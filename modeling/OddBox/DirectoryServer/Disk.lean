import OddBox.FileSystem
import OddBox.DirectoryServer.Files

/-!
The file tree of the directory server as the tree of a file system with symbolic links.
-/

namespace OddBox.DirectoryServer

/-! ## Names and steps -/

/-- What an entry of a directory can be called. -/
structure FileName where
  text : List Char
  nonempty : text ≠ []
  no_slash : slash ∉ text
  no_dots : text ≠ ['.'] ∧ text ≠ ['.', '.']
  deriving DecidableEq

/-- The step of a component; a slash and a dot lead nowhere else. -/
def stepOf (text : List Char) : Option (Step FileName) :=
  if hup : text = ['.', '.'] then some .up
  else if hname : text ≠ [] ∧ slash ∉ text ∧ text ≠ ['.'] then
    some (.name ⟨text, hname.1, hname.2.1, hname.2.2, hup⟩)
  else none

theorem stepOf_name (name : FileName) : stepOf name.text = some (.name name) := by
  rw [stepOf, dif_neg name.no_dots.2, dif_pos ⟨name.nonempty, name.no_slash, name.no_dots.1⟩]

theorem filterMap_stepOf (path : List FileName) :
    (path.map FileName.text).filterMap stepOf = path.map .name := by
  induction path with
  | nil => rfl
  | cons name path ih => simp [stepOf_name, ih]

/-- How `canonicalize` writes a path. -/
def render (path : List FileName) : List Char :=
  if path.isEmpty then [slash] else path.flatMap fun name => slash :: name.text

theorem names_append (front back : List Char) :
    names (front ++ slash :: back) = names front ++ names back := by
  rw [names, List.splitOn_append_cons_self, List.filter_append]
  rfl

theorem names_text (name : FileName) : names name.text = [name.text] := by
  rw [names, List.splitOn_eq_singleton name.no_slash]
  simp [name.nonempty, name.no_dots.1]

theorem names_render (path : List FileName) : names (render path) = path.map FileName.text := by
  have hall : names (path.flatMap fun name => slash :: name.text) = path.map FileName.text := by
    induction path using List.reverseRecOn with
    | nil => rfl
    | append_singleton path name ih =>
        rw [List.flatMap_append, List.flatMap_singleton, names_append, ih, names_text,
          List.map_append, List.map_singleton]
  cases path with
  | nil => rfl
  | cons name path => exact hall

theorem components_render (path : List FileName) :
    components (render path) = [slash] :: path.map FileName.text := by
  have hhead : (render path).head? = some slash := by cases path <;> rfl
  rw [components, if_pos hhead, names_render]

theorem slash_not_mem_names (path : List Char) : ∀ name ∈ names path, slash ∉ name := by
  intro name hmem
  have hpart := List.mem_of_mem_filter hmem
  clear hmem
  induction path generalizing name with
  | nil =>
      rw [List.splitOn_nil, List.mem_singleton] at hpart
      exact hpart ▸ List.not_mem_nil
  | cons c path ih =>
      rw [List.splitOn_cons_eq_if_modifyHead] at hpart
      split at hpart
      · rcases List.mem_cons.mp hpart with rfl | hlater
        · exact List.not_mem_nil
        · exact ih name hlater
      · next hother =>
        cases hparts : path.splitOn slash with
        | nil => exact absurd hparts (List.splitOn_ne_nil slash path)
        | cons first parts =>
            rw [hparts] at hpart ih
            rcases List.mem_cons.mp hpart with rfl | hlater
            · intro hmem
              rcases List.mem_cons.mp hmem with rfl | hlater
              · exact hother (beq_self_eq_true slash)
              · exact ih first (by simp) hlater
            · exact ih name (by simp [hlater])

/-- The components of a path start with the root only if the path does. -/
theorem head_of_components {path : List Char} {rest : List (List Char)}
    (h : components path = [slash] :: rest) :
    path.head? = some slash ∧ names path = rest := by
  rw [components] at h
  split at h
  · next hhead => exact ⟨hhead, (List.cons.inj h).2⟩
  · split at h
    · exact absurd (List.cons.inj h).1 (by decide)
    · exact absurd (List.mem_singleton.mpr rfl)
        (slash_not_mem_names path [slash] (h ▸ List.mem_cons_self))

theorem components_ne_nil {path : List Char} (hne : path ≠ []) : components path ≠ [] := by
  rw [components]
  split
  · exact List.cons_ne_nil _ _
  next hhead =>
  split
  · exact List.cons_ne_nil _ _
  next hdot =>
  -- the first name is the text up to the first slash
  have hfirst : ∀ front, slash ∉ front → front ≠ [] → front ≠ ['.'] → names front = [front] := by
    intro front hslash hempty hnodot
    rw [names, List.splitOn_eq_singleton hslash]
    simp [hempty, hnodot]
  by_cases hslash : slash ∈ path
  · obtain ⟨front, back, rfl, hfront⟩ := List.eq_append_cons_of_mem hslash
    have htake : (front ++ slash :: back).takeWhile (· ≠ slash) = front := by
      rw [List.takeWhile_append_of_pos fun c hc => by
        simpa using fun heq : c = slash => hfront (heq ▸ hc)]
      simp
    have hempty : front ≠ [] := by
      rintro rfl
      exact hhead rfl
    rw [names_append, hfirst front hfront hempty fun heq => hdot (htake.trans heq)]
    exact List.cons_ne_nil _ _
  · have htake : path.takeWhile (· ≠ slash) = path := by
      rw [List.takeWhile_eq_self_iff]
      intro c hc
      simpa using fun heq : c = slash => hslash (heq ▸ hc)
    rw [hfirst path hslash hne fun heq => hdot (htake.trans heq)]
    exact List.cons_ne_nil _ _

/-! ## The tree -/

/-- What is no directory. -/
inductive Leaf where
  | file (bytes : List UInt8) (modified : Option Int) (readError : Option String)
  | other

def Leaf.node : Leaf → Node
  | .file bytes modified readError => .file bytes modified readError
  | .other => .other

deriving instance DecidableEq for CanonicalizeError, DirEntry, Node

abbrev Disk := FileSystem FileName (Except String (List DirEntry)) Leaf CanonicalizeError

namespace Disk

variable (disk : Disk)

def resolve (path : List Char) (below : List (List Char)) :
    Except CanonicalizeError (List FileName) :=
  if path.isEmpty && below.isEmpty then .error .notFound
  else
    disk.realpath (path.head? == some slash) ((components path ++ below).filterMap stepOf)

def nodeAt (path : List FileName) : Option Node :=
  match disk.find path with
  | .ok (.dir entries) => some (.dir entries)
  | .ok (.leaf leaf) => some leaf.node
  | _ => none

/-- Both follow symbolic links. -/
def tree : FileTree where
  canonicalize dir below := (disk.resolve dir below).map render
  node path := (disk.resolve path []).toOption.bind disk.nodeAt

theorem tree_node (path : List Char) :
    disk.tree.node path = (disk.resolve path []).toOption.bind disk.nodeAt := rfl

variable {disk} {dir full root : List Char} {below : List (List Char)} {path : List FileName}

theorem resolve_render (hpath : disk.Canonical path) :
    disk.resolve (render path) [] = .ok path := by
  have hhead : (render path).head? = some slash := by cases path <;> rfl
  have hne : (render path).isEmpty = false := by cases path <;> rfl
  have hroot : stepOf [slash] = none := by decide
  rw [resolve, hne, hhead, List.append_nil, components_render, List.filterMap_cons, hroot,
    filterMap_stepOf]
  exact hpath.realpath

theorem canonicalize_ok (h : disk.tree.canonicalize dir below = .ok full) :
    ∃ path, disk.Canonical path ∧ full = render path := by
  obtain ⟨path, hresolve, rfl⟩ :
      ∃ path, disk.resolve dir below = .ok path ∧ render path = full := by
    change (disk.resolve dir below).map render = .ok full at h
    cases hresolve : disk.resolve dir below with
    | error e => rw [hresolve] at h; cases h
    | ok path => rw [hresolve] at h; exact ⟨path, rfl, Except.ok.inj h⟩
  refine ⟨path, ?_, rfl⟩
  rw [resolve] at hresolve
  split at hresolve
  · cases hresolve
  · exact FileSystem.realpath_canonical hresolve

/-- A canonical path is its own canonical path, and names something. -/
theorem canonicalize_self (hpath : disk.Canonical path) :
    disk.tree.canonicalize (render path) [] = .ok (render path) := by
  change (disk.resolve (render path) []).map render = _
  rw [resolve_render hpath]
  rfl

theorem node_render (hpath : disk.Canonical path) :
    ∃ node, disk.tree.node (render path) = some node := by
  have hnode : disk.tree.node (render path) = disk.nodeAt path := by
    rw [tree_node, resolve_render hpath]
    rfl
  rw [hnode, nodeAt]
  rcases hpath.last with ⟨entries, hdir⟩ | ⟨leaf, hleaf⟩
  · exact ⟨.dir entries, by rw [hdir]⟩
  · exact ⟨leaf.node, by rw [hleaf]⟩

/-- What starts with the path of a directory as it is written can only do so where that path
is written as the canonical one. -/
theorem components_of_startsWith (hfull : disk.tree.canonicalize dir below = .ok full)
    (hroot : disk.tree.canonicalize dir [] = .ok root) (hstarts : startsWith full dir = true) :
    components dir = components root := by
  obtain ⟨path, hpath, rfl⟩ := canonicalize_ok hfull
  rw [startsWith, List.isPrefixOf_iff_prefix, components_render] at hstarts
  have hne : dir ≠ [] := by
    rintro rfl
    cases hroot
  cases hdir : components dir with
  | nil => exact absurd hdir (components_ne_nil hne)
  | cons first rest =>
      rw [hdir, List.cons_prefix_cons] at hstarts
      obtain ⟨rfl, hrest⟩ := hstarts
      obtain ⟨hhead, -⟩ := head_of_components hdir
      obtain ⟨inner, hinner, rfl⟩ := List.prefix_map_iff.mp hrest
      have hresolve : disk.resolve dir [] = .ok inner := by
        have hroot : stepOf [slash] = none := by decide
        have hempty : dir.isEmpty = false := by simpa using hne
        rw [resolve, hempty, hhead, hdir, List.append_nil, List.filterMap_cons, hroot,
          filterMap_stepOf]
        exact (hpath.above hinner).realpath
      have hwritten : disk.tree.canonicalize dir [] = .ok (render inner) := by
        change (disk.resolve dir []).map render = _
        rw [hresolve]
        rfl
      rw [hroot] at hwritten
      rw [Except.ok.inj hwritten, components_render]

end Disk

end OddBox.DirectoryServer

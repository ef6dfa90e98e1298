import Mathlib

/-!
Path resolution in a file system with symbolic links. An object is found by its canonical path,
the names from the root to it; a path is a list of steps, and following it may fail, with an
error of the file system or because a link leads back to itself.
-/

namespace OddBox

/-- A step of a path: into an object of this name, or out of a directory. -/
inductive Step (N : Type*) where
  | name (name : N)
  | up
  deriving DecidableEq

inductive FileObject (N D L : Type*) where
  | dir (data : D)
  | leaf (data : L)
  | link (absolute : Bool) (target : List (Step N))

/-- The objects by their canonical paths, and the directory that relative paths start from. -/
structure FileSystem (N D L E : Type*) where
  find : List N → Except E (FileObject N D L)
  cwd : List N
  cwd_dirs : ∀ path, path <+: cwd → ∃ data, find path = .ok (.dir data)
  notDirectory : E
  tooManyLinks : E
  maxLinks : Nat

namespace FileSystem

variable {N D L E : Type*} (fs : FileSystem N D L E)

/-! ## Resolution -/

/-- The walk up to the first link, from which `follow` goes on. -/
def walkFrom (follow : List N → List (Step N) → Except E (List N)) :
    List N → List (Step N) → Except E (List N)
  | here, [] => .ok here
  | here, .up :: rest => walkFrom follow here.dropLast rest
  | here, .name name :: rest =>
    match fs.find (here ++ [name]) with
    | .error e => .error e
    | .ok (.dir _) => walkFrom follow (here ++ [name]) rest
    | .ok (.leaf _) => if rest.isEmpty then .ok (here ++ [name]) else .error fs.notDirectory
    | .ok (.link absolute target) => follow (if absolute then [] else here) (target ++ rest)

def walk : Nat → List N → List (Step N) → Except E (List N)
  | 0 => fs.walkFrom fun _ _ => .error fs.tooManyLinks
  | links + 1 => fs.walkFrom (walk links)

def realpath (absolute : Bool) (steps : List (Step N)) : Except E (List N) :=
  fs.walk fs.maxLinks (if absolute then [] else fs.cwd) steps

/-! ## Canonical paths -/

/-- A directory, reached through directories only. -/
def Solid (path : List N) : Prop :=
  ∀ front, front <+: path → ∃ data, fs.find front = .ok (.dir data)

/-- What a path can resolve to: an object that is no link, in a directory of its own name. -/
structure Canonical (path : List N) : Prop where
  dirs : fs.Solid path.dropLast
  last : (∃ data, fs.find path = .ok (.dir data)) ∨ ∃ data, fs.find path = .ok (.leaf data)

variable {fs} {here path front : List N} {steps : List (Step N)}

theorem Solid.dropLast (hpath : fs.Solid path) : fs.Solid path.dropLast :=
  fun front hfront => hpath front (hfront.trans (List.dropLast_prefix path))

theorem Solid.canonical (hpath : fs.Solid path) : fs.Canonical path :=
  ⟨hpath.dropLast, .inl (hpath path List.prefix_rfl)⟩

theorem Solid.concat {name : N} {data : D} (hpath : fs.Solid path)
    (hdir : fs.find (path ++ [name]) = .ok (.dir data)) : fs.Solid (path ++ [name]) := by
  intro front hfront
  rcases List.prefix_concat_iff.mp hfront with hwhole | hinner
  · exact hwhole ▸ ⟨data, hdir⟩
  · exact hpath front hinner

theorem solid_nil : fs.Solid [] := by
  intro front hfront
  rw [List.prefix_nil.mp hfront]
  exact fs.cwd_dirs [] List.nil_prefix

theorem Canonical.solid {data : D} (hpath : fs.Canonical path)
    (hdir : fs.find path = .ok (.dir data)) : fs.Solid path := by
  rcases List.eq_nil_or_concat path with rfl | ⟨front, name, rfl⟩
  · exact solid_nil
  · have hfront := hpath.dirs
    rw [List.concat_eq_append, List.dropLast_concat] at hfront
    rw [List.concat_eq_append] at hdir ⊢
    exact hfront.concat hdir

/-- The directories above a canonical path are canonical themselves. -/
theorem Canonical.above (hpath : fs.Canonical path) (hfront : front <+: path) :
    fs.Canonical front := by
  rcases List.eq_nil_or_concat path with rfl | ⟨inner, name, rfl⟩
  · exact List.prefix_nil.mp hfront ▸ hpath
  · rw [List.concat_eq_append] at hfront
    rcases List.prefix_concat_iff.mp hfront with hwhole | hinner
    · rw [hwhole, ← List.concat_eq_append]
      exact hpath
    · have hdirs := hpath.dirs
      rw [List.concat_eq_append, List.dropLast_concat] at hdirs
      have hsolid : fs.Solid front := fun other hother => hdirs other (hother.trans hinner)
      exact hsolid.canonical

section Walk

variable {follow : List N → List (Step N) → Except E (List N)}

theorem walkFrom_canonical
    (hfollow : ∀ here steps, fs.Solid here → follow here steps = .ok path → fs.Canonical path)
    (hhere : fs.Solid here) (h : fs.walkFrom follow here steps = .ok path) :
    fs.Canonical path := by
  induction steps generalizing here with
  | nil =>
      rw [walkFrom] at h
      cases h
      exact hhere.canonical
  | cons step rest ih =>
      cases step with
      | up => exact ih hhere.dropLast h
      | name name =>
          rw [walkFrom] at h
          split at h
          · cases h
          · next data hdir => exact ih (hhere.concat hdir) h
          · next data hleaf =>
            split at h
            · cases h
              refine ⟨?_, .inr ⟨data, hleaf⟩⟩
              rw [List.dropLast_concat]
              exact hhere
            · cases h
          · next absolute target hlink =>
            refine hfollow _ _ ?_ h
            cases absolute
            · exact hhere
            · exact solid_nil

theorem walk_canonical {links : Nat} (hhere : fs.Solid here)
    (h : fs.walk links here steps = .ok path) : fs.Canonical path := by
  induction links generalizing here steps with
  | zero => exact walkFrom_canonical (fun _ _ _ hnone => by cases hnone) hhere h
  | succ links ih => exact walkFrom_canonical (fun _ _ hsolid hlater => ih hsolid hlater) hhere h

/-- Directories that are named one below the other are walked into. -/
theorem walkFrom_solid {inner : List N} (h : fs.Solid (here ++ inner)) :
    fs.walkFrom follow here (inner.map .name ++ steps) =
      fs.walkFrom follow (here ++ inner) steps := by
  induction inner generalizing here with
  | nil => simp
  | cons name inner ih =>
      have hsplit : here ++ name :: inner = here ++ [name] ++ inner := by simp
      rw [hsplit] at h ⊢
      obtain ⟨data, hdir⟩ := h (here ++ [name]) (List.prefix_append _ _)
      rw [List.map_cons, List.cons_append, walkFrom, hdir]
      exact ih h

/-- A canonical path resolves to itself. -/
theorem Canonical.walk (hpath : fs.Canonical path) (links : Nat) :
    fs.walk links [] (path.map .name) = .ok path := by
  have hself : ∀ follow, fs.walkFrom follow [] (path.map .name) = .ok path := by
    intro follow
    rcases hpath.last with ⟨data, hdir⟩ | ⟨data, hleaf⟩
    · have hsolid : fs.Solid ([] ++ path) := hpath.solid hdir
      rw [← List.append_nil (path.map Step.name), walkFrom_solid hsolid]
      rfl
    · rcases List.eq_nil_or_concat path with rfl | ⟨front, name, rfl⟩
      · rfl
      · have hfront : fs.Solid ([] ++ front) := by
          have hdirs := hpath.dirs
          rwa [List.concat_eq_append, List.dropLast_concat] at hdirs
        rw [List.concat_eq_append] at hleaf ⊢
        rw [List.map_append, walkFrom_solid hfront, List.map_singleton, List.nil_append, walkFrom,
          hleaf]
        rfl
  cases links <;> exact hself _

end Walk

theorem realpath_canonical {absolute : Bool} (h : fs.realpath absolute steps = .ok path) :
    fs.Canonical path := by
  refine walk_canonical ?_ h
  cases absolute
  · exact fs.cwd_dirs
  · exact solid_nil

theorem Canonical.realpath (hpath : fs.Canonical path) :
    fs.realpath true (path.map .name) = .ok path := hpath.walk fs.maxLinks

end FileSystem

end OddBox

import Mathlib

/-!
What the directory server of `custom_servers/directory.rs` reads: paths, the file tree and the
listing of a directory. The tree does not change.
-/

namespace OddBox.DirectoryServer

/-! ## Paths -/

def slash : Char := '/'

/-- The names between the slashes, without the empty ones and the dots. -/
def names (path : List Char) : List (List Char) :=
  (path.splitOn slash).filter fun name => name ≠ [] && name ≠ ['.']

/-- `Path::components`: the root, or a dot at the start, and the names behind it. -/
def components (path : List Char) : List (List Char) :=
  if path.head? = some slash then [slash] :: names path
  else if path.takeWhile (· ≠ slash) = ['.'] then ['.'] :: names path
  else names path

/-- `Path::starts_with`. -/
def startsWith (path dir : List Char) : Bool := (components dir).isPrefixOf (components path)

/-- The names of a requested path, which is taken from the directory of the site. -/
def relative (path : List Char) : List (List Char) :=
  if path.head? = some slash then (components path).tail else components path

/-- A path, from its end, without the slashes and dots that name nothing. -/
def trimBack : List Char → List Char
  | '/' :: rest => trimBack rest
  | '.' :: '/' :: rest => trimBack rest
  | text => text

/-- `Path::parent`, or the root. -/
def parent (path : List Char) : List Char :=
  match trimBack ((trimBack path.reverse).dropWhile (· ≠ slash)) with
  | [] => if path.head? = some slash then [slash] else []
  | text => text.reverse

/-- `Path::extension`: what is behind the last dot of a name that does not start with it. -/
def extension (path : List Char) : Option (List Char) :=
  match (components path).getLast? with
  | none => none
  | some name =>
    match name.reverse.dropWhile (· ≠ '.') with
    | '.' :: _ :: _ => some (name.reverse.takeWhile (· ≠ '.')).reverse
    | _ => none

theorem names_concat (path : List Char) : names (path ++ [slash]) = names path := by
  have hsplit : (path ++ [slash]).splitOn slash = path.splitOn slash ++ [[]] :=
    List.splitOn_append_cons_self path []
  rw [names, hsplit, List.filter_append]
  exact List.append_nil _

theorem relative_concat (path : List Char) : relative (path ++ [slash]) = relative path := by
  cases path with
  | nil => decide
  | cons c rest =>
    have hhead : (c :: rest ++ [slash]).head? = (c :: rest).head? := rfl
    have hfirst : (c :: rest ++ [slash]).takeWhile (· ≠ slash) =
        (c :: rest).takeWhile (· ≠ slash) := by
      rw [List.takeWhile_append]
      split
      · rename_i hall
        rw [(List.takeWhile_prefix _).eq_of_length hall]
        exact List.append_nil _
      · rfl
    simp only [relative, components, hhead, hfirst, names_concat]

/-- Slashes at the end of a requested path name nothing. -/
theorem relative_rdropWhile (path : List Char) :
    relative (path.rdropWhile (· = slash)) = relative path := by
  induction path using List.reverseRecOn with
  | nil => rfl
  | append_singleton path c ih =>
    by_cases hslash : c = slash
    · rw [hslash, List.rdropWhile_concat_pos _ _ _ (by decide), ih, relative_concat]
    · rw [List.rdropWhile_concat_neg _ _ _ (by simpa using hslash)]

/-! ## The file tree -/

/-- An entry that `read_dir` gives, with its metadata if it can be read. -/
structure DirEntry where
  fileName : String
  metadata : Except String (Bool × Nat)

/-- What a path of the tree names. A file has its modification time in nanoseconds from the
epoch, and is read as a whole or not at all; a directory has its entries, or the error of
reading them with its context. -/
inductive Node where
  | file (bytes : List UInt8) (modified : Option Int) (readError : Option String)
  | dir (entries : Except String (List DirEntry))
  | other

inductive CanonicalizeError where
  | notFound
  | io (text : String)

structure FileTree where
  /-- The canonical path of some names below a directory. -/
  canonicalize : List Char → List (List Char) → Except CanonicalizeError (List Char)
  node : List Char → Option Node

def FileTree.isFile (tree : FileTree) (path : List Char) : Bool :=
  match tree.node path with
  | some (.file _ _ _) => true
  | _ => false

/-- `dir.join(name)`. -/
def join (dir : List Char) (name : String) : List Char := dir ++ slash :: name.toList

/-! ## Listings -/

/-- Functions of the standard library, and a number format with floating point, on texts. -/
structure Texts where
  toLowercase : String → String
  fmtSize : Nat → String
  /-- The head of every listing, with its style. -/
  listingHead : String

def icons : List (String × String) :=
  [("png", "🖼️"), ("jpg", "🖼️"), ("jpeg", "🖼️"), ("gif", "🖼️"), ("bmp", "🖼️"), ("txt", "📄"),
    ("md", "📝"), ("html", "🌐"), ("css", "🎨"), ("js", "📜"), ("json", "📄"), ("rs", "🦀"),
    ("py", "🐍"), ("java", "☕"), ("c", "📘"), ("cpp", "📘"), ("cs", "💻"), ("pdf", "📕"),
    ("zip", "📦"), ("tar", "📦"), ("gz", "📦"), ("mp3", "🎵"), ("mp4", "🎥"), ("wav", "🎶"),
    ("doc", "📄"), ("docx", "📄"), ("xls", "📊"), ("xlsx", "📊")]

def icon (ext : String) : String := (icons.lookup ext).getD "📄"

def DirEntry.isDir (self : DirEntry) : Bool :=
  match self.metadata with
  | .ok (isDir, _) => isDir
  | .error _ => false

/-- Directories come first, and then the names in lower case decide. -/
def DirEntry.le (texts : Texts) (a b : DirEntry) : Bool :=
  match a.isDir, b.isDir with
  | true, false => true
  | false, true => false
  | _, _ => decide (texts.toLowercase a.fileName ≤ texts.toLowercase b.fileName)

/-- The line of an entry. The extension is what is behind the last dot, or the whole name. -/
def listingLine (texts : Texts) (reqPath : String) (entry : DirEntry) : Except String String := do
  let (isDir, size) ← entry.metadata
  let name := entry.fileName
  let href := reqPath ++ name
  if isDir then
    .ok ("<li><span class=icon>📁</span><a href=\"" ++ href ++ "/\">" ++ name ++ "/</a></li>")
  else
    let ext := String.ofList (name.toList.reverse.takeWhile (· ≠ '.')).reverse
    .ok ("<li><span class=icon>" ++ icon ext ++ "</span><a href=\"" ++ href ++ "\">" ++ name ++
      "</a><span class=size>(" ++ texts.fmtSize size ++ ")</span></li>")

def buildDirListing (texts : Texts) (entries : Except String (List DirEntry))
    (reqPath : String) : Except String String := do
  let entries ← entries.mapError fun e => "io::" ++ e
  let sorted := entries.mergeSort (DirEntry.le texts)
  let up :=
    if reqPath ≠ "/" then
      "<li><span class=icon>📁</span><a href=\"" ++ String.ofList (parent reqPath.toList) ++
        "\">.. (parent)</a></li>"
    else ""
  let lines ← (sorted.mapM (listingLine texts reqPath)).mapError fun e =>
    "io::metadata failed: " ++ e
  .ok (texts.listingHead ++ up ++ String.join lines ++ "</ul>")

end OddBox.DirectoryServer

import ShopSync.Keyed
import ShopSync.Dialogue

/-!
Folders and text files by their ways: the names on the way from the root.

A path that begins with a slash begins at the root, any other one at a folder of its own.  A single
point stays where it is and two points lead back, at the root to the root.  Every part of a path
but the last has to be a folder, and so has the last one when a slash follows it.
-/

namespace ShopSync

/-- Folders and files. -/
structure FileTree where
  /-- The contents of the files. -/
  files : List (List String × String) := []
  /-- The folders other than the root. -/
  folders : List (List String) := []
  /-- The folder where paths begin that have no slash in front. -/
  here : List String := []
deriving DecidableEq, Repr

namespace FileTree

/-- What stands at the end of a way. -/
inductive Node where
  | folder
  | file (content : String)
deriving DecidableEq, Repr

/-- The folder or the file at the end of a way. -/
def node? (tree : FileTree) (way : List String) : Option Node :=
  if way.isEmpty || tree.folders.contains way then some .folder
  else (Keyed.get? way tree.files).map .file

/-! ### Paths -/

/-- The most bytes in a name. -/
def nameLimit : Nat := 255

/-- The bytes that are too many for a path. -/
def pathLimit : Nat := 4096

/-- The parts of a path; repeated slashes do not count. -/
def parts (path : String) : List String :=
  (path.splitOn "/").filter (· ≠ "")

/-- Whether a path can only lead to a folder. -/
def endsAsFolder (path : String) : Bool := path.endsWith "/"

/-- Where a path begins. -/
def start (tree : FileTree) (path : String) : List String :=
  if path.startsWith "/" then [] else tree.here

/-- The way that is one part longer, out of a folder. -/
def step (tree : FileTree) (way : List String) (part : String) :
    Except FileError (List String) :=
  match tree.node? way with
  | none => .error .missing
  | some (.file _) => .error .notDirectory
  | some .folder =>
    if part = "." then .ok way
    else if part = ".." then .ok way.dropLast
    else if nameLimit < part.utf8ByteSize then .error .nameTooLong
    else .ok (way ++ [part])

/-- Refuses what is no path. -/
def checkPath (path : String) : Except FileError Unit :=
  if path.contains '\x00' then .error .nulInName
  else if path.isEmpty then .error .missing
  else if pathLimit ≤ path.utf8ByteSize then .error .nameTooLong
  else .ok ()

/-- The way of a path; nothing need stand at its end. -/
def way (tree : FileTree) (path : String) : Except FileError (List String) := do
  checkPath path
  let rest := if endsAsFolder path then ["."] else []
  (parts path ++ rest).foldlM tree.step (tree.start path)

/-! ### Operations -/

/-- Whether a path leads to something. -/
def has (tree : FileTree) (path : String) : Bool :=
  match tree.way path with
  | .ok way => (tree.node? way).isSome
  | .error _ => false

/-- Reads a file. -/
def read (tree : FileTree) (path : String) : Except FileError String := do
  match tree.node? (← tree.way path) with
  | none => .error .missing
  | some .folder => .error .directory
  | some (.file content) => .ok content

/-- The tree with a file written, which may be a new one, or why it cannot be. -/
def write (tree : FileTree) (path content : String) : Except FileError FileTree := do
  checkPath path
  match (parts path).getLast? with
  | none => .error .directory
  | some name => do
    let folder ← (parts path).dropLast.foldlM tree.step (tree.start path)
    let folder ← tree.step folder "."
    if endsAsFolder path then .error .directory
    else
      let way ← tree.step folder name
      if tree.node? way = some .folder then .error .directory
      else .ok { tree with files := Keyed.put way content tree.files }

/-! ### Working folders -/

/-- The folders at the root of a system. -/
def systemFolders : List String :=
  ["bin", "boot", "dev", "etc", "home", "lib", "media", "mnt", "opt", "proc", "root", "run", "sbin",
    "srv", "sys", "tmp", "usr", "var"]

/-- Files in a working folder of their own on a system that holds little else. -/
def ofFiles (files : List (String × String)) : FileTree where
  files :=
    [(["dev", "null"], ""), (["etc", "passwd"], "root:x:0:0:root:/root:/bin/sh\n")] ++
      files.map fun (name, content) => (["tmp", "work", name], content)
  folders := ["tmp", "work"] :: systemFolders.map fun name => [name]
  here := ["tmp", "work"]

end FileTree

end ShopSync

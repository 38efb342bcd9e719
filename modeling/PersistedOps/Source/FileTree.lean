import PersistedOps.Path

/-!
A file system of directories and files, without links. Places in it are lists of names, from the root
on.
-/

namespace PersistedOps

/-- Files by location, and directories that are there besides those that hold files. -/
structure FileTree where
  files : List (List String × ByteArray)
  directories : List (List String)
deriving Inhabited

namespace FileTree

/-- What stands at a place. A place below a file is no place at all. -/
inductive Entry where
  | file (content : ByteArray)
  | directory
  | missing
  | belowFile

def file? (t : FileTree) (location : List String) : Option ByteArray := t.files.lookup location

/-- A directory is one listed, or one above a file or another directory. -/
def isDirectory (t : FileTree) (location : List String) : Bool :=
  location.isEmpty || t.directories.any (location.isPrefixOf ·)
    || t.files.any fun f => location.isPrefixOf f.1 && location != f.1

def entry (t : FileTree) (location : List String) : Entry :=
  match t.file? location with
  | some content => .file content
  | none => if t.isDirectory location then .directory else .missing

/-- Walks names from a place; every place on the way must be a directory. -/
def walk (t : FileTree) (location : List String) : List String → Entry × List String
  | [] => (t.entry location, location)
  | name :: rest => match t.entry location with
    | .directory => walk t (if name = ".." then location.dropLast else location ++ [name]) rest
    | .missing => (.missing, location)
    | _ => (.belowFile, location)

/-- The names of a path that matter for a walk. -/
def stepNames (path : String) : List String :=
  (Path.components path).filter fun name => name ≠ "" ∧ name ≠ "."

/-- Where a path begins: a rooted one at the root. -/
def origin (directory : List String) (path : String) : List String :=
  if Path.isRooted path then [] else directory

/-- What a path taken from a directory leads to. -/
def find (t : FileTree) (directory : List String) (path : String) : Entry :=
  (t.walk (origin directory path) (stepNames path)).1

def isFile (t : FileTree) (directory : List String) (path : String) : Bool :=
  match t.find directory path with
  | .file _ => true
  | _ => false

/-! Writing -/

/-- Makes a directory unless it is there; `none` when a file stands in the way. -/
def ensureDirectory (t : FileTree) (location : List String) : Option FileTree :=
  match t.entry location with
  | .directory => some t
  | .missing => some { t with directories := location :: t.directories }
  | _ => none

/-- Makes the directories that names lead through, and gives the last one. -/
def makeDirectories (t : FileTree) (location : List String) :
    List String → Option (FileTree × List String)
  | [] => (t.ensureDirectory location).map (·, location)
  | name :: rest => do
    let t ← t.ensureDirectory location
    makeDirectories t (if name = ".." then location.dropLast else location ++ [name]) rest

/-- Puts a file at a place. -/
def put (t : FileTree) (location : List String) (content : ByteArray) : FileTree :=
  { t with files := (location, content) :: t.files.filter fun f => f.1 ≠ location }

/-- Writes a file at a path taken from a directory, with the directories above it; `none` when a file
or a directory stands in the way. -/
def write (t : FileTree) (directory : List String) (path : String) (content : ByteArray) :
    Option FileTree := do
  let names := stepNames path
  let (t, parent) ← t.makeDirectories (origin directory path) names.dropLast
  let name ← names.getLast?
  if name = ".." then none
  let location := parent ++ [name]
  match t.entry location with
  | .directory | .belowFile => none
  | _ => some (t.put location content)

/-- The place that a path names by its text alone. -/
def absolute (directory : List String) (path : String) : List String :=
  Path.walk true (origin directory path ++ Path.components path)

/-- The path from a directory down to a place at or below it. -/
def relative? (directory location : List String) : Option String :=
  if directory.isPrefixOf location then
    let path := Path.ofComponents (location.drop directory.length)
    some (if path = "" then "." else path)
  else none

/-- A place as a path from the root. -/
def display (location : List String) : String := "/" ++ Path.ofComponents location

end FileTree

end PersistedOps

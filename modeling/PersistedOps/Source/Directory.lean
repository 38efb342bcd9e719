import PersistedOps.Source.FileTree
import PersistedOps.Source.Memory

/-!
Units in the files below a directory.
-/

namespace PersistedOps

structure DirectorySource where
  tree : FileTree
  root : List String
deriving Inhabited

namespace DirectorySource

/-- Line ends of all three sorts become `\n`. -/
def unifyLines : List Char → List Char
  | [] => []
  | '\r' :: '\n' :: rest => '\n' :: unifyLines rest
  | c :: rest => (if c = '\r' then '\n' else c) :: unifyLines rest

/-- The text of a file. -/
def decode (content : ByteArray) : Option String :=
  (String.fromUTF8? content).map fun text => String.ofList (unifyLines text.toList)

def locate (d : DirectorySource) (reference : String) (issuer : Option String) :
    Except Failure String :=
  Reference.locate (d.tree.isFile d.root) reference issuer

def read (d : DirectorySource) (path : String) : Except Failure String :=
  match d.tree.find d.root path with
  | .file content => match decode content with
    | some text => .ok text
    | none => .error .unexpected
  | .missing => .error (.unitNotFound path none)
  | _ => .error .unexpected

/-- All files below the root. -/
def paths (d : DirectorySource) : List String :=
  d.tree.files.filterMap fun f => FileTree.relative? d.root f.1

instance : UnitSource DirectorySource := ⟨locate, read, paths⟩

/-- The path of a file below the root, in the form in which references are located. A path with a null
character names no file. -/
def relative? (d : DirectorySource) (directory : List String) (path : String) : Option String :=
  if '\x00' ∈ path.toList then none
  else FileTree.relative? d.root (FileTree.absolute directory path)

end DirectorySource

end PersistedOps

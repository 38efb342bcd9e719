import PersistedOps.Text.Pieces

/-!
Slash-separated paths: their components, their normal form, and references taken relative to a
directory.
-/

namespace PersistedOps.Path

/-- The components of a path, empty ones included. -/
def components (path : String) : List String :=
  (Text.pieces '/' path.toList).map String.ofList

/-- Components joined by slashes. -/
def ofComponents (names : List String) : String := String.intercalate "/" names

/-- One component walked from a stack of names, innermost first. A rooted walk stays at the root;
a free one keeps the leading parent steps that it cannot take. -/
def walkStep (rooted : Bool) (stack : List String) (name : String) : List String :=
  if name = "" ∨ name = "." then stack
  else if name ≠ ".." then name :: stack
  else match stack with
    | [] => if rooted then [] else [".."]
    | top :: rest => if top = ".." then ".." :: top :: rest else rest

/-- The names left after walking all components, outermost first. -/
def walk (rooted : Bool) (names : List String) : List String :=
  (names.foldl (walkStep rooted) []).reverse

/-- How many slashes a normal path keeps in front: two stay two, three or more become one. -/
def leadingSlashes (path : String) : Nat :=
  match path.toList with
  | '/' :: '/' :: '/' :: _ => 1
  | '/' :: '/' :: _ => 2
  | '/' :: _ => 1
  | _ => 0

def isRooted (path : String) : Bool := leadingSlashes path != 0

/-- The normal form: no empty, `.` or avoidable `..` component; the empty path is `.`. -/
def normalize (path : String) : String :=
  let names := walk (isRooted path) (components path)
  let front := String.ofList (List.replicate (leadingSlashes path) '/')
  let normal := front ++ ofComponents names
  if normal = "" then "." else normal

/-- Text after the last slash, in reverse, and the text up to and with that slash, in reverse. -/
def splitLast (reversed : List Char) : List Char × List Char :=
  (reversed.takeWhile (· ≠ '/'), reversed.dropWhile (· ≠ '/'))

/-- The directory part of a path, without the slashes that end it unless it is all slashes. -/
def directory (path : String) : String :=
  let head := (splitLast path.toList.reverse).2
  let trimmed := head.dropWhile (· = '/')
  String.ofList (if trimmed.isEmpty then head else trimmed).reverse

/-- Puts a path under a base; a base that is empty or ends in a slash takes no further one. -/
def join (base path : String) : String :=
  if base = "" ∨ base.toList.getLast? = some '/' then base ++ path else base ++ "/" ++ path

/-- A path without its leading slashes. -/
def dropLeadingSlashes (path : String) : String :=
  String.ofList (path.toList.dropWhile (· = '/'))

/-- Whether a normal path leaves the directory it is relative to. -/
def escapes (path : String) : Bool :=
  path == ".." || "../".toList.isPrefixOf path.toList

end PersistedOps.Path

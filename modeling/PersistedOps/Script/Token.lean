import PersistedOps.Number.Binary64

/-!
The tokens of the unit language.
-/

namespace PersistedOps.Script

/-- A written number. An integer of too many decimal digits is a token that no expression takes. -/
inductive Numeral where
  | int (n : Nat)
  | float (x : Binary64)
  | imaginary
  | tooLong
deriving DecidableEq, Repr

/-- What stands in front of a string literal. -/
structure TextFlags where
  raw : Bool := false
  bytes : Bool := false
  format : Bool := false
deriving DecidableEq, Repr, Inhabited

inductive TokenKind where
  | keyword (word : String)
  | name (identifier : String)
  | number (value : Numeral)
  | text (flags : TextFlags) (body : List Char)
  | sign (spelling : String)
  | newline
  | indent
  | dedent
  | finish
deriving DecidableEq, Repr

/-- A token, the line it begins on, and how many brackets are open behind it. -/
structure Token where
  kind : TokenKind
  line : Nat
  depth : Nat
deriving DecidableEq, Repr

/-- Names that are words of the language. -/
def keywords : List String := [
  "False", "None", "True", "and", "as", "assert", "async", "await", "break", "class", "continue",
  "def", "del", "elif", "else", "except", "finally", "for", "from", "global", "if", "import", "in",
  "is", "lambda", "nonlocal", "not", "or", "pass", "raise", "return", "try", "while", "with",
  "yield"]

end PersistedOps.Script

import PersistedOps.Text.Printable

/-!
Strings shown in quotes: single quotes, unless the text has a single quote and no double one.
-/

namespace PersistedOps.Quoted

/-- The quote a text is shown in. -/
def quoteFor (s : List Char) : Char :=
  if s.contains '\'' && !s.contains '"' then '"' else '\''

/-- One shown character: quotes and backslashes escaped, and all that cannot be printed. -/
def showChar (quote c : Char) : List Char :=
  if c = quote ∨ c = '\\' then ['\\', c]
  else if c = '\n' then ['\\', 'n']
  else if c = '\r' then ['\\', 'r']
  else if c = '\t' then ['\\', 't']
  else if Text.isPrintable c then [c]
  else if c.toNat < 0x100 then '\\' :: 'x' :: Hex.ofNat 2 c.toNat
  else if c.toNat < 0x10000 then '\\' :: 'u' :: Hex.ofNat 4 c.toNat
  else '\\' :: 'U' :: Hex.ofNat 8 c.toNat

/-- Code points that are half of a pair and stand for no character alone. -/
def isSurrogate (n : Nat) : Bool := 0xd800 ≤ n && n < 0xe000

/-- One shown code point; a surrogate cannot be printed. -/
def showPoint (quote : Char) (n : Nat) : List Char :=
  if isSurrogate n then '\\' :: 'u' :: Hex.ofNat 4 n else showChar quote (Char.ofNat n)

/-- Code points in quotes. -/
def ofPoints (points : List Nat) : String :=
  let quote := quoteFor (points.map Char.ofNat)
  String.ofList (quote :: points.flatMap (showPoint quote) ++ [quote])

/-- A string in quotes. -/
def ofText (s : String) : String :=
  let quote := quoteFor s.toList
  String.ofList (quote :: s.toList.flatMap (showChar quote) ++ [quote])

end PersistedOps.Quoted

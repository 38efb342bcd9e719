import PersistedOps.Document.Signature
import PersistedOps.Text.Hex

/-!
The lexical grammar of GraphQL. A text is read from the left, always the longest token; blanks, line
ends, commas, comments and the byte order mark stand between tokens and mean nothing else. The value
of an ordinary string is read, a block string is kept as it stands between its quotes.
-/

namespace PersistedOps.Lexer

inductive Token where
  | punctuator (c : Char)
  | spread
  | name (n : String)
  | int (number : String)
  | float (number : String)
  | string (value : String)
  | block (raw : String)
deriving DecidableEq, Repr

/-- The values of ordinary strings. -/
def Token.strings (tokens : List Token) : List String :=
  tokens.filterMap fun
    | .string s => some s
    | _ => none

/-- What separates tokens, comments apart. -/
def isIgnored (c : Char) : Bool := [' ', '\t', '\n', '\r', ',', '\ufeff'].contains c

def isLineEnd (c : Char) : Bool := c == '\n' || c == '\r'

def isPunctuator (c : Char) : Bool :=
  ['!', '$', '&', '(', ')', ':', '=', '@', '[', ']', '\x7b', '|', '\x7d'].contains c

/-- What a name begins with; digits may follow. -/
def isNameStart (c : Char) : Bool := c.isAlpha || c == '_'

/-! ### Numbers -/

/-- One digit or more. -/
def digits (cs : List Char) : Option (List Char × List Char) :=
  match cs.takeWhile Char.isDigit with
  | [] => none
  | ds => some (ds, cs.dropWhile Char.isDigit)

/-- Digits that do not begin with a zero, or a zero. -/
def whole : List Char → Option (List Char × List Char)
  | '0' :: rest => if rest.head?.any Char.isDigit then none else some (['0'], rest)
  | cs => digits cs

/-- A point and digits, unless there is no point. -/
def fraction : List Char → Option (List Char × List Char)
  | '.' :: rest => (digits rest).map fun (ds, rest) => ('.' :: ds, rest)
  | cs => some ([], cs)

/-- The sign of a number, if one of the signs is in front. -/
def sign (signs : List Char) : List Char → List Char × List Char
  | c :: rest => if signs.contains c then ([c], rest) else ([], c :: rest)
  | [] => ([], [])

/-- The letter e and digits behind a sign or none, unless there is no such letter. -/
def exponent : List Char → Option (List Char × List Char)
  | c :: rest =>
    if c == 'e' || c == 'E' then
      let (s, rest) := sign ['+', '-'] rest
      (digits rest).map fun (ds, rest) => (c :: s ++ ds, rest)
    else some ([], c :: rest)
  | [] => some ([], [])

/-- A number. No point and no name may follow. -/
def number (cs : List Char) : Option (Token × List Char) := do
  let (minus, cs) := sign ['-'] cs
  let (ds, cs) ← whole cs
  let (fs, cs) ← fraction cs
  let (es, cs) ← exponent cs
  if cs.head?.any fun c => c == '.' || isNameStart c then none
  else
    let text := String.ofList (minus ++ ds ++ fs ++ es)
    return (if fs.isEmpty && es.isEmpty then .int text else .float text, cs)

/-! ### Strings -/

/-- The character of a two-character escape. -/
def short? : Char → Option Char
  | '"' => some '"'
  | '\\' => some '\\'
  | '/' => some '/'
  | 'b' => some '\x08'
  | 'f' => some '\x0c'
  | 'n' => some '\n'
  | 'r' => some '\r'
  | 't' => some '\t'
  | _ => none

/-- The character of a number that is no surrogate. -/
def scalar? (n : Nat) : Option Char := if n.isValidChar then some (Char.ofNat n) else none

/-- The number that four hexadecimal digits denote. -/
def quad? : List Char → Option (Nat × List Char)
  | a :: b :: c :: d :: rest => (Hex.toNat? [a, b, c, d]).map (·, rest)
  | _ => none

/-- The trail surrogate behind a lead surrogate, and the character of both. -/
def trail? (lead : Nat) : List Char → Option (Char × List Char)
  | '\\' :: 'u' :: rest => do
    let (n, rest) ← quad? rest
    if 0xdc00 ≤ n && n < 0xe000 then
      (scalar? (0x10000 + (lead - 0xd800) * 0x400 + (n - 0xdc00))).map (·, rest)
    else none
  | _ => none

/-- The character of an escape, behind the backslash. -/
def escaped? : List Char → Option (Char × List Char)
  | 'u' :: '\x7b' :: rest =>
    match rest.takeWhile (· ≠ '\x7d'), rest.dropWhile (· ≠ '\x7d') with
    | d :: ds, _ :: rest => do (scalar? (← Hex.toNat? (d :: ds))).map (·, rest)
    | _, _ => none
  | 'u' :: rest => do
    let (n, rest) ← quad? rest
    if 0xd800 ≤ n && n < 0xdc00 then trail? n rest else (scalar? n).map (·, rest)
  | c :: rest => (short? c).map (·, rest)
  | [] => none

/-- A character of an ordinary string. -/
def character? : List Char → Option (Char × List Char)
  | '\\' :: rest => escaped? rest
  | c :: rest => if c == '"' || isLineEnd c then none else some (c, rest)
  | [] => none

/-- The value of an ordinary string, behind the opening quote. It has at most `fuel` characters. -/
def quoted : (fuel : Nat) → List Char → Option (List Char × List Char)
  | _, '"' :: rest => some ([], rest)
  | 0, _ => none
  | fuel + 1, cs => do
    let (c, rest) ← character? cs
    let (s, rest) ← quoted fuel rest
    return (c :: s, rest)

/-- What a block string holds, behind the opening quotes. Three quotes are escaped together. -/
def blockQuoted : List Char → Option (List Char × List Char)
  | '\\' :: '"' :: '"' :: '"' :: rest =>
    (blockQuoted rest).map fun (s, rest) => ('"' :: '"' :: '"' :: s, rest)
  | '"' :: '"' :: '"' :: rest => some ([], rest)
  | c :: rest => (blockQuoted rest).map fun (s, rest) => (c :: s, rest)
  | [] => none

/-! ### Tokens -/

/-- The token in front. -/
def token : List Char → Option (Token × List Char)
  | '"' :: '"' :: '"' :: rest => (blockQuoted rest).map fun (s, rest) => (.block (String.ofList s), rest)
  | '"' :: rest => (quoted rest.length rest).map fun (s, rest) => (.string (String.ofList s), rest)
  | '.' :: '.' :: '.' :: rest => some (.spread, rest)
  | c :: rest =>
    if isPunctuator c then some (.punctuator c, rest)
    else if isNameStart c then
      some (.name (String.ofList ((c :: rest).takeWhile Signature.isWord)),
        (c :: rest).dropWhile Signature.isWord)
    else if c == '-' || c.isDigit then number (c :: rest)
    else none
  | [] => none

/-- The tokens of a text of at most `fuel` characters, unless there is something else in it. -/
def lexFrom : (fuel : Nat) → List Char → Option (List Token)
  | _, [] => some []
  | 0, _ => none
  | fuel + 1, c :: cs =>
    if isIgnored c then lexFrom fuel cs
    else if c == '#' then lexFrom fuel (cs.dropWhile (!isLineEnd ·))
    else do
      let (t, rest) ← token (c :: cs)
      return t :: (← lexFrom fuel rest)

/-- The tokens of a text. -/
def lex (text : String) : Option (List Token) := lexFrom text.toList.length text.toList

end PersistedOps.Lexer

import PersistedOps.Script.Numeral
import PersistedOps.Text.Identifier
import PersistedOps.Text.Normalization

/-!
Unit sources cut into tokens. Indentation is told by tokens of its own, line ends inside brackets are
blanks, and every source ends in a line end.
-/

namespace PersistedOps.Script

/-- A place in a source: what is left to read, the line, the open blocks' indentations (innermost
first; each by its column with tabs to the next eighth column, and with tabs as one), and the open
brackets with their lines. -/
structure Cursor where
  rest : List Char
  line : Nat
  indents : List (Nat × Nat)
  brackets : List (Char × Nat)
deriving Repr

/-- A token at a place. -/
def Cursor.token (c : Cursor) (kind : TokenKind) : Token := ⟨kind, c.line, c.brackets.length⟩

/-- How the reading of tokens ends. A `rejected` source is no unit wherever the grammar stands; a
`stuck` one fails only a grammar that asks for the next token, and so does one that is `unfinished`
because its text ends too early. -/
inductive Ending where
  | complete
  | rejected (line : Nat)
  | stuck (line : Nat)
  | unfinished (line : Nat)
deriving DecidableEq, Repr

/-- The tokens of a source, how they end, and the line of the innermost bracket open at that point. -/
structure Lexed where
  tokens : List Token
  ending : Ending
  openLine : Option Nat
deriving Repr

/-- One step of reading: tokens and a new place, or the end. -/
inductive Step where
  | more (tokens : List Token) (next : Cursor) (fresh : Bool)
  | last (tokens : List Token) (ending : Ending)

namespace Lexer

/-- Nesting deeper than this is refused. -/
def maxBrackets : Nat := 200

/-- More open blocks than this are refused. -/
def maxIndents : Nat := 99

/-- Line ends of all three sorts become `\n`, and the last line gets one if it has none. -/
def normalizeLines : List Char → List Char
  | [] => []
  | ['\r'] | ['\n'] => ['\n']
  | [c] => [c, '\n']
  | '\r' :: '\n' :: rest => '\n' :: normalizeLines rest
  | '\r' :: c :: rest => '\n' :: normalizeLines (c :: rest)
  | c :: d :: rest => c :: normalizeLines (d :: rest)

/-! Line beginnings -/

/-- The indentation of a line: its two columns and what follows them. -/
structure Margin where
  column : Nat
  narrow : Nat
  /-- The column of the first line of several that backslashes join; zero when there is none. -/
  joined : Nat
  rest : List Char
  line : Nat

/-- Reads the blanks at the beginning of a line. A backslash there that joins nothing ends the
reading. -/
def scanMargin (column narrow joined line : Nat) : List Char → Except Ending Margin
  | ' ' :: rest => scanMargin (column + 1) (narrow + 1) joined line rest
  | '\t' :: rest => scanMargin ((column / 8 + 1) * 8) (narrow + 1) joined line rest
  | '\x0c' :: rest => scanMargin 0 0 joined line rest
  | '\\' :: '\n' :: c :: rest =>
    scanMargin column narrow (if joined = 0 then column else joined) (line + 1) (c :: rest)
  | ['\\', '\n'] => .error (.unfinished line)
  | '\\' :: _ => .error (.stuck line)
  | rest => .ok ⟨column, narrow, joined, rest, line⟩

/-- Blocks closed by a line of the given column, and those left open. -/
def closeBlocks (column : Nat) : List (Nat × Nat) → Nat × List (Nat × Nat)
  | [] => (0, [])
  | (c, n) :: outer =>
    if column < c then
      let (count, left) := closeBlocks column outer
      (count + 1, left)
    else (0, (c, n) :: outer)

/-- The indentation of the innermost open block. -/
def innermost (indents : List (Nat × Nat)) : Nat × Nat := indents.headD (0, 0)

/-- The tokens of a line's indentation; `none` when it fits no open block. -/
def indentation (c : Cursor) (column narrow : Nat) : Option (List Token × List (Nat × Nat)) :=
  let (inner, innerNarrow) := innermost c.indents
  if column = inner then
    if narrow = innerNarrow then some ([], c.indents) else none
  else if inner < column then
    if c.indents.length + 1 ≤ maxIndents ∧ innerNarrow < narrow then
      some ([c.token .indent], (column, narrow) :: c.indents)
    else none
  else
    let (count, left) := closeBlocks column c.indents
    if innermost left = (column, narrow) then
      some (List.replicate count (c.token .dedent), left)
    else none

/-- The end of a source: open blocks end and the last token comes, all on the last line. -/
def finish (c : Cursor) : Step :=
  let c := { c with line := c.line - 1 }
  if c.brackets.isEmpty then
    .last (List.replicate c.indents.length (c.token .dedent) ++ [c.token .finish]) .complete
  else .last [] (.unfinished c.line)

/-- A step at the beginning of a line. Blank lines and lines of a comment alone have no indentation,
and neither have lines inside brackets. -/
def stepFresh (c : Cursor) : Step :=
  match scanMargin 0 0 0 c.line c.rest with
  | .error ending => .last [] ending
  | .ok margin =>
    let c := { c with rest := margin.rest, line := margin.line }
    match c.rest with
    | [] => finish c
    | first :: _ =>
      if first = '#' ∨ first = '\n' then
        let after := c.rest.dropWhile (· ≠ '\n')
        .more [] { c with rest := after.drop 1, line := c.line + 1 } true
      else if !c.brackets.isEmpty then .more [] c false
      else
        let (column, narrow) := if margin.joined = 0 then (margin.column, margin.narrow)
          else (margin.joined, margin.joined)
        match indentation c column narrow with
        | some (tokens, indents) => .more tokens { c with indents } false
        | none => .last [] (.stuck c.line)

/-! Tokens -/

/-- A quoted run up to its closing quote on the same line. -/
def scanShort (quote : Char) : List Char → Option (List Char × List Char)
  | [] => none
  | '\\' :: c :: rest => (scanShort quote rest).map fun (body, more) => ('\\' :: c :: body, more)
  | c :: rest =>
    if c = quote then some ([], rest)
    else if c = '\n' then none
    else (scanShort quote rest).map fun (body, more) => (c :: body, more)

/-- A quoted run up to three quotes. -/
def scanLong (quote : Char) : List Char → Option (List Char × List Char)
  | [] => none
  | '\\' :: c :: rest => (scanLong quote rest).map fun (body, more) => ('\\' :: c :: body, more)
  | c :: rest =>
    match rest with
    | d :: e :: after =>
      if c = quote ∧ d = quote ∧ e = quote then some ([], after)
      else (scanLong quote rest).map fun (body, more) => (c :: body, more)
    | _ => (scanLong quote rest).map fun (body, more) => (c :: body, more)

/-- The body of a literal whose opening quote is at the front. -/
def scanQuoted (cs : List Char) : Option (List Char × List Char) :=
  match cs with
  | q :: a :: b :: rest =>
    if a = q ∧ b = q then scanLong q rest else scanShort q (a :: b :: rest)
  | q :: rest => scanShort q rest
  | [] => none

/-- The flag that a letter in front of a literal sets, if the flags so far allow it. -/
def flag? (flags : TextFlags) (plain : Bool) (c : Char) : Option (TextFlags × Bool) :=
  if c = 'b' ∨ c = 'B' then
    if !flags.bytes && !flags.format && plain then some ({ flags with bytes := true }, plain)
    else none
  else if c = 'u' ∨ c = 'U' then
    if flags = {} ∧ plain then some (flags, false) else none
  else if c = 'r' ∨ c = 'R' then
    if !flags.raw && plain then some ({ flags with raw := true }, plain) else none
  else if c = 'f' ∨ c = 'F' then
    if !flags.bytes && !flags.format && plain then some ({ flags with format := true }, plain)
    else none
  else none

/-- The flags of a literal and what follows them, when a quote does. -/
def scanFlags (flags : TextFlags) (plain : Bool) : List Char → Option (TextFlags × List Char)
  | [] => none
  | c :: rest =>
    if c = '"' ∨ c = '\'' then some (flags, c :: rest)
    else match flag? flags plain c with
      | some (flags, plain) => scanFlags flags plain rest
      | none => none

/-- Signs of three, two and one characters. -/
def longSigns : List String := ["...", "**=", "//=", ">>=", "<<="]

def pairSigns : List String := [
  "!=", "%=", "&=", "**", "*=", "+=", "-=", "->", "//", "/=", ":=", "<<", "<=", "<>", "==", ">=",
  ">>", "@=", "^=", "|="]

/-- The sign at the front and what follows it. -/
def scanSign (cs : List Char) : Option (String × List Char) :=
  match (longSigns ++ pairSigns).find? fun s => s.toList.isPrefixOf cs with
  | some s => some (s, cs.drop s.length)
  | none => match cs with
    | c :: rest => if 0x20 ≤ c.toNat ∧ c.toNat < 0x7f then some (c.toString, rest) else none
    | [] => none

/-- The bracket that closes another. -/
def closing (c : Char) : Char := if c = '(' then ')' else if c = '[' then ']' else '\x7d'

/-- The brackets open behind a sign; `none` when it closes nothing or nests too deep. -/
def bracketsAfter (sign : String) (line : Nat) (brackets : List (Char × Nat)) :
    Option (List (Char × Nat)) :=
  match sign.toList with
  | [c] =>
    if c = '(' ∨ c = '[' ∨ c = '\x7b' then
      if brackets.length < maxBrackets then some ((c, line) :: brackets) else none
    else if c = ')' ∨ c = ']' ∨ c = '\x7d' then
      match brackets with
      | (b, _) :: outer => if closing b = c then some outer else none
      | [] => none
    else some brackets
  | _ => some brackets

def countLines (cs : List Char) : Nat := cs.count '\n'

/-- A literal whose quote is at the front, on one token. -/
def stepText (c : Cursor) (flags : TextFlags) (cs : List Char) : Step :=
  match scanQuoted cs with
  | some (body, rest) =>
    .more [c.token (.text flags body)] { c with rest, line := c.line + countLines body } false
  | none => .last [] (.rejected c.line)

/-- A name or a keyword. The spelling decides which words are keywords. -/
def stepName (c : Cursor) : Step :=
  let spelling := c.rest.takeWhile Numeral.isNameChar
  let rest := c.rest.dropWhile Numeral.isNameChar
  let word := String.ofList spelling
  if word ∈ keywords then .more [c.token (.keyword word)] { c with rest } false
  else if Text.isIdentifier spelling then
    .more [c.token (.name (Text.normalizeIdentifier word))] { c with rest } false
  else .last [] (.rejected c.line)

def stepNumber (c : Cursor) : Step :=
  match Numeral.scan c.rest with
  | some (value, rest) => .more [c.token (.number value)] { c with rest } false
  | none => .last [] (.rejected c.line)

def stepSign (c : Cursor) : Step :=
  match scanSign c.rest with
  | none => .last [] (.rejected c.line)
  | some (sign, rest) => match bracketsAfter sign c.line c.brackets with
    | none => .last [] (.rejected c.line)
    | some brackets =>
      let next := { c with rest, brackets }
      .more [next.token (.sign sign)] next false

def isBlank (c : Char) : Bool := c == ' ' || c == '\t' || c == '\x0c'

/-- A step inside a line. -/
def stepWithin (c : Cursor) : Step :=
  let c := { c with rest := c.rest.dropWhile isBlank }
  match c.rest with
  | [] => finish c
  | '#' :: rest => .more [] { c with rest := rest.dropWhile (· ≠ '\n') } false
  | '\n' :: rest =>
    let next := { c with rest, line := c.line + 1 }
    .more (if c.brackets.isEmpty then [c.token .newline] else []) next true
  | '\\' :: '\n' :: rest =>
    if rest.isEmpty then .last [] (.unfinished c.line)
    else .more [] { c with rest, line := c.line + 1 } false
  | '\\' :: _ => .last [] (.stuck c.line)
  | first :: more =>
    match scanFlags {} true c.rest with
    | some (flags, quoted) => stepText c flags quoted
    | none =>
      if first.isDigit ∨ (first = '.' ∧ more.head?.any Char.isDigit) then stepNumber c
      else if Numeral.isNameChar first then stepName c
      else stepSign c

/-- Steps from a place on, as many as the fuel allows. -/
def run : (fuel : Nat) → Cursor → (fresh : Bool) → Lexed
  | 0, c, _ => ⟨[], .stuck c.line, none⟩
  | fuel + 1, c, fresh =>
    match if fresh then stepFresh c else stepWithin c with
    | .more tokens next fresh =>
      let later := run fuel next fresh
      { later with tokens := tokens ++ later.tokens }
    | .last tokens ending => ⟨tokens, ending, c.brackets.head?.map (·.2)⟩

/-- The tokens of a source. Every other step reads a character at least. -/
def lex (source : String) : Lexed :=
  let cs := normalizeLines source.toList
  let cs := if cs.isEmpty then ['\n'] else cs
  run (2 * cs.length + 2) ⟨cs, 1, [], []⟩ true

end Lexer

end PersistedOps.Script

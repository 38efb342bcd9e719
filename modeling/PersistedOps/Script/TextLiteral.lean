import PersistedOps.Script.Lexer
import PersistedOps.Script.Syntax
import PersistedOps.Text.CharacterName

/-!
The values of text literals: escapes, literals that stand side by side, and the fields of formatted
literals.
-/

namespace PersistedOps.Script.TextLiteral

/-- The number that exactly `count` hexadecimal digits spell, and what follows them. -/
def takeHex (count : Nat) (cs : List Char) : Option (Nat × List Char) :=
  let digits := cs.take count
  if digits.length = count then (Hex.toNat? digits).map (·, cs.drop count) else none

def isOctal (c : Char) : Bool := '0' ≤ c && c ≤ '7'

/-- The number of up to three octal digits, and what follows them. -/
def takeOctal (cs : List Char) : Nat × List Char :=
  let digits := (cs.take 3).takeWhile isOctal
  (Numeral.ofDigits 8 digits, cs.drop digits.length)

/-- The character that a letter behind a backslash stands for. -/
def simpleEscape? : Char → Option Nat
  | '\\' => some 0x5c
  | '\'' => some 0x27
  | '"' => some 0x22
  | 'a' => some 7
  | 'b' => some 8
  | 't' => some 9
  | 'n' => some 10
  | 'v' => some 11
  | 'f' => some 12
  | 'r' => some 13
  | _ => none

/-- A name in braces, and what follows it. -/
def takeName : List Char → Option (String × List Char)
  | '\x7b' :: rest =>
    match rest.dropWhile (· ≠ '\x7d') with
    | _ :: after => some (String.ofList (rest.takeWhile (· ≠ '\x7d')), after)
    | [] => none
  | _ => none

/-- The code points that an escape stands for, given what follows its backslash, and what follows the
escape. An unknown escape keeps its backslash. -/
def escape (unicode : Bool) (cs : List Char) : Option (List Nat × List Char) :=
  match cs with
  | [] => some ([0x5c], [])
  | c :: rest =>
    if c = '\n' then some ([], rest)
    else match simpleEscape? c with
      | some n => some ([n], rest)
      | none =>
        if isOctal c then
          let (n, rest) := takeOctal cs
          some ([n], rest)
        else if c = 'x' then (takeHex 2 rest).map fun (n, rest) => ([n], rest)
        else if unicode && c = 'u' then (takeHex 4 rest).map fun (n, rest) => ([n], rest)
        else if unicode && c = 'U' then do
          let (n, rest) ← takeHex 8 rest
          if n < 0x110000 then some ([n], rest) else none
        else if unicode && c = 'N' then do
          let (name, rest) ← takeName rest
          let n ← Text.characterNamed? name
          some ([n], rest)
        else some ([0x5c, c.toNat], rest)

/-- The code points of a body with escapes; `none` when an escape is malformed. Each step reads a
character at least. -/
def unescape (unicode : Bool) : (fuel : Nat) → List Char → Option (List Nat)
  | 0, _ => some []
  | _ + 1, [] => some []
  | fuel + 1, '\\' :: rest => do
    let (here, rest) ← escape unicode rest
    return here ++ (← unescape unicode fuel rest)
  | fuel + 1, c :: rest => do return c.toNat :: (← unescape unicode fuel rest)

/-- The code points of a literal's body. -/
def codePoints (flags : TextFlags) (body : List Char) : Option (List Nat) :=
  if flags.raw then some (body.map Char.toNat)
  else unescape (!flags.bytes) body.length body

/-! Formatted literals -/

/-- A field of a formatted literal: its expression, and how many lines into the literal it begins. -/
structure Field where
  lines : Nat
  expression : List Char

/-- An open string inside a field's expression: its quote, and whether it has three of them. -/
abbrev Quote := Option (Char × Bool)

/-- The expression of a field up to the sign that ends it; `none` when it may not stand there. -/
def takeExpression (quote : Quote) (open_ : List Char) : List Char →
    Option (List Char × List Char)
  | [] => none
  | '\\' :: _ => none
  | c :: rest =>
    let go (quote : Quote) (open_ : List Char) : Option (List Char × List Char) :=
      (takeExpression quote open_ rest).map fun (e, more) => (c :: e, more)
    match quote with
    | some (q, triple) =>
      if c ≠ q then go quote open_
      else if triple then
        match rest with
        | a :: b :: more =>
          if a = q ∧ b = q then
            (takeExpression none open_ more).map fun (e, more) => (c :: a :: b :: e, more)
          else go quote open_
        | _ => go quote open_
      else go none open_
    | none =>
      if c = '\'' ∨ c = '"' then
        match rest with
        | a :: b :: more =>
          if a = c ∧ b = c then
            (takeExpression (some (c, true)) open_ more).map fun (e, more) =>
              (c :: a :: b :: e, more)
          else go (some (c, false)) open_
        | _ => go (some (c, false)) open_
      else if c = '(' ∨ c = '[' ∨ c = '\x7b' then go none (c :: open_)
      else if c = '#' then none
      else if open_.isEmpty && (c = '!' || c = ':' || c = '\x7d' || c = '=' || c = '<' || c = '>') then
        match rest with
        | '=' :: more =>
          if c = '!' ∨ c = '=' ∨ c = '<' ∨ c = '>' then
            (takeExpression none open_ more).map fun (e, more) => (c :: '=' :: e, more)
          else some ([], c :: rest)
        | _ => if c = '<' ∨ c = '>' then go none open_ else some ([], c :: rest)
      else if c = ')' ∨ c = ']' ∨ c = '\x7d' then
        match open_ with
        | b :: outer => if Lexer.closing b = c then go none outer else none
        | [] => none
      else go none open_

/-- What follows the conversion of a field, if the conversion is one. -/
def skipConversion : List Char → Option (List Char)
  | '!' :: c :: rest => if c = 's' ∨ c = 'r' ∨ c = 'a' then some rest else none
  | ['!'] => none
  | cs => some cs

/-- What follows the sign that asks for the expression's own text. -/
def skipEcho : List Char → List Char
  | '=' :: rest => rest.dropWhile fun c => c.isWhitespace || c == '\x0b' || c == '\x0c'
  | cs => cs

/-- The fields of a formatted literal from some place on, what is left there, and the place's line;
`none` when the braces do not fit. `level` counts the format specifications around. -/
def takeFields (raw : Bool) : (fuel : Nat) → (level lines : Nat) → (piece : List Char) →
    List Char → Option (List Field × List Char × Nat)
  | 0, _, _, _, _ => none
  | fuel + 1, level, lines, piece, cs =>
    let pieceFits := raw || (unescape true piece.length piece.reverse).isSome
    match cs with
    | [] => if pieceFits then some ([], [], lines) else none
    | '\x7b' :: rest =>
      if !pieceFits then none
      else match level, rest with
        | 0, '\x7b' :: rest => takeFields raw fuel level lines [] rest
        | _, _ =>
          if 2 ≤ level then none
          else do
            let (e, after) ← takeExpression none [] rest
            if e.all fun c => c.isWhitespace || c == '\x0c' then none
            let field : Field := ⟨lines, e⟩
            let lines := lines + e.count '\n'
            let after ← skipConversion (skipEcho after)
            let (inner, after, lines) ← match after with
              | ':' :: spec => takeFields raw fuel (level + 1) lines [] spec
              | _ => some ([], after, lines)
            match after with
            | '\x7d' :: after =>
              let (later, rest, lines) ← takeFields raw fuel level lines [] after
              some (field :: inner ++ later, rest, lines)
            | _ => none
    | '\x7d' :: rest =>
      if !pieceFits then none
      else match level, rest with
        | 0, '\x7d' :: rest => takeFields raw fuel level lines [] rest
        | 0, _ => none
        | _, _ => some ([], cs, lines)
    | '\\' :: c :: rest =>
      if raw ∨ c = '\x7b' ∨ c = '\x7d' then
        takeFields raw fuel level lines (if raw then '\\' :: piece else piece) (c :: rest)
      else if c = 'N' ∧ rest.head? = some '\x7b' then
        let name := rest.takeWhile (· ≠ '\x7d')
        let after := rest.dropWhile (· ≠ '\x7d')
        takeFields raw fuel level lines ('\x7d' :: name.reverse ++ c :: '\\' :: piece) (after.drop 1)
      else takeFields raw fuel level (lines + (if c = '\n' then 1 else 0)) (c :: '\\' :: piece) rest
    | c :: rest => takeFields raw fuel level (lines + (if c = '\n' then 1 else 0)) (c :: piece) rest

/-- The fields of a formatted literal's body. -/
def fields (flags : TextFlags) (body : List Char) : Option (List Field) :=
  (takeFields flags.raw (body.length + 1) 0 0 [] body).map (·.1)

/-- The tokens of a field's expression in parentheses. -/
def Field.tokens (line : Nat) (f : Field) : List Token :=
  let source := String.ofList ('(' :: f.expression ++ [')'])
  (Lexer.lex source).tokens.map fun t => { t with line := t.line + line + f.lines - 1 }

/-! Values -/

/-- A literal as a token has it, with the token's line. -/
structure Part where
  line : Nat
  flags : TextFlags
  body : List Char

/-- Whether a part may stand as it is. -/
def Part.isValid (p : Part) : Bool :=
  if p.flags.format then (fields p.flags p.body).isSome
  else (codePoints p.flags p.body).isSome && (!p.flags.bytes || p.body.all fun c => c.toNat < 0x80)

/-- The value of parts side by side; `none` when one is malformed or bytes stand beside text. A
formatted part makes the whole a formatted literal, whose value no unit may use. -/
def value (line : Nat) (parts : List Part) : Option Expr :=
  if !parts.all Part.isValid then none
  else if parts.any (·.flags.bytes) then
    if parts.all (·.flags.bytes) then some (.literal line .bytes) else none
  else if parts.any (·.flags.format) then some (.other line .joinedStr)
  else do
    let points ← parts.mapM fun p => codePoints p.flags p.body
    return .literal line (.text (Scalar.ofPoints points.flatten))

/-- The token sequences of all fields of formatted parts. -/
def fieldTokens (parts : List Part) : List (List Token) :=
  parts.flatMap fun p =>
    if p.flags.format then ((fields p.flags p.body).getD []).map (Field.tokens p.line) else []

end PersistedOps.Script.TextLiteral

import PersistedOps.Json.Basic

/-!
Reading JSON text. A key written twice keeps its first place and its last value.
-/

namespace PersistedOps.Json

/-- The four blanks of JSON. -/
def isGap (c : Char) : Bool := c = ' ' || c = '\t' || c = '\n' || c = '\r'

def skipGap (cs : List Char) : List Char := cs.dropWhile isGap

def digitsToNat (cs : List Char) : Nat :=
  cs.foldl (fun n c => 10 * n + (c.toNat - 0x30)) 0

/-- A run of digits and what follows it. -/
def spanDigits (cs : List Char) : List Char × List Char := cs.span Char.isDigit

/-- An exponent part: its value and what follows, when one stands here. -/
def readExponent? : List Char → Option (Int × List Char)
  | e :: rest =>
    if e = 'e' ∨ e = 'E' then
      let (negative, rest) := match rest with
        | '-' :: r => (true, r)
        | '+' :: r => (false, r)
        | r => (false, r)
      match spanDigits rest with
      | ([], _) => none
      | (ds, rest) =>
        let n : Int := digitsToNat ds
        some (if negative then -n else n, rest)
    else none
  | [] => none

/-- A fraction part: its digits and what follows, when one stands here. -/
def readFraction? : List Char → Option (List Char × List Char)
  | '.' :: rest => match spanDigits rest with
    | ([], _) => none
    | (ds, rest) => some (ds, rest)
  | _ => none

/-- A number without its sign. -/
def readUnsigned (negative : Bool) (cs : List Char) : Option (Json × List Char) :=
  match spanDigits cs with
  | ([], _) => none
  | (whole, rest) =>
    let n : Int := digitsToNat whole
    match readFraction? rest, readExponent? rest with
    | some (fraction, rest), _ =>
      let (power, rest) := (readExponent? rest).getD (0, rest)
      some (float (.ofDecimal negative (digitsToNat (whole ++ fraction)) (power - fraction.length)),
        rest)
    | none, some (power, rest) => some (float (.ofDecimal negative (digitsToNat whole) power), rest)
    | none, none => some (int (if negative then -n else n), rest)

def readNumber : List Char → Option (Json × List Char)
  | '-' :: rest => readUnsigned true rest
  | cs => readUnsigned false cs

/-- Four hexadecimal digits as a UTF-16 unit. -/
def readUnit : List Char → Option (Nat × List Char)
  | a :: b :: c :: d :: rest => (Hex.toNat? [a, b, c, d]).map (·, rest)
  | _ => none

/-- The character of a unit escape; a high surrogate takes the low one escaped after it. -/
def readUnits (cs : List Char) : Option (Char × List Char) := do
  let (high, rest) ← readUnit cs
  match rest with
  | '\\' :: 'u' :: more =>
    match readUnit more with
    | some (low, after) =>
      if 0xD800 ≤ high ∧ high < 0xDC00 ∧ 0xDC00 ≤ low ∧ low < 0xE000 then
        some (Char.ofNat (0x10000 + (high - 0xD800) * 0x400 + (low - 0xDC00)), after)
      else some (Char.ofNat high, rest)
    | none => none
  | _ => some (Char.ofNat high, rest)

/-- The rest of a string after its opening quote; at most `fuel` characters. -/
def readChars : (fuel : Nat) → List Char → Option (List Char × List Char)
  | 0, _ => none
  | fuel + 1, cs => match cs with
    | [] => none
    | '"' :: rest => some ([], rest)
    | '\\' :: 'u' :: rest => do
      let (c, rest) ← readUnits rest
      let (s, rest) ← readChars fuel rest
      some (c :: s, rest)
    | '\\' :: e :: rest => do
      let c ← match e with
        | '"' => some '"'
        | '\\' => some '\\'
        | '/' => some '/'
        | 'b' => some '\x08'
        | 'f' => some '\x0c'
        | 'n' => some '\n'
        | 'r' => some '\r'
        | 't' => some '\t'
        | _ => none
      let (s, rest) ← readChars fuel rest
      some (c :: s, rest)
    | c :: rest => do
      let (s, rest) ← readChars fuel rest
      some (c :: s, rest)

def readString (cs : List Char) : Option (String × List Char) := do
  let (s, rest) ← readChars (cs.length + 1) cs
  some (String.ofList s, rest)

/-- What follows a keyword, if it stands here. -/
def dropWord? (word : String) (cs : List Char) : Option (List Char) :=
  if word.toList.isPrefixOf cs then some (cs.drop word.length) else none

mutual

/-- A value after its leading gap; `fuel` bounds the nesting. -/
def readValue (fuel : Nat) (cs : List Char) : Option (Json × List Char) :=
  match fuel with
  | 0 => none
  | fuel + 1 => match skipGap cs with
    | '"' :: rest => (readString rest).map fun (s, rest) => (str s, rest)
    | '[' :: rest => match skipGap rest with
      | ']' :: rest => some (arr [], rest)
      | rest => (readItems fuel rest).map fun (items, rest) => (arr items, rest)
    | '\x7b' :: rest => match skipGap rest with
      | '\x7d' :: rest => some (obj [], rest)
      | rest => (readFields fuel [] rest).map fun (fields, rest) => (obj fields, rest)
    | cs =>
      match dropWord? "null" cs, dropWord? "true" cs, dropWord? "false" cs with
      | some rest, _, _ => some (null, rest)
      | _, some rest, _ => some (bool true, rest)
      | _, _, some rest => some (bool false, rest)
      | _, _, _ => readNumber cs

/-- The items of an array up to its closing bracket. -/
def readItems (fuel : Nat) (cs : List Char) : Option (List Json × List Char) :=
  match fuel with
  | 0 => none
  | fuel + 1 => do
    let (v, rest) ← readValue fuel cs
    match skipGap rest with
    | ',' :: rest =>
      let (items, rest) ← readItems fuel rest
      some (v :: items, rest)
    | ']' :: rest => some ([v], rest)
    | _ => none

/-- The fields of an object up to its closing brace, put after those already read. -/
def readFields (fuel : Nat) (seen : List (String × Json)) (cs : List Char) :
    Option (List (String × Json) × List Char) :=
  match fuel with
  | 0 => none
  | fuel + 1 => match skipGap cs with
    | '"' :: rest => do
      let (key, rest) ← readString rest
      match skipGap rest with
      | ':' :: rest =>
        let (v, rest) ← readValue fuel rest
        match skipGap rest with
        | ',' :: rest => readFields fuel (put seen key v) rest
        | '\x7d' :: rest => some (put seen key v, rest)
        | _ => none
      | _ => none
    | _ => none

end

/-- The value of a whole text. -/
def read (text : String) : Option Json :=
  let cs := text.toList
  match readValue (2 * cs.length + 2) cs with
  | some (v, rest) => if (skipGap rest).isEmpty then some v else none
  | none => none

end PersistedOps.Json

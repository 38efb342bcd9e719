import PersistedOps.Json.Reader
import PersistedOps.Script.Token

/-!
Numbers as units write them: decimal integers without a leading zero, integers in base 2, 8 and 16,
floats and imaginary numbers, with single underscores between digits.
-/

namespace PersistedOps.Script.Numeral

/-- Digits of a class up to the first other character, where an underscore must stand between two of
them; `none` when one does not. -/
def takeDigits (isDigit : Char → Bool) : List Char → Option (List Char × List Char)
  | [] => some ([], [])
  | c :: rest =>
    if isDigit c then (takeDigits isDigit rest).map fun (ds, more) => (c :: ds, more)
    else if c = '_' then match rest with
      | d :: _ => if isDigit d then takeDigits isDigit rest else none
      | [] => none
    else some ([], c :: rest)

/-- Whether a character may stand inside a name, as far as a reader of ASCII can tell. -/
def isNameChar (c : Char) : Bool := c.isAlphanum || c == '_' || 0x80 ≤ c.toNat

/-- The keywords that may follow a number without a blank. -/
def followers : List String := ["and", "else", "for", "if", "in", "is", "or", "not"]

/-- Whether a number may end in front of these characters. -/
def endsBefore (cs : List Char) : Bool :=
  followers.any (fun w => w.toList.isPrefixOf cs) || !(cs.head?.any isNameChar)

/-- A number's value and what follows it, if it may end there. -/
def finish (value : Numeral) (rest : List Char) : Option (Numeral × List Char) :=
  if endsBefore rest then some (value, rest) else none

/-- A value in a base from its digits. -/
def ofDigits (base : Nat) (digits : List Char) : Nat :=
  digits.foldl (fun n d => base * n + (Hex.digit? d).getD 0) 0

/-- An integer in a base that a letter announced. -/
def scanRadix (base : Nat) (isDigit : Char → Bool) (cs : List Char) :
    Option (Numeral × List Char) :=
  match takeDigits isDigit cs with
  | some (d :: ds, rest) =>
    if rest.head?.any Char.isDigit then none else finish (.int (ofDigits base (d :: ds))) rest
  | _ => none

/-- A decimal integer. -/
def decimal (digits : List Char) : Numeral :=
  if 4300 < digits.length then .tooLong else .int (Json.digitsToNat digits)

/-- What may follow the digits of a float: the mark of an imaginary number. -/
def scanSuffix (value : Numeral) : List Char → Option (Numeral × List Char)
  | 'j' :: rest | 'J' :: rest => finish .imaginary rest
  | rest => finish value rest

/-- The exponent of a float whose digits and count of fraction digits are known. A letter that no
digit follows belongs to the next word. -/
def scanExponent (whole fraction : List Char) (value : Numeral) (cs : List Char) :
    Option (Numeral × List Char) :=
  let withPower (negative : Bool) (cs : List Char) : Option (Numeral × List Char) := do
    let (ds, rest) ← takeDigits Char.isDigit cs
    let n : Int := Json.digitsToNat ds
    let power := (if negative then -n else n) - fraction.length
    let digits := Json.digitsToNat (whole ++ fraction)
    scanSuffix (.float (.ofDecimal false digits power)) rest
  match cs with
  | e :: rest =>
    if e = 'e' ∨ e = 'E' then
      match rest with
      | '+' :: d :: more => if d.isDigit then withPower false (d :: more) else none
      | '-' :: d :: more => if d.isDigit then withPower true (d :: more) else none
      | d :: more => if d.isDigit then withPower false (d :: more) else finish value cs
      | [] => finish value cs
    else scanSuffix value cs
  | [] => scanSuffix value cs

/-- What follows a point: fraction digits and an exponent, either of which may lack. -/
def scanFraction (whole cs : List Char) : Option (Numeral × List Char) := do
  let (ds, rest) ← match cs with
    | d :: _ => if d.isDigit then takeDigits Char.isDigit cs else some ([], cs)
    | [] => some ([], cs)
  let value := Numeral.float (.ofDecimal false (Json.digitsToNat (whole ++ ds)) (-ds.length))
  scanExponent whole ds value rest

/-- Whether an exponent stands here. -/
def beginsExponent : List Char → Bool
  | e :: '+' :: d :: _ | e :: '-' :: d :: _ => (e == 'e' || e == 'E') && d.isDigit
  | e :: d :: _ => (e == 'e' || e == 'E') && d.isDigit
  | _ => false

/-- What follows the digits of a whole number; an integer with a leading zero is only zeros. -/
def scanTail (whole rest : List Char) : Option (Numeral × List Char) :=
  let zeroLed := whole.head? == some '0' && whole.any (· ≠ '0')
  match rest with
  | '.' :: more => scanFraction whole more
  | c :: _ =>
    if c = 'e' ∨ c = 'E' then
      if zeroLed && !beginsExponent rest then none
      else scanExponent whole [] (decimal whole) rest
    else if c = 'j' ∨ c = 'J' then scanSuffix .imaginary rest
    else if zeroLed then none
    else finish (decimal whole) rest
  | [] => if zeroLed then none else some (decimal whole, [])

/-- The number at the front of some characters, which begin with a digit or with a point and a digit;
`none` when they spell none. -/
def scan (cs : List Char) : Option (Numeral × List Char) :=
  match cs with
  | '.' :: rest => scanFraction [] rest
  | '0' :: 'x' :: rest | '0' :: 'X' :: rest => scanRadix 16 (fun c => (Hex.digit? c).isSome) rest
  | '0' :: 'o' :: rest | '0' :: 'O' :: rest => scanRadix 8 (fun c => '0' ≤ c && c ≤ '7') rest
  | '0' :: 'b' :: rest | '0' :: 'B' :: rest => scanRadix 2 (fun c => c == '0' || c == '1') rest
  | _ => do
    let (whole, rest) ← takeDigits Char.isDigit cs
    scanTail whole rest

end PersistedOps.Script.Numeral

import PersistedOps.Number.Binary64

/-!
The decimal text of a double: the fewest digits that read back as the same double, and of those the
nearest.
-/

namespace PersistedOps.Binary64

/-- Decimal digits with the power of ten of the unit after the last one. -/
structure Digits where
  digits : Nat
  power : Int
deriving DecidableEq, Repr

/-- The least `k` with `num / den < 10 ^ k`, for a positive quotient near the powers of a double. -/
def decimalPlaces (num den : Nat) : Int :=
  let below (k : Int) : Bool :=
    let (bound, parts) := timesPower 10 k den 1
    num * parts < bound
  let guess : Int := ((num.log2 : Int) - den.log2) * 30103 / 100000 - 1
  if below guess then guess
  else if below (guess + 1) then guess + 1
  else if below (guess + 2) then guess + 2
  else guess + 3

/-- The two neighbours of `num / den` on the grid of `10 ^ power`, the nearer first, and which is
nearer goes to the even one on a tie. -/
def gridNeighbours (num den : Nat) (power : Int) : List Nat :=
  let (n, d) := timesPower 10 (-power) num den
  let low := n / d
  let twice := 2 * (n % d)
  if twice < d ∨ (twice = d ∧ low % 2 = 0) then [low, low + 1] else [low + 1, low]

/-- The first grid, coarse to fine, on which a neighbour reads back as the double. -/
def shortestFrom (value : Binary64) (num den : Nat) (places : Int) : (tries : Nat) → (count : Nat) →
    Digits
  | 0, _ => ⟨num / den, 0⟩
  | tries + 1, count =>
    let power := places - count
    match (gridNeighbours num den power).find? (fun d => ofDecimal false d power == value) with
    | some d => ⟨d, power⟩
    | none => shortestFrom value num den places tries (count + 1)

/-- The shortest digits of a positive finite double. -/
def shortest (mantissa : Nat) (exponent : Int) : Digits :=
  let (num, den) := fraction mantissa exponent
  shortestFrom (finite false mantissa exponent) num den (decimalPlaces num den) 18 1

/-- How a number is laid out once its digits are known. -/
structure Layout where
  /-- Decimal exponents from here on are written in scientific notation. -/
  firstScientific : Int
  /-- Decimal exponents below this are written in scientific notation. -/
  leastPositional : Int
  /-- The least number of digits in a written exponent. -/
  exponentWidth : Nat

/-- Positional from 0.0001 up to but not including 10^16; exponents have a sign and two digits. -/
def Layout.plain : Layout := ⟨16, -4, 2⟩

def zeros (n : Nat) : String := String.ofList (List.replicate n '0')

/-- Writes digits with no zero at the end, where `exponent` is the first digit's power of ten. -/
def layOut (layout : Layout) (digits : String) (exponent : Int) : String :=
  let count := digits.length
  if exponent < layout.leastPositional ∨ layout.firstScientific ≤ exponent then
    let tail := String.ofList (digits.toList.drop 1)
    let mantissa := String.ofList (digits.toList.take 1) ++ (if tail = "" then "" else "." ++ tail)
    let written := toString exponent.natAbs
    let sign := if exponent < 0 then "-" else "+"
    mantissa ++ "e" ++ sign ++ zeros (layout.exponentWidth - written.length) ++ written
  else if exponent < 0 then "0." ++ zeros (-exponent - 1).toNat ++ digits
  else
    let whole := exponent.toNat + 1
    if count ≤ whole then digits ++ zeros (whole - count) ++ ".0"
    else String.ofList (digits.toList.take whole) ++ "." ++ String.ofList (digits.toList.drop whole)

/-- The digits' text without the zeros at its end. -/
def trimZeros (digits : String) : String :=
  String.ofList (digits.toList.reverse.dropWhile (· = '0')).reverse

/-- The text of a double, which reads back as the same double. -/
def text : Binary64 → String
  | finite negative mantissa exponent =>
    let sign := if negative then "-" else ""
    if mantissa = 0 then sign ++ "0.0"
    else
      let d := shortest mantissa exponent
      let written := toString d.digits
      sign ++ layOut .plain (trimZeros written) (d.power + written.length - 1)
  | infinite negative => if negative then "-inf" else "inf"

end PersistedOps.Binary64

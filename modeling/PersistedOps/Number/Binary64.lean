/-!
Double-precision numbers as exact values: a sign with mantissa times a power of two, or an infinity.
Quotients are rounded to the nearest double, a tie to the even mantissa.
-/

namespace PersistedOps

/-- A double. A finite one is `mantissa * 2 ^ exponent` under its sign; its mantissa has 53 bits,
or fewer at the least exponent, so each value has one form and zero has two signs. -/
inductive Binary64 where
  | finite (negative : Bool) (mantissa : Nat) (exponent : Int)
  | infinite (negative : Bool)
deriving DecidableEq, Repr, Inhabited

namespace Binary64

/-- The exponent of the smallest steps between doubles. -/
def leastExponent : Int := -1074

/-- The exponent of the largest finite doubles. -/
def greatestExponent : Int := 971

def zero (negative : Bool) : Binary64 := finite negative 0 leastExponent

/-- Division rounded to nearest, a tie to even. -/
def roundDiv (num den : Nat) : Nat :=
  let q := num / den
  let twice := 2 * (num % den)
  if twice < den then q else if den < twice then q + 1 else q + q % 2

/-- The quotient `num / den * base ^ power` as a fraction of naturals. -/
def timesPower (base : Nat) (power : Int) (num den : Nat) : Nat × Nat :=
  if 0 ≤ power then (num * Nat.pow base power.toNat, den)
  else (num, den * Nat.pow base (-power).toNat)

/-- The least mantissa of 53 bits. -/
def leastMantissa : Nat := 4503599627370496

/-- The exponent at which the whole part of a positive quotient has 53 bits. -/
def exponentOf (num den : Nat) : Int :=
  let guess : Int := (num.log2 : Int) - den.log2 - 52
  let (n, d) := timesPower 2 (-guess) num den
  if n / d < leastMantissa then guess - 1 else guess

/-- The double nearest to `num / den`, where `den` is not zero. -/
def ofQuotient (negative : Bool) (num den : Nat) : Binary64 :=
  if num = 0 then zero negative
  else
    let exponent := max (exponentOf num den) leastExponent
    let (n, d) := timesPower 2 (-exponent) num den
    let mantissa := roundDiv n d
    let (mantissa, exponent) :=
      if mantissa = 2 * leastMantissa then (leastMantissa, exponent + 1) else (mantissa, exponent)
    if greatestExponent < exponent then infinite negative else finite negative mantissa exponent

/-- The double nearest to `digits * 10 ^ power`. Beyond four hundred decimal places either way the
answer no longer depends on the power. -/
def ofDecimal (negative : Bool) (digits : Nat) (power : Int) : Binary64 :=
  if digits = 0 then zero negative
  else
    let places : Int := (toString digits).length + power
    if 400 < places then infinite negative
    else if places < -400 then zero negative
    else
      let (num, den) := timesPower 10 power digits 1
      ofQuotient negative num den

def neg : Binary64 → Binary64
  | finite s m e => finite (!s) m e
  | infinite s => infinite !s

/-- The magnitude of a finite double as a fraction. -/
def fraction (mantissa : Nat) (exponent : Int) : Nat × Nat :=
  timesPower 2 exponent mantissa 1

/-- Equality of values: the two zeros are one number. -/
def eqv : Binary64 → Binary64 → Bool
  | finite s m e, finite s' m' e' => (m == 0 && m' == 0) || (s == s' && m == m' && e == e')
  | infinite s, infinite s' => s == s'
  | _, _ => false

/-- Whether a double is exactly this integer. -/
def eqInt : Binary64 → Int → Bool
  | finite s m e, n =>
    let (num, den) := fraction m e
    (if s then -(num : Int) else (num : Int)) == n * (den : Int)
  | infinite _, _ => false

def isZero : Binary64 → Bool
  | finite _ m _ => m == 0
  | infinite _ => false

/-- Whether a finite double is a whole number. -/
def isWhole : Binary64 → Bool
  | finite _ m e => let (num, den) := fraction m e; num % den == 0
  | infinite _ => false

end Binary64

end PersistedOps

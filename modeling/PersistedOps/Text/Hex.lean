/-!
Lower-case hexadecimal text: digits, bytes, and the UTF-8 form of a string.
-/

namespace PersistedOps.Hex

/-- The lower-case digit of a number below sixteen. -/
def digit (n : Nat) : Char :=
  if n < 10 then Char.ofNat (0x30 + n) else Char.ofNat (0x57 + n)

/-- The value of a digit, upper or lower case. -/
def digit? (c : Char) : Option Nat :=
  if '0' ≤ c ∧ c ≤ '9' then some (c.toNat - 0x30)
  else if 'a' ≤ c ∧ c ≤ 'f' then some (c.toNat - 0x57)
  else if 'A' ≤ c ∧ c ≤ 'F' then some (c.toNat - 0x37)
  else none

theorem digit?_digit {n : Nat} (h : n < 16) : digit? (digit n) = some n := by
  have : ∀ m : Fin 16, digit? (digit m) = some m.val := by decide
  exact this ⟨n, h⟩

/-- The last `width` hexadecimal digits of a number. -/
def ofNat (width n : Nat) : List Char :=
  match width with
  | 0 => []
  | w + 1 => ofNat w (n / 16) ++ [digit (n % 16)]

/-- The number that a run of digits denotes. -/
def toNat? (cs : List Char) : Option Nat :=
  cs.foldlM (fun n c => (digit? c).map (16 * n + ·)) 0

def encodeByte (b : UInt8) : List Char :=
  [digit (b.toNat / 16), digit (b.toNat % 16)]

def encode (bytes : List UInt8) : List Char :=
  bytes.flatMap encodeByte

/-- Two digits a byte; an odd count or another character is refused. -/
def decode : List Char → Option (List UInt8)
  | [] => some []
  | [_] => none
  | high :: low :: rest => do
    let h ← digit? high
    let l ← digit? low
    let bytes ← decode rest
    return UInt8.ofNat (16 * h + l) :: bytes

@[simp] theorem encode_nil : encode [] = [] := rfl

@[simp] theorem encode_cons (b : UInt8) (bytes : List UInt8) :
    encode (b :: bytes) = encodeByte b ++ encode bytes := rfl

theorem decode_encode (bytes : List UInt8) : decode (encode bytes) = some bytes := by
  induction bytes with
  | nil => rfl
  | cons b bytes ih =>
    have hb : b.toNat < 256 := b.toNat_lt
    have high : digit? (digit (b.toNat / 16)) = some (b.toNat / 16) := digit?_digit (by omega)
    have low : digit? (digit (b.toNat % 16)) = some (b.toNat % 16) := digit?_digit (by omega)
    have join : UInt8.ofNat (16 * (b.toNat / 16) + b.toNat % 16) = b := by
      rw [Nat.div_add_mod, UInt8.ofNat_toNat]
    simp [encodeByte, decode, high, low, ih, join, -UInt8.ofNat_add, -UInt8.ofNat_mul]

/-- The hexadecimal form of a string's UTF-8 bytes. -/
def ofText (s : String) : String :=
  String.ofList (encode s.toUTF8.data.toList)

/-- The string whose UTF-8 bytes the digits spell. -/
def toText? (cs : List Char) : Option String := do
  let bytes ← decode cs
  String.fromUTF8? ⟨bytes.toArray⟩

end PersistedOps.Hex

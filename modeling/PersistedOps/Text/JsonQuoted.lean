import PersistedOps.Text.Hex

/-!
Strings in JSON quotes, in two spellings: one writes ASCII alone, the other keeps every character
from U+007F on.
-/

namespace PersistedOps.JsonQuoted

/-- A UTF-16 unit as an escape. -/
def unit (n : Nat) : List Char := '\\' :: 'u' :: Hex.ofNat 4 n

/-- The escapes of a character: one unit, or the surrogate pair above U+FFFF. -/
def units (c : Char) : List Char :=
  if c.toNat < 0x10000 then unit c.toNat
  else
    let rest := c.toNat - 0x10000
    unit (0xD800 + rest / 0x400) ++ unit (0xDC00 + rest % 0x400)

/-- The two-character escapes. -/
def short? : Char → Option Char
  | '"' => some '"'
  | '\\' => some '\\'
  | '\n' => some 'n'
  | '\r' => some 'r'
  | '\t' => some 't'
  | '\x08' => some 'b'
  | '\x0c' => some 'f'
  | _ => none

/-- One character inside the quotes; `plain` says which characters may stand as they are. -/
def escape (plain : Char → Bool) (c : Char) : List Char :=
  match short? c with
  | some s => ['\\', s]
  | none => if plain c then [c] else units c

def quote (plain : Char → Bool) (s : List Char) : List Char :=
  '"' :: s.flatMap (escape plain) ++ ['"']

/-- Printable ASCII. -/
def isPrintableAscii (c : Char) : Bool := 0x20 ≤ c.toNat && c.toNat < 0x7f

/-- Everything but the C0 controls. -/
def isNoControl (c : Char) : Bool := 0x20 ≤ c.toNat

/-- Quoted in ASCII alone. -/
def ascii (s : String) : String := String.ofList (quote isPrintableAscii s.toList)

/-- Quoted with only what JSON requires escaped. -/
def unicode (s : String) : String := String.ofList (quote isNoControl s.toList)

end PersistedOps.JsonQuoted

import PersistedOps.Text.CharacterName.Table
import PersistedOps.Text.Hex
import PersistedOps.Text.Pieces

/-!
Characters by their names: those of the character table, of aliases too, in any case; and the names
that are composed of the parts of a syllable or that end in the code point.
-/

namespace PersistedOps.Text

namespace CharacterName

/-! Reading the table -/

/-- The rank of a sign: digits, signs and capitals, three more signs, and small letters. -/
def rank (c : Char) : Nat :=
  if c ≤ '[' then c.toNat - 0x30 else if c ≤ '_' then c.toNat - 0x5d + 44 else c.toNat - 0x61 + 47

/-- How many signs there are. -/
def signs : Nat := 73

/-- How many signs stand for a fragment alone; the others need a second one. -/
def singles : Nat := 33

/-- All fragments. -/
def fragments : Array (List Char) :=
  (fragmentLines.flatMap fun line => (line.splitOn " ").map String.toList).toArray

/-- The text of a line of signs. -/
def expand : List Char → List Char
  | [] => []
  | [c] => fragments.getD (rank c) []
  | c :: d :: rest =>
    if rank c < singles then fragments.getD (rank c) [] ++ expand (d :: rest)
    else fragments.getD (singles + (rank c - singles) * signs + rank d) [] ++ expand rest

/-- A place in the table: the code point and the words of its name. -/
structure Entry where
  code : Int
  words : List (List Char)

/-- The entry of a record behind another entry. -/
def Entry.next (e : Entry) (record : List Char) : Entry :=
  let (distance, body) := match record.dropWhile (· ≠ ';') with
    | [] => (1, record)
    | _ :: body => ((Hex.toNat? (record.takeWhile (· ≠ ';'))).getD 0, body)
  match body with
  | [] => e
  | count :: text =>
    let kept := e.words.take (count.toNat - 0x61)
    ⟨e.code + distance, kept ++ if text.isEmpty then [] else pieces '_' text⟩

/-- The code point of a name in the table, given the words of the name. -/
def search (words : List (List Char)) : Option Nat :=
  let step (acc : Entry × Option Nat) (record : List Char) : Entry × Option Nat :=
    let e := acc.1.next record
    (e, if e.words = words then some e.code.toNat else acc.2)
  (recordLines.foldl
    (fun acc line => ((pieces '.' (expand line.toList)).filter (· ≠ [])).foldl step acc)
    (⟨-1, []⟩, none)).2

/-! Names by rule -/

/-- What follows a text at the front of another. -/
def after? (front text : String) : Option String :=
  if front.toList.isPrefixOf text.toList
  then some (String.ofList (text.toList.drop front.length)) else none

/-- Names that end in the code point, with their ranges. -/
def numbered : List (String × List (Nat × Nat)) := [
  ("CJK COMPATIBILITY IDEOGRAPH-", [(0xf900, 0xfa6d), (0xfa70, 0xfad9), (0x2f800, 0x2fa1d)]),
  ("KHITAN SMALL SCRIPT CHARACTER-", [(0x18b00, 0x18cd5)]),
  ("NUSHU CHARACTER-", [(0x1b170, 0x1b2fb)])]

/-- Unified ideographs. -/
def unified : List (Nat × Nat) := [
  (0x3400, 0x4dbf), (0x4e00, 0x9fff), (0x20000, 0x2a6df), (0x2a700, 0x2b738), (0x2b740, 0x2b81d),
  (0x2b820, 0x2cea1), (0x2ceb0, 0x2ebe0), (0x30000, 0x3134a)]

def isWithin (ranges : List (Nat × Nat)) (n : Nat) : Bool :=
  ranges.any fun r => r.1 ≤ n && n ≤ r.2

/-- The code point that capital hexadecimal digits spell, with no more digits than needed. -/
def numberedName? (upper : String) : Option Nat :=
  numbered.findSome? fun (front, ranges) => do
    let digits ← after? front upper
    let n ← Hex.toNat? digits.toList
    if isWithin ranges n && digits.length == (if n < 0x10000 then 4 else 5) then some n else none

/-- The code point of a unified ideograph, from four or five capital digits. -/
def ideograph? (digits : String) : Option Nat := do
  let n ← Hex.toNat? digits.toList
  if (digits.length = 4 ∨ digits.length = 5) ∧ digits.toUpper = digits ∧ isWithin unified n
  then some n else none

/-- The sounds that begin, carry and close a syllable, in the order of the syllables. -/
def leads : List String := ["G", "GG", "N", "D", "DD", "R", "M", "B", "BB", "S", "SS", "", "J", "JJ",
  "C", "K", "T", "P", "H"]

def vowels : List String := ["A", "AE", "YA", "YAE", "EO", "E", "YEO", "YE", "O", "WA", "WAE", "OE",
  "YO", "U", "WEO", "WE", "WI", "YU", "EU", "YI", "I"]

def tails : List String := ["", "G", "GG", "GS", "N", "NJ", "NH", "D", "L", "LG", "LM", "LB", "LS",
  "LT", "LP", "LH", "M", "B", "BS", "S", "SS", "NG", "J", "C", "K", "T", "P", "H"]

/-- The position of the longest sound at the front of a text, and what follows it. -/
def takeSound (sounds : List String) (text : String) : Option (Nat × String) :=
  sounds.zipIdx.foldl (fun best (sound, i) =>
    match after? sound text, best with
    | some rest, some (_, shortest) =>
      if rest.length < shortest.length then some (i, rest) else best
    | some rest, none => some (i, rest)
    | none, _ => best) none

/-- The code point of a syllable from its sounds. -/
def syllable? (text : String) : Option Nat := do
  let (lead, text) ← takeSound leads text
  let (vowel, text) ← takeSound vowels text
  let (tail, text) ← takeSound tails text
  if text = "" then some (0xac00 + (lead * 21 + vowel) * 28 + tail) else none

end CharacterName

open CharacterName in
/-- The code point of a name. The names of syllables and of unified ideographs are in capitals. -/
def characterNamed? (name : String) : Option Nat :=
  match after? "HANGUL SYLLABLE " name, after? "CJK UNIFIED IDEOGRAPH-" name with
  | some sounds, _ => syllable? sounds
  | none, some digits => ideograph? digits
  | none, none =>
    let upper := name.toUpper
    (numberedName? upper).orElse fun _ => search (pieces ' ' upper.toList)

end PersistedOps.Text

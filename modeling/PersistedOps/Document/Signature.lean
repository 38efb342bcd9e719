import PersistedOps.Digest.Sha256
import PersistedOps.Document.Literals
import PersistedOps.Document.Printer
import PersistedOps.Document.Separate
import PersistedOps.Document.Sort
import PersistedOps.Text.Blank
import PersistedOps.Text.JsonQuoted

/-!
The signature of an operation: its closed document, with literals hidden unless they count, sorted
and printed on one line with no blank that the language does not need. The digest of the signature
is the operation's identifier.
-/

namespace PersistedOps.Signature

/-- A string value as the hexadecimal form of its text, which no change of blanks can touch. -/
def hexNode (t : Tree) : Except Malformed Tree :=
  if t.kind? = some .stringValue then do
    let s ← (← t.attr .value).toText
    return (t.set .value (.text (Hex.ofText s))).set .block (.scalar (.bool false))
  else .ok t

/-- Letters, digits and underscores of ASCII; all else is punctuation. -/
def isWord (c : Char) : Bool := c.isAlphanum || c == '_'

/-- Deletes the space behind each punctuation character. -/
def dropSpaceAfter : List Char → List Char
  | c :: ' ' :: rest =>
    if isWord c then c :: dropSpaceAfter (' ' :: rest) else c :: dropSpaceAfter rest
  | c :: rest => c :: dropSpaceAfter rest
  | [] => []

/-- Deletes the space in front of each punctuation character. -/
def dropSpaceBefore : List Char → List Char
  | ' ' :: c :: rest =>
    if isWord c then ' ' :: dropSpaceBefore (c :: rest) else c :: dropSpaceBefore rest
  | c :: rest => c :: dropSpaceBefore rest
  | [] => []

/-- One line with no needless space. -/
def reduce (text : String) : List Char :=
  Text.trimBlanks (dropSpaceBefore (dropSpaceAfter (Text.collapseBlanks text.toList)))

def isLowerHex (c : Char) : Bool := c.isDigit || ('a' ≤ c && c ≤ 'f')

/-- Turns each quoted run of hexadecimal digits back into the text it spells. The walk reads at most
`fuel` characters or runs. -/
def restoreFrom : (fuel : Nat) → List Char → Except Malformed (List Char)
  | 0, cs => .ok cs
  | _ + 1, [] => .ok []
  | fuel + 1, c :: rest =>
    let digits := rest.takeWhile isLowerHex
    match c, digits, rest.dropWhile isLowerHex with
    | '"', _ :: _, '"' :: after =>
      match Hex.toText? digits with
      | some s => do return (JsonQuoted.unicode s).toList ++ (← restoreFrom fuel after)
      | none => .error .undecodable
    | _, _, _ => do return c :: (← restoreFrom fuel rest)

def restore (cs : List Char) : Except Malformed String := do
  return String.ofList (← restoreFrom cs.length cs)

/-- A document on one line, with only the blanks that the language needs and every string kept as it
is. -/
def printReduced (document : Tree) : Except Malformed String := do
  restore (reduce (← Printer.print (← document.revise hexNode)))

/-- Why an operation cannot be signed. -/
inductive Error where
  | noOperation (name : String)
  | malformed (m : Malformed)

/-- The named operation with the fragments it reaches. -/
def closeOver (document : Tree) (name : String) : Except Error Tree :=
  match Separate.ofDocument document with
  | .error m => .error (.malformed m)
  | .ok separated => match separated.get? (.text name) with
    | some closed => .ok closed
    | none => .error (.noOperation name)

/-- The text that stands for a closed document: literals hidden unless preserved, sorted, reduced. -/
def ofClosed (preserveLiterals : Bool) (closed : Tree) : Except Malformed String := do
  let shown ← if preserveLiterals then pure closed else Literals.hide closed
  printReduced (← Sort.sort shown)

/-- The signature of one operation of a document. -/
def ofOperation (document : Tree) (name : String) (preserveLiterals : Bool) :
    Except Error String :=
  match closeOver document name with
  | .error e => .error e
  | .ok closed => match ofClosed preserveLiterals closed with
    | .ok s => .ok s
    | .error m => .error (.malformed m)

/-- The identifier of a signature. -/
def identifier (signature : String) : String := Sha256.hexDigest signature

end PersistedOps.Signature

/-!
The arguments of the command line: options that may be shortened to any beginning that only one option
has, their values, and the unit files, which stand together.
-/

namespace PersistedOps.Command

inductive Flag where
  | help | root | outDir | addTypename | preserveLiterals | list | logLevel
deriving DecidableEq, Repr

namespace Flag

/-- Whether a flag comes with a value. -/
def takesValue : Flag → Bool
  | root | outDir | logLevel => true
  | _ => false

end Flag

/-- All spellings of flags. -/
def spellings : List (String × Flag) := [
  ("-h", .help), ("--help", .help), ("--root", .root), ("--out-dir", .outDir),
  ("--add-typename", .addTypename), ("--preserve-literals", .preserveLiterals), ("--list", .list),
  ("--log-level", .logLevel)]

/-- What the arguments ask for. -/
structure Arguments where
  units : List String := []
  root : Option String := none
  outDir : Option String := none
  addTypename : Bool := false
  preserveLiterals : Bool := false
  list : Bool := false
  logLevel : Option String := none
deriving DecidableEq, Repr, Inhabited

/-- Why there is nothing to do: help was asked for, or the arguments are none. -/
inductive Refusal where
  | help
  | usage
deriving DecidableEq, Repr

/-- The exit status of a refusal. -/
def Refusal.status : Refusal → Nat
  | help => 0
  | usage => 2

/-- An argument by its form: a flag as spelled, with a value where one is attached to it; an option
that no flag is; the mark behind which nothing is a flag; or a plain word. -/
inductive Word where
  | flag (flag : Flag) (short : Bool) (attached : Option String)
  | unknown
  | mark
  | plain (text : String)
deriving DecidableEq, Repr

/-- A text cut at its first equals sign. -/
def splitValue (text : String) : String × Option String :=
  let cs := text.toList
  match cs.dropWhile (· ≠ '=') with
  | [] => (text, none)
  | _ :: value => (String.ofList (cs.takeWhile (· ≠ '=')), some (String.ofList value))

/-- Whether a text is a negative number, which is no option. -/
def isNegativeNumber (text : String) : Bool :=
  match text.toList with
  | '-' :: cs =>
    let whole := cs.takeWhile Char.isDigit
    match cs.dropWhile Char.isDigit with
    | [] => !whole.isEmpty
    | '.' :: fraction => !fraction.isEmpty && fraction.all Char.isDigit
    | _ => false
  | _ => false

/-- The flags that a text may be short for, with the value attached to it. -/
def abbreviated (text : String) : List Word :=
  match text.toList with
  | '-' :: '-' :: _ =>
    let (name, value) := splitValue text
    (spellings.filter fun s => name.toList.isPrefixOf s.1.toList).map fun s =>
      .flag s.2 false value
  | '-' :: c :: value =>
    (spellings.filter fun s => s.1 = String.ofList ['-', c]).map fun s =>
      .flag s.2 true (some (String.ofList value))
  | _ => []

/-- The form of an argument in front of the mark. -/
def classify (text : String) : Except Refusal Word :=
  if text.length ≤ 1 ∨ !text.startsWith "-" then .ok (.plain text)
  else match spellings.lookup text with
    | some f => .ok (.flag f (text.length = 2) none)
    | none =>
      let (name, value) := splitValue text
      match value, spellings.lookup name with
      | some _, some f => .ok (.flag f (name.length = 2) value)
      | _, _ => match abbreviated text with
        | [word] => .ok word
        | _ :: _ :: _ => .error .usage
        | [] =>
          if isNegativeNumber text ∨ text.contains ' ' then .ok (.plain text) else .ok .unknown

/-- The forms of all arguments; behind the mark all are plain. -/
def classifyAll : List String → Except Refusal (List Word)
  | [] => .ok []
  | text :: rest =>
    if text = "--" then .ok (.mark :: rest.map .plain)
    else do
      let word ← classify text
      return word :: (← classifyAll rest)

/-- Notes a flag. -/
def Arguments.note (a : Arguments) (value : String) : Flag → Arguments
  | .help => a
  | .root => { a with root := some value }
  | .outDir => { a with outDir := some value }
  | .addTypename => { a with addTypename := true }
  | .preserveLiterals => { a with preserveLiterals := true }
  | .list => { a with list := true }
  | .logLevel => { a with logLevel := some value }

/-- The plain words in front, without the mark among them, and what follows them. -/
def takePlain : List Word → List String × List Word
  | .plain text :: rest => let (units, rest) := takePlain rest; (text :: units, rest)
  | .mark :: rest => takePlain rest
  | rest => ([], rest)

/-- A short flag that takes no value may have others attached: only help is short. -/
def chainsHelp (attached : String) : Bool := attached.toList.all (· = 'h')

/-- Reads the words; `fits` says whether all so far have their place. Help is shown where it is asked
for, even when a later word is wrong. Each step takes a word at least. -/
def read : (fuel : Nat) → (fits : Bool) → Arguments → List Word → Except Refusal Arguments
  | 0, _, _, _ => .error .usage
  | _ + 1, fits, a, [] => if fits ∧ a.units ≠ [] then .ok a else .error .usage
  | fuel + 1, fits, a, word :: rest => match word with
    | .unknown => read fuel false a rest
    | .flag f short attached =>
      if f.takesValue then
        match attached, rest with
        | some value, _ => read fuel fits (a.note value f) rest
        | none, .plain value :: rest => read fuel fits (a.note value f) rest
        | none, _ => .error .usage
      else match attached with
        | some text => if short ∧ text ≠ "" ∧ chainsHelp text then .error .help else .error .usage
        | none => if f = .help then .error .help else read fuel fits (a.note "" f) rest
    | .mark | .plain _ =>
      let (units, after) := takePlain (word :: rest)
      if a.units.isEmpty ∧ units ≠ [] then read fuel fits { a with units } after
      else read fuel false a after

/-- Reads a command line. -/
def parse (argv : List String) : Except Refusal Arguments := do
  let words ← classifyAll argv
  read (words.length + 1) true {} words

end PersistedOps.Command

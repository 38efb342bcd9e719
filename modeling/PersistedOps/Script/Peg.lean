import PersistedOps.Script.Token

/-!
Parsing expressions over tokens, held as data: a grammar maps each rule to an expression, and one
interpreter runs them all. Choices are ordered. The interpreter keeps the furthest token it asked for,
which is where a failed reading went wrong.
-/

namespace PersistedOps.Script

/-- Parsing expressions with their results; `Rule` is the type of rules of each result. -/
inductive Peg (Rule : Type → Type) : Type → Type 1 where
  | pure {α : Type} (value : α) : Peg Rule α
  | token {α : Type} (accept : TokenKind → Option α) : Peg Rule α
  /-- The line of the token that comes next. -/
  | line : Peg Rule Nat
  | rule {α : Type} (r : Rule α) : Peg Rule α
  | map {α β : Type} (f : α → β) (p : Peg Rule α) : Peg Rule β
  | seq {α β : Type} (p : Peg Rule (α → β)) (q : Peg Rule α) : Peg Rule β
  | orElse {α : Type} (p q : Peg Rule α) : Peg Rule α
  | many {α : Type} (p : Peg Rule α) : Peg Rule (List α)
  | ahead {α : Type} (p : Peg Rule α) : Peg Rule Unit
  | notAhead {α : Type} (p : Peg Rule α) : Peg Rule Unit
  /-- Refuses some results for good, each on a line; it may look at the line of the next token. -/
  | judge {α β : Type} (f : α → Option Nat → Except Nat β) (p : Peg Rule α) : Peg Rule β
  /-- A part that only a diagnosing reading reads. -/
  | diagnosing {α : Type} (p : Peg Rule α) : Peg Rule α
  /-- Reads token sequences inside a result to their ends. -/
  | nested {α β : Type} (parts : α → List (List Token)) (inner : Peg Rule β) (p : Peg Rule α) :
      Peg Rule α
  /-- Within brackets, `next` behind `p` is a mistake on the line where `p` began, unless `exempt`
  stood there. Only a diagnosing reading looks for it. -/
  | suspect {α β γ : Type} (exempt : Peg Rule γ) (p : Peg Rule α) (next : Peg Rule β) : Peg Rule α

namespace Peg

variable {Rule : Type → Type}

instance : Functor (Peg Rule) where
  map := Peg.map

instance : Applicative (Peg Rule) where
  pure := Peg.pure
  seq p q := Peg.seq p (q ())

instance {α : Type} : OrElse (Peg Rule α) := ⟨fun p q => Peg.orElse p (q ())⟩

/-- An optional part. -/
def opt {α : Type} (p : Peg Rule α) : Peg Rule (Option α) := (some <$> p) <|> pure none

/-- A part whose result does not matter. -/
def skip {α : Type} (p : Peg Rule α) : Peg Rule Unit := (fun _ => ()) <$> p

def many1 {α : Type} (p : Peg Rule α) : Peg Rule (List α) := (· :: ·) <$> p <*> p.many

/-- One or more parts with separators between them. -/
def sepBy1 {α β : Type} (p : Peg Rule α) (separator : Peg Rule β) : Peg Rule (List α) :=
  (· :: ·) <$> p <*> (separator *> p).many

def sign (spelling : String) : Peg Rule Unit :=
  .token fun k => if k = .sign spelling then some () else none

def keyword (word : String) : Peg Rule Unit :=
  .token fun k => if k = .keyword word then some () else none

/-- A name that acts as a word in some places. -/
def softKeyword (word : String) : Peg Rule Unit :=
  .token fun k => if k = .name word then some () else none

def identifier : Peg Rule String := .token fun
  | .name id => some id
  | _ => none

def kind (wanted : TokenKind) : Peg Rule Unit :=
  .token fun k => if k = wanted then some () else none

end Peg

/-- A place in a token sequence: how many tokens lie behind it, how many brackets are open there, and
the tokens to come. -/
structure Place where
  position : Nat
  depth : Nat
  rest : List Token

/-- How a reading ends: with a result and a place, without one, or with a mistake on a line. The first
two tell how many tokens were asked for. -/
inductive Outcome (α : Type) where
  | done (value : α) (place : Place) (reach : Nat)
  | failed (reach : Nat)
  | mistake (line : Nat)

namespace Outcome

variable {α β : Type}

/-- Goes on from a result; tokens asked for earlier stay asked for. -/
def andThen (o : Outcome α) (next : α → Place → Outcome β) : Outcome β :=
  match o with
  | done a place reach => match next a place with
    | done b place reach' => done b place (max reach reach')
    | failed reach' => failed (max reach reach')
    | mistake line => mistake line
  | failed reach => failed reach
  | mistake line => mistake line

/-- Tries another reading where this one failed. -/
def orTry (o : Outcome α) (other : Outcome α) : Outcome α :=
  match o with
  | failed reach => match other with
    | done b place reach' => done b place (max reach reach')
    | failed reach' => failed (max reach reach')
    | mistake line => mistake line
  | o => o

end Outcome

/-- The interpreter's settings: a grammar, and whether it looks for suspect places. -/
structure Reading (Rule : Type → Type) where
  grammar : {α : Type} → Rule α → Peg Rule α
  diagnosing : Bool

namespace Peg

variable {Rule : Type → Type}

def lineAt (place : Place) : Option Nat := place.rest.head?.map Token.line

/-- Runs a parsing expression; the fuel bounds the depth of the run. A run that would go deeper is
refused for good, so that no choice hides it. -/
def run (g : Reading Rule) : (fuel : Nat) → {α : Type} → Peg Rule α → Place → Outcome α
  | 0, _, _, place => .mistake ((lineAt place).getD 0)
  | fuel + 1, _, p, place => match p with
    | .pure a => .done a place place.position
    | .token accept => match place.rest with
      | [] => .failed (place.position + 1)
      | t :: rest => match accept t.kind with
        | some a => .done a ⟨place.position + 1, t.depth, rest⟩ (place.position + 1)
        | none => .failed (place.position + 1)
    | .line => match place.rest with
      | [] => .failed (place.position + 1)
      | t :: _ => .done t.line place (place.position + 1)
    | .rule r => run g fuel (g.grammar r) place
    | .map f p => (run g fuel p place).andThen fun a place => .done (f a) place place.position
    | .seq p q => (run g fuel p place).andThen fun f place =>
        (run g fuel q place).andThen fun a place => .done (f a) place place.position
    | .orElse p q => match run g fuel p place with
      | .failed reach => (Outcome.failed reach).orTry (run g fuel q place)
      | o => o
    | .many p => match run g fuel p place with
      | .done a next reach =>
        if place.position < next.position then
          (Outcome.done a next reach).andThen fun a next =>
            (run g fuel (.many p) next).andThen fun as next => .done (a :: as) next next.position
        else .done [] place reach
      | .failed reach => .done [] place reach
      | .mistake l => .mistake l
    | .ahead p => (run g fuel p place).andThen fun _ _ => .done () place place.position
    | .notAhead p => match run g fuel p place with
      | .done _ _ reach => .failed reach
      | .failed reach => .done () place reach
      | .mistake l => .mistake l
    | .judge f p => (run g fuel p place).andThen fun a next => match f a (lineAt next) with
      | .ok b => .done b next next.position
      | .error l => .mistake l
    | .diagnosing p => if g.diagnosing then run g fuel p place else .failed place.position
    | .nested parts inner p => (run g fuel p place).andThen fun a next =>
        match runParts (fun part => run g fuel inner ⟨0, 0, part⟩) (parts a) with
        | none => .done a next next.position
        | some l => .mistake (l.getD ((lineAt place).getD 0))
    | .suspect exempt p next => (run g fuel p place).andThen fun a after =>
        if g.diagnosing && after.depth != 0 then
          match run { g with diagnosing := false } fuel exempt place,
              run { g with diagnosing := false } fuel next after with
          | .failed _, .done _ _ _ => .mistake ((lineAt place).getD 0)
          | _, _ => .done a after after.position
        else .done a after after.position
where
  /-- The line of the first part that does not read to its end; the line is unknown when the part ran
  out of tokens. -/
  runParts {β : Type} (read : List Token → Outcome β) : List (List Token) → Option (Option Nat)
    | [] => none
    | part :: parts => match read part with
      | .done _ _ _ => runParts read parts
      | .mistake l => some (some l)
      | .failed reach => some ((part[reach - 1]?).map Token.line)

end Peg

end PersistedOps.Script

import PersistedOps.Script.Peg
import PersistedOps.Script.Syntax

/-!
The rules of the unit language, by the results they read, and what their parsing expressions share.
-/

namespace PersistedOps.Script

/-- The rules, by the results they read. -/
inductive Rule : Type → Type where
  | expression : Rule Expr
  | named : Rule Expr
  | disjunction : Rule Expr
  | conjunction : Rule Expr
  | inversion : Rule Expr
  | comparison : Rule Expr
  | bitOr : Rule Expr
  | bitXor : Rule Expr
  | bitAnd : Rule Expr
  | shift : Rule Expr
  | sum : Rule Expr
  | term : Rule Expr
  | factor : Rule Expr
  | power : Rule Expr
  | primary : Rule Expr
  | atom : Rule Expr
  | starNamed : Rule Expr
  | starExpressions : Rule Expr
  | yielded : Rule Expr
  | slices : Rule Expr
  | arguments (first keywords unpacked : Bool) : Rule (List Expr × Bool)
  | comprehension : Rule Unit
  | parameters (annotated first slash defaulted : Bool) : Rule Unit
  | keywordParameters (annotated : Bool) : Rule Unit
  | pattern : Rule Unit
  | closedPattern : Rule Unit
  | block : Rule Unit
  | otherwise : Rule Unit
  | compound : Rule Statement
  | simple : Rule Statement
  | simpleLine : Rule (List Statement)
  | statement : Rule (List Statement)
  | file : Rule (List Statement)

namespace Grammar

open Peg (opt skip sepBy1 sign identifier)

abbrev G := Peg Rule

/-- A rule as an expression. -/
def ref {α : Type} (r : Rule α) : G α := .rule r

def succeed {α : Type} (a : α) : G α := .pure a

/-- A part that stands for a fixed result. -/
def gives {α β : Type} (b : β) (p : G α) : G β := (fun _ => b) <$> p

def never {α : Type} : G α := .token fun _ => none

def comma : G Unit := sign ","

def colon : G Unit := sign ":"

def oneOf (signs : List String) : G Unit :=
  .token fun
    | .sign s => if s ∈ signs then some () else none
    | _ => none

/-- Names with dots between them. -/
def dotted : G Unit := skip (sepBy1 identifier (sign "."))

/-! Building results -/

/-- A construct whose parts do not matter, at a line. -/
def node (kind : ExpressionKind) (l : Nat) : Expr := .other l kind

/-- The first operand alone, or a construct of all operands. -/
def joined {α : Type} (kind : ExpressionKind) (l : Nat) (first : Expr) (more : List α) : Expr :=
  if more.isEmpty then first else .other l kind

/-- Sums from the left: additions keep their operands. -/
def sumOf (l : Nat) (first : Expr) (more : List (Bool × Expr)) : Expr :=
  more.foldl (fun left e => if e.1 then .add l left e.2 else .other l .binOp) first

/-- Several expressions with commas are a tuple; one without is itself. -/
def tupleOr (l : Nat) (items : List Expr) (trailing : Bool) : Expr :=
  match items, trailing with
  | [e], false => e
  | items, _ => .tuple l items

/-- Items with commas between them and maybe behind them. -/
def listed (item : G Expr) : G (List Expr × Bool) :=
  (fun items trailing => (items, trailing.isSome)) <$> sepBy1 item comma <*> opt comma

def tupled (item : G Expr) : G Expr :=
  (fun l items => tupleOr l items.1 items.2) <$> .line <*> listed item

def starred (value : G Expr) : G Expr := Expr.starred <$> .line <* sign "*" <*> value

/-! Mistakes that only some places show -/

/-- A part that is a mistake wherever it stands. -/
def flaw (p : G Unit) : G Bool := gives true (.diagnosing p)

/-- A result that is a mistake on its line if it has a flaw. -/
def unflawed {α : Type} (r : Nat × α × Bool) (_ : Option Nat) : Except Nat α :=
  if r.2.2 then .error r.1 else .ok r.2.1

end Grammar

end PersistedOps.Script

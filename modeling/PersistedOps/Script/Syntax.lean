import PersistedOps.Scalar
import PersistedOps.Script.Construct

/-!
The syntax of units. What units may use is kept in full; any other construct is kept as its kind and
line, which is all that a message says about it.
-/

namespace PersistedOps.Script

inductive Literal where
  | null
  | bool (b : Bool)
  | int (n : Nat)
  | float (x : Binary64)
  | text (s : Scalar)
  | bytes
  | imaginary
  | ellipsis
deriving DecidableEq, Repr, Inhabited

/-- Expressions, each with the line of its first token. -/
inductive Expr where
  | literal (line : Nat) (value : Literal)
  | name (line : Nat) (identifier : String)
  | list (line : Nat) (items : List Expr)
  | tuple (line : Nat) (items : List Expr)
  /-- Entries with keys; one without a key unpacks another dictionary. -/
  | dict (line : Nat) (entries : List (Option Expr × Expr))
  | subscript (line : Nat) (container key : Expr)
  /-- A call with its positional arguments, and whether it has keyword arguments. -/
  | call (line : Nat) (function : Expr) (arguments : List Expr) (keywords : Bool)
  | negate (line : Nat) (operand : Expr)
  | add (line : Nat) (left right : Expr)
  | starred (line : Nat) (value : Expr)
  | other (line : Nat) (kind : ExpressionKind)
deriving Repr, Inhabited

namespace Expr

def line : Expr → Nat
  | literal l _ | name l _ | list l _ | tuple l _ | dict l _ | subscript l _ _ | call l _ _ _
  | negate l _ | add l _ _ | starred l _ | other l _ => l

def kind : Expr → ExpressionKind
  | literal _ _ => .constant
  | name _ _ => .name
  | list _ _ => .listDisplay
  | tuple _ _ => .tupleDisplay
  | dict _ _ => .dictDisplay
  | subscript _ _ _ => .subscript
  | call _ _ _ _ => .call
  | negate _ _ => .unaryOp
  | add _ _ _ => .binOp
  | starred _ _ => .starred
  | other _ k => k

/-- Whether a single value can be assigned to an expression. -/
def isPlace : Expr → Bool
  | name _ _ | subscript _ _ _ | other _ .attribute => true
  | _ => false

mutual

/-- The line of the first part of an expression that no assignment can bind; `spread` says whether
starred parts can be bound. -/
def misplaced? (spread : Bool) : Expr → Option Nat
  | list _ items | tuple _ items => misplacedIn? spread items
  | starred l value => if spread then misplaced? spread value else some l
  | e => if e.isPlace then none else some e.line

def misplacedIn? (spread : Bool) : List Expr → Option Nat
  | [] => none
  | e :: rest => match misplaced? spread e with
    | some l => some l
    | none => misplacedIn? spread rest

end

end Expr

/-- Statements, each with the line of its first token. -/
inductive Statement where
  | assign (line : Nat) (targets : List Expr) (value : Expr)
  | augmented (line : Nat) (target : Expr) (operator : Operator) (value : Expr)
  | expression (line : Nat) (value : Expr)
  | pass (line : Nat)
  | other (line : Nat) (kind : StatementKind)
deriving Repr, Inhabited

end PersistedOps.Script

import PersistedOps.Script.Grammar.Operation

/-!
What may follow a primary expression, the places that values are bound to, and comprehensions.
-/

namespace PersistedOps.Script.Grammar

open Peg (opt skip many1 sign keyword identifier)

/-- A call's arguments with their closing bracket. -/
def callArguments : G (List Expr × Bool) := ref (.arguments true false false) <* sign ")"

/-- What may follow a primary expression: an attribute, arguments or a subscript. -/
def trailer : G (Nat → Expr → Expr) :=
  ((fun _ l _ => node .attribute l) <$> (sign "." *> identifier))
    <|> ((fun args l f => .call l f args.1 args.2) <$> (sign "(" *> callArguments))
    <|> ((fun key l container => .subscript l container key)
      <$> (sign "[" *> ref .slices <* sign "]"))

def primary : G Expr :=
  (fun l first trailers => trailers.foldl (fun e t => t l e) first)
    <$> .line <*> ref .atom <*> trailer.many

/-- The arguments of a call up to its closing bracket. Positional ones come first; after a keyword
argument only keyword and starred ones may come, after an unpacked dictionary no starred one. A
generator without brackets must be the only argument. -/
def arguments (first keywords unpacked : Bool) : G (List Expr × Bool) :=
  let none : G (List Expr × Bool) := succeed ([], false)
  let more (keywords unpacked : Bool) : G (List Expr × Bool) :=
    (comma *> ref (.arguments false keywords unpacked)) <|> none
  let keywordArgument : G (List Expr × Bool) :=
    (fun r => (r.1, true)) <$> (identifier *> sign "=" *> ref .expression *> more true unpacked)
  let unpackedArgument : G (List Expr × Bool) :=
    (fun r => (r.1, true)) <$> (sign "**" *> ref .expression *> more true true)
  let starredArgument : G (List Expr × Bool) :=
    (fun e r => (e :: r.1, r.2)) <$> starred (ref .expression) <*> more keywords unpacked
  let generator : G (Nat → Expr → List Expr × Bool) :=
    if first then (fun _ l _ => ([node .generatorExp l], false)) <$> ref .comprehension else never
  let positional : G (List Expr × Bool) :=
    (fun l e shape => shape l e) <$> .line <*> ref .named
      <*> (generator <|> (fun r _ e => (e :: r.1, r.2)) <$> more false false)
  keywordArgument <|> unpackedArgument <|> (if unpacked then never else starredArgument)
    <|> (if keywords then never else positional) <|> none

/-- What stands behind the first colon of a slice. -/
def sliceTail : G Unit :=
  opt (ref .expression) *> skip (opt (colon *> opt (ref .expression)))

def slice : G Expr :=
  (node .slice <$> .line <* colon <* sliceTail)
    <|> assigned
    <|> (joined .slice <$> .line <*> ref .expression <*> (Option.toList <$> opt (colon *> sliceTail)))

/-- A subscript's key; several slices or a starred one are a tuple. -/
def slices : G Expr :=
  (fun l items => match items with
      | ([.starred k e], _) => .tuple l [.starred k e]
      | (items, trailing) => tupleOr l items trailing)
    <$> .line <*> listed (slice <|> starred (ref .expression))

/-- A name is bound, so it must be a place; starred places may stand in a tuple. -/
def bindable (spread : Bool) (e : Expr) (_ : Option Nat) : Except Nat Expr :=
  match e.misplaced? spread with
  | some l => .error l
  | none => .ok e

def target : G Expr := starred (ref .primary) <|> ref .primary

def targets : G Expr := .judge (bindable true) (tupled target)

def comprehension : G Unit :=
  skip (many1 (opt (keyword "async") *> keyword "for" *> targets *> keyword "in"
    *> ref .disjunction *> (keyword "if" *> ref .disjunction).many))

end PersistedOps.Script.Grammar

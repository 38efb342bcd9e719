import PersistedOps.Script.Grammar.Basic

/-!
The parameters of functions.
-/

namespace PersistedOps.Script.Grammar

open Peg (opt skip sign identifier)

/-- A parameter's name, with its annotation where those may stand. -/
def parameter (annotated : Bool) : G Unit :=
  if annotated then skip (identifier *> opt (colon *> ref .expression)) else skip identifier

/-- The parameter that collects positional arguments; its annotation may be starred. -/
def collector (annotated : Bool) : G Unit :=
  if annotated then
    skip (identifier *> opt (colon *> (starred (ref .bitOr) <|> ref .expression)))
  else skip identifier

def default : G Unit := skip (sign "=" *> ref .expression)

def keywordParameters (annotated : Bool) : G Unit :=
  (sign "**" *> parameter annotated *> skip (opt comma))
    <|> (parameter annotated *> opt default
      *> skip (opt (comma *> opt (ref (.keywordParameters annotated)))))

/-- Parameters from some place on: whether one came before, whether positional-only ones have ended,
and whether one had a default, after which each must have one. -/
def parameters (annotated first slash defaulted : Bool) : G Unit :=
  let more (slash defaulted : Bool) : G Unit :=
    skip (opt (comma *> opt (ref (.parameters annotated false slash defaulted))))
  let starPart : G Unit :=
    (collector annotated *> skip (opt (comma *> opt (ref (.keywordParameters annotated)))))
      <|> (comma *> .notAhead (sign "**") *> ref (.keywordParameters annotated))
  (sign "*" *> starPart)
    <|> (sign "**" *> parameter annotated *> skip (opt comma))
    <|> (if slash || first then never else sign "/" *> more true defaulted)
    <|> (parameter annotated *> ((default *> more slash true)
      <|> (if defaulted then never else more slash defaulted)))

end PersistedOps.Script.Grammar

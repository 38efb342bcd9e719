import PersistedOps.Script.Grammar.Display

/-!
The patterns of a match statement and its cases.
-/

namespace PersistedOps.Script.Grammar

open Peg (opt skip sepBy1 sign keyword softKeyword identifier)

/-- A number of a kind, which may have a sign. -/
def numberOf (wanted : Numeral → Bool) : G Unit :=
  .token fun
    | .number n => if wanted n then some () else none
    | _ => none

def isImaginary (n : Numeral) : Bool := n = .imaginary

/-- A number, or a sum of a real and an imaginary one. -/
def numberPattern : G Unit :=
  let more : G Unit := (sign "+" <|> sign "-") *> numberOf isImaginary
  opt (sign "-") *> ((numberOf (!isImaginary ·) *> skip (opt more)) <|> numberOf isImaginary)

/-- A pattern that only its own value matches. -/
def literalPattern : G Unit :=
  numberPattern <|> skip texts <|> keyword "None" <|> keyword "True" <|> keyword "False"

/-- A name that a pattern binds. -/
def captured : G Unit := .notAhead (softKeyword "_") *> skip identifier

def starPattern : G Unit := sign "*" *> skip identifier

/-- A name with dots, which stands for a value. -/
def valuePattern : G Unit := identifier *> sign "." *> dotted

/-- The parts of a class pattern: those by position come before those by name. -/
def classArguments : G Unit :=
  let byName : G Unit := identifier *> sign "=" *> ref .pattern
  let byPosition : G Unit := .notAhead (identifier *> sign "=") *> ref .pattern
  let positions : G Unit := skip (sepBy1 byPosition comma)
  let names : G Unit := skip (sepBy1 byName comma)
  skip (opt (((positions *> skip (opt (comma *> names))) <|> names) *> opt comma))

/-- The parts of a mapping pattern: what collects the rest comes last. -/
def mappingItems : G Unit :=
  let rest : G Unit := sign "**" *> captured
  let item : G Unit := (literalPattern <|> valuePattern) *> colon *> ref .pattern
  skip (opt ((rest *> opt comma)
    <|> (sepBy1 item comma *> opt (comma *> rest) *> opt comma)))

/-- Patterns with a comma behind the first; starred ones may be among them. -/
def openSequence : G Unit :=
  let item : G Unit := starPattern <|> ref .pattern
  item *> comma *> skip (opt (sepBy1 item comma *> opt comma))

def closedPattern : G Unit :=
  let item : G Unit := starPattern <|> ref .pattern
  literalPattern
    <|> (dotted *> skip (opt (sign "(" *> classArguments *> sign ")")))
    <|> (sign "(" *> skip (opt (openSequence <|> ref .pattern)) *> sign ")")
    <|> (sign "[" *> skip (opt (sepBy1 item comma *> opt comma)) *> sign "]")
    <|> (sign "\x7b" *> mappingItems *> sign "\x7d")

def pattern : G Unit :=
  sepBy1 (ref .closedPattern) (sign "|") *> skip (opt (keyword "as" *> captured))

def caseBlock : G Unit :=
  softKeyword "case" *> (openSequence <|> ref .pattern) *> opt (keyword "if" *> ref .named)
    *> colon *> ref .block

end PersistedOps.Script.Grammar

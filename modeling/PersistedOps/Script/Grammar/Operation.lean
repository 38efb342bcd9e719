import PersistedOps.Script.Grammar.Basic

/-!
Expressions with operators, from conditionals to powers, and those with a star or a yield before them.
-/

namespace PersistedOps.Script.Grammar

open Peg (opt skip sign keyword softKeyword identifier)

/-- Operands with operators between them. -/
def chain {α : Type} (kind : ExpressionKind) (operand : G Expr) (operator : G α) : G Expr :=
  joined kind <$> .line <*> operand <*> (operator *> operand).many

/-- An operand behind an operator that units may not use. -/
def unaryOther (operator : G Unit) (operand : G Expr) : G Expr :=
  node .unaryOp <$> .line <* operator <* operand

def comparator : G Unit :=
  oneOf ["==", "!=", "<=", "<", ">=", ">"] <|> keyword "in" <|> (keyword "not" *> keyword "in")
    <|> (keyword "is" *> skip (opt (keyword "not")))

/-- A conditional's test and alternative, or a test whose alternative is missing. -/
def condition : G Bool :=
  keyword "if" *> ref .disjunction
    *> (gives false (keyword "else" *> ref .expression) <|> flaw (.notAhead (keyword "else" <|> colon)))

def lambda : G Expr :=
  node .lambdaExpr <$> .line <* keyword "lambda" <* opt (ref (.parameters false true false false))
    <* colon <* ref .expression

/-- Where two expressions side by side do not hint at a missing comma. -/
def commaExempt : G Unit :=
  (identifier *> .token fun
    | .text _ _ => some ()
    | _ => none)
  <|> softKeyword "match" <|> softKeyword "case" <|> softKeyword "_"
  <|> softKeyword "print" <|> softKeyword "exec"

def conditional : G Expr :=
  .judge unflawed ((fun l first condition =>
      (l, joined .ifExp l first condition.toList, condition.getD false))
    <$> .line <*> ref .disjunction <*> opt condition)

def expression : G Expr :=
  .suspect commaExempt conditional (conditional <|> lambda) <|> lambda

/-- An assignment inside an expression. -/
def assigned : G Expr := node .namedExpr <$> .line <* identifier <* sign ":=" <* ref .expression

def named : G Expr := assigned <|> (ref .expression <* .notAhead (sign ":="))

def sum : G Expr :=
  sumOf <$> .line <*> ref .term
    <*> ((·, ·) <$> (gives true (sign "+") <|> gives false (sign "-"))
      <*> ref .term).many

def factor : G Expr :=
  (Expr.negate <$> .line <* sign "-" <*> ref .factor)
    <|> unaryOther (sign "+" <|> sign "~") (ref .factor) <|> ref .power

def awaitedPrimary : G Expr :=
  (node .awaited <$> .line <* keyword "await" <* ref .primary) <|> ref .primary

def power : G Expr :=
  joined .binOp <$> .line <*> awaitedPrimary <*> (Option.toList <$> opt (sign "**" *> ref .factor))

def starExpression : G Expr := starred (ref .bitOr) <|> ref .expression

def starNamed : G Expr := starred (ref .bitOr) <|> ref .named

def yieldedExpression : G Expr :=
  (node .yieldedFrom <$> .line <* keyword "yield" <* keyword "from" <* ref .expression)
    <|> (node .yielded <$> .line <* keyword "yield" <* opt (ref .starExpressions))

end PersistedOps.Script.Grammar

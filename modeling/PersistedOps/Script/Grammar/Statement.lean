import PersistedOps.Script.Grammar.Pattern

/-!
Statements, from blocks of them to the parts of one.
-/

namespace PersistedOps.Script.Grammar

open Peg (opt skip many1 sepBy1 sign keyword softKeyword identifier kind)

def block : G Unit :=
  (kind .newline *> kind .indent *> many1 (ref .statement) *> kind .dedent)
    <|> skip (ref .simpleLine)

/-- A compound or foreign statement at its line. -/
def stated (k : StatementKind) (p : G Unit) : G Statement :=
  (Statement.other · k) <$> .line <* p

def otherwise : G Unit := keyword "else" *> colon *> ref .block

def ifTail : G Unit :=
  (keyword "elif" *> ref .named *> colon *> ref .block).many *> skip (opt (ref .otherwise))

def forHead : G Unit :=
  keyword "for" *> targets *> keyword "in" *> skip (ref .starExpressions)

def forLoop : G Unit := forHead *> colon *> ref .block *> skip (opt (ref .otherwise))

def withItem : G Unit :=
  ref .expression *> skip (opt (keyword "as" *> .judge (bindable true) target))

def withHead : G Unit :=
  (sign "(" *> sepBy1 withItem comma *> opt comma *> sign ")" *> .ahead colon)
    <|> skip (sepBy1 withItem comma)

def withBlock : G Unit := keyword "with" *> withHead *> colon *> ref .block

def functionHead : G Unit :=
  keyword "def" *> identifier *> sign "(" *> opt (ref (.parameters true true false false))
    *> sign ")" *> skip (opt (sign "->" *> ref .expression))

def function : G Unit := functionHead *> colon *> ref .block

def classBlock : G Unit :=
  keyword "class" *> identifier *> opt (sign "(" *> ref (.arguments false false false) *> sign ")")
    *> colon *> ref .block

def handler (star : G Unit) : G Unit :=
  keyword "except" *> star *> ref .expression *> opt (keyword "as" *> identifier) *> colon
    *> ref .block

def bareHandler : G Unit := keyword "except" *> colon *> ref .block

def finally_ : G Unit := keyword "finally" *> colon *> ref .block

def tryHead : G Unit := keyword "try" *> colon *> ref .block

def tryStatement : G Statement :=
  (fun l k => Statement.other l k) <$> .line <* tryHead
    <*> (gives .tryStmt finally_
      <|> gives .tryStar (many1 (handler (sign "*")) *> opt (ref .otherwise) *> opt finally_)
      <|> gives .tryStmt (many1 (handler (succeed ()) <|> bareHandler) *> opt (ref .otherwise)
        *> opt finally_))

def decorators : G Unit := skip (many1 (sign "@" *> ref .named *> kind .newline))

def matchStatement : G Unit :=
  softKeyword "match" *> tupled (ref .starNamed) *> colon *> kind .newline *> kind .indent
    *> many1 caseBlock *> kind .dedent

def definition : G Statement :=
  stated .functionDef function <|> stated .classDef classBlock
    <|> stated .asyncFunctionDef (keyword "async" *> function)

def compound : G Statement :=
  definition <|> (decorators *> definition)
    <|> stated .ifStmt (keyword "if" *> ref .named *> colon *> ref .block *> ifTail)
    <|> stated .withStmt withBlock <|> stated .asyncWith (keyword "async" *> withBlock)
    <|> stated .forStmt forLoop <|> stated .asyncFor (keyword "async" *> forLoop)
    <|> tryStatement
    <|> stated .whileStmt (keyword "while" *> ref .named *> colon *> ref .block
      *> skip (opt (ref .otherwise)))
    <|> stated .matchStmt matchStatement

def rightSide : G Expr := ref .yielded <|> ref .starExpressions

def operator : G Operator :=
  .token fun
    | .sign s => [Operator.add, .sub, .mult, .matMult, .div, .mod, .pow, .lShift, .rShift, .bitOr,
        .bitXor, .bitAnd, .floorDiv].find? fun o => o.sign = s
    | _ => none

/-- A single place is assigned to. -/
def place (e : Expr) (_ : Option Nat) : Except Nat Expr :=
  if e.isPlace then .ok e else .error e.line

def annotation : G Statement :=
  (fun l _ => Statement.other l .annAssign) <$> .line
    <*> (.judge place (ref .starExpressions <* colon))
    <* ref .expression <* opt (sign "=" *> rightSide)

def augmented : G Statement :=
  (fun l head value => Statement.augmented l head.1 head.2 value) <$> .line
    <*> .judge (fun e _ => (place e.1 none).map fun t => (t, e.2))
      ((·, ·) <$> ref .starExpressions <*> operator)
    <*> rightSide

def assignment : G Statement :=
  (fun l targets value =>
      if targets.isEmpty then Statement.expression l value else .assign l targets value)
    <$> .line <*> (Peg.judge (bindable true) (ref .starExpressions <* sign "=")).many <*> rightSide

def importNames : G Unit :=
  skip (sepBy1 (dotted *> opt (keyword "as" *> identifier)) comma)

def importedNames : G Unit :=
  let names : G Unit := skip (sepBy1 (identifier *> opt (keyword "as" *> identifier)) comma)
  sign "*" <|> (sign "(" *> names *> opt comma *> sign ")") <|> (names *> .notAhead comma)

def importFrom : G Unit :=
  let dots : G Unit := sign "." <|> sign "..."
  keyword "from" *> ((dots.many *> dotted) <|> skip (many1 dots)) *> keyword "import"
    *> importedNames

def names : G Unit := skip (sepBy1 identifier comma)

def deleted : G Unit :=
  skip (.judge (bindable false) (tupled (ref .primary)))

def simple : G Statement :=
  (Statement.pass <$> .line <* keyword "pass")
    <|> stated .breakStmt (keyword "break") <|> stated .continueStmt (keyword "continue")
    <|> stated .returnStmt (keyword "return" *> skip (opt (ref .starExpressions)))
    <|> stated .importStmt (keyword "import" *> importNames) <|> stated .importFrom importFrom
    <|> stated .raiseStmt (keyword "raise" *> skip (opt (ref .expression
      *> opt (keyword "from" *> ref .expression))))
    <|> stated .deleteStmt (keyword "del" *> deleted)
    <|> stated .assertStmt (keyword "assert" *> ref .expression
      *> skip (opt (comma *> ref .expression)))
    <|> stated .globalStmt (keyword "global" *> names)
    <|> stated .nonlocalStmt (keyword "nonlocal" *> names)
    <|> annotation <|> augmented <|> assignment

def simpleLine : G (List Statement) :=
  sepBy1 (ref .simple) (sign ";") <* opt (sign ";") <* kind .newline

def statement : G (List Statement) :=
  ((fun s => [s]) <$> ref .compound) <|> ref .simpleLine

def file : G (List Statement) := List.flatten <$> (ref .statement : G _).many <* kind .finish

end PersistedOps.Script.Grammar

import PersistedOps.Script.Grammar.Primary
import PersistedOps.Script.TextLiteral

/-!
Expressions in brackets and single values.
-/

namespace PersistedOps.Script.Grammar

open Peg (opt many1 sign keyword identifier)

/-- Items behind a first one, up to the closing bracket: a comma before each, and maybe a last. -/
def others {α : Type} (item : G α) : G (List α × Bool) :=
  (fun items trailing => (items, trailing.isSome)) <$> (comma *> item).many <*> opt comma

/-- How a display goes on behind its first item, given its line and that item; a flaw is a mistake on
the first item's line. -/
abbrev Shape := G (Nat → Expr → Expr × Bool)

/-- A comprehension of a kind. -/
def comprehended (kind : ExpressionKind) : Shape :=
  (fun _ l _ => (node kind l, false)) <$> ref .comprehension

/-- A comprehension where none may stand. -/
def strayComprehension : G Bool := flaw (ref .comprehension) <|> succeed false

/-- A display from its first item on. -/
def shaped (first : G Expr) (shape : Shape) (closing : String) : G (Nat → Expr) :=
  .judge (fun r _ => match r with
      | (l, e, f) => if (f 0 e).2 then .error l else .ok fun line => (f line e).1)
    ((fun l e shape => (l, e, shape)) <$> .line <*> first <*> shape) <* sign closing

/-- Round brackets: an empty tuple, a tuple, a generator, or an expression in brackets. -/
def parenthesised : G Expr :=
  let tupleTail : Shape :=
    (fun items l first => (.tuple l (first :: items.1), false))
      <$> (.ahead comma *> others (ref .starNamed))
  let stray : Shape :=
    (fun _ _ first => (first, true)) <$> flaw (.ahead (sign ")") <|> ref .comprehension)
  (fun l e => e l) <$> .line <* sign "("
    <*> (gives (fun l => Expr.tuple l []) (sign ")")
      <|> shaped (starred (ref .bitOr)) (tupleTail <|> stray) ")"
      <|> ((fun e _ => e) <$> ref .yielded <* sign ")")
      <|> shaped (ref .named)
        (tupleTail <|> comprehended .generatorExp <|> succeed fun _ first => (first, false)) ")")

/-- Square brackets: a list or a comprehension. -/
def bracketed : G Expr :=
  let listTail : Shape :=
    (fun items stray l first => (.list l (first :: items.1), stray))
      <$> others (ref .starNamed) <*> strayComprehension
  (fun l e => e l) <$> .line <* sign "["
    <*> (gives (fun l => Expr.list l []) (sign "]")
      <|> shaped (starred (ref .bitOr)) listTail "]"
      <|> shaped (ref .named) (comprehended .listComp <|> listTail) "]")

/-- The value of a dictionary's entry with the colon before it. A colon without a value is a mistake on
its line. -/
def entryValue : G Expr :=
  .judge unflawed
    ((fun l (e : Option Expr) => (l, e.getD (.tuple l []), e.isNone)) <$> .line
      <*> (colon *> ((some <$> ref .expression)
        <|> gives none (.diagnosing (.ahead (comma <|> sign "\x7d"))))))

/-- A dictionary's entry. A key without a colon is a mistake on the key's line. -/
def entry : G (Option Expr × Expr) :=
  ((fun e => (none, e)) <$> (sign "**" *> ref .bitOr))
    <|> .judge unflawed
      ((fun l key (value : Option Expr) => (l, (some key, value.getD key), value.isNone))
        <$> .line <*> ref .expression
        <*> ((some <$> entryValue) <|> gives none (.diagnosing (.notAhead colon))))

/-- Braces: a dictionary, a set or a comprehension of one. The first item tells which. -/
def braced : G Expr :=
  let dictTail : G ((Option Expr × Expr) → Nat → Expr) :=
    (fun items first l => Expr.dict l (first :: items.1)) <$> others entry
  let setTail : Shape :=
    (fun _ stray l _ => (node .setDisplay l, stray)) <$> others (ref .starNamed)
      <*> strayComprehension
  let keyed : Shape :=
    (fun value tail l key => (tail (some key, value) l, false)) <$> entryValue
      <*> (((fun _ _ l => node .dictComp l) <$> ref .comprehension) <|> dictTail)
  (fun l e => e l) <$> .line <* sign "\x7b"
    <*> (gives (fun l => Expr.dict l []) (sign "\x7d")
      <|> ((fun e tail l => tail (none, e) l) <$> (sign "**" *> ref .bitOr) <*> dictTail
        <* sign "\x7d")
      <|> shaped (starred (ref .bitOr)) setTail "\x7d"
      <|> shaped assigned (comprehended .setComp <|> setTail) "\x7d"
      <|> shaped (ref .expression) (keyed <|> comprehended .setComp <|> setTail) "\x7d")

def textPart : G TextLiteral.Part :=
  (fun l p => ⟨l, p.1, p.2⟩) <$> .line <*> .token fun
    | .text flags body => some (flags, body)
    | _ => none

/-- Text literals side by side. A mistake in one shows at the token behind them. -/
def texts : G Expr :=
  .judge (fun parts next =>
      let l := (parts.head?.map TextLiteral.Part.line).getD 0
      match TextLiteral.value l parts with
      | some e => .ok e
      | none => .error (next.getD l))
    (.nested TextLiteral.fieldTokens (ref .starExpressions) (many1 textPart))

def numeral : G Expr :=
  .judge (fun e _ => match e with
      | (l, Numeral.int n) => .ok (Expr.literal l (.int n))
      | (l, Numeral.float x) => .ok (.literal l (.float x))
      | (l, Numeral.imaginary) => .ok (.literal l .imaginary)
      | (l, Numeral.tooLong) => .error l)
    ((·, ·) <$> .line <*> .token fun
      | .number n => some n
      | _ => none)

/-- A keyword or a sign with a value. -/
def word (value : Literal) (p : G Unit) : G Expr := (Expr.literal · value) <$> .line <* p

def atom : G Expr :=
  (Expr.name <$> .line <*> identifier) <|> numeral <|> texts <|> word .null (keyword "None")
    <|> word (.bool true) (keyword "True") <|> word (.bool false) (keyword "False")
    <|> word .ellipsis (sign "...") <|> parenthesised <|> bracketed <|> braced

end PersistedOps.Script.Grammar

import PersistedOps.Script.Grammar.Operation
import PersistedOps.Script.Grammar.Parameter
import PersistedOps.Script.Grammar.Statement

/-!
The grammar of the unit language. It takes every statement and expression of the full language, so
that what units may not use is named and not merely refused; only the subset keeps its structure.
-/

namespace PersistedOps.Script

open Grammar in
/-- The expression that each rule stands for. -/
def grammar : {α : Type} → Rule α → Peg Rule α
  | _, .expression => expression
  | _, .named => named
  | _, .disjunction => chain .boolOp (.rule .conjunction) (Peg.keyword "or")
  | _, .conjunction => chain .boolOp (.rule .inversion) (Peg.keyword "and")
  | _, .inversion => unaryOther (Peg.keyword "not") (.rule .inversion) <|> .rule .comparison
  | _, .comparison => chain .compare (.rule .bitOr) comparator
  | _, .bitOr => chain .binOp (.rule .bitXor) (Peg.sign "|")
  | _, .bitXor => chain .binOp (.rule .bitAnd) (Peg.sign "^")
  | _, .bitAnd => chain .binOp (.rule .shift) (Peg.sign "&")
  | _, .shift => chain .binOp (.rule .sum) (oneOf ["<<", ">>"])
  | _, .sum => Grammar.sum
  | _, .term => chain .binOp (.rule .factor) (oneOf ["*", "/", "//", "%", "@"])
  | _, .factor => factor
  | _, .power => power
  | _, .primary => primary
  | _, .atom => atom
  | _, .starNamed => starNamed
  | _, .starExpressions => tupled starExpression
  | _, .yielded => yieldedExpression
  | _, .slices => slices
  | _, .arguments first keywords unpacked => arguments first keywords unpacked
  | _, .comprehension => comprehension
  | _, .parameters annotated first slash defaulted => parameters annotated first slash defaulted
  | _, .keywordParameters annotated => keywordParameters annotated
  | _, .pattern => pattern
  | _, .closedPattern => closedPattern
  | _, .block => block
  | _, .otherwise => otherwise
  | _, .compound => compound
  | _, .simple => simple
  | _, .simpleLine => simpleLine
  | _, .statement => statement
  | _, .file => file

end PersistedOps.Script

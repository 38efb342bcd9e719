import PersistedOps.Script.Grammar

/-!
Sources read to statements, and the line on which a source that is none is wrong.
-/

namespace PersistedOps.Script

/-- How deep a reading of so many tokens can go. -/
def readingDepth (tokens : Nat) : Nat := 400 * (tokens + 10)

/-- Reads the tokens of a source. -/
def readTokens (diagnosing : Bool) (tokens : List Token) : Outcome (List Statement) :=
  Peg.run ⟨grammar, diagnosing⟩ (readingDepth tokens.length) (.rule .file) ⟨0, 0, tokens⟩

/-- The line of the mistake in tokens that did not read, if they hold it: one that reading them meets, or
one that a diagnosing reading finds, or the first token that does not fit. -/
def mistakeLine? (first : Outcome (List Statement)) (tokens : List Token) : Option Nat :=
  match first with
  | .done _ _ _ => none
  | .mistake line => some line
  | .failed reach => (tokens[reach - 1]?).map fun token =>
    match readTokens true tokens with
    | .mistake line => line
    | _ => token.line

/-- Whether a reading failed where a line is indented for no reason. -/
def stoppedAtMargin (first : Outcome (List Statement)) (tokens : List Token) : Bool :=
  match first with
  | .failed reach => (tokens[reach - 1]?).any fun t => t.kind = .indent
  | _ => false

/-- The line on which a source is wrong whose tokens did not read. A needless indentation is told first,
then a place where no token can be read at all. A bracket that is never closed is told where the
reading went on behind its line. -/
def errorLine (lexed : Lexed) (first : Outcome (List Statement)) : Nat :=
  let line? := mistakeLine? first lexed.tokens
  if stoppedAtMargin first lexed.tokens then line?.getD 0
  else match lexed.ending, line? with
    | .rejected l, _ => l
    | .stuck l, none => l
    | .unfinished l, none => lexed.openLine.getD l
    | .complete, line? => line?.getD 0
    | _, some l => match lexed.openLine with
      | some opened => if opened < l then opened else l
      | none => l

/-- Reads a source; one that is no unit is wrong on a line. -/
def parse (source : String) : Except Nat (List Statement) :=
  let lexed := Lexer.lex source
  match lexed.ending, readTokens false lexed.tokens with
  | .complete, .done statements _ _ => .ok statements
  | _, first => .error (errorLine lexed first)

end PersistedOps.Script

import PersistedOps.Proofs.Results
import PersistedOps.Script.Extract

/-!
What a source says, told from its characters. A long source is given in pieces, and its characters are
those of the pieces; reading them from there is what makes a run on such a source quick to check.
-/

namespace PersistedOps.Script

/-- The tokens of a source of these characters. -/
def Lexer.lexCharacters (cs : List Char) : Lexed :=
  let cs := normalizeLines cs
  let cs := if cs.isEmpty then ['\n'] else cs
  run (2 * cs.length + 2) ⟨cs, 1, [], []⟩ true

/-- The statements of a source of these characters. -/
def parseCharacters (cs : List Char) : Except Nat (List Statement) :=
  let lexed := Lexer.lexCharacters cs
  match lexed.ending, readTokens false lexed.tokens with
  | .complete, .done statements _ _ => .ok statements
  | _, first => .error (errorLine lexed first)

/-- What a source of these characters says. -/
def extractCharacters (file : String) (cs : List Char) : Except Failure Extracted :=
  if '\x00' ∈ cs then .error .unexpected
  else match parseCharacters cs with
    | .error line => .error (.extraction .invalidSource file (some line))
    | .ok statements => match Evaluation.run statements with
      | .error h => .error (h.failure file)
      | .ok s => (s.exported file).map (⟨·, s.references⟩)

theorem parse_eq_characters (source : String) : parse source = parseCharacters source.toList := by
  unfold parse parseCharacters Lexer.lex Lexer.lexCharacters
  rfl

theorem extract_eq_characters (file source : String) :
    extract file source = extractCharacters file source.toList := by
  have h := parse_eq_characters source
  unfold extract extractCharacters
  generalize parse source = r at h ⊢
  subst h
  rfl

/-- A source is checked by running it once: it says something, and all that the check tells holds. -/
theorem exists_of_check (file source : String) (check : List Statement → Sandbox → Bool) {cs : List Char}
    (hcs : source.toList = cs)
    (h : (decide ('\x00' ∉ cs) && (parseCharacters cs).toOption.any fun statements =>
      (Evaluation.run statements).toOption.any fun s =>
        (s.exported file).toOption.isSome && check statements s) = true) :
    ∃ statements s d, extract file source = .ok ⟨d, s.references⟩ ∧ parse source = .ok statements ∧
      Evaluation.run statements = .ok s ∧ check statements s = true := by
  obtain ⟨hnull, h⟩ := Bool.and_eq_true_iff.mp h
  obtain ⟨statements, hstatements, h⟩ := (Option.any_eq_true _ _).mp h
  obtain ⟨s, hs, h⟩ := (Option.any_eq_true _ _).mp h
  obtain ⟨hexports, hcheck⟩ := Bool.and_eq_true_iff.mp h
  obtain ⟨d, hd⟩ := Option.isSome_iff_exists.mp hexports
  have hparse : parse source = .ok statements := by
    rw [parse_eq_characters, hcs]
    exact eq_ok_of_toOption hstatements
  have hrun := eq_ok_of_toOption hs
  refine ⟨statements, s, d, ?_, hparse, hrun, hcheck⟩
  rw [extract, hcs, if_neg (of_decide_eq_true hnull), hparse]
  simp only [hrun, eq_ok_of_toOption hd]
  rfl

theorem toList_pieces {first more : String} {cs ds : List Char} (hfirst : first.toList = cs)
    (hmore : more.toList = ds) : (first ++ more).toList = cs ++ ds := by
  rw [String.toList_append, hfirst, hmore]

end PersistedOps.Script

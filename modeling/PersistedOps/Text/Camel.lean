/-!
Names with humps turned into names with underscores.
-/

namespace PersistedOps.Camel

/-- The lower case of a character as far as it matters to ASCII names: the Kelvin sign is the one
character outside ASCII with an ASCII lower case. -/
def lower (c : Char) : Char := if c = '\u212A' then 'k' else c.toLower

/-- Lower-case text with an underscore in front of each capital that was not the first character. -/
def toSnake (name : String) : String :=
  let spread (c : Char) : List Char := if 'A' ≤ c ∧ c ≤ 'Z' then ['_', lower c] else [lower c]
  match name.toList with
  | [] => ""
  | c :: cs => String.ofList (lower c :: cs.flatMap spread)

end PersistedOps.Camel

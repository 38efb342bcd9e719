/-!
Text cut at a separator. Joined by the separator, the pieces give the text back, and none of them holds
it.
-/

namespace PersistedOps.Text

/-- The pieces between separators; there is always at least one. -/
def pieces (separator : Char) : List Char → List (List Char)
  | [] => [[]]
  | c :: cs =>
    if c = separator then [] :: pieces separator cs
    else match pieces separator cs with
      | [] => [[c]]
      | p :: ps => (c :: p) :: ps

theorem pieces_ne_nil (separator : Char) (cs : List Char) : pieces separator cs ≠ [] := by
  cases cs with
  | nil => simp [pieces]
  | cons c cs =>
    rw [pieces]
    split
    · simp
    · split <;> simp

theorem intercalate_pieces (separator : Char) (cs : List Char) :
    [separator].intercalate (pieces separator cs) = cs := by
  induction cs with
  | nil => simp [pieces]
  | cons c cs ih =>
    obtain ⟨p, ps, h⟩ := List.exists_cons_of_ne_nil (pieces_ne_nil separator cs)
    rw [pieces]
    split
    · next hc => subst hc; rw [h] at ih ⊢; simpa [List.intercalate] using ih
    · rw [h] at ih ⊢
      cases ps <;> simpa [List.intercalate] using ih

theorem not_mem_of_mem_pieces {separator : Char} {cs p : List Char}
    (h : p ∈ pieces separator cs) : separator ∉ p := by
  induction cs generalizing p with
  | nil => simp_all [pieces]
  | cons c cs ih =>
    obtain ⟨q, qs, hq⟩ := List.exists_cons_of_ne_nil (pieces_ne_nil separator cs)
    rw [pieces] at h
    split at h
    · rcases List.mem_cons.1 h with rfl | h
      · simp
      · exact ih h
    · next hc =>
      rw [hq] at h ih
      rcases List.mem_cons.1 h with rfl | h
      · have := ih (p := q) (by simp)
        simp [Ne.symm hc, this]
      · exact ih (by simp [h])

end PersistedOps.Text

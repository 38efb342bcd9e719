import PersistedOps.Proofs.Document.Restore
import PersistedOps.Proofs.Text.JsonQuoted

/-!
Reading a line. The lexemes that were put in a line are read back from it, so two lines with one
text have the same lexemes.
-/

namespace PersistedOps

open Signature (isWord)
open Text (isBlank)

namespace Lexeme

/-- The lexemes of a line with its literals in quotes. At most `fuel` of them and the blanks between
them are read. -/
def readLine : (fuel : Nat) → List Char → List Lexeme
  | 0, _ => []
  | _ + 1, [] => []
  | fuel + 1, c :: cs =>
    if isWord c then
      .word ((c :: cs).takeWhile isWord) :: readLine fuel ((c :: cs).dropWhile isWord)
    else if isBlank c then readLine fuel cs
    else if c = '"' then
      match JsonQuoted.unquote cs.length cs with
      | some (s, rest) => .text (String.ofList s) :: readLine fuel rest
      | none => []
    else .mark c :: readLine fuel cs

theorem head?_renderFrom_true {ts : List Lexeme} (h : ∀ t ∈ ts, t.Proper) :
    ∀ c ∈ (renderFrom true ts).head?, isWord c = false := by
  match ts with
  | [] => simp [renderFrom]
  | .word w :: ts =>
      intro c hc
      obtain rfl : ' ' = c := by simpa [renderFrom] using hc
      decide
  | .mark d :: ts =>
      intro c hc
      obtain rfl : d = c := by simpa [renderFrom] using hc
      exact (h (.mark d) (by simp)).1
  | .text s :: ts =>
      intro c hc
      obtain rfl : '"' = c := by
        simpa [renderFrom, JsonQuoted.unicode, JsonQuoted.quote] using hc
      decide

/-- A word ends where no word character follows. -/
theorem takeWhile_word {w cs : List Char} (hw : ∀ c ∈ w, isWord c)
    (hcs : ∀ c ∈ cs.head?, isWord c = false) :
    (w ++ cs).takeWhile isWord = w ∧ (w ++ cs).dropWhile isWord = cs := by
  rw [List.takeWhile_append_of_pos hw, List.dropWhile_append_of_pos hw]
  cases cs with
  | nil => simp
  | cons c cs =>
      have hc : isWord c = false := hcs c rfl
      simp [hc]

theorem readLine_word {w : List Char} {cs : List Char} (fuel : Nat) (hne : w ≠ [])
    (hw : ∀ c ∈ w, isWord c) (hcs : ∀ c ∈ cs.head?, isWord c = false) :
    readLine (fuel + 1) (w ++ cs) = .word w :: readLine fuel cs := by
  obtain ⟨htake, hdrop⟩ := takeWhile_word hw hcs
  obtain ⟨c, w, rfl⟩ := List.exists_cons_of_ne_nil hne
  rw [List.cons_append] at htake hdrop ⊢
  rw [readLine, if_pos (hw c (by simp)), htake, hdrop]

theorem readLine_text (fuel : Nat) (s : String) (cs : List Char) :
    readLine (fuel + 1) ((JsonQuoted.unicode s).toList ++ cs) = .text s :: readLine fuel cs := by
  have hline : (JsonQuoted.unicode s).toList ++ cs
      = '"' :: (s.toList.flatMap (JsonQuoted.escape JsonQuoted.isNoControl) ++ '"' :: cs) := by
    simp [JsonQuoted.unicode, JsonQuoted.quote]
  have hlength := JsonQuoted.length_le_escaped JsonQuoted.isNoControl s.toList
  rw [hline, readLine, if_neg (by decide), if_neg (by decide), if_pos rfl,
    JsonQuoted.unquote_quote cs (by rw [List.length_append]; omega)]
  simp

/-- A line is read back as the lexemes that were put in it. -/
theorem readLine_renderFrom {ts : List Lexeme} (b : Bool) {fuel : Nat} (h : ∀ t ∈ ts, t.Proper)
    (hfuel : 2 * ts.length ≤ fuel) : readLine fuel (renderFrom b ts) = ts := by
  induction ts generalizing b fuel with
  | nil => cases fuel <;> rfl
  | cons t ts ih =>
      have hrest := fun u hu => h u (List.mem_cons_of_mem t hu)
      rw [List.length_cons] at hfuel
      obtain ⟨fuel, rfl⟩ := Nat.exists_eq_add_of_le' (show 2 ≤ fuel by omega)
      cases t with
      | word w =>
          obtain ⟨hne, hw⟩ := h (.word w) (by simp)
          have hnext := head?_renderFrom_true hrest
          cases b with
          | true =>
              rw [renderFrom, if_pos rfl, List.append_assoc, List.singleton_append, readLine,
                if_neg (by decide), if_pos (by decide), readLine_word fuel hne hw hnext,
                ih true hrest (by omega)]
          | false =>
              rw [renderFrom, if_neg (by simp), List.nil_append,
                readLine_word (fuel + 1) hne hw hnext, ih true hrest (by omega)]
      | mark c =>
          obtain ⟨hword, hblank, hquote⟩ := h (.mark c) (by simp)
          rw [renderFrom, readLine, if_neg (by simp [hword]), if_neg (by simp [hblank]),
            if_neg hquote, ih false hrest (by omega)]
      | text s => rw [renderFrom, readLine_text (fuel + 1), ih false hrest (by omega)]

/-- Two lines with one text have the same lexemes. -/
theorem render_injective {ts us : List Lexeme} (hts : ∀ t ∈ ts, t.Proper)
    (hus : ∀ u ∈ us, u.Proper) (h : render ts = render us) : ts = us := by
  have hread : readLine (2 * (ts.length + us.length)) (render ts) = ts :=
    readLine_renderFrom false hts (by omega)
  rw [h, render, readLine_renderFrom false hus (by omega)] at hread
  exact hread.symm

end Lexeme

end PersistedOps

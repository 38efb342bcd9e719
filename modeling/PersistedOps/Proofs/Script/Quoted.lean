import PersistedOps.Proofs.Script.Attachment
import PersistedOps.Proofs.Script.Scanning
import PersistedOps.Proofs.Text.JsonQuoted

/-!
JSON quotes as literals of units. Both languages of escapes agree on every escape that is written, but a
unit reads each escape as a character of its own: a character above U+FFFF, which is written as two, comes
back as two surrogates.
-/

namespace PersistedOps.Script

open JsonQuoted (isPrintableAscii unit units short?)
open Script.Lexer (scanShort scanQuoted scanShort_cons scanShort_escape)

namespace TextLiteral

variable {unicode : Bool} {fuel : Nat} {c : Char} {rest : List Char}

theorem unescape_cons (hc : c ≠ '\\') :
    unescape unicode (fuel + 1) (c :: rest) = (unescape unicode fuel rest).map ([c.toNat] ++ ·) := by
  rw [unescape]
  · cases unescape unicode fuel rest <;> rfl
  · exact fun heq => hc heq

theorem unescape_escape {points : List Nat} {after : List Char}
    (h : escape unicode rest = some (points, after)) :
    unescape unicode (fuel + 1) ('\\' :: rest) = (unescape unicode fuel after).map (points ++ ·) := by
  rw [unescape, h]
  simp only [Option.bind_eq_bind, Option.bind_some]
  cases unescape unicode fuel after <;> rfl

theorem escape_short {n : Nat} (h : simpleEscape? c = some n) :
    escape unicode (c :: rest) = some ([n], rest) := by
  have hc : c ≠ '\n' := by
    rintro rfl
    cases h
  rw [escape, if_neg hc, h]

/-- A 16-bit unit is read from its digits. -/
theorem escape_unit {n : Nat} (h : n < 0x10000) :
    escape true ('u' :: Hex.ofNat 4 n ++ rest) = some ([n], rest) := by
  have hlength := Hex.length_ofNat 4 n
  have htake : (Hex.ofNat 4 n ++ rest).take 4 = Hex.ofNat 4 n := List.take_left' hlength
  have hdrop : (Hex.ofNat 4 n ++ rest).drop 4 = rest := List.drop_left' hlength
  have hread : takeHex 4 (Hex.ofNat 4 n ++ rest) = some (n, rest) := by
    rw [takeHex, htake, hdrop, if_pos hlength, Hex.toNat?_ofNat h]
    rfl
  show (takeHex 4 (Hex.ofNat 4 n ++ rest)).map _ = _
  rw [hread]
  rfl

end TextLiteral

/-! ### Pieces of a literal -/

/-- A piece of a literal's body that is passed over in search of the closing quote, and the code points
that it spells wherever it stands. -/
structure Piece (piece : List Char) (points : List Nat) : Prop where
  scan : ∀ rest, scanShort '"' (piece ++ rest)
    = (scanShort '"' rest).map fun r => (piece ++ r.1, r.2)
  unescape : ∀ fuel rest, (piece ++ rest).length ≤ fuel → ∃ left, rest.length ≤ left ∧
    TextLiteral.unescape true fuel (piece ++ rest) = (TextLiteral.unescape true left rest).map (points ++ ·)

namespace Piece

variable {piece others : List Char} {points morePoints : List Nat}

theorem nil : Piece [] [] where
  scan rest := by simp
  unescape fuel rest h := ⟨fuel, h, by simp⟩

theorem append (h : Piece piece points) (h' : Piece others morePoints) :
    Piece (piece ++ others) (points ++ morePoints) where
  scan rest := by
    rw [List.append_assoc, h.scan, h'.scan, Option.map_map]
    simp [Function.comp_def]
  unescape fuel rest hfuel := by
    rw [List.append_assoc] at hfuel ⊢
    obtain ⟨middle, hmiddle, hfirst⟩ := h.unescape fuel (others ++ rest) hfuel
    obtain ⟨left, hleft, hsecond⟩ := h'.unescape middle rest hmiddle
    refine ⟨left, hleft, ?_⟩
    rw [hfirst, hsecond, Option.map_map]
    simp [Function.comp_def]

/-- A character that stands for itself. -/
theorem plain {c : Char} (hquote : c ≠ '"') (hback : c ≠ '\\') (hbreak : c ≠ '\n') :
    Piece [c] [c.toNat] where
  scan rest := by
    rw [List.singleton_append, scanShort_cons hback, if_neg hquote, if_neg hbreak]
    rfl
  unescape fuel rest hfuel := by
    rw [List.length_append, List.length_singleton] at hfuel
    obtain ⟨left, rfl⟩ : ∃ left, fuel = left + 1 := ⟨fuel - 1, by omega⟩
    exact ⟨left, by omega, TextLiteral.unescape_cons hback⟩

/-- A run of digits stands for itself in search of the closing quote. -/
theorem scan_digits {ds : List Char} (h : ∀ d ∈ ds, ∃ m : Fin 16, d = Hex.digit m) (rest : List Char) :
    scanShort '"' (ds ++ rest) = (scanShort '"' rest).map fun r => (ds ++ r.1, r.2) := by
  have hdigit : ∀ m : Fin 16, Hex.digit m ≠ '"' ∧ Hex.digit m ≠ '\\' ∧ Hex.digit m ≠ '\n' := by decide
  induction ds with
  | nil => simp
  | cons d ds ih =>
      obtain ⟨⟨m, rfl⟩, hds⟩ := List.forall_mem_cons.mp h
      obtain ⟨hquote, hback, hbreak⟩ := hdigit m
      rw [List.cons_append, scanShort_cons hback, if_neg hquote, if_neg hbreak, ih hds, Option.map_map]
      rfl

/-- An escape of two characters. -/
theorem short {c : Char} {n : Nat} (h : TextLiteral.simpleEscape? c = some n) : Piece ['\\', c] [n] where
  scan _ := rfl
  unescape fuel rest hfuel := by
    simp only [List.length_append, List.length_cons, List.length_nil] at hfuel
    obtain ⟨left, rfl⟩ : ∃ left, fuel = left + 1 := ⟨fuel - 1, by omega⟩
    exact ⟨left, by omega, TextLiteral.unescape_escape (TextLiteral.escape_short h)⟩

/-- An escape of a 16-bit unit. -/
theorem unit {n : Nat} (h : n < 0x10000) : Piece (unit n) [n] where
  scan rest := by
    rw [JsonQuoted.unit, List.cons_append, List.cons_append, scanShort_escape,
      scan_digits (fun d hd => Hex.exists_digit_of_mem hd), Option.map_map]
    rfl
  unescape fuel rest hfuel := by
    simp only [JsonQuoted.unit, List.length_append, List.length_cons, Hex.length_ofNat] at hfuel
    obtain ⟨left, rfl⟩ : ∃ left, fuel = left + 1 := ⟨fuel - 1, by omega⟩
    exact ⟨left, by omega, TextLiteral.unescape_escape (TextLiteral.escape_unit h)⟩

end Piece

/-! ### Quoted texts -/

/-- The code points that a quoted character is read as: two surrogates above U+FFFF. -/
def utf16 (c : Char) : List Nat :=
  if c.toNat < 0x10000 then [c.toNat]
  else [0xD800 + (c.toNat - 0x10000) / 0x400, 0xDC00 + (c.toNat - 0x10000) % 0x400]

theorem toNat_valid (c : Char) : c.toNat < 0xD800 ∨ (0xDFFF < c.toNat ∧ c.toNat < 0x110000) := c.valid

theorem piece_units (c : Char) : Piece (units c) (utf16 c) := by
  have hvalid := toNat_valid c
  rw [units, utf16]
  split
  · exact .unit ‹_›
  · exact (Piece.unit (by omega)).append (.unit (by omega))

theorem simpleEscape?_of_short? {c s : Char} (h : short? c = some s) :
    TextLiteral.simpleEscape? s = some c.toNat ∧ utf16 c = [c.toNat] := by
  unfold short? at h
  split at h
  all_goals first
    | contradiction
    | obtain rfl := Option.some.inj h
      decide

theorem utf16_of_isPrintableAscii {c : Char} (h : isPrintableAscii c) : utf16 c = [c.toNat] := by
  simp only [isPrintableAscii, Bool.and_eq_true, decide_eq_true_eq] at h
  exact if_pos (by omega)

theorem piece_escape (c : Char) : Piece (JsonQuoted.escape isPrintableAscii c) (utf16 c) := by
  rw [JsonQuoted.escape]
  cases hshort : short? c with
  | some s =>
      obtain ⟨hsimple, hutf16⟩ := simpleEscape?_of_short? hshort
      rw [hutf16]
      exact .short hsimple
  | none =>
      have hother : ∀ d, (short? d).isSome → c ≠ d := by
        rintro d hd rfl
        rw [hshort] at hd
        cases hd
      by_cases hplain : isPrintableAscii c
      · simp only [hplain, if_true]
        rw [utf16_of_isPrintableAscii hplain]
        exact .plain (hother '"' rfl) (hother '\\' rfl) (hother '\n' rfl)
      · simp only [hplain]
        exact piece_units c

/-- The body of a quoted text. -/
def quotedBody (s : String) : List Char := s.toList.flatMap (JsonQuoted.escape isPrintableAscii)

theorem piece_quotedBody (s : String) : Piece (quotedBody s) (s.toList.flatMap utf16) := by
  rw [quotedBody]
  induction s.toList with
  | nil => exact .nil
  | cons c cs ih =>
      rw [List.flatMap_cons, List.flatMap_cons]
      exact (piece_escape c).append ih

/-- The text that a unit reads for a quoted one. -/
def spelled (s : String) : Scalar := .ofPoints (s.toList.flatMap utf16)

/-- All that stands in quotes is printable, line ends among the escaped. -/
theorem isPrintableAscii_of_mem_escape {c d : Char} (h : d ∈ JsonQuoted.escape isPrintableAscii c) :
    isPrintableAscii d := by
  have hdigit : ∀ m : Fin 16, isPrintableAscii (Hex.digit m) := by decide
  have hunit : ∀ n, ∀ e ∈ JsonQuoted.unit n, isPrintableAscii e := by
    intro n e he
    simp only [JsonQuoted.unit, List.mem_cons] at he
    obtain rfl | rfl | he := he
    · rfl
    · rfl
    · obtain ⟨m, rfl⟩ := Hex.exists_digit_of_mem he
      exact hdigit m
  rw [JsonQuoted.escape] at h
  split at h
  · rename_i s hshort
    have hs : isPrintableAscii s := by
      unfold short? at hshort
      split at hshort
      all_goals first
        | contradiction
        | obtain rfl := Option.some.inj hshort
          decide
    obtain rfl | hd := List.mem_cons.mp h
    · rfl
    · exact List.mem_singleton.mp hd ▸ hs
  · split at h
    · rename_i hplain
      exact List.mem_singleton.mp h ▸ hplain
    · rw [units] at h
      split at h
      · exact hunit _ d h
      · exact (List.mem_append.mp h).elim (hunit _ d) (hunit _ d)

theorem isPrintableAscii_of_mem_quotedBody {s : String} {d : Char} (h : d ∈ quotedBody s) :
    isPrintableAscii d := by
  obtain ⟨c, -, hd⟩ := List.mem_flatMap.mp h
  exact isPrintableAscii_of_mem_escape hd

theorem countLines_quotedBody (s : String) : Lexer.countLines (quotedBody s) = 0 :=
  List.count_eq_zero.mpr fun h => absurd (isPrintableAscii_of_mem_quotedBody h) (by decide)

theorem scanQuoted_eq_scanShort {cs : List Char} (h : ∀ more, cs ≠ '"' :: '"' :: more) :
    scanQuoted ('"' :: cs) = scanShort '"' cs := by
  match cs with
  | [] => rfl
  | [_] => rfl
  | a :: b :: rest =>
      rw [scanQuoted, if_neg]
      rintro ⟨rfl, rfl⟩
      exact h rest rfl

/-- A quoted text is one literal, unless another quote follows. -/
theorem scanQuoted_quotedBody (s : String) {c : Char} (hc : c ≠ '"') (rest : List Char) :
    scanQuoted ('"' :: (quotedBody s ++ '"' :: c :: rest)) = some (quotedBody s, c :: rest) := by
  rw [scanQuoted_eq_scanShort, (piece_quotedBody s).scan, scanShort_cons (by decide), if_pos rfl]
  · simp
  · -- Three quotes would open a block: the second one closes an empty literal, and a quote inside one
    -- that is not empty has a backslash in front.
    intro more hmore
    rw [quotedBody] at hmore
    cases hs : s.toList with
    | nil =>
        rw [hs] at hmore
        exact hc (List.cons.inj (List.cons.inj hmore).2).1
    | cons d ds =>
        rw [hs, List.flatMap_cons, List.append_assoc] at hmore
        exact JsonQuoted.head?_escape isPrintableAscii d _ (by rw [hmore]; rfl)

/-- The literal of a quoted text spells it. -/
theorem spells_quotedBody (l : Nat) (s : String) : Spells l (quotedBody s) (spelled s) := by
  obtain ⟨left, -, hpoints⟩ := (piece_quotedBody s).unescape (quotedBody s).length [] (by simp)
  have hnil : TextLiteral.unescape true left [] = some [] := by cases left <;> rfl
  have hbody : TextLiteral.codePoints {} (quotedBody s) = some (s.toList.flatMap utf16) := by
    rw [List.append_nil, hnil] at hpoints
    simpa [TextLiteral.codePoints] using hpoints
  simp [Spells, TextLiteral.value, TextLiteral.Part.isValid, hbody, spelled, Expr.text]

/-- A quoted text is read back exactly when all its characters are in the basic plane. -/
theorem spelled_eq_text_iff {s : String} : spelled s = .text s ↔ ∀ c ∈ s.toList, c.toNat < 0x10000 := by
  rw [spelled, Scalar.ofPoints]
  constructor
  · intro h c hc
    by_contra hlarge
    have hsurrogate : (s.toList.flatMap utf16).any Quoted.isSurrogate = true := by
      refine List.any_eq_true.mpr ⟨0xD800 + (c.toNat - 0x10000) / 0x400, ?_, ?_⟩
      · refine List.mem_flatMap.mpr ⟨c, hc, ?_⟩
        rw [utf16, if_neg hlarge]
        exact List.mem_cons_self
      · have hvalid := toNat_valid c
        simp only [Quoted.isSurrogate, Bool.and_eq_true, decide_eq_true_eq]
        omega
    rw [if_pos hsurrogate] at h
    cases h
  · intro h
    have hpoints : s.toList.flatMap utf16 = s.toList.map Char.toNat := by
      have hutf16 : ∀ c ∈ s.toList, utf16 c = [c.toNat] := fun c hc => if_pos (h c hc)
      rw [List.flatMap_def, List.map_congr_left hutf16, ← List.flatMap_def, List.map_eq_flatMap]
    have hnone : ¬ (s.toList.map Char.toNat).any Quoted.isSurrogate = true := by
      rw [List.any_eq_true]
      rintro ⟨n, hn, hsurrogate⟩
      obtain ⟨c, -, rfl⟩ := List.mem_map.mp hn
      have hvalid := toNat_valid c
      simp only [Quoted.isSurrogate, Bool.and_eq_true, decide_eq_true_eq] at hsurrogate
      omega
    rw [hpoints, if_neg hnone, List.map_map]
    simp [Function.comp_def]

end PersistedOps.Script

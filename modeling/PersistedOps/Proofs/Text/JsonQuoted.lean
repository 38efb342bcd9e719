import Mathlib.Algebra.Group.Nat.Defs
import PersistedOps.Text.JsonQuoted

/-!
Reading JSON quotes. A quoted string is read back as itself and tells where it ends.
-/

namespace PersistedOps

namespace Hex

/-- A number is read back from its digits when they are enough, in whichever case they stand. -/
theorem toNat?_map_ofNat {f : Char → Char} (hf : ∀ m : Fin 16, digit? (f (digit m)) = some m.val)
    {width n : Nat} (h : n < 16 ^ width) : toNat? ((ofNat width n).map f) = some n := by
  induction width generalizing n with
  | zero =>
      obtain rfl : n = 0 := by simpa using h
      rfl
  | succ width ih =>
      have hinit : n / 16 < 16 ^ width := Nat.div_lt_of_lt_mul (by rwa [Nat.pow_succ'] at h)
      have hlast : digit? (f (digit (n % 16))) = some (n % 16) :=
        hf ⟨n % 16, Nat.mod_lt n (by decide)⟩
      have hfold := ih hinit
      rw [toNat?] at hfold
      rw [toNat?, ofNat, List.map_append, List.foldlM_append, hfold]
      simp [hlast, Nat.div_add_mod]

theorem toNat?_ofNat {width n : Nat} (h : n < 16 ^ width) : toNat? (ofNat width n) = some n := by
  have hread := toNat?_map_ofNat (f := id) (fun m => digit?_digit m.isLt) h
  simpa using hread

theorem exists_digit_of_mem {width n : Nat} {c : Char} (h : c ∈ ofNat width n) :
    ∃ m : Fin 16, c = digit m := by
  induction width generalizing n with
  | zero => simp [ofNat] at h
  | succ width ih =>
      rcases List.mem_append.mp h with h | h
      · exact ih h
      · exact ⟨⟨n % 16, Nat.mod_lt n (by decide)⟩, List.mem_singleton.mp h⟩

theorem length_ofNat (width n : Nat) : (ofNat width n).length = width := by
  induction width generalizing n with
  | zero => rfl
  | succ width ih => simp [ofNat, ih]

end Hex

namespace JsonQuoted

/-- The character of a two-character escape. -/
def long? : Char → Option Char
  | '"' => some '"'
  | '\\' => some '\\'
  | 'n' => some '\n'
  | 'r' => some '\r'
  | 't' => some '\t'
  | 'b' => some '\x08'
  | 'f' => some '\x0c'
  | _ => none

/-- The character whose escape stands behind a backslash, and what follows it. -/
def escaped? : List Char → Option (Char × List Char)
  | [] => none
  | c :: rest =>
    if c = 'u' then (Hex.toNat? (rest.take 4)).map fun n => (Char.ofNat n, rest.drop 4)
    else (long? c).map (·, rest)

/-- The first character inside quotes, and what follows it. -/
def unescape : List Char → Option (Char × List Char)
  | [] => none
  | c :: rest => if c = '\\' then escaped? rest else some (c, rest)

/-- What stands before the closing quote, and what follows the quote. At most `fuel` characters and
the quote are read. -/
def unquote : (fuel : Nat) → List Char → Option (List Char × List Char)
  | _, '"' :: rest => some ([], rest)
  | 0, _ => none
  | fuel + 1, cs => do
    let (c, rest) ← unescape cs
    let (s, rest) ← unquote fuel rest
    return (c :: s, rest)

theorem long?_of_short? {c s : Char} (h : short? c = some s) : long? s = some c ∧ s ≠ 'u' := by
  unfold short? at h
  split at h
  all_goals first
    | contradiction
    | obtain rfl := Option.some.inj h
      decide

/-- The unit of a character is read back. -/
theorem unescape_unit {c : Char} (rest : List Char) (h : c.toNat < 0x10000) :
    unescape (unit c.toNat ++ rest) = some (c, rest) := by
  have hlength := Hex.length_ofNat 4 c.toNat
  have htake : (Hex.ofNat 4 c.toNat ++ rest).take 4 = Hex.ofNat 4 c.toNat := by
    rw [List.take_append_of_le_length (by omega), List.take_of_length_le (by omega)]
  have hdrop : (Hex.ofNat 4 c.toNat ++ rest).drop 4 = rest := List.drop_left' hlength
  have hread : Hex.toNat? (Hex.ofNat 4 c.toNat) = some c.toNat := Hex.toNat?_ofNat h
  simp [unit, unescape, escaped?, htake, hdrop, hread]

/-- A character is read back from its escape. -/
theorem unescape_escape (c : Char) (rest : List Char) :
    unescape (escape isNoControl c ++ rest) = some (c, rest) := by
  rw [escape]
  cases hshort : short? c with
  | some s =>
      obtain ⟨hlong, hs⟩ := long?_of_short? hshort
      simp [unescape, escaped?, hs, hlong]
  | none =>
      have hc : c ≠ '\\' := by
        rintro rfl
        exact absurd hshort (by decide)
      by_cases hplain : isNoControl c
      · simp [hplain, unescape, hc]
      · have hsmall : c.toNat < 0x10000 := by
          simp only [isNoControl, decide_eq_true_eq] at hplain
          omega
        simp only [hplain, units, hsmall, if_true]
        exact unescape_unit rest hsmall

theorem units_ne_nil (c : Char) : units c ≠ [] := by
  rw [units]
  split <;> simp [unit]

theorem head?_units (c : Char) (rest : List Char) : (units c ++ rest).head? = some '\\' := by
  rw [units]
  split <;> simp [unit]

theorem head?_escape (plain : Char → Bool) (c : Char) (rest : List Char) :
    (escape plain c ++ rest).head? ≠ some '"' := by
  rw [escape]
  cases hshort : short? c with
  | some s => simp
  | none =>
      have hc : c ≠ '"' := by
        rintro rfl
        exact absurd hshort (by decide)
      by_cases hplain : plain c
      · simpa [hplain] using hc
      · rw [if_neg hplain, head?_units]
        decide

theorem escape_ne_nil (plain : Char → Bool) (c : Char) : escape plain c ≠ [] := by
  rw [escape]
  cases short? c with
  | some s => simp
  | none =>
      by_cases hplain : plain c
      · simp [hplain]
      · simpa [hplain] using units_ne_nil c

/-- Escaping does not shorten. -/
theorem length_le_escaped (plain : Char → Bool) (s : List Char) :
    s.length ≤ (s.flatMap (escape plain)).length := by
  induction s with
  | nil => simp
  | cons c s ih =>
      have hc := List.length_pos_iff.mpr (escape_ne_nil plain c)
      rw [List.flatMap_cons, List.length_append, List.length_cons]
      omega

theorem unquote_of_head?_ne {cs : List Char} (fuel : Nat) (h : cs.head? ≠ some '"') :
    unquote (fuel + 1) cs = do
      let (c, rest) ← unescape cs
      let (s, rest) ← unquote fuel rest
      return (c :: s, rest) := by
  rw [unquote]
  intro rest hcs
  simp [hcs] at h

/-- A quoted string is read back, and the reading stops behind its closing quote. -/
theorem unquote_quote {s : List Char} {fuel : Nat} (rest : List Char) (h : s.length ≤ fuel) :
    unquote fuel (s.flatMap (escape isNoControl) ++ '"' :: rest) = some (s, rest) := by
  induction s generalizing fuel with
  | nil => cases fuel <;> rfl
  | cons c s ih =>
      obtain ⟨fuel, rfl⟩ := Nat.exists_eq_add_of_le' (Nat.le_of_add_left_le h)
      rw [List.flatMap_cons, List.append_assoc, unquote_of_head?_ne fuel (head?_escape _ c _),
        unescape_escape]
      simp [ih (by simpa using h)]

end JsonQuoted

end PersistedOps

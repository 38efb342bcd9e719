import PersistedOps.Proofs.Document.Lexeme

/-!
Restoring string literals. In a line of lexemes whose literals stand as quoted digits, every literal
comes back as itself, unless a word stands all alone between an empty literal and another one.
-/

namespace PersistedOps

open Signature (isWord isLowerHex restoreFrom restore)
open Text (isBlank)

namespace Lexeme

/-- A literal as the quotes around the digits of its text. -/
def hexed : Lexeme → List Lexeme
  | .text s => .mark '"' :: (ofRun (Hex.ofText s).toList ++ [.mark '"'])
  | t => [t]

/-- What printing makes: words of word characters and punctuation other than quotes. -/
def Proper : Lexeme → Prop
  | .word w => w ≠ [] ∧ ∀ c ∈ w, isWord c
  | .mark c => isWord c = false ∧ isBlank c = false ∧ c ≠ '"'
  | .text _ => True

@[simp] theorem hexed_word (w : List Char) : hexed (.word w) = [.word w] := rfl

@[simp] theorem hexed_mark (c : Char) : hexed (.mark c) = [.mark c] := rfl

/-! ### Digits -/

theorem digit_lowerHex {n : Nat} (h : n < 16) : isLowerHex (Hex.digit n) ∧ isWord (Hex.digit n) := by
  have : ∀ m : Fin 16, isLowerHex (Hex.digit m) ∧ isWord (Hex.digit m) := by decide
  exact this ⟨n, h⟩

theorem isWord_of_isLowerHex {c : Char} (h : isLowerHex c) : isWord c := by
  simp only [isLowerHex, Bool.or_eq_true, Bool.and_eq_true, decide_eq_true_eq] at h
  delta isWord Char.isAlphanum Char.isAlpha Char.isLower
  simp only [Bool.or_eq_true, Bool.and_eq_true, decide_eq_true_eq]
  obtain h | ⟨hlow, hhigh⟩ := h
  · exact .inl (.inr h)
  · exact .inl (.inl (.inr ⟨hlow, Nat.le_trans hhigh (by decide)⟩))

theorem mem_encode {c : Char} {bytes : List UInt8} (h : c ∈ Hex.encode bytes) :
    isLowerHex c ∧ isWord c := by
  simp only [Hex.encode, Hex.encodeByte, List.mem_flatMap, List.mem_cons, List.not_mem_nil,
    or_false] at h
  obtain ⟨b, -, rfl | rfl⟩ := h
  · have hb : b.toNat < 256 := b.toNat_lt
    exact digit_lowerHex (by omega)
  · exact digit_lowerHex (by omega)

theorem isLowerHex_of_mem_ofText {c : Char} {s : String} (h : c ∈ (Hex.ofText s).toList) :
    isLowerHex c :=
  (mem_encode (by simpa [Hex.ofText] using h)).1

theorem isWord_of_mem_ofText {c : Char} {s : String} (h : c ∈ (Hex.ofText s).toList) : isWord c :=
  (mem_encode (by simpa [Hex.ofText] using h)).2

/-- A text is read back from its digits. -/
theorem toText?_ofText (s : String) : Hex.toText? (Hex.ofText s).toList = some s := by
  have hbytes : String.fromUTF8? s.toUTF8 = some s := dif_pos s.isValidUTF8
  simpa [Hex.toText?, Hex.ofText, Hex.decode_encode] using hbytes

theorem ofText_eq_nil_iff {s : String} : (Hex.ofText s).toList = [] ↔ s = "" := by
  constructor
  · intro h
    have hs := toText?_ofText s
    rw [h] at hs
    have hempty : Hex.toText? [] = some "" := by decide
    rw [hempty] at hs
    exact (Option.some.inj hs).symm
  · rintro rfl
    decide

/-! ### Moods -/

/-- What stands in front of a lexeme, as far as it matters for restoring literals. -/
inductive Mood where
  | clear | literal | words
deriving DecidableEq

/-- The mood behind a lexeme. A literal has no place behind a word that follows a literal. -/
def Mood.next : Mood → Lexeme → Option Mood
  | .words, .text _ => none
  | .literal, .word _ => some .words
  | _, .text _ => some .literal
  | _, _ => some .clear

/-- The mood behind a line of lexemes. -/
def moodFrom (m : Mood) (ts : List Lexeme) : Option Mood := ts.foldlM Mood.next m

@[simp] theorem moodFrom_nil (m : Mood) : moodFrom m [] = some m := rfl

@[simp] theorem moodFrom_cons (m : Mood) (t : Lexeme) (ts : List Lexeme) :
    moodFrom m (t :: ts) = (m.next t).bind (moodFrom · ts) := rfl

theorem moodFrom_append (m : Mood) (ts us : List Lexeme) :
    moodFrom m (ts ++ us) = (moodFrom m ts).bind (moodFrom · us) :=
  List.foldlM_append

/-! ### Restoring -/

/-- Not the digits of a literal whose opening quote is in front. -/
def Quiet (cs : List Char) : Prop :=
  cs.takeWhile isLowerHex = [] ∨ (cs.dropWhile isLowerHex).head? ≠ some '"'

theorem restoreFrom_cons {c : Char} {cs : List Char} (fuel : Nat) (h : c ≠ '"' ∨ Quiet cs) :
    restoreFrom (fuel + 1) (c :: cs) = (c :: ·) <$> restoreFrom fuel cs := by
  rw [restoreFrom]
  · rfl
  · intro d ds after hquote hdigits hafter
    obtain hc | hnone | hend := h
    · exact hc hquote
    · simp [hnone] at hdigits
    · simp [hafter] at hend

theorem takeWhile_append_quote {w : List Char} (cs : List Char) (h : ∀ c ∈ w, isLowerHex c) :
    (w ++ '"' :: cs).takeWhile isLowerHex = w ∧
      (w ++ '"' :: cs).dropWhile isLowerHex = '"' :: cs := by
  have hquote : isLowerHex '"' = false := by decide
  constructor
  · rw [List.takeWhile_append_of_pos h, List.takeWhile_cons_of_neg (by simp [hquote]),
      List.append_nil]
  · rw [List.dropWhile_append_of_pos h, List.dropWhile_cons_of_neg (by simp [hquote])]

theorem restoreFrom_literal {s : String} (fuel : Nat) (cs : List Char) (h : s ≠ "") :
    restoreFrom (fuel + 1) ('"' :: ((Hex.ofText s).toList ++ '"' :: cs))
      = ((JsonQuoted.unicode s).toList ++ ·) <$> restoreFrom fuel cs := by
  obtain ⟨htake, hdrop⟩ := takeWhile_append_quote cs
    fun c hc => isLowerHex_of_mem_ofText (s := s) hc
  obtain ⟨d, ds, hd⟩ := List.exists_cons_of_ne_nil (mt ofText_eq_nil_iff.mp h)
  have hread : Hex.toText? (d :: ds) = some s := hd ▸ toText?_ofText s
  rw [Signature.restoreFrom.eq_def (fuel + 1)]
  simp only [htake, hdrop]
  rw [hd]
  simp only [hread]
  rfl

theorem ne_quote_of_isWord {c : Char} (h : isWord c) : c ≠ '"' := by
  rintro rfl
  exact absurd h (by decide)

theorem head?_dropWhile_word {w cs : List Char} (hword : ∀ c ∈ w, isWord c)
    (hcs : (cs.dropWhile isLowerHex).head? ≠ some '"') :
    ((w ++ cs).dropWhile isLowerHex).head? ≠ some '"' := by
  induction w with
  | nil => exact hcs
  | cons c w ih =>
      cases hhex : isLowerHex c with
      | false => simpa [hhex] using ne_quote_of_isWord (hword c (by simp))
      | true => simpa [hhex] using ih fun d hd => hword d (by simp [hd])

theorem head?_dropWhile_mark {c : Char} (cs : List Char) (h : Proper (.mark c)) :
    ((c :: cs).dropWhile isLowerHex).head? ≠ some '"' := by
  have hhex : isLowerHex c = false := by
    cases hc : isLowerHex c with
    | false => rfl
    | true => exact absurd (isWord_of_isLowerHex hc) (by simp [h.1])
  simpa [hhex] using h.2.2

theorem render_text (b : Bool) (s : String) (ts : List Lexeme) :
    renderFrom b ((Lexeme.text s :: ts).flatMap hexed)
      = '"' :: ((Hex.ofText s).toList ++ '"' :: render (ts.flatMap hexed)) := by
  by_cases hs : (Hex.ofText s).toList = []
  · simp [hexed, hs, renderFrom, render]
  · simp [hexed, ofRun_of_ne_nil hs, renderFrom, render]

/-- The first characters of what follows a literal do not look like another one's digits. -/
theorem quiet_render {ts : List Lexeme} (hproper : ∀ t ∈ ts, t.Proper)
    (hmood : moodFrom .literal ts ≠ none) : Quiet (render (ts.flatMap hexed)) := by
  rcases ts with _ | ⟨_ | c | s, ts⟩
  case nil => exact .inl rfl
  case cons.text =>
    rw [render, render_text]
    exact .inl (List.takeWhile_cons_of_neg (by decide))
  case cons.mark => exact .inr (head?_dropWhile_mark _ (hproper _ (by simp)))
  case cons.word w =>
    have hw := (hproper (.word w) (by simp)).2
    refine .inr ?_
    simp only [render, List.flatMap_cons, hexed_word, List.singleton_append, renderFrom,
      Bool.false_eq_true, if_false, List.nil_append]
    refine head?_dropWhile_word hw ?_
    rcases ts with _ | ⟨_ | c | s, ts⟩
    case nil => simp [renderFrom]
    case cons.word => simp [renderFrom, show isLowerHex ' ' = false by decide]
    case cons.mark => exact head?_dropWhile_mark _ (hproper _ (by simp))
    case cons.text => simp [Mood.next] at hmood

theorem restoreFrom_append {w : List Char} (fuel : Nat) (cs : List Char)
    (h : ∀ c ∈ w, c ≠ '"') : restoreFrom (w.length + fuel) (w ++ cs)
      = (w ++ ·) <$> restoreFrom fuel cs := by
  induction w with
  | nil => simp
  | cons c w ih =>
      rw [List.cons_append, List.length_cons, Nat.add_right_comm,
        restoreFrom_cons _ (.inl (h c (by simp))), ih fun d hd => h d (by simp [hd])]
      simp

/-- A line comes back with its literals when no mood stands against it. -/
theorem restoreFrom_render {ts : List Lexeme} (b : Bool) (m : Mood) {fuel : Nat}
    (hproper : ∀ t ∈ ts, t.Proper) (hmood : moodFrom m ts ≠ none)
    (hfuel : (renderFrom b (ts.flatMap hexed)).length ≤ fuel) :
    restoreFrom fuel (renderFrom b (ts.flatMap hexed)) = .ok (renderFrom b ts) := by
  -- Behind an empty literal its closing quote would open another one, if digits and a quote came next;
  -- the mood rules this out.
  induction ts generalizing b m fuel with
  | nil => cases fuel <;> rfl
  | cons t ts ih =>
      have hrest := fun u hu => hproper u (List.mem_cons_of_mem t hu)
      rw [moodFrom_cons] at hmood
      cases hnext : m.next t with
      | none => simp [hnext] at hmood
      | some m' =>
      rw [hnext, Option.bind_some] at hmood
      cases t with
      | word w =>
          have hline : ∀ c ∈ (if b then [' '] else []) ++ w, c ≠ '"' := by
            intro c hc
            rcases List.mem_append.mp hc with hc | hc
            · have hspace : c = ' ' := by cases b <;> simp_all
              simp [hspace]
            · exact ne_quote_of_isWord ((hproper (.word w) (by simp)).2 c hc)
          rw [List.flatMap_cons, hexed_word, List.singleton_append, renderFrom] at hfuel ⊢
          rw [List.length_append] at hfuel
          obtain ⟨extra, rfl⟩ := Nat.exists_eq_add_of_le (Nat.le_of_add_right_le hfuel)
          rw [restoreFrom_append extra _ hline, ih true m' hrest hmood (by omega)]
          rfl
      | mark c =>
          simp only [List.flatMap_cons, hexed_mark, List.singleton_append, renderFrom,
            List.length_cons] at hfuel ⊢
          obtain ⟨fuel, rfl⟩ := Nat.exists_eq_add_of_le' (Nat.le_of_add_left_le hfuel)
          rw [restoreFrom_cons _ (.inl (hproper (.mark c) (by simp)).2.2),
            ih false m' hrest hmood (by omega)]
          rfl
      | text s =>
          obtain rfl : m' = .literal := by cases m <;> simp_all [Mood.next]
          rw [render_text] at hfuel ⊢
          simp only [List.length_cons, List.length_append] at hfuel
          by_cases hs : s = ""
          · rw [ofText_eq_nil_iff.mpr hs, List.length_nil] at hfuel
            obtain ⟨fuel, rfl⟩ := Nat.exists_eq_add_of_le' (show 2 ≤ fuel by omega)
            rw [ofText_eq_nil_iff.mpr hs, List.nil_append,
              restoreFrom_cons (fuel + 1) (.inr (.inl (List.takeWhile_cons_of_neg (by decide)))),
              restoreFrom_cons fuel (.inr (quiet_render hrest hmood)), render,
              ih false .literal hrest hmood (by simpa [render] using hfuel)]
            subst hs
            rfl
          · obtain ⟨fuel, rfl⟩ := Nat.exists_eq_add_of_le' (show 1 ≤ fuel by omega)
            rw [restoreFrom_literal fuel _ hs, render, ih false .literal hrest hmood
              (by simp only [render] at hfuel; omega)]
            rfl

theorem restore_render {ts : List Lexeme} (hproper : ∀ t ∈ ts, t.Proper)
    (hmood : moodFrom .clear ts ≠ none) :
    restore (render (ts.flatMap hexed)) = .ok (String.ofList (render ts)) := by
  rw [restore, render, restoreFrom_render false .clear hproper hmood (Nat.le_refl _)]
  rfl

end Lexeme

end PersistedOps

import Mathlib.Data.List.Forall2
import PersistedOps.Proofs.Document.Layout

/-!
Texts and the lexemes they spell. The rules follow the ways in which printing puts texts together:
punctuation in front, blanks between, joining, wrapping and indenting.
-/

namespace PersistedOps

open Signature (isWord)
open Text (isBlank)
open Printer (join wrap indent quote)

namespace Lexeme

/-- How much a mood stands against. -/
def Mood.rank : Mood → Nat
  | .clear => 0
  | .literal => 1
  | .words => 2

/-- A line that takes moods of one rank or less to moods of another rank or less. -/
def Calm (i j : Nat) (line : List Lexeme) : Prop :=
  ∀ m : Mood, m.rank ≤ i → ∃ m', moodFrom m line = some m' ∧ m'.rank ≤ j

theorem Calm.append {i j k : Nat} {xs ys : List Lexeme} (hx : Calm i j xs) (hy : Calm j k ys) :
    Calm i k (xs ++ ys) := by
  intro m hm
  obtain ⟨n, hn, hrank⟩ := hx m hm
  obtain ⟨o, ho, hrank⟩ := hy n hrank
  exact ⟨o, by rw [moodFrom_append, hn, Option.bind_some, ho], hrank⟩

theorem Calm.mono {i i' j j' : Nat} {line : List Lexeme} (h : Calm i j line) (hi : i' ≤ i)
    (hj : j ≤ j') : Calm i' j' line := by
  intro m hm
  obtain ⟨n, hn, hrank⟩ := h m (Nat.le_trans hm hi)
  exact ⟨n, hn, Nat.le_trans hrank hj⟩

theorem calm_nil (i : Nat) : Calm i i [] := fun m hm => ⟨m, rfl, hm⟩

theorem calm_mark (i : Nat) (c : Char) : Calm i 0 [.mark c] :=
  fun m _ => ⟨.clear, by cases m <;> rfl, Nat.le_refl 0⟩

theorem calm_text (s : String) : Calm 1 1 [.text s] := by
  intro m hm
  refine ⟨.literal, ?_, Nat.le_refl 1⟩
  cases m with
  | clear | literal => rfl
  | words => exact absurd hm (by decide)

theorem calm_word {i : Nat} (w : List Char) (h : i ≠ 1) : Calm i i [.word w] := by
  intro m hm
  cases m with
  | clear => exact ⟨.clear, rfl, hm⟩
  | literal =>
      refine ⟨.words, rfl, ?_⟩
      simp only [Mood.rank] at hm ⊢
      omega
  | words => exact ⟨.clear, rfl, Nat.zero_le i⟩

/-- A line that is calm, has its points at the start of nothing but a clear mood and, if `p` holds, no
literal behind an empty one. -/
structure Fits (p : Prop) (i j : Nat) (line : List Lexeme) : Prop where
  calm : Calm i j line
  apart : p → Apart line
  dots : line.head? = some (.mark '.') → i = 0

theorem Calm.ne_zero_of_nil {i j : Nat} (h : Calm i j []) (hi : i ≠ 0) : j ≠ 0 := by
  obtain ⟨m, hm, hrank⟩ := h .literal (Nat.one_le_iff_ne_zero.mpr hi)
  obtain rfl := Option.some.inj hm
  exact Nat.ne_of_gt hrank

/-- What ends in a clear mood does not end with a literal. -/
theorem Calm.getLast?_ne_text {i : Nat} {line : List Lexeme} (h : Calm i 0 line) (s : String) :
    line.getLast? ≠ some (.text s) := by
  intro hlast
  obtain ⟨init, rfl⟩ := List.getLast?_eq_some_iff.mp hlast
  obtain ⟨m, hm, hrank⟩ := h .clear (Nat.zero_le i)
  obtain rfl : m = .clear := by cases m <;> first | rfl | exact absurd hrank (by decide)
  rw [moodFrom_append] at hm
  cases hinit : moodFrom .clear init with
  | none => simp [hinit] at hm
  | some n => cases n <;> simp [hinit, Mood.next] at hm

/-- What may stand behind a word does not begin with a literal. -/
theorem Calm.head?_ne_text {i j : Nat} {line : List Lexeme} (h : Calm i j line) (hi : 2 ≤ i)
    (s : String) : line.head? ≠ some (.text s) := by
  intro hhead
  obtain ⟨rest, rfl⟩ := List.head?_eq_some_iff.mp hhead
  obtain ⟨m, hm, -⟩ := h .words hi
  simp [Mood.next] at hm

/-- The last lexeme of a line and the first of another that comes next are not glued. -/
def Seam (ts us : List Lexeme) : Prop := ∀ t ∈ ts.getLast?, ∀ u ∈ us.head?, ¬ Glued t u

namespace Fits

variable {p : Prop} {i j k : Nat} {xs ys line : List Lexeme}

theorem nil : Fits p i i [] := ⟨calm_nil i, fun _ => .nil, by simp⟩

theorem append_of_seam (hx : Fits p i j xs) (hy : Fits p j k ys) (h : p → Seam xs ys) :
    Fits p i k (xs ++ ys) := by
  refine ⟨hx.calm.append hy.calm,
    fun hp => List.isChain_append.mpr ⟨hx.apart hp, hy.apart hp, h hp⟩, fun hhead => ?_⟩
  cases xs with
  | cons x xs => exact hx.dots hhead
  | nil =>
      by_contra hi
      exact hx.calm.ne_zero_of_nil hi (hy.dots hhead)

/-- Lines whose moods meet at another rank than one are not glued. -/
theorem seam (hx : Fits p i j xs) (hy : Fits p j k ys) (hj : j ≠ 1) : Seam xs ys := by
  intro t ht u hu
  rcases Nat.lt_or_gt_of_ne hj with hlow | hhigh
  · obtain rfl : j = 0 := by omega
    refine not_glued_left fun htext => ?_
    exact hx.calm.getLast?_ne_text "" (htext ▸ ht)
  · refine not_glued_right fun s hs => ?_
    exact hy.calm.head?_ne_text hhigh s (hs ▸ hu)

theorem mono {i' j' : Nat} (h : Fits p i j line) (hi : i' ≤ i) (hj : j ≤ j') : Fits p i' j' line :=
  ⟨h.calm.mono hi hj, h.apart, fun hhead => by have := h.dots hhead; omega⟩

theorem mark {c : Char} (h : Fits p 0 j line) (hc : c ≠ '.') : Fits p i j (.mark c :: line) :=
  ⟨(calm_mark i c).append h.calm, fun hp => (h.apart hp).cons (by simp), by simp [hc]⟩

end Fits

/-- How a text writes its literals. -/
structure Pen where
  /-- What stands between the quotes. -/
  body : String → List Char
  unbroken : ∀ s, '\n' ∉ body s

/-- A literal in its quotes. -/
def Pen.quote (q : Pen) (s : String) : String := String.ofList ('"' :: q.body s ++ ['"'])

/-- A line without its commas. -/
def bare (line : List Lexeme) : List Lexeme := line.filter (· ≠ .mark ',')

theorem bare_append (xs ys : List Lexeme) : bare (xs ++ ys) = bare xs ++ bare ys :=
  List.filter_append ..

theorem getLast?_bare {line : List Lexeme} {t : Lexeme} (h : line.getLast? = some t)
    (ht : t ≠ .mark ',') : (bare line).getLast? = some t := by
  obtain ⟨init, rfl⟩ := List.getLast?_eq_some_iff.mp h
  simp [bare, ht]

theorem head?_bare {line : List Lexeme} {t : Lexeme} (h : line.head? = some t)
    (ht : t ≠ .mark ',') : (bare line).head? = some t := by
  obtain ⟨rest, rfl⟩ := List.head?_eq_some_iff.mp h
  simp [bare, ht]

/-- A number has no commas. -/
theorem bare_number {negative : Bool} {w : List Char} {tail : Tail} (h : IsNumber w tail) :
    bare (numberLine negative w tail) = numberLine negative w tail := by
  have htail {previous : List Char} {tail : Tail} (h : Continued previous tail) :
      bare tail.line = tail.line := by
    induction h with
    | done _ => rfl
    | @more previous w c tail h _ _ _ ih =>
        have hc : c ≠ ',' := by
          rintro rfl
          simp [continues] at h
        simpa [bare, Tail.line, hc] using ih
  cases negative with
  | false => simpa [bare, numberLine] using htail h.continued
  | true => simpa [bare, numberLine] using htail h.continued

/-- Commas glue nothing. -/
theorem seam_of_bare {xs ys : List Lexeme} (h : Seam (bare xs) (bare ys)) : Seam xs ys := by
  rintro t ht u hu ⟨rfl, s, rfl⟩
  exact h _ (getLast?_bare ht (by simp)) _ (head?_bare hu (by simp)) ⟨rfl, s, rfl⟩

/-- The characters spell the lexemes, commas aside, behind a mood of at most one rank and leave a
mood of at most another. If `p` holds, no literal comes right behind an empty one. -/
def Spells (p : Prop) (q : Pen) (i j : Nat) (cs : List Char) (ts : List Lexeme) : Prop :=
  ∃ line, Laid q.body j cs line ∧ Fits p i j line ∧ bare line = ts

namespace Spells

variable {p : Prop} {q : Pen} {i j k : Nat} {cs xs ys : List Char} {ts us : List Lexeme}

theorem nil : Spells p q i i [] [] := ⟨[], .nil, .nil, rfl⟩

theorem mono {i' j' : Nat} (h : Spells p q i j cs ts) (hi : i' ≤ i) (hj : j ≤ j') :
    Spells p q i' j' cs ts := by
  obtain ⟨line, hlaid, hfits, hbare⟩ := h
  exact ⟨line, hlaid.mono hj, hfits.mono hi hj, hbare⟩

theorem weaken {p' : Prop} (h : Spells p q i j cs ts) (hp : p' → p) : Spells p' q i j cs ts := by
  obtain ⟨line, hlaid, hfits, hbare⟩ := h
  exact ⟨line, hlaid, ⟨hfits.calm, fun hp' => hfits.apart (hp hp'), hfits.dots⟩, hbare⟩

/-- Nothing spells no lexemes. -/
theorem eq_nil (h : Spells p q i j [] ts) : ts = [] := by
  obtain ⟨line, hlaid, -, rfl⟩ := h
  rw [hlaid.line_eq_nil]
  rfl

/-- What is put side by side is spelled side by side, unless words, numbers or literals meet. -/
theorem append_of_seams (hx : Spells p q i j xs ts) (hy : Spells p q j k ys us) (hstops : Stops ys)
    (hseam : ∀ {line line'}, Fits p i j line → Fits p j k line' → bare line = ts → bare line' = us →
      p → Seam line line') : Spells p q i k (xs ++ ys) (ts ++ us) := by
  obtain ⟨line, hlaid, hfits, hbare⟩ := hx
  obtain ⟨line', hlaid', hfits', hbare'⟩ := hy
  refine ⟨line ++ line', hlaid.append hlaid' hstops hfits'.dots ?_,
    hfits.append_of_seam hfits' (hseam hfits hfits' hbare hbare'), ?_⟩
  · rintro rfl hj
    exact hfits'.calm.ne_zero_of_nil hj
  · rw [bare_append, hbare, hbare']

/-- The seam of the lexemes counts, whatever commas are at it. -/
theorem append_of_seam (hx : Spells p q i j xs ts) (hy : Spells p q j k ys us) (hstops : Stops ys)
    (hseam : p → Seam ts us) : Spells p q i k (xs ++ ys) (ts ++ us) :=
  hx.append_of_seams hy hstops fun _ _ hts hus hp => seam_of_bare (by rw [hts, hus]; exact hseam hp)

/-- Texts whose moods meet at another rank than one may stand side by side. -/
theorem append (hx : Spells p q i j xs ts) (hy : Spells p q j k ys us) (hstops : Stops ys)
    (hj : j ≠ 1) : Spells p q i k (xs ++ ys) (ts ++ us) :=
  hx.append_of_seams hy hstops fun hfits hfits' _ _ _ => hfits.seam hfits' hj

theorem append_cons {c : Char} (hx : Spells p q i j xs ts) (hy : Spells p q j k (c :: ys) us)
    (hc : isStop c) (hj : j ≠ 1) : Spells p q i k (xs ++ c :: ys) (ts ++ us) :=
  hx.append hy (by simpa [Stops] using hc) hj

theorem gap {c : Char} (h : Spells p q i j cs ts) (hc : isGapChar c) :
    Spells p q i j (c :: cs) ts := by
  obtain ⟨line, hlaid, hrest⟩ := h
  exact ⟨line, .gap hc hlaid, hrest⟩

theorem space (h : Spells p q i j cs ts) : Spells p q i j (' ' :: cs) ts := h.gap rfl

theorem append_space (hx : Spells p q i j xs ts) (hy : Spells p q j k ys us) (hj : j ≠ 1) :
    Spells p q i k (xs ++ ' ' :: ys) (ts ++ us) :=
  hx.append_cons hy.space rfl hj

theorem comma (h : Spells p q 0 j cs ts) : Spells p q i j (',' :: cs) ts := by
  obtain ⟨line, hlaid, hfits, hbare⟩ := h
  exact ⟨.mark ',' :: line, .mark (.inr rfl) hlaid, hfits.mark (by decide), by simpa [bare] using hbare⟩

theorem mark {c : Char} (h : Spells p q 0 j cs ts) (hc : isPunctuation c) :
    Spells p q i j (c :: cs) (.mark c :: ts) := by
  obtain ⟨line, hlaid, hfits, rfl⟩ := h
  have hdot : c ≠ '.' := (ne_of_isStop (stop_of_isPunctuation hc).1).1
  have hcomma : c ≠ ',' := by
    rintro rfl
    exact absurd hc (by decide)
  exact ⟨.mark c :: line, .mark (.inl hc) hlaid, hfits.mark hdot, by simp [bare, hcomma]⟩

theorem dots (h : Spells p q 0 j cs ts) : Spells p q 0 j ('.' :: '.' :: '.' :: cs)
    (.mark '.' :: .mark '.' :: .mark '.' :: ts) := by
  obtain ⟨line, hlaid, hfits, rfl⟩ := h
  have hcalm := (calm_mark 0 '.').append ((calm_mark 0 '.').append ((calm_mark 0 '.').append hfits.calm))
  have hapart (hp : p) : Apart (.mark '.' :: .mark '.' :: .mark '.' :: line) :=
    (((hfits.apart hp).cons (by simp)).cons (by simp)).cons (by simp)
  exact ⟨_, .dots hlaid, ⟨hcalm, hapart, fun _ => rfl⟩, by simp [bare]⟩

/-- A colon and a space between two texts. -/
theorem append_colon (hx : Spells p q i j xs ts) (hy : Spells p q 0 k ys us) (hj : j ≠ 1) :
    Spells p q i k (xs ++ ':' :: ' ' :: ys) (ts ++ .mark ':' :: us) :=
  hx.append_cons (hy.space.mark rfl) rfl hj

theorem fits_number (negative : Bool) (w : List Char) (tail : Tail) :
    Fits p 0 0 (numberLine negative w tail) := by
  have hword {w : List Char} {line : List Lexeme} (h : Fits p 0 0 line) :
      Fits p 0 0 (.word w :: line) :=
    ⟨(calm_word w Nat.zero_ne_one).append h.calm, fun hp => (h.apart hp).cons (by simp), fun _ => rfl⟩
  have hmark {c : Char} {line : List Lexeme} (h : Fits p 0 0 line) : Fits p 0 0 (.mark c :: line) :=
    ⟨(calm_mark 0 c).append h.calm, fun hp => (h.apart hp).cons (by simp), fun _ => rfl⟩
  have htail : Fits p 0 0 tail.line := by
    induction tail with
    | nil => exact .nil
    | cons e tail ih => exact hmark (hword ih)
  cases negative with
  | false => exact hword htail
  | true => exact hmark (hword htail)

/-- A number leaves a mood that stands against points. -/
theorem number {negative : Bool} {w : List Char} {tail : Tail}
    (h : IsInt (numberChars negative w tail) ∨ IsFloat (numberChars negative w tail))
    (parts : IsNumber w tail) :
    Spells p q 0 1 (numberChars negative w tail) (numberLine negative w tail) := by
  have hlaid : Laid q.body 1 (numberChars negative w tail ++ []) (numberLine negative w tail ++ []) :=
    .number h parts (by simp) (by simp) (by simp) .nil
  rw [List.append_nil, List.append_nil] at hlaid
  exact ⟨_, hlaid, (fits_number negative w tail).mono (Nat.le_refl 0) (Nat.zero_le 1),
    bare_number parts⟩

theorem literal (s : String) : Spells p q 1 1 (q.quote s).toList [.text s] := by
  have hlaid : Laid q.body 1 ('"' :: (q.body s ++ '"' :: [])) [.text s] := .text (by simp) .nil
  exact ⟨_, by simpa [Pen.quote] using hlaid, ⟨calm_text s, fun _ => .singleton _, by simp⟩, rfl⟩

/-! ### Joining, wrapping, indenting -/

theorem join_nil (sep : String) : join sep [] = "" := rfl

theorem join_cons_empty (sep : String) (texts : List String) :
    join sep ("" :: texts) = join sep texts := rfl

theorem join_ne_empty {sep t : String} {texts : List String} (hmem : t ∈ texts) (ht : t ≠ "") :
    join sep texts ≠ "" := by
  intro hjoin
  have hmem' : t ∈ texts.filter (· ≠ "") := List.mem_filter.mpr ⟨hmem, by simpa using ht⟩
  rw [join] at hjoin
  match hfilter : texts.filter (· ≠ "") with
  | [] =>
      rw [hfilter] at hmem'
      contradiction
  | u :: rest =>
      have hu : u ≠ "" := by
        have := List.mem_filter.mp (hfilter ▸ List.mem_cons_self : u ∈ texts.filter (· ≠ ""))
        simpa using this.2
      rw [hfilter] at hjoin
      cases rest with
      | nil => exact hu (by simpa using hjoin)
      | cons v rest => simp [String.intercalate_cons_cons, hu] at hjoin

theorem join_cons_of_ne (sep : String) {text : String} (texts : List String) (h : text ≠ "") :
    join sep (text :: texts) = text ++ wrap sep (join sep texts) "" := by
  have hfirst : (text :: texts).filter (· ≠ "") = text :: texts.filter (· ≠ "") :=
    List.filter_cons_of_pos (by simpa using h)
  rw [join, hfirst]
  cases hrest : texts.filter (· ≠ "") with
  | nil =>
      have hjoin : join sep texts = "" := by rw [join, hrest, String.intercalate_nil]
      simp [wrap, hjoin]
  | cons u rest =>
      obtain ⟨hmem, hu⟩ := List.mem_filter.mp (hrest ▸ List.mem_cons_self : u ∈ texts.filter (· ≠ ""))
      have hjoin : join sep texts ≠ "" := join_ne_empty hmem (by simpa using hu)
      rw [wrap, if_neg hjoin, join, hrest, String.intercalate_cons_cons]
      simp [String.append_assoc]

theorem blanks {bs : List Char} (h : Spells p q i j cs ts) (hbs : bs.all isGapChar) :
    Spells p q i j (bs ++ cs) ts := by
  induction bs with
  | nil => exact h
  | cons b bs ih =>
      obtain ⟨hb, hbs⟩ : isGapChar b ∧ bs.all isGapChar := by simpa using hbs
      exact (ih hbs).gap hb

theorem stops_blanks {bs : List Char} (hbs : bs.all isGapChar) : Stops bs :=
  fun c hc => (stop_of_isGapChar (List.all_eq_true.mp hbs c (List.mem_of_mem_head? hc))).1

/-- Blanks in front of a text, unless it is empty. -/
theorem wrapBlanks {text : String} (h : Spells p q i j text.toList ts) (sep : String)
    (hsep : sep.toList.all isGapChar) : Spells p q i j (wrap sep text "").toList ts := by
  rw [wrap]
  split
  · rename_i hempty
    rwa [hempty] at h
  · simpa using h.blanks hsep

theorem stops_wrap {before text after : String} (h : before.toList.head?.any isStop) :
    Stops (wrap before text after).toList := by
  obtain ⟨c, hc, hstop⟩ : ∃ c ∈ before.toList.head?, isStop c := by
    simpa [Option.any_eq_true] using h
  obtain ⟨cs, hcons⟩ := List.head?_eq_some_iff.mp hc
  rw [wrap]
  split
  · simp [Stops]
  · simpa [Stops, hcons] using hstop

/-- A wrapped text may stand behind anything if what it begins with may. -/
theorem append_wrap {before text after : String} (hx : Spells p q i j xs ts)
    (hy : Spells p q j k (wrap before text after).toList us) (h : before.toList.head?.any isStop)
    (hj : j ≠ 1) : Spells p q i k (xs ++ (wrap before text after).toList) (ts ++ us) :=
  hx.append hy (stops_wrap h) hj

/-- Blanks, one or more. -/
def isGap (sep : String) : Bool := !sep.toList.isEmpty && sep.toList.all isGapChar

theorem stops_gap {sep : String} (hsep : isGap sep) :
    sep.toList.all isGapChar ∧ sep.toList.head?.any isStop := by
  obtain ⟨hne, hall⟩ : sep.toList ≠ [] ∧ sep.toList.all isGapChar := by
    simpa only [isGap, Bool.and_eq_true, Bool.not_eq_true', List.isEmpty_eq_false_iff] using hsep
  obtain ⟨c, cs, hcons⟩ := List.exists_cons_of_ne_nil hne
  have hc : isStop c := stops_blanks hall c (by simp [hcons])
  exact ⟨hall, by simp [hcons, hc]⟩

/-- Joining over blanks. -/
theorem joinBlanks {sep : String} {texts : List String} {tss : List (List Lexeme)}
    (hsep : isGap sep) (h : List.Forall₂ (fun text ts => Spells p q i i text.toList ts) texts tss)
    (hi : i ≠ 1) : Spells p q i i (join sep texts).toList tss.flatten := by
  obtain ⟨hall, hhead⟩ := stops_gap hsep
  induction h with
  | nil => exact nil
  | @cons text ts texts tss htext _ ih =>
      by_cases hempty : text = ""
      · subst hempty
        obtain rfl := htext.eq_nil
        simpa [join_cons_empty] using ih
      · rw [join_cons_of_ne sep texts hempty, String.toList_append, List.flatten_cons]
        exact htext.append_wrap (ih.wrapBlanks sep hall) hhead hi

/-- Joining over blanks what may begin and end with literals. -/
theorem joinSeams {sep : String} {texts : List String} {tss : List (List Lexeme)}
    (hsep : isGap sep) (h : List.Forall₂ (fun text ts => Spells p q i i text.toList ts) texts tss)
    (hne : ∀ ts ∈ tss, ts ≠ []) (hseams : p → tss.IsChain Seam) :
    Spells p q i i (join sep texts).toList tss.flatten := by
  obtain ⟨hall, hhead⟩ := stops_gap hsep
  induction h with
  | nil => exact nil
  | @cons text ts texts tss htext _ ih =>
      obtain ⟨hts, hne⟩ := List.forall_mem_cons.mp hne
      have hempty : text ≠ "" := by
        rintro rfl
        exact hts htext.eq_nil
      have hrest := ih hne fun hp => (List.isChain_cons.mp (hseams hp)).2
      have hseam (hp : p) : Seam ts tss.flatten := by
        cases tss with
        | nil => simp [Seam]
        | cons us tss =>
            have hus := (List.isChain_cons.mp (hseams hp)).1 us rfl
            rwa [Seam, List.flatten_cons, List.head?_append_of_ne_nil _ (hne us (by simp))]
      rw [join_cons_of_ne sep texts hempty, String.toList_append, List.flatten_cons]
      exact htext.append_of_seam (hrest.wrapBlanks sep hall) (stops_wrap hhead) hseam

/-- Joining over commas. -/
theorem joinCommas {texts : List String} {tss : List (List Lexeme)}
    (h : List.Forall₂ (fun text ts => Spells p q 0 1 text.toList ts) texts tss) :
    Spells p q 0 1 (join ", " texts).toList tss.flatten := by
  induction h with
  | nil => exact nil.mono (Nat.le_refl 0) (Nat.zero_le 1)
  | @cons text ts texts tss htext _ ih =>
      by_cases hempty : text = ""
      · subst hempty
        obtain rfl := htext.eq_nil
        simpa [join_cons_empty] using ih
      · rw [join_cons_of_ne ", " texts hempty, String.toList_append, List.flatten_cons, wrap]
        split
        · rename_i hnone
          rw [hnone] at ih
          simpa [ih.eq_nil] using htext
        · -- Behind the comma any mood is clear again.
          have hrest : Spells p q 2 1 (',' :: ' ' :: (join ", " texts).toList) tss.flatten :=
            ih.space.comma
          simpa using (htext.mono (Nat.le_refl 0) (Nat.le_succ 1)).append_cons hrest rfl (by decide)

/-- Indenting touches no lexeme. -/
theorem indent {text : String} (h : Spells p q i j text.toList ts) :
    Spells p q i j (Printer.indent text).toList ts := by
  obtain ⟨line, hlaid, hrest⟩ := h
  refine wrapBlanks ⟨line, ?_, hrest⟩ "  " rfl
  rw [String.toList_ofList]
  exact hlaid.deepened q.unbroken

/-- Blanks behind a text. -/
theorem blanksBehind (h : Spells p q i j cs ts) (bs : List Char) (hbs : bs.all isGapChar) :
    Spells p q i j (cs ++ bs) ts := by
  have hnone : Spells p q j j bs [] := by simpa using (nil (i := j)).blanks hbs
  simpa using h.append_of_seam hnone (stops_blanks hbs) (by simp [Seam])

/-- A text between two punctuation characters. -/
theorem enclosed {a b : Char} (h : Spells p q 0 j cs ts) (ha : isPunctuation a)
    (hb : isPunctuation b) : Spells p q i 0 (a :: (cs ++ [b])) (.mark a :: (ts ++ [.mark b])) := by
  have hend : Spells p q j 0 [b] [.mark b] := nil.mark hb
  have hstops : Stops [b] := by simpa [Stops] using (stop_of_isPunctuation hb).1
  have hseam : Seam ts [.mark b] := by simp [Seam, Glued]
  exact (h.append_of_seam hend hstops fun _ => hseam).mark ha

/-- A text between two punctuation characters, perhaps on lines of its own. -/
theorem bracketed {a b : Char} (h : Spells p q 0 j cs ts) (before after : List Char)
    (hbefore : before.all isGapChar) (hafter : after.all isGapChar) (ha : isPunctuation a)
    (hb : isPunctuation b) :
    Spells p q i 0 (a :: (before ++ (cs ++ (after ++ [b])))) (.mark a :: (ts ++ [.mark b])) := by
  simpa using ((h.blanksBehind after hafter).blanks hbefore).enclosed ha hb

/-- A name is spelled by itself alone. -/
theorem eq_name {n : String} (hn : IsName n) (h : Spells p q i j n.toList ts) :
    ts = [.word n.toList] := by
  obtain ⟨line, hlaid, -, rfl⟩ := h
  rw [hlaid.eq_word (mt String.toList_eq_nil_iff.mp hn.ne_empty) hn.isWord hn.not_isDigit]
  rfl

end Spells

/-- A text that spells the lexemes and is empty when there are none. -/
structure Fills (p : Prop) (q : Pen) (i j : Nat) (text : String) (ts : List Lexeme) : Prop where
  spells : Spells p q i j text.toList ts
  empty : ts = [] → text = ""

/-- Lexemes in parentheses, unless there are none. -/
def paren : List Lexeme → List Lexeme
  | [] => []
  | t :: ts => .mark '(' :: (t :: ts ++ [.mark ')'])

/-- Lexemes behind an equals sign, unless there are none. -/
def assign : List Lexeme → List Lexeme
  | [] => []
  | t :: ts => .mark '=' :: t :: ts

/-- The lexeme of a name that may be absent. -/
def ofName? (n : Option String) : List Lexeme := (n.map fun n => .word n.toList).toList

namespace Fills

variable {p : Prop} {q : Pen} {i j k : Nat} {text : String} {texts : List String} {ts us : List Lexeme}
  {tss : List (List Lexeme)}

theorem none (i : Nat) : Fills p q i i "" [] := ⟨.nil, fun _ => rfl⟩

theorem of_ne_nil (h : Spells p q i j text.toList ts) (hne : ts ≠ []) : Fills p q i j text ts :=
  ⟨h, fun hnil => absurd hnil hne⟩

theorem eq_empty_iff (h : Fills p q i j text ts) : text = "" ↔ ts = [] := by
  refine ⟨fun hempty => ?_, h.empty⟩
  have hspells := h.spells
  rw [hempty] at hspells
  exact hspells.eq_nil

theorem mono {i' j' : Nat} (h : Fills p q i j text ts) (hi : i' ≤ i) (hj : j ≤ j') :
    Fills p q i' j' text ts :=
  ⟨h.spells.mono hi hj, h.empty⟩

theorem append {text' : String} (h : Fills p q i j text ts) (h' : Fills p q j k text' us)
    (hstops : Stops text'.toList) (hj : j ≠ 1) : Fills p q i k (text ++ text') (ts ++ us) := by
  refine ⟨by simpa using h.spells.append h'.spells hstops hj, fun hnil => ?_⟩
  rw [List.append_eq_nil_iff] at hnil
  rw [h.empty hnil.1, h'.empty hnil.2, String.append_empty]

theorem join_eq_empty {sep : String} (h : List.Forall₂ (Fills p q i j) texts tss)
    (hnil : tss.flatten = []) : join sep texts = "" := by
  induction h with
  | nil => rfl
  | cons htext _ ih =>
      rw [List.flatten_cons, List.append_eq_nil_iff] at hnil
      rw [htext.empty hnil.1, Spells.join_cons_empty, ih hnil.2]

theorem joinBlanks (h : List.Forall₂ (Fills p q i i) texts tss) (sep : String)
    (hsep : Spells.isGap sep) (hi : i ≠ 1) : Fills p q i i (join sep texts) tss.flatten :=
  ⟨.joinBlanks hsep (h.imp fun _ _ htext => htext.spells) hi, join_eq_empty h⟩

/-- What is joined over blanks, unless it is nothing, begins as its items do. -/
theorem joinBlanks_of_ne (h : List.Forall₂ (Fills p q i 0) texts tss) (sep : String)
    (hsep : Spells.isGap sep) (hne : join sep texts ≠ "") :
    Spells p q i 0 (join sep texts).toList tss.flatten := by
  obtain ⟨hall, hhead⟩ := Spells.stops_gap hsep
  induction h with
  | nil => exact absurd (Spells.join_nil sep) hne
  | @cons text ts texts tss htext hrest ih =>
      by_cases hempty : text = ""
      · obtain rfl := htext.eq_empty_iff.mp hempty
        rw [hempty, Spells.join_cons_empty] at hne ⊢
        simpa using ih hne
      · have hjoined : Fills p q 0 0 (join sep texts) tss.flatten :=
          joinBlanks (hrest.imp fun _ _ hf => hf.mono (Nat.zero_le i) (Nat.le_refl 0)) sep hsep
            (by decide)
        rw [Spells.join_cons_of_ne sep texts hempty, String.toList_append, List.flatten_cons]
        exact htext.spells.append_wrap (hjoined.spells.wrapBlanks sep hall) hhead (by decide)

theorem joinSeams (h : List.Forall₂ (Fills p q i i) texts tss) (sep : String)
    (hsep : Spells.isGap sep) (hne : ∀ ts ∈ tss, ts ≠ []) (hseams : p → tss.IsChain Seam) :
    Fills p q i i (join sep texts) tss.flatten :=
  ⟨.joinSeams hsep (h.imp fun _ _ htext => htext.spells) hne hseams, join_eq_empty h⟩

theorem joinCommas (h : List.Forall₂ (Fills p q 0 1) texts tss) :
    Fills p q 0 1 (join ", " texts) tss.flatten :=
  ⟨.joinCommas (h.imp fun _ _ htext => htext.spells), join_eq_empty h⟩

/-- Text in parentheses, perhaps on lines of its own. -/
theorem paren (h : Fills p q 0 j text ts) (before after : List Char) (hbefore : before.all isGapChar)
    (hafter : after.all isGapChar) (i : Nat) : Fills p q i i
      (wrap (String.ofList ('(' :: before)) text (String.ofList (after ++ [')']))) (paren ts) := by
  rw [wrap]
  split
  · rename_i hempty
    rw [h.eq_empty_iff.mp hempty]
    exact none i
  · rename_i hne
    obtain ⟨t, ts, rfl⟩ := List.exists_cons_of_ne_nil (mt h.eq_empty_iff.mpr hne)
    refine of_ne_nil ?_ (by simp [Lexeme.paren])
    have hspells := (h.spells.bracketed (i := i) (a := '(') (b := ')') before after hbefore hafter
      rfl rfl).mono (Nat.le_refl i) (Nat.zero_le i)
    simpa [Lexeme.paren] using hspells

theorem indent (h : Fills p q i j text ts) : Fills p q i j (Printer.indent text) ts := by
  refine ⟨h.spells.indent, fun hnil => ?_⟩
  rw [h.empty hnil]
  decide

/-- A value behind an equals sign. -/
theorem assign (h : Fills p q 0 1 text ts) : Fills p q 0 1 (wrap " = " text "") (assign ts) := by
  rw [wrap]
  split
  · rename_i hempty
    rw [h.eq_empty_iff.mp hempty]
    exact (none 0).mono (Nat.le_refl 0) (Nat.zero_le 1)
  · rename_i hne
    obtain ⟨t, ts, rfl⟩ := List.exists_cons_of_ne_nil (mt h.eq_empty_iff.mpr hne)
    have hvalue := h.spells.space.mark (i := 0) (c := '=') rfl
    exact of_ne_nil (by simpa [Lexeme.assign] using hvalue.space) (by simp [Lexeme.assign])

/-- What may stand behind a word, joined over blanks, may stand behind a literal. -/
theorem behind {xs : List Char} (hx : Spells p q i 1 xs us) (h : List.Forall₂ (Fills p q 2 0) texts tss) :
    Spells p q i 1 (xs ++ (wrap " " (join " " texts) "").toList) (us ++ tss.flatten) := by
  rw [wrap]
  split
  · rename_i hempty
    have hjoined : Fills p q 0 0 (join " " texts) tss.flatten :=
      joinBlanks (h.imp fun _ _ hf => hf.mono (Nat.zero_le 2) (Nat.le_refl 0)) " " rfl (by decide)
    simpa [hjoined.eq_empty_iff.mp hempty] using hx
  · rename_i hne
    have hline := (hx.mono (Nat.le_refl i) (Nat.le_succ 1)).append_space
      (joinBlanks_of_ne h " " rfl hne) (by decide)
    simpa using hline.mono (Nat.le_refl i) (Nat.zero_le 1)

/-- A description on lines of its own in front of a text. -/
theorem described {rest : List Char} (h : Fills p q 1 1 text ts) (hrest : Spells p q i k rest us)
    (hi : 2 ≤ i) : Spells p q 1 k ((wrap "" text "\n").toList ++ rest) (ts ++ us) := by
  rw [wrap]
  split
  · rename_i hempty
    have hone : 1 ≤ i := by omega
    simpa [h.eq_empty_iff.mp hempty] using hrest.mono hone (Nat.le_refl k)
  · have hline : Spells p q 2 k ('\n' :: rest) us := (hrest.mono hi (Nat.le_refl k)).gap rfl
    have htext : Spells p q 1 2 text.toList ts := h.spells.mono (Nat.le_refl 1) (Nat.le_succ 1)
    simpa using htext.append_cons hline rfl (by decide)

end Fills

end Lexeme

theorem IsName.spells {p : Prop} {q : Lexeme.Pen} {n : String} (h : IsName n) {i : Nat} (hi : i ≠ 1) :
    Lexeme.Spells p q i i n.toList [.word n.toList] := by
  have hlaid : Lexeme.Laid q.body i (n.toList ++ []) [.word n.toList] := .name h (by simp) .nil
  rw [List.append_nil] at hlaid
  exact ⟨_, hlaid, ⟨Lexeme.calm_word n.toList hi, fun _ => .singleton _, by simp⟩, rfl⟩

theorem fills_name {p : Prop} {q : Lexeme.Pen} {n : Option String} (h : ∀ m ∈ n, IsName m) {i : Nat}
    (hi : i ≠ 1) : Lexeme.Fills p q i i (n.getD "") (Lexeme.ofName? n) := by
  cases n with
  | none => exact .none i
  | some m => exact .of_ne_nil ((h m rfl).spells hi) (by simp [Lexeme.ofName?])

end PersistedOps

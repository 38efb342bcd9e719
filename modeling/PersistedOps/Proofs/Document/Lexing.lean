import PersistedOps.Proofs.Document.Lexer
import PersistedOps.Proofs.Document.Line
import PersistedOps.Proofs.Document.Spelling

/-!
Lexing what is laid out. Every lexeme that names, numbers, punctuation or a literal make is read as one
token, so two texts with the same lexemes have the same tokens, whatever blanks and commas they have
and however they escape the characters of their literals.
-/

namespace PersistedOps

open Signature (isWord)

namespace Lexer

/-! ### Numbers -/

/-- Neither a word goes on nor a number. -/
def EndsNumber (cs : List Char) : Prop := ∀ c ∈ cs.head?, isWord c = false ∧ c ≠ '.'

theorem not_isDigit_of_not_isWord {c : Char} (h : isWord c = false) : c.isDigit = false := by
  cases hdigit : c.isDigit with
  | false => rfl
  | true => exact absurd (isWord_of_isDigit hdigit) (by simp [h])

theorem digits_append {ds rest : List Char} (h : IsDigits ds)
    (hrest : ∀ c ∈ rest.head?, c.isDigit = false) : digits (ds ++ rest) = some (ds, rest) := by
  obtain ⟨hne, hdigits⟩ := h
  have htake : (ds ++ rest).takeWhile Char.isDigit = ds ∧ (ds ++ rest).dropWhile Char.isDigit = rest := by
    rw [List.takeWhile_append_of_pos hdigits, List.dropWhile_append_of_pos hdigits]
    cases rest with
    | nil => simp
    | cons c rest =>
        have hc : c.isDigit = false := hrest c rfl
        simp [hc]
  obtain ⟨d, ds, rfl⟩ := List.exists_cons_of_ne_nil hne
  rw [digits, htake.1, htake.2]

theorem whole_append {ds rest : List Char} (h : IsDigits ds) (hzero : ds.head? = some '0' → ds = ['0'])
    (hrest : ∀ c ∈ rest.head?, c.isDigit = false) : whole (ds ++ rest) = some (ds, rest) := by
  by_cases hhead : ds.head? = some '0'
  · have hany : rest.head?.any Char.isDigit = false := by
      cases hc : rest.head? with
      | none => rfl
      | some c => exact hrest c hc
    rw [hzero hhead, List.singleton_append, whole, hany]
    rfl
  · obtain ⟨d, ds, rfl⟩ := List.exists_cons_of_ne_nil h.1
    have hd : d ≠ '0' := by simpa using hhead
    rw [← digits_append h hrest, List.cons_append, whole]
    exact fun _ hcons => hd (List.cons.inj hcons).1

theorem fraction_append {fs rest : List Char} (h : fs = [] ∨ IsFraction fs)
    (hrest : ∀ c ∈ rest.head?, c.isDigit = false ∧ c ≠ '.') :
    fraction (fs ++ rest) = some (fs, rest) := by
  obtain rfl | ⟨ds, hds, rfl⟩ := h
  · cases rest with
    | nil => rfl
    | cons c rest =>
        rw [List.nil_append, fraction]
        exact fun _ hcons => (hrest c rfl).2 (List.cons.inj hcons).1
  · rw [List.cons_append, fraction, digits_append hds fun c hc => (hrest c hc).1]
    rfl

theorem sign_append {signs s ds : List Char} (rest : List Char) (hs : s = [] ∨ ∃ c ∈ signs, s = [c])
    (hds : IsDigits ds) (hsigns : ∀ c ∈ signs, c.isDigit = false) :
    sign signs (s ++ (ds ++ rest)) = (s, ds ++ rest) := by
  obtain rfl | ⟨c, hc, rfl⟩ := hs
  · obtain ⟨d, ds, rfl⟩ := List.exists_cons_of_ne_nil hds.1
    have hd : d ∉ signs := fun hmem => absurd (hds.2 d (by simp)) (by simp [hsigns d hmem])
    simp [sign, hd]
  · simp [sign, hc]

theorem exponent_append {es rest : List Char} (h : es = [] ∨ IsExponent es) (hrest : EndsNumber rest) :
    exponent (es ++ rest) = some (es, rest) := by
  obtain rfl | ⟨e, he, s, hs, ds, hds, rfl⟩ := h
  · cases rest with
    | nil => rfl
    | cons c rest =>
        have hc : (c == 'e' || c == 'E') = false := by
          have hword := (hrest c rfl).1
          rw [Bool.or_eq_false_iff, beq_eq_false_iff_ne, beq_eq_false_iff_ne]
          constructor <;> rintro rfl <;> exact absurd hword (by decide)
        simp [exponent, hc]
  · have hletter : e == 'e' || e == 'E' := by
      simp only [List.mem_cons, List.not_mem_nil, or_false] at he
      obtain rfl | rfl := he <;> rfl
    have hdigits : digits (ds ++ rest) = some (ds, rest) :=
      digits_append hds fun c hc => not_isDigit_of_not_isWord (hrest c hc).1
    have hsign : sign ['+', '-'] (s ++ (ds ++ rest)) = (s, ds ++ rest) :=
      sign_append rest (by simpa using hs) hds
        (List.forall_mem_cons.mpr ⟨rfl, List.forall_mem_singleton.mpr rfl⟩)
    simp only [List.cons_append, List.append_assoc, exponent, hletter, if_true, hsign, hdigits]
    simp

/-- The token of a number. -/
def ofNumber (cs : List Char) : Token :=
  if Lexeme.isFloat cs then .float (String.ofList cs) else .int (String.ofList cs)

theorem number_append {minus ds fs es rest : List Char} (hminus : minus ∈ [[], ['-']])
    (hds : IsDigits ds) (hzero : ds.head? = some '0' → ds = ['0']) (hfs : fs = [] ∨ IsFraction fs)
    (hes : es = [] ∨ IsExponent es) (hrest : EndsNumber rest) :
    number (minus ++ ds ++ fs ++ es ++ rest) =
      some (if fs.isEmpty && es.isEmpty then .int (String.ofList (minus ++ ds ++ fs ++ es))
        else .float (String.ofList (minus ++ ds ++ fs ++ es)), rest) := by
  have hend : ∀ c ∈ rest.head?, c.isDigit = false ∧ c ≠ '.' :=
    fun c hc => ⟨not_isDigit_of_not_isWord (hrest c hc).1, (hrest c hc).2⟩
  have hexponentHead : ∀ c ∈ (es ++ rest).head?, c.isDigit = false ∧ c ≠ '.' := by
    obtain rfl | ⟨e, he, s, -, ds, -, rfl⟩ := hes
    · exact hend
    · intro c hc
      obtain rfl : e = c := by simpa using hc
      simp only [List.mem_cons, List.not_mem_nil, or_false] at he
      obtain rfl | rfl := he <;> decide
  have hfractionHead : ∀ c ∈ (fs ++ (es ++ rest)).head?, c.isDigit = false := by
    obtain rfl | ⟨ds, -, rfl⟩ := hfs
    · exact fun c hc => (hexponentHead c hc).1
    · intro c hc
      obtain rfl : '.' = c := by simpa using hc
      decide
  have hsign : sign ['-'] (minus ++ (ds ++ (fs ++ (es ++ rest)))) = (minus, ds ++ (fs ++ (es ++ rest))) :=
    sign_append _ (by simpa using hminus) hds (List.forall_mem_singleton.mpr rfl)
  have hfollow : (rest.head?.any fun c => c == '.' || isNameStart c) = false := by
    cases hc : rest.head? with
    | none => rfl
    | some c =>
        obtain ⟨hword, hdot⟩ := hrest c hc
        simp only [Option.any_some, Bool.or_eq_false_iff, beq_eq_false_iff_ne]
        refine ⟨hdot, ?_⟩
        simp only [isWord, Char.isAlphanum, Bool.or_eq_false_iff] at hword
        simp [isNameStart, hword.1.1, hword.2]
  rw [List.append_assoc, List.append_assoc, List.append_assoc, number, hsign]
  simp only [whole_append hds hzero hfractionHead, fraction_append hfs hexponentHead,
    exponent_append hes hrest, hfollow, bind, Option.bind, pure]
  rfl

theorem number_int {cs rest : List Char} (h : IsInt cs) (hrest : EndsNumber rest) :
    number (cs ++ rest) = some (ofNumber cs, rest) := by
  rw [ofNumber, Lexeme.isFloat_of_isInt h]
  obtain ⟨minus, hminus, ds, hds, hzero, rfl⟩ := h
  have hread := number_append hminus hds hzero (.inl rfl) (.inl rfl) hrest
  simpa using hread

theorem number_float {cs rest : List Char} (h : IsFloat cs) (hrest : EndsNumber rest) :
    number (cs ++ rest) = some (ofNumber cs, rest) := by
  rw [ofNumber, Lexeme.isFloat_of_isFloat h]
  obtain ⟨-, fs, es, ⟨minus, hminus, ds, hds, hzero, rfl⟩, hfs, hes, hsome, rfl⟩ := h
  have hread := number_append hminus hds hzero hfs hes hrest
  have hboth : (fs.isEmpty && es.isEmpty) = false := by
    obtain hne | hne := hsome <;> simp [hne]
  rw [hread, hboth]
  rfl

/-! ### Strings -/

/-- Every character is read back from what it is written as between quotes. -/
def Faithful (escape : Char → List Char) : Prop :=
  ∀ c rest, character? (escape c ++ rest) = some (c, rest)

theorem scalar?_toNat (c : Char) : scalar? c.toNat = some c := by
  have hvalid : c.toNat.isValidChar := c.valid
  rw [scalar?, if_pos hvalid, Char.ofNat_toNat]

/-- Four digits of a number below the surrogates are read as its character. -/
theorem character?_unit {ds : List Char} {c : Char} (rest : List Char) (hlength : ds.length = 4)
    (hread : Hex.toNat? ds = some c.toNat) (hsmall : c.toNat < 0xd800) :
    character? ('\\' :: 'u' :: ds ++ rest) = some (c, rest) := by
  obtain ⟨a, b, d, e, rfl⟩ : ∃ a b d e, ds = [a, b, d, e] := by
    match ds, hlength with
    | [a, b, d, e], _ => exact ⟨a, b, d, e, rfl⟩
  have ha : a ≠ '\x7b' := by
    rintro rfl
    simp [Hex.toNat?, show Hex.digit? '\x7b' = none from rfl] at hread
  have hlead : ¬ 0xd800 ≤ c.toNat := by omega
  have hescaped : escaped? ('u' :: a :: b :: d :: e :: rest) = some (c, rest) := by
    rw [escaped?]
    · simp [quad?, hread, hlead, scalar?_toNat]
    · exact fun _ hcons => ha (List.cons.inj hcons).1
  exact hescaped

theorem character?_plain {c : Char} (rest : List Char) (hbackslash : c ≠ '\\') (hquote : c ≠ '"')
    (hend : isLineEnd c = false) : character? (c :: rest) = some (c, rest) := by
  rw [character?]
  · simp [hquote, hend]
  · exact fun heq => hbackslash heq

/-- Quotes as a document is printed with them. -/
theorem faithful_printed : Faithful Printer.escape := by
  intro c rest
  unfold Printer.escape
  split
  case h_8 hquote hbackslash hbreak hreturn _ _ _ =>
    split
    · rename_i hcontrol
      have hsmall : c.toNat < 0xa0 := by
        simp only [Bool.or_eq_true, Bool.and_eq_true, decide_eq_true_eq] at hcontrol
        omega
      have hread : Hex.toNat? ((Hex.ofNat 4 c.toNat).map Char.toUpper) = some c.toNat :=
        Hex.toNat?_map_ofNat (by decide) (by omega)
      exact character?_unit rest (by simp [Hex.length_ofNat]) hread (by omega)
    · exact character?_plain rest hbackslash hquote (by simpa [isLineEnd] using ⟨hbreak, hreturn⟩)
  all_goals rfl

/-- Quotes of a reduced text. -/
theorem faithful_reduced : Faithful (JsonQuoted.escape JsonQuoted.isNoControl) := by
  intro c rest
  rw [JsonQuoted.escape]
  cases hshort : JsonQuoted.short? c with
  | some s =>
      unfold JsonQuoted.short? at hshort
      split at hshort
      all_goals first
        | contradiction
        | obtain rfl := Option.some.inj hshort
          rfl
  | none =>
      by_cases hplain : JsonQuoted.isNoControl c
      · have hne (d : Char) (hd : (JsonQuoted.short? d).isSome) : c ≠ d := by
          rintro rfl
          simp [hshort] at hd
        have hend : isLineEnd c = false := by simp [isLineEnd, hne '\n' rfl, hne '\r' rfl]
        simpa [hplain] using character?_plain rest (hne '\\' rfl) (hne '"' rfl) hend
      · have hsmall : c.toNat < 0x20 := by
          simpa [JsonQuoted.isNoControl] using hplain
        have hunits : JsonQuoted.units c = '\\' :: 'u' :: Hex.ofNat 4 c.toNat := by
          rw [JsonQuoted.units, if_pos (by omega), JsonQuoted.unit]
        rw [if_neg hplain, hunits]
        exact character?_unit rest (Hex.length_ofNat 4 c.toNat)
          (Hex.toNat?_ofNat (by omega)) (by omega)

section

variable {escape : Char → List Char} (h : Faithful escape)

include h

theorem Faithful.exists_cons (c : Char) : ∃ d ds, escape c = d :: ds ∧ d ≠ '"' := by
  cases hc : escape c with
  | nil =>
      have hread := h c []
      rw [hc] at hread
      cases hread
  | cons d ds =>
      refine ⟨d, ds, rfl, ?_⟩
      rintro rfl
      have hread := h c []
      rw [hc] at hread
      cases hread

theorem Faithful.length_le (s : List Char) : s.length ≤ (s.flatMap escape).length := by
  induction s with
  | nil => simp
  | cons c s ih =>
      obtain ⟨d, ds, hc, -⟩ := h.exists_cons c
      rw [List.flatMap_cons, List.length_append, hc, List.length_cons, List.length_cons]
      omega

/-- A string is read back up to its closing quote. -/
theorem Faithful.quoted {s : List Char} {fuel : Nat} (rest : List Char) (hfuel : s.length ≤ fuel) :
    Lexer.quoted fuel (s.flatMap escape ++ '"' :: rest) = some (s, rest) := by
  induction s generalizing fuel with
  | nil => cases fuel <;> rfl
  | cons c s ih =>
      obtain ⟨fuel, rfl⟩ := Nat.exists_eq_add_of_le' (Nat.le_of_add_left_le hfuel)
      obtain ⟨d, ds, hc, hd⟩ := h.exists_cons c
      have hchar := h c (s.flatMap escape ++ '"' :: rest)
      rw [List.flatMap_cons, List.append_assoc]
      rw [hc, List.cons_append] at hchar ⊢
      rw [Lexer.quoted]
      · simp [hchar, ih (by simpa using hfuel)]
      · exact fun _ hcons => hd (List.cons.inj hcons).1

/-- A literal is one token unless it is empty and a quote comes next. -/
theorem Faithful.token {s : String} {rest : List Char} (hends : s = "" → rest.head? ≠ some '"') :
    Lexer.token ('"' :: (s.toList.flatMap escape ++ '"' :: rest)) = some (.string s, rest) := by
  have hlength := h.length_le s.toList
  have hread : Lexer.quoted (s.toList.flatMap escape ++ '"' :: rest).length
      (s.toList.flatMap escape ++ '"' :: rest) = some (s.toList, rest) :=
    h.quoted rest (by rw [List.length_append]; omega)
  have hone : ∀ cs, s.toList.flatMap escape ++ '"' :: rest ≠ '"' :: '"' :: cs := by
    intro cs hcs
    cases hs : s.toList with
    | nil =>
        rw [hs] at hcs
        have hrest : rest = '"' :: cs := (List.cons.inj hcs).2
        exact hends (String.toList_eq_nil_iff.mp hs) (by rw [hrest]; rfl)
    | cons c ds =>
        obtain ⟨d, es, hc, hd⟩ := h.exists_cons c
        rw [hs, List.flatMap_cons, hc] at hcs
        exact hd (List.cons.inj hcs).1
  rw [Lexer.token]
  · rw [hread, Option.map_some]
    simp only [String.ofList_toList]
  · exact fun cs hcs => hone cs hcs

end

/-! ### Tokens -/

theorem lexFrom_ignored {c : Char} {cs : List Char} (fuel : Nat) (h : isIgnored c) :
    lexFrom (fuel + 1) (c :: cs) = lexFrom fuel cs := by
  rw [lexFrom, if_pos h]

/-- A text that begins with a token goes on behind it. -/
theorem lexFrom_append {xs rest : List Char} {t : Token} {tokens : List Token} {fuel : Nat}
    (hne : xs ≠ []) (hhead : ∀ c ∈ xs.head?, isIgnored c = false ∧ c ≠ '#')
    (htoken : token (xs ++ rest) = some (t, rest))
    (hrest : ∀ fuel, rest.length ≤ fuel → lexFrom fuel rest = some tokens)
    (hfuel : (xs ++ rest).length ≤ fuel) : lexFrom fuel (xs ++ rest) = some (t :: tokens) := by
  obtain ⟨c, xs, rfl⟩ := List.exists_cons_of_ne_nil hne
  obtain ⟨hc, hcomment⟩ := hhead c rfl
  rw [List.cons_append, List.length_cons, List.length_append] at hfuel
  obtain ⟨fuel, rfl⟩ := Nat.exists_eq_add_of_le' (show 1 ≤ fuel by omega)
  rw [List.cons_append] at htoken ⊢
  simp [lexFrom, hc, hcomment, htoken, hrest fuel (by omega)]

theorem token_punctuation {c : Char} (rest : List Char) (h : Lexeme.isPunctuation c) :
    token (c :: rest) = some (.punctuator c, rest) ∧ isIgnored c = false ∧ c ≠ '#' := by
  have hall : ∀ d ∈ ['!', '$', '(', ')', ':', '=', '@', '[', ']', '\x7b', '\x7d'],
      isPunctuator d && !isIgnored d && d != '#' && d != '"' && d != '.' :=
    List.all_eq_true.mp (by decide)
  obtain ⟨⟨⟨⟨hpunctuator, hignored⟩, hcomment⟩, hquote⟩, hdot⟩ :
      (((isPunctuator c ∧ isIgnored c = false) ∧ c ≠ '#') ∧ c ≠ '"') ∧ c ≠ '.' := by
    simpa using hall c (by simpa [Lexeme.isPunctuation] using h)
  refine ⟨?_, hignored, hcomment⟩
  rw [token, if_pos hpunctuator]
  · exact fun _ hc _ => hquote hc
  · exact fun hc => hquote hc
  · exact fun _ hc _ => hdot hc

/-- Word characters are no quotes, points or punctuation, and they are not ignored. -/
theorem classes_of_isWord {c : Char} (h : isWord c) :
    isPunctuator c = false ∧ isIgnored c = false ∧ c ≠ '#' ∧ c ≠ '"' ∧ c ≠ '.' := by
  have hpunctuators : ∀ d ∈ ['!', '$', '&', '(', ')', ':', '=', '@', '[', ']', '\x7b', '|', '\x7d'],
      !isWord d := List.all_eq_true.mp (by decide)
  have hignored : ∀ d ∈ [' ', '\t', '\n', '\r', ',', '\ufeff'], !isWord d :=
    List.all_eq_true.mp (by decide)
  have hne : ∀ d, !isWord d → c ≠ d := by
    rintro d hd rfl
    simp [h] at hd
  refine ⟨?_, ?_, hne _ (by decide), hne _ (by decide), hne _ (by decide)⟩
  · simp only [isPunctuator, List.contains_eq_mem, decide_eq_false_iff_not]
    exact fun hmem => hne c (hpunctuators c hmem) rfl
  · simp only [isIgnored, List.contains_eq_mem, decide_eq_false_iff_not]
    exact fun hmem => hne c (hignored c hmem) rfl

theorem token_name {n : String} {rest : List Char} (h : IsName n)
    (hends : ∀ c ∈ rest.head?, isWord c = false) :
    token (n.toList ++ rest) = some (.name n, rest) := by
  obtain ⟨htake, hdrop⟩ := Lexeme.takeWhile_word h.isWord hends
  have hword := h.isWord
  obtain ⟨c, cs, hn, hfirst, -⟩ := h
  have hstart : isNameStart c := by
    obtain hletter | rfl := hfirst
    · simp [isNameStart, hletter]
    · rfl
  have hname : n = String.ofList (c :: cs) := by rw [← hn, String.ofList_toList]
  rw [hn] at htake hdrop hword ⊢
  obtain ⟨hpunctuator, -, -, hquote, hdot⟩ := classes_of_isWord (hword c (by simp))
  rw [List.cons_append] at htake hdrop ⊢
  rw [token, if_neg (by simp [hpunctuator]), if_pos hstart, htake, hdrop, hname]
  · exact fun _ hc _ => hquote hc
  · exact fun hc => hquote hc
  · exact fun _ hc _ => hdot hc

theorem token_number {negative : Bool} {w : List Char} {tail : Lexeme.Tail} {rest : List Char}
    (h : IsInt (Lexeme.numberChars negative w tail) ∨ IsFloat (Lexeme.numberChars negative w tail))
    (parts : Lexeme.IsNumber w tail) (hrest : EndsNumber rest) :
    token (Lexeme.numberChars negative w tail ++ rest)
      = some (ofNumber (Lexeme.numberChars negative w tail), rest) := by
  have hnumber : number (Lexeme.numberChars negative w tail ++ rest)
      = some (ofNumber (Lexeme.numberChars negative w tail), rest) :=
    h.elim (number_int · hrest) (number_float · hrest)
  cases negative with
  | true =>
      rw [← hnumber]
      rfl
  | false =>
      obtain ⟨d, hd, hdigit⟩ := parts.digit
      obtain ⟨ds, hw⟩ := List.head?_eq_some_iff.mp hd
      have hchars : Lexeme.numberChars false w tail = d :: (ds ++ tail.chars) := by
        rw [hw]
        rfl
      obtain ⟨hpunctuator, -, -, hquote, hdot⟩ := classes_of_isWord (isWord_of_isDigit hdigit)
      have hstart : isNameStart d = false := by
        have hrange := Lexeme.toNat_of_isDigit hdigit
        cases hletter : d.isAlpha with
        | true =>
            have hletters := Lexeme.toNat_of_isAlpha hletter
            omega
        | false =>
            have hunder : d ≠ '_' := by
              rintro rfl
              exact absurd hdigit (by decide)
            simp [isNameStart, hletter, hunder]
      rw [← hnumber, hchars, List.cons_append, token, if_neg (by simp [hpunctuator]),
        if_neg (by simp [hstart]), if_pos (by simp [hdigit])]
      · exact fun _ hc _ => hquote hc
      · exact fun hc => hquote hc
      · exact fun _ hc _ => hdot hc

end Lexer

namespace Lexeme

theorem length_readTail_le (previous : List Char) (ts : List Lexeme) :
    (readTail previous ts).2.length ≤ ts.length := by
  fun_induction readTail previous ts with
  | case1 previous c w ts h ih =>
      simp only [List.length_cons]
      omega
  | case2 => exact Nat.le_refl _
  | case3 => exact Nat.le_refl _

/-- The tokens that lexemes make: a number is one, and so are three points. -/
def tokens : List Lexeme → List Lexer.Token
  | [] => []
  | .text s :: ts => .string s :: tokens ts
  | .mark '.' :: .mark '.' :: .mark '.' :: ts => .spread :: tokens ts
  | .mark '-' :: .word w :: ts =>
    Lexer.ofNumber ('-' :: (w ++ (readTail w ts).1)) :: tokens (readTail w ts).2
  | .mark c :: ts => .punctuator c :: tokens ts
  | .word w :: ts =>
    if w.head?.any Char.isDigit then
      Lexer.ofNumber (w ++ (readTail w ts).1) :: tokens (readTail w ts).2
    else .name (String.ofList w) :: tokens ts
termination_by ts => ts.length
decreasing_by
  all_goals
    simp only [List.length_cons]
    try have := length_readTail_le w ts
    omega

theorem tokens_punctuation {c : Char} (ts : List Lexeme) (h : isPunctuation c) :
    tokens (.mark c :: ts) = .punctuator c :: tokens ts := by
  have hdot : c ≠ '.' := by
    rintro rfl
    exact absurd h (by decide)
  have hminus : c ≠ '-' := by
    rintro rfl
    exact absurd h (by decide)
  rw [tokens]
  · exact fun _ _ hc => hdot hc
  · exact fun _ _ _ hc => hminus hc

theorem tokens_name {n : String} (ts : List Lexeme) (h : IsName n) :
    tokens (.word n.toList :: ts) = .name n :: tokens ts := by
  have hdigit : (n.toList.head?.any Char.isDigit) = false := by
    cases hc : n.toList.head? with
    | none => rfl
    | some c => exact h.not_isDigit c hc
  rw [tokens, hdigit, if_neg (by simp), String.ofList_toList]

/-- A number is one token when no point and word come next. -/
theorem tokens_number {negative : Bool} {w : List Char} {tail : Tail} {ts : List Lexeme}
    (h : IsNumber w tail) (hts : ∀ v us, ts ≠ .mark '.' :: .word v :: us) :
    tokens (numberLine negative w tail ++ ts)
      = Lexer.ofNumber (numberChars negative w tail) :: tokens ts := by
  have hread := readTail_line h.continued hts
  obtain ⟨d, hd, hdigit⟩ := h.digit
  have hfirst : w.head?.any Char.isDigit := by
    rw [Option.mem_def.mp hd]
    exact hdigit
  cases negative with
  | false =>
      show tokens (.word w :: (tail.line ++ ts)) = _
      rw [tokens, if_pos hfirst, hread]
      rfl
  | true =>
      show tokens (.mark '-' :: .word w :: (tail.line ++ ts)) = _
      rw [tokens, hread]
      rfl

namespace Laid

variable {body : String → List Char} {j : Nat} {cs : List Char} {line : List Lexeme}

/-- Points come in threes, or inside a number. -/
theorem bare_ne (h : Laid body j cs line) (w : List Char) (ts : List Lexeme) :
    bare line ≠ .mark '.' :: .word w :: ts := by
  induction h with
  | nil => simp [bare]
  | gap _ _ ih => exact ih
  | @mark c cs line hc _ ih =>
      obtain hc | rfl := hc
      · intro hbare
        have hcomma : c ≠ ',' := by
          rintro rfl
          exact absurd hc (by decide)
        have hdot : c = '.' := by simpa [bare, hcomma] using congrArg List.head? hbare
        exact absurd (hdot ▸ hc) (by decide)
      · exact ih
  | dots => simp [bare]
  | name => simp [bare]
  | @number negative => cases negative <;> simp [bare, numberLine]
  | text => simp [bare]

/-- A text that is laid out has the tokens that its lexemes make. -/
theorem lexed {escape : Char → List Char} (hescape : Lexer.Faithful escape)
    (h : Laid (fun s => s.toList.flatMap escape) j cs line) {fuel : Nat} (hfuel : cs.length ≤ fuel) :
    Lexer.lexFrom fuel cs = some (tokens (bare line)) := by
  -- Along the way the text is laid out: a separator makes no token, and a lexeme makes one, which ends where
  -- its characters do because the text behind begins with none that could go on with it.
  induction h generalizing fuel with
  | nil =>
      have htokens : tokens (bare []) = [] := by rw [bare, List.filter_nil, tokens]
      rw [htokens]
      cases fuel <;> rfl
  | @gap c cs line hc rest ih =>
      have hignored : Lexer.isIgnored c := by
        simp only [isGapChar, Bool.or_eq_true, beq_iff_eq] at hc
        obtain rfl | rfl := hc <;> rfl
      rw [List.length_cons] at hfuel
      obtain ⟨fuel, rfl⟩ := Nat.exists_eq_add_of_le' (show 1 ≤ fuel by omega)
      rw [Lexer.lexFrom_ignored fuel hignored]
      exact ih (by omega)
  | @mark c cs line hc rest ih =>
      obtain hc | rfl := hc
      · obtain ⟨htoken, hignored, hcomment⟩ := Lexer.token_punctuation cs hc
        have hcomma : c ≠ ',' := by
          rintro rfl
          exact absurd hc (by decide)
        have hbare : bare (.mark c :: line) = .mark c :: bare line := by simp [bare, hcomma]
        rw [hbare, tokens_punctuation _ hc]
        exact Lexer.lexFrom_append (List.cons_ne_nil c []) (by simp [hignored, hcomment]) htoken
          (fun _ => ih) hfuel
      · rw [List.length_cons] at hfuel
        obtain ⟨fuel, rfl⟩ := Nat.exists_eq_add_of_le' (show 1 ≤ fuel by omega)
        rw [Lexer.lexFrom_ignored fuel rfl]
        exact ih (by omega)
  | @dots cs line rest ih =>
      have hbare : bare (.mark '.' :: .mark '.' :: .mark '.' :: line)
          = .mark '.' :: .mark '.' :: .mark '.' :: bare line := by simp [bare]
      rw [hbare, tokens]
      exact Lexer.lexFrom_append (List.cons_ne_nil '.' ['.', '.']) (by simp [Lexer.isIgnored]) rfl
        (fun _ => ih) hfuel
  | @name n cs line hn ends rest ih =>
      have hbare : bare (.word n.toList :: line) = .word n.toList :: bare line := by simp [bare]
      have hhead : ∀ c ∈ n.toList.head?, Lexer.isIgnored c = false ∧ c ≠ '#' := by
        intro c hc
        obtain ⟨-, hignored, hcomment, -⟩ :=
          Lexer.classes_of_isWord (hn.isWord c (List.mem_of_mem_head? hc))
        exact ⟨hignored, hcomment⟩
      rw [hbare, tokens_name _ hn]
      exact Lexer.lexFrom_append (mt String.toList_eq_nil_iff.mp hn.ne_empty) hhead
        (Lexer.token_name hn ends) (fun _ => ih) hfuel
  | @number negative w cs tail line hnumber parts ends _ _ rest ih =>
      have hhead : ∀ c ∈ (numberChars negative w tail).head?, Lexer.isIgnored c = false ∧ c ≠ '#' := by
        intro c hc
        cases negative with
        | true =>
            obtain rfl : '-' = c := Option.some.inj hc
            exact ⟨rfl, by decide⟩
        | false =>
            obtain ⟨d, ws, rfl⟩ := List.exists_cons_of_ne_nil parts.ne_nil
            obtain rfl : d = c := Option.some.inj hc
            obtain ⟨-, hignored, hcomment, -⟩ := Lexer.classes_of_isWord (parts.word d (by simp))
            exact ⟨hignored, hcomment⟩
      have hne : numberChars negative w tail ≠ [] := by simp [numberChars, parts.ne_nil]
      rw [bare_append, bare_number parts, tokens_number parts rest.bare_ne]
      exact Lexer.lexFrom_append hne hhead (Lexer.token_number hnumber parts ends) (fun _ => ih) hfuel
  | @text s cs line ends rest ih =>
      have hbare : bare (.text s :: line) = .text s :: bare line := by simp [bare]
      have hxs : '"' :: (s.toList.flatMap escape ++ '"' :: cs)
          = ('"' :: (s.toList.flatMap escape ++ ['"'])) ++ cs := by simp
      have htoken := hescape.token ends
      rw [hxs] at hfuel htoken ⊢
      rw [hbare, tokens]
      exact Lexer.lexFrom_append (by simp) (by simp [Lexer.isIgnored]) htoken (fun _ => ih) hfuel

end Laid

end Lexeme

end PersistedOps

import PersistedOps.Proofs.Document.Distinct
import PersistedOps.Proofs.Document.Lexing
import PersistedOps.Proofs.Results

/-!
Reducing a document changes nothing but its layout. The reduced text has the tokens of the printed one,
with a space between two words and no other blank outside its strings, unless an operation has a
described variable right behind one whose default value is the empty string: their quotes then make
the beginning of a block string.
-/

namespace PersistedOps

open Signature (isWord)
open Text (isBlank)

namespace Lexeme

/-! ### Lines -/

/-- How a literal of a reduced text is written between its quotes. -/
abbrev reducedBody (s : String) : List Char :=
  s.toList.flatMap (JsonQuoted.escape JsonQuoted.isNoControl)

theorem renderFrom_text (b : Bool) (s : String) (ts : List Lexeme) :
    renderFrom b (.text s :: ts) = '"' :: (reducedBody s ++ '"' :: renderFrom false ts) := by
  simp [renderFrom, JsonQuoted.unicode, JsonQuoted.quote, reducedBody]

/-- Behind a word come no word character, and a point only if the line has one. -/
theorem ends_renderFrom_true {ts : List Lexeme} (h : ∀ t ∈ ts, t.Proper)
    (hdot : ts.head? ≠ some (.mark '.')) : Lexer.EndsNumber (renderFrom true ts) := by
  intro c hc
  refine ⟨head?_renderFrom_true h c hc, ?_⟩
  rintro rfl
  match ts with
  | [] => simp [renderFrom] at hc
  | .word w :: ts => simp [renderFrom] at hc
  | .mark d :: ts => simp_all [renderFrom]
  | .text s :: ts => simp [renderFrom_text] at hc

/-- A line begins with a quote only if it begins with a literal. -/
theorem head?_renderFrom_false {ts : List Lexeme} (h : ∀ t ∈ ts, t.Proper)
    (htext : ∀ s, ts.head? ≠ some (.text s)) : (renderFrom false ts).head? ≠ some '"' := by
  match ts with
  | [] => simp [renderFrom]
  | .word w :: ts =>
      obtain ⟨hne, hw⟩ := h (.word w) (by simp)
      obtain ⟨c, w, rfl⟩ := List.exists_cons_of_ne_nil hne
      simpa [renderFrom] using ne_quote_of_isWord (hw c (by simp))
  | .mark d :: ts => simpa [renderFrom] using (h (.mark d) (by simp)).2.2
  | .text s :: ts => exact absurd rfl (htext s)

theorem renderFrom_tail (tail : Tail) (ts : List Lexeme) :
    renderFrom true (tail.line ++ ts) = tail.chars ++ renderFrom true ts := by
  induction tail with
  | nil => rfl
  | cons e tail ih => simp_all [Tail.line, Tail.chars, renderFrom]

theorem renderFrom_number (b negative : Bool) (w : List Char) (tail : Tail) (ts : List Lexeme) :
    renderFrom b (numberLine negative w tail ++ ts) = (if b && !negative then [' '] else [])
      ++ (numberChars negative w tail ++ renderFrom true ts) := by
  cases b <;> cases negative <;>
    simp [numberLine, numberChars, renderFrom, renderFrom_tail]

/-- A text in a line is laid out as the line, when no literal comes right behind an empty one. -/
theorem Laid.rendered {body : String → List Char} {j : Nat} {cs : List Char} {line : List Lexeme}
    (h : Laid body j cs line) (hapart : Apart line) (b : Bool) :
    Laid reducedBody j (renderFrom b line) line := by
  have hspace {b : Bool} {cs : List Char} {line : List Lexeme} (h : Laid reducedBody j cs line) :
      Laid reducedBody j ((if b then [' '] else []) ++ cs) line := by
    cases b with
    | true => exact .gap rfl h
    | false => exact h
  induction h generalizing b with
  | nil => exact .nil
  | gap _ _ ih => exact ih hapart b
  | mark hc _ ih => exact .mark hc (ih (List.isChain_cons.mp hapart).2 false)
  | dots _ ih =>
      have hrest := (List.isChain_cons.mp (List.isChain_cons.mp (List.isChain_cons.mp hapart).2).2).2
      exact .dots (ih hrest false)
  | @name n cs line hn _ rest ih =>
      rw [renderFrom, List.append_assoc]
      exact hspace (.name hn (head?_renderFrom_true rest.proper) (ih (List.isChain_cons.mp hapart).2 true))
  | number hnumber parts _ undotted last rest ih =>
      rw [renderFrom_number]
      exact hspace (.number hnumber parts (ends_renderFrom_true rest.proper undotted) undotted last
        (ih (List.isChain_append.mp hapart).2.1 true))
  | @text s cs line _ rest ih =>
      obtain ⟨hnext, hrest⟩ := List.isChain_cons.mp hapart
      rw [renderFrom_text]
      refine .text (fun hs => head?_renderFrom_false rest.proper fun s' hs' => ?_) (ih hrest false)
      exact hnext _ hs' ⟨hs ▸ rfl, s', rfl⟩

/-! ### Blanks -/

/-- A text without what stands between the quotes of its strings. -/
def outside : (inString : Bool) → List Char → List Char
  | _, [] => []
  | true, '\\' :: _ :: cs => outside true cs
  | inString, c :: cs =>
    if c = '"' then c :: outside (!inString) cs
    else if inString then outside true cs
    else c :: outside false cs

/-- Each blank is a space between two word characters, where `afterWord` says it of what is in front. -/
def TightFrom (afterWord : Bool) : List Char → Prop
  | [] => True
  | c :: cs => (isBlank c → c = ' ' ∧ afterWord ∧ cs.head?.any isWord) ∧ TightFrom (isWord c) cs

/-- Outside strings each blank is a space between two word characters. -/
def Tight (cs : List Char) : Prop := TightFrom false (outside false cs)

theorem outside_false_cons {c : Char} (cs : List Char) (hquote : c ≠ '"') :
    outside false (c :: cs) = c :: outside false cs := by
  rw [outside, if_neg hquote]
  · rfl
  · simp

theorem outside_true_cons {c : Char} (cs : List Char) (hquote : c ≠ '"') (hbackslash : c ≠ '\\') :
    outside true (c :: cs) = outside true cs := by
  rw [outside, if_neg hquote, if_pos rfl]
  exact fun _ _ _ hc => absurd hc hbackslash

theorem outside_word {w : List Char} (hw : ∀ c ∈ w, isWord c) (inString : Bool) (cs : List Char) :
    outside inString (w ++ cs) = if inString then outside true cs else w ++ outside false cs := by
  induction w with
  | nil => cases inString <;> rfl
  | cons c w ih =>
      obtain ⟨hc, hw⟩ := List.forall_mem_cons.mp hw
      have hbackslash : c ≠ '\\' := by
        rintro rfl
        exact absurd hc (by decide)
      cases inString with
      | true => simpa [outside_true_cons, ne_quote_of_isWord hc, hbackslash] using ih hw
      | false => simpa [outside_false_cons, ne_quote_of_isWord hc] using ih hw

theorem outside_escape (c : Char) (cs : List Char) :
    outside true (JsonQuoted.escape JsonQuoted.isNoControl c ++ cs) = outside true cs := by
  rw [JsonQuoted.escape]
  cases hshort : JsonQuoted.short? c with
  | some s => rfl
  | none =>
      by_cases hplain : JsonQuoted.isNoControl c
      · have hne (d : Char) (hd : (JsonQuoted.short? d).isSome) : c ≠ d := by
          rintro rfl
          simp [hshort] at hd
        simpa [hplain] using outside_true_cons cs (hne '"' rfl) (hne '\\' rfl)
      · have hsmall : c.toNat < 0x10000 := by
          simp only [JsonQuoted.isNoControl, decide_eq_true_eq] at hplain
          omega
        have hword : ∀ d ∈ Hex.ofNat 4 c.toNat, isWord d := by
          intro d hd
          obtain ⟨m, rfl⟩ := Hex.exists_digit_of_mem hd
          exact (digit_lowerHex m.isLt).2
        simpa [hplain, JsonQuoted.units, hsmall, JsonQuoted.unit, outside]
          using outside_word hword true cs

/-- Nothing is left of a string but its quotes. -/
theorem outside_text (s : String) (cs : List Char) :
    outside false ('"' :: (reducedBody s ++ '"' :: cs)) = '"' :: '"' :: outside false cs := by
  have hbody (ds : List Char) : outside true (ds.flatMap (JsonQuoted.escape JsonQuoted.isNoControl)
      ++ '"' :: cs) = '"' :: outside false cs := by
    induction ds with
    | nil => rfl
    | cons d ds ih => rw [List.flatMap_cons, List.append_assoc, outside_escape, ih]
  simpa [outside] using hbody s.toList

theorem TightFrom.word {w cs : List Char} (h : TightFrom true cs) (hne : w ≠ [])
    (hw : ∀ c ∈ w, isWord c) (b : Bool) : TightFrom b (w ++ cs) := by
  induction w generalizing b with
  | nil => exact absurd rfl hne
  | cons c w ih =>
      obtain ⟨hc, hw⟩ := List.forall_mem_cons.mp hw
      refine ⟨fun hblank => absurd hblank (by simp [not_isBlank_of_isWord hc]), ?_⟩
      rw [hc]
      cases w with
      | nil => exact h
      | cons d w => exact ih (by simp) hw true

theorem TightFrom.mark {c : Char} {cs : List Char} (h : TightFrom (isWord c) cs)
    (hblank : isBlank c = false) (b : Bool) : TightFrom b (c :: cs) :=
  ⟨fun hc => absurd hc (by simp [hblank]), h⟩

/-- The blanks of a line stand between its words and in its literals. -/
theorem tightFrom_render {line : List Lexeme} (h : ∀ t ∈ line, t.Proper) (b : Bool) :
    TightFrom b (outside false (renderFrom b line)) := by
  induction line generalizing b with
  | nil => trivial
  | cons t line ih =>
      obtain ⟨ht, hrest⟩ := List.forall_mem_cons.mp h
      cases t with
      | word w =>
          have hword (b : Bool) : TightFrom b (w ++ outside false (renderFrom true line)) :=
            (ih hrest true).word ht.1 ht.2 b
          obtain ⟨c, cs, hw⟩ := List.exists_cons_of_ne_nil ht.1
          have hc : isWord c := ht.2 c (by simp [hw])
          have hout := outside_word ht.2 false (renderFrom true line)
          cases b with
          | false => simpa [renderFrom, hout] using hword false
          | true =>
              rw [renderFrom, if_pos rfl, List.append_assoc, List.singleton_append,
                outside_false_cons _ (by decide), hout, if_neg (by simp)]
              exact ⟨fun _ => ⟨rfl, rfl, by simp [hw, hc]⟩, hword _⟩
      | mark c =>
          rw [renderFrom, outside_false_cons _ ht.2.2]
          exact TightFrom.mark (by rw [ht.1]; exact ih hrest false) ht.2.1 b
      | text s =>
          rw [renderFrom_text, outside_text]
          have hquote : TightFrom (isWord '"') (outside false (renderFrom false line)) := ih hrest false
          exact (hquote.mark rfl (isWord '"')).mark rfl b

/-! ### Strings -/

theorem texts_readTail (previous : List Char) (ts : List Lexeme) :
    texts (readTail previous ts).2 = texts ts := by
  fun_induction readTail previous ts with
  | case1 previous c w ts h ih => simpa using ih
  | case2 => rfl
  | case3 => rfl

/-- The strings among the tokens are the literals. -/
theorem strings_tokens (ts : List Lexeme) : Lexer.Token.strings (tokens ts) = texts ts := by
  have hnumber (cs : List Char) (rest : List Lexer.Token) :
      Lexer.Token.strings (Lexer.ofNumber cs :: rest) = Lexer.Token.strings rest := by
    rw [Lexer.ofNumber]
    split <;> rfl
  fun_induction tokens ts with
  | case1 => rfl
  | case2 s ts ih => simpa [Lexer.Token.strings] using ih
  | case3 ts ih => simpa [Lexer.Token.strings] using ih
  | case4 w ts ih => rw [hnumber, ih, texts_readTail]; rfl
  | case5 c ts _ _ ih => simpa [Lexer.Token.strings] using ih
  | case6 w ts _ ih => rw [hnumber, ih, texts_readTail]; rfl
  | case7 w ts _ ih => simpa [Lexer.Token.strings] using ih

end Lexeme

/-! ### Documents -/

namespace Tree

mutual

/-- A traversal that changes no node gives the tree itself. -/
theorem eq_of_revise_ok : ∀ {t u : Tree}, t.revise .ok = .ok u → u = t
  | .node k attributes, u, h => by
      rw [revise, bind_eq_ok_iff] at h
      obtain ⟨attributes', hrevised, hu⟩ := h
      rw [← Except.ok.inj hu, eq_of_reviseAttributes_ok hrevised]
  | .list items, u, h => by
      rw [revise, bind_eq_ok_iff] at h
      obtain ⟨items', hrevised, hu⟩ := h
      rw [← Except.ok.inj hu, eq_of_reviseItems_ok hrevised]
  | .dict _, u, h | .scalar _, u, h | .operation _, u, h => nomatch h

theorem eq_of_reviseAttributes_ok {k : Kind} : ∀ {as bs : List (Attribute × Tree)},
    reviseAttributes .ok k as = .ok bs → bs = as
  | [], bs, h => (Except.ok.inj h).symm
  | (a, t) :: as, bs, h => by
      rw [reviseAttributes] at h
      split at h
      · simp only [bind_eq_ok_iff] at h
        obtain ⟨t', ht, as', has, hbs⟩ := h
        rw [← Except.ok.inj hbs, eq_of_revise_ok ht, eq_of_reviseAttributes_ok has]
      · rw [bind_eq_ok_iff] at h
        obtain ⟨as', has, hbs⟩ := h
        rw [← Except.ok.inj hbs, eq_of_reviseAttributes_ok has]

theorem eq_of_reviseItems_ok : ∀ {ts us : List Tree}, reviseItems .ok ts = .ok us → us = ts
  | [], us, h => (Except.ok.inj h).symm
  | t :: ts, us, h => by
      rw [reviseItems] at h
      split at h
      · rw [bind_eq_ok_iff] at h
        obtain ⟨ts', hts, hus⟩ := h
        rw [← Except.ok.inj hus, eq_of_reviseItems_ok hts]
      · simp only [bind_eq_ok_iff] at h
        obtain ⟨t', ht, ts', hts, hus⟩ := h
        rw [← Except.ok.inj hus, eq_of_revise_ok ht, eq_of_reviseItems_ok hts]

end
/-- What a tree shows with its literals kept is what it prints. -/
theorem Shows.print {t : Tree} {text : String} (h : t.Shows .plain text) :
    Printer.print t = .ok text := by
  obtain ⟨u, hrevise, hpart⟩ := h
  obtain rfl := eq_of_revise_ok hrevise
  rw [Printer.print, hpart]
  rfl

end Tree

open Lexeme (Tight tokens)

/-- A document prints and is reduced to texts with the same tokens, its strings among them with their
values, and the reduced text has no blank outside strings but one space between words. No literal of
an operation's variables must come right behind an empty one. -/
theorem WellFormed.lex_printReduced {t : Tree} (h : WellFormed t)
    (hglued : ∀ ds, t.definitions = .ok ds → ∀ d ∈ ds, ¬ d.Glued) :
    ∃ printed reduced tokens, Printer.print t = .ok printed ∧ Signature.printReduced t = .ok reduced ∧
      Lexer.lex printed = some tokens ∧ Lexer.lex reduced = some tokens ∧
      Lexer.Token.strings tokens = t.strings ∧ Tight reduced.toList := by
  obtain @⟨definitions, hitems⟩ := h
  obtain ⟨tss, htold⟩ := exists_told fun d hd => (hitems d hd).told
  have hunglued : ∀ d ∈ definitions.getD [], ¬ d.Glued := by
    cases definitions with
    | none => simp
    | some ds => exact hglued ds rfl
  have hprints : List.Forall₂ (Tree.Prints True 0 0) (definitions.getD []) tss :=
    ((List.forall₂_and_left _ _).mpr ⟨hunglued, htold⟩).imp fun _ _ ht => ht.2.prints.weaken fun _ => ht.1
  obtain ⟨printed, hplain, line, hlaid, -, hbare⟩ := Tree.shows_document .plain hprints
  obtain ⟨text, hdigits, hspells⟩ := Tree.shows_document .digits hprints
  obtain ⟨line', hreduced, hlaid', hapart, hbare'⟩ := hdigits.printReduced hspells
  have hrendered := hlaid'.rendered (hapart trivial) false
  have hlex := Lexeme.Laid.lexed Lexer.faithful_printed hlaid (Nat.le_refl _)
  have hlex' := Lexeme.Laid.lexed Lexer.faithful_reduced hrendered (Nat.le_refl _)
  rw [hbare] at hlex
  rw [hbare'] at hlex'
  refine ⟨printed, _, tokens tss.flatten, hplain.print, hreduced, hlex, ?_, ?_, ?_⟩
  · rw [Lexer.lex, String.toList_ofList]
    exact hlex'
  · rw [Lexeme.strings_tokens, strings_told htold, Tree.strings_ofOptions (by decide)]
    simp
  · rw [String.toList_ofList]
    exact Lexeme.tightFrom_render hlaid'.proper false

/-- A string. -/
def stringOf (s : String) : Tree :=
  .ofOptions .stringValue [(.value, some (.text s)), (.block, (none : Option Bool).map fun b => .scalar (.bool b))]

/-- A variable with a default value. -/
def defaulting (n type s : String) : Tree := .ofOptions .variableDefinition
  [(.description, none), (.var, some (.var n)), (.type, some (.namedType type)),
    (.defaultValue, some (stringOf s)), (.directives, (none : Option (List Tree)).map .list)]

/-- A variable with a description. -/
def explained (s n type : String) : Tree := .ofOptions .variableDefinition
  [(.description, some (stringOf s)), (.var, some (.var n)), (.type, some (.namedType type)),
    (.defaultValue, none), (.directives, (none : Option (List Tree)).map .list)]

/-- A query with a described variable behind one with a default value. -/
def explaining (s : String) : Tree := .ofOptions .operationDefinition
  [(.description, none), (.operation, some (.operation .query)), (.name, (some "Q").map .name),
    (.variableDefinitions, (some [defaulting "x" "String" s, explained "d e" "y" "Int"]).map .list),
    (.directives, (none : Option (List Tree)).map .list),
    (.selectionSet, some (.node .selectionSet [(.selections, .list [.ofOptions .field
      [(.aliasName, (none : Option String).map .name), (.name, some (.name "a")),
        (.arguments, (none : Option (List Tree)).map .list),
        (.directives, (none : Option (List Tree)).map .list), (.selectionSet, none)]])]))]

theorem wellFormed_explaining (s : String) :
    WellFormed (.ofOptions .document [(.definitions, (some [explaining s]).map .list)]) := by
  have hliteral (s : String) : Grammatical .literal (stringOf s) := .literal s none
  have hdefaulting : Grammatical .variableDefinition (defaulting "x" "String" s) :=
    .variableDefinition (by simp) (.of_toList rfl rfl rfl) (.nullable (.named (.of_toList rfl rfl rfl)))
      (by simpa using .string (hliteral s)) (by simp)
  have hexplained : Grammatical .variableDefinition (explained "d e" "y" "Int") :=
    .variableDefinition (by simpa using hliteral _) (.of_toList rfl rfl rfl)
      (.nullable (.named (.of_toList rfl rfl rfl))) (by simp) (by simp)
  have hfield : Grammatical .selection (.ofOptions .field
      [(.aliasName, (none : Option String).map .name), (.name, some (.name "a")),
        (.arguments, (none : Option (List Tree)).map .list),
        (.directives, (none : Option (List Tree)).map .list), (.selectionSet, none)]) :=
    .field (by simp) (.of_toList rfl rfl rfl) (by simp) (by simp) (by simp)
  refine .document (List.forall_mem_singleton.mpr ?_)
  exact .operation .query (by simp) (by simpa using .of_toList rfl rfl rfl)
    (List.forall_mem_cons.mpr ⟨hdefaulting, List.forall_mem_singleton.mpr hexplained⟩) (by simp)
    (.selectionSet (by simp) (List.forall_mem_singleton.mpr hfield))

/-- With a default value of some characters the strings stay apart. -/
theorem lex_printReduced_explaining :
    let t := Tree.ofOptions .document [(.definitions, (some [explaining "c"]).map .list)]
    WellFormed t ∧ (∀ ds, t.definitions = .ok ds → ∀ d ∈ ds, ¬ d.Glued) ∧
      Signature.printReduced t = .ok "query Q($x:String=\"c\"\"d e\"$y:Int)\x7ba\x7d" ∧
      ∃ tokens, Lexer.lex "query Q($x:String=\"c\"\"d e\"$y:Int)\x7ba\x7d" = some tokens ∧
        Lexer.Token.strings tokens = ["c", "d e"] := by
  intro t
  have hglued : ∀ ds, t.definitions = .ok ds → ∀ d ∈ ds, ¬ d.Glued := by
    rintro ds hds d hd ⟨-, vs, hvs, xs, v, v', ys, rfl, ⟨⟨u, hu, -, hempty⟩, -⟩, -⟩
    obtain rfl := Except.ok.inj hds
    obtain rfl := List.mem_singleton.mp hd
    have hvars : [defaulting "x" "String" "c", explained "d e" "y" "Int"] = xs ++ v :: v' :: ys :=
      Tree.list.inj (Option.some.inj hvs)
    have hv : v ∈ [defaulting "x" "String" "c", explained "d e" "y" "Int"] := by simp [hvars]
    rcases List.mem_cons.mp hv with rfl | hv
    · obtain rfl : stringOf "c" = u := Option.some.inj hu
      have htext : Tree.text "c" = .text "" := Option.some.inj hempty
      simp [Tree.text] at htext
    · obtain rfl := List.mem_singleton.mp hv
      have hnone : (explained "d e" "y" "Int").get? .defaultValue = none := rfl
      rw [hnone] at hu
      cases hu
  have hreduced : Signature.printReduced t = .ok "query Q($x:String=\"c\"\"d e\"$y:Int)\x7ba\x7d" := by
    decide +kernel
  obtain ⟨printed, reduced, tokens, -, hprinted, -, hlex, hstrings, -⟩ :=
    (wellFormed_explaining "c").lex_printReduced hglued
  obtain rfl : _ = reduced := Except.ok.inj (hreduced.symm.trans hprinted)
  exact ⟨wellFormed_explaining "c", hglued, hreduced, tokens, hlex, hstrings⟩

/-- An empty default value and a description make the beginning of a block string, which has no end. -/
theorem lex_printReduced_glued :
    let t := Tree.ofOptions .document [(.definitions, (some [explaining ""]).map .list)]
    WellFormed t ∧ ∃ printed reduced tokens, Printer.print t = .ok printed ∧
      Signature.printReduced t = .ok reduced ∧
      Lexer.lex printed = some tokens ∧ Lexer.lex reduced = none :=
  ⟨wellFormed_explaining "", _, "query Q($x:String=\"\"\"d e\"$y:Int)\x7ba\x7d", _, rfl,
    by decide +kernel, rfl, by decide +kernel⟩

end PersistedOps

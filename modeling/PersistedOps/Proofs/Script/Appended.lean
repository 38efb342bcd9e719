import PersistedOps.Proofs.Entries
import PersistedOps.Proofs.Script.Ends
import PersistedOps.Proofs.Script.Lexer
import PersistedOps.Proofs.Script.Quoted
import PersistedOps.Proofs.Script.Shown
import PersistedOps.Proofs.Script.Store

/-!
The line that attaches an identifier: how its text is cut into tokens, what statement they read as, and
what the statement does. It stores the identifier where it should exactly when the names that it is
written from hold no character above U+FFFF.
-/

namespace PersistedOps.Script

open JsonQuoted (isPrintableAscii)

/-! ### From text to tokens -/

namespace Lexer

/-- `Takes n c fresh tokens next fresh'` says that `n` steps of reading, begun at `c`, take `tokens` and
come to `next`. -/
def Takes (n : Nat) (c : Cursor) (fresh : Bool) (tokens : List Token) (next : Cursor) (fresh' : Bool) :
    Prop :=
  ∀ fuel, run (fuel + n) c fresh
    = { run fuel next fresh' with tokens := tokens ++ (run fuel next fresh').tokens }

variable {n m l : Nat} {c mid next : Cursor} {fresh fresh' fresh'' : Bool} {tokens more : List Token}
  {indents : List (Nat × Nat)} {brackets : List (Char × Nat)} {rest : List Char}

theorem Takes.within (h : stepWithin c = .more tokens next fresh) : Takes 1 c false tokens next fresh := by
  intro fuel
  rw [run, if_neg (by decide), h]

theorem Takes.margin (h : stepFresh c = .more tokens next fresh) : Takes 1 c true tokens next fresh := by
  intro fuel
  rw [run, if_pos rfl, h]

theorem Takes.trans (h : Takes n c fresh tokens mid fresh') (h' : Takes m mid fresh' more next fresh'') :
    Takes (m + n) c fresh (tokens ++ more) next fresh'' := by
  intro fuel
  rw [← Nat.add_assoc, h, h']
  simp

/-- The name that a unit exports under is one token. -/
theorem stepWithin_exports : stepWithin ⟨exportsName.toList ++ '[' :: rest, l, indents, brackets⟩
    = .more [⟨.name exportsName, l, brackets.length⟩] ⟨'[' :: rest, l, indents, brackets⟩ false := by
  have hname : stepWithin ⟨exportsName.toList ++ '[' :: rest, l, indents, brackets⟩
      = stepName ⟨exportsName.toList ++ '[' :: rest, l, indents, brackets⟩ := rfl
  have htake : (exportsName.toList ++ '[' :: rest).takeWhile Numeral.isNameChar = exportsName.toList := rfl
  have hdrop : (exportsName.toList ++ '[' :: rest).dropWhile Numeral.isNameChar = '[' :: rest := rfl
  have hkeyword : exportsName ∉ keywords := by decide
  have hidentifier : Text.isIdentifier exportsName.toList = true := by decide +kernel
  have hnormal : Text.normalizeIdentifier exportsName = exportsName := by decide +kernel
  rw [hname, stepName]
  simp only [htake, hdrop, String.ofList_toList, if_neg hkeyword, if_pos hidentifier, hnormal]
  rfl

/-- A quoted text is one token. -/
theorem stepWithin_quoted (s : String) {d : Char} (hd : d ≠ '"') :
    stepWithin ⟨'"' :: (quotedBody s ++ '"' :: d :: rest), l, indents, brackets⟩
      = .more [⟨.text {} (quotedBody s), l, brackets.length⟩] ⟨d :: rest, l, indents, brackets⟩ false := by
  have htext : stepWithin ⟨'"' :: (quotedBody s ++ '"' :: d :: rest), l, indents, brackets⟩
      = stepText ⟨'"' :: (quotedBody s ++ '"' :: d :: rest), l, indents, brackets⟩ {}
        ('"' :: (quotedBody s ++ '"' :: d :: rest)) := rfl
  rw [htext, stepText, scanQuoted_quotedBody s hd]
  simp only [countLines_quotedBody, Nat.add_zero]
  rfl

theorem toList_subscript (key : String) :
    (subscript key).toList = '[' :: '"' :: (quotedBody key ++ ['"', ']']) := by
  simp [subscript, JsonQuoted.ascii, JsonQuoted.quote, quotedBody]

/-- A quoted key in brackets is three tokens. -/
theorem takes_subscript (key : String) :
    Takes 3 ⟨(subscript key).toList ++ rest, l, indents, []⟩ false (keyTokens l (quotedBody key))
      ⟨rest, l, indents, []⟩ false := by
  have hopen : Takes 1 ⟨(subscript key).toList ++ rest, l, indents, []⟩ false [⟨.sign "[", l, 1⟩]
      ⟨'"' :: (quotedBody key ++ '"' :: ']' :: rest), l, indents, [('[', l)]⟩ false := by
    rw [toList_subscript]
    simp only [List.cons_append, List.append_assoc, List.nil_append]
    exact .within rfl
  have htext : Takes 1 ⟨'"' :: (quotedBody key ++ '"' :: ']' :: rest), l, indents, [('[', l)]⟩ false
      [⟨.text {} (quotedBody key), l, 1⟩] ⟨']' :: rest, l, indents, [('[', l)]⟩ false :=
    .within (stepWithin_quoted key (by decide))
  have hclose : Takes 1 ⟨']' :: rest, l, indents, [('[', l)]⟩ false [⟨.sign "]", l, 0⟩]
      ⟨rest, l, indents, []⟩ false := .within rfl
  exact (hopen.trans htext).trans hclose

theorem toList_documentIdStatement (operation identifier : String) :
    (documentIdStatement operation identifier).toList = exportsName.toList ++ (subscript operation).toList
      ++ (subscript documentIdKey).toList ++ ' ' :: '=' :: ' ' :: '"' :: (quotedBody identifier ++ ['"']) := by
  simp [documentIdStatement, JsonQuoted.ascii, JsonQuoted.quote, quotedBody]

/-- The line at the margin of a source is read to its end, whatever comes behind it. -/
theorem takes_documentIdStatement (operation identifier : String) :
    Takes 11 ⟨(documentIdStatement operation identifier).toList ++ '\n' :: rest, l, [], []⟩ true
      (attachmentTokens l (quotedBody operation) (quotedBody documentIdKey) (quotedBody identifier))
      ⟨rest, l + 1, [], []⟩ true := by
  have htext : (documentIdStatement operation identifier).toList ++ '\n' :: rest
      = exportsName.toList ++ ((subscript operation).toList ++ ((subscript documentIdKey).toList
        ++ ' ' :: '=' :: ' ' :: '"' :: (quotedBody identifier ++ '"' :: '\n' :: rest))) := by
    simp [toList_documentIdStatement]
  rw [htext]
  have hmargin : ∀ {cs : List Char}, Takes 1 ⟨exportsName.toList ++ cs, l, [], []⟩ true []
      ⟨exportsName.toList ++ cs, l, [], []⟩ false := .margin rfl
  have hname : ∀ {cs : List Char},
      Takes 1 ⟨exportsName.toList ++ ((subscript operation).toList ++ cs), l, [], []⟩ false
        [⟨.name exportsName, l, 0⟩] ⟨(subscript operation).toList ++ cs, l, [], []⟩ false := by
    intro cs
    rw [toList_subscript]
    exact .within stepWithin_exports
  have hsign : ∀ {cs : List Char}, Takes 1 ⟨' ' :: '=' :: ' ' :: cs, l, [], []⟩ false
      [⟨.sign "=", l, 0⟩] ⟨' ' :: cs, l, [], []⟩ false := .within rfl
  have hblank : ∀ {cs : List Char}, stepWithin ⟨' ' :: cs, l, [], []⟩ = stepWithin ⟨cs, l, [], []⟩ := rfl
  have hvalue : Takes 1 ⟨' ' :: '"' :: (quotedBody identifier ++ '"' :: '\n' :: rest), l, [], []⟩ false
      [⟨.text {} (quotedBody identifier), l, 0⟩] ⟨'\n' :: rest, l, [], []⟩ false :=
    .within (hblank.trans (stepWithin_quoted identifier (by decide)))
  have hend : Takes 1 ⟨'\n' :: rest, l, [], []⟩ false [⟨.newline, l, 0⟩] ⟨rest, l + 1, [], []⟩ true :=
    .within rfl
  have hassigned := (hsign.trans hvalue).trans hend
  exact (((hmargin.trans hname).trans (takes_subscript operation)).trans
    (takes_subscript documentIdKey)).trans hassigned

/-- A line alone gets its end. -/
theorem normalizeLines_line {cs : List Char} (h : ∀ c ∈ cs, c ≠ '\n' ∧ c ≠ '\r') (hcs : cs ≠ []) :
    normalizeLines cs = cs ++ ['\n'] := by
  induction cs with
  | nil => exact absurd rfl hcs
  | cons c cs ih =>
      obtain ⟨⟨hbreak, hreturn⟩, htail⟩ := List.forall_mem_cons.mp h
      cases cs with
      | nil =>
          rw [normalizeLines]
          · rfl
          · exact hreturn
          · exact hbreak
      | cons d cs =>
          rw [normalizeLines, ih htail (by simp)]
          · rfl
          · exact fun heq _ => hreturn heq
          · exact hreturn

/-- What stands in an attaching line can be seen, and it is one line. -/
theorem isPrintableAscii_of_mem_subscript {key : String} {c : Char} (h : c ∈ (subscript key).toList) :
    isPrintableAscii c := by
  rw [toList_subscript] at h
  simp only [List.mem_cons, List.mem_append, List.not_mem_nil, or_false] at h
  obtain rfl | rfl | hbody | rfl | rfl := h
  · rfl
  · rfl
  · exact isPrintableAscii_of_mem_quotedBody hbody
  · rfl
  · rfl

theorem isPrintableAscii_of_mem_documentIdStatement {operation identifier : String} {c : Char}
    (h : c ∈ (documentIdStatement operation identifier).toList) : isPrintableAscii c := by
  have hname : ∀ c ∈ exportsName.toList, isPrintableAscii c := List.all_eq_true.mp rfl
  rw [toList_documentIdStatement] at h
  simp only [List.mem_cons, List.mem_append, List.not_mem_nil, or_false] at h
  obtain ((hexports | hoperation) | hkey) | rfl | rfl | rfl | rfl | hbody | rfl := h
  · exact hname c hexports
  · exact isPrintableAscii_of_mem_subscript hoperation
  · exact isPrintableAscii_of_mem_subscript hkey
  · rfl
  · rfl
  · rfl
  · rfl
  · exact isPrintableAscii_of_mem_quotedBody hbody
  · rfl

/-- The tokens of the line alone. -/
theorem lex_documentIdStatement (operation identifier : String) :
    lex (documentIdStatement operation identifier)
      = ⟨attachmentTokens 1 (quotedBody operation) (quotedBody documentIdKey) (quotedBody identifier)
          ++ [⟨.finish, 1, 0⟩], .complete, none⟩ := by
  have hbreaks : ∀ c ∈ (documentIdStatement operation identifier).toList, c ≠ '\n' ∧ c ≠ '\r' := by
    intro c hc
    have hprintable := isPrintableAscii_of_mem_documentIdStatement hc
    constructor <;> rintro rfl <;> exact absurd hprintable (by decide)
  have hlength : 7 ≤ (documentIdStatement operation identifier).toList.length := by
    rw [toList_documentIdStatement]
    simp [exportsName]
  have hline := normalizeLines_line hbreaks (List.ne_nil_of_length_pos (by omega))
  have hfuel : 12 ≤ 2 * ((documentIdStatement operation identifier).toList ++ ['\n']).length + 2 := by
    rw [List.length_append, List.length_singleton]
    omega
  obtain ⟨fuel, hfuel⟩ := Nat.exists_eq_add_of_le' hfuel
  have hend : run (fuel + 1) ⟨[], 2, [], []⟩ true = ⟨[⟨.finish, 1, 0⟩], .complete, none⟩ := rfl
  have htakes : Takes 11 ⟨(documentIdStatement operation identifier).toList ++ ['\n'], 1, [], []⟩ true
      (attachmentTokens 1 (quotedBody operation) (quotedBody documentIdKey) (quotedBody identifier))
      ⟨[], 2, [], []⟩ true := takes_documentIdStatement operation identifier
  have hrun := htakes (fuel + 1)
  rw [hend] at hrun
  rw [lex, hline]
  simp only [List.isEmpty_iff, List.append_eq_nil_iff, List.cons_ne_nil, and_false, if_false]
  rw [hfuel, hrun]

end Lexer

/-! ### From tokens to a statement -/

/-- The line alone is a unit of one statement. -/
theorem parse_documentIdStatement (operation identifier : String) :
    parse (documentIdStatement operation identifier)
      = .ok [attachment 1 (spelled operation) (.text documentIdKey) (spelled identifier)] := by
  have hkey : Spells 1 (quotedBody documentIdKey) (.text documentIdKey) := by
    have hspelled : spelled documentIdKey = .text documentIdKey := by decide
    exact hspelled ▸ spells_quotedBody 1 documentIdKey
  obtain ⟨place, reach, hread⟩ := readTokens_attachment (t := ⟨.finish, 1, 0⟩)
    (spells_quotedBody 1 operation) hkey (spells_quotedBody 1 identifier) rfl
  rw [parse, Lexer.lex_documentIdStatement]
  simp only [hread]

/-! ### What the statement does -/

namespace Evaluation

variable {s : Sandbox} {l a b : Nat} {entries inner : Entries Value} {o k i : Scalar}

theorem run_text : StateT.run (expression (.text l o)) s = .ok (.scalar o, s) := by
  rw [Expr.text, expression]
  rfl

theorem run_name {n : String} {v : Value} (h : s.lookup? n = some v) :
    StateT.run (expression (.name l n)) s = .ok (v, s) := by
  rw [expression]
  simp only [StateT.run_bind, StateT.run_get, pure_bind, h]
  rfl

/-- Both parts of a subscript are found first, its container before its key. -/
theorem run_parts {α : Type} {container : Expr} {v : Value} {f : Value → Value → Evaluation α}
    (h : StateT.run (expression container) s = .ok (v, s)) :
    StateT.run (do let c ← expression container; let k ← expression (.text l o); f c k) s
      = StateT.run (f v (.scalar o)) s := by
  rw [StateT.run_bind, h]
  show StateT.run (expression (.text l o) >>= f v) s = _
  rw [StateT.run_bind, run_text]
  rfl

theorem run_subscript {container : Value} : StateT.run (subscript l container (.scalar o)) s
    = match lookup (s.heap.layer container) (.scalar o) with
      | .ok v => .ok (v, s)
      | .error reason => StateT.run (failShowing l o.shown? (.invalidSubscript · reason)) s := by
  have hrun : StateT.run (subscript l container (.scalar o)) s
      = StateT.run (match lookup (s.heap.layer container) (.scalar o) with
        | .ok v => pure v
        | .error reason => get >>= fun t =>
            failShowing l (t.heap.shown? (.scalar o)) (.invalidSubscript · reason)) s := rfl
  rw [hrun]
  cases lookup (s.heap.layer container) (.scalar o) <;> rfl

theorem run_layerOf (v : Value) : StateT.run (layerOf v) s = .ok (s.heap.layer v, s) := rfl

theorem run_assignInto (h : s.heap.get? b = some (.dict inner)) {v : Value} :
    StateT.run (assignInto l (.cell b) (.scalar k) v) s
      = .ok ((), { s with heap := s.heap.set b (.dict (inner.put k v)) }) := by
  have hlayer : s.heap.layer (.cell b) = .dict inner := Heap.layer_cell h
  simp only [assignInto, StateT.run_bind, run_layerOf, hlayer]
  rfl

/-- What the exported dictionary holds under a key. -/
theorem run_place (hexports : s.lookup? exportsName = some (.cell a))
    (ha : s.heap.get? a = some (.dict entries)) :
    StateT.run (expression (.subscript l (.name l exportsName) (.text l o))) s
      = (entries.get? o).elim (StateT.run (failShowing l o.shown? (.invalidSubscript · .missingKey)) s)
        fun v => .ok (v, s) := by
  have hlayer : s.heap.layer (.cell a) = .dict entries := Heap.layer_cell ha
  rw [expression, run_parts (run_name hexports), run_subscript, hlayer, lookup]
  cases entries.get? o <;> rfl

/-- The statement stores into the dictionary that is exported under the name it reads. -/
theorem run_attachment (hexports : s.lookup? exportsName = some (.cell a))
    (ha : s.heap.get? a = some (.dict entries)) (hentry : entries.get? o = some (.cell b))
    (hb : s.heap.get? b = some (.dict inner)) :
    StateT.run (statement (attachment l o k i)) s
      = .ok ((), { s with heap := s.heap.set b (.dict (inner.put k (.scalar i))) }) := by
  have hplace : StateT.run (expression (.subscript l (.name l exportsName) (.text l o))) s
      = .ok (.cell b, s) := by
    rw [run_place hexports ha, hentry, Option.elim_some]
  rw [attachment, statement, StateT.run_bind, run_text]
  show StateT.run (assign (.scalar i) _ >>= fun _ => pure ()) s = _
  rw [StateT.run_bind, assign, run_parts hplace, run_assignInto hb]
  rfl

/-- A name that is not exported halts the statement before it stores anything. -/
theorem run_attachment_missing {shown : String} (hexports : s.lookup? exportsName = some (.cell a))
    (ha : s.heap.get? a = some (.dict entries)) (hentry : entries.get? o = none)
    (hshown : o.shown? = some shown) :
    StateT.run (statement (attachment l o k i)) s
      = .error (.fault (.invalidSubscript shown .missingKey) l) := by
  rw [attachment, statement, StateT.run_bind, run_text]
  show StateT.run (assign (.scalar i) _ >>= fun _ => pure ()) s = _
  rw [StateT.run_bind, assign, StateT.run_bind, run_place hexports ha, hentry, hshown]
  rfl

end Evaluation

/-- `Attaches st operation identifier` says that the statement, wherever a dictionary is exported for the
operation, stores the identifier in it and changes nothing else. -/
def Attaches (st : Statement) (operation identifier : String) : Prop :=
  ∀ (s : Sandbox) (a b : Nat) (entries inner : Entries Value),
    s.lookup? exportsName = some (.cell a) → s.heap.get? a = some (.dict entries) →
    entries.get? (.text operation) = some (.cell b) → s.heap.get? b = some (.dict inner) →
    StateT.run (Evaluation.statement st) s = .ok ((),
      { s with heap := s.heap.set b (.dict (inner.put (.text documentIdKey) (.scalar (.text identifier)))) })

/-- A sandbox that exports an empty dictionary for one operation. -/
def exporting (operation : String) : Sandbox :=
  ⟨⟨#[.dict [], .dict [(.text operation, .cell 0)]]⟩, [(exportsName, .cell 1)], []⟩

theorem isText_spelled (s : String) : (spelled s).isText := by
  rw [spelled, Scalar.ofPoints]
  split <;> rfl

theorem exporting_found (operation : String) :
    Entries.get? [(.text operation, Value.cell 0)] (.text operation) = some (.cell 0) := by
  rw [Entries.get?_cons, if_pos (Scalar.same_text_iff.mpr rfl)]

/-- The exported dictionary is not found by another name. -/
theorem exporting_missing {operation : String} (h : spelled operation ≠ .text operation) :
    Entries.get? [(.text operation, Value.cell 0)] (spelled operation) = none := by
  rw [Entries.get?_cons, if_neg]
  · rfl
  · rw [Scalar.same_iff (isText_spelled operation)]
    exact Ne.symm h

/-- What the statement must do where an empty dictionary is exported. -/
theorem Attaches.run_exporting {st : Statement} {operation identifier : String}
    (h : Attaches st operation identifier) :
    StateT.run (Evaluation.statement st) (exporting operation) = .ok ((), { exporting operation with
      heap := ⟨#[.dict [(.text documentIdKey, .scalar (.text identifier))],
        .dict [(.text operation, .cell 0)]]⟩ }) :=
  h (exporting operation) 1 0 _ [] rfl rfl (exporting_found operation) rfl

/-- The line is a printable one and a unit of one statement. It attaches the identifier exactly when no
character of the two texts is above U+FFFF. -/
theorem documentIdStatement_attaches (operation identifier : String) :
    (∀ c ∈ (documentIdStatement operation identifier).toList, isPrintableAscii c) ∧
      ∃ st, parse (documentIdStatement operation identifier) = .ok [st] ∧
        (Attaches st operation identifier ↔
          ∀ c ∈ operation.toList ++ identifier.toList, c.toNat < 0x10000) := by
  refine ⟨fun c hc => Lexer.isPrintableAscii_of_mem_documentIdStatement hc, _,
    parse_documentIdStatement operation identifier, ?_⟩
  rw [List.forall_mem_append, ← spelled_eq_text_iff, ← spelled_eq_text_iff]
  constructor
  · intro h
    have hattached := h.run_exporting
    have hoperation : spelled operation = .text operation := by
      by_contra hne
      obtain ⟨shown, hshown⟩ := Option.isSome_iff_exists.mp (Evaluation.showable_of_points _)
      rw [Evaluation.run_attachment_missing rfl rfl (exporting_missing hne) hshown] at hattached
      cases hattached
    refine ⟨hoperation, ?_⟩
    rw [hoperation, Evaluation.run_attachment rfl rfl (exporting_found operation) rfl] at hattached
    simpa [exporting, Heap.set, Entries.put] using hattached
  · rintro ⟨hoperation, hidentifier⟩ s a b entries inner hexports ha hentry hb
    rw [hoperation, hidentifier]
    exact Evaluation.run_attachment hexports ha hentry hb

/-- An operation whose name has a character above U+FFFF is not found under that name. -/
theorem documentIdStatement_unattached : ∃ st, parse (documentIdStatement "𝑄" "00") = .ok [st] ∧
    StateT.run (Evaluation.statement st) (exporting "𝑄")
      = .error (.fault (.invalidSubscript "'\\ud835\\udc44'" .missingKey) 1) ∧
    ¬ Attaches st "𝑄" "00" := by
  have hspelled : spelled "𝑄" ≠ .text "𝑄" := by decide
  have hshown : (spelled "𝑄").shown? = some "'\\ud835\\udc44'" := by decide
  have hrun := Evaluation.run_attachment_missing (s := exporting "𝑄") (l := 1) (k := .text documentIdKey)
    (i := spelled "00") rfl rfl (exporting_missing hspelled) hshown
  refine ⟨_, parse_documentIdStatement "𝑄" "00", hrun, fun h => ?_⟩
  rw [h.run_exporting] at hrun
  cases hrun

end PersistedOps.Script

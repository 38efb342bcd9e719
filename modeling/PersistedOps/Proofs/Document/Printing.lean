import PersistedOps.Proofs.Document.Spelling
import PersistedOps.Proofs.Text.JsonQuoted

/-!
What the nodes of an executable document print as, with their literals kept or turned to digits. A
rule a construct says which lexemes its text spells, given those of its parts.
-/

namespace PersistedOps

open Printer (Part Parts part attributeParts itemTexts nodeText)
open Signature (hexNode)
open Lexeme (Spells Fills Pen Seam)

/-- A way to print documents: what becomes of a node before, and how literals are written then. -/
structure Edition where
  pen : Pen
  node : Tree → Except Malformed Tree
  other : ∀ {k : Kind} (attributes : Attributes), k ≠ .stringValue →
    node (.node k attributes) = .ok (.node k attributes)
  literal : ∀ (s : String) (block : Option Bool), ∃ t, (Tree.ofOptions .stringValue
    [(.value, some (.text s)), (.block, block.map fun b => .scalar (.bool b))]).revise node = .ok t ∧
      part t = .ok (.one (pen.quote s))

namespace Edition

/-- Word characters stand in quotes as they are. -/
theorem escape_of_isWord {c : Char} (h : Signature.isWord c) : Printer.escape c = [c] := by
  have hrange := Lexeme.toNat_of_isWord h
  unfold Printer.escape
  split
  all_goals first
    | exact absurd h (by decide)
    | rw [if_neg]
      simp only [Bool.or_eq_true, Bool.and_eq_true, decide_eq_true_eq]
      omega

theorem not_mem_escape (c : Char) : '\n' ∉ Printer.escape c := by
  unfold Printer.escape
  split
  case h_8 hbreak _ _ _ _ =>
    split
    · intro hmem
      obtain ⟨d, hd, hupper⟩ : ∃ d ∈ Hex.ofNat 4 c.toNat, d.toUpper = '\n' := by simpa using hmem
      obtain ⟨m, rfl⟩ := Hex.exists_digit_of_mem hd
      have hdigit : ∀ m : Fin 16, (Hex.digit m).toUpper ≠ '\n' := by decide
      exact hdigit m hupper
    · simpa using Ne.symm hbreak
  all_goals decide

/-- Documents as they are. -/
def plain : Edition where
  pen := ⟨fun s => s.toList.flatMap Printer.escape, fun s hs => by
    obtain ⟨c, -, hc⟩ := List.mem_flatMap.mp hs
    exact not_mem_escape c hc⟩
  node := .ok
  other _ _ := rfl
  literal s block := by cases block <;> exact ⟨_, rfl, rfl⟩

theorem escape_ofText (s : String) :
    (Hex.ofText s).toList.flatMap Printer.escape = (Hex.ofText s).toList := by
  rw [List.flatMap_congr fun c hc => escape_of_isWord (Lexeme.isWord_of_mem_ofText hc),
    List.flatMap_singleton']

theorem not_mem_ofText (s : String) : '\n' ∉ (Hex.ofText s).toList := by
  intro hs
  exact absurd (Lexeme.isWord_of_mem_ofText hs) (by decide)

/-- Documents whose literals are the digits of their texts. -/
def digits : Edition where
  pen := ⟨fun s => (Hex.ofText s).toList, not_mem_ofText⟩
  node := hexNode
  other _ hk := by simp [hexNode, Tree.kind?, hk]
  literal s block := by
    refine ⟨.node .stringValue [(.value, .text (Hex.ofText s)), (.block, .scalar (.bool false))],
      by cases block <;> rfl, ?_⟩
    show Except.ok (Part.one (Printer.quote (Hex.ofText s))) = _
    rw [Printer.quote, escape_ofText, Pen.quote]

end Edition

namespace Tree

/-- The tree prints as the text in an edition. -/
def Shows (w : Edition) (t : Tree) (text : String) : Prop :=
  ∃ t', t.revise w.node = .ok t' ∧ part t' = .ok (.one text)

section

variable {w : Edition}

/-- An attribute, which may be absent, prints as the part. -/
inductive ShowsPart (w : Edition) : Option Tree → Part → Prop
  | absent : ShowsPart w none (.one "")
  | one {t : Tree} {text : String} (h : t.Shows w text) : ShowsPart w (some t) (.one text)
  | none : ShowsPart w none (.many [])
  | many {ts : List Tree} {texts : List String} (h : List.Forall₂ (Shows w) ts texts) :
      ShowsPart w (some (.list ts)) (.many texts)

theorem showsPart_list {ts : Option (List Tree)} {texts : List String}
    (h : List.Forall₂ (Shows w) (ts.getD []) texts) : ShowsPart w (ts.map .list) (.many texts) := by
  cases ts with
  | none =>
      obtain rfl := List.forall₂_nil_left_iff.mp h
      exact .none
  | some ts => exact .many h

theorem Shows.not_isNull {t t' : Tree} {text : String} (hrevise : t.revise w.node = .ok t')
    (hpart : part t' = .ok (.one text)) : t.isNull = false ∧ t'.isNull = false := by
  constructor
  · cases t with
    | scalar s => exact absurd hrevise (by simp [revise])
    | _ => rfl
  · cases t' with
    | scalar s => exact absurd hpart (by simp [part])
    | _ => rfl

theorem itemTexts_of_shows {ts : List Tree} {texts : List String} (h : List.Forall₂ (Shows w) ts texts) :
    ∃ ts', reviseItems w.node ts = .ok ts' ∧ itemTexts ts' = .ok texts := by
  induction h with
  | nil => exact ⟨[], rfl, rfl⟩
  | @cons t text ts texts hshows _ ih =>
      obtain ⟨t', hrevise, hpart⟩ := hshows
      obtain ⟨ts', hrevises, htexts⟩ := ih
      obtain ⟨hnull, hnull'⟩ := Shows.not_isNull hrevise hpart
      refine ⟨t' :: ts', ?_, ?_⟩
      · rw [reviseItems, hnull, hrevise, hrevises]
        rfl
      · rw [itemTexts, hnull', hpart, htexts]
        rfl

/-- A present attribute is revised and printed. -/
theorem ShowsPart.some {t : Tree} {p : Part} (h : ShowsPart w (.some t) p) :
    ∃ t', t.revise w.node = .ok t' ∧ part t' = .ok p := by
  cases h with
  | one h => exact h
  | many h =>
      obtain ⟨ts', hrevise, htexts⟩ := itemTexts_of_shows h
      refine ⟨.list ts', ?_, ?_⟩
      · rw [revise, hrevise]
        rfl
      · rw [part, htexts]
        rfl

/-- What the printer finds under an attribute. -/
def Found (parts : Parts) (a : Attribute) : Part → Prop
  | .one text => parts.one a = .ok text
  | .many texts => parts.many a = .ok texts

theorem found_cons_self (parts : Parts) (a : Attribute) (p : Part) : Found ((a, p) :: parts) a p := by
  cases p with
  | one text => simp [Found, Parts.one]
  | many texts => simp [Found, Parts.many]

theorem found_cons_of_ne {a b : Attribute} {parts : Parts} {p q : Part} (h : a ≠ b)
    (hfound : Found parts a q) : Found ((b, p) :: parts) a q := by
  have hlookup : ((b, p) :: parts).lookup a = parts.lookup a := by
    rw [List.lookup_cons, beq_eq_false_iff_ne.mpr h]
  cases q with
  | one text => simpa [Found, Parts.one, hlookup] using hfound
  | many texts => simpa [Found, Parts.many, hlookup] using hfound

theorem ShowsPart.found {parts : Parts} {a : Attribute} {p : Part} (h : ShowsPart w Option.none p)
    (hlookup : parts.lookup a = Option.none) : Found parts a p := by
  cases h with
  | absent => simp [Found, Parts.one, hlookup]
  | none => simp [Found, Parts.many, hlookup]

theorem lookup_cons_of_ne {β : Type} {a b : Attribute} (x : β) (l : List (Attribute × β))
    (h : a ≠ b) : ((b, x) :: l).lookup a = l.lookup a := by
  rw [List.lookup_cons, beq_eq_false_iff_ne.mpr h]

/-- What a node's attributes show, and the attributes that are kept as they are. -/
inductive ShownAs (w : Edition) : List (Attribute × Option Tree) → List (Attribute × Part) →
    List (Attribute × Option Tree) → Prop
  | nil : ShownAs w [] [] []
  | shown {a : Attribute} {o : Option Tree} {p : Part} {entries kept : List (Attribute × Option Tree)}
      {found : List (Attribute × Part)} (h : ShowsPart w o p) (rest : ShownAs w entries found kept) :
      ShownAs w ((a, o) :: entries) ((a, p) :: found) kept
  | kept {a : Attribute} {o : Option Tree} {entries kept : List (Attribute × Option Tree)}
      {found : List (Attribute × Part)} (rest : ShownAs w entries found kept) :
      ShownAs w ((a, o) :: entries) found ((a, o) :: kept)

theorem ShownAs.subset {entries kept : List (Attribute × Option Tree)}
    {found : List (Attribute × Part)} (h : ShownAs w entries found kept) :
    (∀ e ∈ found, e.1 ∈ entries.map (·.1)) ∧ ∀ e ∈ kept, e.1 ∈ entries.map (·.1) := by
  induction h with
  | nil => simp
  | shown _ _ ih =>
      exact ⟨List.forall_mem_cons.mpr ⟨List.mem_cons_self, fun e he =>
        List.mem_cons_of_mem _ (ih.1 e he)⟩, fun e he => List.mem_cons_of_mem _ (ih.2 e he)⟩
  | kept _ ih =>
      exact ⟨fun e he => List.mem_cons_of_mem _ (ih.1 e he), List.forall_mem_cons.mpr
        ⟨List.mem_cons_self, fun e he => List.mem_cons_of_mem _ (ih.2 e he)⟩⟩

/-- Whether a traversal of the kind walks what it shows and nothing that it keeps. A string shows
something else than it holds. -/
def walks (k : Kind) (shown kept : List Attribute) : Bool :=
  k != .stringValue && shown.all (k.visited.contains ·) && kept.all (!k.visited.contains ·)

/-- Attributes that show parts are revised and printed together. -/
theorem exists_parts {k : Kind} {entries kept : List (Attribute × Option Tree)}
    {found : List (Attribute × Part)} (h : ShownAs w entries found kept)
    (hshown : ∀ e ∈ found, e.1 ∈ k.visited) (hunshown : ∀ e ∈ kept, e.1 ∉ k.visited)
    (hnodup : (entries.map (·.1)).Nodup) :
    ∃ attributes parts,
      reviseAttributes w.node k (entries.filterMap fun e => e.2.map (e.1, ·)) = .ok attributes ∧
      attributeParts k attributes = .ok parts ∧ (∀ e ∈ found, Found parts e.1 e.2) ∧
      (∀ e ∈ kept, attributes.lookup e.1 = e.2) ∧
      ∀ a ∉ entries.map (·.1), parts.lookup a = none ∧ attributes.lookup a = none := by
  -- By induction on the attributes of a node, with each key at most once, so that what is found under one
  -- is not hidden by another.
  induction h with
  | nil => exact ⟨[], [], rfl, rfl, by simp, by simp, by simp⟩
  | @shown a o p entries kept found hshows hrest ih =>
      obtain ⟨hfresh, hnodup⟩ : a ∉ entries.map (·.1) ∧ (entries.map (·.1)).Nodup :=
        List.nodup_cons.mp hnodup
      obtain ⟨hvisited, hshown⟩ := List.forall_mem_cons.mp hshown
      obtain ⟨attributes, parts, hrevise, hparts, hfound, hkept, hnone⟩ := ih hshown hunshown hnodup
      cases o with
      | none =>
          exact ⟨attributes, parts, hrevise, hparts,
            List.forall_mem_cons.mpr ⟨hshows.found (hnone a hfresh).1, hfound⟩, hkept,
            fun b hb => hnone b fun hmem => hb (List.mem_cons_of_mem _ hmem)⟩
      | some t =>
          obtain ⟨t', ht', hp⟩ := hshows.some
          refine ⟨(a, t') :: attributes, (a, p) :: parts, ?_, ?_, ?_, ?_, ?_⟩
          · simp only [List.filterMap_cons, Option.map_some, reviseAttributes, hvisited, if_true,
              ht', hrevise]
            rfl
          · simp only [attributeParts, hvisited, if_true, hp, hparts]
            rfl
          · refine List.forall_mem_cons.mpr ⟨found_cons_self parts a p, fun e he => ?_⟩
            exact found_cons_of_ne (fun heq => hfresh (heq ▸ hrest.subset.1 e he)) (hfound e he)
          · intro e he
            have hne : e.1 ≠ a := fun heq => hfresh (heq ▸ hrest.subset.2 e he)
            rw [lookup_cons_of_ne t' attributes hne, hkept e he]
          · intro b hb
            obtain ⟨hba, hb⟩ : b ≠ a ∧ b ∉ entries.map (·.1) := by simpa using hb
            rw [lookup_cons_of_ne p parts hba, lookup_cons_of_ne t' attributes hba]
            exact hnone b hb
  | @kept a o entries kept found hrest ih =>
      obtain ⟨hfresh, hnodup⟩ : a ∉ entries.map (·.1) ∧ (entries.map (·.1)).Nodup :=
        List.nodup_cons.mp hnodup
      obtain ⟨hvisited, hunshown⟩ := List.forall_mem_cons.mp hunshown
      obtain ⟨attributes, parts, hrevise, hparts, hfound, hkept, hnone⟩ := ih hshown hunshown hnodup
      cases o with
      | none =>
          exact ⟨attributes, parts, hrevise, hparts, hfound,
            List.forall_mem_cons.mpr ⟨(hnone a hfresh).2, hkept⟩,
            fun b hb => hnone b fun hmem => hb (List.mem_cons_of_mem _ hmem)⟩
      | some t =>
          refine ⟨(a, t) :: attributes, parts, ?_, ?_, hfound, ?_, ?_⟩
          · simp only [List.filterMap_cons, Option.map_some, reviseAttributes, hvisited, if_false,
              hrevise]
            rfl
          · simp only [attributeParts, hvisited, if_false, hparts]
          · refine List.forall_mem_cons.mpr ⟨by simp, fun e he => ?_⟩
            have hne : e.1 ≠ a := fun heq => hfresh (heq ▸ hrest.subset.2 e he)
            rw [lookup_cons_of_ne t attributes hne, hkept e he]
          · intro b hb
            obtain ⟨hba, hb⟩ : b ≠ a ∧ b ∉ entries.map (·.1) := by simpa using hb
            rw [lookup_cons_of_ne t attributes hba]
            exact hnone b hb

/-- A node prints as its kind has it of the parts that its attributes show. -/
theorem shows_ofOptions {k : Kind} {entries kept : List (Attribute × Option Tree)}
    {found : List (Attribute × Part)} {text : String} (h : ShownAs w entries found kept)
    (hwalks : walks k (found.map (·.1)) (kept.map (·.1))) (hnodup : (entries.map (·.1)).Nodup)
    (htext : ∀ (attributes : Attributes) (parts : Parts),
      (found.Forall fun e => Found parts e.1 e.2) →
      (kept.Forall fun e => attributes.get? e.1 = e.2) → nodeText k attributes parts = .ok text) :
    (ofOptions k entries).Shows w text := by
  obtain ⟨⟨hk, hshown⟩, hunshown⟩ : (k ≠ .stringValue ∧ ∀ e ∈ found, e.1 ∈ k.visited) ∧
      ∀ e ∈ kept, e.1 ∉ k.visited := by
    simpa [walks] using hwalks
  obtain ⟨attributes, parts, hrevise, hparts, hfound, hkept, -⟩ :=
    exists_parts h hshown hunshown hnodup
  refine ⟨.node k attributes, ?_, ?_⟩
  · rw [ofOptions, revise, hrevise]
    exact w.other _ hk
  · rw [part, hparts]
    simp only [bind, Except.bind, htext attributes parts (List.forall_iff_forall_mem.mpr hfound)
      (List.forall_iff_forall_mem.mpr hkept)]
    rfl

theorem shows_literal (s : String) (block : Option Bool) :
    (ofOptions .stringValue [(.value, some (.text s)),
      (.block, block.map fun b => .scalar (.bool b))]).Shows w (w.pen.quote s) :=
  w.literal s block

/-- A node without parts that are walked prints as it is. -/
theorem shows_atom {k : Kind} {attributes : Attributes} {text : String} (hk : k ≠ .stringValue)
    (hrevise : reviseAttributes w.node k attributes = .ok attributes)
    (hpart : part (.node k attributes) = .ok (.one text)) :
    (Tree.node k attributes).Shows w text := by
  refine ⟨_, ?_, hpart⟩
  rw [revise, hrevise]
  exact w.other attributes hk

theorem shows_name (n : String) : (name n).Shows w n := shows_atom (by decide) rfl rfl

/-- A node with nothing but a name. -/
theorem shows_named {k : Kind} {n text : String} (hk : k ≠ .stringValue) (hvisited : .name ∈ k.visited)
    (hpart : part (.node k [(.name, name n)]) = .ok (.one text)) :
    (Tree.node k [(.name, name n)]).Shows w text := by
  refine shows_atom hk ?_ hpart
  have hname : (name n).revise w.node = .ok (name n) := w.other _ (by decide)
  simp [reviseAttributes, hvisited, hname, bind, Except.bind, pure, Except.pure]

theorem shows_var (n : String) : (var n).Shows w ("$" ++ n) :=
  shows_named (by decide) (by decide) rfl

theorem shows_namedType (n : String) : (namedType n).Shows w n :=
  shows_named (by decide) (by decide) rfl

end

/-! ### Rules -/

/-- The tree prints in any edition as a text that spells the lexemes. -/
structure Prints (p : Prop) (i j : Nat) (t : Tree) (ts : List Lexeme) : Prop where
  shows : ∀ w : Edition, ∃ text, t.Shows w text ∧ Spells p w.pen i j text.toList ts
  ne_nil : ts ≠ []

section

variable {p : Prop} {q : Pen} {i j : Nat} {ts : List Lexeme} {tss : List (List Lexeme)}

theorem Prints.mono {i' j' : Nat} {t : Tree} (h : Prints p i j t ts) (hi : i' ≤ i) (hj : j ≤ j') :
    Prints p i' j' t ts := by
  refine ⟨fun w => ?_, h.ne_nil⟩
  obtain ⟨text, hshows, hspells⟩ := h.shows w
  exact ⟨text, hshows, hspells.mono hi hj⟩

theorem Prints.weaken {p' : Prop} {t : Tree} (h : Prints p i j t ts) (hp : p' → p) :
    Prints p' i j t ts := by
  refine ⟨fun w => ?_, h.ne_nil⟩
  obtain ⟨text, hshows, hspells⟩ := h.shows w
  exact ⟨text, hshows, hspells.weaken hp⟩

theorem weaken_all {p' : Prop} {items : List Tree} (h : List.Forall₂ (Prints p i j) items tss)
    (hp : p' → p) : List.Forall₂ (Prints p' i j) items tss :=
  h.imp fun _ _ h => h.weaken hp

section

variable (w : Edition)

/-- An optional part prints as a text that may be empty. -/
theorem exists_option {o : Option Tree} (h : List.Forall₂ (Prints p i j) o.toList tss) (hij : i ≤ j) :
    ∃ text, ShowsPart w o (.one text) ∧ Fills p w.pen i j text tss.flatten := by
  cases o with
  | none =>
      obtain rfl := List.forall₂_nil_left_iff.mp h
      exact ⟨"", .absent, (Fills.none i).mono (Nat.le_refl i) hij⟩
  | some t =>
      obtain ⟨ts, tss, ht, htss, rfl⟩ := List.forall₂_cons_left_iff.mp h
      obtain rfl := List.forall₂_nil_left_iff.mp htss
      obtain ⟨text, hshows, hspells⟩ := ht.shows w
      exact ⟨text, .one hshows, .of_ne_nil (by simpa using hspells) (by simpa using ht.ne_nil)⟩

theorem exists_texts {items : List Tree} (h : List.Forall₂ (Prints p i j) items tss) :
    ∃ texts, List.Forall₂ (Shows w) items texts ∧ List.Forall₂ (Fills p w.pen i j) texts tss := by
  induction h with
  | nil => exact ⟨[], .nil, .nil⟩
  | cons ht _ ih =>
      obtain ⟨text, hshows, hspells⟩ := ht.shows w
      obtain ⟨texts, htexts, hfills⟩ := ih
      exact ⟨text :: texts, .cons hshows htexts, .cons (.of_ne_nil hspells ht.ne_nil) hfills⟩

theorem ne_nil_of_prints {items : List Tree} (h : List.Forall₂ (Prints p i j) items tss) :
    ∀ ts ∈ tss, ts ≠ [] := by
  induction h with
  | nil => simp
  | cons ht _ ih => exact List.forall_mem_cons.mpr ⟨ht.ne_nil, ih⟩

/-- A list prints as texts, one an item. -/
theorem exists_list {o : Option (List Tree)} (h : List.Forall₂ (Prints p i j) (o.getD []) tss) :
    ∃ texts, ShowsPart w (o.map .list) (.many texts) ∧
      List.Forall₂ (Fills p w.pen i j) texts tss := by
  obtain ⟨texts, htexts, hfills⟩ := exists_texts w h
  exact ⟨texts, showsPart_list htexts, hfills⟩

end

theorem prints_literal (s : String) (block : Option Bool) :
    Prints p 1 1 (ofOptions .stringValue [(.value, some (.text s)),
      (.block, block.map fun b => .scalar (.bool b))]) [.text s] :=
  ⟨fun _ => ⟨_, shows_literal s block, .literal s⟩, by simp⟩

theorem prints_word {t : Tree} {n : String} (hshows : ∀ w, t.Shows w n) (hn : IsName n) :
    Prints p 0 0 t [.word n.toList] :=
  ⟨fun w => ⟨n, hshows w, hn.spells Nat.zero_ne_one⟩, by simp⟩

theorem prints_var {n : String} (hn : IsName n) :
    Prints p 0 0 (var n) [.mark '$', .word n.toList] := by
  refine ⟨fun w => ⟨_, shows_var n, ?_⟩, by simp⟩
  have hname := hn.spells (p := p) (q := w.pen) Nat.zero_ne_one
  simpa using hname.mark (c := '$') rfl

theorem prints_number {k : Kind} (hk : k = .intValue ∨ k = .floatValue) {s : String}
    {negative : Bool} {w : List Char} {tail : Lexeme.Tail}
    (hs : s.toList = Lexeme.numberChars negative w tail) (h : Lexeme.IsNumber w tail)
    (hnumber : IsInt s.toList ∨ IsFloat s.toList) :
    Prints p 0 1 (.node k [(.value, .text s)]) (Lexeme.numberLine negative w tail) := by
  rw [hs] at hnumber
  refine ⟨fun w => ⟨s, ?_, hs ▸ .number hnumber h⟩, ?_⟩
  · obtain rfl | rfl := hk <;> exact shows_atom (by decide) rfl rfl
  · cases negative <;> simp [Lexeme.numberLine]

/-- A name and a value, as arguments and object fields have them. -/
theorem prints_pair {k : Kind} (hk : k = .argument ∨ k = .objectField) {n : String} {v : Tree}
    (hn : IsName n) (hv : Prints p 0 1 v ts) :
    Prints p 2 1 (.node k [(.name, name n), (.value, v)]) (.word n.toList :: .mark ':' :: ts) := by
  refine ⟨fun w => ?_, by simp⟩
  obtain ⟨text, hshows, hspells⟩ := hv.shows w
  refine ⟨n ++ ": " ++ text, ?_, ?_⟩
  · show (ofOptions k [(.name, some (name n)), (.value, some v)]).Shows w _
    have hparts : ShownAs w [(.name, some (name n)), (.value, some v)]
        [(.name, .one n), (.value, .one text)] [] :=
      .shown (.one (shows_name n)) (.shown (.one hshows) .nil)
    refine shows_ofOptions hparts (by obtain rfl | rfl := hk <;> rfl) (by simp)
      fun attributes parts hfound _ => ?_
    have hnode : nodeText k attributes parts = Printer.pairText parts := by
      obtain rfl | rfl := hk <;> rfl
    simp only [List.Forall, Found] at hfound
    simp only [hnode, Printer.pairText, hfound]
    rfl
  · have hname := hn.spells (p := p) (q := w.pen) (i := 2) (by omega)
    simpa using hname.append_colon hspells (by decide)

/-- Items between brackets, with commas. -/
theorem spells_items {texts : List String} (h : List.Forall₂ (Fills p q 0 1) texts tss) {a b : Char}
    (ha : Lexeme.isPunctuation a) (hb : Lexeme.isPunctuation b) :
    Spells p q 0 0 (a :: ((Printer.join ", " texts).toList ++ [b]))
      (.mark a :: (tss.flatten ++ [.mark b])) :=
  (Fills.joinCommas h).spells.enclosed ha hb

theorem prints_list {values : Option (List Tree)}
    (h : List.Forall₂ (Prints p 0 1) (values.getD []) tss) :
    Prints p 0 0 (ofOptions .listValue [(.values, values.map .list)])
      (.mark '[' :: (tss.flatten ++ [.mark ']'])) := by
  refine ⟨fun w => ?_, by simp⟩
  obtain ⟨texts, hshows, hfills⟩ := exists_list w h
  refine ⟨"[" ++ Printer.join ", " texts ++ "]", ?_, ?_⟩
  · refine shows_ofOptions (.shown hshows .nil) rfl (by simp)
      fun attributes parts hfound _ => ?_
    simp only [List.Forall, Found] at hfound
    simp only [nodeText, Kind.base, hfound]
    rfl
  · simpa using spells_items hfills (a := '[') (b := ']') rfl rfl

theorem prints_object {fields : Option (List Tree)}
    (h : List.Forall₂ (Prints p 0 1) (fields.getD []) tss) :
    Prints p 0 0 (ofOptions .objectValue [(.fields, fields.map .list)])
      (.mark '{' :: (tss.flatten ++ [.mark '}'])) := by
  refine ⟨fun w => ?_, by simp⟩
  obtain ⟨texts, hshows, hfills⟩ := exists_list w h
  refine ⟨"\x7b" ++ Printer.join ", " texts ++ "\x7d", ?_, ?_⟩
  · refine shows_ofOptions (.shown hshows .nil) rfl (by simp)
      fun attributes parts hfound _ => ?_
    simp only [List.Forall, Found] at hfound
    simp only [nodeText, Kind.base, hfound]
    rfl
  · simpa using spells_items hfills (a := '{') (b := '}') rfl rfl

theorem prints_listType {t : Tree} (h : Prints p 0 0 t ts) :
    Prints p 0 0 (.node .listType [(.type, t)]) (.mark '[' :: (ts ++ [.mark ']'])) := by
  refine ⟨fun w => ?_, by simp⟩
  obtain ⟨text, hshows, hspells⟩ := h.shows w
  refine ⟨"[" ++ text ++ "]", ?_, ?_⟩
  · show (ofOptions .listType [(.type, some t)]).Shows w _
    refine shows_ofOptions (.shown (.one hshows) .nil) rfl (by simp)
      fun attributes parts hfound _ => ?_
    simp only [List.Forall, Found] at hfound
    simp only [nodeText, Kind.base, hfound]
    rfl
  · simpa using hspells.enclosed (i := 0) (a := '[') (b := ']') rfl rfl

theorem prints_nonNullType {t : Tree} (h : Prints p 0 0 t ts) :
    Prints p 0 0 (.node .nonNullType [(.type, t)]) (ts ++ [.mark '!']) := by
  refine ⟨fun w => ?_, by simp⟩
  obtain ⟨text, hshows, hspells⟩ := h.shows w
  refine ⟨text ++ "!", ?_, ?_⟩
  · show (ofOptions .nonNullType [(.type, some t)]).Shows w _
    refine shows_ofOptions (.shown (.one hshows) .nil) rfl (by simp)
      fun attributes parts hfound _ => ?_
    simp only [List.Forall, Found] at hfound
    simp only [nodeText, Kind.base, hfound]
    rfl
  · have hmark : Spells p w.pen 0 0 ['!'] [.mark '!'] := Spells.nil.mark rfl
    simpa using hspells.append_cons hmark rfl (by decide)

/-! #### Arguments and directives -/

/-- Items in parentheses on one line. -/
theorem fills_paren {texts : List String} (h : List.Forall₂ (Fills p q 0 1) texts tss) (i : Nat) :
    Fills p q i i (Printer.wrap "(" (Printer.join ", " texts) ")") (Lexeme.paren tss.flatten) :=
  (Fills.joinCommas h).paren [] [] rfl rfl i

/-- Items in parentheses, one to a line. -/
theorem fills_parenLines {texts : List String} (h : List.Forall₂ (Fills p q 1 1) texts tss)
    (hne : ∀ ts ∈ tss, ts ≠ []) (hseams : p → tss.IsChain Seam) (i : Nat) :
    Fills p q i i (Printer.wrap "(\n" (Printer.join "\n" texts) "\n)") (Lexeme.paren tss.flatten) := by
  have hlines : Fills p q 1 1 (Printer.join "\n" texts) tss.flatten :=
    .joinSeams h _ rfl hne hseams
  exact (hlines.mono (Nat.zero_le 1) (Nat.le_refl 1)).paren ['\n'] ['\n'] rfl rfl i

theorem prints_directive {n : String} {arguments : Option (List Tree)} (hn : IsName n)
    (h : List.Forall₂ (Prints p 2 1) (arguments.getD []) tss) :
    Prints p 2 0 (ofOptions .directive [(.name, some (name n)), (.arguments, arguments.map .list)])
      (.mark '@' :: .word n.toList :: Lexeme.paren tss.flatten) := by
  refine ⟨fun w => ?_, by simp⟩
  obtain ⟨texts, hshows, hfills⟩ := exists_list w h
  refine ⟨"@" ++ n ++ Printer.wrap "(" (Printer.join ", " texts) ")", ?_, ?_⟩
  · refine shows_ofOptions (.shown (.one (shows_name n)) (.shown hshows .nil))
      rfl (by simp) fun attributes parts hfound _ => ?_
    simp only [List.Forall, Found] at hfound
    simp only [nodeText, Kind.base, Printer.directiveText, hfound]
    rfl
  · have hname := hn.spells (p := p) (q := w.pen) Nat.zero_ne_one
    have hitems := fills_paren (hfills.imp fun _ _ hf => hf.mono (Nat.zero_le 2) (Nat.le_refl 1)) 0
    have hline := hname.append_wrap hitems.spells rfl (by decide)
    simpa using hline.mark (i := 2) (c := '@') rfl

/-- Directives print as a text in any mood. -/
theorem exists_directives (w : Edition) {directives : Option (List Tree)}
    (h : List.Forall₂ (Prints p 2 0) (directives.getD []) tss) :
    ∃ texts, ShowsPart w (directives.map .list) (.many texts) ∧
      ∀ i ≤ 2, i ≠ 1 → Fills p w.pen i i (Printer.join " " texts) tss.flatten := by
  obtain ⟨texts, hshows, hfills⟩ := exists_list w h
  refine ⟨texts, hshows, fun i hi hone => ?_⟩
  exact .joinBlanks (hfills.imp fun _ _ hf => hf.mono hi (Nat.zero_le i)) _ rfl hone

theorem prints_spread {n : String} {directives : Option (List Tree)} (hn : IsName n)
    (h : List.Forall₂ (Prints p 2 0) (directives.getD []) tss) :
    Prints p 0 0 (ofOptions .fragmentSpread
        [(.name, some (name n)), (.directives, directives.map .list)])
      (.mark '.' :: .mark '.' :: .mark '.' :: .word n.toList :: tss.flatten) := by
  refine ⟨fun w => ?_, by simp⟩
  obtain ⟨texts, hshows, hfills⟩ := exists_directives w h
  refine ⟨"..." ++ n ++ Printer.wrap " " (Printer.join " " texts) "", ?_, ?_⟩
  · refine shows_ofOptions (.shown (.one (shows_name n)) (.shown hshows .nil))
      rfl (by simp) fun attributes parts hfound _ => ?_
    simp only [List.Forall, Found] at hfound
    simp only [nodeText, Kind.base, Printer.spreadText, Parts.directives, hfound]
    rfl
  · have hname := hn.spells (p := p) (q := w.pen) Nat.zero_ne_one
    have hdirectives := (hfills 0 (Nat.zero_le 2) (by decide)).spells.wrapBlanks " " rfl
    simpa using (hname.append_wrap hdirectives rfl (by decide)).dots

/-! #### Variables and selections -/

theorem prints_variableDefinition {description default : Option Tree} {n : String} {t : Tree}
    {directives : Option (List Tree)} {ds vs : List (List Lexeme)} (hn : IsName n)
    (hdescription : List.Forall₂ (Prints p 1 1) description.toList ds) (ht : Prints p 0 0 t ts)
    (hdefault : List.Forall₂ (Prints p 0 1) default.toList vs)
    (hdirectives : List.Forall₂ (Prints p 2 0) (directives.getD []) tss) :
    Prints p 1 1 (ofOptions .variableDefinition
        [(.description, description), (.var, some (var n)), (.type, some t),
          (.defaultValue, default), (.directives, directives.map .list)])
      (ds.flatten ++ (.mark '$' :: .word n.toList :: .mark ':' ::
        (ts ++ (Lexeme.assign vs.flatten ++ tss.flatten)))) := by
  refine ⟨fun w => ?_, by simp⟩
  obtain ⟨d, hd, hdfills⟩ := exists_option w hdescription (Nat.le_refl 1)
  obtain ⟨type, htype, htspells⟩ := ht.shows w
  obtain ⟨v, hv, hvfills⟩ := exists_option w hdefault (Nat.zero_le 1)
  obtain ⟨texts, htexts, hfills⟩ := exists_list w hdirectives
  refine ⟨Printer.wrap "" d "\n" ++ ("$" ++ n) ++ ": " ++ type ++ Printer.wrap " = " v ""
    ++ Printer.wrap " " (Printer.join " " texts) "", ?_, ?_⟩
  · refine shows_ofOptions (.shown hd (.shown (.one (shows_var n))
      (.shown (.one htype) (.shown hv (.shown htexts .nil)))))
      rfl (by simp) fun attributes parts hfound _ => ?_
    simp only [List.Forall, Found] at hfound
    simp only [nodeText, Kind.base, Printer.variableText, Parts.directives, hfound]
    rfl
  · have hname := hn.spells (p := p) (q := w.pen) Nat.zero_ne_one
    have hassigned := htspells.append_wrap hvfills.assign.spells rfl (by decide)
    have htyped := Fills.behind hassigned hfills
    have hvariable := (hname.append_colon htyped (by decide)).mark (i := 2) (c := '$') rfl
    simpa using hdfills.described hvariable (Nat.le_refl 2)

theorem prints_selectionSet {selections : List Tree} (hne : selections ≠ [])
    (h : List.Forall₂ (Prints p 0 0) selections tss) :
    Prints p 2 0 (.node .selectionSet [(.selections, .list selections)])
      (.mark '{' :: (tss.flatten ++ [.mark '}'])) := by
  refine ⟨fun w => ?_, by simp⟩
  obtain ⟨texts, hshows, hfills⟩ := exists_texts w h
  have hsome : tss.flatten ≠ [] := by
    cases h with
    | nil => exact absurd rfl hne
    | cons ht _ => simp [ht.ne_nil]
  refine ⟨Printer.block texts, ?_, ?_⟩
  · show (ofOptions .selectionSet [(.selections, some (.list selections))]).Shows w _
    refine shows_ofOptions (.shown (.many hshows) .nil) rfl (by simp)
      fun attributes parts hfound _ => ?_
    simp only [List.Forall, Found] at hfound
    simp only [nodeText, Kind.base, hfound]
    rfl
  · have hlines : Fills p w.pen 0 0 (Printer.indent (Printer.join "\n" texts)) tss.flatten :=
      (Fills.joinBlanks hfills _ rfl (by decide)).indent
    rw [Printer.block, Printer.wrap, if_neg (mt hlines.eq_empty_iff.mp hsome)]
    simpa using hlines.spells.bracketed (i := 2) (a := '{') (b := '}') ['\n'] ['\n'] rfl rfl
      rfl rfl

/-- A field's name with its arguments, on a line or on lines of their own. -/
theorem fills_fieldHead {label : String} {texts : List String} (hlabel : Spells p q 0 0 label.toList ts)
    (hne : ts ≠ []) (h : List.Forall₂ (Fills p q 2 1) texts tss) :
    Fills p q 0 0 (Printer.fieldHead label texts) (ts ++ Lexeme.paren tss.flatten) := by
  have hline := fills_paren (h.imp fun _ _ hf => hf.mono (Nat.zero_le 2) (Nat.le_refl 1)) 0
  have hlines : Fills p q 2 2 (Printer.join "\n" texts) tss.flatten :=
    .joinBlanks (h.imp fun _ _ hf => hf.mono (Nat.le_refl 2) (Nat.le_succ 1)) _ rfl (by decide)
  have hindented := (hlines.indent.mono (Nat.zero_le 2) (Nat.le_refl 2)).paren ['\n'] ['\n'] rfl rfl 0
  refine .of_ne_nil ?_ (by simp [hne])
  rw [Printer.fieldHead]
  split
  · rw [String.toList_append]
    exact hlabel.append_wrap hindented.spells rfl (by decide)
  · rw [String.toList_append]
    exact hlabel.append_wrap hline.spells rfl (by decide)

theorem showsPart_name {w : Edition} (n : Option String) : ShowsPart w (n.map name) (.one (n.getD "")) := by
  cases n with
  | none => exact .absent
  | some n => exact .one (shows_name n)

theorem showsPart_namedType {w : Edition} (n : Option String) :
    ShowsPart w (n.map namedType) (.one (n.getD "")) := by
  cases n with
  | none => exact .absent
  | some n => exact .one (shows_namedType n)

/-- The lexemes of an alias. -/
def aliasLine (label : Option String) : List Lexeme :=
  (label.map fun l => [.word l.toList, .mark ':']).getD []

/-- The lexemes of a type condition. -/
def conditionLine (condition : Option String) : List Lexeme :=
  (condition.map fun c => [.word "on".toList, .word c.toList]).getD []

theorem prints_field {label : Option String} {n : String} {arguments directives : Option (List Tree)}
    {set : Option Tree} {as ss : List (List Lexeme)} (hlabel : ∀ l ∈ label, IsName l)
    (hn : IsName n) (harguments : List.Forall₂ (Prints p 2 1) (arguments.getD []) as)
    (hdirectives : List.Forall₂ (Prints p 2 0) (directives.getD []) tss)
    (hset : List.Forall₂ (Prints p 2 0) set.toList ss) :
    Prints p 0 0 (ofOptions .field
        [(.aliasName, label.map name), (.name, some (name n)), (.arguments, arguments.map .list),
          (.directives, directives.map .list), (.selectionSet, set)])
      (aliasLine label ++ .word n.toList :: (Lexeme.paren as.flatten ++ (tss.flatten ++ ss.flatten)))
      := by
  refine ⟨fun w => ?_, by simp⟩
  obtain ⟨argumentTexts, hshown, hargfills⟩ := exists_list w harguments
  obtain ⟨texts, htexts, hfills⟩ := exists_directives w hdirectives
  obtain ⟨s, hs, hsfills⟩ := exists_option w (i := 0) (j := 0)
    (hset.imp fun _ _ h => h.mono (Nat.zero_le 2) (Nat.le_refl 0)) (Nat.le_refl 0)
  refine ⟨Printer.join " " [Printer.fieldHead (Printer.wrap "" (label.getD "") ": " ++ n)
    argumentTexts, Printer.join " " texts, s], ?_, ?_⟩
  · refine shows_ofOptions (.shown (showsPart_name label) (.shown
      (.one (shows_name n)) (.shown hshown (.shown htexts
      (.shown hs .nil))))) rfl (by simp) fun attributes parts hfound _ => ?_
    simp only [List.Forall, Found] at hfound
    simp only [nodeText, Kind.base, Printer.fieldText, Parts.directives, hfound]
    rfl
  · have hname := hn.spells (p := p) (q := w.pen) Nat.zero_ne_one
    have hlabelled : Spells p w.pen 0 0 (Printer.wrap "" (label.getD "") ": " ++ n).toList
        (aliasLine label ++ [.word n.toList]) := by
      cases label with
      | none => simpa [Printer.wrap, aliasLine] using hname
      | some l =>
          have hl := hlabel l rfl
          have hword := hl.spells (p := p) (q := w.pen) Nat.zero_ne_one
          simpa [Printer.wrap, hl.ne_empty, aliasLine] using hword.append_colon hname (by decide)
    have hhead := fills_fieldHead hlabelled (by simp) hargfills
    have hjoined : Fills p w.pen 0 0 _ _ := .joinBlanks
      (.cons hhead (.cons (hfills 0 (Nat.zero_le 2) (by decide)) (.cons hsfills .nil))) " " rfl (by decide)
    simpa using hjoined.spells

/-- An inline fragment may have selections that print as nothing. -/
theorem prints_inline_of_fills {condition : Option String} {directives : Option (List Tree)}
    {set : Tree} (hcondition : ∀ c ∈ condition, IsName c)
    (hdirectives : List.Forall₂ (Prints p 2 0) (directives.getD []) tss)
    (hset : ∀ w : Edition, ∃ s, set.Shows w s ∧ Fills p w.pen 0 0 s ts) :
    Prints p 0 0 (ofOptions .inlineFragment
        [(.typeCondition, condition.map namedType), (.directives, directives.map .list),
          (.selectionSet, some set)])
      (.mark '.' :: .mark '.' :: .mark '.' :: (conditionLine condition ++ (tss.flatten ++ ts))) := by
  refine ⟨fun w => ?_, by simp⟩
  obtain ⟨texts, htexts, hfills⟩ := exists_directives w hdirectives
  obtain ⟨s, hs, hsfills⟩ := hset w
  refine ⟨Printer.join " " ["...", Printer.wrap "on " (condition.getD "") "",
    Printer.join " " texts, s], ?_, ?_⟩
  · refine shows_ofOptions (.shown (showsPart_namedType condition) (.shown
      htexts (.shown (.one hs) .nil))) rfl (by simp)
      fun attributes parts hfound _ => ?_
    simp only [List.Forall, Found] at hfound
    simp only [nodeText, Kind.base, Printer.inlineText, Parts.directives, hfound]
    rfl
  · have hdots : Fills p w.pen 0 0 "..." [.mark '.', .mark '.', .mark '.'] :=
      .of_ne_nil Spells.nil.dots (by simp)
    have hon : Fills p w.pen 0 0 (Printer.wrap "on " (condition.getD "") "") (conditionLine condition) := by
      cases condition with
      | none => exact .none 0
      | some c =>
          have hc := hcondition c rfl
          have hword := hc.spells (p := p) (q := w.pen) Nat.zero_ne_one
          refine .of_ne_nil ?_ (by simp [conditionLine])
          simpa [Printer.wrap, hc.ne_empty, conditionLine] using
            (isName_on.spells Nat.zero_ne_one).append_space hword (by decide)
    have hjoined : Fills p w.pen 0 0 _ _ := .joinBlanks
      (.cons hdots (.cons hon (.cons (hfills 0 (Nat.zero_le 2) (by decide)) (.cons hsfills .nil)))) " " rfl (by decide)
    simpa using hjoined.spells

theorem prints_inline {condition : Option String} {directives : Option (List Tree)} {set : Tree}
    (hcondition : ∀ c ∈ condition, IsName c)
    (hdirectives : List.Forall₂ (Prints p 2 0) (directives.getD []) tss) (hset : Prints p 2 0 set ts) :
    Prints p 0 0 (ofOptions .inlineFragment
        [(.typeCondition, condition.map namedType), (.directives, directives.map .list),
          (.selectionSet, some set)])
      (.mark '.' :: .mark '.' :: .mark '.' :: (conditionLine condition ++ (tss.flatten ++ ts))) := by
  refine prints_inline_of_fills hcondition hdirectives fun w => ?_
  obtain ⟨s, hs, hspells⟩ := hset.shows w
  exact ⟨s, hs, .of_ne_nil (hspells.mono (Nat.zero_le 2) (Nat.le_refl 0)) hset.ne_nil⟩

/-! #### Definitions -/

theorem join_pair (a b : String) : Printer.join "" [a, b] = a ++ b := by
  by_cases ha : a = "" <;> by_cases hb : b = "" <;> simp [Printer.join, ha, hb]

/-- Variables print in parentheses whichever way they are laid out. -/
theorem exists_variableLines {texts : List String} (h : List.Forall₂ (Fills p q 1 1) texts tss)
    (hne : ∀ ts ∈ tss, ts ≠ []) (hseams : p → tss.IsChain Seam) :
    ∃ text, (∀ parts : Parts, parts.many .variableDefinitions = .ok texts →
      parts.variableLines = .ok text) ∧ (∀ i, Fills p q i i text (Lexeme.paren tss.flatten)) ∧
      Lexeme.Stops text.toList := by
  by_cases hlines : texts.any (·.toList.contains '\n')
  · refine ⟨_, fun parts hparts => ?_, fun i => fills_parenLines h hne hseams i,
      Spells.stops_wrap rfl⟩
    simp only [Parts.variableLines, hparts]
    simp only [bind, Except.bind, hlines, if_true]
    rfl
  · refine ⟨_, fun parts hparts => ?_, fun i => fills_paren
      (h.imp fun _ _ hf => hf.mono (Nat.zero_le 1) (Nat.le_refl 1)) i,
      Spells.stops_wrap rfl⟩
    simp only [Parts.variableLines, Parts.variableList, hparts]
    simp only [bind, Except.bind, hlines]
    rfl

/-- The lexemes of an operation in front of its selections. -/
def operationHead (o : OperationType) (n : Option String) (ds vs dirs : List Lexeme) : List Lexeme :=
  ds ++ .word o.word.toList :: (Lexeme.ofName? n ++ (Lexeme.paren vs ++ dirs))

/-- The lexemes of an operation, the bare word for a query left out. -/
def operationLine (head selections : List Lexeme) : List Lexeme :=
  (if head = [.word "query".toList] then [] else head) ++ selections

theorem eq_of_operationHead {o : OperationType} {n : Option String} {ds vs dirs : List Lexeme}
    (h : operationHead o n ds vs dirs = [.word "query".toList]) :
    ds = [] ∧ o = .query ∧ n = none ∧ Lexeme.paren vs = [] ∧ dirs = [] := by
  obtain ⟨rfl, hrest⟩ : ds = [] ∧ Lexeme.word o.word.toList :: (Lexeme.ofName? n
      ++ (Lexeme.paren vs ++ dirs)) = [.word "query".toList] := by
    cases ds with
    | nil => exact ⟨rfl, h⟩
    | cons d ds => simp [operationHead] at h
  simp only [List.cons.injEq, Lexeme.word.injEq, List.append_eq_nil_iff] at hrest
  obtain ⟨ho, hname, hvars, rfl⟩ := hrest
  refine ⟨rfl, ?_, ?_, hvars, rfl⟩
  · cases o with
    | query => rfl
    | mutation | subscription => exact absurd ho (by decide)
  · cases n with
    | none => rfl
    | some n => simp [Lexeme.ofName?] at hname

/-- An operation's head, as printed, is the bare word for a query when its lexemes are. -/
theorem operationHead_eq_query_iff {o : OperationType} {n : Option String} {d v dirs : String}
    {ds vs us : List Lexeme} (hd : Fills p q 1 1 d ds)
    (hv : Fills p q 2 2 v (Lexeme.paren vs)) (hdirs : Fills p q 2 2 dirs us)
    (hspells : Spells p q i j (Printer.wrap "" d "\n"
      ++ Printer.join " " [o.word, Printer.join "" [n.getD "", v], dirs]).toList
      (operationHead o n ds vs us)) :
    Printer.wrap "" d "\n" ++ Printer.join " " [o.word, Printer.join "" [n.getD "", v], dirs]
      = "query" ↔ operationHead o n ds vs us = [.word "query".toList] := by
  constructor
  · intro hquery
    rw [hquery] at hspells
    exact Spells.eq_name (n := "query") (isName_word .query) hspells
  · intro hhead
    obtain ⟨rfl, rfl, rfl, hvars, rfl⟩ := eq_of_operationHead hhead
    rw [hd.empty rfl, hv.empty hvars, hdirs.empty rfl]
    decide

theorem prints_operation {description : Option Tree} (o : OperationType) {n : Option String}
    {vars directives : Option (List Tree)} {set : Tree} {ds vs : List (List Lexeme)}
    (hdescription : List.Forall₂ (Prints p 1 1) description.toList ds) (hn : ∀ m ∈ n, IsName m)
    (hvariables : List.Forall₂ (Prints p 1 1) (vars.getD []) vs) (hseams : p → vs.IsChain Seam)
    (hdirectives : List.Forall₂ (Prints p 2 0) (directives.getD []) tss) (hset : Prints p 2 0 set ts) :
    Prints p 0 0 (ofOptions .operationDefinition
        [(.description, description), (.operation, some (.operation o)), (.name, n.map name),
          (.variableDefinitions, vars.map .list), (.directives, directives.map .list),
          (.selectionSet, some set)])
      (operationLine (operationHead o n ds.flatten vs.flatten tss.flatten) ts) := by
  refine ⟨fun w => ?_, by simp [operationLine, hset.ne_nil]⟩
  obtain ⟨d, hd, hdfills⟩ := exists_option w hdescription (Nat.le_refl 1)
  obtain ⟨variableTexts, hvtexts, hvfills⟩ := exists_list w hvariables
  obtain ⟨v, hvlines, hv, hvstops⟩ := exists_variableLines hvfills (ne_nil_of_prints hvariables) hseams
  obtain ⟨texts, htexts, hfills⟩ := exists_directives w hdirectives
  obtain ⟨s, hs, hspells⟩ := hset.shows w
  have hname : Fills p w.pen 2 2 (n.getD "") (Lexeme.ofName? n) := fills_name hn (by omega)
  -- The name and the variables meet without a blank, the rest of the head is joined over blanks.
  have hnamed : Fills p w.pen 2 2 (Printer.join "" [n.getD "", v])
      (Lexeme.ofName? n ++ Lexeme.paren vs.flatten) := by
    rw [join_pair]
    exact hname.append (hv 2) hvstops (by decide)
  have hword : Fills p w.pen 2 2 o.word [.word o.word.toList] :=
    .of_ne_nil ((isName_word o).spells (by omega)) (by simp)
  have hhead : Fills p w.pen 2 2 (Printer.join " " [o.word, Printer.join "" [n.getD "", v],
      Printer.join " " texts]) _ :=
    .joinBlanks (.cons hword (.cons hnamed (.cons (hfills 2 (Nat.le_refl 2) (by decide)) .nil))) " " rfl (by decide)
  have hdescribed : Spells p w.pen 1 2 (Printer.wrap "" d "\n" ++ Printer.join " "
      [o.word, Printer.join "" [n.getD "", v], Printer.join " " texts]).toList
      (operationHead o n ds.flatten vs.flatten tss.flatten) := by
    simpa [operationHead] using hdfills.described hhead.spells (by omega)
  have hquery := operationHead_eq_query_iff hdfills (hv 2) (hfills 2 (Nat.le_refl 2) (by decide)) hdescribed
  generalize hD : Printer.wrap "" d "\n" ++ Printer.join " "
    [o.word, Printer.join "" [n.getD "", v], Printer.join " " texts] = D at hdescribed hquery
  have hs' : s ≠ "" := by
    rintro rfl
    exact hset.ne_nil hspells.eq_nil
  refine ⟨Printer.join " " [if D = "query" then "" else D, s], ?_, ?_⟩
  · refine shows_ofOptions (.shown hd (.kept (.shown
      (showsPart_name n) (.shown hvtexts (.shown htexts
      (.shown (.one hs) .nil)))))) rfl (by simp)
      fun attributes parts hfound hkept => ?_
    simp only [List.Forall, Found] at hfound hkept
    simp only [nodeText, Kind.base, Printer.operationText, Parts.directives, hfound, hkept,
      hvlines parts hfound.2.2.1, ← hD]
    rfl
  · have hone : Printer.join " " [s] = s := by
      rw [Spells.join_cons_of_ne " " [] hs']
      simp [Spells.join_nil, Printer.wrap]
    rw [operationLine]
    by_cases hbare : D = "query"
    · rw [if_pos hbare, if_pos (hquery.mp hbare), Spells.join_cons_empty, hone, List.nil_append]
      exact hspells.mono (Nat.zero_le 2) (Nat.le_refl 0)
    · have hne : D ≠ "" := by
        intro hempty
        rw [hempty] at hdescribed
        simpa [operationHead] using hdescribed.eq_nil
      rw [if_neg hbare, if_neg (mt hquery.mpr hbare), Spells.join_cons_of_ne " " [s] hne, hone,
        Printer.wrap, if_neg hs']
      have hline := hdescribed.append_space hspells (by decide)
      simpa using hline.mono (Nat.zero_le 1) (Nat.le_refl 0)

theorem prints_fragment {description : Option Tree} {n condition : String}
    {vars directives : Option (List Tree)} {set : Tree} {ds vs : List (List Lexeme)}
    (hdescription : List.Forall₂ (Prints p 1 1) description.toList ds) (hn : IsName n)
    (hvariables : List.Forall₂ (Prints p 1 1) (vars.getD []) vs) (hcondition : IsName condition)
    (hdirectives : List.Forall₂ (Prints p 2 0) (directives.getD []) tss) (hset : Prints p 2 0 set ts) :
    Prints p 0 0 (ofOptions .fragmentDefinition
        [(.description, description), (.name, some (name n)),
          (.variableDefinitions, vars.map .list), (.typeCondition, some (namedType condition)),
          (.directives, directives.map .list), (.selectionSet, some set)])
      (ds.flatten ++ .word "fragment".toList :: .word n.toList :: (Lexeme.paren vs.flatten ++
        .word "on".toList :: .word condition.toList :: (tss.flatten ++ ts))) := by
  refine ⟨fun w => ?_, by simp⟩
  obtain ⟨d, hd, hdfills⟩ := exists_option w hdescription (Nat.le_refl 1)
  obtain ⟨variableTexts, hvtexts, hvfills⟩ := exists_list w hvariables
  obtain ⟨texts, htexts, hfills⟩ := exists_directives w hdirectives
  obtain ⟨s, hs, hspells⟩ := hset.shows w
  refine ⟨Printer.wrap "" d "\n" ++ ("fragment " ++ n
    ++ Printer.wrap "(" (Printer.join ", " variableTexts) ")" ++ " on " ++ condition ++ " "
    ++ Printer.wrap "" (Printer.join " " texts) " ") ++ s, ?_, ?_⟩
  · refine shows_ofOptions (.shown hd (.shown (.one (shows_name n))
      (.shown hvtexts (.shown (.one (shows_namedType condition))
      (.shown htexts (.shown (.one hs) .nil)))))) rfl (by simp)
      fun attributes parts hfound _ => ?_
    simp only [List.Forall, Found] at hfound
    simp only [nodeText, Kind.base, Printer.fragmentText, Parts.directives, Parts.variableList,
      hfound]
    rfl
  · have hdirected : Spells p w.pen 2 0
        ((Printer.wrap "" (Printer.join " " texts) " ").toList ++ s.toList) (tss.flatten ++ ts) := by
      rw [Printer.wrap]
      split
      · rename_i hempty
        simpa [(hfills 2 (Nat.le_refl 2) (by decide)).eq_empty_iff.mp hempty] using hspells
      · simpa using (hfills 2 (Nat.le_refl 2) (by decide)).spells.append_space hspells (by decide)
    -- The line is put together from its end, word by word.
    have htwo : 2 ≠ 1 := by omega
    have hvariables := fills_paren
      (hvfills.imp fun _ _ hf => hf.mono (Nat.zero_le 1) (Nat.le_refl 1)) 2
    have hconditioned := (hcondition.spells htwo).append_space hdirected htwo
    have hon := (isName_on.spells htwo).append_space hconditioned htwo
    have hparens := (hn.spells htwo).append_wrap hvariables.spells rfl htwo
    have hnamed := hparens.append_space hon htwo
    have hhead := (isName_fragment.spells htwo).append_space hnamed htwo
    have hline := (hdfills.described hhead (by omega)).mono (Nat.zero_le 1) (Nat.le_refl 0)
    simpa using hline

theorem shows_document (w : Edition) {definitions : Option (List Tree)}
    (h : List.Forall₂ (Prints p 0 0) (definitions.getD []) tss) :
    ∃ text, (ofOptions .document [(.definitions, definitions.map .list)]).Shows w text ∧
      Spells p w.pen 0 0 text.toList tss.flatten := by
  obtain ⟨texts, hshows, hfills⟩ := exists_list w h
  refine ⟨Printer.join "\n\n" texts, ?_, (Fills.joinBlanks hfills _ rfl (by decide)).spells⟩
  refine shows_ofOptions (.shown hshows .nil) rfl (by simp)
    fun attributes parts hfound _ => ?_
  simp only [List.Forall, Found] at hfound
  simp only [nodeText, Kind.base, Printer.documentText, hfound]
  rfl

/-- A tree that shows a text with digits prints, reduced, as a line of the lexemes that the text
spells. -/
theorem Shows.printReduced {t : Tree} {text : String} (h : t.Shows .digits text)
    (hspells : Spells p Edition.digits.pen 0 j text.toList ts) :
    ∃ line, Signature.printReduced t = .ok (String.ofList (Lexeme.render line)) ∧
      Lexeme.Laid Edition.digits.pen.body j text.toList line ∧ (p → Lexeme.Apart line) ∧
      Lexeme.bare line = ts := by
  obtain ⟨t', hrevise, hpart⟩ := h
  obtain ⟨line, hlaid, hfits, hbare⟩ := hspells
  obtain ⟨m, hmood, -⟩ := hfits.calm .clear (Nat.le_refl 0)
  have hprint : Printer.print t' = .ok text := by
    rw [Printer.print, hpart]
    rfl
  have hrestore := Lexeme.restore_render hlaid.proper (by simp [hmood])
  refine ⟨line, ?_, hlaid, hfits.apart, hbare⟩
  rw [Signature.printReduced, show t.revise hexNode = .ok t' from hrevise]
  simp only [bind, Except.bind, hprint, Lexeme.reduce_eq_render, Lexeme.Laid.scan_eq hlaid, hrestore]

end

end Tree

end PersistedOps

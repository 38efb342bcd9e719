import PersistedOps.Proofs.Document.Line
import PersistedOps.Proofs.Document.Reading
import PersistedOps.Proofs.Document.Strings

/-!
Documents are told by their reduced text. Every construct that the grammar makes prints as a text
whose lexemes are read back as the construct and hold its strings, and a reduced text has one line of
lexemes, so two documents with one reduced text have one plain form.
-/

namespace PersistedOps

open PersistedOps.Tree (Prints)
open Lexeme (Seam EndsOpen endsOpen_word endsOpen_concat_mark endsOpen_number texts)
open Reader (Reads)

/-! ### Constructs -/

namespace Category

/-- The mood up to which a construct's text can be begun. -/
def before : Category → Nat
  | literal | variableDefinition => 1
  | objectField | argument | directive | selectionSet => 2
  | value | nullableType | type | selection | definition => 0

/-- The mood up to which a construct's text can end. -/
def after : Category → Nat
  | literal | value | objectField | argument | variableDefinition => 1
  | nullableType | type | directive | selection | selectionSet | definition => 0

/-- What keeps the literals of a construct's text apart. -/
def Unglued : Category → Tree → Prop
  | definition, t => ¬ t.Glued
  | _, _ => True

/-- What the lexemes at the ends of a construct tell of it. -/
def Ends : Category → Tree → List Lexeme → Prop
  | literal, t, ts | value, t, ts => ts.getLast? = some (.text "") → t.IsEmptyString
  | nullableType, _, ts | type, _, ts | directive, _, ts => EndsOpen ts
  | variableDefinition, t, ts =>
    (ts.getLast? = some (.text "") → t.EndsEmpty) ∧ ∀ s, ts.head? = some (.text s) → t.Described
  | _, _, _ => True

end Category

/-- The construct prints as a text that spells the lexemes and is read back from them. They hold its
strings. -/
structure Told (c : Category) (t : Tree) (ts : List Lexeme) : Prop where
  prints : Prints (c.Unglued t) c.before c.after t ts
  reads : Reads c t ts
  ends : c.Ends t ts
  strings : texts ts = t.strings

section

variable {c : Category} {t : Tree} {trees : List Tree} {tss : List (List Lexeme)}

/-- Constructs that are told one by one are told in a row. -/
theorem exists_told (h : ∀ t ∈ trees, ∃ ts, Told c t ts) : ∃ tss, List.Forall₂ (Told c) trees tss := by
  induction trees with
  | nil => exact ⟨[], .nil⟩
  | cons t trees ih =>
      obtain ⟨⟨ts, ht⟩, htrees⟩ := List.forall_mem_cons.mp h
      obtain ⟨tss, htold⟩ := ih htrees
      exact ⟨ts :: tss, .cons ht htold⟩

theorem exists_told_option {o : Option Tree} (h : ∀ t ∈ o, ∃ ts, Told c t ts) :
    ∃ tss, List.Forall₂ (Told c) o.toList tss :=
  exists_told fun t ht => h t (Option.mem_toList.mp ht)

theorem all_read (h : List.Forall₂ (Told c) trees tss) : List.Forall₂ (Reads c) trees tss :=
  h.imp fun _ _ ht => ht.reads

theorem all_printed (h : List.Forall₂ (Told c) trees tss) (hc : c ≠ .definition) :
    List.Forall₂ (Prints True c.before c.after) trees tss := by
  refine h.imp fun t _ ht => ht.prints.weaken fun _ => ?_
  cases c with
  | definition => exact absurd rfl hc
  | _ => trivial

theorem strings_told (h : List.Forall₂ (Told c) trees tss) :
    texts tss.flatten = trees.flatMap Tree.strings := by
  induction h with
  | nil => rfl
  | cons ht _ ih => rw [List.flatten_cons, Lexeme.texts_append, ht.strings, ih, List.flatMap_cons]

/-- Variables of which none is described right behind an empty string do not glue literals. -/
theorem seams_told (h : List.Forall₂ (Told .variableDefinition) trees tss)
    (hchain : trees.IsChain fun v v' => ¬ (v.EndsEmpty ∧ v'.Described)) : tss.IsChain Seam := by
  induction h with
  | nil => exact .nil
  | @cons v ts trees tss hv hrest ih =>
      obtain ⟨hnext, hchain⟩ := List.isChain_cons.mp hchain
      refine List.isChain_cons.mpr ⟨?_, ih hchain⟩
      rintro us hus t ht u hu ⟨rfl, s, rfl⟩
      cases hrest with
      | nil => simp at hus
      | cons hv' _ =>
          obtain rfl := Option.some.inj hus
          exact hnext _ rfl ⟨hv.ends.1 ht, hv'.ends.2 s hu⟩

/-- A value that ends with no literal. -/
theorem Told.value {ts : List Lexeme} (hprints : Prints True 0 1 t ts) (hreads : Reads .value t ts)
    (hends : EndsOpen ts) (hstrings : texts ts = t.strings) : Told .value t ts :=
  ⟨hprints, hreads, fun hlast => absurd hlast (hends ""), hstrings⟩

/-- A value that is one word. -/
theorem told_word {n : String} (hn : IsName n) (hshows : ∀ w, t.Shows w n)
    (hword : Reader.word n = t) (hplain : t.plain = t) (hnode : t.kind?.isSome)
    (hstrings : t.strings = []) : Told .value t [.word n.toList] :=
  .value ((Tree.prints_word hshows hn).mono (Nat.le_refl 0) (Nat.zero_le 1))
    (Reader.reads_word hn.not_isDigit hword hplain hnode) (endsOpen_word _) hstrings.symm

theorem told_enum {n : String} (hn : IsName n) (hother : n ∉ ["true", "false", "null"]) :
    Told .value (.node .enumValue [(.value, .text n)]) [.word n.toList] := by
  have hword : Reader.word n = .node .enumValue [(.value, .text n)] := by
    simp only [List.mem_cons, List.not_mem_nil, or_false, not_or] at hother
    rw [Reader.word, if_neg hother.1, if_neg hother.2.1, if_neg hother.2.2]
  exact told_word hn (fun _ => Tree.shows_atom (by decide) rfl rfl) hword rfl rfl rfl

theorem told_boolean (b : Bool) :
    ∃ ts, Told .value (.node .booleanValue [(.value, .scalar (.bool b))]) ts := by
  have hshows (w : Edition) : (Tree.node .booleanValue [(.value, .scalar (.bool b))]).Shows w
      (if b then "true" else "false") :=
    Tree.shows_atom (by decide) rfl (by cases b <;> rfl)
  cases b with
  | true => exact ⟨_, told_word (n := "true") (.of_toList rfl rfl rfl) hshows rfl rfl rfl rfl⟩
  | false => exact ⟨_, told_word (n := "false") (.of_toList rfl rfl rfl) hshows rfl rfl rfl rfl⟩

theorem told_null : ∃ ts, Told .value (.node .nullValue []) ts :=
  ⟨_, told_word (n := "null") (.of_toList rfl rfl rfl)
    (fun _ => Tree.shows_atom (by decide) rfl rfl) rfl rfl rfl rfl⟩

theorem told_int {s : String} (h : IsInt s.toList) :
    ∃ ts, Told .value (.node .intValue [(.value, .text s)]) ts := by
  obtain ⟨negative, w, hs, hnumber⟩ := Lexeme.isNumber_of_isInt h
  have hkind : (if Lexeme.isFloat s.toList then .floatValue else .intValue) = Kind.intValue := by
    simp [Lexeme.isFloat_of_isInt h]
  exact ⟨_, .value (Tree.prints_number (.inl rfl) hs hnumber (.inl h))
    (Reader.reads_number hs hnumber hkind) (endsOpen_number _ _ _) (Lexeme.texts_number _ _ _)⟩

theorem told_float {s : String} (h : IsFloat s.toList) :
    ∃ ts, Told .value (.node .floatValue [(.value, .text s)]) ts := by
  obtain ⟨negative, w, tail, hs, hnumber⟩ := Lexeme.isNumber_of_isFloat h
  have hkind : (if Lexeme.isFloat s.toList then .floatValue else .intValue) = Kind.floatValue := by
    simp [Lexeme.isFloat_of_isFloat h]
  exact ⟨_, .value (Tree.prints_number (.inr rfl) hs hnumber (.inr h))
    (Reader.reads_number hs hnumber hkind) (endsOpen_number _ _ _) (Lexeme.texts_number _ _ _)⟩

theorem told_literal (s : String) (block : Option Bool) :
    Told .literal (.ofOptions .stringValue [(.value, some (.text s)),
      (.block, block.map fun b => .scalar (.bool b))]) [.text s] := by
  refine ⟨Tree.prints_literal s block, Reader.reads_literal s block, fun hlast => ?_,
    (Tree.strings_literal s block).symm⟩
  obtain rfl : s = "" := by simpa using hlast
  cases block <;> exact ⟨rfl, rfl⟩

theorem told_list {values : Option (List Tree)}
    (h : List.Forall₂ (Told .value) (values.getD []) tss) :
    Told .value (.ofOptions .listValue [(.values, values.map .list)])
      (.mark '[' :: (tss.flatten ++ [.mark ']'])) := by
  have hprints := Tree.prints_list (all_printed h nofun)
  refine .value (hprints.mono (Nat.le_refl 0) (Nat.zero_le 1)) (Reader.reads_list (all_read h))
    ((endsOpen_concat_mark _ _).cons_mark _) ?_
  simp [Tree.strings_ofOptions, strings_told h]

theorem told_object {fields : Option (List Tree)}
    (h : List.Forall₂ (Told .objectField) (fields.getD []) tss) :
    Told .value (.ofOptions .objectValue [(.fields, fields.map .list)])
      (.mark '{' :: (tss.flatten ++ [.mark '}'])) := by
  have hcalm := (all_printed h nofun).imp fun _ _ h => h.mono (Nat.zero_le 2) (Nat.le_refl 1)
  have hprints := Tree.prints_object hcalm
  refine .value (hprints.mono (Nat.le_refl 0) (Nat.zero_le 1)) (Reader.reads_object (all_read h))
    ((endsOpen_concat_mark _ _).cons_mark _) ?_
  simp [Tree.strings_ofOptions, strings_told h]

theorem told_pair {k : Kind} (hk : k = .argument ∨ k = .objectField) {n : String} {v : Tree}
    {ts : List Lexeme} (hv : Told .value v ts) :
    texts (.word n.toList :: .mark ':' :: ts)
      = (Tree.node k [(.name, .name n), (.value, v)]).strings := by
  have hnode : k ≠ .stringValue := by obtain rfl | rfl := hk <;> decide
  have hstrings := Tree.strings_ofOptions hnode [(.name, some (.name n)), (.value, some v)]
  rw [show Tree.node k [(.name, .name n), (.value, v)]
    = .ofOptions k [(.name, some (.name n)), (.value, some v)] from rfl, hstrings]
  simp [hv.strings]

theorem told_directive {n : String} {arguments : Option (List Tree)} (hn : IsName n)
    (h : List.Forall₂ (Told .argument) (arguments.getD []) tss) :
    Told .directive (.ofOptions .directive
        [(.name, some (.name n)), (.arguments, arguments.map .list)])
      (.mark '@' :: .word n.toList :: Lexeme.paren tss.flatten) := by
  refine ⟨Tree.prints_directive hn (all_printed h nofun), Reader.reads_directive (all_read h),
    ((Lexeme.endsOpen_paren _).cons_word _).cons_mark _, ?_⟩
  simp [Tree.strings_ofOptions, strings_told h]

theorem endsOpen_directives {directives : List Tree}
    (h : List.Forall₂ (Told .directive) directives tss) : EndsOpen tss.flatten := by
  refine Lexeme.endsOpen_flatten ?_
  induction h with
  | nil => simp
  | cons ht _ ih => exact List.forall_mem_cons.mpr ⟨ht.ends, ih⟩

/-- When a variable's lexemes end in an empty literal, it is the default value and nothing follows. -/
theorem default_of_getLast? {default : Option Tree} {directives xs : List _} {vs : List (List Lexeme)}
    (hxs : EndsOpen xs) (hdefault : List.Forall₂ (Told .value) default.toList vs)
    (hdirectives : List.Forall₂ (Told .directive) directives tss)
    (hlast : (xs ++ (Lexeme.assign vs.flatten ++ tss.flatten)).getLast? = some (.text "")) :
    (∃ v, default = some v ∧ v.IsEmptyString) ∧ directives = [] := by
  have hopen := endsOpen_directives hdirectives
  have hnone : tss.flatten = [] := by
    by_contra hne
    exact hopen.append_right hne (xs ++ Lexeme.assign vs.flatten) "" (by simpa using hlast)
  refine ⟨?_, ?_⟩
  · rw [hnone, List.append_nil] at hlast
    cases default with
    | none =>
        obtain rfl := List.forall₂_nil_left_iff.mp hdefault
        exact absurd (by simpa [Lexeme.assign] using hlast) (hxs "")
    | some v =>
        obtain ⟨us, vs, hv, hvs, rfl⟩ := List.forall₂_cons_left_iff.mp hdefault
        obtain rfl := List.forall₂_nil_left_iff.mp hvs
        obtain ⟨u, us, rfl⟩ := List.exists_cons_of_ne_nil hv.prints.ne_nil
        refine ⟨v, rfl, hv.ends ?_⟩
        simpa [Lexeme.assign, List.getLast?_append_of_ne_nil] using hlast
  · cases hdirectives with
    | nil => rfl
    | cons ht _ => exact absurd hnone (by simp [ht.prints.ne_nil])

theorem told_variableDefinition {description default : Option Tree} {n : String}
    {directives : Option (List Tree)} {ts : List Lexeme} {ds vs : List (List Lexeme)} (hn : IsName n)
    (hdescription : List.Forall₂ (Told .literal) description.toList ds) (ht : Told .type t ts)
    (hdefault : List.Forall₂ (Told .value) default.toList vs)
    (hdirectives : List.Forall₂ (Told .directive) (directives.getD []) tss) :
    Told .variableDefinition (.ofOptions .variableDefinition
        [(.description, description), (.var, some (.var n)), (.type, some t),
          (.defaultValue, default), (.directives, directives.map .list)])
      (ds.flatten ++ (.mark '$' :: .word n.toList :: .mark ':' ::
        (ts ++ (Lexeme.assign vs.flatten ++ tss.flatten)))) := by
  refine ⟨Tree.prints_variableDefinition hn (all_printed hdescription nofun) ht.prints
      (all_printed hdefault nofun) (all_printed hdirectives nofun),
    Reader.reads_variableDefinition (all_read hdescription) ht.reads (all_read hdefault)
      (all_read hdirectives), ⟨fun hlast => ?_, fun s hhead => ?_⟩, ?_⟩
  · have hhead : EndsOpen (ds.flatten ++ (.mark '$' :: .word n.toList :: .mark ':' :: ts)) := by
      have hopen : EndsOpen (.mark '$' :: .word n.toList :: .mark ':' :: ts) :=
        ((ht.ends.cons_mark ':').cons_word n.toList).cons_mark '$'
      exact hopen.append_right (by simp) ds.flatten
    obtain ⟨⟨v, rfl, hv⟩, hnone⟩ :=
      default_of_getLast? hhead hdefault hdirectives (by simpa using hlast)
    refine ⟨⟨v, Tree.get?_ofOptions rfl (by simp), hv⟩, fun ds hds => ?_⟩
    rw [Tree.get?_ofOptions (o := directives.map .list) rfl (by simp)] at hds
    cases directives with
    | none => simp at hds
    | some items =>
        obtain rfl : items = [] := hnone
        exact (Option.some.inj hds).symm
  · cases description with
    | none =>
        obtain rfl := List.forall₂_nil_left_iff.mp hdescription
        simp at hhead
    | some d =>
        rw [Tree.Described, Tree.get?_ofOptions (o := some d) rfl (by simp)]
        rfl
  · simp [Tree.strings_ofOptions, strings_told hdescription, ht.strings, strings_told hdefault,
      strings_told hdirectives]

/-- An operation's literals are kept apart unless it is glued. -/
theorem told_operation {description : Option Tree} (o : OperationType) {n : Option String}
    {vars directives : Option (List Tree)} {set : Tree} {ts : List Lexeme}
    {ds vs : List (List Lexeme)} (hdescription : List.Forall₂ (Told .literal) description.toList ds)
    (hn : ∀ m ∈ n, IsName m)
    (hvariables : List.Forall₂ (Told .variableDefinition) (vars.getD []) vs)
    (hdirectives : List.Forall₂ (Told .directive) (directives.getD []) tss)
    (hset : Told .selectionSet set ts) :
    Told .definition (.ofOptions .operationDefinition
        [(.description, description), (.operation, some (.operation o)), (.name, n.map .name),
          (.variableDefinitions, vars.map .list), (.directives, directives.map .list),
          (.selectionSet, some set)])
      (Tree.operationLine (Tree.operationHead o n ds.flatten vs.flatten tss.flatten) ts) := by
  refine ⟨?_, Reader.reads_operation o (all_read hdescription) (all_read hvariables)
    (all_read hdirectives) hset.reads, trivial, ?_⟩
  · refine Tree.prints_operation o (Tree.weaken_all (all_printed hdescription nofun) fun _ => trivial) hn
      (Tree.weaken_all (all_printed hvariables nofun) fun _ => trivial) (fun hloose => ?_)
      (Tree.weaken_all (all_printed hdirectives nofun) fun _ => trivial)
      (hset.prints.weaken fun _ => trivial)
    refine seams_told hvariables ?_
    refine List.isChain_iff_forall_rel_of_append_cons_cons.mpr fun v v' xs ys hvars hglued => ?_
    refine hloose ⟨rfl, vars.getD [], ?_, xs, v, v', ys, hvars, hglued.1, hglued.2⟩
    rw [Tree.get?_ofOptions (o := vars.map .list) rfl (by simp)]
    cases vars with
    | none => simp at hvars
    | some items => rfl
  · have hhead : texts (Tree.operationLine (Tree.operationHead o n ds.flatten vs.flatten tss.flatten) ts)
        = texts (Tree.operationHead o n ds.flatten vs.flatten tss.flatten) ++ texts ts := by
      rw [Tree.operationLine, Lexeme.texts_append]
      split
      · rename_i hquery
        rw [hquery]
        rfl
      · rfl
    rw [hhead]
    simp [Tree.operationHead, Tree.strings_ofOptions, strings_told hdescription,
      strings_told hvariables, strings_told hdirectives, hset.strings]

/-- Every construct prints as a text from which it is read back. -/
theorem Grammatical.told (h : Grammatical c t) : ∃ ts, Told c t ts := by
  -- Each construct is printed and read back by its own two rules, from those of its parts.
  induction h with
  | literal s block => exact ⟨_, told_literal s block⟩
  | var hn =>
      have hprints := Tree.prints_var (p := True) hn
      exact ⟨_, .value (hprints.mono (Nat.le_refl 0) (Nat.zero_le 1)) Reader.reads_var ((endsOpen_word _).cons_mark _) rfl⟩
  | int h => exact told_int h
  | float h => exact told_float h
  | string _ ih =>
      obtain ⟨ts, htext⟩ := ih
      exact ⟨ts, htext.prints.mono (Nat.zero_le 1) (Nat.le_refl 1), Reader.reads_string htext.reads,
        htext.ends, htext.strings⟩
  | boolean b => exact told_boolean b
  | null => exact told_null
  | enum hn hother => exact ⟨_, told_enum hn hother⟩
  | list _ ih =>
      obtain ⟨tss, htold⟩ := exists_told ih
      exact ⟨_, told_list htold⟩
  | object _ ih =>
      obtain ⟨tss, htold⟩ := exists_told ih
      exact ⟨_, told_object htold⟩
  | objectField hn _ ih =>
      obtain ⟨ts, hvalue⟩ := ih
      exact ⟨_, Tree.prints_pair (.inr rfl) hn hvalue.prints,
        Reader.reads_pair (.inr ⟨rfl, rfl⟩) hvalue.reads, trivial, told_pair (.inr rfl) hvalue⟩
  | argument hn _ ih =>
      obtain ⟨ts, hvalue⟩ := ih
      exact ⟨_, Tree.prints_pair (.inl rfl) hn hvalue.prints,
        Reader.reads_pair (.inl ⟨rfl, rfl⟩) hvalue.reads, trivial, told_pair (.inl rfl) hvalue⟩
  | @named n hn =>
      exact ⟨_, Tree.prints_word (fun _ => Tree.shows_namedType n) hn, Reader.reads_namedType n,
        endsOpen_word _, rfl⟩
  | listOf _ ih =>
      obtain ⟨ts, hitem⟩ := ih
      exact ⟨_, Tree.prints_listType hitem.prints, Reader.reads_listType hitem.reads,
        (endsOpen_concat_mark _ _).cons_mark _, by
          simpa [Tree.strings, Tree.attributeStrings] using hitem.strings⟩
  | nullable _ ih =>
      obtain ⟨ts, hbare⟩ := ih
      exact ⟨ts, hbare.prints, Reader.reads_nullable hbare.reads, hbare.ends, hbare.strings⟩
  | nonNull _ ih =>
      obtain ⟨ts, hbare⟩ := ih
      exact ⟨_, Tree.prints_nonNullType hbare.prints, Reader.reads_nonNullType hbare.reads,
        endsOpen_concat_mark _ _, by
          simpa [Tree.strings, Tree.attributeStrings] using hbare.strings⟩
  | directive hn _ ih =>
      obtain ⟨tss, htold⟩ := exists_told ih
      exact ⟨_, told_directive hn htold⟩
  | variableDefinition _ hn _ _ _ hdescribed htyped hgiven hdirected =>
      obtain ⟨ds, hdtold⟩ := exists_told_option hdescribed
      obtain ⟨ts, htype⟩ := htyped
      obtain ⟨vs, hvtold⟩ := exists_told_option hgiven
      obtain ⟨tss, htold⟩ := exists_told hdirected
      exact ⟨_, told_variableDefinition hn hdtold htype hvtold htold⟩
  | field hlabel hn _ _ _ hitems hdirected hselected =>
      obtain ⟨as, hatold⟩ := exists_told hitems
      obtain ⟨tss, htold⟩ := exists_told hdirected
      obtain ⟨ss, hstold⟩ := exists_told_option hselected
      exact ⟨_, Tree.prints_field hlabel hn (all_printed hatold (by simp)) (all_printed htold (by simp))
          (all_printed hstold (by simp)),
        Reader.reads_field (all_read hatold) (all_read htold) (all_read hstold), trivial, by
          simp [Tree.strings_ofOptions, strings_told hatold, strings_told htold, strings_told hstold]⟩
  | spread hn hother _ ih =>
      obtain ⟨tss, htold⟩ := exists_told ih
      exact ⟨_, Tree.prints_spread hn (all_printed htold (by simp)),
        Reader.reads_spread hother (all_read htold), trivial, by
          simp [Tree.strings_ofOptions, strings_told htold]⟩
  | inline hconditioned _ _ hdirected hselected =>
      obtain ⟨tss, htold⟩ := exists_told hdirected
      obtain ⟨ts, hset⟩ := hselected
      exact ⟨_, Tree.prints_inline hconditioned (all_printed htold (by simp)) hset.prints,
        Reader.reads_inline (all_read htold) hset.reads, trivial, by
          simp [Tree.strings_ofOptions, strings_told htold, hset.strings]⟩
  | selectionSet hne _ ih =>
      obtain ⟨tss, htold⟩ := exists_told ih
      exact ⟨_, Tree.prints_selectionSet hne (all_printed htold (by simp)),
        Reader.reads_selectionSet hne (all_read htold), trivial, by
          simp [Tree.strings, Tree.attributeStrings, Tree.itemStrings_eq, strings_told htold]⟩
  | operation o _ hn _ _ _ hdescribed hdeclared hdirected hselected =>
      obtain ⟨ds, hdtold⟩ := exists_told_option hdescribed
      obtain ⟨vs, hvtold⟩ := exists_told hdeclared
      obtain ⟨tss, htold⟩ := exists_told hdirected
      obtain ⟨ts, hset⟩ := hselected
      exact ⟨_, told_operation o hdtold hn hvtold htold hset⟩
  | fragment _ hn _ _ hcondition _ _ hdescribed hdeclared hdirected hselected =>
      obtain ⟨ds, hdtold⟩ := exists_told_option hdescribed
      obtain ⟨vs, hvtold⟩ := exists_told hdeclared
      obtain ⟨tss, htold⟩ := exists_told hdirected
      obtain ⟨ts, hset⟩ := hselected
      have hprints := Tree.prints_fragment (all_printed hdtold (by simp)) hn (all_printed hvtold (by simp))
        hcondition (all_printed htold (by simp)) hset.prints
      exact ⟨_, hprints.weaken fun _ => trivial,
        Reader.reads_fragment (all_read hdtold) (all_read hvtold) (all_read htold) hset.reads, trivial,
        by simp [Tree.strings_ofOptions, strings_told hdtold, strings_told hvtold, strings_told htold,
          hset.strings]⟩

end

/-! ### Documents -/

/-- The definitions of a document are read back from their lexemes. -/
theorem read_definitions {definitions : List Tree} {tss : List (List Lexeme)}
    (h : List.Forall₂ (Reads .definition) definitions tss) :
    Reader.many (fun _ => false) (Reader.definition tss.flatten.length) tss.flatten.length tss.flatten
      = some (definitions.map Tree.plain, []) := by
  have hmany := Reader.many_flatten (fun _ => false) [] h (Nat.le_refl _) (Nat.le_refl _)
    (fun _ _ => ⟨rfl, by simp [Reader.ends]⟩) (by simp)
  simpa [Reader.of] using hmany

/-- A well-formed document has a reduced text, a line of lexemes that tells its plain form. -/
theorem WellFormed.printed {t : Tree} (h : WellFormed t) :
    ∃ (definitions : Option (List Tree)) (line : List Lexeme),
      t = .ofOptions .document [(.definitions, definitions.map .list)] ∧
      Signature.printReduced t = .ok (String.ofList (Lexeme.render line)) ∧
      (∀ l ∈ line, l.Proper) ∧
      Reader.many (fun _ => false) (Reader.definition (Lexeme.bare line).length)
        (Lexeme.bare line).length (Lexeme.bare line)
        = some ((definitions.getD []).map Tree.plain, []) := by
  obtain @⟨definitions, hitems⟩ := h
  obtain ⟨tss, htold⟩ := exists_told fun d hd => (hitems d hd).told
  have hprints : List.Forall₂ (Prints False 0 0) (definitions.getD []) tss :=
    htold.imp fun _ _ ht => ht.prints.weaken False.elim
  obtain ⟨text, hshows, hspells⟩ := Tree.shows_document .digits hprints
  obtain ⟨line, hprinted, hlaid, -, hbare⟩ := hshows.printReduced hspells
  refine ⟨definitions, line, rfl, hprinted, hlaid.proper, ?_⟩
  rw [hbare]
  exact read_definitions (all_read htold)

/-- A document's plain form is told by those of its definitions. -/
theorem plain_document (definitions : Option (List Tree)) :
    Tree.plain (.ofOptions .document [(.definitions, definitions.map .list)])
      = .ofOptions .document
        [(.definitions, Tree.listOption ((definitions.getD []).map Tree.plain))] := by
  have hattribute : Attribute.definitions ≠ .block := by decide
  rw [Tree.plain_ofOptions, List.map_singleton, Tree.plainOption_list hattribute]

/-- Documents that print as one reduced text are one document, up to the block flags of strings and
lists that are absent or empty. -/
theorem WellFormed.printReduced_injective {t u : Tree} (ht : WellFormed t) (hu : WellFormed u) :
    ∃ a b, Signature.printReduced t = .ok a ∧ Signature.printReduced u = .ok b ∧
      (a = b → t.plain = u.plain) := by
  obtain ⟨ts, line, rfl, hprinted, hproper, hread⟩ := ht.printed
  obtain ⟨us, line', rfl, hprinted', hproper', hread'⟩ := hu.printed
  refine ⟨_, _, hprinted, hprinted', fun htext => ?_⟩
  have hline : line = line' :=
    Lexeme.render_injective hproper hproper' (String.ofList_injective htext)
  subst hline
  rw [hread] at hread'
  obtain ⟨hplain, -⟩ := Prod.mk.inj (Option.some.inj hread')
  rw [plain_document, plain_document, hplain]

/-- A query for one field, with a string for its argument. -/
def greeting (block : Option Bool) (directives : Option (List Tree)) : Tree :=
  .ofOptions .document [(.definitions, (some [.ofOptions .operationDefinition
    [(.description, none), (.operation, some (.operation .query)),
      (.name, (none : Option String).map .name),
      (.variableDefinitions, (none : Option (List Tree)).map .list),
      (.directives, (none : Option (List Tree)).map .list),
      (.selectionSet, some (.node .selectionSet [(.selections, .list [.ofOptions .field
        [(.aliasName, (none : Option String).map .name), (.name, some (.name "greet")),
          (.arguments, (some [.node .argument [(.name, .name "word"),
            (.value, .ofOptions .stringValue [(.value, some (.text "hi")),
              (.block, block.map fun b => .scalar (.bool b))])]]).map .list),
          (.directives, directives.map .list), (.selectionSet, none)]])]))]]).map .list)]

theorem wellFormed_greeting (block : Option Bool) (directives : Option (List Tree))
    (h : ∀ d ∈ directives.getD [], Grammatical .directive d) :
    WellFormed (greeting block directives) := by
  have hword : Grammatical .argument (.node .argument [(.name, .name "word"),
      (.value, .ofOptions .stringValue [(.value, some (.text "hi")),
        (.block, block.map fun b => .scalar (.bool b))])]) :=
    .argument (.of_toList rfl rfl rfl) (.string (.literal "hi" block))
  refine .document fun d hd => ?_
  obtain rfl := List.mem_singleton.mp hd
  refine .operation .query (by simp) (by simp) (by simp) (by simp) (.selectionSet (by simp) ?_)
  intro t ht
  obtain rfl := List.mem_singleton.mp ht
  exact .field (by simp) (.of_toList rfl rfl rfl) (by simpa using hword) h (by simp)

/-- A block flag and an empty list of directives tell nothing. -/
theorem printReduced_injective_greeting :
    Signature.printReduced (greeting none none) = .ok "\x7bgreet(word:\"hi\")\x7d" ∧
    Signature.printReduced (greeting (some true) (some [])) = .ok "\x7bgreet(word:\"hi\")\x7d" ∧
    (greeting none none).plain = (greeting (some true) (some [])).plain := by
  have htext : Signature.printReduced (greeting none none)
      = .ok "\x7bgreet(word:\"hi\")\x7d" := by decide +kernel
  have htext' : Signature.printReduced (greeting (some true) (some []))
      = .ok "\x7bgreet(word:\"hi\")\x7d" := by decide +kernel
  obtain ⟨a, b, ha, hb, hplain⟩ :=
    (wellFormed_greeting none none (by simp)).printReduced_injective
      (wellFormed_greeting (some true) (some []) (by simp))
  have hsame : a = b := Except.ok.inj (ha.symm.trans ((htext.trans htext'.symm).trans hb))
  exact ⟨htext, htext', hplain hsame⟩

end PersistedOps

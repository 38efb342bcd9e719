import PersistedOps.Proofs.Document.Permuted

/-!
Signatures and the order of directives. The directives of fragment spreads, inline fragments and fragment
definitions are sorted by name, so their order is no matter. Those of operations, fields and variable
definitions stay in their order, and the signature tells it.
-/

namespace PersistedOps.Signature

open PersistedOps.Sort (Shuffled)
open PersistedOps.Tree (SameUpTo)

variable {d d' : Tree}

/-- Where directives are sorted. -/
def directedPlaces : List (Kind × Attribute) :=
  [(.fragmentSpread, .directives), (.inlineFragment, .directives), (.fragmentDefinition, .directives)]

/-- Documents that differ in the order of the directives of spreads, inline fragments and fragment
definitions, at any depth and in any number of places. Where the order differs the names do. -/
def Redirected : Tree → Tree → Prop := SameUpTo (Shuffled directedPlaces) Eq

/-- Signatures are no matter of the order of the directives of fragments, wherever these are spread or
defined, and each operation of the document has one. -/
theorem ofOperation_of_redirected (h : WellFormed d) (hd : Redirected d d') :
    (∀ name literals, ofOperation d' name literals = ofOperation d name literals) ∧
    ∀ name literals ds, d.definitions = .ok ds → (∃ o ∈ ds, o.kind? = some .operationDefinition ∧
      Separate.keyOf o = .ok (.text name)) → ∃ s, ofOperation d name literals = .ok s :=
  ⟨ofOperation_eq_of_shuffled (by decide) h hd, fun _ _ _ => exists_ofOperation h⟩

/-- Directives without arguments. -/
def marks (ns : List String) : Option Tree := (some (ns.map mark)).map .list
where
  mark (n : String) : Tree := .ofOptions .directive
    [(.name, some (.name n)), (.arguments, (none : Option (List Tree)).map .list)]

/-- A field without selections. -/
def markedField (onField : List String) : Tree := .ofOptions .field
  [(.aliasName, (none : Option String).map .name), (.name, some (.name "f")),
    (.arguments, (none : Option (List Tree)).map .list), (.directives, marks onField), (.selectionSet, none)]

/-- A query with selections, which may declare variables. -/
def markedQuery (onQuery : List String) (vars : Option (List Tree)) (selections : List Tree) : Tree :=
  .ofOptions .operationDefinition
    [(.description, none), (.operation, some (.operation .query)), (.name, (some "Q").map .name),
      (.variableDefinitions, vars.map .list), (.directives, marks onQuery),
      (.selectionSet, some (.selectionSet selections))]

theorem grammatical_marks {ns : List String} (hns : ∀ n ∈ ns, IsName n) :
    ∀ d ∈ (some (ns.map marks.mark)).getD [], Grammatical .directive d := by
  intro d hd
  obtain ⟨n, hn, rfl⟩ := List.mem_map.mp hd
  exact .directive (hns n hn) (by simp)

theorem grammatical_markedField {onField : List String} (h : ∀ n ∈ onField, IsName n) :
    Grammatical .selection (markedField onField) :=
  .field (by simp) (.of_toList rfl rfl rfl) (by simp) (grammatical_marks h) (by simp)

theorem grammatical_markedQuery {onQuery : List String} {vars : Option (List Tree)} {selections : List Tree}
    (h : ∀ n ∈ onQuery, IsName n) (hvars : ∀ v ∈ vars.getD [], Grammatical .variableDefinition v)
    (hselections : ∀ t ∈ selections, Grammatical .selection t) (hsome : selections ≠ []) :
    Grammatical .definition (markedQuery onQuery vars selections) :=
  .operation .query (by simp) (by simpa using .of_toList rfl rfl rfl) hvars (grammatical_marks h)
    (.selectionSet hsome hselections)

/-! ### Sorted directives -/

/-- A query that spreads a fragment by name and one in place, and the fragment. -/
def markedFragments (ns : List String) : Tree := .document
  [markedQuery [] none
      [.ofOptions .fragmentSpread [(.name, some (.name "F")), (.directives, marks ns)],
        .ofOptions .inlineFragment [(.typeCondition, (none : Option String).map .namedType),
          (.directives, marks ns), (.selectionSet, some (.selectionSet [markedField []]))]],
    .ofOptions .fragmentDefinition
      [(.description, none), (.name, some (.name "F")),
        (.variableDefinitions, (none : Option (List Tree)).map .list),
        (.typeCondition, some (.namedType "T")), (.directives, marks ns),
        (.selectionSet, some (.selectionSet [markedField []]))]]

theorem wellFormed_markedFragments {ns : List String} (h : ∀ n ∈ ns, IsName n) :
    WellFormed (markedFragments ns) := by
  have hfield : ∀ t ∈ [markedField []], Grammatical .selection t :=
    List.forall_mem_singleton.mpr (grammatical_markedField (by simp))
  have hquery := @grammatical_markedQuery [] none _ (by simp) (by simp)
    (List.forall_mem_cons.mpr ⟨.spread (n := "F") (.of_toList rfl rfl rfl) (by decide) (grammatical_marks h),
      List.forall_mem_singleton.mpr
        (@Grammatical.inline none _ _ (by simp) (grammatical_marks h) (.selectionSet (by simp) hfield))⟩)
    (by simp)
  have hfragment := @Grammatical.fragment none "F" "T" none _ _ (by simp) (.of_toList rfl rfl rfl)
    (by decide) (by simp) (.of_toList rfl rfl rfl)
    (grammatical_marks h) (.selectionSet (by simp) hfield)
  have hdefinitions : ∀ d ∈ (some [_, _]).getD [], Grammatical .definition d :=
    List.forall_mem_cons.mpr ⟨hquery, List.forall_mem_singleton.mpr hfragment⟩
  exact .document hdefinitions

theorem redirected_markedFragments {ns ns' : List String} (hperm : ns.Perm ns') (hnodup : ns.Nodup)
    (h : ∀ n ∈ ns, IsName n) : Redirected (markedFragments ns) (markedFragments ns') := by
  have hself {t : Tree} {S : List Tree → List Tree → Prop} (hS : ∀ xs, S xs xs) (ht : Tree.Executable t) :
      SameUpTo (Shuffled directedPlaces) S t t := .refl (fun _ _ _ => .inl rfl) hS ht
  have hname (n : String) {k : Kind} {a : Attribute} :
      SameUpTo (Shuffled directedPlaces) (Shuffled directedPlaces k a) (.name n) (.name n) :=
    hself (fun _ => .inl rfl) (Tree.shaped_name n : Tree.Shaped false (.name n)).executable
  have hset {k : Kind} {a : Attribute} : SameUpTo (Shuffled directedPlaces) (Shuffled directedPlaces k a)
      (.selectionSet [markedField []]) (.selectionSet [markedField []]) := by
    have hfield : Grammatical .selectionSet (.selectionSet [markedField []]) :=
      .selectionSet (by simp) (List.forall_mem_singleton.mpr (grammatical_markedField (by simp)))
    exact hself (fun _ => .inl rfl) hfield.shaped.1.executable
  have hmarks {k : Kind} (hk : (k.base, Attribute.directives) ∈ directedPlaces)
      (horder : Sort.order? k .directives = some .name) :
      SameUpTo (Shuffled directedPlaces) (Shuffled directedPlaces k .directives)
        (.list (ns.map marks.mark)) (.list (ns'.map marks.mark)) := by
    refine .of_items (List.forall₂_same.mpr fun t ht => hself (fun _ => rfl) ?_)
      (.inr ⟨hk, hperm.map _, .name, horder, ?_⟩)
    · exact (grammatical_marks h t ht).shaped.1.executable
    · rw [List.map_map]
      refine hnodup.map fun m n hmn => ?_
      have hplace : Sort.place (some m) = Sort.place (some n) := (Prod.mk.inj (toLex.injective hmn)).2
      exact Option.some.inj (Sort.place_injective hplace)
  have hpair {t t' u u' : Tree} {k : Kind} {a : Attribute} (ht : SameUpTo (Shuffled directedPlaces) Eq t t')
      (hu : SameUpTo (Shuffled directedPlaces) Eq u u') :
      SameUpTo (Shuffled directedPlaces) (Shuffled directedPlaces k a) (.list [t, u]) (.list [t', u']) :=
    .of_items (.cons ht (.cons hu .nil)) (.inl rfl)
  refine .of_parts (.cons ⟨rfl, hpair ?_ ?_⟩ .nil)
  · refine .of_parts (.cons ⟨rfl, .atom rfl⟩ (.cons ⟨rfl, hname "Q"⟩
      (.cons ⟨rfl, .of_items .nil (.inl rfl)⟩ (.cons ⟨rfl, ?_⟩ .nil))))
    refine .of_parts (.cons ⟨rfl, hpair ?_ ?_⟩ .nil)
    · exact .of_parts (.cons ⟨rfl, hname "F"⟩ (.cons ⟨rfl, hmarks (by decide) rfl⟩ .nil))
    · exact .of_parts (.cons ⟨rfl, hmarks (by decide) rfl⟩ (.cons ⟨rfl, hset⟩ .nil))
  · exact .of_parts (.cons ⟨rfl, hname "F"⟩ (.cons ⟨rfl, .of_parts (.cons ⟨rfl, hname "T"⟩ .nil)⟩
      (.cons ⟨rfl, hmarks (by decide) rfl⟩ (.cons ⟨rfl, hset⟩ .nil))))

/-- Two directives in either order, at three places at once. -/
theorem ofOperation_of_redirected_fragments :
    WellFormed (markedFragments ["a", "b"]) ∧
      Redirected (markedFragments ["a", "b"]) (markedFragments ["b", "a"]) ∧
      ∃ s, ofOperation (markedFragments ["a", "b"]) "Q" false = .ok s ∧
        ofOperation (markedFragments ["b", "a"]) "Q" false = .ok s := by
  have hnames : ∀ n ∈ ["a", "b"], IsName n :=
    List.forall_mem_cons.mpr ⟨.of_toList rfl rfl rfl, List.forall_mem_singleton.mpr (.of_toList rfl rfl rfl)⟩
  have hd := wellFormed_markedFragments hnames
  have hredirected := redirected_markedFragments (.swap "b" "a" []) (by decide) hnames
  obtain ⟨hsame, hsome⟩ := ofOperation_of_redirected hd hredirected
  obtain ⟨s, hs⟩ := hsome "Q" false _ rfl ⟨_, List.mem_cons_self, rfl, rfl⟩
  exact ⟨hd, hredirected, s, hs, (hsame "Q" false).trans hs⟩

/-! ### Directives in their order -/

/-- A variable of whole numbers. -/
def markedVariable (onVariable : List String) : Tree := .ofOptions .variableDefinition
  [(.description, none), (.var, some (.var "x")), (.type, some (.namedType "Int")),
    (.defaultValue, none), (.directives, marks onVariable)]

/-- A query of one field that declares one variable. -/
def ordered (onQuery onVariable onField : List String) : Tree :=
  .document [markedQuery onQuery (some [markedVariable onVariable]) [markedField onField]]

theorem wellFormed_ordered {onQuery onVariable onField : List String} (hquery : ∀ n ∈ onQuery, IsName n)
    (hvariable : ∀ n ∈ onVariable, IsName n) (hfield : ∀ n ∈ onField, IsName n) :
    WellFormed (ordered onQuery onVariable onField) := by
  have hvar : Grammatical .variableDefinition (markedVariable onVariable) :=
    .variableDefinition (by simp) (.of_toList rfl rfl rfl) (.nullable (.named (.of_toList rfl rfl rfl)))
      (by simp) (grammatical_marks hvariable)
  have hdefinition : Grammatical .definition
      (markedQuery onQuery (some [markedVariable onVariable]) [markedField onField]) :=
    grammatical_markedQuery hquery (List.forall_mem_singleton.mpr hvar)
      (List.forall_mem_singleton.mpr (grammatical_markedField hfield)) (by simp)
  have hdefinitions : ∀ d ∈ (some [_]).getD [], Grammatical .definition d :=
    List.forall_mem_singleton.mpr hdefinition
  exact .document hdefinitions

/-- Two directives in either order, on an operation, a variable and a field: the signatures tell the
order. -/
theorem ofOperation_of_swapped_directives :
    WellFormed (ordered ["a", "b"] ["a", "b"] ["a", "b"]) ∧
    ofOperation (ordered ["a", "b"] ["a", "b"] ["a", "b"]) "Q" false
      = .ok "query Q($x:Int@a@b)@a@b{f@a@b}" ∧
    ofOperation (ordered ["b", "a"] ["a", "b"] ["a", "b"]) "Q" false
      = .ok "query Q($x:Int@a@b)@b@a{f@a@b}" ∧
    ofOperation (ordered ["a", "b"] ["b", "a"] ["a", "b"]) "Q" false
      = .ok "query Q($x:Int@b@a)@a@b{f@a@b}" ∧
    ofOperation (ordered ["a", "b"] ["a", "b"] ["b", "a"]) "Q" false
      = .ok "query Q($x:Int@a@b)@a@b{f@b@a}" := by
  have hnames : ∀ n ∈ ["a", "b"], IsName n :=
    List.forall_mem_cons.mpr ⟨.of_toList rfl rfl rfl, List.forall_mem_singleton.mpr (.of_toList rfl rfl rfl)⟩
  refine ⟨wellFormed_ordered hnames hnames hnames, ?_, ?_, ?_, ?_⟩ <;>
    exact eq_ok_of_toOption (by decide +kernel)

end PersistedOps.Signature

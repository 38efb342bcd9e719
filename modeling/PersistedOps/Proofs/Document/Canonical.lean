import PersistedOps.Proofs.Document.Parts
import PersistedOps.Proofs.Document.Typename

/-!
Type names after normalization, and nothing else changed. What the normalization gives is told by the
document without any type name: a document of canonical form with the same rest. So it does not matter
which type names were written, or whether it has been normalized before.
-/

namespace PersistedOps

namespace Typename

open PersistedOps.Attributes (mem_of_get? set_eq_map get?_of_mem get?_replaced)
open PersistedOps.Tree (Executable Inside Shaped)

/-! ### Without type names -/

/-- A field of the type name, under whatever alias. -/
def isTypename (t : Tree) : Bool :=
  t.kind? == some .field && t.nameOf.toOption == some (.text name)

mutual

/-- The tree without type names: every selection set loses its fields of that name, each with its whole
subtree. The flag tells whether a sequence is that of a selection set. -/
def erase (inSet : Bool) : Tree → Tree
  | .node k attributes => .node k (eraseAttributes (k == .selectionSet) attributes)
  | .list items => .list (eraseItems inSet items)
  | .dict entries => .dict entries
  | .scalar s => .scalar s
  | .operation o => .operation o

def eraseAttributes (inSet : Bool) : List (Attribute × Tree) → List (Attribute × Tree)
  | [] => []
  | (a, t) :: rest => (a, erase inSet t) :: eraseAttributes inSet rest

def eraseItems (inSet : Bool) : List Tree → List Tree
  | [] => []
  | t :: rest =>
    if inSet && isTypename t then eraseItems inSet rest
    else erase false t :: eraseItems inSet rest

end

/-- A document without type names. -/
def withoutTypenames (document : Tree) : Tree := erase false document

/-- A node as it is once type names are canonical: a field or definition with a selection set begins it
with the one type name, and an inline fragment has none. -/
structure Fits (d : Tree) : Prop where
  owner : ∀ k ∈ d.kind?, k ∈ [Kind.field, .fragmentDefinition, .operationDefinition] →
    ∀ set, d.get? .selectionSet = some set →
      ∃ rest, set = .selectionSet (field :: rest) ∧ ∀ s ∈ rest, isTypename s = false
  inline : d.kind? = some .inlineFragment → ∀ set, d.get? .selectionSet = some set →
    ∃ items, set = .selectionSet items ∧ ∀ s ∈ items, isTypename s = false

/-- Every node at any depth fits. -/
def Canonical (t : Tree) : Prop := ∀ d, Inside d t → Fits d

section

variable {k : Kind} {attributes : Attributes} {items : List Tree} {t : Tree} {inSet : Bool}

theorem eraseAttributes_eq_map (inSet : Bool) (attributes : Attributes) :
    eraseAttributes inSet attributes = attributes.map fun e => (e.1, erase inSet e.2) := by
  induction attributes with
  | nil => rfl
  | cons e attributes ih => rw [eraseAttributes, ih, List.map_cons]

theorem erase_selectionSet (items : List Tree) :
    erase inSet (.selectionSet items) = .selectionSet (eraseItems true items) := rfl

theorem attr_erase (inSet : Bool) (t : Tree) (a : Attribute) :
    (erase inSet t).attr a = (t.attr a).map (erase (t.kind? == some .selectionSet)) := by
  cases t with
  | node k attributes =>
      rw [erase, Tree.attr, Tree.attr, eraseAttributes_eq_map,
        Attributes.get?_map fun _ => erase (k == .selectionSet)]
      split
      · cases Attributes.get? attributes a <;> rfl
      · rfl
  | _ => rfl

/-- What a node is called is no matter of type names. -/
theorem nameOf_erase (inSet : Bool) (t : Tree) : (erase inSet t).nameOf = t.nameOf := by
  refine Tree.nameOf_congr (attr_erase inSet t .name) (fun name => attr_erase _ name .value) ?_
  intro name value s
  cases value <;> simp [erase]

theorem kind?_erase (inSet : Bool) (t : Tree) : (erase inSet t).kind? = t.kind? := by
  cases t <;> rfl

theorem isTypename_erase (inSet : Bool) (t : Tree) :
    isTypename (erase inSet t) = isTypename t := by
  rw [isTypename, isTypename, kind?_erase, nameOf_erase]

theorem erase_atom (h : t.isAtom) (inSet : Bool) : erase inSet t = t := by
  cases t <;> first | rfl | cases h

/-! ### Deleting -/

/-- Whether a selection is a type name can be told. -/
theorem isTypenameField_eq (h : Executable t) : isTypenameField t = .ok (isTypename t) := by
  have hother (hk : t.kind? ≠ some .field) : isTypenameField t = .ok (isTypename t) := by
    rw [isTypenameField, if_neg hk, isTypename, beq_eq_false_iff_ne.mpr hk]
    rfl
  by_cases hk : t.kind? = some .field
  · cases h with
    | list => cases hk
    | selectionSet => cases hk
    | node _ _ _ _ named _ =>
        obtain ⟨n, hn⟩ := named (Option.some.inj hk)
        rw [isTypename, hk, hn, isTypenameField, if_pos hk]
        obtain ⟨name, hname, hvalue⟩ := bind_eq_ok_iff.mp hn
        obtain ⟨value, hattr, htext⟩ := bind_eq_ok_iff.mp hvalue
        cases value with
        | scalar s =>
            cases htext
            rw [hname]
            show (do let v ← name.attr .value; return v == Tree.text Typename.name) = _
            rw [hattr]
            have hsame : (Tree.scalar (.text n) == Tree.text Typename.name) =
                (Scalar.text n == .text Typename.name) := by
              show Tree.beq _ _ = _
              rw [Tree.text, Tree.beq]
            show Except.ok (Tree.scalar (.text n) == Tree.text Typename.name) = _
            rw [hsame]
            simp [Except.toOption]
        | _ => cases htext
  · exact hother hk

theorem stripAttributes_eq_erase
    (hparts : ∀ e ∈ attributes, e.1 ∈ k.visited → strip e.2 = .ok (erase false e.2))
    (hatoms : ∀ e ∈ attributes, e.1 ∉ k.visited → e.2.isAtom) :
    stripAttributes k attributes = .ok (eraseAttributes false attributes) := by
  induction attributes with
  | nil => rfl
  | cons e attributes ih =>
      obtain ⟨hpart, hotherParts⟩ := List.forall_mem_cons.mp hparts
      obtain ⟨hatom, hotherAtoms⟩ := List.forall_mem_cons.mp hatoms
      obtain ⟨a, t⟩ := e
      rw [stripAttributes, eraseAttributes, ih hotherParts hotherAtoms]
      by_cases ha : a ∈ k.visited
      · rw [if_pos ha, hpart ha]
        rfl
      · rw [if_neg ha, erase_atom (hatom ha)]
        rfl

theorem stripItems_eq_erase (h : ∀ t ∈ items, Executable t)
    (hstrip : ∀ t ∈ items, strip t = .ok (erase false t)) :
    stripItems items = .ok (eraseItems false items) := by
  induction items with
  | nil => rfl
  | cons t items ih =>
      obtain ⟨ht, hrest⟩ := List.forall_mem_cons.mp h
      obtain ⟨hstrip, hstrips⟩ := List.forall_mem_cons.mp hstrip
      rw [stripItems, ht.not_isNull, hstrip, ih hrest hstrips]
      rfl

theorem stripSelections_eq_erase (h : ∀ t ∈ items, Executable t)
    (hstrip : ∀ t ∈ items, strip t = .ok (erase false t)) :
    stripSelections items = .ok (eraseItems true items) := by
  induction items with
  | nil => rfl
  | cons t items ih =>
      obtain ⟨ht, hrest⟩ := List.forall_mem_cons.mp h
      obtain ⟨hstrip, hstrips⟩ := List.forall_mem_cons.mp hstrip
      rw [stripSelections, isTypenameField_eq ht, eraseItems, ih hrest hstrips]
      cases htypename : isTypename t with
      | true => rfl
      | false =>
          rw [ht.not_isNull, hstrip]
          rfl

/-- The deletion deletes the type names, and nothing else. -/
theorem strip_eq_erase (h : Executable t) : strip t = .ok (erase false t) := by
  induction h with
  | @node k attributes other _ _ atoms _ _ ih =>
      have hflag : (k == .selectionSet) = false := beq_eq_false_iff_ne.mpr other
      rw [strip, stripAttributes_eq_erase ih atoms, erase, hflag]
      · rfl
      · exact other
  | @selectionSet items each ih =>
      have hstripped : stripSelectionSet [(.selections, .list items)] =
          .ok [(.selections, .list (eraseItems true items))] := by
        rw [stripSelectionSet, stripSelections_eq_erase each ih]
        rfl
      show strip (.node .selectionSet [(.selections, .list items)]) = .ok _
      rw [strip, hstripped]
      rfl
  | list each ih =>
      rw [strip, stripItems_eq_erase each ih]
      rfl

end

/-! ### Canonical nodes -/

section

variable {k : Kind} {attributes : Attributes} {items : List Tree} {t : Tree}

theorem canonical_node (hfits : Fits (.node k attributes))
    (h : ∀ e ∈ attributes, Canonical e.2) : Canonical (.node k attributes) := by
  intro d hd
  cases hd with
  | here => exact hfits
  | part mem inside => exact h _ mem d inside

theorem fits_list (items : List Tree) : Fits (.list items) := ⟨nofun, nofun⟩

theorem canonical_list (h : ∀ t ∈ items, Canonical t) : Canonical (.list items) := by
  intro d hd
  cases hd with
  | here => exact fits_list items
  | item mem inside => exact h _ mem d inside

theorem canonical_atom (h : t.isAtom) : Canonical t := by
  intro d hinside
  cases t with
  | scalar | operation =>
      cases hinside
      exact ⟨nofun, nofun⟩
  | _ => cases h

theorem fits_of_other
    (hk : k ∉ [Kind.field, .fragmentDefinition, .operationDefinition, .inlineFragment]) :
    Fits (.node k attributes) := by
  refine ⟨fun l hl howns => ?_, fun hl => ?_⟩
  · cases hl
    exact absurd howns (fun howns => hk (by simp_all))
  · cases hl
    exact absurd hk (by simp)

theorem canonical_selectionSet (h : ∀ t ∈ items, Canonical t) :
    Canonical (.selectionSet items) := by
  refine canonical_node (fits_of_other (by decide)) fun e he => ?_
  rw [List.mem_singleton.mp he]
  exact canonical_list h

/-- The fresh type name is a leaf. -/
theorem canonical_field : Canonical field := by
  have hname : Canonical (.node .name [(.value, .text name)]) := by
    refine canonical_node (fits_of_other (by decide)) fun e he => ?_
    rw [List.mem_singleton.mp he]
    exact canonical_atom rfl
  refine canonical_node ⟨fun l _ _ set hset => ?_, fun hk => ?_⟩ ?_
  · cases hset
  · cases hk
  · simp only [List.forall_mem_cons, List.not_mem_nil, false_imp_iff, implies_true, and_true]
    exact ⟨hname, canonical_list (by simp), canonical_list (by simp)⟩

theorem executable_field : Executable field := by
  have hname : Executable (.node .name [(.value, .text name)]) :=
    .node (by decide) (List.pairwise_singleton _ _) (by simp [Kind.visited, Kind.base])
      (by simp [Tree.isAtom, Tree.text]) nofun (by simp)
  refine .node (by decide) (by decide) ?_ (by decide) (fun _ => ⟨name, rfl⟩) (by simp)
  simp only [List.forall_mem_cons, List.not_mem_nil, false_imp_iff, implies_true, and_true]
  exact ⟨fun _ => hname, fun _ => .list (by simp), fun _ => .list (by simp)⟩

theorem isTypename_field : isTypename field = true := by decide

end

/-! ### Putting in front -/

/-- What the normalization makes of a tree. -/
structure Normal (t u : Tree) : Prop where
  revised : (erase false t).revise prepend = .ok u
  executable : Executable u
  canonical : Canonical u
  erased : erase false u = erase false t
  set : ∀ items, t = .selectionSet items →
    ∃ others, u = .selectionSet others ∧ ∀ s ∈ others, isTypename s = false

/-- What it makes of an attribute of a node. -/
inductive Renewed (k : Kind) : Attribute × Tree → Attribute × Tree → Prop
  | walked {a : Attribute} {t u : Tree} (ha : a ∈ k.visited) (h : Normal t u) :
      Renewed k (a, t) (a, u)
  | kept {a : Attribute} {t : Tree} (ha : a ∉ k.visited) (h : t.isAtom) : Renewed k (a, t) (a, t)

section

variable {k : Kind} {attributes renewed : Attributes} {items others : List Tree} {t u : Tree}
  {e e' : Attribute × Tree}

theorem Normal.isTypename_eq (h : Normal t u) : isTypename u = isTypename t := by
  rw [← isTypename_erase false u, h.erased, isTypename_erase]

theorem Renewed.key_eq (h : Renewed k e e') : e'.1 = e.1 := by cases h <;> rfl

theorem Renewed.erase_eq (h : Renewed k e e') : (e'.1, erase false e'.2) = (e.1, erase false e.2) := by
  cases h with
  | walked _ h => rw [h.erased]
  | kept => rfl

theorem Renewed.canonical (h : Renewed k e e') : Canonical e'.2 := by
  cases h with
  | walked _ h => exact h.canonical
  | kept _ h => exact canonical_atom h

theorem Renewed.executable (h : Renewed k e e') (ha : e'.1 ∈ k.visited) : Executable e'.2 := by
  cases h with
  | walked _ h => exact h.executable
  | kept hkept _ => exact absurd ha hkept

theorem Renewed.atom (h : Renewed k e e') (ha : e'.1 ∉ k.visited) : e'.2.isAtom := by
  cases h with
  | walked hwalked _ => exact absurd hwalked ha
  | kept _ h => exact h

/-- A selection set that is renewed has no type name itself. -/
theorem Renewed.set (h : Renewed k e e') (hset : ∃ items, e.2 = .selectionSet items) :
    ∃ others, e'.2 = .selectionSet others ∧ ∀ s ∈ others, isTypename s = false := by
  obtain ⟨items, hitems⟩ := hset
  cases h with
  | walked _ h => exact h.set items hitems
  | kept _ h =>
      obtain rfl : _ = Tree.selectionSet items := hitems
      cases h

theorem exists_renewed (hparts : ∀ e ∈ attributes, e.1 ∈ k.visited → ∃ u, Normal e.2 u)
    (hatoms : ∀ e ∈ attributes, e.1 ∉ k.visited → e.2.isAtom) :
    ∃ renewed, List.Forall₂ (Renewed k) attributes renewed := by
  induction attributes with
  | nil => exact ⟨[], .nil⟩
  | cons e attributes ih =>
      obtain ⟨hpart, hotherParts⟩ := List.forall_mem_cons.mp hparts
      obtain ⟨hatom, hotherAtoms⟩ := List.forall_mem_cons.mp hatoms
      obtain ⟨renewed, hrenewed⟩ := ih hotherParts hotherAtoms
      obtain ⟨a, t⟩ := e
      by_cases ha : a ∈ k.visited
      · obtain ⟨u, hu⟩ := hpart ha
        exact ⟨(a, u) :: renewed, .cons (.walked ha hu) hrenewed⟩
      · exact ⟨(a, t) :: renewed, .cons (.kept ha (hatom ha)) hrenewed⟩

theorem reviseAttributes_renewed (h : List.Forall₂ (Renewed k) attributes renewed) :
    Tree.reviseAttributes prepend k (eraseAttributes false attributes) = .ok renewed := by
  induction h with
  | nil => rfl
  | cons he _ ih =>
      cases he with
      | walked ha h =>
          rw [eraseAttributes, Tree.reviseAttributes, if_pos ha, h.revised, ih]
          rfl
      | kept ha h =>
          rw [eraseAttributes, Tree.reviseAttributes, if_neg ha, ih, erase_atom h]
          rfl

theorem eraseAttributes_renewed (h : List.Forall₂ (Renewed k) attributes renewed) :
    eraseAttributes false renewed = eraseAttributes false attributes := by
  rw [eraseAttributes_eq_map, eraseAttributes_eq_map]
  exact map_eq_of_forall₂ (h.imp fun _ _ he => he.erase_eq)

/-- What the items of a sequence become; those of a selection set are no type names. -/
structure NormalItems (inSet : Bool) (items others : List Tree) : Prop where
  revised : Tree.reviseItems prepend (eraseItems inSet items) = .ok others
  executable : ∀ u ∈ others, Executable u
  canonical : ∀ u ∈ others, Canonical u
  erased : eraseItems inSet others = eraseItems inSet items
  others : inSet = true → ∀ u ∈ others, isTypename u = false

theorem exists_normalItems (hnormal : ∀ t ∈ items, ∃ u, Normal t u) (inSet : Bool) :
    ∃ others, NormalItems inSet items others := by
  induction items with
  | nil => exact ⟨[], rfl, by simp, by simp, rfl, by simp⟩
  | cons t items ih =>
      obtain ⟨⟨u, hu⟩, hrest⟩ := List.forall_mem_cons.mp hnormal
      obtain ⟨others, hothers⟩ := ih hrest
      by_cases hdeleted : (inSet && isTypename t) = true
      · refine ⟨others, ?_, hothers.executable, hothers.canonical, ?_, hothers.others⟩
        · rw [eraseItems, if_pos hdeleted]
          exact hothers.revised
        · rw [eraseItems, if_pos hdeleted]
          exact hothers.erased
      · have hnull : (erase false t).isNull = false := by
          rw [← hu.erased]
          cases hu.executable <;> rfl
        have hkept : ¬(inSet && isTypename u) = true := by rwa [hu.isTypename_eq]
        refine ⟨u :: others, ?_, List.forall_mem_cons.mpr ⟨hu.executable, hothers.executable⟩,
          List.forall_mem_cons.mpr ⟨hu.canonical, hothers.canonical⟩, ?_, fun hin => ?_⟩
        · rw [eraseItems, if_neg hdeleted, Tree.reviseItems, hnull, hu.revised, hothers.revised]
          rfl
        · rw [eraseItems, eraseItems, if_neg hdeleted, if_neg hkept, hu.erased, hothers.erased]
        · refine List.forall_mem_cons.mpr ⟨?_, hothers.others hin⟩
          rw [hin, Bool.true_and, Bool.not_eq_true] at hkept
          exact hkept

theorem exists_normal_selectionSet (hnormal : ∀ t ∈ items, ∃ u, Normal t u) :
    ∃ u, Normal (.selectionSet items) u := by
  obtain ⟨others, h⟩ := exists_normalItems hnormal true
  refine ⟨.selectionSet others, ?_, .selectionSet h.executable, canonical_selectionSet h.canonical,
    ?_, ?_⟩
  · rw [erase_selectionSet]
    show Tree.revise prepend (.node .selectionSet [(.selections, .list (eraseItems true items))]) = _
    rw [Tree.revise, Tree.reviseAttributes, if_pos (by decide), Tree.revise, h.revised]
    rfl
  · rw [erase_selectionSet, erase_selectionSet, h.erased]
  · rintro _ ⟨⟩
    exact ⟨others, rfl, h.others rfl⟩

theorem exists_normal_list (hnormal : ∀ t ∈ items, ∃ u, Normal t u) :
    ∃ u, Normal (.list items) u := by
  obtain ⟨others, h⟩ := exists_normalItems hnormal false
  refine ⟨.list others, ?_, .list h.executable, canonical_list h.canonical, ?_, nofun⟩
  · rw [erase, Tree.revise, h.revised]
    rfl
  · rw [erase, erase, h.erased]

/-! ### Nodes -/

/-- What the normalization leaves of a node's attributes, a type name in front or not. -/
structure NormalAttributes (k : Kind) (attributes others : Attributes) : Prop where
  order : others.Pairwise fun e f => e.1.rank < f.1.rank
  parts : ∀ e ∈ others, e.1 ∈ k.visited → Executable e.2
  atoms : ∀ e ∈ others, e.1 ∉ k.visited → e.2.isAtom
  sets : ∀ e ∈ others, e.1 = .selectionSet → ∃ items, e.2 = .selectionSet items
  canonical : ∀ e ∈ others, Canonical e.2
  erased : eraseAttributes false others = eraseAttributes false attributes

theorem NormalAttributes.normal {others : Attributes} (h : NormalAttributes k attributes others)
    (other : k ≠ .selectionSet)
    (named : k = .field → ∃ n, Tree.nameOf (.node k attributes) = .ok (.text n))
    (hrevised : (erase false (.node k attributes)).revise prepend = .ok (.node k others))
    (hfits : Fits (.node k others)) : Normal (.node k attributes) (.node k others) := by
  have hsame : erase false (.node k others) = erase false (.node k attributes) := by
    rw [erase, erase, beq_eq_false_iff_ne.mpr other, h.erased]
  refine ⟨hrevised, .node other h.order h.parts h.atoms (fun hk => ?_) h.sets,
    canonical_node hfits h.canonical, hsame, fun items hitems => ?_⟩
  · obtain ⟨n, hn⟩ := named hk
    refine ⟨n, ?_⟩
    rw [← nameOf_erase false, hsame, nameOf_erase, hn]
  · exact absurd (congrArg Tree.kind? hitems) (fun hk => other (Option.some.inj hk))

theorem normalAttributes_renewed (h : List.Forall₂ (Renewed k) attributes renewed)
    (order : attributes.Pairwise fun e f => e.1.rank < f.1.rank)
    (sets : ∀ e ∈ renewed, e.1 = .selectionSet → ∃ items, e.2 = .selectionSet items) :
    NormalAttributes k attributes renewed := by
  have hkeys : renewed.map (·.1) = attributes.map (·.1) :=
    map_eq_of_forall₂ (h.imp fun _ _ he => he.key_eq)
  have hranks : (attributes.map (·.1)).Pairwise fun a b => a.rank < b.rank :=
    List.pairwise_map.mpr order
  rw [← hkeys, List.pairwise_map] at hranks
  have heach : ∀ e' ∈ renewed, ∃ e, Renewed k e e' := by
    intro e' he'
    obtain ⟨e, -, he⟩ := exists_of_mem_left h.flip he'
    exact ⟨e, he⟩
  refine ⟨hranks, fun e' he' => ?_, fun e' he' => ?_, sets, fun e' he' => ?_,
    eraseAttributes_renewed h⟩
  all_goals obtain ⟨e, he⟩ := heach e' he'
  · exact he.executable
  · exact he.atom
  · exact he.canonical

theorem executable_of_mem (h : Executable (.selectionSet items)) : ∀ t ∈ items, Executable t := by
  cases h with
  | node other => exact absurd rfl other
  | selectionSet each => exact each

theorem canonical_of_mem (h : Canonical (.selectionSet items)) : ∀ t ∈ items, Canonical t :=
  fun _ ht d hd => h d (.part (List.mem_singleton_self _) (.item ht hd))

/-- A selection set behind a fresh type name. -/
theorem canonical_front (h : Canonical (.selectionSet items)) :
    Canonical (.selectionSet (field :: items)) :=
  canonical_selectionSet (List.forall_mem_cons.mpr ⟨canonical_field, canonical_of_mem h⟩)

theorem executable_front (h : Executable (.selectionSet items)) :
    Executable (.selectionSet (field :: items)) :=
  .selectionSet (List.forall_mem_cons.mpr ⟨executable_field, executable_of_mem h⟩)

theorem erase_front (items : List Tree) :
    erase false (.selectionSet (field :: items)) = erase false (.selectionSet items) := by
  rw [erase_selectionSet, erase_selectionSet, eraseItems, isTypename_field]
  rfl

theorem owns_iff : owns k = true ↔ k ∈ [Kind.field, .fragmentDefinition, .operationDefinition] := by
  cases k <;> decide

/-- A node that has no selection set in front of which a type name belongs stays. -/
theorem prepend_eq_self (h : owns k = true → Attributes.get? attributes .selectionSet = none) :
    prepend (.node k attributes) = .ok (.node k attributes) := by
  rw [prepend]
  split
  · rename_i howns
    rw [h howns]
  · rfl

/-- An attribute with a type name in front of the selections, if these are its value. -/
def inFront (items : List Tree) (e : Attribute × Tree) : Attribute × Tree :=
  if e.1 = .selectionSet then (.selectionSet, .selectionSet (field :: items)) else e

theorem inFront_key (items : List Tree) (e : Attribute × Tree) : (inFront items e).1 = e.1 := by
  by_cases ha : e.1 = .selectionSet
  · simp [inFront, ha]
  · simp [inFront, ha]

/-- A type name is put in front of an owner's selections. -/
theorem prepend_eq_map (howns : owns k = true)
    (order : attributes.Pairwise fun e f => e.1.rank < f.1.rank)
    (h : Attributes.get? attributes .selectionSet = some (.selectionSet items)) :
    prepend (.node k attributes) = .ok (.node k (attributes.map (inFront items))) := by
  have hset : Attributes.set attributes .selectionSet (.selectionSet (field :: items)) =
      attributes.map (inFront items) := set_eq_map order h rfl
  rw [prepend, if_pos howns, h, ← hset]
  rfl

theorem forall_inFront {P : Attribute × Tree → Prop} (h : ∀ e ∈ attributes, P e)
    (hset : P (.selectionSet, .selectionSet (field :: items))) :
    ∀ e ∈ attributes.map (inFront items), P e := by
  intro e he
  obtain ⟨old, hold, rfl⟩ := List.mem_map.mp he
  by_cases ha : old.1 = .selectionSet
  · simpa [inFront, ha] using hset
  · simpa [inFront, ha] using h old hold

theorem NormalAttributes.front {others : Attributes} (h : NormalAttributes k attributes others)
    (howns : owns k = true) (hset : Attributes.get? others .selectionSet = some (.selectionSet items)) :
    NormalAttributes k attributes (others.map (inFront items)) := by
  have hmem := mem_of_get? hset
  have hvisited : .selectionSet ∈ k.visited := by
    have hk := owns_iff.mp howns
    simp only [List.mem_cons, List.not_mem_nil, or_false] at hk
    rcases hk with rfl | rfl | rfl <;> decide
  -- The erasure does not see the type name in front.
  have hagain : eraseAttributes false (others.map (inFront items)) = eraseAttributes false others := by
    rw [eraseAttributes_eq_map, eraseAttributes_eq_map, List.map_map]
    refine List.map_congr_left fun e he => ?_
    obtain ⟨a, t⟩ := e
    by_cases ha : a = .selectionSet
    · subst ha
      cases (get?_of_mem h.order he).symm.trans hset
      simp [inFront, erase_front]
    · simp [inFront, ha]
  exact {
    order := List.pairwise_map.mpr (h.order.imp fun hrank => by rwa [inFront_key, inFront_key])
    parts := forall_inFront h.parts fun _ => executable_front (h.parts _ hmem hvisited)
    atoms := forall_inFront h.atoms fun hnot => absurd hvisited hnot
    sets := forall_inFront h.sets fun _ => ⟨_, rfl⟩
    canonical := forall_inFront h.canonical (canonical_front (h.canonical _ hmem))
    erased := hagain.trans h.erased }

theorem exists_normal_node (other : k ≠ .selectionSet)
    (order : attributes.Pairwise fun e f => e.1.rank < f.1.rank)
    (parts : ∀ e ∈ attributes, e.1 ∈ k.visited → ∃ u, Normal e.2 u)
    (atoms : ∀ e ∈ attributes, e.1 ∉ k.visited → e.2.isAtom)
    (named : k = .field → ∃ n, Tree.nameOf (.node k attributes) = .ok (.text n))
    (sets : ∀ e ∈ attributes, e.1 = .selectionSet → ∃ items, e.2 = .selectionSet items) :
    ∃ u, Normal (.node k attributes) u := by
  obtain ⟨renewed, h⟩ := exists_renewed parts atoms
  have hrevised : (erase false (.node k attributes)).revise prepend = prepend (.node k renewed) := by
    rw [erase, beq_eq_false_iff_ne.mpr other, Tree.revise, reviseAttributes_renewed h]
    rfl
  have hsets : ∀ e ∈ renewed, e.1 = .selectionSet →
      ∃ others, e.2 = .selectionSet others ∧ ∀ s ∈ others, isTypename s = false := by
    intro e' he' ha
    obtain ⟨e, he, hrenewed⟩ := exists_of_mem_left h.flip he'
    exact hrenewed.set (sets e he (hrenewed.key_eq ▸ ha))
  have hnormal : NormalAttributes k attributes renewed :=
    normalAttributes_renewed h order fun e he ha => (hsets e he ha).imp fun _ h => h.1
  -- The field is put in front of the selections, if the node has some of its own.
  by_cases hfront : owns k = true ∧ (Attributes.get? renewed .selectionSet).isSome
  · obtain ⟨howns, hsome⟩ := hfront
    obtain ⟨set, hset⟩ := Option.isSome_iff_exists.mp hsome
    obtain ⟨others, rfl, hclean⟩ := hsets _ (mem_of_get? hset) rfl
    have hfits : Fits (.node k (renewed.map (inFront others))) := by
      refine ⟨fun l _ _ set hget => ?_, fun hk => ?_⟩
      · have hfound : some set = (Attributes.get? renewed .selectionSet).map fun _ =>
            .selectionSet (field :: others) := hget.symm.trans (get?_replaced _ _)
        rw [hset] at hfound
        cases hfound
        exact ⟨others, rfl, hclean⟩
      · cases hk
        cases howns
    exact ⟨_, (hnormal.front howns hset).normal other named
      (hrevised.trans (prepend_eq_map howns hnormal.order hset)) hfits⟩
  · have hnone (howns : owns k = true) : Attributes.get? renewed .selectionSet = none := by
      by_contra hsome
      exact hfront ⟨howns, Option.isSome_iff_ne_none.mpr hsome⟩
    have hfits : Fits (.node k renewed) := by
      refine ⟨fun l hl hmem set hset => ?_, fun _ set hset => hsets _ (mem_of_get? hset) rfl⟩
      cases hl
      cases (hnone (owns_iff.mpr hmem)).symm.trans hset
    exact ⟨_, hnormal.normal other named (hrevised.trans (prepend_eq_self hnone)) hfits⟩

/-- Every tree of an executable document can be normalized. -/
theorem exists_normal (h : Executable t) : ∃ u, Normal t u := by
  induction h with
  | node other order _ atoms named sets ih =>
      exact exists_normal_node other order ih atoms named sets
  | selectionSet _ ih => exact exists_normal_selectionSet ih
  | list _ ih => exact exists_normal_list ih

theorem Normal.add_eq (h : Executable t) (hu : Normal t u) : add t = .ok u := by
  rw [add, strip_eq_erase h]
  exact hu.revised

/-! ### Normalizing documents -/

/-- After normalization every field and definition that has a selection set begins it with the one type
name, bare, and no inline fragment has one; and all that is not a type name is there as it was. -/
theorem add_canonical (h : Executable t) : ∃ u, add t = .ok u ∧ Canonical u ∧
    withoutTypenames u = withoutTypenames t := by
  obtain ⟨u, hu⟩ := exists_normal h
  exact ⟨u, hu.add_eq h, hu.canonical, hu.erased⟩

/-- A field without arguments, directives or selections. -/
def leaf (label : Option String) (n : String) : Tree := .ofOptions .field
  [(.aliasName, label.map .name), (.name, some (.name n)),
    (.arguments, (none : Option (List Tree)).map .list),
    (.directives, (none : Option (List Tree)).map .list), (.selectionSet, none)]

def inlineFragment (items : List Tree) : Tree := .ofOptions .inlineFragment
  [(.typeCondition, (none : Option String).map .namedType),
    (.directives, (none : Option (List Tree)).map .list), (.selectionSet, some (.selectionSet items))]

/-- A document of one query without a name. -/
def queryDocument (items : List Tree) : Tree := .ofOptions .document
  [(.definitions, (some [Tree.ofOptions .operationDefinition
    [(.description, none), (.operation, some (.operation .query)),
      (.name, (none : Option String).map .name),
      (.variableDefinitions, (none : Option (List Tree)).map .list),
      (.directives, (none : Option (List Tree)).map .list),
      (.selectionSet, some (.selectionSet items))]]).map .list)]

theorem shaped_leaf (label : Option String) (n : String) : Shaped false (leaf label n) := by
  refine Tree.shaped_ofOptions _ (by decide) rfl
    ⟨Tree.part_names (by decide) (by decide) Tree.shaped_name label,
      Tree.part_one (by decide) (by decide) (Tree.shaped_name n),
      Tree.part_list (by decide) (by decide) (by simp),
      Tree.part_list (by decide) (by decide) (by simp), Tree.part_set (by decide) (by simp)⟩
    fun _ => ⟨n, ?_⟩
  cases label <;> rfl

theorem shaped_inlineFragment (h : ∀ t ∈ items, Shaped false t) :
    Shaped false (inlineFragment items) :=
  Tree.shaped_ofOptions _ (by decide) rfl
    ⟨Tree.part_names (by decide) (by decide) Tree.shaped_namedType none,
      Tree.part_list (by decide) (by decide) (by simp),
      Tree.part_set (by decide) (by simpa using Tree.shaped_selectionSet h)⟩ nofun

theorem executable_queryDocument (h : ∀ t ∈ items, Shaped false t) :
    Executable (queryDocument items) := by
  suffices hshaped : Shaped false (queryDocument items) from hshaped.executable
  refine Tree.shaped_ofOptions _ (by decide) rfl (Tree.part_list (by decide) (by decide) ?_) nofun
  rw [Option.getD_some, List.forall_mem_singleton]
  exact Tree.shaped_ofOptions _ (by decide) rfl
    ⟨Tree.part_option (by decide) (by decide) (by simp),
      Tree.part_atom (by decide) (by decide) (by simp [Tree.isAtom]),
      Tree.part_names (by decide) (by decide) Tree.shaped_name none,
      Tree.part_list (by decide) (by decide) (by simp),
      Tree.part_list (by decide) (by decide) (by simp),
      Tree.part_set (by decide) (by simpa using Tree.shaped_selectionSet h)⟩ nofun

/-- A query that asks for the type name under an alias, and inside an inline fragment. -/
theorem add_canonical_query :
    let document := queryDocument [leaf (some "kind") name,
      inlineFragment [leaf none name, leaf none "id"]]
    Executable document ∧ ∃ u, add document = .ok u ∧ Canonical u ∧
      withoutTypenames u = queryDocument [inlineFragment [leaf none "id"]] := by
  intro document
  have hdocument : Executable document := by
    refine executable_queryDocument ?_
    simp only [List.forall_mem_cons, List.not_mem_nil, false_imp_iff, implies_true, and_true]
    refine ⟨shaped_leaf _ _, shaped_inlineFragment ?_⟩
    simp [shaped_leaf]
  obtain ⟨u, hu, hcanonical, hsame⟩ := add_canonical hdocument
  exact ⟨hdocument, u, hu, hcanonical, hsame.trans rfl⟩

/-- Documents that are equal without their type names are normalized to one document, which is
normalized to itself. -/
theorem add_absorbs {t' : Tree} (h : Executable t) (h' : Executable t')
    (hsame : withoutTypenames t = withoutTypenames t') :
    ∃ u, add t = .ok u ∧ add t' = .ok u ∧ add u = .ok u := by
  obtain ⟨u, hu⟩ := exists_normal h
  have hrevised : (erase false t).revise prepend = .ok u := hu.revised
  refine ⟨u, hu.add_eq h, ?_, ?_⟩
  · rw [add, strip_eq_erase h']
    show (withoutTypenames t').revise prepend = .ok u
    rw [← hsame]
    exact hrevised
  · rw [add, strip_eq_erase hu.executable, hu.erased]
    exact hrevised

/-- A query that holds nothing but type names inside an inline fragment, and one without any. -/
theorem add_absorbs_query :
    let document := queryDocument [leaf none "id",
      inlineFragment [leaf (some "kind") name, leaf none name]]
    let other := queryDocument [leaf none name, leaf none "id", inlineFragment []]
    Executable document ∧ Executable other ∧ withoutTypenames document = withoutTypenames other ∧
      ∃ u, add document = .ok u ∧ add other = .ok u ∧ add u = .ok u := by
  intro document other
  have hdocument : Executable document := by
    refine executable_queryDocument ?_
    simp only [List.forall_mem_cons, List.not_mem_nil, false_imp_iff, implies_true, and_true]
    refine ⟨shaped_leaf _ _, shaped_inlineFragment ?_⟩
    simp [shaped_leaf]
  have hother : Executable other := by
    refine executable_queryDocument ?_
    simp only [List.forall_mem_cons, List.not_mem_nil, false_imp_iff, implies_true, and_true]
    exact ⟨shaped_leaf _ _, shaped_leaf _ _, shaped_inlineFragment (by simp)⟩
  have hsame : withoutTypenames document = withoutTypenames other := rfl
  exact ⟨hdocument, hother, hsame, add_absorbs hdocument hother hsame⟩

end

end Typename

end PersistedOps

import PersistedOps.Document.Signature
import PersistedOps.Proofs.Document.Closure
import PersistedOps.Proofs.Document.Revision

/-!
Definitions that closing cannot tell apart. Closing an operation looks at the kinds and names of
definitions and at what they spread, in whatever order; so it keeps the same definitions of lists that
agree in these one by one, and what is kept is related as before.
-/

namespace PersistedOps

open PersistedOps.Merged (spreadsFrom spreadsOf_eq text_of_mem_spreadsFrom)

variable {k : Kind} {n : Option String} {d d' : Tree} {ds ds' : List Tree}
  {R : Tree → Tree → Prop}

/-- A definition and one of its kind and name that spreads the same names, each as often. -/
structure Alike (d d' : Tree) : Prop where
  signable : ∃ k n, SignableDefinition k n d
  kind : d'.kind? = d.kind?
  name : d'.nameOf = d.nameOf
  key : Separate.keyOf d' = Separate.keyOf d
  spreads : ∃ names, Separate.spreadsOf d' = .ok names ∧ (spreadsFrom d).Perm names

theorem SignableDefinition.attr_name (h : SignableDefinition k n d) :
    d.attr .name = .ok ((n.map Tree.name).getD .null) := by
  have hname := h.get?_name
  cases h with
  | operation | fragment =>
      rw [Tree.ofOptions_eq, Tree.get?] at hname
      rw [Tree.ofOptions_eq, Tree.attr, if_pos (by decide), hname]

/-- Definitions of one name are called the same, also when they have none. -/
theorem SignableDefinition.nameOf_congr (h : SignableDefinition k n d)
    (h' : SignableDefinition k n d') : d'.nameOf = d.nameOf := by
  rw [Tree.nameOf, Tree.nameOf, h.attr_name, h'.attr_name]

namespace Separate

/-! ### Names that are reached -/

/-- The same texts in any order. -/
def SameTexts (names names' : List Scalar) : Prop :=
  (∀ s ∈ names, ∃ n, s = .text n) ∧ names.Perm names'

theorem SameTexts.symm {names names' : List Scalar} (h : SameTexts names names') :
    SameTexts names' names :=
  ⟨fun s hs => h.1 s (h.2.symm.subset hs), h.2.symm⟩

/-- Names of fragments with the same spreads. -/
abbrev SameGraph (g g' : SpreadGraph) : Prop := Entries.Related SameTexts g g'

theorem sameGraph_symm {g g' : SpreadGraph} (h : SameGraph g g') : SameGraph g' g :=
  h.flip.imp fun _ _ he => ⟨he.1.symm, he.2.symm⟩

theorem follows_of_sameGraph {g g' : SpreadGraph} {start start' : List Scalar} {s : Scalar}
    (hg : SameGraph g g') (hstart : start.Perm start') (h : Follows g start s) :
    Follows g' start' s := by
  induction h with
  | start h => exact .start (hstart.subset h)
  | next _ found mem ih =>
      obtain ⟨l, hl, -, hperm⟩ := hg.exists_get? found
      exact .next ih hl (hperm.subset mem)

/-- The same spreads lead to the same names. -/
theorem mem_reach_congr {g g' : SpreadGraph} {start start' : List Scalar} (hg : SameGraph g g')
    (hstart : SameTexts start start') (s : Scalar) : s ∈ reach g start ↔ s ∈ reach g' start' := by
  have htexts : ∀ {g g' : SpreadGraph}, SameGraph g g' → ∀ e ∈ g, ∀ s ∈ e.2, ∃ n, s = .text n := by
    intro g g' h e he
    obtain ⟨e', -, -, htexts, -⟩ := exists_of_mem_left h he
    exact htexts
  rw [mem_reach_iff (htexts hg) hstart.1, mem_reach_iff (htexts (sameGraph_symm hg)) hstart.symm.1]
  exact ⟨follows_of_sameGraph hg hstart.2, follows_of_sameGraph (sameGraph_symm hg) hstart.symm.2⟩

theorem isFragmentIn_eq (h : SignableDefinition k n d) (names : List Scalar) :
    isFragmentIn names d = .ok (belongs names d) := by
  have hok : ∃ b, isFragmentIn names d = .ok b := by
    rw [isFragmentIn, h.kind_eq]
    split
    · rename_i hk
      obtain rfl := Option.some.inj hk
      obtain ⟨m, rfl⟩ : ∃ m, n = some m := by
        cases h
        exact ⟨_, rfl⟩
      rw [h.nameOf_eq]
      exact ⟨_, rfl⟩
    · exact ⟨_, rfl⟩
  obtain ⟨b, hb⟩ := hok
  rw [belongs, hb]
  rfl

theorem keyOf_eq (h : SignableDefinition k n d) : keyOf d = .ok (.text (n.getD "")) := by
  rw [keyOf, h.get?_name]
  cases n with
  | none => rfl
  | some n => exact (if_neg (by simp)).trans h.nameOf_eq

/-! ### Closing -/

/-- Documents whose definitions are related one by one. -/
def DocumentsOf (R : Tree → Tree → Prop) (t u : Tree) : Prop :=
  ∃ ds ds', t = .document ds ∧ u = .document ds' ∧ List.Forall₂ R ds ds'

theorem sameTexts_of_alike (h : Alike d d') :
    ∃ names', spreadsOf d = .ok (spreadsFrom d) ∧ spreadsOf d' = .ok names' ∧
      SameTexts (spreadsFrom d) names' := by
  obtain ⟨k, n, hd⟩ := h.signable
  obtain ⟨names', hnames', hperm⟩ := h.spreads
  exact ⟨names', spreadsOf_eq hd.exists_spreadsOf, hnames',
    text_of_mem_spreadsFrom hd.exists_spreadsOf, hperm⟩

theorem isFragmentIn_congr {names names' : List Scalar} (h : Alike d d')
    (hnames : ∀ s, s ∈ names ↔ s ∈ names') : isFragmentIn names' d' = isFragmentIn names d := by
  have hany : ∀ p : Scalar → Bool, names'.any p = names.any p := by
    intro p
    rw [Bool.eq_iff_iff, List.any_eq_true, List.any_eq_true]
    simp only [hnames]
  rw [isFragmentIn, isFragmentIn, h.kind, h.name]
  simp only [hany]

theorem forall₂_zipIdx (h : List.Forall₂ R ds ds') (i : Nat) :
    List.Forall₂ (fun e e' => R e.1 e'.1 ∧ e.2 = e'.2) (ds.zipIdx i) (ds'.zipIdx i) := by
  induction h generalizing i with
  | nil => exact .nil
  | cons hd _ ih =>
      rw [List.zipIdx_cons, List.zipIdx_cons]
      exact .cons ⟨hd, rfl⟩ (ih (i + 1))

section

variable (hR : ∀ {d d'}, R d d' → Alike d d')

include hR

theorem exists_graph_of_alike (h : List.Forall₂ R ds ds') :
    ∃ g g', graph ds = .ok g ∧ graph ds' = .ok g' ∧ SameGraph g g' := by
  refine exists_foldlM_related (fun {d d' g g'} hd hg => ?_) h .nil
  have halike := hR hd
  obtain ⟨k, n, hdefinition⟩ := halike.signable
  obtain ⟨names', hspreads, hspreads', htexts⟩ := sameTexts_of_alike halike
  rw [halike.kind, hdefinition.kind_eq]
  by_cases hk : k = .fragmentDefinition
  · subst hk
    obtain ⟨m, rfl⟩ : ∃ m, n = some m := by
      cases hdefinition
      exact ⟨_, rfl⟩
    rw [if_pos rfl, if_pos rfl, halike.name, hdefinition.nameOf_eq, hspreads, hspreads']
    exact ⟨_, _, rfl, rfl, hg.put htexts⟩
  · have hne : ¬some k = some Kind.fragmentDefinition := fun heq => hk (Option.some.inj heq)
    rw [if_neg hne, if_neg hne]
    exact ⟨_, _, rfl, rfl, hg⟩

/-- Closing related definitions keeps them related. -/
theorem exists_closure_of_alike {names names' : List Scalar} (h : List.Forall₂ R ds ds')
    (hnames : ∀ s, s ∈ names ↔ s ∈ names') (i : Nat) :
    ∃ closed closed', closure names i ds.zipIdx = .ok closed ∧
      closure names' i ds'.zipIdx = .ok closed' ∧ List.Forall₂ R closed closed' := by
  have hnumbered := forall₂_zipIdx h 0
  have hleft : ∀ e ∈ ds.zipIdx, isFragmentIn names e.1 = .ok (belongs names e.1) := by
    intro e he
    obtain ⟨e', -, hpair⟩ := exists_of_mem_left hnumbered he
    obtain ⟨k, n, hdefinition⟩ := (hR hpair.1).signable
    exact isFragmentIn_eq hdefinition names
  have hright : ∀ e ∈ ds'.zipIdx, isFragmentIn names' e.1 = .ok (belongs names' e.1) := by
    intro e he
    obtain ⟨e', hmem, hpair⟩ := exists_of_mem_left hnumbered.flip he
    rw [belongs, isFragmentIn_congr (hR hpair.1) hnames, hleft e' hmem]
    rfl
  refine ⟨_, _, closure_eq hleft, closure_eq hright, ?_⟩
  rw [List.forall₂_map_left_iff, List.forall₂_map_right_iff]
  refine (List.rel_filter (fun e e' he => ?_) hnumbered).imp fun _ _ he => he.1
  show (decide (e.2 = i) || belongs names e.1) = true ↔
    (decide (e'.2 = i) || belongs names' e'.1) = true
  rw [he.2, belongs, belongs, isFragmentIn_congr (hR he.1) hnames]

theorem forall₂_operations_of_alike (h : List.Forall₂ R ds ds') :
    List.Forall₂ (fun e e' => R e.1 e'.1 ∧ e.2 = e'.2)
      (ds.zipIdx.filter fun e => e.1.kind? = some .operationDefinition)
      (ds'.zipIdx.filter fun e => e.1.kind? = some .operationDefinition) := by
  refine List.rel_filter (fun e e' he => ?_) (forall₂_zipIdx h 0)
  show decide (e.1.kind? = some .operationDefinition) = true
    ↔ decide (e'.1.kind? = some .operationDefinition) = true
  rw [(hR he.1).kind]

/-- Separation closes each operation of related definitions over the same names. -/
theorem exists_ofDocument_of_alike (h : List.Forall₂ R ds ds') :
    ∃ separated separated', ofDocument (.document ds) = .ok separated ∧
      ofDocument (.document ds') = .ok separated' ∧
      Entries.Related (DocumentsOf R) separated separated' := by
  obtain ⟨g, g', hg, hg', hgraph⟩ := exists_graph_of_alike hR h
  rw [ofDocument, ofDocument, definitions_document, definitions_document]
  simp only [bind, Except.bind, hg, hg']
  refine exists_foldlM_related (fun {e e' acc acc'} he hacc => ?_)
    (forall₂_operations_of_alike hR h) .nil
  have halike := hR he.1
  obtain ⟨k, n, hdefinition⟩ := halike.signable
  obtain ⟨names', hspreads, hspreads', htexts⟩ := sameTexts_of_alike halike
  have hnames := mem_reach_congr hgraph htexts
  obtain ⟨closed, closed', hclosed, hclosed', hrelated⟩ := exists_closure_of_alike hR h hnames e.2
  rw [he.2] at hclosed'
  simp only [hspreads, hspreads', halike.key, keyOf_eq hdefinition, hclosed, hclosed']
  exact ⟨_, _, rfl, rfl, hacc.put ⟨_, _, rfl, rfl, hrelated⟩⟩

end

end Separate

end PersistedOps

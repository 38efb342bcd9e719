import PersistedOps.Document.Separate
import PersistedOps.Proofs.Document.Revision
import PersistedOps.Proofs.Entries

/-!
Separation of merged definitions. The closed document of an operation holds the operation and the
fragments it reaches: those whose names it spreads, or whose names a fragment it reaches spreads.
-/

namespace PersistedOps

open PersistedOps.Tree (Walks Lifted Spreading Holds)

/-! ### Spreads of constructs -/

section

variable {c : Category} {k : Kind} {n : Option String} {t : Tree} {ts : List Tree}

theorem spreading_name (n : String) : Spreading (.name n) := ⟨[], rfl⟩

theorem spreading_namedType (n : String) : Spreading (.namedType n) := ⟨[], rfl⟩

/-- Where every part stays and its spreads are texts, they are texts of the whole. -/
theorem holds_of_walks {es es' : List (Attribute × Option Tree)}
    (h : Walks (fun t u => u = t ∧ Spreading t) k es es') :
    es' = es ∧ es.Forall fun e => e.1 ∈ k.visited → Holds Spreading e.2 := by
  induction h with
  | nil => exact ⟨rfl, trivial⟩
  | walked ha h _ ih =>
      obtain ⟨rfl, hes⟩ := ih
      cases h with
      | none => exact ⟨rfl, (List.forall_cons ..).mpr ⟨fun _ => .none, hes⟩⟩
      | one h =>
          obtain ⟨rfl, ht⟩ := h
          exact ⟨rfl, (List.forall_cons ..).mpr ⟨fun _ => .one ht, hes⟩⟩
      | @list ts us h =>
          obtain ⟨rfl, hts⟩ : us = ts ∧ ∀ t ∈ ts, Spreading t := by
            induction h with
            | nil => exact ⟨rfl, by simp⟩
            | cons h _ ih =>
                obtain ⟨rfl, ht⟩ := h
                obtain ⟨rfl, hts⟩ := ih
                exact ⟨rfl, List.forall_mem_cons.mpr ⟨ht, hts⟩⟩
          exact ⟨rfl, (List.forall_cons ..).mpr ⟨fun _ => .list hts, hes⟩⟩
  | kept ha _ ih =>
      obtain ⟨rfl, hes⟩ := ih
      exact ⟨rfl, (List.forall_cons ..).mpr ⟨fun hvisited => absurd hvisited ha, hes⟩⟩

theorem kind_ne_of_signable (h : Signable c t) : t.kind? ≠ some .fragmentSpread := by
  induction h with
  | number kind _ => obtain rfl | rfl := kind <;> simp [Tree.kind?]
  | string _ ih | nullable _ ih => exact ih
  | _ => simp [Tree.kind?, Tree.ofOptions, Tree.var, Tree.namedType]

theorem Signable.spreading (h : Signable c t) : Spreading t := by
  obtain ⟨u, ⟨-, ht⟩, -⟩ := h.walk (R := fun t u => u = t ∧ Spreading t)
    (fun n => ⟨rfl, spreading_name n⟩) (fun n => ⟨rfl, [], rfl⟩) fun {c k es es'} hwalk hnode => by
      obtain ⟨rfl, hholds⟩ := holds_of_walks hwalk
      have hk : k ≠ .fragmentSpread := fun hk => kind_ne_of_signable hnode (congrArg some hk)
      exact ⟨_, ⟨rfl, Tree.spreading_ofOptions hk hholds⟩, hnode⟩
  exact ht

theorem spreading_selectionSet (h : ∀ t ∈ ts, Spreading t) : Spreading (.selectionSet ts) := by
  have hholds : List.Forall (fun e => e.1 ∈ Kind.visited .selectionSet → Holds Spreading e.2)
      [(Attribute.selections, some (Tree.list ts))] := fun _ => .list h
  exact Tree.spreading_ofOptions (by decide) hholds

theorem holds_map {α : Type} {f : α → Tree} (h : ∀ x, Spreading (f x)) (o : Option α) :
    Holds Spreading (o.map f) := by
  cases o with
  | none => exact .none
  | some x => exact .one (h x)

theorem SignableSelection.spreading (h : SignableSelection t) : Spreading t := by
  induction h with
  | @field label n arguments directives selections renamed name items directed filled _ ih =>
      have hset : Holds Spreading (selections.map .selectionSet) := by
        cases selections with
        | none => exact .none
        | some ts => exact .one (spreading_selectionSet ih)
      refine Tree.spreading_ofOptions (by decide) ⟨fun _ => holds_map spreading_name label,
        fun _ => .one (spreading_name n), fun _ => Tree.holds_list fun t ht => (items t ht).spreading,
        fun _ => Tree.holds_list fun t ht => (directed t ht).spreading, fun _ => hset⟩
  | @spread n directives name directed =>
      have hparts : List.Forall (fun e => e.1 ∈ Kind.visited .fragmentSpread → Holds Spreading e.2)
          [(Attribute.name, some (Tree.name n)), (.directives, directives.map .list)] :=
        ⟨fun _ => .one (spreading_name n),
          fun _ => Tree.holds_list fun t ht => (directed t ht).spreading⟩
      obtain ⟨names, hnames⟩ := Tree.spreading_attributes hparts
      refine ⟨n :: names, ?_⟩
      have hname : Tree.nameOf (.ofOptions .fragmentSpread
          [(.name, some (.name n)), (.directives, directives.map .list)]) = .ok (.text n) := rfl
      rw [Tree.ofOptions_eq] at hname ⊢
      rw [Tree.spreads, if_pos rfl, hname, hnames]
      rfl
  | @inline condition directives selections conditioned directed _ ih =>
      exact Tree.spreading_ofOptions (by decide) ⟨fun _ => holds_map spreading_namedType condition,
        fun _ => Tree.holds_list fun t ht => (directed t ht).spreading,
        fun _ => .one (spreading_selectionSet ih)⟩

namespace SignableDefinition

theorem kind_eq (h : SignableDefinition k n t) : t.kind? = some k := by
  cases h <;> rfl

theorem get?_name (h : SignableDefinition k n t) : t.get? .name = n.map .name := by
  cases h with
  | operation => exact Tree.get?_ofOptions rfl (by simp)
  | fragment => exact Tree.get?_ofOptions rfl (by simp)

theorem nameOf_eq {n : String} (h : SignableDefinition k (some n) t) :
    t.nameOf = .ok (.text n) := by
  have hname := h.get?_name
  cases h with
  | operation | fragment =>
      rw [Tree.nameOf, Tree.ofOptions_eq, Tree.attr, if_pos (by decide)]
      rw [Tree.ofOptions_eq, Tree.get?] at hname
      rw [hname]
      rfl

/-- What a definition spreads is what its selections spread. -/
theorem exists_selections (h : SignableDefinition k n t) : ∃ selections,
    t.get? .selectionSet = some (.selectionSet selections) ∧
    Separate.spreadsOf t = (Tree.selectionSet selections).spreads ∧
    ∀ s ∈ selections, SignableSelection s := by
  obtain ⟨selections, hset, hattribute, hselected⟩ : ∃ selections,
      t.get? .selectionSet = some (.selectionSet selections) ∧
      t.attr .selectionSet = .ok ((t.get? .selectionSet).getD .null) ∧
      ∀ s ∈ selections, SignableSelection s := by
    cases h with
    | operation _ _ _ _ _ _ selected => exact ⟨_, Tree.get?_ofOptions rfl (by simp), rfl, selected⟩
    | fragment _ _ _ _ _ _ selected => exact ⟨_, Tree.get?_ofOptions rfl (by simp), rfl, selected⟩
  refine ⟨selections, hset, ?_, hselected⟩
  rw [Separate.spreadsOf, hattribute, hset]
  rfl

/-- A definition spreads texts. -/
theorem exists_spreadsOf (h : SignableDefinition k n t) :
    ∃ names : List String, Separate.spreadsOf t = .ok (names.map .text) := by
  obtain ⟨selections, -, hspreads, hselected⟩ := h.exists_selections
  obtain ⟨names, hnames⟩ := spreading_selectionSet fun s hs => (hselected s hs).spreading
  exact ⟨names, hspreads.trans hnames⟩

end SignableDefinition

end

/-! ### Reaching names -/

namespace Separate

/-- A name is followed to from pending ones. -/
inductive Follows (g : SpreadGraph) (start : List Scalar) : Scalar → Prop
  | start {s : Scalar} (h : s ∈ start) : Follows g start s
  | next {s t : Scalar} {l : List Scalar} (h : Follows g start s) (found : g.get? s = some l)
      (mem : t ∈ l) : Follows g start t

variable {g : SpreadGraph} {pending seen start : List Scalar} {s : Scalar} {fuel : Nat}

theorem Follows.of_pending {others : List Scalar} (h : Follows g others s)
    (hothers : ∀ t ∈ others, Follows g start t) : Follows g start s := by
  induction h with
  | start h => exact hothers _ h
  | next _ found mem ih => exact .next ih found mem

/-- Nothing is reached that is not followed to. -/
theorem follows_of_mem_reachFrom (h : s ∈ reachFrom g fuel pending seen) :
    s ∈ seen ∨ Follows g pending s := by
  induction fuel generalizing pending seen with
  | zero => exact .inl h
  | succ fuel ih =>
      cases pending with
      | nil => exact .inl h
      | cons name pending =>
          rw [reachFrom] at h
          split at h
          · refine (ih h).imp_right fun hs => hs.of_pending fun t ht => ?_
            exact .start (List.mem_cons_of_mem _ ht)
          · obtain hs | hs := ih h
            · obtain hs | hs := List.mem_append.mp hs
              · exact .inl hs
              · obtain rfl := List.mem_singleton.mp hs
                exact .inr (.start List.mem_cons_self)
            · refine .inr (hs.of_pending fun t ht => ?_)
              obtain ht | ht := List.mem_append.mp ht
              · cases hfound : g.get? name with
                | none => simp [hfound] at ht
                | some l =>
                    rw [hfound] at ht
                    exact .next (.start List.mem_cons_self) hfound ht
              · exact .start (List.mem_cons_of_mem _ ht)

/-- How many names the lists of names not yet seen hold. -/
def unseen (g : SpreadGraph) (seen : List Scalar) : Nat :=
  ((g.filter fun e => !seen.any (·.same e.1)).flatMap (·.2)).length

theorem unseen_cons (e : Scalar × List Scalar) (g : SpreadGraph) (seen : List Scalar) :
    unseen (e :: g) seen = (if seen.any (·.same e.1) then 0 else e.2.length) + unseen g seen := by
  unfold unseen
  rw [List.filter_cons]
  cases seen.any (·.same e.1) <;> simp

theorem unseen_append_le (g : SpreadGraph) (seen : List Scalar) (name : Scalar) :
    unseen g (seen ++ [name]) ≤ unseen g seen := by
  induction g with
  | nil => exact Nat.le_refl 0
  | cons e g ih =>
      rw [unseen_cons, unseen_cons, List.any_append]
      cases seen.any (·.same e.1) with
      | true => simpa using ih
      | false =>
          simp only [Bool.false_or, if_neg Bool.false_ne_true]
          split <;> omega

/-- A name that is visited pays for its list. -/
theorem unseen_visit {n : String} (h : seen.any (·.same (.text n)) = false) :
    unseen g (seen ++ [.text n]) + ((g.get? (.text n)).getD []).length ≤ unseen g seen := by
  induction g with
  | nil => exact Nat.le_refl 0
  | cons e g ih =>
      obtain ⟨k, l⟩ := e
      rw [unseen_cons, unseen_cons, Entries.get?_cons]
      by_cases hkey : k = .text n
      · subst hkey
        have hsame : (Scalar.text n).same (.text n) := Scalar.same_text_iff.mpr rfl
        have hrest := unseen_append_le g seen (.text n)
        simp only [List.any_append, h, hsame, if_true, List.any_cons, Bool.true_or, Bool.or_true,
          if_neg Bool.false_ne_true, Option.getD_some]
        omega
      · rw [if_neg (mt Scalar.same_text_iff.mp hkey)]
        have hless : (if (seen ++ [Scalar.text n]).any (·.same k) then 0 else l.length)
            ≤ if seen.any (·.same k) then 0 else l.length := by
          rw [List.any_append]
          cases seen.any (·.same k) with
          | true => simp
          | false =>
              simp only [Bool.false_or, if_neg Bool.false_ne_true]
              split <;> omega
        simp only at hless ⊢
        omega

/-- With enough fuel the names reached are closed under the lists of those that were not seen before. -/
theorem closed_reachFrom (hg : ∀ e ∈ g, ∀ s ∈ e.2, ∃ n, s = .text n)
    (hpending : ∀ s ∈ pending, ∃ n, s = .text n) (hfuel : pending.length + unseen g seen < fuel) :
    (∀ s ∈ seen, s ∈ reachFrom g fuel pending seen) ∧
    (∀ s ∈ pending, s ∈ reachFrom g fuel pending seen) ∧
    ∀ s ∈ reachFrom g fuel pending seen, s ∈ seen ∨
      ∀ l, g.get? s = some l → ∀ t ∈ l, t ∈ reachFrom g fuel pending seen := by
  -- A name that is seen for the first time takes one of the unseen lists away, which pays for its names.
  induction fuel generalizing pending seen with
  | zero => exact absurd hfuel (Nat.not_lt_zero _)
  | succ fuel ih =>
      cases pending with
      | nil => exact ⟨fun s hs => hs, by simp, fun s hs => .inl hs⟩
      | cons name pending =>
          obtain ⟨⟨n, rfl⟩, hrest⟩ := List.forall_mem_cons.mp hpending
          rw [reachFrom]
          rw [List.length_cons] at hfuel
          cases hseen : seen.any (·.same (.text n)) with
          | true =>
              rw [if_pos rfl]
              have hload : pending.length + unseen g seen < fuel := by omega
              obtain ⟨hkept, hfound, hclosed⟩ := ih hrest hload
              refine ⟨hkept, List.forall_mem_cons.mpr ⟨?_, hfound⟩, hclosed⟩
              obtain ⟨s, hs, hsame⟩ := List.any_eq_true.mp hseen
              exact hkept _ (Scalar.same_text_iff.mp hsame ▸ hs)
          | false =>
              rw [if_neg Bool.false_ne_true]
              have hvisit := unseen_visit (g := g) hseen
              have hlist : ∀ s ∈ (g.get? (.text n)).getD [] ++ pending, ∃ n, s = .text n := by
                intro s hs
                obtain hs | hs := List.mem_append.mp hs
                · cases hget : g.get? (.text n) with
                  | none => simp [hget] at hs
                  | some l =>
                      rw [hget] at hs
                      exact hg _ (Entries.mem_of_get?_text hget) s hs
                · exact hrest s hs
              have hload : ((g.get? (.text n)).getD [] ++ pending).length
                  + unseen g (seen ++ [.text n]) < fuel := by
                rw [List.length_append]
                omega
              obtain ⟨hkept, hfound, hclosed⟩ := ih hlist hload
              refine ⟨fun s hs => hkept s (List.mem_append_left _ hs),
                List.forall_mem_cons.mpr ⟨hkept _ (by simp), fun s hs =>
                  hfound s (List.mem_append_right _ hs)⟩, fun s hs => ?_⟩
              obtain hs | hs := hclosed s hs
              · obtain hs | hs := List.mem_append.mp hs
                · exact .inl hs
                · obtain rfl := List.mem_singleton.mp hs
                  refine .inr fun l hl t ht => hfound t (List.mem_append_left _ ?_)
                  rwa [hl]
              · exact .inr hs

/-- A name is reached when it is followed to. -/
theorem mem_reach_iff (hg : ∀ e ∈ g, ∀ s ∈ e.2, ∃ n, s = .text n)
    (hstart : ∀ s ∈ start, ∃ n, s = .text n) : s ∈ reach g start ↔ Follows g start s := by
  have hfuel : start.length + unseen g [] < start.length + (g.flatMap (·.2)).length + 1 := by
    have hall : unseen g [] = (g.flatMap (·.2)).length := by simp [unseen]
    omega
  obtain ⟨-, hfound, hclosed⟩ := closed_reachFrom hg hstart hfuel
  constructor
  · intro h
    exact (follows_of_mem_reachFrom h).resolve_left (by simp)
  · intro h
    induction h with
    | start h => exact hfound _ h
    | next _ found mem ih => exact ((hclosed _ ih).resolve_left (by simp)) _ found _ mem

/-! ### Fragments and operations apart -/

section

variable {fragments operations : List Tree}

/-- Operations add nothing to the graph. -/
theorem graph_append (h : ∀ t ∈ operations, t.kind? = some .operationDefinition) :
    graph (fragments ++ operations) = graph fragments := by
  have hskip : ∀ g : SpreadGraph, operations.foldlM (fun g d =>
      if d.kind? = some .fragmentDefinition then do
        let name ← d.nameOf
        return Entries.put g name (← spreadsOf d)
      else pure g) g = (.ok g : Except Malformed _) := by
    refine foldlM_keeps fun t ht g => ?_
    rw [h t ht, if_neg (by decide)]
    rfl
  rw [graph, List.foldlM_append]
  simp only [hskip]
  exact bind_pure _

/-- The operations are numbered behind the fragments. -/
theorem filter_operations (hfragments : ∀ t ∈ fragments, t.kind? = some .fragmentDefinition)
    (hoperations : ∀ t ∈ operations, t.kind? = some .operationDefinition) :
    (fragments ++ operations).zipIdx.filter (fun d => d.1.kind? = some .operationDefinition)
      = operations.zipIdx fragments.length := by
  have hnone : fragments.zipIdx.filter (fun d => d.1.kind? = some .operationDefinition) = [] := by
    refine List.filter_eq_nil_iff.mpr fun x hx => ?_
    obtain ⟨-, -, hmem⟩ := List.mem_zipIdx hx
    rw [hfragments x.1 (hmem ▸ List.getElem_mem _)]
    decide
  have hall : (operations.zipIdx fragments.length).filter
      (fun d => d.1.kind? = some .operationDefinition) = operations.zipIdx fragments.length := by
    refine List.filter_eq_self.mpr fun x hx => ?_
    obtain ⟨-, -, hmem⟩ := List.mem_zipIdx hx
    rw [hoperations x.1 (hmem ▸ List.getElem_mem _)]
    rfl
  rw [List.zipIdx_append, List.filter_append, hnone, Nat.zero_add, hall, List.nil_append]

end

/-! ### Closing -/

/-- Whether a definition is a fragment of one of the names, where that can be told. -/
def belongs (names : List Scalar) (d : Tree) : Bool := (isFragmentIn names d).toOption.getD false

theorem closure_eq {names : List Scalar} {position : Nat} {belongs : Tree → Bool}
    {numbered : List (Tree × Nat)} (h : ∀ e ∈ numbered, isFragmentIn names e.1 = .ok (belongs e.1)) :
    closure names position numbered
      = .ok ((numbered.filter fun e => decide (e.2 = position) || belongs e.1).map (·.1)) := by
  induction numbered with
  | nil => rfl
  | cons e numbered ih =>
      obtain ⟨definition, i⟩ := e
      obtain ⟨he, hrest⟩ := List.forall_mem_cons.mp h
      have hothers := ih hrest
      rw [closure, List.filter_cons]
      by_cases hi : i = position
      · rw [if_pos hi, hothers]
        simp only [hi, decide_true, Bool.true_or, if_true]
        rfl
      · rw [if_neg hi, he, hothers]
        simp only [hi, decide_false, Bool.false_or, bind, Except.bind]
        cases belongs definition <;> rfl

/-- Of the definitions behind the fragments one stands at a position. -/
theorem filter_zipIdx_eq {belongs : Tree → Bool} {others : List Tree} {d : Tree} {i j : Nat}
    (hothers : ∀ t ∈ others, belongs t = false) (h : (d, i) ∈ others.zipIdx j) :
    (others.zipIdx j).filter (fun e => decide (e.2 = i) || belongs e.1) = [(d, i)] := by
  induction others generalizing j with
  | nil => simp at h
  | cons t others ih =>
      obtain ⟨ht, hrest⟩ := List.forall_mem_cons.mp hothers
      rw [List.zipIdx_cons] at h ⊢
      obtain heq | hmem := List.mem_cons.mp h
      · obtain ⟨rfl, rfl⟩ := Prod.mk.inj heq
        have hlater : (others.zipIdx (i + 1)).filter (fun e => decide (e.2 = i) || belongs e.1)
            = [] := by
          refine List.filter_eq_nil_iff.mpr fun e he => ?_
          obtain ⟨hle, -, hmem⟩ := List.mem_zipIdx he
          have hbelongs : belongs e.1 = false := by
            rw [hmem]
            exact hrest _ (List.getElem_mem _)
          simp only [hbelongs, Bool.or_false, decide_eq_true_eq]
          omega
        rw [List.filter_cons, hlater]
        simp
      · have hne : j ≠ i := by
          have hle := (List.mem_zipIdx hmem).1
          omega
        rw [List.filter_cons, ih hrest hmem]
        simp [hne, ht]

/-- The definitions that belong to an operation are its fragments, in their order, and the operation
itself. -/
theorem closure_append {names : List Scalar} {belongs : Tree → Bool} {fragments operations : List Tree}
    {d : Tree} {i : Nat} (hfragments : ∀ t ∈ fragments, isFragmentIn names t = .ok (belongs t))
    (hoperations : ∀ t ∈ operations, isFragmentIn names t = .ok false)
    (hbelongs : ∀ t ∈ operations, belongs t = false)
    (h : (d, i) ∈ operations.zipIdx fragments.length) :
    closure names i (fragments ++ operations).zipIdx = .ok (fragments.filter belongs ++ [d]) := by
  have hall : ∀ e ∈ (fragments ++ operations).zipIdx, isFragmentIn names e.1 = .ok (belongs e.1) := by
    intro e he
    obtain ⟨-, -, hmem⟩ := List.mem_zipIdx he
    have hmem : e.1 ∈ fragments ++ operations := hmem ▸ List.getElem_mem _
    obtain hmem | hmem := List.mem_append.mp hmem
    · exact hfragments _ hmem
    · rw [hbelongs _ hmem]
      exact hoperations _ hmem
  have hle : fragments.length ≤ i := (List.mem_zipIdx h).1
  have hfront : fragments.zipIdx.filter (fun e => decide (e.2 = i) || belongs e.1)
      = fragments.zipIdx.filter (fun e => belongs e.1) := by
    refine List.filter_congr fun e he => ?_
    have hlt := (List.mem_zipIdx he).2.1
    simp only [Nat.zero_add] at hlt
    have hne : e.2 ≠ i := by omega
    simp [hne]
  have hmap : (fragments.zipIdx.filter fun e => belongs e.1).map (·.1)
      = fragments.filter belongs := by
    conv => rhs; rw [← List.zipIdx_map_fst 0 fragments]
    rw [List.filter_map]
    rfl
  rw [closure_eq hall, List.zipIdx_append, Nat.zero_add, List.filter_append, hfront,
    filter_zipIdx_eq hbelongs h, List.map_append, hmap]
  rfl

/-! ### The closed documents -/

theorem definitions_document (ds : List Tree) : (Tree.document ds).definitions = .ok ds := rfl

/-- A definition whose name can be told has one. -/
theorem isNone_name_of_nameOf {d : Tree} {key : Scalar} (h : d.nameOf = .ok key) :
    (d.get? .name).isNone = false := by
  obtain ⟨name, hattr, hvalue⟩ := bind_eq_ok_iff.mp h
  cases hget : d.get? .name with
  | some t => rfl
  | none =>
      cases d with
      | node k attributes =>
          rw [Tree.get?] at hget
          rw [Tree.attr, hget] at hattr
          split at hattr
          · cases hattr
            cases hvalue
          · cases hattr
      | _ => cases hattr

/-- An operation that has a name is filed under it. -/
theorem keyOf_of_nameOf {d : Tree} {key : Scalar} (h : d.nameOf = .ok key) : keyOf d = .ok key := by
  rw [keyOf, isNone_name_of_nameOf h, if_neg Bool.false_ne_true, h]

/-- What the operation at a position is filed under, with its closed document. -/
def closeAt (g : SpreadGraph) (definitions : List Tree) (x : Tree × Nat) :
    Except Malformed (Scalar × Tree) := do
  let names := reach g (← spreadsOf x.1)
  let key ← keyOf x.1
  return (key, Tree.document (← closure names x.2 definitions.zipIdx))

/-- Separation closes each operation and files it. -/
theorem ofDocument_eq_ok_iff {definitions : List Tree} {separated : Entries Tree} :
    ofDocument (.document definitions) = .ok separated ↔ ∃ g es, graph definitions = .ok g ∧
      (definitions.zipIdx.filter fun d => d.1.kind? = some .operationDefinition).mapM
        (closeAt g definitions) = .ok es ∧ separated = Entries.update [] es := by
  have hfold : ∀ g, (definitions.zipIdx.filter fun d => d.1.kind? = some .operationDefinition).foldlM
      (fun acc d => do
        let names := reach g (← spreadsOf d.1)
        let key ← keyOf d.1
        return Entries.put acc key (Tree.document (← closure names d.2 definitions.zipIdx))) []
      = (definitions.zipIdx.filter fun d => d.1.kind? = some .operationDefinition).foldlM
        (fun acc d => do let e ← closeAt g definitions d; return Entries.put acc e.1 e.2) [] := by
    intro g
    simp only [closeAt, bind_assoc, pure_bind]
  rw [ofDocument, definitions_document]
  show (graph definitions >>= fun g => _) = _ ↔ _
  simp only [hfold, bind_eq_ok_iff, Entries.foldlM_put_eq_ok_iff]
  constructor
  · rintro ⟨g, hg, es, hes, heq⟩
    exact ⟨g, es, hg, hes, heq⟩
  · rintro ⟨g, es, hg, hes, heq⟩
    exact ⟨g, hg, es, hes, heq⟩

end Separate

end PersistedOps

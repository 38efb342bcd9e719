import PersistedOps.Proofs.Document.Separation

/-!
Documents that differ in the order of their selections. Siblings are sorted by kind and name and are
otherwise left in their order, so an operation's signature forgets every rearrangement that keeps the
order of the siblings of each kind and name, at any depth.
-/

namespace PersistedOps

open PersistedOps.Tree (Walks Lifted Revised inOrder replace Spreading SameSpreads)

/-- Siblings in another order, in which those of one kind and name keep theirs. -/
def Reordered (xs ys : List Tree) : Prop :=
  ∀ k, xs.filter (Sort.hasKey Sort.byKindAndName k) = ys.filter (Sort.hasKey Sort.byKindAndName k)

/-- A tree whose selections are rearranged one by one and then put in another order. -/
inductive Rearranged : Tree → Tree → Prop
  | same (t : Tree) : Rearranged t t
  | selections {t : Tree} {xs ys zs : List Tree}
      (found : t.get? .selectionSet = some (.selectionSet xs)) (length : xs.length = ys.length)
      (each : ∀ p ∈ xs.zip ys, Rearranged p.1 p.2) (order : Reordered ys zs) :
      Rearranged t (t.set .selectionSet (.selectionSet zs))

variable {k : Kind} {n : Option String} {t u : Tree} {xs ys zs : List Tree}

/-! ### Selections revised -/

section

variable {f : Tree → Except Malformed Tree}

theorem SignableSelection.changed_revise (hf : Keeps f) (h : SignableSelection t) :
    Revised f t (changed (Tree.revise f) t) ∧ SignableSelection (changed (Tree.revise f) t) ∧
      Sort.byKindAndName (changed (Tree.revise f) t) = Sort.byKindAndName t := by
  obtain ⟨u, hu, hselection, hkey⟩ := h.revise_key hf
  rw [changed_eq hu]
  exact ⟨hu, hselection, hkey⟩

theorem revised_selections (hf : Keeps f) (h : ∀ t ∈ xs, SignableSelection t) :
    List.Forall₂ (Revised f) xs (xs.map (changed (Tree.revise f))) := by
  rw [List.forall₂_map_right_iff, List.forall₂_same]
  exact fun t ht => ((h t ht).changed_revise hf).1

theorem sortNode_selectionSet_eq (ts : List Tree) : Sort.sortNode (.selectionSet ts)
    = (Sort.sortItems Sort.byKindAndName ts).map .selectionSet := by
  show (Sort.sortItems Sort.byKindAndName ts >>= fun us =>
    .ok ((Tree.selectionSet ts).set .selections (.list us))) = _
  cases Sort.sortItems Sort.byKindAndName ts <;> rfl

theorem sort_selectionSet (h : ∀ t ∈ xs, SignableSelection t) :
    Sort.sort (.selectionSet xs)
      = (Sort.sortItems Sort.byKindAndName (xs.map (changed Sort.sort))).map .selectionSet := by
  have hrevised := Tree.revise_selectionSet (revised_selections Sort.keeps_sortNode h)
  exact hrevised.trans (sortNode_selectionSet_eq _)

theorem map_changed_eq (hx : ∀ x ∈ xs, ∃ u, f x = .ok u)
    (h : List.Forall₂ (fun x y => f x = f y) xs ys) : xs.map (changed f) = ys.map (changed f) := by
  induction h with
  | nil => rfl
  | cons hxy _ ih =>
      obtain ⟨⟨u, hu⟩, hrest⟩ := List.forall_mem_cons.mp hx
      rw [List.map_cons, List.map_cons, changed_eq hu, changed_eq (hxy.symm.trans hu), ih hrest]

end

/-! ### Orders -/

theorem Reordered.refl (xs : List Tree) : Reordered xs xs := fun _ => rfl

theorem Reordered.mem_iff (h : Reordered xs ys) : t ∈ xs ↔ t ∈ ys := by
  have hkey : ∀ zs : List Tree, t ∈ zs ↔
      t ∈ zs.filter (Sort.hasKey Sort.byKindAndName (Sort.byKindAndName t).toOption) := by
    intro zs
    simp [Sort.hasKey]
  rw [hkey xs, hkey ys, h]

/-- Lists that agree on each of some classes that hold everything are rearrangements of each other. -/
theorem perm_of_filter_eq {α κ : Type} {p : κ → α → Bool} {l r : List α} (hp : ∀ a, ∃ k, p k a)
    (h : ∀ k, l.filter (p k) = r.filter (p k)) : l.Perm r := by
  classical
  refine List.perm_iff_count.mpr fun a => ?_
  obtain ⟨k, hk⟩ := hp a
  rw [← List.count_filter hk, h, List.count_filter hk]

theorem Reordered.perm (h : Reordered xs ys) : xs.Perm ys :=
  perm_of_filter_eq (fun t => ⟨_, beq_self_eq_true (Sort.byKindAndName t).toOption⟩) h

/-- Neighbours of different kinds or names change places. -/
theorem reordered_swap (h : (Sort.byKindAndName t).toOption ≠ (Sort.byKindAndName u).toOption)
    (ts : List Tree) : Reordered (t :: u :: ts) (u :: t :: ts) := by
  intro k
  rw [List.filter_cons, List.filter_cons, List.filter_cons, List.filter_cons]
  by_cases ht : (Sort.byKindAndName t).toOption = k
  · have hu : (Sort.byKindAndName u).toOption ≠ k := fun hu => h (ht.trans hu.symm)
    simp [Sort.hasKey, ht, hu]
  · simp [Sort.hasKey, ht]

/-- What changes no key changes no order. -/
theorem Reordered.map {f : Tree → Tree} (h : Reordered xs ys)
    (hf : ∀ t ∈ xs, Sort.byKindAndName (f t) = Sort.byKindAndName t) :
    Reordered (xs.map f) (ys.map f) := by
  intro k
  have hkey : ∀ zs : List Tree, (∀ t ∈ zs, Sort.byKindAndName (f t) = Sort.byKindAndName t) →
      (zs.map f).filter (Sort.hasKey Sort.byKindAndName k)
        = (zs.filter (Sort.hasKey Sort.byKindAndName k)).map f := by
    intro zs hzs
    rw [List.filter_map]
    refine congrArg _ (List.filter_congr fun t ht => ?_)
    rw [Function.comp, Sort.hasKey, Sort.hasKey, hzs t ht]
  rw [hkey xs hf, hkey ys fun t ht => hf t (h.mem_iff.mpr ht), h]

theorem Reordered.ne_nil (h : Reordered xs ys) (hne : xs ≠ []) : ys ≠ [] := by
  rintro rfl
  exact hne h.perm.eq_nil

/-- Selections that are only put in another order. -/
theorem rearranged_of_reordered (found : t.get? .selectionSet = some (.selectionSet xs))
    (order : Reordered xs zs) : Rearranged t (t.set .selectionSet (.selectionSet zs)) := by
  have hsame : List.Forall₂ Rearranged xs xs := List.forall₂_same.mpr fun t _ => .same t
  exact .selections found rfl (fun p hp => (List.forall₂_iff_zip.mp hsame).2 hp) order

/-! ### Trees with selections -/

/-- A tree of a property that has selections, and keeps the property under others. -/
structure Owns (P : Tree → Prop) (k : Kind) (es : List (Attribute × Option Tree)) (xs : List Tree) :
    Prop where
  kind : k ∈ [.field, .inlineFragment, .operationDefinition, .fragmentDefinition]
  order : inOrder es
  mem : (.selectionSet, some (.selectionSet xs)) ∈ es
  selected : ∀ x ∈ xs, SignableSelection x
  build : ∀ zs, (xs ≠ [] → zs ≠ []) → (∀ z ∈ zs, SignableSelection z) →
    P (.ofOptions k (replace es .selectionSet (some (.selectionSet zs))))

theorem selectionSet_inj (h : Tree.selectionSet xs = .selectionSet ys) : xs = ys := by
  injection h with _ h
  simpa using h

/-- The selections found are those that stand among the attributes. -/
theorem eq_of_found {es : List (Attribute × Option Tree)} {o : Option Tree} (horder : inOrder es)
    (hmem : (.selectionSet, o) ∈ es)
    (found : (Tree.ofOptions k es).get? .selectionSet = some (.selectionSet xs)) :
    o = some (.selectionSet xs) :=
  (Tree.get?_ofOptions horder hmem).symm.trans found

theorem SignableSelection.owns (h : SignableSelection t)
    (found : t.get? .selectionSet = some (.selectionSet xs)) :
    ∃ k es, t = .ofOptions k es ∧ Owns SignableSelection k es xs := by
  cases h with
  | @field label n arguments directives selections renamed name items directed filled selected =>
      have hset : selections.map Tree.selectionSet = some (.selectionSet xs) :=
        eq_of_found rfl (by simp) found
      obtain ⟨ts, rfl, hts⟩ := Option.map_eq_some_iff.mp hset
      obtain rfl := selectionSet_inj hts
      refine ⟨_, _, rfl, by decide, rfl, by simp, selected, fun zs hfilled hzs => ?_⟩
      have hsome : ∀ ts ∈ some zs, ts ≠ [] := by simpa using hfilled (filled ts rfl)
      exact .field renamed name items directed hsome hzs
  | @spread n directives name directed => cases directives <;> cases found
  | @inline condition directives selections conditioned directed selected =>
      have hset : some (Tree.selectionSet selections) = some (.selectionSet xs) :=
        eq_of_found rfl (by simp) found
      obtain rfl := selectionSet_inj (Option.some.inj hset)
      refine ⟨_, _, rfl, by decide, rfl, by simp, selected, fun zs _ hzs => ?_⟩
      exact .inline conditioned directed hzs

theorem SignableDefinition.owns (h : SignableDefinition k n t)
    (found : t.get? .selectionSet = some (.selectionSet xs)) :
    ∃ l es, t = .ofOptions l es ∧ Owns (SignableDefinition k n) l es xs := by
  cases h with
  | @operation description o n vars directives selections described name declared directed filled
      selected =>
      have hset : some (Tree.selectionSet selections) = some (.selectionSet xs) :=
        eq_of_found rfl (by simp) found
      obtain rfl := selectionSet_inj (Option.some.inj hset)
      refine ⟨_, _, rfl, by decide, rfl, by simp, selected, fun zs hfilled hzs => ?_⟩
      exact .operation o described name declared directed (hfilled filled) hzs
  | @fragment description n condition vars directives selections described name declared conditioned
      directed filled selected =>
      have hset : some (Tree.selectionSet selections) = some (.selectionSet xs) :=
        eq_of_found rfl (by simp) found
      obtain rfl := selectionSet_inj (Option.some.inj hset)
      refine ⟨_, _, rfl, by decide, rfl, by simp, selected, fun zs hfilled hzs => ?_⟩
      exact .fragment described name declared conditioned directed (hfilled filled) hzs

/-! ### One tree at a time -/

/-- A tree goes to itself, or to one with other selections: those of the tree go to selections one by
one, and these are put in another order. -/
inductive Moves (P : Tree → Prop) (R : Tree → Tree → Prop) : Tree → Tree → Prop
  | same {t : Tree} (h : P t) : Moves P R t t
  | selections {k : Kind} {es : List (Attribute × Option Tree)} {xs ys zs : List Tree}
      (owns : Owns P k es xs) (each : List.Forall₂ R xs ys)
      (selected : ∀ y ∈ ys, SignableSelection y) (order : Reordered ys zs) :
      Moves P R (.ofOptions k es)
        (.ofOptions k (replace es .selectionSet (some (.selectionSet zs))))

section

variable {P : Tree → Prop} {R S : Tree → Tree → Prop}

theorem Moves.left (h : Moves P R t u) : P t := by
  cases h with
  | same h => exact h
  | selections owns =>
      have hbuilt := owns.build _ id owns.selected
      rwa [Tree.replace_self owns.order owns.mem] at hbuilt

theorem Moves.right (h : Moves P R t u) : P u := by
  cases h with
  | same h => exact h
  | selections owns each selected order =>
      refine owns.build _ (fun hne => order.ne_nil ?_) fun z hz => selected z (order.mem_iff.mpr hz)
      rintro rfl
      exact hne (List.forall₂_nil_right_iff.mp each)

/-- A rearranged selection is one, and what each step keeps holds of it. -/
theorem Rearranged.selection (hR : ∀ {t u}, Moves SignableSelection R t u → R t u)
    (h : Rearranged t u) (ht : SignableSelection t) : SignableSelection u ∧ R t u := by
  induction h with
  | same t => exact ⟨ht, hR (.same ht)⟩
  | @selections t xs ys zs found length _ order ih =>
      obtain ⟨k, es, rfl, owns⟩ := ht.owns found
      have hboth : List.Forall₂ (fun x y => SignableSelection y ∧ R x y) xs ys := by
        refine List.forall₂_iff_zip.mpr ⟨length, fun {x y} hxy => ih _ hxy ?_⟩
        exact owns.selected x (List.of_mem_zip hxy).1
      have hmoves : Moves SignableSelection R (.ofOptions k es) _ := .selections owns
        (hboth.imp fun _ _ h => h.2)
        (fun y hy => (exists_of_mem_left hboth.flip hy).elim fun _ h => h.2.1) order
      rw [Tree.set_ofOptions owns.order owns.mem rfl]
      exact ⟨hmoves.right, hR hmoves⟩

/-- A rearranged definition is one, whose selections are rearranged. -/
theorem Rearranged.definition (hR : ∀ {t u}, Moves SignableSelection R t u → R t u)
    (h : Rearranged t u) (ht : SignableDefinition k n t) : Moves (SignableDefinition k n) R t u := by
  cases h with
  | same t => exact .same ht
  | @selections _ xs ys zs found length each order =>
      obtain ⟨l, es, rfl, owns⟩ := ht.owns found
      have hboth : List.Forall₂ (fun x y => SignableSelection y ∧ R x y) xs ys := by
        refine List.forall₂_iff_zip.mpr ⟨length, fun {x y} hxy => (each _ hxy).selection hR ?_⟩
        exact owns.selected x (List.of_mem_zip hxy).1
      rw [Tree.set_ofOptions owns.order owns.mem rfl]
      exact .selections owns (hboth.imp fun _ _ h => h.2)
        (fun y hy => (exists_of_mem_left hboth.flip hy).elim fun _ h => h.2.1) order

/-! ### What a move keeps -/

theorem visited_of_owns {es : List (Attribute × Option Tree)} (h : Owns P k es xs) :
    .selectionSet ∈ k.visited ∧ k ≠ .fragmentSpread ∧
      ∀ es, Literals.hideNode (.ofOptions k es) = .ok (.ofOptions k es) := by
  have hkind := h.kind
  simp only [List.mem_cons, List.not_mem_nil, or_false] at hkind
  obtain rfl | rfl | rfl | rfl := hkind <;> exact ⟨by decide, by decide, fun _ => rfl⟩

/-- Neither the kind nor an attribute other than the selections moves. -/
theorem Moves.kind_eq (h : Moves P R t u) : u.kind? = t.kind? := by
  cases h <;> rfl

theorem Moves.get?_eq {a : Attribute} (ha : a ≠ .selectionSet) (h : Moves P R t u) :
    u.get? a = t.get? a := by
  cases h with
  | same => rfl
  | selections owns =>
      rw [← Tree.set_ofOptions owns.order owns.mem rfl]
      exact Tree.get?_set (Ne.symm ha) _ _

theorem Moves.key_eq (h : Moves P R t u) : Sort.byKindAndName u = Sort.byKindAndName t := by
  rw [Sort.byKindAndName, Sort.byKindAndName, Sort.nameKey, Sort.nameKey, h.kind_eq,
    h.get?_eq (by decide)]

theorem sameSpreads_selectionSet (h : SameSpreads (.list xs) (.list ys)) :
    SameSpreads (.selectionSet xs) (.selectionSet ys) := by
  have hset : ∀ ts : List Tree, (Tree.selectionSet ts).spreads = (Tree.list ts).spreads := by
    intro ts
    rw [Tree.selectionSet, Tree.spreads, if_neg (by decide), Tree.spreadsInAttributes,
      if_pos (by decide), Tree.spreadsInAttributes]
    cases (Tree.list ts).spreads <;> simp [bind, Except.bind, pure, Except.pure]
  have hspreading : ∀ {ts : List Tree}, Spreading (.list ts) → Spreading (.selectionSet ts) := by
    intro ts hts
    rwa [Spreading, hset]
  refine ⟨hspreading h.left, hspreading h.right, ?_⟩
  rw [Tree.spreadNames, Tree.spreadNames, hset, hset]
  exact h.perm

/-- Trees whose selections spread the same names spread the same names. -/
theorem Moves.sameSpreads (hP : ∀ {t}, P t → Spreading t) (h : Moves P SameSpreads t u) :
    SameSpreads t u := by
  have hleft := hP h.left
  have hright := hP h.right
  cases h with
  | same => exact hleft.same
  | selections owns each selected order =>
      obtain ⟨hvisited, hkind, -⟩ := visited_of_owns owns
      have hsets := sameSpreads_selectionSet (Tree.sameSpreads_list each order.perm)
      exact Tree.sameSpreads_replace hkind owns.order owns.mem hvisited hsets hleft hright

/-- Hiding the literals of a tree and of its selections leaves a move. -/
theorem Moves.hide (hP : ∀ {t}, P t → ∃ v, Revised Literals.hideNode t v)
    (h : Moves P (fun x y => Rearranged (changed Literals.hide x) (changed Literals.hide y)) t u) :
    Rearranged (changed Literals.hide t) (changed Literals.hide u) := by
  cases h with
  | same => exact .same _
  | @selections k es xs ys zs owns each selected order =>
      obtain ⟨hvisited, -, hself⟩ := visited_of_owns owns
      have hfilled : ∀ z ∈ zs, SignableSelection z := fun z hz => selected z (order.mem_iff.mpr hz)
      have hset : ∀ {ts : List Tree}, (∀ t ∈ ts, SignableSelection t) →
          Revised Literals.hideNode (.selectionSet ts)
            (.selectionSet (ts.map (changed Literals.hide))) :=
        fun hts => Tree.revise_selectionSet (revised_selections keeps_hideNode hts)
      -- What the tree becomes is found by walking its attributes.
      obtain ⟨v, hv⟩ := hP (Moves.selections owns each selected order).left
      obtain ⟨attributes, hattributes, -⟩ := bind_eq_ok_iff.mp hv
      obtain ⟨es', hwalk, -⟩ := Tree.exists_walks hattributes
      have hmem : (.selectionSet, some (.selectionSet (xs.map (changed Literals.hide)))) ∈ es' := by
        obtain ⟨o, ho, hlifted⟩ := hwalk.exists_mem hvisited owns.mem
        cases hlifted with
        | one hrevised =>
            cases (hset owns.selected).symm.trans hrevised
            exact ho
      have horder := hwalk.inOrder owns.order
      have hleft : changed Literals.hide (.ofOptions k es) = .ofOptions k es' :=
        changed_eq ((Tree.revise_ofOptions hwalk).trans (hself es'))
      have hright : changed Literals.hide
          (.ofOptions k (replace es .selectionSet (some (.selectionSet zs))))
          = .ofOptions k (replace es' .selectionSet
            (some (.selectionSet (zs.map (changed Literals.hide))))) :=
        changed_eq ((Tree.revise_ofOptions
          (hwalk.replace hvisited (.one (hset hfilled)))).trans (hself _))
      have hrelated : List.Forall₂ Rearranged (xs.map (changed Literals.hide))
          (ys.map (changed Literals.hide)) := by
        rwa [List.forall₂_map_left_iff, List.forall₂_map_right_iff]
      have hkeys : ∀ y ∈ ys, Sort.byKindAndName (changed Literals.hide y) = Sort.byKindAndName y :=
        fun y hy => ((selected y hy).changed_revise keeps_hideNode).2.2
      rw [hleft, hright, ← Tree.set_ofOptions horder hmem rfl]
      exact .selections (Tree.get?_ofOptions horder hmem) hrelated.length_eq
        (fun p hp => (List.forall₂_iff_zip.mp hrelated).2 hp) (order.map hkeys)

/-- Selections that are sorted alike are sorted alike in another order. -/
theorem Moves.sort_eq (h : Moves P (fun x y => Sort.sort x = Sort.sort y) t u) :
    Sort.sort t = Sort.sort u := by
  cases h with
  | same => rfl
  | @selections k es xs ys zs owns each selected order =>
      obtain ⟨hvisited, -, -⟩ := visited_of_owns owns
      have hfilled : ∀ z ∈ zs, SignableSelection z := fun z hz => selected z (order.mem_iff.mpr hz)
      have heach : xs.map (changed Sort.sort) = ys.map (changed Sort.sort) :=
        map_changed_eq (fun x hx => ((owns.selected x hx).revise Sort.keeps_sortNode).imp
          fun _ hu => hu.1) each
      have hkeys : ∀ y ∈ ys, Sort.byKindAndName (changed Sort.sort y) = Sort.byKindAndName y :=
        fun y hy => ((selected y hy).changed_revise Sort.keeps_sortNode).2.2
      have hsortable : ∀ t ∈ ys.map (changed Sort.sort), Sort.Sortable Sort.byKindAndName t := by
        intro t ht
        obtain ⟨y, hy, rfl⟩ := List.mem_map.mp ht
        exact Sort.sortable_selection ((selected y hy).changed_revise Sort.keeps_sortNode).2.1
      have hsets : Sort.sort (.selectionSet xs) = Sort.sort (.selectionSet zs) := by
        rw [sort_selectionSet owns.selected, sort_selectionSet hfilled, heach,
          Sort.sortItems_congr hsortable (order.map hkeys)]
      rw [Sort.sort, Sort.sort, Tree.ofOptions_eq, Tree.ofOptions_eq, Tree.revise, Tree.revise,
        Tree.reviseAttributes_replace owns.order owns.mem hvisited hsets]

end

end PersistedOps

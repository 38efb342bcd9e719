import PersistedOps.Proofs.Document.Revision

/-!
Type names made canonical. Deleting them and putting fresh ones in front are two traversals; one after
the other they take what signing meets to what signing meets.
-/

namespace PersistedOps.Typename

open PersistedOps.Tree (Walks Lifted Revised inOrder replace present)
open Relation (Comp)

variable {k : Kind} {es es' : List (Attribute × Option Tree)} {t : Tree} {ts us : List Tree}

/-- The tree without type names is another. -/
def Stripped (t u : Tree) : Prop := strip t = .ok u

/-- The tree with canonical type names is another. -/
def Added : Tree → Tree → Prop := Comp Stripped (Revised prepend)

theorem add_eq_ok_iff {u : Tree} : add t = .ok u ↔ Added t u := bind_eq_ok_iff

/-! ### Deleting -/

theorem not_isNull_of_strip {u : Tree} (h : Stripped t u) : t.isNull = false := by
  cases t with
  | scalar s => exact absurd h (by simp [Stripped, strip])
  | _ => rfl

theorem stripItems_eq (h : List.Forall₂ Stripped ts us) : stripItems ts = .ok us := by
  induction h with
  | nil => rfl
  | @cons t u ts us h _ ih =>
      have hstrip : strip t = .ok u := h
      rw [stripItems, not_isNull_of_strip h, hstrip, ih]
      rfl

theorem stripAttributes_eq (h : Walks Stripped k es es') :
    stripAttributes k (present es) = .ok (present es') := by
  induction h with
  | nil => rfl
  | @walked a o o' es es' ha h _ ih =>
      cases h with
      | none => exact ih
      | @one t u h =>
          have hstrip : strip t = .ok u := h
          rw [Tree.present_some, stripAttributes, if_pos ha, hstrip, ih]
          rfl
      | list h =>
          rw [Tree.present_some, stripAttributes, if_pos ha, strip, stripItems_eq h, ih]
          rfl
  | @kept a o es es' ha _ ih =>
      cases o with
      | none => exact ih
      | some t =>
          rw [Tree.present_some, stripAttributes, if_neg ha, ih]
          rfl

/-- Nothing is deleted from a node other than a selection set itself. -/
theorem stripped_ofOptions (hk : k ≠ .selectionSet) (h : Walks Stripped k es es') :
    Stripped (.ofOptions k es) (.ofOptions k es') := by
  rw [Stripped, Tree.ofOptions_eq, strip, stripAttributes_eq h]
  · rfl
  · exact hk

theorem isTypenameField_selection (h : SignableSelection t) : ∃ b, isTypenameField t = .ok b := by
  cases h with
  | @field label n arguments directives selections renamed name items directed filled selected =>
      refine ⟨Tree.text n == .text Typename.name, ?_⟩
      cases label <;> rfl
  | spread name directed => exact ⟨false, rfl⟩
  | inline conditioned directed selected => exact ⟨false, rfl⟩

/-! ### Putting in front -/

theorem prepend_of_not_owns (hk : owns k = false) :
    prepend (.ofOptions k es) = .ok (.ofOptions k es) := by
  rw [Tree.ofOptions_eq, prepend, if_neg (by simp [hk])]

/-- An owner's selections, if it has any, are put behind a type name. -/
theorem prepend_ofOptions (hk : owns k) (horder : inOrder es) {o : Option (List Tree)}
    (h : (.selectionSet, o.map .selectionSet) ∈ es) :
    prepend (.ofOptions k es) = .ok (.ofOptions k
      (replace es .selectionSet ((o.map (field :: ·)).map .selectionSet))) := by
  rw [Tree.ofOptions_eq, prepend, if_pos hk, Tree.get?_present horder h]
  cases o with
  | none =>
      rw [Option.map_none, Option.map_none, Tree.replace_self horder h]
      rfl
  | some ts =>
      have hset : (Tree.ofOptions k es).set .selectionSet (.selectionSet (field :: ts))
          = .ofOptions k (replace es .selectionSet (some (.selectionSet (field :: ts)))) :=
        Tree.set_ofOptions horder h rfl
      exact congrArg Except.ok hset

theorem signable_field : SignableSelection field := by
  have hname : IsName "__typename" :=
    ⟨'_', ['_', 't', 'y', 'p', 'e', 'n', 'a', 'm', 'e'], rfl, .inr rfl, List.all_eq_true.mp rfl⟩
  exact @SignableSelection.field none Typename.name (some []) (some []) none (by simp) hname (by simp)
    (by simp) (by simp) (by simp)

/-! ### Both -/

/-- A node whose kind is no owner has canonical type names when its attributes have. -/
theorem added_ofOptions (hk : k ≠ .selectionSet) (howns : owns k = false)
    (h : Walks Added k es es') : Added (.ofOptions k es) (.ofOptions k es') := by
  obtain ⟨es₁, hstrip, hrevise⟩ := Walks.split h
  refine ⟨.ofOptions k es₁, stripped_ofOptions hk hstrip, ?_⟩
  exact (Tree.revise_ofOptions hrevise).trans (prepend_of_not_owns howns)

/-- An owner's selections are put behind a type name once they are canonical. -/
theorem added_owner (hk : k ≠ .selectionSet) (howns : owns k) (h : Walks Added k es es')
    (horder : inOrder es') (o : Option (List Tree))
    (hset : (.selectionSet, o.map .selectionSet) ∈ es') :
    Added (.ofOptions k es)
      (.ofOptions k (replace es' .selectionSet ((o.map (field :: ·)).map .selectionSet))) := by
  obtain ⟨es₁, hstrip, hrevise⟩ := Walks.split h
  refine ⟨.ofOptions k es₁, stripped_ofOptions hk hstrip, ?_⟩
  exact (Tree.revise_ofOptions hrevise).trans (prepend_ofOptions howns horder hset)

theorem added_name (n : String) : Added (.name n) (.name n) := by
  have hwalk : Walks Added .name [(.value, some (.text n))] [(.value, some (.text n))] :=
    .kept (by decide) .nil
  exact added_ofOptions (by decide) rfl hwalk

theorem added_var (n : String) : Added (.var n) (.var n) := by
  have hwalk : Walks Added .var [(.name, some (.name n))] [(.name, some (.name n))] :=
    .walked (by decide) (.one (added_name n)) .nil
  exact added_ofOptions (by decide) rfl hwalk

theorem added_namedType (n : String) : Added (.namedType n) (.namedType n) := by
  have hwalk : Walks Added .namedType [(.name, some (.name n))] [(.name, some (.name n))] :=
    .walked (by decide) (.one (added_name n)) .nil
  exact added_ofOptions (by decide) rfl hwalk

/-- No construct below selections owns selections. -/
theorem not_owns_of_signable {c : Category} (h : Signable c t) :
    ∀ l ∈ t.kind?, l ≠ .selectionSet ∧ owns l = false := by
  induction h with
  | number kind _ => obtain rfl | rfl := kind <;> simp [Tree.kind?, owns]
  | string _ ih | nullable _ ih => exact ih
  | _ => simp [Tree.kind?, Tree.ofOptions, Tree.var, Tree.namedType, owns]

theorem added_signable {c : Category} (h : Signable c t) : ∃ u, Added t u ∧ Signable c u := by
  refine h.walk added_name added_var fun {c k es es'} hwalk hnode => ?_
  obtain ⟨hk, howns⟩ := not_owns_of_signable hnode k rfl
  exact ⟨_, added_ofOptions hk howns hwalk, hnode⟩

/-- A selection set has canonical type names when its selections have, which may be none. -/
theorem added_selectionSet (h : ∀ t ∈ ts, SignableSelection t)
    (hadded : ∀ t ∈ ts, ∃ u, Added t u ∧ SignableSelection u) :
    ∃ us, Added (.selectionSet ts) (.selectionSet us) ∧ ∀ u ∈ us, SignableSelection u := by
  obtain ⟨vs, us, hvs, hus, hall⟩ : ∃ vs us, stripSelections ts = .ok vs ∧
      List.Forall₂ (Revised prepend) vs us ∧ ∀ u ∈ us, SignableSelection u := by
    induction ts with
    | nil => exact ⟨[], [], rfl, .nil, by simp⟩
    | cons t ts ih =>
        obtain ⟨ht, hts⟩ := List.forall_mem_cons.mp h
        obtain ⟨⟨u, ⟨v, hstrip, hrevise⟩, hu⟩, haddeds⟩ := List.forall_mem_cons.mp hadded
        obtain ⟨vs, us, hvs, hus, hall⟩ := ih hts haddeds
        obtain ⟨b, hb⟩ := isTypenameField_selection ht
        cases b with
        | true =>
            refine ⟨vs, us, ?_, hus, hall⟩
            rw [stripSelections, hb]
            exact hvs
        | false =>
            have hstrip' : strip t = .ok v := hstrip
            refine ⟨v :: vs, u :: us, ?_, .cons hrevise hus, List.forall_mem_cons.mpr ⟨hu, hall⟩⟩
            rw [stripSelections, hb, not_isNull_of_strip hstrip, hstrip', hvs]
            rfl
  refine ⟨us, ⟨.selectionSet vs, ?_, Tree.revise_selectionSet hus⟩, hall⟩
  have hstripped : stripSelectionSet [(.selections, .list ts)] = .ok [(.selections, .list vs)] := by
    rw [stripSelectionSet, hvs]
    rfl
  show strip (.node .selectionSet [(.selections, .list ts)]) = .ok _
  rw [strip, hstripped]
  rfl

theorem added_list {c : Category} {o : Option (List Tree)} (h : ∀ t ∈ o.getD [], Signable c t) :
    ∃ o' : Option (List Tree), Lifted Added (o.map .list) (o'.map .list) ∧
      ∀ u ∈ o'.getD [], Signable c u :=
  Tree.exists_lifted_list fun t ht => added_signable (h t ht)

theorem added_selection (h : SignableSelection t) : ∃ u, Added t u ∧ SignableSelection u := by
  -- A selection set that there is gets the field in front; a field without one stays without.
  induction h with
  | @field label n arguments directives selections renamed name items directed filled selected ih =>
      obtain ⟨arguments', harguments, hitems⟩ := added_list items
      obtain ⟨directives', hdirectives, hdirected⟩ := added_list directed
      obtain ⟨o, hset, hselected⟩ : ∃ o : Option (List Tree), Lifted Added
          (selections.map .selectionSet) (o.map .selectionSet) ∧
          ∀ u ∈ o.getD [], SignableSelection u := by
        cases selections with
        | none => exact ⟨none, .none, by simp⟩
        | some ts =>
            obtain ⟨us, hset, hselected⟩ := added_selectionSet selected ih
            exact ⟨some us, .one hset, hselected⟩
      have hwalk : Walks Added .field
          [(.aliasName, label.map .name), (.name, some (.name n)),
            (.arguments, arguments.map .list), (.directives, directives.map .list),
            (.selectionSet, selections.map .selectionSet)]
          [(.aliasName, label.map .name), (.name, some (.name n)),
            (.arguments, arguments'.map .list), (.directives, directives'.map .list),
            (.selectionSet, o.map .selectionSet)] :=
        .walked (by decide) (Tree.lifted_map added_name label) (.walked (by decide)
          (.one (added_name n)) (.walked (by decide) harguments (.walked (by decide) hdirectives
          (.walked (by decide) hset .nil))))
      refine ⟨_, added_owner (by decide) rfl hwalk rfl o (by simp), ?_⟩
      have hfilled : ∀ us ∈ o.map (field :: ·), us ≠ [] := by
        cases o <;> simp
      have hselected' : ∀ u ∈ (o.map (field :: ·)).getD [], SignableSelection u := by
        cases o with
        | none => simp
        | some us => exact List.forall_mem_cons.mpr ⟨signable_field, hselected⟩
      exact .field renamed name hitems hdirected hfilled hselected'
  | @spread n directives name directed =>
      obtain ⟨directives, hdirectives, hdirected⟩ := added_list directed
      refine ⟨_, added_ofOptions (by decide) rfl ?_, .spread name hdirected⟩
      exact .walked (by decide) (.one (added_name n)) (.walked (by decide) hdirectives .nil)
  | @inline condition directives selections conditioned directed selected ih =>
      obtain ⟨directives, hdirectives, hdirected⟩ := added_list directed
      obtain ⟨selections, hset, hselected⟩ := added_selectionSet selected ih
      refine ⟨_, added_ofOptions (by decide) rfl ?_, .inline conditioned hdirected hselected⟩
      exact .walked (by decide) (Tree.lifted_map added_namedType condition)
        (.walked (by decide) hdirectives (.walked (by decide) (.one hset) .nil))

/-- A definition with canonical type names is of the same kind, under the same name. -/
theorem added_definition {n : Option String} (h : SignableDefinition k n t) :
    ∃ u, Added t u ∧ SignableDefinition k n u := by
  cases h with
  | @operation description o n vars directives selections described name declared directed filled
      selected =>
      obtain ⟨description', hdescription, hdescribed⟩ := Tree.exists_lifted_option
        fun d hd => added_signable (described d hd)
      obtain ⟨vars', hvars, hdeclared⟩ := added_list declared
      obtain ⟨directives', hdirectives, hdirected⟩ := added_list directed
      obtain ⟨us, hset, hselected⟩ := added_selectionSet selected
        fun s hs => added_selection (selected s hs)
      have hwalk : Walks Added .operationDefinition
          [(.description, description), (.operation, some (.operation o)), (.name, n.map .name),
            (.variableDefinitions, vars.map .list), (.directives, directives.map .list),
            (.selectionSet, some (.selectionSet selections))]
          [(.description, description'), (.operation, some (.operation o)), (.name, n.map .name),
            (.variableDefinitions, vars'.map .list), (.directives, directives'.map .list),
            (.selectionSet, (some us).map .selectionSet)] :=
        .walked (by decide) hdescription (.kept (by decide) (.walked (by decide)
          (Tree.lifted_map added_name n) (.walked (by decide) hvars (.walked (by decide) hdirectives
          (.walked (by decide) (.one hset) .nil)))))
      refine ⟨_, added_owner (by decide) rfl hwalk rfl (some us) (by simp), ?_⟩
      exact .operation o hdescribed name hdeclared hdirected (by simp)
        (List.forall_mem_cons.mpr ⟨signable_field, hselected⟩)
  | @fragment description n condition vars directives selections described name declared conditioned
      directed filled selected =>
      obtain ⟨description', hdescription, hdescribed⟩ := Tree.exists_lifted_option
        fun d hd => added_signable (described d hd)
      obtain ⟨vars', hvars, hdeclared⟩ := added_list declared
      obtain ⟨directives', hdirectives, hdirected⟩ := added_list directed
      obtain ⟨us, hset, hselected⟩ := added_selectionSet selected
        fun s hs => added_selection (selected s hs)
      have hwalk : Walks Added .fragmentDefinition
          [(.description, description), (.name, some (.name n)),
            (.variableDefinitions, vars.map .list), (.typeCondition, some (.namedType condition)),
            (.directives, directives.map .list), (.selectionSet, some (.selectionSet selections))]
          [(.description, description'), (.name, some (.name n)),
            (.variableDefinitions, vars'.map .list), (.typeCondition, some (.namedType condition)),
            (.directives, directives'.map .list), (.selectionSet, (some us).map .selectionSet)] :=
        .walked (by decide) hdescription (.walked (by decide) (.one (added_name n))
          (.walked (by decide) hvars (.walked (by decide) (.one (added_namedType condition))
          (.walked (by decide) hdirectives (.walked (by decide) (.one hset) .nil)))))
      refine ⟨_, added_owner (by decide) rfl hwalk rfl (some us) (by simp), ?_⟩
      exact .fragment hdescribed name hdeclared conditioned hdirected (by simp)
        (List.forall_mem_cons.mpr ⟨signable_field, hselected⟩)

end PersistedOps.Typename

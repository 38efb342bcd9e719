import PersistedOps.Document.Signature
import PersistedOps.Proofs.Document.Literals
import PersistedOps.Proofs.Document.SelectionOrder

/-!
What a signature tells of hidden literals: nothing. Once literals are hidden all strings are alike and so
are all numbers but for their kind, which neither the order of a document nor its text depends on. So the
signature of an operation is that of the document whose literals are blank.
-/

/-! ### Sorting -/

namespace PersistedOps.Sort

open PersistedOps.Tree (KeepsLiterals mapLiterals)

variable {g : Tree → Tree}

theorem sortItems_map {key : Tree → Except Malformed Key} {h : Tree → Tree}
    (hkey : ∀ t, key (h t) = key t) (items : List Tree) :
    sortItems key (items.map h) = (sortItems key items).map (List.map h) := by
  have hkeys : (items.map h).mapM key = items.mapM key := by
    rw [List.mapM_map]
    simp only [Function.comp_def, hkey]
  rw [sortItems, sortItems, hkeys]
  cases items.mapM key with
  | error m => rfl
  | ok keys =>
      simp only [bind, Except.bind]
      split
      · rfl
      · cases keys.mapM Key.nameText with
        | error m => rfl
        | ok names =>
            refine congrArg Except.ok ?_
            rw [List.zip_map_right, ← List.map_mergeSort, List.map_map, List.map_map]
            · rfl
            · exact fun _ _ _ _ => rfl

theorem nameKey_mapLiterals (hg : KeepsLiterals g) (t : Tree) :
    nameKey (mapLiterals g false t) = nameKey t := by
  rw [nameKey, nameKey, Tree.get?_mapLiterals]
  cases t.get? .name with
  | none => rfl
  | some name =>
      rw [Option.map_some]
      simp only [Attribute.holdsValues, Tree.attr_mapLiterals]
      cases name.attr .value with
      | error m => rfl
      | ok v =>
          cases v with
          | node k attributes =>
              obtain ⟨l, others, hnode⟩ := hg.exists_node true k attributes
              simp [bind, Except.bind, Except.map, hnode]
          | _ => rfl

theorem byName_mapLiterals (hg : KeepsLiterals g) (t : Tree) :
    byName (mapLiterals g false t) = byName t := by
  rw [byName, byName, nameKey_mapLiterals hg]

theorem byKindAndName_mapLiterals (hg : KeepsLiterals g) (t : Tree) :
    byKindAndName (mapLiterals g false t) = byKindAndName t := by
  rw [byKindAndName, byKindAndName, nameKey_mapLiterals hg, Tree.kind?_mapLiterals]

theorem byVariable_mapLiterals (hg : KeepsLiterals g) (t : Tree) :
    byVariable (mapLiterals g false t) = byVariable t := by
  rw [byVariable, byVariable, Tree.attr_mapLiterals]
  cases t.attr .var with
  | error m => rfl
  | ok var =>
      simp only [Except.map, bind, Except.bind]
      rw [show Attribute.var.holdsValues = false from rfl, hg.nameOf_eq]

theorem sortAttribute_mapLiterals (hg : KeepsLiterals g) {a : Attribute}
    {key : Tree → Except Malformed Key} (ha : a.holdsValues = false)
    (hkey : ∀ t, key (mapLiterals g false t) = key t) (t : Tree) :
    sortAttribute a key (mapLiterals g false t)
      = (sortAttribute a key t).map (mapLiterals g false) := by
  rw [sortAttribute, sortAttribute, Tree.get?_mapLiterals, ha]
  cases t.get? a with
  | none => rfl
  | some v =>
      rw [Option.map_some]
      cases v with
      | list items =>
          have hset (sorted : List Tree) : (mapLiterals g false t).set a
              (.list (sorted.map (mapLiterals g false))) = mapLiterals g false (t.set a (.list sorted)) := by
            rw [← Tree.set_mapLiterals hg, ha, mapLiterals, Tree.mapLiteralsOf_eq_map]
          simp only [mapLiterals, Tree.mapLiteralsOf_eq_map, Tree.items, bind, Except.bind,
            sortItems_map hkey]
          cases sortItems key items with
          | error m => rfl
          | ok sorted => exact congrArg Except.ok (hset sorted)
      | node k attributes => rfl
      | _ => rfl

theorem kind?_set (t : Tree) (a : Attribute) (v : Tree) : (t.set a v).kind? = t.kind? := by
  cases t <;> rfl

theorem kind?_sortAttribute {a : Attribute} {key : Tree → Except Malformed Key} {t u : Tree}
    (h : sortAttribute a key t = .ok u) : u.kind? = t.kind? := by
  rw [sortAttribute] at h
  split at h
  · cases h
    rfl
  · obtain ⟨items, -, h⟩ := bind_eq_ok_iff.mp h
    obtain ⟨sorted, -, h⟩ := bind_eq_ok_iff.mp h
    cases h
    exact kind?_set _ _ _

/-- Sorting is no matter of literals. -/
theorem commutes_sortNode (hg : KeepsLiterals g) : Tree.Commutes sortNode g where
  plain t := by
    have hkinds {a : Attribute} (ha : a.holdsValues = false) :=
      sortAttribute_mapLiterals hg ha (byKindAndName_mapLiterals hg)
    have hnames {a : Attribute} (ha : a.holdsValues = false) :=
      sortAttribute_mapLiterals hg ha (byName_mapLiterals hg)
    have hvariables {a : Attribute} (ha : a.holdsValues = false) :=
      sortAttribute_mapLiterals hg ha (byVariable_mapLiterals hg)
    rw [sortNode, sortNode, Tree.kind?_mapLiterals]
    generalize t.kind?.map Kind.base = k
    cases k with
    | none => rfl
    | some k =>
        cases k with
        | document | selectionSet => exact hkinds rfl t
        | operationDefinition => exact hvariables rfl t
        | field | directive => exact hnames rfl t
        | fragmentSpread | inlineFragment => exact hnames rfl t
        | fragmentDefinition =>
            simp only [hnames (a := .directives) rfl t]
            cases sortAttribute .directives byName t with
            | error m => rfl
            | ok u => exact hvariables rfl u
        | _ => rfl
  literal {k attributes} h := by
    have hother {k : Kind} {attributes : Attributes} (h : k.isLiteral) :
        sortNode (.node k attributes) = .ok (.node k attributes) := by
      cases k <;> first | rfl | cases h
    obtain ⟨l, others, hnode, hl⟩ := @hg k attributes h
    rw [hnode, hother hl, hother h, Except.map, Tree.mapLiterals_literal h, hnode]
  kind {t u} h := by
    rw [sortNode] at h
    split at h <;> first
      | exact kind?_sortAttribute h
      | (cases h; rfl)
      | skip
    obtain ⟨v, hv, h⟩ := bind_eq_ok_iff.mp h
    exact (kind?_sortAttribute h).trans (kind?_sortAttribute hv)

end PersistedOps.Sort

/-! ### Printing -/

namespace PersistedOps

open PersistedOps.Tree (KeepsLiterals mapLiterals mapLiteralsIn mapLiteralsOf Shaped)

variable {g : Tree → Tree}

theorem toText_mapLiterals (hg : KeepsLiterals g) (value : Bool) (t : Tree) :
    (mapLiterals g value t).toText = t.toText := by
  cases t with
  | node k attributes =>
      obtain ⟨l, others, hnode⟩ := hg.exists_node value k attributes
      rw [hnode]
      rfl
  | _ => rfl

theorem truthy_mapLiterals (hg : KeepsLiterals g) (value : Bool) (t : Tree) :
    (mapLiterals g value t).truthy = t.truthy := by
  cases t with
  | node k attributes =>
      obtain ⟨l, others, hnode⟩ := hg.exists_node value k attributes
      rw [hnode]
      rfl
  | list items => cases items <;> rfl
  | _ => rfl

/-- Numbers of one kind. -/
def unify : Tree → Tree
  | .node .floatValue attributes => .node .intValue attributes
  | t => t

theorem keepsLiterals_unify : KeepsLiterals unify := by
  intro k attributes h
  cases k <;> first | exact ⟨_, _, rfl, rfl⟩ | cases h

namespace Printer

theorem valueText_mapLiteralsIn (hg : KeepsLiterals g) (attributes : Attributes) :
    valueText (mapLiteralsIn g attributes) = valueText attributes := by
  rw [valueText, valueText, Tree.get?_mapLiteralsIn]
  cases Attributes.get? attributes .value with
  | none => rfl
  | some v => exact toText_mapLiterals hg _ v

theorem operationText_mapLiteralsIn (g : Tree → Tree) (attributes : Attributes) (parts : Parts) :
    operationText (mapLiteralsIn g attributes) parts = operationText attributes parts := by
  rw [operationText, operationText, Tree.get?_mapLiteralsIn]
  cases Attributes.get? attributes .operation with
  | none => rfl
  | some v => cases v <;> rfl

/-- A node's own text is no matter of the literals among its attributes. -/
theorem nodeText_mapLiteralsIn (hg : KeepsLiterals g) (k : Kind) (attributes : Attributes)
    (parts : Parts) : nodeText k (mapLiteralsIn g attributes) parts = nodeText k attributes parts := by
  have hflag : (Attributes.get? (mapLiteralsIn g attributes) .value).any Tree.truthy
      = (Attributes.get? attributes .value).any Tree.truthy := by
    rw [Tree.get?_mapLiteralsIn, Option.any_map]
    cases Attributes.get? attributes .value with
    | none => rfl
    | some v => exact truthy_mapLiterals hg _ v
  rw [nodeText, nodeText, valueText_mapLiteralsIn hg, operationText_mapLiteralsIn, hflag]

theorem attributeParts_literal {k : Kind} (h : k.isLiteral) (attributes : Attributes) :
    attributeParts k attributes = .ok [] := by
  induction attributes with
  | nil => rfl
  | cons e attributes ih =>
      rw [attributeParts, Tree.visited_of_isLiteral h, if_neg List.not_mem_nil, ih]

theorem part_unify_literal {k : Kind} (h : k.isLiteral) (attributes : Attributes) :
    part (unify (.node k attributes)) = part (.node k attributes) := by
  cases k with
  | floatValue =>
      rw [unify, part, part, attributeParts_literal rfl, attributeParts_literal rfl]
      rfl
  | _ => rfl

mutual

/-- The text of a number does not tell its kind. -/
theorem part_unify (value : Bool) : (t : Tree) → part (mapLiterals unify value t) = part t
  | .node k attributes => by
    by_cases hliteral : (value && k.isLiteral) = true
    · obtain ⟨rfl, hk⟩ := Bool.and_eq_true_iff.mp hliteral
      rw [Tree.mapLiterals_literal hk, part_unify_literal hk]
    · rw [Tree.mapLiterals_node (Bool.eq_false_iff.mpr hliteral), part, part,
        attributeParts_unify k attributes]
      simp only [nodeText_mapLiteralsIn keepsLiterals_unify]
  | .list items => by
    rw [mapLiterals, part, part, itemTexts_unify value items]
  | .dict _ => rfl
  | .scalar _ => rfl
  | .operation _ => rfl

theorem attributeParts_unify (k : Kind) : (attributes : List (Attribute × Tree)) →
    attributeParts k (mapLiteralsIn unify attributes) = attributeParts k attributes
  | [] => rfl
  | (a, t) :: rest => by
    rw [mapLiteralsIn, attributeParts, attributeParts, part_unify _ t, attributeParts_unify k rest]

theorem itemTexts_unify (value : Bool) : (items : List Tree) →
    itemTexts (mapLiteralsOf unify value items) = itemTexts items
  | [] => rfl
  | t :: rest => by
    rw [mapLiteralsOf, itemTexts, itemTexts, keepsLiterals_unify.isNull_eq, part_unify value t,
      itemTexts_unify value rest]

end

theorem print_unify (value : Bool) (t : Tree) : print (mapLiterals unify value t) = print t := by
  rw [print, print, part_unify]

end Printer

namespace Signature

theorem kind?_hexNode {t u : Tree} (h : hexNode t = .ok u) : u.kind? = t.kind? := by
  rw [hexNode] at h
  split at h
  · obtain ⟨v, -, h⟩ := bind_eq_ok_iff.mp h
    obtain ⟨s, -, h⟩ := bind_eq_ok_iff.mp h
    cases h
    rw [Sort.kind?_set, Sort.kind?_set]
  · cases h
    rfl

theorem commutes_hexNode : Tree.Commutes hexNode unify where
  plain t := by
    have hset (s : String) : ((mapLiterals unify false t).set .value (.text s)).set .block
        (.scalar (.bool false)) = mapLiterals unify false ((t.set .value (.text s)).set .block
        (.scalar (.bool false))) := by
      have hvalue := Tree.set_mapLiterals keepsLiterals_unify t .value (.text s)
      have hblock := Tree.set_mapLiterals keepsLiterals_unify (t.set .value (.text s)) .block
        (.scalar (.bool false))
      have htext : mapLiterals unify Attribute.value.holdsValues (.text s) = .text s := rfl
      have hflag : mapLiterals unify Attribute.block.holdsValues (.scalar (.bool false))
          = .scalar (.bool false) := rfl
      rw [htext] at hvalue
      rw [hflag] at hblock
      rw [hvalue, hblock]
    rw [hexNode, hexNode, Tree.kind?_mapLiterals, Tree.attr_mapLiterals]
    split
    · cases t.attr .value with
      | error m => rfl
      | ok v =>
          simp only [Except.map, bind, Except.bind, toText_mapLiterals keepsLiterals_unify]
          cases v.toText with
          | error m => rfl
          | ok s => exact congrArg Except.ok (hset _)
    · rfl
  literal {k attributes} h := by
    cases k with
    | stringValue =>
        show hexNode (.node .stringValue attributes) = _
        cases hhex : hexNode (.node .stringValue attributes) with
        | error m => rfl
        | ok u =>
            have hkind := kind?_hexNode hhex
            cases u with
            | node l others =>
                cases hkind
                rfl
            | _ => cases hkind
    | _ => first | rfl | cases h
  kind := kind?_hexNode

theorem printReduced_unify (t : Tree) : printReduced (mapLiterals unify false t) = printReduced t := by
  rw [printReduced, printReduced, Tree.revise_mapLiterals keepsLiterals_unify commutes_hexNode]
  cases t.revise hexNode with
  | error m => rfl
  | ok u =>
      simp only [Except.map, bind, Except.bind, Printer.print_unify]

end Signature

/-! ### Hiding -/

/-- A literal with nothing left of its value. -/
def hidden : Tree → Tree
  | .node .stringValue _ => .ofOptions .stringValue
      [(.value, some (.text "")), (.block, (some false).map fun b => .scalar (.bool b))]
  | .node k _ => .node k [(.value, .text "0")]
  | t => t

/-- A literal with nothing left but whether it is a string. -/
def blank (t : Tree) : Tree := unify (hidden t)

theorem keepsLiterals_hidden : KeepsLiterals hidden := by
  intro k attributes h
  cases k <;> first | exact ⟨_, _, rfl, rfl⟩ | cases h

theorem keepsLiterals_blank : KeepsLiterals blank := by
  intro k attributes h
  cases k <;> first | exact ⟨_, _, rfl, rfl⟩ | cases h

namespace Tree

variable {value : Bool} {k : Kind} {attributes : Attributes} {items : List Tree} {t : Tree}

theorem IsLiteral.hide_eq (h : IsLiteral t) :
    Literals.hide t = .ok (hidden t) ∧ mapLiterals hidden true t = hidden t := by
  cases h with
  | string s block => cases block <;> exact ⟨rfl, rfl⟩
  | number kind s => obtain rfl | rfl := kind <;> exact ⟨rfl, rfl⟩

theorem hideNode_of_not_literal (h : k.isLiteral = false) :
    Literals.hideNode (.node k attributes) = .ok (.node k attributes) := by
  cases k <;> first | rfl | cases h

theorem reviseAttributes_hide
    (hparts : ∀ e ∈ attributes, e.1 ∈ k.visited →
      Literals.hide e.2 = .ok (mapLiterals hidden e.1.holdsValues e.2))
    (hatoms : ∀ e ∈ attributes, e.1 ∉ k.visited → e.2.isAtom) :
    reviseAttributes Literals.hideNode k attributes = .ok (mapLiteralsIn hidden attributes) := by
  induction attributes with
  | nil => rfl
  | cons e attributes ih =>
      obtain ⟨hpart, hotherParts⟩ := List.forall_mem_cons.mp hparts
      obtain ⟨hatom, hotherAtoms⟩ := List.forall_mem_cons.mp hatoms
      obtain ⟨a, t⟩ := e
      rw [reviseAttributes, mapLiteralsIn, ih hotherParts hotherAtoms]
      by_cases ha : a ∈ k.visited
      · have hrevise : t.revise Literals.hideNode = _ := hpart ha
        rw [if_pos ha, hrevise]
        rfl
      · rw [if_neg ha, mapLiterals_of_atom (hatom ha)]
        rfl

theorem reviseItems_hide (h : ∀ t ∈ items, Shaped value t)
    (hhide : ∀ t ∈ items, Literals.hide t = .ok (mapLiterals hidden value t)) :
    reviseItems Literals.hideNode items = .ok (mapLiteralsOf hidden value items) := by
  induction items with
  | nil => rfl
  | cons t items ih =>
      obtain ⟨ht, hrest⟩ := List.forall_mem_cons.mp h
      obtain ⟨hhidden, hothers⟩ := List.forall_mem_cons.mp hhide
      have hrevise : t.revise Literals.hideNode = _ := hhidden
      rw [reviseItems, ht.executable.not_isNull, hrevise, ih hrest hothers]
      rfl

/-- Hiding reaches every literal. -/
theorem Shaped.hide_eq (h : Shaped value t) :
    Literals.hide t = .ok (mapLiterals hidden value t) := by
  induction h with
  | literal h => rw [h.hide_eq.1, h.hide_eq.2]
  | @node value k attributes other _ _ atoms _ _ _ ih =>
      rw [Literals.hide, revise, reviseAttributes_hide ih atoms,
        mapLiterals_node (by rw [other, Bool.and_false])]
      exact hideNode_of_not_literal other
  | list each ih =>
      rw [Literals.hide, revise, reviseItems_hide each ih]
      rfl

end Tree

/-! ### Hiding once more -/

namespace Tree

variable {f : Tree → Except Malformed Tree}

/-- A revision of nodes changes a node no more once what is below the node is revised. -/
def Settles (f : Tree → Except Malformed Tree) : Prop :=
  ∀ {k attributes u}, reviseAttributes f k attributes = .ok attributes →
    f (.node k attributes) = .ok u → u.revise f = .ok u

mutual

/-- What is revised is revised to itself. -/
theorem revise_revise (hf : Settles f) : (t : Tree) → ∀ {u}, t.revise f = .ok u → u.revise f = .ok u
  | .node k attributes => by
    intro h
    rw [revise] at h
    obtain ⟨revised, hrevised, hu⟩ := bind_eq_ok_iff.mp h
    exact hf (reviseAttributes_revised hf k attributes hrevised) hu
  | .list items => by
    intro h
    rw [revise] at h
    obtain ⟨revised, hrevised, hu⟩ := bind_eq_ok_iff.mp h
    cases hu
    rw [revise, reviseItems_revised hf items hrevised]
    rfl
  | .dict _ => nofun
  | .scalar _ => nofun
  | .operation _ => nofun

theorem reviseAttributes_revised (hf : Settles f) (k : Kind) :
    (attributes : List (Attribute × Tree)) → ∀ {revised}, reviseAttributes f k attributes = .ok revised → reviseAttributes f k revised = .ok revised
  | [] => by
    intro h
    cases h
    rfl
  | (a, t) :: rest => by
    intro h
    rw [reviseAttributes] at h
    by_cases ha : a ∈ k.visited
    · rw [if_pos ha] at h
      obtain ⟨u, hu, h⟩ := bind_eq_ok_iff.mp h
      obtain ⟨others, hothers, h⟩ := bind_eq_ok_iff.mp h
      cases h
      rw [reviseAttributes, if_pos ha, revise_revise hf t hu, reviseAttributes_revised hf k rest hothers]
      rfl
    · rw [if_neg ha] at h
      obtain ⟨others, hothers, h⟩ := bind_eq_ok_iff.mp h
      cases h
      rw [reviseAttributes, if_neg ha, reviseAttributes_revised hf k rest hothers]
      rfl

theorem reviseItems_revised (hf : Settles f) : (items : List Tree) → ∀ {revised},
    reviseItems f items = .ok revised → reviseItems f revised = .ok revised
  | [] => by
    intro h
    cases h
    rfl
  | t :: rest => by
    intro h
    rw [reviseItems] at h
    by_cases hnull : t.isNull = true
    · rw [if_pos hnull] at h
      obtain ⟨others, hothers, h⟩ := bind_eq_ok_iff.mp h
      cases h
      rw [reviseItems, if_pos hnull, reviseItems_revised hf rest hothers]
      rfl
    · rw [if_neg hnull] at h
      obtain ⟨u, hu, h⟩ := bind_eq_ok_iff.mp h
      obtain ⟨others, hothers, h⟩ := bind_eq_ok_iff.mp h
      cases h
      rw [reviseItems, revise_revise hf t hu, reviseItems_revised hf rest hothers]
      split <;> rfl

end

end Tree

namespace Attributes

variable {a b : Attribute} {v w : Tree} {attributes : Attributes}

theorem set_set (hv : v.isNull = false) (attributes : Attributes) :
    set (set attributes a v) a v = set attributes a v := by
  have hself (rest : Attributes) : set ((a, v) :: rest) a v = (a, v) :: rest := by
    rw [set, if_pos rfl, hv]
    rfl
  induction attributes with
  | nil =>
      rw [set, hv]
      exact hself []
  | cons e attributes ih =>
      obtain ⟨c, old⟩ := e
      rw [set, hv]
      by_cases hac : a = c
      · rw [if_pos hac]
        exact hself _
      · rw [if_neg hac]
        by_cases hlt : a.rank < c.rank
        · rw [if_pos hlt]
          exact hself _
        · rw [if_neg hlt, set, if_neg hac, if_neg hlt, ih]

/-- An attribute that is set stays so when a later one is. -/
theorem set_of_set (hv : v.isNull = false) (hab : a.rank < b.rank)
    (h : set attributes a v = attributes) : set (set attributes b w) a v = set attributes b w := by
  have hne {c : Attribute} (hc : c.rank ≤ a.rank) : b ≠ c := by
    rintro rfl
    omega
  induction attributes with
  | nil =>
      rw [set, hv] at h
      cases h
  | cons e attributes ih =>
      obtain ⟨c, old⟩ := e
      rw [set, hv] at h
      by_cases hac : a = c
      · subst hac
        rw [if_pos rfl] at h
        rw [set, if_neg (hne le_rfl), if_neg (by omega), set, if_pos rfl, hv]
        cases h
        rfl
      · rw [if_neg hac] at h
        by_cases hlt : a.rank < c.rank
        · rw [if_pos hlt] at h
          exact absurd (congrArg List.length h) (by simp)
        · rw [if_neg hlt] at h
          rw [set, if_neg (hne (by omega)), if_neg (by omega), set, if_neg hac, if_neg hlt,
            ih (List.cons_inj_right _ |>.mp h)]

end Attributes

namespace Literals

/-- A hidden literal is hidden to itself. -/
theorem settles_hideNode : Tree.Settles hideNode := by
  intro k attributes u hattributes hu
  by_cases hliteral : k.isLiteral = true
  · have hvalue (v : Tree) (hv : v.isNull = false) := Attributes.set_set (a := .value) hv attributes
    cases k with
    | stringValue =>
        cases hu
        refine (Tree.revise_literal rfl _).trans ?_
        refine congrArg (fun l => Except.ok (Tree.node .stringValue l)) ?_
        show Attributes.set (Attributes.set (Attributes.set (Attributes.set attributes .value _)
          .block _) .value _) .block _ = _
        rw [Attributes.set_of_set rfl (by decide) (hvalue _ rfl), Attributes.set_set rfl]
    | intValue | floatValue =>
        cases hu
        refine (Tree.revise_literal rfl _).trans ?_
        exact congrArg (fun l => Except.ok (Tree.node _ l)) (hvalue _ rfl)
    | _ => cases hliteral
  · have hself : hideNode (.node k attributes) = .ok (.node k attributes) :=
      Tree.hideNode_of_not_literal (Bool.eq_false_iff.mpr hliteral)
    cases hself.symm.trans hu
    rw [Tree.revise, hattributes]
    exact hself

/-- Literals that are hidden are hidden already. -/
theorem hide_hide {t u : Tree} (h : hide t = .ok u) : hide u = .ok u :=
  Tree.revise_revise settles_hideNode t h

end Literals

/-! ### Documents that differ in literals -/

/-- A string of a value, with a block flag or none. -/
def stringLiteral (s : String) (block : Option Bool) : Tree := .ofOptions .stringValue
  [(.value, some (.text s)), (.block, block.map fun b => .scalar (.bool b))]

/-- Trees that differ in literals alone, at any depth: strings in their values and block flags, numbers
in their values and in whether they are whole. -/
inductive LiteralsDiffer : Tree → Tree → Prop
  | string (s s' : String) (block block' : Option Bool) :
      LiteralsDiffer (stringLiteral s block) (stringLiteral s' block')
  | number {k k' : Kind} (kind : k = .intValue ∨ k = .floatValue)
      (kind' : k' = .intValue ∨ k' = .floatValue) (s s' : String) :
      LiteralsDiffer (.node k [(.value, .text s)]) (.node k' [(.value, .text s')])
  | same (t : Tree) : LiteralsDiffer t t
  | node {k : Kind} {attributes attributes' : Attributes}
      (names : attributes.map (·.1) = attributes'.map (·.1))
      (each : ∀ p ∈ attributes.zip attributes', LiteralsDiffer p.1.2 p.2.2) :
      LiteralsDiffer (.node k attributes) (.node k attributes')
  | list {items items' : List Tree} (length : items.length = items'.length)
      (each : ∀ p ∈ items.zip items', LiteralsDiffer p.1 p.2) :
      LiteralsDiffer (.list items) (.list items')

namespace LiteralsDiffer

variable {g : Tree → Tree} {value : Bool} {k : Kind} {attributes attributes' : Attributes}
  {items items' : List Tree} {t u : Tree}

theorem eq_of_atom (h : LiteralsDiffer t u) (ht : t.isAtom) : u = t := by
  cases h with
  | same => rfl
  | _ => cases ht

theorem mapLiteralsIn_congr (names : attributes.map (·.1) = attributes'.map (·.1))
    (h : ∀ p ∈ attributes.zip attributes',
      mapLiterals g p.1.1.holdsValues p.1.2 = mapLiterals g p.1.1.holdsValues p.2.2) :
    mapLiteralsIn g attributes = mapLiteralsIn g attributes' := by
  induction attributes generalizing attributes' with
  | nil => rw [List.map_eq_nil_iff.mp names.symm]
  | cons e attributes ih =>
      cases attributes' with
      | nil => cases names
      | cons e' attributes' =>
          obtain ⟨a, t⟩ := e
          obtain ⟨a', t'⟩ := e'
          obtain ⟨rfl, hrest⟩ := List.cons.inj names
          rw [List.zip_cons_cons, List.forall_mem_cons] at h
          rw [mapLiteralsIn, mapLiteralsIn, h.1, ih hrest h.2]

theorem mapLiteralsOf_congr (length : items.length = items'.length)
    (h : ∀ p ∈ items.zip items', mapLiterals g value p.1 = mapLiterals g value p.2) :
    mapLiteralsOf g value items = mapLiteralsOf g value items' := by
  rw [Tree.mapLiteralsOf_eq_map, Tree.mapLiteralsOf_eq_map]
  refine (map_eq_of_forall₂ (List.forall₂_iff_zip.mpr ⟨length, fun {t u} hp => ?_⟩)).symm
  exact (h (t, u) hp).symm

/-- In the atoms that a literal holds nothing differs. -/
theorem eq_of_isLiteral (names : attributes.map (·.1) = attributes'.map (·.1))
    (each : ∀ p ∈ attributes.zip attributes', LiteralsDiffer p.1.2 p.2.2)
    (h : Tree.IsLiteral (.node k attributes)) : attributes' = attributes := by
  have hlength := congrArg List.length names
  rw [List.length_map, List.length_map] at hlength
  refine List.ext_getElem hlength.symm fun i hi hi' => ?_
  have hzip : i < (attributes.zip attributes').length := by
    rw [List.length_zip]
    exact lt_min hi' hi
  have hmem : (attributes[i], attributes'[i]) ∈ attributes.zip attributes' := by
    have hget := List.getElem_mem hzip
    rwa [List.getElem_zip] at hget
  have hname : attributes[i].1 = attributes'[i].1 := by
    have hget := congrArg (·[i]?) names
    simpa [hi, hi'] using hget
  exact Prod.ext hname.symm ((each _ hmem).eq_of_atom (h.isAtom_of_mem _ (List.getElem_mem _)))

/-- Shaped trees that differ in literals alone are one tree once the literals are blank. -/
theorem blank_eq (h : LiteralsDiffer t u) (ht : Shaped value t) :
    mapLiterals blank value t = mapLiterals blank value u := by
  induction h generalizing value with
  | string s s' block block' =>
      cases ht with
      | literal => rfl
      | node other => cases other
  | number kind kind' s s' =>
      cases ht with
      | literal => obtain rfl | rfl := kind <;> obtain rfl | rfl := kind' <;> rfl
      | node other => obtain rfl | rfl := kind <;> cases other
  | same t => rfl
  | @node k attributes attributes' names each ih =>
      cases ht with
      | literal hliteral => rw [eq_of_isLiteral names each hliteral]
      | node other _ parts atoms =>
          have hplain : (value && k.isLiteral) = false := by rw [other, Bool.and_false]
          rw [Tree.mapLiterals_node hplain, Tree.mapLiterals_node hplain]
          refine congrArg (Tree.node k) (mapLiteralsIn_congr names fun p hp => ?_)
          have hmem := (List.of_mem_zip hp).1
          by_cases ha : p.1.1 ∈ k.visited
          · exact ih p hp (parts _ hmem ha)
          · rw [(each p hp).eq_of_atom (atoms _ hmem ha)]
  | list length _ ih =>
      cases ht with
      | literal hliteral => cases hliteral
      | list hitems =>
          refine congrArg Tree.list (mapLiteralsOf_congr length fun p hp => ?_)
          exact ih p hp (hitems _ (List.of_mem_zip hp).1)

end LiteralsDiffer

/-! ### Signatures -/

theorem Separate.closure_subset {names : List Scalar} {position : Nat} {ds : List (Tree × Nat)}
    {closed : List Tree} (h : closure names position ds = .ok closed) :
    ∀ d ∈ closed, ∃ i, (d, i) ∈ ds := by
  induction ds generalizing closed with
  | nil =>
      cases h
      simp
  | cons e ds ih =>
      rw [closure] at h
      have hothers {keep : Bool} {closed : List Tree} (h : (do
          let others ← closure names position ds
          return if keep then e.1 :: others else others) = Except.ok closed) :
          ∀ d ∈ closed, ∃ i, (d, i) ∈ e :: ds := by
        obtain ⟨others, hothers, heq⟩ := bind_eq_ok_iff.mp h
        have hrest : ∀ d ∈ others, ∃ i, (d, i) ∈ e :: ds := fun d hd =>
          (ih hothers d hd).imp fun _ hi => List.mem_cons_of_mem _ hi
        cases heq
        split
        · exact List.forall_mem_cons.mpr ⟨⟨e.2, List.mem_cons_self⟩, hrest⟩
        · exact hrest
      split at h
      · exact hothers h
      · obtain ⟨keep, -, h⟩ := bind_eq_ok_iff.mp h
        exact hothers h

/-- The closed documents of a well-formed document are well-formed. -/
theorem WellFormed.closed {d : Tree} {separated : Entries Tree} (h : WellFormed d)
    (hseparated : Separate.ofDocument d = .ok separated) : ∀ e ∈ separated, WellFormed e.2 := by
  obtain ⟨ds, hds, hseparated⟩ := bind_eq_ok_iff.mp hseparated
  obtain ⟨spreading, -, hseparated⟩ := bind_eq_ok_iff.mp hseparated
  have hgrammatical : ∀ d ∈ ds, Grammatical .definition d := by
    obtain @⟨definitions, items⟩ := h
    cases definitions with
    | none => cases hds
    | some definitions =>
        cases hds
        exact items
  refine foldlM_induction (P := fun separated => ∀ e ∈ separated, WellFormed e.2)
    (fun d _ acc acc' hacc hstep => ?_) (by simp) hseparated
  obtain ⟨start, -, hstep⟩ := bind_eq_ok_iff.mp hstep
  obtain ⟨key, -, hstep⟩ := bind_eq_ok_iff.mp hstep
  obtain ⟨closed, hclosed, hstep⟩ := bind_eq_ok_iff.mp hstep
  cases hstep
  intro e he
  obtain hvalue | hold := Entries.value_of_mem_put he
  · have hitems : ∀ d ∈ (some closed).getD [], Grammatical .definition d := by
      intro d hd
      obtain ⟨i, hi⟩ := Separate.closure_subset hclosed d hd
      obtain ⟨-, -, hmem⟩ := List.mem_zipIdx hi
      exact hgrammatical d (hmem ▸ List.getElem_mem _)
    rw [hvalue]
    exact .document hitems
  · exact hacc e hold

namespace Signature

variable {d d' : Tree}

theorem closeOver_mapLiterals {g : Tree → Tree} (hg : KeepsLiterals g) (d : Tree) (name : String) :
    closeOver (mapLiterals g false d) name = (closeOver d name).map (mapLiterals g false) := by
  rw [closeOver, closeOver, Separate.ofDocument_mapLiterals hg]
  cases Separate.ofDocument d with
  | error m => rfl
  | ok separated =>
      simp only [Except.map, Entries.get?_mapValues]
      cases separated.get? (.text name) <;> rfl

theorem wellFormed_of_closeOver {closed : Tree} {name : String} (h : WellFormed d)
    (hclosed : closeOver d name = .ok closed) : WellFormed closed := by
  rw [closeOver] at hclosed
  split at hclosed
  · cases hclosed
  · rename_i separated hseparated
    split at hclosed
    · rename_i found
      cases hclosed
      exact h.closed hseparated _ (Entries.mem_of_get?_text found)
    · cases hclosed

/-- What stands for a closed document of hidden literals is told by the document of blank ones. -/
theorem ofClosed_eq_blank {closed : Tree} (h : WellFormed closed) :
    ofClosed false closed = (Sort.sort (mapLiterals blank false closed) >>= printReduced) := by
  have hblank : mapLiterals blank false closed
      = mapLiterals unify false (mapLiterals hidden false closed) :=
    (Tree.mapLiterals_mapLiterals keepsLiterals_hidden false closed).symm
  rw [ofClosed, if_neg Bool.false_ne_true, h.shaped.hide_eq, hblank, Sort.sort,
    Tree.revise_mapLiterals keepsLiterals_unify (Sort.commutes_sortNode keepsLiterals_unify)]
  show (Tree.revise Sort.sortNode (mapLiterals hidden false closed) >>= printReduced) = _
  cases Tree.revise Sort.sortNode (mapLiterals hidden false closed) with
  | error m => rfl
  | ok sorted => exact (printReduced_unify sorted).symm

/-- Each operation of a well-formed document has a signature. -/
theorem exists_ofOperation {literals : Bool} {name : String} {ds : List Tree} (h : WellFormed d)
    (hds : d.definitions = .ok ds) (hname : ∃ o ∈ ds, o.kind? = some .operationDefinition ∧
      Separate.keyOf o = .ok (.text name)) : ∃ s, ofOperation d name literals = .ok s := by
  obtain rfl : d = .document ds := by
    obtain @⟨definitions, -⟩ := h
    cases definitions with
    | none => cases hds
    | some definitions =>
        cases hds
        rfl
  have hsame : List.Forall₂ Rearranged ds ds := List.forall₂_same.mpr fun d _ => .same d
  obtain ⟨separated, _, hseparated, -, hrelated⟩ := Separate.exists_ofDocument
    (turned_of_rearranged (allSignable_of_wellFormed h) hsame)
  obtain ⟨o, ho, hkind, hkey⟩ := hname
  obtain ⟨closed, hclosed⟩ := Separate.exists_get?_ofDocument hseparated ho hkind hkey
  obtain ⟨_, -, cs, _, rfl, -, hcs⟩ := hrelated.exists_get? hclosed
  obtain ⟨s, hs⟩ := exists_ofClosed (allSignable_left hcs) literals
  refine ⟨s, ?_⟩
  rw [ofOperation, closeOver, hseparated]
  simp only [hclosed, hs]

/-- A signature that keeps no literals is that of any document which differs in literals alone. An
operation of the document has one, and literals that are hidden are hidden once and for all. -/
theorem ofOperation_of_literals (h : WellFormed d) (h' : WellFormed d')
    (differ : LiteralsDiffer d d') :
    (∀ name, ofOperation d name false = ofOperation d' name false) ∧
    (∀ name ds, d.definitions = .ok ds → (∃ o ∈ ds, o.kind? = some .operationDefinition ∧
      Separate.keyOf o = .ok (.text name)) → ∃ s, ofOperation d name false = .ok s) ∧
    (∃ u, Literals.hide d = .ok u) ∧ ∀ t u, Literals.hide t = .ok u → Literals.hide u = .ok u := by
  refine ⟨fun name => ?_, fun name ds hds hname => ?_, ⟨_, h.shaped.hide_eq⟩,
    fun t u => Literals.hide_hide⟩
  · have hclosed : (closeOver d name).map (mapLiterals blank false)
        = (closeOver d' name).map (mapLiterals blank false) := by
      rw [← closeOver_mapLiterals keepsLiterals_blank, ← closeOver_mapLiterals keepsLiterals_blank,
        differ.blank_eq h.shaped]
    rw [ofOperation, ofOperation]
    cases hleft : closeOver d name with
    | error e =>
        cases hright : closeOver d' name with
        | error e' =>
            rw [hleft, hright] at hclosed
            cases hclosed
            rfl
        | ok closed' =>
            rw [hleft, hright] at hclosed
            cases hclosed
    | ok closed =>
        cases hright : closeOver d' name with
        | error e' =>
            rw [hleft, hright] at hclosed
            cases hclosed
        | ok closed' =>
            rw [hleft, hright] at hclosed
            have hblank : mapLiterals blank false closed = mapLiterals blank false closed' :=
              Except.ok.inj hclosed
            simp only [ofClosed_eq_blank (wellFormed_of_closeOver h hleft),
              ofClosed_eq_blank (wellFormed_of_closeOver h' hright), hblank]
  · exact exists_ofOperation h hds hname

/-- A text and a list of one number as arguments. -/
def askingArguments (text number : Tree) : List Tree :=
  [.node .argument [(.name, .name "a"), (.value, text)],
    .node .argument [(.name, .name "b"),
      (.value, .ofOptions .listValue [(.values, (some [number]).map .list)])]]

/-- A field with a text and a list of one number for its arguments. -/
def askingField (text number : Tree) : Tree := .ofOptions .field
  [(.aliasName, (none : Option String).map .name), (.name, some (.name "f")),
    (.arguments, (some (askingArguments text number)).map .list),
    (.directives, (none : Option (List Tree)).map .list), (.selectionSet, none)]

/-- A query for that field. -/
def asking (text number : Tree) : Tree := .ofOptions .operationDefinition
  [(.description, none), (.operation, some (.operation .query)), (.name, (some "Q").map .name),
    (.variableDefinitions, (none : Option (List Tree)).map .list),
    (.directives, (none : Option (List Tree)).map .list),
    (.selectionSet, some (.node .selectionSet [(.selections, .list [askingField text number])]))]

theorem wellFormed_asking {text number : Tree} (htext : Grammatical .value text)
    (hnumber : Grammatical .value number) : WellFormed (.document [asking text number]) := by
  have hname {n : String} {c : Char} (hn : n.toList = [c]) (hc : c.isAlpha) : IsName n :=
    ⟨c, [], hn, .inl hc, by simp⟩
  have hnumbers : ∀ t ∈ (some [number]).getD [], Grammatical .value t := by simpa using hnumber
  have harguments : ∀ t ∈ (some (askingArguments text number)).getD [], Grammatical .argument t :=
    List.forall_mem_cons.mpr ⟨.argument (hname rfl rfl) htext,
      List.forall_mem_singleton.mpr (.argument (hname rfl rfl) (.list hnumbers))⟩
  have hfield : Grammatical .selection (askingField text number) :=
    .field (by simp) (hname rfl rfl) harguments (by simp) (by simp)
  have hdefinition : Grammatical .definition (asking text number) :=
    .operation .query (by simp) (by simpa using hname rfl rfl) (by simp) (by simp)
      (.selectionSet (by simp) (List.forall_mem_singleton.mpr hfield))
  have hdefinitions : ∀ t ∈ (some [asking text number]).getD [], Grammatical .definition t :=
    List.forall_mem_singleton.mpr hdefinition
  exact .document hdefinitions

theorem literalsDiffer_asking {text text' number number' : Tree} (htext : LiteralsDiffer text text')
    (hnumber : LiteralsDiffer number number') :
    LiteralsDiffer (.document [asking text number]) (.document [asking text' number']) := by
  have hone (k : Kind) (a : Attribute) {t u : Tree} (h : LiteralsDiffer t u) :
      LiteralsDiffer (.node k [(a, t)]) (.node k [(a, u)]) := .node rfl (by simpa using h)
  have hitem {t u : Tree} (h : LiteralsDiffer t u) : LiteralsDiffer (.list [t]) (.list [u]) :=
    .list rfl (by simpa using h)
  have hargument (n : String) {t u : Tree} (h : LiteralsDiffer t u) :
      LiteralsDiffer (.node .argument [(.name, .name n), (.value, t)])
        (.node .argument [(.name, .name n), (.value, u)]) :=
    .node rfl (by simpa using ⟨.same _, h⟩)
  have harguments : LiteralsDiffer (.list (askingArguments text number))
      (.list (askingArguments text' number')) :=
    .list rfl (by simpa [askingArguments] using
      ⟨hargument "a" htext, hargument "b" (hone .listValue .values (hitem hnumber))⟩)
  have hfield : LiteralsDiffer (askingField text number) (askingField text' number') :=
    .node rfl (by simpa using ⟨.same _, harguments⟩)
  have hdefinition : LiteralsDiffer (asking text number) (asking text' number') :=
    .node rfl (by simpa using ⟨.same _, .same _, hone .selectionSet .selections (hitem hfield)⟩)
  exact hone .document .definitions (hitem hdefinition)

/-- A string and a whole number, and a block string and a number that is not whole. -/
theorem ofOperation_of_literals_asking :
    let d := Tree.document [asking (stringLiteral "a" none) (.node .intValue [(.value, .text "1")])]
    let d' := Tree.document [asking (stringLiteral "b\n" (some true))
      (.node .floatValue [(.value, .text "-2.5")])]
    WellFormed d ∧ WellFormed d' ∧ LiteralsDiffer d d' ∧
      ∃ s, ofOperation d "Q" false = .ok s ∧ ofOperation d' "Q" false = .ok s := by
  intro d d'
  have hdigit : IsInt "1".toList :=
    ⟨[], by simp, ['1'], ⟨by simp, by simp⟩, by decide, rfl⟩
  have hnumber : IsFloat "-2.5".toList :=
    ⟨['-', '2'], ['.', '5'], [], ⟨['-'], by simp, ['2'], ⟨by simp, by simp⟩, by decide, rfl⟩,
      .inr ⟨['5'], ⟨by simp, by simp⟩, rfl⟩, .inl rfl, by simp, rfl⟩
  have hd : WellFormed d := wellFormed_asking (.string (.literal "a" none)) (.int hdigit)
  have hd' : WellFormed d' :=
    wellFormed_asking (.string (.literal "b\n" (some true))) (.float hnumber)
  have hdiffer : LiteralsDiffer d d' :=
    literalsDiffer_asking (.string _ _ _ _) (.number (.inl rfl) (.inr rfl) _ _)
  obtain ⟨hsame, hsome, -, -⟩ := ofOperation_of_literals hd hd' hdiffer
  obtain ⟨s, hs⟩ := hsome "Q" _ rfl ⟨_, List.mem_singleton_self _, rfl, rfl⟩
  exact ⟨hd, hd', hdiffer, s, hs, hsame "Q" ▸ hs⟩

end Signature

end PersistedOps

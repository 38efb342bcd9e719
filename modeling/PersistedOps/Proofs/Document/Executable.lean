import PersistedOps.Proofs.Document.Traversal

/-!
Executable documents as traversals meet them. A traversal walks all nodes of such a document, and what
it does not walk are atoms. The documents that the grammar makes are among them, and so are those with
empty selection sets or with names that no grammar knows. In those of the grammar's shape, strings and
numbers stand nowhere but in place of values.
-/

namespace PersistedOps

/-- Whether values stand under an attribute. -/
def Attribute.holdsValues : Attribute → Bool
  | .value | .values | .defaultValue | .description => true
  | _ => false

/-- The kinds of strings and numbers. -/
def Kind.isLiteral : Kind → Bool
  | .intValue | .floatValue | .stringValue => true
  | _ => false

/-- The constructs that stand where values do. -/
def Category.isValue : Category → Bool
  | .literal | .value => true
  | _ => false

/-- What changes each attribute changes the one that is looked up. -/
theorem Attributes.get?_map (f : Attribute → Tree → Tree) (attributes : Attributes) (a : Attribute) :
    Attributes.get? (attributes.map fun e => (e.1, f e.1 e.2)) a =
      (Attributes.get? attributes a).map (f a) := by
  induction attributes with
  | nil => rfl
  | cons e attributes ih =>
      obtain ⟨b, t⟩ := e
      simp only [Attributes.get?, List.map_cons, List.lookup_cons] at ih ⊢
      cases hb : a == b with
      | true => rw [beq_iff_eq.mp hb, Option.map_some]
      | false => exact ih

namespace Tree

/-- Trees are called the same if only what is no atom differs on the way to the atom of their name. -/
theorem nameOf_congr {t u : Tree} {f : Tree → Tree} {g : Tree → Tree → Tree}
    (hname : u.attr .name = (t.attr .name).map f)
    (hvalue : ∀ name, (f name).attr .value = (name.attr .value).map (g name))
    (hatom : ∀ name value s, g name value = .scalar s ↔ value = .scalar s) : u.nameOf = t.nameOf := by
  rw [nameOf, nameOf, hname]
  cases t.attr .name with
  | error m => rfl
  | ok name =>
      simp only [Except.map, bind, Except.bind, hvalue]
      cases name.attr .value with
      | error m => rfl
      | ok value =>
          by_cases hscalar : ∃ s, value = .scalar s
          · obtain ⟨s, rfl⟩ := hscalar
            simp only [(hatom name _ s).mpr rfl]
          · have hg : ¬∃ s, g name value = .scalar s := fun ⟨s, hs⟩ => hscalar ⟨s, (hatom name _ s).mp hs⟩
            cases hv : value <;> cases hgv : g name value <;> simp_all

/-- A value that is neither a node nor a sequence. -/
def isAtom : Tree → Bool
  | .scalar _ | .operation _ => true
  | _ => false

/-- Trees of executable documents: what a node holds is walked or is an atom, fields have names, and
selection sets carry sequences of selections. -/
inductive Executable : Tree → Prop
  | node {k : Kind} {attributes : Attributes} (other : k ≠ .selectionSet)
      (order : attributes.Pairwise fun e f => e.1.rank < f.1.rank)
      (parts : ∀ e ∈ attributes, e.1 ∈ k.visited → Executable e.2)
      (atoms : ∀ e ∈ attributes, e.1 ∉ k.visited → e.2.isAtom)
      (named : k = .field → ∃ n, Tree.nameOf (.node k attributes) = .ok (.text n))
      (sets : ∀ e ∈ attributes, e.1 = .selectionSet → ∃ items, e.2 = .selectionSet items) :
      Executable (.node k attributes)
  | selectionSet {items : List Tree} (each : ∀ t ∈ items, Executable t) :
      Executable (.selectionSet items)
  | list {items : List Tree} (each : ∀ t ∈ items, Executable t) : Executable (.list items)

/-- A tree stands inside another, at any depth. -/
inductive Inside (t : Tree) : Tree → Prop
  | here : Inside t t
  | part {k : Kind} {attributes : Attributes} {a : Attribute} {u : Tree}
      (mem : (a, u) ∈ attributes) (inside : Inside t u) : Inside t (.node k attributes)
  | item {items : List Tree} {u : Tree} (mem : u ∈ items) (inside : Inside t u) :
      Inside t (.list items)

theorem Executable.not_isNull {t : Tree} (h : Executable t) : t.isNull = false := by
  cases h <;> rfl

/-- A string or a number, as the grammar makes it but for the digits. -/
inductive IsLiteral : Tree → Prop
  | string (s : String) (block : Option Bool) : IsLiteral (.ofOptions .stringValue
      [(.value, some (.text s)), (.block, block.map fun b => .scalar (.bool b))])
  | number {k : Kind} (kind : k = .intValue ∨ k = .floatValue) (s : String) :
      IsLiteral (.node k [(.value, .text s)])

/-- A literal holds atoms. -/
theorem IsLiteral.isAtom_of_mem {k : Kind} {attributes : Attributes}
    (h : IsLiteral (.node k attributes)) : ∀ e ∈ attributes, e.2.isAtom := by
  generalize ht : Tree.node k attributes = t at h
  cases h with
  | string s block => cases block <;> cases ht <;> simp [isAtom, Tree.text]
  | number _ s =>
      cases ht
      simp [isAtom, Tree.text]

/-- Executable trees whose literals stand in place of values. The flag tells whether the tree does. -/
inductive Shaped : Bool → Tree → Prop
  | literal {t : Tree} (h : IsLiteral t) : Shaped true t
  | node {value : Bool} {k : Kind} {attributes : Attributes} (other : k.isLiteral = false)
      (order : attributes.Pairwise fun e f => e.1.rank < f.1.rank)
      (parts : ∀ e ∈ attributes, e.1 ∈ k.visited → Shaped e.1.holdsValues e.2)
      (atoms : ∀ e ∈ attributes, e.1 ∉ k.visited → e.2.isAtom)
      (named : k = .field → ∃ n, Tree.nameOf (.node k attributes) = .ok (.text n))
      (items : k = .selectionSet → ∃ items, attributes = [(.selections, .list items)])
      (sets : ∀ e ∈ attributes, e.1 = .selectionSet → ∃ items, e.2 = .selectionSet items) :
      Shaped value (.node k attributes)
  | list {value : Bool} {items : List Tree} (each : ∀ t ∈ items, Shaped value t) :
      Shaped value (.list items)

/-- What a shaped tree may hold in an attribute of a node, if it is there. -/
structure Part (k : Kind) (e : Attribute × Option Tree) : Prop where
  walked : e.1 ∈ k.visited → ∀ t ∈ e.2, Shaped e.1.holdsValues t
  kept : e.1 ∉ k.visited → ∀ t ∈ e.2, t.isAtom
  set : e.1 = .selectionSet → ∀ t ∈ e.2, ∃ items, t = .selectionSet items

section

variable {k : Kind} {a : Attribute}

theorem shaped_ofOptions {value : Bool} (es : List (Attribute × Option Tree))
    (other : k.isLiteral = false ∧ k ≠ .selectionSet) (order : inOrder es) (parts : es.Forall (Part k))
    (named : k = .field → ∃ n, Tree.nameOf (.ofOptions k es) = .ok (.text n)) :
    Shaped value (.ofOptions k es) := by
  have hpart {e : Attribute × Tree} (he : e ∈ present es) :
      ∃ o ∈ es, Part k o ∧ o.1 = e.1 ∧ e.2 ∈ o.2 := by
    obtain ⟨o, ho, heq⟩ := List.mem_filterMap.mp he
    obtain ⟨t, ht, rfl⟩ := Option.map_eq_some_iff.mp heq
    exact ⟨o, ho, List.forall_iff_forall_mem.mp parts o ho, rfl, ht⟩
  refine .node other.1 ?_ (fun e he ha => ?_) (fun e he ha => ?_) named
    (fun hset => absurd hset other.2) fun e he ha => ?_
  · have hranks := of_decide_eq_true order
    rw [List.pairwise_map] at hranks
    refine hranks.filterMap _ fun e f hlt e' he' f' hf' => ?_
    obtain ⟨_, -, rfl⟩ := Option.map_eq_some_iff.mp he'
    obtain ⟨_, -, rfl⟩ := Option.map_eq_some_iff.mp hf'
    exact hlt
  · obtain ⟨o, -, ho, hkey, hmem⟩ := hpart he
    exact hkey ▸ ho.walked (hkey ▸ ha) _ hmem
  · obtain ⟨o, -, ho, hkey, hmem⟩ := hpart he
    exact ho.kept (hkey ▸ ha) _ hmem
  · obtain ⟨o, -, ho, hkey, hmem⟩ := hpart he
    exact ho.set (hkey.trans ha) _ hmem

theorem part_option (hvisited : a ∈ k.visited) (ha : a ≠ .selectionSet) {o : Option Tree}
    (h : ∀ t ∈ o, Shaped a.holdsValues t) : Part k (a, o) :=
  ⟨fun _ => h, fun hnot => absurd hvisited hnot, fun hset => absurd hset ha⟩

theorem part_one (hvisited : a ∈ k.visited) (ha : a ≠ .selectionSet) {t : Tree}
    (h : Shaped a.holdsValues t) : Part k (a, some t) :=
  part_option hvisited ha (by simpa using h)

theorem part_list (hvisited : a ∈ k.visited) (ha : a ≠ .selectionSet) {ts : Option (List Tree)}
    (h : ∀ t ∈ ts.getD [], Shaped a.holdsValues t) : Part k (a, ts.map .list) := by
  refine part_option hvisited ha fun t ht => ?_
  obtain ⟨items, rfl, rfl⟩ := Option.map_eq_some_iff.mp ht
  exact .list h

theorem part_set (hvisited : .selectionSet ∈ k.visited) {o : Option Tree}
    (h : ∀ t ∈ o, Shaped false t ∧ ∃ items, t = .selectionSet items) : Part k (.selectionSet, o) :=
  ⟨fun _ t ht => (h t ht).1, fun hnot => absurd hvisited hnot, fun _ t ht => (h t ht).2⟩

theorem part_atom (hnot : a ∉ k.visited) (ha : a ≠ .selectionSet) {o : Option Tree}
    (h : ∀ t ∈ o, t.isAtom) : Part k (a, o) :=
  ⟨fun hvisited => absurd hvisited hnot, fun _ => h, fun hset => absurd hset ha⟩

theorem part_names (hvisited : a ∈ k.visited) (ha : a ≠ .selectionSet) {f : String → Tree}
    (h : ∀ n, Shaped a.holdsValues (f n)) (o : Option String) : Part k (a, o.map f) := by
  refine part_option hvisited ha fun t ht => ?_
  obtain ⟨n, -, rfl⟩ := Option.map_eq_some_iff.mp ht
  exact h n

section

variable {value : Bool}

/-- A node of one atom. -/
theorem shaped_atom (other : k.isLiteral = false ∧ k ∉ [.selectionSet, .field])
    (hnot : .value ∉ k.visited) {t : Tree} (h : t.isAtom) : Shaped value (.node k [(.value, t)]) :=
  shaped_ofOptions [(.value, some t)] ⟨other.1, fun hk => other.2 (by simp [hk])⟩ (by simp [inOrder])
    (part_atom hnot (by decide) (by simpa using h)) fun hk => absurd (by simp [hk]) other.2

theorem shaped_name (n : String) : Shaped value (.name n) :=
  shaped_atom (by decide) (by decide) rfl

theorem shaped_var (n : String) : Shaped value (.var n) :=
  shaped_ofOptions [(.name, some (.name n))] (by decide) rfl
    (part_one (by decide) (by decide) (shaped_name n)) nofun

theorem shaped_namedType (n : String) : Shaped value (.namedType n) :=
  shaped_ofOptions [(.name, some (.name n))] (by decide) rfl
    (part_one (by decide) (by decide) (shaped_name n)) nofun

theorem shaped_selectionSet {items : List Tree} (h : ∀ t ∈ items, Shaped false t) :
    Shaped value (.selectionSet items) := by
  refine .node rfl (List.pairwise_singleton _ _) ?_ ?_ nofun (fun _ => ⟨items, rfl⟩) ?_
  · rw [List.forall_mem_singleton]
    exact fun _ => .list h
  · rw [List.forall_mem_singleton]
    exact fun hnot => absurd (by decide : Attribute.selections ∈ Kind.selectionSet.visited) hnot
  · rw [List.forall_mem_singleton]
    exact nofun

end

/-- Literals hold nothing that a traversal walks. -/
theorem IsLiteral.executable {t : Tree} (h : IsLiteral t) : Executable t := by
  have hatoms {k : Kind} {attributes : Attributes} (hvisited : k.visited = [])
      (other : k ∉ [.selectionSet, .field])
      (order : attributes.Pairwise fun e f => e.1.rank < f.1.rank)
      (hatoms : ∀ e ∈ attributes, e.2.isAtom ∧ e.1 ≠ .selectionSet) :
      Executable (.node k attributes) := by
    refine .node (fun hk => other (by simp [hk])) order ?_ (fun e he _ => (hatoms e he).1)
      (fun hk => absurd (by simp [hk]) other) fun e he ha => absurd ha (hatoms e he).2
    simp [hvisited]
  cases h with
  | string s block =>
      cases block with
      | none => exact hatoms rfl (by decide) (List.pairwise_singleton _ _) (by simp [isAtom, Tree.text])
      | some b =>
          have hrank : Attribute.value.rank < Attribute.block.rank := by decide
          exact hatoms rfl (by decide) (List.pairwise_pair.mpr hrank) (by simp [isAtom, Tree.text])
  | @number k kind s =>
      obtain rfl | rfl := kind <;>
        exact hatoms rfl (by decide) (List.pairwise_singleton _ _) (by simp [isAtom, Tree.text])

theorem Shaped.executable {value : Bool} {t : Tree} (h : Shaped value t) : Executable t := by
  induction h with
  | literal h => exact h.executable
  | @node value k attributes _ order _ atoms named items sets ih =>
      by_cases hset : k = .selectionSet
      · subst hset
        obtain ⟨ts, rfl⟩ := items rfl
        obtain @⟨_, _⟩ | @⟨_, _⟩ | ⟨each⟩ := ih _ (List.mem_singleton_self _)
          (by decide : Attribute.selections ∈ Kind.selectionSet.visited)
        exact .selectionSet each
      · exact .node hset order ih atoms named sets
  | list _ ih => exact .list ih

end

end Tree

open PersistedOps.Tree in
/-- What the grammar makes has this shape. -/
theorem Grammatical.shaped {c : Category} {t : Tree} (h : Grammatical c t) :
    Shaped c.isValue t ∧ (c = .selectionSet → ∃ items, t = .selectionSet items) := by
  -- One construct of the grammar after the other; only selection sets have a shape of their own.
  induction h with
  | literal s block => exact ⟨.literal (.string s block), nofun⟩
  | @int s number => exact ⟨.literal (.number (.inl rfl) s), nofun⟩
  | @float s number => exact ⟨.literal (.number (.inr rfl) s), nofun⟩
  | @var n name => exact ⟨shaped_var n, nofun⟩
  | boolean | enum => exact ⟨shaped_atom (by decide) (by decide) rfl, nofun⟩
  | string text ih => exact ⟨ih.1, nofun⟩
  | null =>
      exact ⟨shaped_ofOptions [] (by decide) rfl trivial nofun, nofun⟩
  | list items ih =>
      exact ⟨shaped_ofOptions _ (by decide) rfl
        (part_list (by decide) (by decide) fun t ht => (ih t ht).1) nofun, nofun⟩
  | object items ih =>
      exact ⟨shaped_ofOptions _ (by decide) rfl
        (part_list (by decide) (by decide) fun t ht => (ih t ht).1) nofun, nofun⟩
  | @objectField n v name given ih =>
      exact ⟨shaped_ofOptions [(.name, some (.name n)), (.value, some v)] (by decide) rfl
        ⟨part_one (by decide) (by decide) (shaped_name n), part_one (by decide) (by decide) ih.1⟩
        nofun, nofun⟩
  | @argument n v name given ih =>
      exact ⟨shaped_ofOptions [(.name, some (.name n)), (.value, some v)] (by decide) rfl
        ⟨part_one (by decide) (by decide) (shaped_name n), part_one (by decide) (by decide) ih.1⟩
        nofun, nofun⟩
  | @named n name => exact ⟨shaped_namedType n, nofun⟩
  | @listOf t item ih =>
      exact ⟨shaped_ofOptions [(.type, some t)] (by decide) rfl
        (part_one (by decide) (by decide) ih.1) nofun, nofun⟩
  | nullable bare ih => exact ⟨ih.1, nofun⟩
  | @nonNull t bare ih =>
      exact ⟨shaped_ofOptions [(.type, some t)] (by decide) rfl
        (part_one (by decide) (by decide) ih.1) nofun, nofun⟩
  | @directive n arguments name items ih =>
      exact ⟨shaped_ofOptions _ (by decide) rfl
        ⟨part_one (by decide) (by decide) (shaped_name n),
          part_list (by decide) (by decide) fun t ht => (ih t ht).1⟩ nofun, nofun⟩
  | @variableDefinition description default n t directives described name typed given directed ihd iht
      ihv ihs =>
      exact ⟨shaped_ofOptions _ (by decide) rfl
        ⟨part_option (by decide) (by decide) fun d hd => (ihd d hd).1,
          part_one (by decide) (by decide) (shaped_var n),
          part_one (by decide) (by decide) iht.1,
          part_option (by decide) (by decide) fun v hv => (ihv v hv).1,
          part_list (by decide) (by decide) fun d hd => (ihs d hd).1⟩ nofun, nofun⟩
  | @field label n arguments directives set renamed name items directed selected iha ihd ihs =>
      refine ⟨shaped_ofOptions _ (by decide) rfl
        ⟨part_names (by decide) (by decide) shaped_name label,
          part_one (by decide) (by decide) (shaped_name n),
          part_list (by decide) (by decide) fun t ht => (iha t ht).1,
          part_list (by decide) (by decide) fun d hd => (ihd d hd).1,
          part_set (by decide) fun s hs => ⟨(ihs s hs).1, (ihs s hs).2 rfl⟩⟩
        fun _ => ⟨n, ?_⟩, nofun⟩
      cases label <;> rfl
  | @spread n directives name other directed ih =>
      exact ⟨shaped_ofOptions _ (by decide) rfl
        ⟨part_one (by decide) (by decide) (shaped_name n),
          part_list (by decide) (by decide) fun d hd => (ih d hd).1⟩ nofun, nofun⟩
  | @inline condition directives set conditioned directed selected ihd ihs =>
      exact ⟨shaped_ofOptions _ (by decide) rfl
        ⟨part_names (by decide) (by decide) shaped_namedType condition,
          part_list (by decide) (by decide) fun d hd => (ihd d hd).1,
          part_set (by decide) (by simpa using ⟨ihs.1, ihs.2 rfl⟩)⟩ nofun, nofun⟩
  | @selectionSet selections filled items ih =>
      exact ⟨shaped_selectionSet fun t ht => (ih t ht).1, fun _ => ⟨selections, rfl⟩⟩
  | @operation description o n vars directives set described name declared directed selected ihd ihv
      ihs iht =>
      exact ⟨shaped_ofOptions _ (by decide) rfl
        ⟨part_option (by decide) (by decide) fun d hd => (ihd d hd).1,
          part_atom (by decide) (by decide) (by simp [isAtom]),
          part_names (by decide) (by decide) shaped_name n,
          part_list (by decide) (by decide) fun v hv => (ihv v hv).1,
          part_list (by decide) (by decide) fun d hd => (ihs d hd).1,
          part_set (by decide) (by simpa using ⟨iht.1, iht.2 rfl⟩)⟩ nofun, nofun⟩
  | @fragment description n condition vars directives set described name other declared conditioned
      directed selected ihd ihv ihs iht =>
      exact ⟨shaped_ofOptions _ (by decide) rfl
        ⟨part_option (by decide) (by decide) fun d hd => (ihd d hd).1,
          part_one (by decide) (by decide) (shaped_name n),
          part_list (by decide) (by decide) fun v hv => (ihv v hv).1,
          part_one (by decide) (by decide) (shaped_namedType condition),
          part_list (by decide) (by decide) fun d hd => (ihs d hd).1,
          part_set (by decide) (by simpa using ⟨iht.1, iht.2 rfl⟩)⟩ nofun, nofun⟩

theorem WellFormed.shaped {t : Tree} (h : WellFormed t) : Tree.Shaped false t := by
  cases h with
  | document items =>
      exact Tree.shaped_ofOptions _ (by decide) rfl
        (Tree.part_list (by decide) (by decide) fun d hd => (items d hd).shaped.1) nofun

theorem WellFormed.executable {t : Tree} (h : WellFormed t) : Tree.Executable t :=
  h.shaped.executable

end PersistedOps

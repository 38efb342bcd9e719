import PersistedOps.Proofs.Document.Encoded

/-!
Which JSON values spell documents. A value is read part by part, and its reading fails only over a part
that is not as it should be; what that is tells the grammar of convertible values. Main statement: the
values that are read are those of the grammar, and the entries that nodes pass over have no part in it.
-/

namespace PersistedOps

/-- Failures over a value. The others are over a key that is no text, and over data without an end. -/
def DecodeError.overValue : DecodeError → Bool
  | .keyNotText _ | .endless => false
  | _ => true

theorem Kind.label_injective : Function.Injective label := by
  intro k l h
  exact Option.some.inj (k.ofLabel?_label ▸ h ▸ l.ofLabel?_label)

theorem Kind.ofLabel?_eq_some_iff {name : String} {kind : Kind} :
    ofLabel? name = some kind ↔ name = kind.label := by
  constructor
  · intro h
    exact (beq_iff_eq.mp (List.find?_some (p := fun k : Kind => k.label == name) h)).symm
  · rintro rfl
    exact ofLabel?_label kind

theorem Attribute.ofSnake?_eq_some_iff {name : String} {a : Attribute} :
    ofSnake? name = some a ↔ name = a.snake := by
  constructor
  · intro h
    exact (beq_iff_eq.mp (List.find?_some (p := fun a : Attribute => a.snake == name) h)).symm
  · rintro rfl
    cases a <;> decide +kernel

theorem Attribute.snake_injective : Function.Injective snake := by
  intro a b h
  exact Option.some.inj ((ofSnake?_eq_some_iff.mpr rfl).symm.trans (ofSnake?_eq_some_iff.mpr h))

theorem OperationType.ofWord?_isSome_iff {word : String} :
    (ofWord? word).isSome = true ↔ word ∈ ["query", "mutation", "subscription"] := by
  unfold ofWord?
  split <;> simp_all

/-! ### Readings that are decided -/

namespace Decode

section

variable {α β γ : Type} {P Q : Prop} {x : Except DecodeError β}

/-- A reading succeeds just when the data is as it should be, and fails over a value. -/
def Decides (P : Prop) : Except DecodeError β → Prop
  | .ok _ => P
  | .error e => e.overValue = true ∧ ¬P

theorem Decides.congr (h : Decides P x) (hiff : P ↔ Q) : Decides Q x := by
  cases x with
  | ok b => exact hiff.mp h
  | error e => exact ⟨h.1, mt hiff.mpr h.2⟩

theorem Decides.ok_iff (h : Decides P x) : (∃ b, x = .ok b) ↔ P := by
  cases x with
  | ok b => exact ⟨fun _ => h, fun _ => ⟨b, rfl⟩⟩
  | error e => exact ⟨nofun, fun hp => (h.2 hp).elim⟩

/-- One reading after another; the second is asked only when the first succeeds. -/
theorem Decides.bind {f : β → Except DecodeError γ} (h : Decides P x)
    (hnext : ∀ b, x = .ok b → Decides Q (f b)) : Decides (P ∧ Q) (x >>= f) := by
  cases x with
  | ok b =>
      have hp : P := h
      exact (hnext b rfl).congr (and_iff_right hp).symm
  | error e => exact ⟨h.1, fun hboth => h.2 hboth.1⟩

theorem Decides.map {f : β → γ} (h : Decides P x) : Decides P (x >>= fun b => .ok (f b)) := by
  cases x with
  | ok b => exact h
  | error e => exact h

theorem Decides.mapM {P : α → Prop} {f : α → Except DecodeError β} {l : List α}
    (h : ∀ a ∈ l, Decides (P a) (f a)) : Decides (∀ a ∈ l, P a) (l.mapM f) := by
  induction l with
  | nil => exact List.forall_mem_nil P
  | cons a l ih =>
      obtain ⟨ha, hl⟩ := List.forall_mem_cons.mp h
      rw [List.mapM_cons]
      exact (ha.bind fun _ _ => (ih hl).map).congr List.forall_mem_cons.symm

theorem Decides.foldlM {P : α → Prop} {f : β → α → Except DecodeError β} {l : List α}
    (h : ∀ a ∈ l, ∀ b, Decides (P a) (f b a)) (b : β) : Decides (∀ a ∈ l, P a) (l.foldlM f b) := by
  induction l generalizing b with
  | nil => exact List.forall_mem_nil P
  | cons a l ih =>
      obtain ⟨ha, hl⟩ := List.forall_mem_cons.mp h
      rw [List.foldlM_cons]
      exact ((ha b).bind fun c _ => ih hl c).congr List.forall_mem_cons.symm

end

end Decode

/-! ### The grammar of convertible values -/

/-- The names of what a node of the kind has: its attributes, and the location that all nodes have. -/
def Kind.attributeNames (kind : Kind) : List String := "loc" :: kind.attributes.map Attribute.snake

/-- A key that is looked at in a node of the kind: neither `kind` nor `loc`, and with underscores the
name of something that the node has. -/
def Kind.Knows (kind : Kind) (key : String) : Prop :=
  key ≠ "kind" ∧ key ≠ "loc" ∧ Camel.toSnake key ∈ kind.attributeNames

instance (kind : Kind) (key : String) : Decidable (kind.Knows key) :=
  inferInstanceAs (Decidable (_ ∧ _ ∧ _))

namespace Json

/-- Values that convert. A node needs a kind, and what its kind knows; its operation is no text but that
of an operation type. -/
inductive Converts : Json → Prop
  | null : Converts .null
  | bool (b : Bool) : Converts (.bool b)
  | int (n : Int) : Converts (.int n)
  | float (x : Binary64) : Converts (.float x)
  | str (s : String) : Converts (.str s)
  | arr {items : List Json} (each : ∀ v ∈ items, Converts v) : Converts (.arr items)
  | plain {fields : List (String × Json)} (kindless : fields.lookup "kind" = none)
      (each : ∀ f ∈ fields, Converts f.2) : Converts (.obj fields)
  | node {fields : List (String × Json)} (kind : Kind)
      (named : fields.lookup "kind" = some (.str kind.label))
      (each : ∀ f ∈ fields, kind.Knows f.1 → Converts f.2)
      (words : ∀ f ∈ fields, kind.Knows f.1 → Camel.toSnake f.1 = "operation" →
        ∀ word, f.2 = .str word → word ∈ ["query", "mutation", "subscription"]) :
      Converts (.obj fields)

/-- An object that has a kind, and converts. -/
def ConvertsAsNode (v : Json) : Prop :=
  v.Converts ∧ ∃ fields, v = .obj fields ∧ fields.lookup "kind" ≠ none

/-- Values that count as false. -/
def isFalse : Json → Bool
  | null => true
  | bool b => !b
  | int n => n == 0
  | float x => x.isZero
  | str s => s == ""
  | arr items => items.isEmpty
  | obj fields => fields.isEmpty

/-- An object of kind `Document` whose definitions are absent, count as false, or are a list of nodes
that convert. -/
def IsDocument (v : Json) : Prop :=
  ∃ fields, v = .obj fields ∧ fields.lookup "kind" = some (.str "Document") ∧
    ∀ d, fields.lookup "definitions" = some d →
      d.isFalse = true ∨ ∃ items, d = .arr items ∧ ∀ item ∈ items, item.ConvertsAsNode

variable {fields : List (String × Json)} {kind : Kind} {key : String} {v : Json} {n : Nat}
  {decode : Json → Except DecodeError Tree} {acc : Attributes}

theorem converts_arr_iff {items : List Json} : (arr items).Converts ↔ ∀ v ∈ items, v.Converts := by
  constructor
  · rintro ⟨⟩
    assumption
  · exact .arr

/-- What the fields of a node need. -/
structure NodeConverts (kind : Kind) (f : String × Json) : Prop where
  value : kind.Knows f.1 → f.2.Converts
  word : kind.Knows f.1 → Camel.toSnake f.1 = "operation" →
    ∀ word, f.2 = .str word → word ∈ ["query", "mutation", "subscription"]

theorem converts_obj_iff : (obj fields).Converts ↔
    (fields.lookup "kind" = none ∧ ∀ f ∈ fields, f.2.Converts) ∨
      ∃ kind : Kind, fields.lookup "kind" = some (.str kind.label) ∧
        ∀ f ∈ fields, NodeConverts kind f := by
  constructor
  · intro h
    cases h with
    | plain kindless each => exact .inl ⟨kindless, each⟩
    | node kind named each words =>
        exact .inr ⟨kind, named, fun f hf => ⟨each f hf, words f hf⟩⟩
  · rintro (⟨kindless, each⟩ | ⟨kind, named, each⟩)
    · exact .plain kindless each
    · exact .node kind named (fun f hf => (each f hf).value) fun f hf => (each f hf).word

/-! ### Objects as dictionaries -/

/-- The dictionary of an object. -/
def entries (fields : List (String × Json)) : Entries Json := fields.map fun f => (.text f.1, f.2)

theorem getText?_entries : (entries fields).getText? key = fields.lookup key := by
  induction fields with
  | nil => rfl
  | cons f fields ih =>
      obtain ⟨name, v⟩ := f
      rw [entries, List.map_cons, Entries.getText?, Entries.get?_cons, List.lookup_cons]
      by_cases hkey : key = name
      · subst hkey
        rw [if_pos (Scalar.same_text_iff.mpr rfl), beq_self_eq_true]
      · rw [if_neg (mt Scalar.same_text_iff.mp (by simpa using Ne.symm hkey)),
          beq_eq_false_iff_ne.mpr hkey]
        exact ih

theorem contains_entries :
    (entries fields).contains (.text "kind") = (fields.lookup "kind").isSome := by
  rw [← getText?_entries]
  rfl

theorem truthy_layer : v.layer.truthy = !v.isFalse := by
  cases v with
  | arr items => rfl
  | obj fields => cases fields <;> rfl
  | _ => simp [layer, Layer.truthy, Scalar.truthy, isFalse, bne]

/-! ### Nodes -/

theorem kindOf_decides (fields : List (String × Json)) :
    Decode.Decides (∃ kind : Kind, fields.lookup "kind" = some (.str kind.label))
      (Decode.kindOf view (entries fields)) := by
  rw [Decode.kindOf, getText?_entries]
  cases fields.lookup "kind" with
  | none =>
      refine ⟨rfl, ?_⟩
      rintro ⟨kind, ⟨⟩⟩
  | some v =>
      dsimp only
      split
      · next kind hkind =>
        obtain ⟨label, htext, hlabel⟩ := Option.bind_eq_some_iff.mp hkind
        cases v <;> cases htext
        obtain rfl := Kind.ofLabel?_eq_some_iff.mp hlabel
        exact ⟨kind, rfl⟩
      · next hkind =>
        have hnone : ¬∃ kind : Kind, some v = some (.str kind.label) := by
          rintro ⟨kind, heq⟩
          cases heq
          cases kind.ofLabel?_label.symm.trans hkind
        split <;> exact ⟨rfl, hnone⟩

theorem kindOf_eq_ok (h : Decode.kindOf view (entries fields) = .ok kind) :
    fields.lookup "kind" = some (.str kind.label) := by
  rw [Decode.kindOf, getText?_entries] at h
  split at h
  · cases h
  · next v hv =>
    split at h
    · next found hfound =>
      cases h
      obtain ⟨label, htext, hlabel⟩ := Option.bind_eq_some_iff.mp hfound
      rw [hv]
      cases v <;> cases htext
      rw [Kind.ofLabel?_eq_some_iff.mp hlabel]
    · split at h <;> cases h

theorem attributeOf?_eq_some_iff {a : Attribute} :
    Decode.attributeOf? kind key = some a ↔ a ∈ kind.attributes ∧ Camel.toSnake key = a.snake := by
  rw [Decode.attributeOf?, Option.filter_eq_some_iff, Attribute.ofSnake?_eq_some_iff, decide_eq_true_iff,
    and_comm]

theorem isReserved_iff : Decode.isReserved (.text key) = true ↔ key = "kind" ∨ key = "loc" := by
  simp [Decode.isReserved]

theorem knows_iff : kind.Knows key ↔ Decode.isReserved (.text key) = false ∧
    (Decode.isLocation key = true ∨ ∃ a, Decode.attributeOf? kind key = some a) := by
  rw [← Bool.not_eq_true, isReserved_iff, not_or, Kind.Knows, and_assoc, Kind.attributeNames,
    List.mem_cons, List.mem_map, Decode.isLocation, beq_iff_eq]
  simp only [attributeOf?_eq_some_iff, eq_comm (b := Camel.toSnake key)]

theorem attributeValue_of_str? {a : Attribute} (h : v.str? = none) :
    Decode.attributeValue view decode a v = decode v := by
  refine Decode.attributeValue_eq fun _ s hs => ?_
  cases v with
  | str word => cases h
  | _ => cases hs <;> rfl

/-- The value under a key of its kind is read when it converts, and is no wrong word. -/
theorem attributeValue_decides {a : Attribute} (h : Decode.Decides v.Converts (decode v)) :
    Decode.Decides (v.Converts ∧ (a = .operation → ∀ word, v = .str word →
      word ∈ ["query", "mutation", "subscription"])) (Decode.attributeValue view decode a v) := by
  have other (hother : a = .operation → ∀ word, v ≠ .str word) :
      Decode.Decides (v.Converts ∧ (a = .operation → ∀ word, v = .str word →
        word ∈ ["query", "mutation", "subscription"])) (decode v) :=
    h.congr (iff_self_and.mpr fun _ ha word hword => (hother ha word hword).elim)
  unfold Decode.attributeValue
  split
  · next word hword =>
    have hv : v = .str word := by
      cases v <;> cases hword
      rfl
    subst hv
    split
    · next o ho =>
      refine ⟨.str word, fun _ w hw => ?_⟩
      cases hw
      exact OperationType.ofWord?_isSome_iff.mp (Option.isSome_of_eq_some ho)
    · next hnone =>
      refine ⟨rfl, fun hboth => ?_⟩
      have hsome := OperationType.ofWord?_isSome_iff.mpr (hboth.2 rfl word rfl)
      rw [hnone] at hsome
      cases hsome
  · next points hpoints => cases v <;> cases hpoints
  · next hno _ =>
    refine other fun ha word hword => ?_
    subst hword
    exact hno word ha rfl

/-- An entry of a node is read when the node's kind can do with it. -/
theorem readEntry_decides {f : String × Json}
    (h : kind.Knows f.1 → Decode.Decides f.2.Converts (decode f.2)) :
    Decode.Decides (NodeConverts kind f) (Decode.readEntry view decode kind acc (.text f.1, f.2)) := by
  have unknown (hno : ¬kind.Knows f.1) : NodeConverts kind f :=
    ⟨fun hknows => (hno hknows).elim, fun hknows => (hno hknows).elim⟩
  rw [Decode.readEntry]
  by_cases hreserved : Decode.isReserved (.text f.1) = true
  · rw [if_pos hreserved]
    refine unknown fun hknows => ?_
    rw [(knows_iff.mp hknows).1] at hreserved
    cases hreserved
  · rw [if_neg hreserved]
    have hown : Decode.isReserved (.text f.1) = false := by simpa using hreserved
    cases hattribute : Decode.attributeOf? kind f.1 with
    | some b =>
        have hknows : kind.Knows f.1 := knows_iff.mpr ⟨hown, .inr ⟨b, hattribute⟩⟩
        have hsnake := (attributeOf?_eq_some_iff.mp hattribute).2
        have hoperation : Camel.toSnake f.1 = "operation" ↔ b = .operation := by
          rw [hsnake]
          exact ⟨fun heq => Attribute.snake_injective heq, fun heq => heq ▸ rfl⟩
        simp only [hattribute]
        refine (attributeValue_decides (h hknows)).map.congr ⟨fun hboth => ?_, fun hnode => ?_⟩
        · exact ⟨fun _ => hboth.1, fun _ ho => hboth.2 (hoperation.mp ho)⟩
        · exact ⟨hnode.value hknows, fun ho => hnode.word hknows (hoperation.mpr ho)⟩
    | none =>
        simp only [hattribute]
        by_cases hlocation : Decode.isLocation f.1 = true
        · have hknows : kind.Knows f.1 := knows_iff.mpr ⟨hown, .inl hlocation⟩
          rw [if_pos hlocation]
          refine (h hknows).map.congr ⟨fun hvalue => ⟨fun _ => hvalue, fun _ ho => ?_⟩,
            fun hnode => hnode.value hknows⟩
          rw [Decode.isLocation, ho] at hlocation
          cases hlocation
        · rw [if_neg hlocation]
          refine unknown fun hknows => ?_
          obtain ⟨-, hloc | ⟨b, hb⟩⟩ := knows_iff.mp hknows
          · exact hlocation hloc
          · cases hattribute.symm.trans hb

/-- A node is read when it has a kind that can do with all its entries. -/
theorem node_decides (h : ∀ f ∈ fields, Decode.Decides f.2.Converts (decode f.2)) :
    Decode.Decides (∃ kind : Kind, fields.lookup "kind" = some (.str kind.label) ∧
      ∀ f ∈ fields, NodeConverts kind f) (Decode.node view decode (entries fields)) := by
  cases hkind : Decode.kindOf view (entries fields) with
  | error e =>
      have hfails := kindOf_decides fields
      rw [hkind] at hfails
      rw [Decode.node, hkind]
      refine ⟨hfails.1, ?_⟩
      rintro ⟨kind, hnamed, -⟩
      exact hfails.2 ⟨kind, hnamed⟩
  | ok kind =>
      have hnamed := kindOf_eq_ok hkind
      have hread : Decode.Decides (∀ f ∈ fields, NodeConverts kind f)
          (Decode.attributes view decode kind [] (entries fields)) := by
        rw [Decode.attributes_eq_foldlM, entries, List.foldlM_map]
        exact .foldlM (fun f hf acc => readEntry_decides fun _ => h f hf) []
      rw [Decode.node, hkind]
      refine hread.map.congr ⟨fun each => ⟨kind, hnamed, each⟩, ?_⟩
      rintro ⟨other, hother, each⟩
      have hlabel : kind.label = other.label :=
        str.inj (Option.some.inj (hnamed.symm.trans hother))
      exact Kind.label_injective hlabel ▸ each

/-! ### Values and documents -/

/-- A value is read, to whatever depth beyond its own, when it converts. -/
theorem value_decides (h : v.depth ≤ n) : Decode.Decides v.Converts (Decode.value view n v) := by
  induction n generalizing v with
  | zero => exact absurd (depth_pos v) (Nat.not_le.mpr (Nat.lt_succ_of_le h))
  | succ n ih =>
      rw [Decode.value]
      cases v with
      | null => exact .null
      | bool b => exact .bool b
      | int i => exact .int i
      | float x => exact .float x
      | str s => exact .str s
      | arr items =>
          rw [depth] at h
          have hitems := depthItems_le.mp (Nat.le_of_succ_le_succ h)
          have hread : Decode.Decides (∀ v ∈ items, v.Converts) (items.mapM (Decode.value view n)) :=
            .mapM fun v hv => ih (hitems v hv)
          exact hread.map.congr converts_arr_iff.symm
      | obj fields =>
          rw [depth] at h
          have hfields := depthFields_le.mp (Nat.le_of_succ_le_succ h)
          show Decode.Decides _ (if (entries fields).contains (.text "kind") = true then _ else _)
          rw [contains_entries]
          by_cases hkind : (fields.lookup "kind").isSome = true
          · rw [if_pos hkind]
            refine (node_decides fun f hf => ih (hfields f hf)).congr ?_
            rw [converts_obj_iff, or_iff_right]
            rintro ⟨hnone, -⟩
            rw [hnone] at hkind
            cases hkind
          · rw [if_neg hkind]
            have hnone : fields.lookup "kind" = none := Option.not_isSome_iff_eq_none.mp hkind
            have hread : Decode.Decides (∀ f ∈ fields, f.2.Converts) ((entries fields).mapM fun e => do
                return (e.1, ← Decode.value view n e.2)) := by
              rw [entries, List.mapM_map]
              exact .mapM fun f hf => (ih (hfields f hf)).map
            refine hread.map.congr ?_
            rw [converts_obj_iff, hnone]
            simp

/-- The fields of a definition. -/
def fieldsOf : Json → Except DecodeError (List (String × Json))
  | obj fields => .ok fields
  | other => .error (.definitionNotNode other.layer.typeName)

/-- The fields of the definitions in a list. -/
def listedIn : Json → Except DecodeError (List (List (String × Json)))
  | arr items => items.mapM fieldsOf
  | other => .error (.definitionsNotList other.layer.typeName)

/-- The fields of the definitions that are listed. -/
def listed : Option Json → Except DecodeError (List (List (String × Json)))
  | none => .ok []
  | some d => if d.isFalse then .ok [] else listedIn d

theorem definitionEntries_eq (o : Option Json) :
    Decode.definitionEntries view o = (listed o).map (List.map entries) := by
  cases o with
  | none => rfl
  | some d =>
      show (if (!d.layer.truthy) = true then _ else _) = _
      rw [truthy_layer, Bool.not_not, listed]
      by_cases hfalse : d.isFalse = true
      · rw [if_pos hfalse, if_pos hfalse]
        rfl
      · rw [if_neg hfalse, if_neg hfalse]
        cases d with
        | arr items =>
            show List.mapM _ items = (items.mapM fieldsOf).map (List.map entries)
            rw [map_mapM]
            refine mapM_congr fun item _ => ?_
            cases item <;> rfl
        | _ => rfl

/-- What definitions may be: absent, false, or a list of objects. -/
theorem listed_decides (o : Option Json) : Decode.Decides (∀ d, o = some d →
    d.isFalse = true ∨ ∃ items, d = .arr items ∧ ∀ item ∈ items, ∃ fields, item = .obj fields)
    (listed o) := by
  cases o with
  | none => exact nofun
  | some d =>
      rw [listed]
      by_cases hfalse : d.isFalse = true
      · rw [if_pos hfalse]
        intro e he
        cases he
        exact .inl hfalse
      · rw [if_neg hfalse]
        cases d with
        | arr items =>
            have hread : Decode.Decides (∀ item ∈ items, ∃ fields, item = .obj fields)
                (items.mapM fieldsOf) := by
              refine .mapM fun item _ => ?_
              cases item with
              | obj fields => exact ⟨fields, rfl⟩
              | _ => exact ⟨rfl, nofun⟩
            refine hread.congr ⟨fun each e he => ?_, fun hall => ?_⟩
            · cases he
              exact .inr ⟨items, rfl, each⟩
            · rcases hall _ rfl with h | ⟨_, heq, each⟩
              · exact (hfalse h).elim
              · cases heq
                exact each
        | _ =>
            refine ⟨rfl, fun hall => ?_⟩
            rcases hall _ rfl with h | ⟨_, heq, -⟩
            · exact hfalse h
            · cases heq

/-- The definitions that are listed stand in a list, unless there are none. -/
theorem listed_eq_ok {o : Option Json} {definitions : List (List (String × Json))}
    (h : listed o = .ok definitions) :
    (∀ d, o = some d → d.isFalse = true) ∧ definitions = [] ∨
      o = some (.arr (definitions.map .obj)) := by
  cases o with
  | none =>
      cases h
      exact .inl ⟨nofun, rfl⟩
  | some d =>
      rw [listed] at h
      by_cases hfalse : d.isFalse = true
      · rw [if_pos hfalse] at h
        cases h
        refine .inl ⟨fun e he => ?_, rfl⟩
        cases he
        exact hfalse
      · rw [if_neg hfalse] at h
        cases d with
        | arr items =>
            have heach : List.Forall₂ (fun item fields => obj fields = id item) items definitions := by
              refine (mapM_eq_ok_iff.mp h).imp fun item fields hitem => ?_
              cases item <;> cases hitem
              rfl
            rw [map_eq_of_forall₂ heach, List.map_id]
            exact .inr rfl
        | _ => cases h

theorem isNamed_iff : ((entries fields).getText? "kind").bind (fun k => (view.layer k).text?) =
    some "Document" ↔ fields.lookup "kind" = some (.str "Document") := by
  rw [getText?_entries]
  cases fields.lookup "kind" with
  | none => constructor <;> rintro ⟨⟩
  | some v =>
      cases v with
      | str label => simp [view, layer, Layer.text?]
      | _ => constructor <;> rintro ⟨⟩

theorem convertsAsNode_iff : (obj fields).ConvertsAsNode ↔
    ∃ kind : Kind, fields.lookup "kind" = some (.str kind.label) ∧
      ∀ f ∈ fields, NodeConverts kind f := by
  rw [ConvertsAsNode, converts_obj_iff]
  constructor
  · rintro ⟨⟨hnone, -⟩ | hnode, _, ⟨⟩, hkind⟩
    · exact (hkind hnone).elim
    · exact hnode
  · intro hnode
    obtain ⟨kind, hnamed, -⟩ := id hnode
    exact ⟨.inr hnode, fields, rfl, by simp [hnamed]⟩

theorem depth_le_of_lookup (h : fields.lookup key = some v) : v.depth ≤ depthFields fields := by
  obtain ⟨front, back, rfl, -⟩ := List.lookup_eq_some_iff.mp h
  exact depthFields_le.mp (Nat.le_refl _) (key, v) (List.mem_append_right _ List.mem_cons_self)

/-- What a definition holds nests less deeply than the document. -/
theorem depth_of_listed {definitions : List (List (String × Json))}
    (h : listed (fields.lookup "definitions") = .ok definitions) {own : List (String × Json)}
    (hown : own ∈ definitions) : ∀ f ∈ own, f.2.depth ≤ (obj fields).depth := by
  rcases listed_eq_ok h with ⟨-, rfl⟩ | hlookup
  · cases hown
  · have hlist := depth_le_of_lookup hlookup
    rw [depth, Nat.succ_le_iff] at hlist
    have hobj := depthItems_le.mp (Nat.le_of_lt hlist) (obj own) (List.mem_map.mpr ⟨own, hown, rfl⟩)
    rw [depth, Nat.succ_le_iff] at hobj
    have hfields := depthFields_le.mp (Nat.le_of_lt hobj)
    rw [depth]
    exact fun f hf => Nat.le_succ_of_le (hfields f hf)

/-- An object of kind `Document` is read by its definitions. -/
theorem toDocument_obj (h : fields.lookup "kind" = some (.str "Document")) :
    (obj fields).toDocument = listed (fields.lookup "definitions") >>= fun definitions => do
      return Tree.document (← definitions.mapM fun own =>
        Decode.node view (Decode.value view (obj fields).depth) (entries own)) := by
  show (if ((entries fields).getText? "kind").bind (fun k => (view.layer k).text?) = some "Document"
    then _ else _) = _
  rw [if_pos (isNamed_iff.mpr h)]
  show (Decode.definitionEntries view ((entries fields).getText? "definitions") >>= fun definitions =>
    definitions.mapM (Decode.node view (Decode.value view (obj fields).depth)) >>= fun read =>
      (Except.ok (Tree.document read) : Except DecodeError Tree)) = _
  rw [getText?_entries, definitionEntries_eq]
  cases listed (fields.lookup "definitions") with
  | error e => rfl
  | ok definitions =>
      show ((definitions.map entries).mapM (Decode.node view (Decode.value view (obj fields).depth))
        >>= _) = _
      rw [List.mapM_map]
      rfl

theorem toDocument_of_ne (h : fields.lookup "kind" ≠ some (.str "Document")) :
    (obj fields).toDocument = .error (.notDocument "dict") := if_neg (mt isNamed_iff.mp h)

theorem isDocument_obj_iff : (obj fields).IsDocument ↔ fields.lookup "kind" = some (.str "Document") ∧
    ∀ d, fields.lookup "definitions" = some d →
      d.isFalse = true ∨ ∃ items, d = .arr items ∧ ∀ item ∈ items, item.ConvertsAsNode := by
  constructor
  · rintro ⟨_, ⟨⟩, h⟩
    exact h
  · exact fun h => ⟨fields, rfl, h⟩

/-- Where definitions are listed, it is for each of them to convert. -/
theorem forall_definitions_iff {definitions : List (List (String × Json))}
    (h : listed (fields.lookup "definitions") = .ok definitions) :
    (∀ own ∈ definitions, (obj own).ConvertsAsNode) ↔ ∀ d, fields.lookup "definitions" = some d →
      d.isFalse = true ∨ ∃ items, d = .arr items ∧ ∀ item ∈ items, item.ConvertsAsNode := by
  rcases listed_eq_ok h with ⟨hfalse, rfl⟩ | hlookup
  · exact ⟨fun _ d hd => .inl (hfalse d hd), fun _ => List.forall_mem_nil _⟩
  · rw [hlookup]
    constructor
    · rintro each _ ⟨⟩
      exact .inr ⟨_, rfl, List.forall_mem_map.mpr each⟩
    · intro hall
      rcases hall _ rfl with hfalse | ⟨_, heq, each⟩
      · rw [isFalse, List.isEmpty_iff, List.map_eq_nil_iff] at hfalse
        subst hfalse
        exact List.forall_mem_nil _
      · cases heq
        exact List.forall_mem_map.mp each

/-- A document is read when it is one. -/
theorem toDocument_decides (v : Json) : Decode.Decides v.IsDocument v.toDocument := by
  cases v with
  | obj fields =>
      by_cases hkind : fields.lookup "kind" = some (.str "Document")
      · rw [toDocument_obj hkind]
        have hlisted := listed_decides (fields.lookup "definitions")
        cases hdefinitions : listed (fields.lookup "definitions") with
        | error e =>
            rw [hdefinitions] at hlisted
            refine ⟨hlisted.1, fun hdocument => hlisted.2 fun d hd => ?_⟩
            refine ((isDocument_obj_iff.mp hdocument).2 d hd).imp_right ?_
            rintro ⟨items, heq, each⟩
            refine ⟨items, heq, fun item hitem => ?_⟩
            obtain ⟨-, own, hown, -⟩ := each item hitem
            exact ⟨own, hown⟩
        | ok definitions =>
            have hread : Decode.Decides (∀ own ∈ definitions, (obj own).ConvertsAsNode)
                (definitions.mapM fun own =>
                  Decode.node view (Decode.value view (obj fields).depth) (entries own)) := by
              refine .mapM fun own hown => (node_decides fun f hf => ?_).congr convertsAsNode_iff.symm
              exact value_decides (depth_of_listed hdefinitions hown f hf)
            refine hread.map.congr ?_
            rw [isDocument_obj_iff, forall_definitions_iff hdefinitions, and_iff_right hkind]
      · rw [toDocument_of_ne hkind]
        exact ⟨rfl, fun hdocument => hkind (isDocument_obj_iff.mp hdocument).1⟩
  | _ =>
      refine ⟨rfl, ?_⟩
      rintro ⟨_, ⟨⟩, -⟩

/-! ### What is looked at -/

/-- Whether the entry under a key is looked at in an object of the fields: all are in one without a kind,
and none in one whose kind is unknown. -/
def looksAt (fields : List (String × Json)) (key : String) : Bool :=
  match fields.lookup "kind" with
  | none => true
  | some v => ((v.str?).bind Kind.ofLabel?).any fun kind => decide (kind.Knows key)

mutual

/-- A value with no more in its objects than is looked at. -/
def known : Json → Json
  | arr items => arr (knownItems items)
  | obj fields => obj (knownFields (looksAt fields) fields)
  | v => v

def knownItems : List Json → List Json
  | [] => []
  | v :: rest => known v :: knownItems rest

/-- The kind stays as it is. -/
def knownFields (looks : String → Bool) : List (String × Json) → List (String × Json)
  | [] => []
  | (key, v) :: rest =>
    if key = "kind" then (key, v) :: knownFields looks rest
    else if looks key then (key, known v) :: knownFields looks rest
    else knownFields looks rest

end

/-- A document with no more than is looked at: of itself, its kind and its definitions. -/
def knownDocument : Json → Json
  | obj fields => obj (knownFields (· == "definitions") fields)
  | v => v

theorem knownItems_eq (items : List Json) : knownItems items = items.map known := by
  induction items with
  | nil => rfl
  | cons v items ih => rw [knownItems, ih, List.map_cons]

theorem lookup_kind_known {looks : String → Bool} :
    (knownFields looks fields).lookup "kind" = fields.lookup "kind" := by
  induction fields with
  | nil => rfl
  | cons f fields ih =>
      obtain ⟨name, v⟩ := f
      rw [knownFields, List.lookup_cons]
      by_cases hname : name = "kind"
      · rw [if_pos hname, List.lookup_cons, ih]
      · rw [if_neg hname, beq_eq_false_iff_ne.mpr (Ne.symm hname)]
        split
        · rw [List.lookup_cons, beq_eq_false_iff_ne.mpr (Ne.symm hname)]
          exact ih
        · exact ih

theorem lookup_known {looks : String → Bool} (hkind : key ≠ "kind") (hlooks : looks key = true) :
    (knownFields looks fields).lookup key = (fields.lookup key).map known := by
  induction fields with
  | nil => rfl
  | cons f fields ih =>
      obtain ⟨name, v⟩ := f
      rw [knownFields, List.lookup_cons]
      by_cases hkey : key = name
      · subst hkey
        rw [if_neg hkind, if_pos hlooks, List.lookup_cons, beq_self_eq_true]
        rfl
      · have hne : (key == name) = false := beq_eq_false_iff_ne.mpr hkey
        rw [hne]
        split
        · rw [List.lookup_cons, hne]
          exact ih
        · split
          · rw [List.lookup_cons, hne]
            exact ih
          · exact ih

/-- Without a kind all entries stay. -/
theorem knownFields_of_kindless (h : fields.lookup "kind" = none) :
    knownFields (fun _ => true) fields = fields.map fun f => (f.1, f.2.known) := by
  induction fields with
  | nil => rfl
  | cons f fields ih =>
      obtain ⟨name, v⟩ := f
      rw [List.lookup_cons] at h
      by_cases hname : name = "kind"
      · subst hname
        cases h
      · rw [beq_eq_false_iff_ne.mpr (Ne.symm hname)] at h
        rw [knownFields, if_neg hname, if_pos rfl, ih h, List.map_cons]

/-- What is looked at stays, as far as it is itself looked at. -/
theorem mem_knownFields {looks : String → Bool} {f : String × Json} (hf : f ∈ fields)
    (hkind : f.1 ≠ "kind") (hlooks : looks f.1 = true) :
    (f.1, f.2.known) ∈ knownFields looks fields := by
  induction fields with
  | nil => cases hf
  | cons e fields ih =>
      obtain ⟨name, v⟩ := e
      rw [knownFields]
      cases hf with
      | head =>
          rw [if_neg hkind, if_pos hlooks]
          exact List.mem_cons_self
      | tail _ hmem =>
          split
          · exact List.mem_cons_of_mem _ (ih hmem)
          · split
            · exact List.mem_cons_of_mem _ (ih hmem)
            · exact ih hmem

theorem looksAt_of_kindless (h : fields.lookup "kind" = none) : looksAt fields = fun _ => true := by
  funext key
  rw [looksAt, h]

theorem looksAt_of_kind (h : fields.lookup "kind" = some (.str kind.label)) :
    looksAt fields = fun key => decide (kind.Knows key) := by
  funext key
  rw [looksAt, h]
  show Option.any _ (Kind.ofLabel? kind.label) = _
  rw [kind.ofLabel?_label]
  rfl

theorem isFalse_known : v.known.isFalse = v.isFalse := by
  cases v with
  | arr items => rw [known, isFalse, isFalse, knownItems_eq, List.isEmpty_map]
  | obj fields =>
      rw [known, isFalse, isFalse]
      cases hkind : fields.lookup "kind" with
      | none => rw [looksAt_of_kindless hkind, knownFields_of_kindless hkind, List.isEmpty_map]
      | some w =>
          have nonempty {l : List (String × Json)} (hl : l.lookup "kind" = some w) :
              l.isEmpty = false := by
            cases l with
            | nil => cases hl
            | cons f l => rfl
          rw [nonempty hkind, nonempty (lookup_kind_known.trans hkind)]
  | _ => rfl

variable {decode' : Json → Except DecodeError Tree}

theorem attributeValue_known {a : Attribute} (h : decode' v.known = decode v) :
    Decode.attributeValue view decode' a v.known = Decode.attributeValue view decode a v := by
  cases v with
  | str word =>
      rw [show known (.str word) = .str word from rfl] at h ⊢
      unfold Decode.attributeValue
      split
      · rfl
      · rfl
      · exact h
  | _ => rw [attributeValue_of_str? rfl, attributeValue_of_str? rfl, h]

/-- The entries of a node add what is known of them. -/
theorem foldlM_known (h : ∀ f ∈ fields, f.1 ≠ "kind" → kind.Knows f.1 → decode' f.2.known = decode f.2) :
    (entries (knownFields (fun key => decide (kind.Knows key)) fields)).foldlM
        (Decode.readEntry view decode' kind) acc
      = (entries fields).foldlM (Decode.readEntry view decode kind) acc := by
  induction fields generalizing acc with
  | nil => rfl
  | cons f fields ih =>
      obtain ⟨hf, hfields⟩ := List.forall_mem_cons.mp h
      obtain ⟨key, v⟩ := f
      rw [knownFields, entries, entries, List.map_cons, List.foldlM_cons]
      by_cases hkind : key = "kind"
      · subst hkind
        rw [if_pos rfl, List.map_cons, List.foldlM_cons]
        exact ih hfields
      · rw [if_neg hkind]
        by_cases hknows : kind.Knows key
        · rw [if_pos (decide_eq_true hknows), List.map_cons, List.foldlM_cons]
          have hentry : Decode.readEntry view decode' kind acc (.text key, v.known)
              = Decode.readEntry view decode kind acc (.text key, v) := by
            have hv := hf hkind hknows
            simp only [Decode.readEntry, hv]
            cases hattribute : Decode.attributeOf? kind key with
            | some a => simp only [attributeValue_known hv]
            | none => rfl
          rw [hentry]
          exact congrArg (_ >>= ·) (funext fun _ => ih hfields)
        · have hforeign : Decode.isForeign kind (.text key) = true := by
            rw [Decode.isForeign, Bool.or_eq_true, Bool.and_eq_true, Option.isNone_iff_eq_none,
              Bool.not_eq_true', or_iff_not_imp_left, Bool.not_eq_true]
            intro hown
            rw [knows_iff, not_and, not_or, Bool.not_eq_true, not_exists] at hknows
            obtain ⟨hlocation, hnone⟩ := hknows hown
            exact ⟨Option.eq_none_iff_forall_ne_some.mpr hnone, hlocation⟩
          rw [if_neg (by simpa using hknows), Decode.readEntry_foreign hforeign]
          exact ih hfields

theorem node_known (h : ∀ f ∈ fields, f.1 ≠ "kind" → looksAt fields f.1 = true →
    decode' f.2.known = decode f.2) :
    Decode.node view decode' (entries (knownFields (looksAt fields) fields))
      = Decode.node view decode (entries fields) := by
  have hkind : Decode.kindOf view (entries (knownFields (looksAt fields) fields))
      = Decode.kindOf view (entries fields) := by
    rw [Decode.kindOf, Decode.kindOf, getText?_entries, getText?_entries, lookup_kind_known]
  rw [Decode.node, Decode.node, hkind]
  cases hok : Decode.kindOf view (entries fields) with
  | error e => rfl
  | ok kind =>
      rw [looksAt_of_kind (kindOf_eq_ok hok)] at h ⊢
      show (Decode.attributes view decode' kind [] _ >>= _) = (Decode.attributes view decode kind [] _ >>= _)
      rw [Decode.attributes_eq_foldlM, Decode.attributes_eq_foldlM,
        foldlM_known fun f hf hne hknows => h f hf hne (decide_eq_true hknows)]

/-- Without a kind all entries are looked at. -/
theorem plain_known (hnone : fields.lookup "kind" = none)
    (h : ∀ f ∈ fields, f.1 ≠ "kind" → looksAt fields f.1 = true → decode' f.2.known = decode f.2) :
    (entries (knownFields (looksAt fields) fields)).mapM (fun e => do return (e.1, ← decode' e.2))
      = (entries fields).mapM fun e => do return (e.1, ← decode e.2) := by
  rw [looksAt_of_kindless hnone] at h ⊢
  rw [knownFields_of_kindless hnone, entries, entries, List.map_map, List.mapM_map, List.mapM_map]
  refine mapM_congr fun f hf => ?_
  have hkey : f.1 ≠ "kind" := Ne.symm (by simpa using List.lookup_eq_none_iff.mp hnone f hf)
  exact congrArg (· >>= fun t => Except.ok (Scalar.text f.1, t)) (h f hf hkey rfl)

/-- A value is read by what is known of it. -/
theorem value_known {m : Nat} (h : v.depth ≤ n) (hknown : v.known.depth ≤ m) :
    Decode.value view m v.known = Decode.value view n v := by
  induction n generalizing v m with
  | zero => exact absurd (depth_pos v) (Nat.not_le.mpr (Nat.lt_succ_of_le h))
  | succ n ih =>
      cases m with
      | zero => exact absurd (depth_pos v.known) (Nat.not_le.mpr (Nat.lt_succ_of_le hknown))
      | succ m =>
          rw [Decode.value, Decode.value]
          cases v with
          | arr items =>
              rw [depth] at h
              rw [known, knownItems_eq, depth] at hknown
              have hitems := depthItems_le.mp (Nat.le_of_succ_le_succ h)
              have hparts := depthItems_le.mp (Nat.le_of_succ_le_succ hknown)
              rw [known, knownItems_eq]
              show ((items.map known).mapM (Decode.value view m) >>= _)
                = (items.mapM (Decode.value view n) >>= _)
              rw [List.mapM_map]
              refine congrArg (· >>= _) (mapM_congr fun v hv => ?_)
              exact ih (hitems v hv) (hparts _ (List.mem_map.mpr ⟨v, hv, rfl⟩))
          | obj fields =>
              rw [depth] at h
              rw [known, depth] at hknown
              have hfields := depthFields_le.mp (Nat.le_of_succ_le_succ h)
              have hparts := depthFields_le.mp (Nat.le_of_succ_le_succ hknown)
              have hread : ∀ f ∈ fields, f.1 ≠ "kind" → looksAt fields f.1 = true →
                  Decode.value view m f.2.known = Decode.value view n f.2 :=
                fun f hf hne hlooks => ih (hfields f hf) (hparts _ (mem_knownFields hf hne hlooks))
              rw [known]
              show (if (entries (knownFields (looksAt fields) fields)).contains (.text "kind") = true
                then _ else _) = if (entries fields).contains (.text "kind") = true then _ else _
              rw [contains_entries, contains_entries, lookup_kind_known]
              split
              · exact node_known hread
              · next hkind =>
                have hnone : fields.lookup "kind" = none := Option.not_isSome_iff_eq_none.mp hkind
                exact congrArg (· >>= _) (plain_known hnone hread)
          | _ => rfl

/-- Documents are listed with what is known of their definitions. -/
theorem listed_known (o : Option Json) : listed (o.map known) =
    (listed o).map (List.map fun own => knownFields (looksAt own) own) := by
  cases o with
  | none => rfl
  | some d =>
      rw [Option.map_some, listed, listed, isFalse_known]
      split
      · rfl
      · cases d with
        | arr items =>
            rw [known, knownItems_eq]
            show (items.map known).mapM fieldsOf = (items.mapM fieldsOf).map _
            rw [List.mapM_map, map_mapM]
            refine mapM_congr fun item _ => ?_
            cases item with
            | obj fields =>
                show fieldsOf (known (.obj fields)) = _
                rw [known]
                rfl
            | _ => rfl
        | _ => rfl

/-- A document is read by what is known of it: nothing else in it is of any effect. -/
theorem toDocument_known (v : Json) : v.knownDocument.toDocument = v.toDocument := by
  cases v with
  | obj fields =>
      have hlookup : (knownFields (· == "definitions") fields).lookup "definitions"
          = (fields.lookup "definitions").map known := lookup_known (by decide) rfl
      rw [knownDocument]
      by_cases hkind : fields.lookup "kind" = some (.str "Document")
      · rw [toDocument_obj hkind, toDocument_obj (lookup_kind_known.trans hkind), hlookup, listed_known]
        have hknown := listed_known (fields.lookup "definitions")
        rw [← hlookup] at hknown
        cases hdefinitions : listed (fields.lookup "definitions") with
        | error e => rfl
        | ok definitions =>
            rw [hdefinitions] at hknown
            show ((definitions.map fun own => knownFields (looksAt own) own).mapM (fun own =>
                Decode.node view (Decode.value view _) (entries own)) >>= _)
              = (definitions.mapM (fun own => Decode.node view (Decode.value view _) (entries own)) >>= _)
            rw [List.mapM_map]
            refine congrArg (· >>= _) (mapM_congr fun own hown => ?_)
            refine node_known fun f hf hne hlooks => ?_
            refine value_known (depth_of_listed hdefinitions hown f hf) ?_
            exact depth_of_listed hknown (List.mem_map.mpr ⟨own, hown, rfl⟩) (f.1, f.2.known)
              (mem_knownFields hf hne hlooks)
      · rw [toDocument_of_ne hkind, toDocument_of_ne (lookup_kind_known.symm ▸ hkind)]
  | _ => rfl

/-- What is read as a document is one, of nodes. -/
theorem exists_definitions {t : Tree} (h : v.toDocument = .ok t) :
    ∃ definitions, t = .document definitions ∧ ∀ d ∈ definitions, d.kind?.isSome = true := by
  have hdocument : v.IsDocument := (toDocument_decides v).ok_iff.mp ⟨t, h⟩
  obtain ⟨fields, rfl, hkind, -⟩ := hdocument
  rw [toDocument_obj hkind] at h
  obtain ⟨owns, -, h⟩ := bind_eq_ok_iff.mp h
  obtain ⟨definitions, hread, ⟨⟩⟩ := bind_eq_ok_iff.mp h
  refine ⟨definitions, rfl, fun d hd => ?_⟩
  obtain ⟨own, -, hnode⟩ := exists_of_mem_left (mapM_eq_ok_iff.mp hread).flip hd
  obtain ⟨kind, -, hnode⟩ := bind_eq_ok_iff.mp hnode
  obtain ⟨attributes, -, ⟨⟩⟩ := bind_eq_ok_iff.mp hnode
  rfl

/-- Every value is read as a document or fails over a value, and it is read just when it is an object of
kind `Document` whose definitions convert; entries that no node looks at have no part in it. -/
theorem toDocument_accepts (v : Json) :
    ((∃ definitions, v.toDocument = .ok (.document definitions) ∧
        ∀ d ∈ definitions, d.kind?.isSome = true) ∨
      ∃ e, v.toDocument = .error e ∧ e.overValue = true) ∧
    ((∃ t, v.toDocument = .ok t) ↔ v.IsDocument) ∧
    v.knownDocument.toDocument = v.toDocument := by
  have hdecides := toDocument_decides v
  refine ⟨?_, hdecides.ok_iff, toDocument_known v⟩
  cases hread : v.toDocument with
  | ok t =>
      obtain ⟨definitions, rfl, hnodes⟩ := exists_definitions hread
      exact .inl ⟨definitions, rfl, hnodes⟩
  | error e =>
      rw [hread] at hdecides
      exact .inr ⟨e, rfl, hdecides.1⟩

end Json

end PersistedOps

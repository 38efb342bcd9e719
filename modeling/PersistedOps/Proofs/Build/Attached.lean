import PersistedOps.Build.Processed
import PersistedOps.Proofs.Build.Signing
import PersistedOps.Proofs.Script.Unexported

/-!
Attached identifiers. Of all definitions that a unit sees under one name the last one is merged, so the
identifier that is attached under the name is that of the unit's own operation when no dependency has
one of the name.
-/

namespace PersistedOps

variable {options : Options} {n : String} {d : Tree} {m : Merged} {documents definitions : List Tree}

/-- The operations of a name among some definitions. -/
def operationsNamed (n : String) (definitions : List Tree) : List Tree :=
  (definitions.filter fun d => d.kind? = some .operationDefinition).filter
    fun d => d.nameOf.toOption = some (.text n)

theorem operationsNamed_append (definitions others : List Tree) :
    operationsNamed n (definitions ++ others)
      = operationsNamed n definitions ++ operationsNamed n others := by
  rw [operationsNamed, operationsNamed, operationsNamed, List.filter_append, List.filter_append]

/-- Where all definitions have one name, no other operations are found. -/
theorem eq_of_operationsNamed_ne_nil {name : String}
    (hnames : ∀ t ∈ definitions, t.nameOf.toOption = some (.text name))
    (h : operationsNamed n definitions ≠ []) : n = name := by
  obtain ⟨t, ht⟩ := List.exists_mem_of_ne_nil _ h
  obtain ⟨hmem, hname⟩ := List.mem_filter.mp ht
  cases (of_decide_eq_true hname).symm.trans (hnames t (List.mem_of_mem_filter hmem))
  rfl

/-! ### Merging -/

namespace Merged

/-- The definitions of all documents are those of each, one document after the other. -/
theorem allDefinitions_cons {document : Tree} {own : List Tree}
    (hown : document.definitions = .ok own)
    (h : allDefinitions (document :: documents) = .ok definitions) :
    ∃ others, allDefinitions documents = .ok others ∧ definitions = own ++ others := by
  obtain ⟨lists, hlists, heq⟩ := bind_eq_ok_iff.mp h
  cases heq
  rw [List.mapM_cons, hown] at hlists
  obtain ⟨_, heq, hlists⟩ := bind_eq_ok_iff.mp hlists
  cases heq
  obtain ⟨rest, hrest, heq⟩ := bind_eq_ok_iff.mp hlists
  cases heq
  refine ⟨rest.flatten, ?_, rfl⟩
  rw [allDefinitions, hrest]
  rfl

/-- No document has an operation of the name, so none is among all definitions. -/
theorem operationsNamed_eq_nil (h : allDefinitions documents = .ok definitions)
    (hnone : ∀ document ∈ documents, ∀ others, document.definitions = .ok others →
      operationsNamed n others = []) : operationsNamed n definitions = [] := by
  induction documents generalizing definitions with
  | nil =>
      cases h
      rfl
  | cons document documents ih =>
      obtain ⟨own, hown⟩ : ∃ own, document.definitions = .ok own := by
        obtain ⟨lists, hlists, -⟩ := bind_eq_ok_iff.mp h
        exact exists_of_mapM_eq_ok hlists List.mem_cons_self
      obtain ⟨others, hothers, rfl⟩ := allDefinitions_cons hown h
      obtain ⟨hdocument, hrest⟩ := List.forall_mem_cons.mp hnone
      rw [operationsNamed_append, hdocument own hown, ih hothers hrest, List.nil_append]

/-- Operations of a name are among all definitions where a document has some. -/
theorem operationsNamed_ne_nil_iff (h : allDefinitions documents = .ok definitions) :
    operationsNamed n definitions ≠ [] ↔
      ∃ document ∈ documents, ∃ others, document.definitions = .ok others ∧
        operationsNamed n others ≠ [] := by
  constructor
  · intro hsome
    by_contra hnone
    push Not at hnone
    exact hsome (operationsNamed_eq_nil h hnone)
  · rintro ⟨document, hdocument, others, hothers, hsome⟩ hnil
    obtain ⟨lists, hlists, heq⟩ := bind_eq_ok_iff.mp h
    cases heq
    obtain ⟨found, hfound, hdefinitions⟩ := exists_of_mem_left (mapM_eq_ok_iff.mp hlists) hdocument
    cases hothers.symm.trans hdefinitions
    obtain ⟨d, hd⟩ := List.exists_mem_of_ne_nil _ hsome
    have hmem : d ∈ operationsNamed n lists.flatten := by
      simp only [operationsNamed, List.mem_filter] at hd ⊢
      exact ⟨⟨List.mem_flatten_of_mem hfound hd.1.1, hd.1.2⟩, hd.2⟩
    rw [hnil] at hmem
    cases hmem

/-- Where an operation is filed. -/
def file (d : Tree) : Except MergeError (Scalar × Tree) := do return (← operationName d, d)

theorem file_eq_ok {e : Scalar × Tree} (h : file d = .ok e) : e.2 = d ∧ d.nameOf = .ok e.1 := by
  obtain ⟨name, hname, heq⟩ := bind_eq_ok_iff.mp h
  cases heq
  refine ⟨rfl, ?_⟩
  rw [operationName] at hname
  split at hname
  · cases hname
  · cases hkey : d.nameOf with
    | error e =>
        rw [hkey] at hname
        cases hname
    | ok key =>
        rw [hkey] at hname
        simp only at hname
        split at hname
        · cases hname
          rfl
        · cases hname

/-- Operations are filed one after the other, all else is passed over. -/
theorem foldlM_putOperation (entries : Entries Tree) (definitions : List Tree) :
    definitions.foldlM putOperation entries
      = (definitions.filter fun d => d.kind? = some .operationDefinition).foldlM
        (fun acc d => do let e ← file d; return Entries.put acc e.1 e.2) entries := by
  induction definitions generalizing entries with
  | nil => rfl
  | cons d definitions ih =>
      rw [List.foldlM_cons, putOperation]
      by_cases hd : d.kind? = some .operationDefinition
      · rw [if_pos hd, List.filter_cons_of_pos (by simpa using hd), List.foldlM_cons]
        simp only [file, bind_assoc, pure_bind, ih]
      · rw [if_neg hd, List.filter_cons_of_neg (by simpa using hd)]
        exact ih entries

/-- The definitions that were merged, and the operations in the order in which they were filed. -/
theorem exists_filed (h : ofDocuments documents = .ok m) :
    ∃ definitions es, allDefinitions documents = .ok definitions ∧
      definitions.foldlM putFragment [] = .ok m.fragments ∧
      (definitions.filter fun d => d.kind? = some .operationDefinition).mapM file = .ok es ∧
      m.operations = Entries.update [] es := by
  rw [ofDocuments] at h
  split at h
  · cases h
  · rename_i fragments hfragments
    obtain ⟨operations, hoperations, hm⟩ := bind_eq_ok_iff.mp h
    cases hm
    obtain ⟨definitions, hdefinitions, hfold⟩ := bind_eq_ok_iff.mp hfragments
    rw [operationsOf, hdefinitions] at hoperations
    obtain ⟨es, hes, heq⟩ := Entries.foldlM_put_eq_ok_iff.mp
      ((foldlM_putOperation [] definitions).symm.trans hoperations)
    exact ⟨definitions, es, hdefinitions, hfold, hes, heq⟩

/-- The last operation of a name is merged. -/
theorem get?_operations (h : ofDocuments documents = .ok m)
    (hdefinitions : allDefinitions documents = .ok definitions) :
    m.operations.get? (.text n) = (operationsNamed n definitions).getLast? := by
  obtain ⟨definitions', es, hdefinitions', -, hes, heq⟩ := exists_filed h
  cases hdefinitions.symm.trans hdefinitions'
  have hnamed : (es.filter (·.1 = .text n)).map (·.2) = operationsNamed n definitions := by
    rw [operationsNamed]
    generalize definitions.filter (fun d => d.kind? = some .operationDefinition) = operations at hes
    have hrelated := mapM_eq_ok_iff.mp hes
    clear heq hes
    induction hrelated with
    | nil => rfl
    | @cons d e operations es hd _ ih =>
        obtain ⟨rfl, hname⟩ := file_eq_ok hd
        rw [List.filter_cons, List.filter_cons, hname]
        by_cases he : e.1 = .text n <;> simp [he, Except.toOption, ih]
  rw [heq, Entries.get?_update rfl, ← hnamed, List.getLast?_map]
  simp [Entries.get?]

/-! ### Closing -/

/-- Merged definitions that can be closed and signed: all have names, those of operations texts. -/
structure Named (m : Merged) : Prop where
  fragments : ∀ e ∈ m.fragments, e.2.kind? = some .fragmentDefinition ∧ ∃ name, e.2.nameOf = .ok name
  operations : ∀ e ∈ m.operations, e.2.kind? = some .operationDefinition ∧
    ∃ n, e.1 = .text n ∧ e.2.nameOf = .ok (.text n)
  nodup : (m.operations.map (·.1)).Nodup

theorem named_of_ofDocuments (h : ofDocuments documents = .ok m)
    (htexts : ∀ e ∈ m.operations, ∃ n, e.1 = .text n) : m.Named := by
  obtain ⟨definitions, es, -, hfragments, hes, heq⟩ := exists_filed h
  rw [heq] at htexts
  obtain ⟨htexts, -⟩ := Entries.exists_text_of_update htexts
  obtain ⟨hnodup, hmem⟩ := @Entries.update_texts _ [] _ htexts List.nodup_nil
  refine ⟨?_, fun e he => ?_, heq ▸ hnodup⟩
  · refine foldlM_induction (P := fun fragments : Entries Tree => ∀ e ∈ fragments,
      e.2.kind? = some .fragmentDefinition ∧ ∃ name, e.2.nameOf = .ok name)
      (fun d _ acc acc' hacc hput => ?_) (by simp) hfragments
    rw [putFragment] at hput
    split at hput
    · rename_i hkind
      obtain ⟨name, hname, hput⟩ := bind_eq_ok_iff.mp hput
      cases hput
      intro e he
      obtain hvalue | hold := Entries.value_of_mem_put he
      · rw [hvalue]
        exact ⟨hkind, name, hname⟩
      · exact hacc e hold
    · cases hput
      exact hacc
  · rw [heq] at he
    have hfiled := (hmem e he).resolve_right (by simp)
    obtain ⟨n, hn⟩ := htexts e hfiled
    obtain ⟨d, hd, hfile⟩ := exists_of_mem_left (mapM_eq_ok_iff.mp hes).flip hfiled
    obtain ⟨rfl, hname⟩ := file_eq_ok hfile
    exact ⟨of_decide_eq_true (List.mem_filter.mp hd).2, n, hn, hn ▸ hname⟩

/-- An operation with the merged fragments that it reaches, in merged order. -/
def closeOver (m : Merged) (d : Tree) : Except Malformed (List Tree) := do
  let fragments := m.fragments.map (·.2)
  let names := Separate.reach (← Separate.graph fragments) (← Separate.spreadsOf d)
  return fragments.filter (Separate.belongs names) ++ [d]

theorem Named.isFragmentIn_eq (h : m.Named) {e : Scalar × Tree} (he : e ∈ m.fragments)
    (names : List Scalar) :
    Separate.isFragmentIn names e.2 = .ok (Separate.belongs names e.2) := by
  obtain ⟨hkind, name, hname⟩ := h.fragments e he
  rw [Separate.belongs, Separate.isFragmentIn, if_pos hkind, hname]
  rfl

theorem Named.kind_of_fragment (h : m.Named) :
    ∀ t ∈ m.fragments.map (·.2), t.kind? = some .fragmentDefinition := by
  intro t ht
  obtain ⟨e, he, rfl⟩ := List.mem_map.mp ht
  exact (h.fragments e he).1

theorem Named.kind_of_operation (h : m.Named) :
    ∀ t ∈ m.operations.map (·.2), t.kind? = some .operationDefinition := by
  intro t ht
  obtain ⟨e, he, rfl⟩ := List.mem_map.mp ht
  exact (h.operations e he).1

/-- What separation keeps of all definitions are the fragments reached and the operation. -/
theorem Named.closure_eq (h : m.Named) {e : Scalar × Tree} {i : Nat} (names : List Scalar)
    (hi : (e, i) ∈ m.operations.zipIdx m.fragments.length) :
    Separate.closure names i (m.fragments.map (·.2) ++ m.operations.map (·.2)).zipIdx
      = .ok ((m.fragments.map (·.2)).filter (Separate.belongs names) ++ [e.2]) := by
  have hskip : ∀ t ∈ m.operations.map (·.2), Separate.isFragmentIn names t = .ok false := by
    intro t ht
    rw [Separate.isFragmentIn, h.kind_of_operation t ht, if_neg (by decide)]
  refine Separate.closure_append (fun t ht => ?_) hskip (fun t ht => ?_) ?_
  · obtain ⟨f, hf, rfl⟩ := List.mem_map.mp ht
    exact h.isFragmentIn_eq hf _
  · rw [Separate.belongs, hskip t ht]
    rfl
  · rw [List.length_map, List.zipIdx_map]
    exact List.mem_map.mpr ⟨_, hi, rfl⟩

/-- Separation gives one document for each operation, under the operation's key. -/
theorem Named.exists_separated (h : m.Named) {separated : Entries Tree}
    (hseparated : Separate.ofDocument m.toDocument = .ok separated) :
    ∃ g es, Separate.graph (m.fragments.map (·.2)) = .ok g ∧ separated = Entries.update [] es ∧
      List.Forall₂ (fun x e => e.1 = x.1.1 ∧ ∃ start, Separate.spreadsOf x.1.2 = .ok start ∧
        e.2 = .document ((m.fragments.map (·.2)).filter
          (Separate.belongs (Separate.reach g start)) ++ [x.1.2]))
        (m.operations.zipIdx m.fragments.length) es := by
  obtain ⟨g, es, hg, hes, rfl⟩ := Separate.ofDocument_eq_ok_iff.mp hseparated
  rw [Separate.graph_append h.kind_of_operation] at hg
  rw [Separate.filter_operations h.kind_of_fragment h.kind_of_operation, List.length_map,
    List.zipIdx_map] at hes
  have hrelated := List.forall₂_map_left_iff.mp (mapM_eq_ok_iff.mp hes)
  refine ⟨g, es, hg, rfl, ((List.forall₂_and_left _ _).mpr ⟨fun x hx => hx, hrelated⟩).imp ?_⟩
  rintro ⟨e, i⟩ e' ⟨hx, he⟩
  obtain ⟨start, hstart, he⟩ := bind_eq_ok_iff.mp he
  obtain ⟨key, hkey, he⟩ := bind_eq_ok_iff.mp he
  obtain ⟨closed, hclosed, he⟩ := bind_eq_ok_iff.mp he
  cases he
  have hmem : e ∈ m.operations := by
    obtain ⟨-, -, hget⟩ := List.mem_zipIdx hx
    exact hget ▸ List.getElem_mem _
  obtain ⟨-, n, hn, hname⟩ := h.operations e hmem
  cases (Separate.keyOf_of_nameOf hname).symm.trans hkey
  cases (h.closure_eq _ hx).symm.trans hclosed
  exact ⟨hn.symm, start, hstart, rfl⟩

/-- Separation closes each operation over the merged fragments. -/
theorem Named.exists_closeOver (h : m.Named) {separated : Entries Tree}
    (hseparated : Separate.ofDocument m.toDocument = .ok separated)
    (hd : m.operations.get? (.text n) = some d) :
    ∃ closed, m.closeOver d = .ok closed ∧
      separated.get? (.text n) = some (.document closed) := by
  obtain ⟨g, es, hg, rfl, heach⟩ := h.exists_separated hseparated
  have hkeys : es.map (·.1) = m.operations.map (·.1) := by
    rw [← map_zipIdx_fst (·.1) m.operations m.fragments.length]
    exact map_eq_of_forall₂ (heach.imp fun _ _ he => he.1)
  have hnodup : (es.map (·.1)).Nodup := hkeys ▸ h.nodup
  obtain ⟨i, hi⟩ : ∃ i, ((.text n, d), i) ∈ m.operations.zipIdx m.fragments.length := by
    have hmap : (.text n, d) ∈ (m.operations.zipIdx m.fragments.length).map Prod.fst := by
      rw [List.zipIdx_map_fst]
      exact Entries.mem_of_get?_text hd
    obtain ⟨⟨_, i⟩, hi, rfl⟩ := List.mem_map.mp hmap
    exact ⟨i, hi⟩
  obtain ⟨⟨_, _⟩, he, rfl, start, hstart, rfl⟩ := exists_of_mem_left heach hi
  refine ⟨(m.fragments.map (·.2)).filter (Separate.belongs (Separate.reach g start)) ++ [d], ?_, ?_⟩
  · rw [closeOver, hg, hstart]
    rfl
  · rw [Entries.get?_update rfl, Entries.filter_key_eq hnodup he]
    rfl

end Merged

/-! ### Signing -/

namespace SignedOperation

theorem registry_eq_ok {document : Tree} {name s : String} {literals : Bool}
    (h : Signer.registry document name literals = .ok s) :
    Signature.ofOperation document name literals = .ok s := by
  rw [Signer.registry] at h
  split at h
  · rename_i signature hsignature
    cases h
    exact hsignature
  · cases h
  · cases h

/-- Signing files what is merged: the operations signed are those merged, each under its text. -/
theorem exists_merged {operations : List SignedOperation}
    (h : ofDocuments options .registry documents = .ok operations) :
    ∃ m separated, Merged.ofDocuments documents = .ok m ∧ m.Named ∧
      Separate.ofDocument m.toDocument = .ok separated ∧
      List.Forall₂ (fun e o => e.1 = .text o.name ∧ ∃ closed, separated.get? e.1 = some closed ∧
        shown options closed = .ok o.document ∧
        Signature.ofOperation o.document o.name options.preserveLiterals = .ok o.signature)
        m.operations operations := by
  rw [ofDocuments] at h
  split at h
  · cases h
  · cases h
  · rename_i m hm
    split at h
    · cases h
    · rename_i closed hmerged
      obtain ⟨separated, hseparated, hclosed⟩ := bind_eq_ok_iff.mp hmerged
      have hsigned := mapM_eq_ok_iff.mp h
      have hfound := mapM_eq_ok_iff.mp hclosed
      have hboth : List.Forall₂ (fun e o => e.1 = .text o.name ∧ ∃ closed,
          separated.get? e.1 = some closed ∧ shown options closed = .ok o.document ∧
          Signature.ofOperation o.document o.name options.preserveLiterals = .ok o.signature)
          m.operations operations := by
        -- Along the operations that are merged, with what has been closed for each and what has been signed.
        generalize m.operations = entries at hfound
        clear h hmerged hclosed hm
        induction hfound generalizing operations with
        | nil =>
            obtain rfl := List.forall₂_nil_left_iff.mp hsigned
            exact .nil
        | @cons e c entries closed hc _ ih =>
            obtain ⟨o, operations, ho, hrest, rfl⟩ := List.forall₂_cons_left_iff.mp hsigned
            refine .cons ?_ (ih hrest)
            split at hc
            · rename_i document hget
              cases hc
              obtain ⟨hname, hshown, hsignature⟩ := ofClosed_eq_ok ho
              exact ⟨hname, document, hget, hshown, registry_eq_ok hsignature⟩
            · cases hc
      refine ⟨m, separated, hm, Merged.named_of_ofDocuments hm fun e he => ?_, hseparated, hboth⟩
      obtain ⟨o, -, hkey, -⟩ := exists_of_mem_left hboth he
      exact ⟨o.name, hkey⟩

end SignedOperation

namespace Processed

/-- A source is processed: the unit is extracted, and the loader answers all it requires. -/
structure Processes (options : Options) (signer : Signer)
    (loader : String → Option String → Answer) (path : Option String) (source : String)
    (unit : Script.Extracted) (p : Processed) : Prop where
  extracted : Script.extract (fileName path) source = .ok unit
  finished : ofAnswers options signer path source unit
    (unit.dependencies.map fun reference => loader reference path) = .ok p

/-- The one identifier under a name is that of this definition: it is closed over the merged fragments,
given its type names if the options ask for them, and signed. -/
def Identifies (options : Options) (p : Processed) (n : String) (d : Tree) : Prop :=
  ∃ m closed document s, Merged.ofDocuments p.documents = .ok m ∧ m.closeOver d = .ok closed ∧
    SignedOperation.shown options (.document closed) = .ok document ∧
    Signature.ofOperation document n options.preserveLiterals = .ok s ∧
    ∀ i, (n, i) ∈ p.identifiers ↔ i = Signature.identifier s

/-- What is merged under a name is identified under it. -/
theorem identifies_of_merged {p : Processed} {separated : Entries Tree}
    (hm : Merged.ofDocuments p.documents = .ok m) (hnamed : m.Named)
    (hseparated : Separate.ofDocument m.toDocument = .ok separated)
    (hsigned : List.Forall₂ (fun e o => e.1 = .text o.name ∧ ∃ closed, separated.get? e.1 = some closed ∧
      SignedOperation.shown options closed = .ok o.document ∧
      Signature.ofOperation o.document o.name options.preserveLiterals = .ok o.signature)
      m.operations p.operations)
    (hd : m.operations.get? (.text n) = some d) : Identifies options p n d := by
  obtain ⟨closed, hclosed, hfound⟩ := hnamed.exists_closeOver hseparated hd
  have hsame : ∀ o ∈ p.operations, o.name = n → SignedOperation.shown options (.document closed)
      = .ok o.document ∧ Signature.ofOperation o.document n options.preserveLiterals
      = .ok o.signature := by
    rintro o ho rfl
    obtain ⟨e, -, hkey, document, hget, hshown, hsignature⟩ := exists_of_mem_left hsigned.flip ho
    rw [hkey, hfound] at hget
    cases hget
    exact ⟨hshown, hsignature⟩
  obtain ⟨o, ho, hkey, -⟩ := exists_of_mem_left hsigned (Entries.mem_of_get?_text hd)
  have hname : o.name = n := (Scalar.text.inj hkey).symm
  obtain ⟨hshown, hsignature⟩ := hsame o ho hname
  refine ⟨m, closed, o.document, o.signature, hm, hclosed, hshown, hsignature, fun i => ?_⟩
  constructor
  · intro hi
    obtain ⟨o', ho', heq⟩ := List.mem_map.mp hi
    obtain ⟨hname', rfl⟩ := Prod.mk.inj heq
    obtain ⟨hshown', hsignature'⟩ := hsame o' ho' hname'
    have hdocument := Except.ok.inj (hshown.symm.trans hshown')
    rw [hdocument] at hsignature
    rw [SignedOperation.identifier, Except.ok.inj (hsignature.symm.trans hsignature')]
  · rintro rfl
    exact List.mem_map.mpr ⟨o, ho, by rw [hname]; rfl⟩

/-- What is resolved is what the loader answers for the unit's references. -/
theorem mem_resolved_iff {loader : String → Option String → Answer} {path : Option String}
    {references : List String} {resolved : List (List Tree)}
    (h : Resolution.conclude references (references.map fun reference => loader reference path)
      = .ok resolved) {documents : List Tree} :
    documents ∈ resolved ↔ ∃ reference ∈ references, loader reference path = .ok documents := by
  have hanswers := (Resolution.conclude_eq_ok_iff (by simp)).mp h
  rw [← List.mem_map, hanswers, List.mem_map_of_injective fun _ _ => Except.ok.inj]

/-- The identifier attached to a unit's own operation is that of the last operation of its name, which is
the unit's own where no dependency has one of the name. -/
theorem identifies_last {loader : String → Option String → Answer} {path : Option String}
    {source : String} {unit : Script.Extracted} {p : Processed} {own : List Tree}
    (h : Processes options .registry loader path source unit p)
    (hown : unit.document.definitions = .ok own) (hd : operationsNamed n own = [d]) :
    p.source = Script.appendIdentifiers source p.identifiers ∧
    ∃ definitions last, Merged.allDefinitions p.documents = .ok definitions ∧
      (operationsNamed n definitions).getLast? = some last ∧ Identifies options p n last ∧
      ((∀ reference ∈ unit.dependencies, ∀ documents, loader reference path = .ok documents →
        ∀ document ∈ documents, ∀ others, document.definitions = .ok others →
          operationsNamed n others = []) → last = d) := by
  obtain ⟨resolved, hresolved, hfinished⟩ := bind_eq_ok_iff.mp h.finished
  obtain ⟨operations, hoperations, heq⟩ := bind_eq_ok_iff.mp hfinished
  cases heq
  obtain ⟨m, separated, hm, hnamed, hseparated, hsigned⟩ := SignedOperation.exists_merged hoperations
  obtain ⟨definitions, -, hdefinitions, -⟩ := Merged.exists_filed hm
  obtain ⟨others, hothers, rfl⟩ := Merged.allDefinitions_cons hown hdefinitions
  obtain ⟨last, hlast⟩ : ∃ last, (operationsNamed n (own ++ others)).getLast? = some last := by
    rw [operationsNamed_append, hd]
    exact ⟨_, List.getLast?_eq_some_getLast (by simp)⟩
  have hget : m.operations.get? (.text n) = some last :=
    (Merged.get?_operations hm hdefinitions).trans hlast
  refine ⟨rfl, own ++ others, last, hdefinitions, hlast, ?_, fun hnone => ?_⟩
  · exact identifies_of_merged hm hnamed hseparated hsigned hget
  · have hothers : operationsNamed n others = [] := by
      refine Merged.operationsNamed_eq_nil hothers fun document hdocument => ?_
      obtain ⟨documents, hdocuments, hmem⟩ := List.mem_flatten.mp hdocument
      obtain ⟨reference, hreference, hloader⟩ := (mem_resolved_iff hresolved).mp hdocuments
      exact hnone reference hreference documents hloader document hmem
    rw [operationsNamed_append, hd, hothers] at hlast
    exact (Option.some.inj hlast).symm

/-- The text that an operation has among merged definitions. -/
def signature? (options : Options) (documents : List Tree) (n : String) (d : Tree) : Option String := do
  let m ← (Merged.ofDocuments documents).toOption
  let closed ← (m.closeOver d).toOption
  let document ← (SignedOperation.shown options (.document closed)).toOption
  (Signature.ofOperation document n options.preserveLiterals).toOption

theorem Identifies.mem {p : Processed} {s : String} (h : Identifies options p n d)
    (hs : signature? options p.documents n d = some s) :
    (n, Signature.identifier s) ∈ p.identifiers := by
  obtain ⟨m, closed, document, s', hm, hclosed, hdocument, hsignature, hmem⟩ := h
  have hs' : signature? options p.documents n d = some s' := by
    simp only [signature?, hm, hclosed, hdocument, hsignature, Except.toOption, Option.bind_eq_bind,
      Option.bind_some]
  cases hs.symm.trans hs'
  exact (hmem _).mpr rfl

/-- A unit that exports a query of its own beside what it requires. -/
def exportingSource : String :=
  "d=require('b')\nq=\x7b'kind':'Document','definitions':[\x7b'kind':'OperationDefinition'," ++
    "'operation':'query','name':\x7b'kind':'Name','value':'Q'\x7d,'selectionSet':" ++
    "\x7b'kind':'SelectionSet','selections':[\x7b'kind':'Field','name':" ++
    "\x7b'kind':'Name','value':'a'\x7d\x7d]\x7d\x7d]\x7d\nexports=\x7b**d,**q\x7d\nexports['Q']=q"

/-- A loader that knows one unit, of one query. -/
def oneQuery (n : String) : String → Option String → Answer := fun _ _ =>
  .ok [.document [SignedOperation.query n (SignedOperation.plainField "b")]]

/-- What the source comes to: it defines and exports one query, and requires one unit. It is processed,
whether the other query has the same name or not. -/
theorem exists_exporting : ∃ unit own d statements s,
    Script.extract "<unit>" exportingSource = .ok unit ∧ unit.document.definitions = .ok own ∧
      Script.parse exportingSource = .ok statements ∧ Script.Evaluation.run statements = .ok s ∧
      (operationsNamed "Q" own = [d] ∧ ∀ n, operationsNamed n own ≠ [] → n = "Q") ∧
      unit.dependencies = ["b"] ∧ s.ExportsNode "Q" ∧ ¬s.ExportsDict "P" ∧
      (∃ p, ofAnswers {} .registry none exportingSource unit
        (unit.dependencies.map fun reference => oneQuery "P" reference none) = .ok p) ∧
      ∃ p, ofAnswers {} .registry none exportingSource unit
        (unit.dependencies.map fun reference => oneQuery "Q" reference none) = .ok p ∧
        signature? {} p.documents "Q" d = some "query Q\x7ba\x7d" ∧
        p.identifiers = [("Q", Signature.identifier "query Q\x7bb\x7d")] := by
  -- One evaluation of the source checks all that is said of it.
  obtain ⟨statements, s, document, hextract, hparse, hs, hcheck⟩ := Script.exists_of_check "<unit>"
    exportingSource (fun _ s => s.exportsNode "Q" && s.exportsNothing "P" && s.references = [.text "b"] &&
      (s.exported "<unit>").toOption.any fun document => document.definitions.toOption.any fun own =>
        (operationsNamed "Q" own).length = 1 &&
        own.all (fun t => t.nameOf.toOption = some (.text "Q")) &&
        (ofAnswers {} .registry none exportingSource ⟨document, s.references⟩
          [oneQuery "P" "b" none]).toOption.isSome &&
        (ofAnswers {} .registry none exportingSource ⟨document, s.references⟩
          [oneQuery "Q" "b" none]).toOption.any fun p =>
            (operationsNamed "Q" own).all
              (signature? {} p.documents "Q" · = some "query Q\x7ba\x7d") &&
            p.identifiers = [("Q", Signature.identifier "query Q\x7bb\x7d")])
    (Script.toList_pieces (Script.toList_pieces (Script.toList_pieces String.toList_ofList
      String.toList_ofList) String.toList_ofList) String.toList_ofList) (by decide +kernel)
  obtain ⟨-, _, _, hparse', hs', hexported, -⟩ := Script.extract_eq_ok_iff.mp hextract
  cases hparse.symm.trans hparse'
  cases hs.symm.trans hs'
  simp only [hexported, Except.toOption, Option.any_some, Bool.and_eq_true, decide_eq_true_eq] at hcheck
  obtain ⟨⟨⟨hnode, hnothing⟩, hreferences⟩, hcheck⟩ := hcheck
  obtain ⟨own, hown, hcheck⟩ := (Option.any_eq_true _ _).mp hcheck
  simp only [Bool.and_eq_true, decide_eq_true_eq] at hcheck
  obtain ⟨⟨⟨hone, hnames⟩, hother⟩, hsame⟩ := hcheck
  obtain ⟨d, hd⟩ := List.length_eq_one_iff.mp hone
  obtain ⟨p, hp⟩ := Option.isSome_iff_exists.mp hother
  obtain ⟨p', hp', hsame⟩ := (Option.any_eq_true _ _).mp hsame
  obtain ⟨hsignature, hidentifiers⟩ := Bool.and_eq_true_iff.mp hsame
  rw [hd, List.all_cons, Bool.and_eq_true_iff] at hsignature
  have hdependencies : (⟨document, s.references⟩ : Script.Extracted).dependencies = ["b"] := by
    rw [Script.Extracted.dependencies, hreferences]
    rfl
  have hnamed : ∀ t ∈ own, t.nameOf.toOption = some (.text "Q") := fun t ht =>
    of_decide_eq_true (List.all_eq_true.mp hnames t ht)
  refine ⟨_, own, d, statements, s, hextract, eq_ok_of_toOption hown, hparse, hs,
    ⟨hd, fun n => eq_of_operationsNamed_ne_nil hnamed⟩, hdependencies,
    Script.Sandbox.exportsNode_iff.mp hnode, Script.Sandbox.not_exportsDict hnothing, ⟨p, ?_⟩, p', ?_,
    of_decide_eq_true hsignature.1, of_decide_eq_true hidentifiers⟩
  · rw [hdependencies]
    exact eq_ok_of_toOption hp
  · rw [hdependencies]
    exact eq_ok_of_toOption hp'

/-- The source with its answers is processed, whether the other query has the same name or not. -/
theorem exists_processed : ∃ unit own d, unit.document.definitions = .ok own ∧
    operationsNamed "Q" own = [d] ∧
    (∃ p, Processes {} .registry (oneQuery "P") none exportingSource unit p) ∧
    ∃ p, Processes {} .registry (oneQuery "Q") none exportingSource unit p ∧
      signature? {} p.documents "Q" d = some "query Q\x7ba\x7d" ∧
      p.identifiers = [("Q", Signature.identifier "query Q\x7bb\x7d")] := by
  obtain ⟨unit, own, d, -, -, hextract, hown, -, -, ⟨hd, -⟩, -, -, -, ⟨p, hp⟩, p', hp', hsignature,
    hidentifiers⟩ := exists_exporting
  exact ⟨unit, own, d, hown, hd, ⟨p, hextract, hp⟩, p', ⟨hextract, hp'⟩, hsignature, hidentifiers⟩

/-- No operation that the unit requires has the name, so the identifier is that of its own. -/
theorem identifies_last_own : ∃ unit own d p,
    Processes {} .registry (oneQuery "P") none exportingSource unit p ∧
      unit.document.definitions = .ok own ∧ operationsNamed "Q" own = [d] ∧ Identifies {} p "Q" d := by
  obtain ⟨unit, own, d, hown, hd, ⟨p, hp⟩, -⟩ := exists_processed
  obtain ⟨-, definitions, last, -, -, hidentifies, hlast⟩ := identifies_last hp hown hd
  refine ⟨unit, own, d, p, hp, hown, hd, ?_⟩
  rwa [hlast fun reference _ documents hdocuments document hdocument others hothers => ?_]
    at hidentifies
  cases hdocuments
  cases List.mem_singleton.mp hdocument
  cases hothers
  rfl

/-- An operation that the unit requires has the name: the identifier is not that of the unit's own. -/
theorem identifies_required : ∃ unit own d p,
    Processes {} .registry (oneQuery "Q") none exportingSource unit p ∧
      unit.document.definitions = .ok own ∧ operationsNamed "Q" own = [d] ∧
      signature? {} p.documents "Q" d = some "query Q\x7ba\x7d" ∧
      p.identifiers = [("Q", Signature.identifier "query Q\x7bb\x7d")] ∧ ¬Identifies {} p "Q" d := by
  obtain ⟨unit, own, d, hown, hd, -, p, hp, hsignature, hidentifiers⟩ := exists_processed
  refine ⟨unit, own, d, p, hp, hown, hd, hsignature, hidentifiers, fun h => ?_⟩
  have hmem := h.mem hsignature
  rw [hidentifiers, List.mem_singleton, Prod.mk.injEq] at hmem
  have hdistinct :
      Signature.identifier "query Q\x7ba\x7d" ≠ Signature.identifier "query Q\x7bb\x7d" := by
    decide +kernel
  exact hdistinct hmem.2

end Processed

end PersistedOps

import PersistedOps.Build.Signing
import PersistedOps.Proofs.Document.Closure
import PersistedOps.Proofs.Document.Typename

/-!
Signing of merged definitions. Every step of it, the type names, a second closure, the hiding and the
sorting of what is closed, forgets the order of the fragments, so an operation's signature depends on
nothing but its definition and those of the fragments it reaches.
-/

namespace PersistedOps

open PersistedOps.Tree (Revised)

namespace Merged

variable {m m' : Merged} {k : Kind} {n : String} {d : Tree}

/-- The definitions of a merge's document. -/
def definitions (m : Merged) : List Tree := m.fragments.map (·.2) ++ m.operations.map (·.2)

theorem toDocument_eq (m : Merged) : m.toDocument = .document m.definitions := rfl

theorem definitions_map (f : Tree → Tree) (m : Merged) :
    (m.map f).definitions = m.definitions.map f := by
  rw [definitions, definitions, map, List.map_append, List.map_map, List.map_map, List.map_map,
    List.map_map]
  rfl

/-- Every merged definition can be signed, under a name of its own. -/
theorem Regular.named (h : m.Regular) :
    ∀ d ∈ m.definitions, ∃ k n, SignableDefinition k (some n) d := by
  intro d hd
  obtain hd | hd := List.mem_append.mp hd
  · obtain ⟨e, he, rfl⟩ := List.mem_map.mp hd
    obtain ⟨n, -, hdefinition⟩ := h.fragments.each e he
    exact ⟨_, n, hdefinition⟩
  · obtain ⟨e, he, rfl⟩ := List.mem_map.mp hd
    obtain ⟨n, -, hdefinition⟩ := h.operations.each e he
    exact ⟨_, n, hdefinition⟩

theorem Regular.signable (h : m.Regular) : AllSignable m.definitions := by
  intro d hd
  obtain ⟨k, n, hdefinition⟩ := h.named d hd
  exact ⟨k, some n, hdefinition⟩

theorem Same.definitions (h : m.Same m') : m.definitions.Perm m'.definitions := by
  rw [Merged.definitions, Merged.definitions, h.operations]
  exact (h.fragments.map _).append_right _

/-! ### Changes of every definition -/

/-- A revision of a merge's document revises every definition, then the document. -/
theorem Regular.revise_eq {f : Tree → Except Malformed Tree} (hf : Keeps f) (h : m.Regular) :
    m.toDocument.revise f = f (m.map (changed (Tree.revise f))).toDocument ∧
      (m.map (changed (Tree.revise f))).Regular := by
  refine ⟨?_, h.map fun hd => (hd.changed_revise hf).2⟩
  rw [toDocument_eq, toDocument_eq, definitions_map]
  exact (revise_document hf h.signable).1

/-- Type names are added to each definition. -/
theorem Regular.addTypename_eq (h : m.Regular) :
    Typename.add m.toDocument = .ok (m.map (changed Typename.add)).toDocument ∧
      (m.map (changed Typename.add)).Regular := by
  have hadded : ∀ {k n d}, SignableDefinition k n d →
      Typename.Added d (changed Typename.add d) ∧ SignableDefinition k n (changed Typename.add d) := by
    intro k n d hd
    obtain ⟨u, hu, hdefinition⟩ := Typename.added_definition hd
    rw [changed_eq (Typename.add_eq_ok_iff.mpr hu)]
    exact ⟨hu, hdefinition⟩
  refine ⟨Typename.add_eq_ok_iff.mpr ?_, h.map fun hd => (hadded hd).2⟩
  rw [toDocument_eq, toDocument_eq, definitions_map]
  refine Typename.added_ofOptions (by decide) rfl (walks_document fun d hd => ?_)
  obtain ⟨k, n, hdefinition⟩ := h.signable d hd
  exact (hadded hdefinition).1

theorem Regular.hide_eq (h : m.Regular) :
    Literals.hide m.toDocument = .ok (m.map (changed Literals.hide)).toDocument ∧
      (m.map (changed Literals.hide)).Regular :=
  h.revise_eq keeps_hideNode

/-! ### Sorting -/

theorem keys_eq {entries : Entries Tree} (h : Files k entries) :
    (entries.map (·.2)).map (fun t => (Sort.byKindAndName t).toOption)
      = (entries.map (·.1)).map fun s => some ⟨k.sortName, some s⟩ := by
  rw [List.map_map, List.map_map]
  refine List.map_congr_left fun e he => ?_
  obtain ⟨n, hkey, hd⟩ := h.each e he
  simp [byKindAndName_definition hd, hkey, Except.toOption]

/-- No two merged definitions have one key. -/
theorem Regular.nodup_keys (h : m.Regular) :
    (m.definitions.map fun t => (Sort.byKindAndName t).toOption).Nodup := by
  have hkinds : Kind.sortName .fragmentDefinition ≠ Kind.sortName .operationDefinition := by
    decide
  have hinjective : ∀ k : Kind,
      Function.Injective fun s : Scalar => some (Sort.Key.mk k.sortName (some s)) := by
    intro k s t hst
    simpa using hst
  rw [definitions, List.map_append, keys_eq h.fragments, keys_eq h.operations]
  refine (h.fragments.nodup.map (hinjective _)).append (h.operations.nodup.map (hinjective _)) ?_
  intro x hx hx'
  obtain ⟨s, -, rfl⟩ := List.mem_map.mp hx
  obtain ⟨t, -, heq⟩ := List.mem_map.mp hx'
  have hkey := Option.some.inj heq
  exact hkinds (congrArg Sort.Key.kind hkey).symm

/-- Documents of the same definitions are sorted into one. -/
theorem Regular.sort_same (h : m.Regular) (h' : m'.Regular) (hsame : m.Same m') :
    Sort.sort m.toDocument = Sort.sort m'.toDocument := by
  obtain ⟨hrevise, hregular⟩ := h.revise_eq Sort.keeps_sortNode
  obtain ⟨hrevise', -⟩ := h'.revise_eq Sort.keeps_sortNode
  have hdefinitions := (hsame.map (changed (Tree.revise Sort.sortNode))).definitions
  rw [Sort.sort, Sort.sort, hrevise, hrevise', toDocument_eq, toDocument_eq, sortNode_document,
    sortNode_document, Sort.sortItems_perm hregular.signable.sortable hregular.nodup_keys hdefinitions]

/-! ### Signatures -/

theorem Regular.ofClosed_same (h : m.Regular) (h' : m'.Regular) (hsame : m.Same m')
    (literals : Bool) :
    Signature.ofClosed literals m.toDocument = Signature.ofClosed literals m'.toDocument := by
  cases literals with
  | true => exact congrArg (· >>= Signature.printReduced) (h.sort_same h' hsame)
  | false =>
      obtain ⟨hhide, hregular⟩ := h.hide_eq
      obtain ⟨hhide', hregular'⟩ := h'.hide_eq
      have hsort := hregular.sort_same hregular' (hsame.map (changed Literals.hide))
      rw [Signature.ofClosed, Signature.ofClosed, if_neg Bool.false_ne_true, hhide, hhide']
      exact congrArg (· >>= Signature.printReduced) hsort

/-- The signer closes an operation over a document that is closed already. -/
theorem Regular.closeOver_eq (h : m.Regular) (hd : (.text n, d) ∈ m.operations) :
    Signature.closeOver m.toDocument n = .ok (m.closureOf (.text n, d)).toDocument := by
  rw [Signature.closeOver, h.closable.ofDocument_eq]
  simp only [h.closable.get?_closed hd]

theorem Regular.exists_ofOperation (h : m.Regular) (hd : (.text n, d) ∈ m.operations)
    (literals : Bool) : ∃ s, Signature.ofOperation m.toDocument n literals = .ok s := by
  obtain ⟨s, hs⟩ := exists_ofClosed (h.closureOf hd).signable literals
  refine ⟨s, ?_⟩
  rw [Signature.ofOperation, h.closeOver_eq hd, toDocument_eq]
  simp only [hs]

theorem Regular.ofOperation_same (h : m.Regular) (h' : m'.Regular) (hsame : m.Same m')
    (hd : (.text n, d) ∈ m.operations) (literals : Bool) :
    Signature.ofOperation m.toDocument n literals
      = Signature.ofOperation m'.toDocument n literals := by
  have hd' : (.text n, d) ∈ m'.operations := hsame.operations ▸ hd
  have hclosed := (h.closureOf hd).ofClosed_same (h'.closureOf hd') (hsame.closureOf h h') literals
  rw [Signature.ofOperation, Signature.ofOperation, h.closeOver_eq hd, h'.closeOver_eq hd']
  simp only [hclosed]

end Merged

/-! ### Signed operations -/

namespace SignedOperation

variable {m m' : Merged} {n : String} {d : Tree} {options : Options}

/-- A closed document as it is signed, with canonical type names or as it is. -/
def shown (options : Options) (closed : Tree) : Except Failure Tree :=
  if options.addTypename then (Typename.add closed).mapError fun _ => .unexpected else .ok closed

theorem ofClosed_eq {closed document : Tree} {signer : Signer} {s : String}
    (hshown : shown options closed = .ok document)
    (hs : signer document n options.preserveLiterals = .ok s) :
    ofClosed options signer (.text n) closed = .ok ⟨n, document, s⟩ := by
  rw [shown] at hshown
  rw [ofClosed]
  split at hshown
  · rename_i hadd
    rw [if_pos hadd, hshown]
    simp only [bind, Except.bind, hs]
    rfl
  · rename_i hadd
    cases hshown
    rw [if_neg hadd]
    simp only [bind, Except.bind, hs]
    rfl

theorem ofClosed_eq_ok {signer : Signer} {name : Scalar} {closed : Tree} {o : SignedOperation}
    (h : ofClosed options signer name closed = .ok o) :
    name = .text o.name ∧ shown options closed = .ok o.document ∧
      signer o.document o.name options.preserveLiterals = .ok o.signature := by
  cases name with
  | text name =>
      have hbind : ofClosed options signer (.text name) closed = shown options closed >>= fun document => do
          return ⟨name, document, ← signer document name options.preserveLiterals⟩ := by
        rw [ofClosed, shown]
        split <;> rfl
      rw [hbind] at h
      obtain ⟨document, hdocument, h⟩ := bind_eq_ok_iff.mp h
      obtain ⟨signature, hsignature, h⟩ := bind_eq_ok_iff.mp h
      cases h
      exact ⟨rfl, hdocument, hsignature⟩
  | _ =>
      rw [ofClosed] at h
      split at h
      · obtain ⟨_, -, h⟩ := bind_eq_ok_iff.mp h
        cases h
      · cases h

/-- What is signed holds the definitions of the closure, each changed in the same way. -/
theorem exists_shown (h : m.Regular) (h' : m'.Regular) (hsame : m.Same m')
    (hd : (.text n, d) ∈ m.operations) (options : Options) :
    ∃ p p' : Merged, p.Regular ∧ p'.Regular ∧ p.Same p' ∧ (∃ e, (.text n, e) ∈ p.operations) ∧
      shown options m.toDocument = .ok p.toDocument ∧
      shown options m'.toDocument = .ok p'.toDocument := by
  cases hoption : options.addTypename with
  | false => exact ⟨m, m', h, h', hsame, ⟨d, hd⟩, by simp [shown, hoption], by simp [shown, hoption]⟩
  | true =>
      obtain ⟨hadd, hregular⟩ := h.addTypename_eq
      obtain ⟨hadd', hregular'⟩ := h'.addTypename_eq
      refine ⟨_, _, hregular, hregular', hsame.map _, ⟨_, List.mem_map.mpr ⟨_, hd, rfl⟩⟩, ?_, ?_⟩
      · rw [shown, hoption, if_pos rfl, hadd]
        rfl
      · rw [shown, hoption, if_pos rfl, hadd']
        rfl

/-- Closed documents of the same definitions are signed alike. -/
theorem exists_signed_alike (h : m.Regular) (h' : m'.Regular) (hsame : m.Same m')
    (hd : (.text n, d) ∈ m.operations) (options : Options) :
    ∃ o o', ofClosed options .registry (.text n) m.toDocument = .ok o ∧
      ofClosed options .registry (.text n) m'.toDocument = .ok o' ∧ o.name = n ∧ o'.name = n ∧
      o.signature = o'.signature := by
  obtain ⟨p, p', hp, hp', hpsame, ⟨e, he⟩, hshown, hshown'⟩ := exists_shown h h' hsame hd options
  obtain ⟨s, hs⟩ := hp.exists_ofOperation he options.preserveLiterals
  have hs' := (hp.ofOperation_same hp' hpsame he options.preserveLiterals).symm.trans hs
  refine ⟨⟨n, p.toDocument, s⟩, ⟨n, p'.toDocument, s⟩, ofClosed_eq hshown ?_,
    ofClosed_eq hshown' ?_, rfl, rfl, rfl⟩
  · simp only [Signer.registry, hs]
  · simp only [Signer.registry, hs']

/-- Documents of a regular merge are signed, each operation by its closure. -/
theorem exists_signed {documents : List Tree} (h : m.Regular)
    (hm : Merged.ofDocuments documents = .ok m) (options : Options) :
    ∃ signed, ofDocuments options .registry documents = .ok signed ∧
      List.Forall₂ (fun e o => e.1 = .text o.name ∧
        ofClosed options .registry e.1 (m.closureOf e).toDocument = .ok o) m.operations signed := by
  have heach : ∀ e ∈ m.operations, ∃ o : SignedOperation, e.1 = .text o.name ∧
      ofClosed options .registry e.1 (m.closureOf e).toDocument = .ok o := by
    intro e he
    obtain ⟨key, d⟩ := e
    obtain ⟨n, rfl, -⟩ := h.operations.each _ he
    have hclosed := h.closureOf he
    obtain ⟨o, -, ho, -, rfl, -⟩ := exists_signed_alike hclosed hclosed ⟨.refl _, rfl⟩
      (List.mem_singleton_self _) options
    exact ⟨o, rfl, ho⟩
  obtain ⟨signed, hsigned⟩ : ∃ signed : List SignedOperation, List.Forall₂ (fun e o =>
      e.1 = .text o.name ∧ ofClosed options .registry e.1 (m.closureOf e).toDocument = .ok o)
      m.operations signed := by
    generalize m.operations = operations at heach
    induction operations with
    | nil => exact ⟨[], .nil⟩
    | cons e operations ih =>
        obtain ⟨⟨o, ho⟩, hrest⟩ := List.forall_mem_cons.mp heach
        obtain ⟨signed, hsigned⟩ := ih hrest
        exact ⟨o :: signed, .cons ho hsigned⟩
  refine ⟨signed, ?_, hsigned⟩
  rw [ofDocuments, hm]
  simp only [h.closable.ofMerged_eq]
  rw [mapM_eq_ok_iff, List.forall₂_map_left_iff]
  exact hsigned.imp fun _ _ ho => ho.2

/-- The documents are signed, and the operation of this name with this signature. -/
def Signs (options : Options) (documents : List Tree) (n signature : String) : Prop :=
  ∃ signed, ofDocuments options .registry documents = .ok signed ∧ (∃ o ∈ signed, o.name = n) ∧
    ∀ o ∈ signed, o.name = n →
      o.signature = signature ∧ o.identifier = Signature.identifier signature

theorem signs_of_ofClosed {documents : List Tree} {o : SignedOperation} (h : m.Regular)
    (hm : Merged.ofDocuments documents = .ok m) (hd : (.text n, d) ∈ m.operations)
    (ho : ofClosed options .registry (.text n) (m.closureOf (.text n, d)).toDocument = .ok o) :
    Signs options documents n o.signature := by
  obtain ⟨signed, hsigned, heach⟩ := exists_signed h hm options
  refine ⟨signed, hsigned, ?_, fun p hp hname => ?_⟩
  · obtain ⟨p, hp, hkey, -⟩ := exists_of_mem_left heach hd
    exact ⟨p, hp, (Scalar.text.inj hkey).symm⟩
  · obtain ⟨e, he, hkey, hp⟩ := exists_of_mem_left heach.flip hp
    obtain rfl : e = (.text n, d) := by
      have hfound := (Entries.get?_text_iff h.operations.nodup).mpr hd
      obtain ⟨key, f⟩ := e
      obtain rfl : key = .text n := hkey.trans (congrArg Scalar.text hname)
      rw [(Entries.get?_text_iff h.operations.nodup).mpr he] at hfound
      rw [Option.some.inj hfound]
    obtain rfl := Except.ok.inj (hp.symm.trans ho)
    exact ⟨rfl, rfl⟩

/-- An operation has one signature, and so one identifier, in all lists of well-formed documents whose
merges agree on its definition and on the fragments it reaches. -/
theorem signature_of_agreement (options : Options) {ds ds' : List Tree}
    (hds : ∀ d ∈ ds, WellFormed d) (hds' : ∀ d ∈ ds', WellFormed d)
    (hm : Merged.ofDocuments ds = .ok m) (hm' : Merged.ofDocuments ds' = .ok m')
    (hd : m.operations.get? (.text n) = some d) (hd' : m'.operations.get? (.text n) = some d)
    (hfragments : ∀ f, m.Reaches d f →
      m.fragments.get? (.text f) = m'.fragments.get? (.text f)) :
    ∃ signature, Signs options ds n signature ∧ Signs options ds' n signature := by
  have h := Merged.regular_of_ofDocuments hds hm
  have h' := Merged.regular_of_ofDocuments hds' hm'
  have hmem := Entries.mem_of_get?_text hd
  have hmem' := Entries.mem_of_get?_text hd'
  have hsame := h.closureOf_same (e := (.text n, d)) h' hfragments
  obtain ⟨o, o', ho, ho', -, -, hsignature⟩ := exists_signed_alike (h.closureOf hmem) (h'.closureOf hmem')
    hsame (List.mem_singleton_self _) options
  refine ⟨o.signature, signs_of_ofClosed h hm hmem ho, ?_⟩
  rw [hsignature]
  exact signs_of_ofClosed h' hm' hmem' ho'

/-- A query of a name with one selection. -/
def query (n : String) (selection : Tree) : Tree := .ofOptions .operationDefinition
  [(.description, none), (.operation, some (.operation .query)), (.name, (some n).map .name),
    (.variableDefinitions, (none : Option (List Tree)).map .list),
    (.directives, (none : Option (List Tree)).map .list),
    (.selectionSet, some (.selectionSet [selection]))]

/-- A fragment of a name with one selection. -/
def fragment (n : String) (selection : Tree) : Tree := .ofOptions .fragmentDefinition
  [(.description, none), (.name, some (.name n)),
    (.variableDefinitions, (none : Option (List Tree)).map .list),
    (.typeCondition, some (.namedType "T")), (.directives, (none : Option (List Tree)).map .list),
    (.selectionSet, some (.selectionSet [selection]))]

def plainField (n : String) : Tree := .ofOptions .field
  [(.aliasName, (none : Option String).map .name), (.name, some (.name n)),
    (.arguments, (none : Option (List Tree)).map .list),
    (.directives, (none : Option (List Tree)).map .list), (.selectionSet, none)]

def plainSpread (n : String) : Tree := .ofOptions .fragmentSpread
  [(.name, some (.name n)), (.directives, (none : Option (List Tree)).map .list)]

theorem grammatical_query {n : String} {selection : Tree} (hn : IsName n)
    (h : Grammatical .selection selection) : Grammatical .definition (query n selection) :=
  .operation .query (by simp) (by simpa using hn) (by simp) (by simp)
    (.selectionSet (by simp) (by simpa using h))

theorem grammatical_fragment {n : String} {selection : Tree} (hn : IsName n) (hother : n ≠ "on")
    (h : Grammatical .selection selection) : Grammatical .definition (fragment n selection) :=
  .fragment (by simp) hn hother (by simp) (.of_toList rfl rfl rfl) (by simp)
    (.selectionSet (by simp) (by simpa using h))

theorem grammatical_field {n : String} (hn : IsName n) : Grammatical .selection (plainField n) :=
  .field (by simp) hn (by simp) (by simp) (by simp)

theorem grammatical_spread {n : String} (hn : IsName n) (hother : n ≠ "on") :
    Grammatical .selection (plainSpread n) :=
  .spread hn hother (by simp)

theorem wellFormed_pair {d e : Tree} (hd : Grammatical .definition d)
    (he : Grammatical .definition e) : WellFormed (.document [d, e]) := by
  have hitems : ∀ t ∈ (some [d, e]).getD [], Grammatical .definition t := by simpa using ⟨hd, he⟩
  exact .document hitems

/-- What an operation with one spread reaches when the fragment spreads nothing. -/
theorem eq_of_reaches {m : Merged} {f : String}
    (hfound : m.fragments.get? (.text "F") = some (fragment "F" (plainField "x")))
    (h : m.Reaches (query "Q" (plainSpread "F")) f) : f = "F" := by
  have hspreads : Separate.spreadsOf (query "Q" (plainSpread "F")) = .ok [.text "F"] := rfl
  have hnone : Separate.spreadsOf (fragment "F" (plainField "x")) = .ok [] := rfl
  induction h with
  | spread h =>
      obtain ⟨names, hnames, hmem⟩ := h
      cases hspreads.symm.trans hnames
      exact Scalar.text.inj (List.mem_singleton.mp hmem)
  | through _ found spreads ih =>
      obtain ⟨names, hnames, hmem⟩ := spreads
      subst ih
      cases hfound.symm.trans found
      cases hnone.symm.trans hnames
      cases hmem

/-- An operation signed with its fragment alone, and behind other definitions. -/
theorem signature_of_agreement_shuffled :
    ∃ signature,
      Signs ⟨true, false⟩ [.document [query "Q" (plainSpread "F"), fragment "F" (plainField "x")]]
        "Q" signature ∧
      Signs ⟨true, false⟩ [.document [fragment "G" (plainField "z"), query "P" (plainSpread "G")],
        .document [fragment "F" (plainField "x"), query "Q" (plainSpread "F")]] "Q" signature := by
  have hQ := grammatical_query (n := "Q") (.of_toList rfl rfl rfl)
    (grammatical_spread (n := "F") (.of_toList rfl rfl rfl) (by decide))
  have hP := grammatical_query (n := "P") (.of_toList rfl rfl rfl)
    (grammatical_spread (n := "G") (.of_toList rfl rfl rfl) (by decide))
  have hF := grammatical_fragment (n := "F") (.of_toList rfl rfl rfl) (by decide)
    (grammatical_field (n := "x") (.of_toList rfl rfl rfl))
  have hG := grammatical_fragment (n := "G") (.of_toList rfl rfl rfl) (by decide)
    (grammatical_field (n := "z") (.of_toList rfl rfl rfl))
  refine signature_of_agreement ⟨true, false⟩ (d := query "Q" (plainSpread "F")) ?_ ?_ rfl rfl rfl
    rfl fun f hf => ?_
  · exact List.forall_mem_singleton.mpr (wellFormed_pair hQ hF)
  · exact List.forall_mem_cons.mpr ⟨wellFormed_pair hG hP,
      List.forall_mem_singleton.mpr (wellFormed_pair hF hQ)⟩
  · rw [eq_of_reaches rfl hf]
    rfl

end SignedOperation

end PersistedOps

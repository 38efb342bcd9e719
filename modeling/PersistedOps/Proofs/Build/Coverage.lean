import PersistedOps.Build.Processed
import PersistedOps.Proofs.Build.Signing
import PersistedOps.Proofs.Document.Merging

/-!
Identifiers for every operation. Documents that are well formed and whose operations have names are
always processed: each merged operation is found among the separated documents, keeps its name when type
names are added, is signed, and gets one identifier, in merged order.
-/

namespace PersistedOps

/-- A well-formed document with a name for every operation. It lists its definitions, of which there may
be none: merging goes through the list. -/
inductive NamedDocument : Tree → Prop
  | document {definitions : List Tree} (items : ∀ d ∈ definitions, Grammatical .definition d)
      (named : ∀ d ∈ definitions, Merged.isAnonymous d = false) :
      NamedDocument (.document definitions)

theorem NamedDocument.wellFormed {t : Tree} (h : NamedDocument t) : WellFormed t := by
  obtain @⟨definitions, items, -⟩ := h
  have hitems : ∀ d ∈ (some definitions).getD [], Grammatical .definition d := items
  exact .document hitems

namespace Merged

variable {documents : List Tree} {m : Merged} {t : Tree}

/-! ### Merging -/

theorem exists_mergeable_document (h : NamedDocument t) :
    ∃ definitions, Mergeable [t] definitions ∧ definitions.find? isAnonymous = none := by
  obtain @⟨definitions, items, named⟩ := h
  refine ⟨definitions, ⟨?_, fun d hd hk => ?_, fun d hd _ => ?_⟩, ?_⟩
  · have hlists : [Tree.document definitions].mapM Tree.definitions = .ok [definitions] := rfl
    rw [allDefinitions, hlists]
    exact congrArg Except.ok (List.append_nil _)
  · obtain ⟨k, n, hdefinition⟩ := exists_definition (items d hd)
    cases hdefinition with
    | operation => cases hk
    | @fragment _ n _ _ _ _ described name declared conditioned directed filled selected =>
        have hname := (SignableDefinition.fragment described name declared conditioned directed filled
          selected).nameOf_eq
        exact ⟨.text n, hname, rfl⟩
  · obtain ⟨k, n, hdefinition⟩ := exists_definition (items d hd)
    cases n with
    | none => exact .inl hdefinition.get?_name
    | some n => exact .inr ⟨.text n, hdefinition.nameOf_eq, rfl⟩
  · exact List.find?_eq_none.mpr fun d hd => by simp [named d hd]

/-- Named documents can be merged. -/
theorem exists_mergeable (h : ∀ t ∈ documents, NamedDocument t) :
    ∃ definitions, Mergeable documents definitions ∧ definitions.find? isAnonymous = none := by
  induction documents with
  | nil => exact ⟨[], ⟨rfl, by simp, by simp⟩, rfl⟩
  | cons t documents ih =>
      obtain ⟨ht, hrest⟩ := List.forall_mem_cons.mp h
      obtain ⟨own, hown, hnone⟩ := exists_mergeable_document ht
      obtain ⟨others, hothers, hnone'⟩ := ih hrest
      refine ⟨own ++ others, hown.append hothers, ?_⟩
      rw [List.find?_append, hnone, hnone']
      rfl

theorem exists_regular (h : ∀ t ∈ documents, NamedDocument t) :
    ∃ m, ofDocuments documents = .ok m ∧ m.Regular := by
  obtain ⟨definitions, hmergeable, hnone⟩ := exists_mergeable h
  obtain ⟨m, hm, -⟩ := hmergeable.ofDocuments.2 hnone
  exact ⟨m, hm, regular_of_ofDocuments (fun t ht => (h t ht).wellFormed) hm⟩

/-! ### Type names -/

/-- A definition has got its type names, and is the same kind of definition under the same name. -/
structure Retyped (d d' : Tree) : Prop where
  added : Typename.add d = .ok d'
  kind_eq : d'.kind? = d.kind?
  nameOf_eq : d'.nameOf = d.nameOf

/-- Adding type names to a document adds them to each definition. -/
theorem Regular.exists_retyped (h : m.Regular) : ∃ definitions,
    Typename.add m.toDocument = .ok (.document definitions) ∧
      List.Forall₂ Retyped m.definitions definitions := by
  obtain ⟨hadd, -⟩ := h.addTypename_eq
  rw [toDocument_eq, toDocument_eq, definitions_map] at hadd
  refine ⟨_, hadd, ?_⟩
  rw [List.forall₂_map_right_iff, List.forall₂_same]
  intro d hd
  obtain ⟨k, n, hdefinition⟩ := h.named d hd
  obtain ⟨d', hadded, hdefinition'⟩ := Typename.added_definition hdefinition
  have hd' := Typename.add_eq_ok_iff.mpr hadded
  rw [changed_eq hd']
  exact ⟨hd', hdefinition'.kind_eq.trans hdefinition.kind_eq.symm,
    hdefinition'.nameOf_eq.trans hdefinition.nameOf_eq.symm⟩

end Merged

/-! ### Operations -/

namespace SignedOperation

/-- A merged operation has been signed under its name. Its name is answered among the separated documents
with the fragments that belong to it and the operation itself, which all keep kind and name when type
names are added; the signer has a signature for what is shown of them. -/
structure Covers (options : Options) (separated : Entries Tree) (e : Scalar × Tree)
    (o : SignedOperation) : Prop where
  name : e.1 = .text o.name
  closed : ∃ fragments definitions,
    separated.get? e.1 = some (.document (fragments ++ [e.2])) ∧
    Typename.add (.document (fragments ++ [e.2])) = .ok (.document definitions) ∧
    List.Forall₂ Merged.Retyped (fragments ++ [e.2]) definitions ∧
    o.document = .document (if options.addTypename then definitions else fragments ++ [e.2])
  signed : Signer.registry o.document o.name options.preserveLiterals = .ok o.signature

variable {options : Options} {m : Merged} {e : Scalar × Tree} {o : SignedOperation}
  {separated : Entries Tree}

theorem covers_of_ofClosed (h : m.Regular) (he : e ∈ m.operations)
    (hseparated : Separate.ofDocument m.toDocument = .ok separated)
    (ho : ofClosed options .registry e.1 (m.closureOf e).toDocument = .ok o) :
    Covers options separated e o := by
  obtain ⟨hname, hshown, hsigned⟩ := ofClosed_eq_ok ho
  obtain ⟨definitions, hadd, hretyped⟩ := (h.closureOf he).exists_retyped
  rw [h.closable.ofDocument_eq] at hseparated
  cases hseparated
  let fragments : List Tree := (m.closureOf e).fragments.map (·.2)
  refine ⟨hname, ⟨fragments, definitions, h.closable.get?_closed he, hadd, hretyped, ?_⟩, hsigned⟩
  rw [shown] at hshown
  split at hshown
  · rename_i htypename
    rw [hadd] at hshown
    rw [if_pos htypename]
    exact (Except.ok.inj hshown).symm
  · rename_i htypename
    rw [if_neg htypename]
    exact (Except.ok.inj hshown).symm

end SignedOperation

namespace Processed

open SignedOperation (query fragment plainSpread grammatical_query grammatical_fragment
  grammatical_spread)

/-- A unit is processed once its dependencies are resolved, if all its documents are well formed and name
their operations. Every merged operation is covered by a signed one, in merged order; so the identifiers
are listed under the merged names in merged order, one for each name, and appended in that order. -/
theorem identifies_every (options : Options) (path : Option String) (source : String) {own : Tree}
    {resolved : List (List Tree)} (h : ∀ t ∈ Merged.aggregate own resolved, NamedDocument t) :
    ∃ m separated p, Merged.ofDocuments (Merged.aggregate own resolved) = .ok m ∧
      Separate.ofDocument m.toDocument = .ok separated ∧
      ofDocuments options .registry path source own resolved = .ok p ∧
      List.Forall₂ (SignedOperation.Covers options separated) m.operations p.operations ∧
      p.identifiers.map (fun i => Scalar.text i.1) = m.operations.map (·.1) ∧
      (p.identifiers.map (·.1)).Nodup ∧
      (∀ n, .text n ∈ m.operations.map (·.1) → ∃! i, (n, i) ∈ p.identifiers) ∧
      p.source = source ++
        String.join (p.identifiers.map fun i => "\n" ++ Script.documentIdStatement i.1 i.2) := by
  obtain ⟨m, hm, hregular⟩ := Merged.exists_regular h
  obtain ⟨signed, hsigned, heach⟩ := SignedOperation.exists_signed hregular hm options
  have hseparated := hregular.closable.ofDocument_eq
  have hcovers := ((List.forall₂_and_left _ _).mpr ⟨fun e he => he, heach⟩).imp fun _ _ he =>
    SignedOperation.covers_of_ofClosed hregular he.1 hseparated he.2.2
  let p : Processed := ⟨path, Script.appendIdentifiers source (signed.map fun o =>
    (o.name, o.identifier)), Merged.aggregate own resolved, signed⟩
  have hp : ofDocuments options .registry path source own resolved = .ok p := by
    rw [ofDocuments, hsigned]
    rfl
  have hnames : p.identifiers.map (fun i => Scalar.text i.1) = m.operations.map (·.1) := by
    rw [identifiers, List.map_map]
    exact map_eq_of_forall₂ (hcovers.imp fun _ _ ho => ho.name.symm)
  have hnodup : (p.identifiers.map (·.1)).Nodup := by
    refine .of_map Scalar.text ?_
    rw [List.map_map]
    exact hnames ▸ hregular.operations.nodup
  refine ⟨m, _, p, hm, hseparated, hp, hcovers, hnames, hnodup, fun n hn => ?_, rfl⟩
  rw [← hnames] at hn
  obtain ⟨⟨name, i⟩, hi, hname⟩ := List.mem_map.mp hn
  cases hname
  refine ⟨i, hi, fun j hj => ?_⟩
  exact congrArg Prod.snd (List.inj_on_of_nodup_map hnodup hj hi rfl)

/-- A query of two fragments, one of which spreads a third that is not there. -/
def lackingDocument : Tree := .document [query "Q" (plainSpread "A"), fragment "A" (plainSpread "M"),
  fragment "B" (plainSpread "A")]

/-- One of these fragments given anew, so that the two spread each other, with a query of them; and the
first query given anew, of the fragment that is not there. -/
def shadowingDocument : Tree := .document [fragment "A" (plainSpread "B"), query "P" (plainSpread "B"),
  query "Q" (plainSpread "M")]

theorem identifies_every_shadowed :
    (∀ t ∈ Merged.aggregate lackingDocument [[shadowingDocument]], NamedDocument t) ∧
      ∃ p i j, ofDocuments ⟨true, false⟩ .registry none "" lackingDocument [[shadowingDocument]] = .ok p ∧
        p.identifiers = [("Q", i), ("P", j)] := by
  have hA := grammatical_spread (n := "A") (.of_toList rfl rfl rfl) (by decide)
  have hB := grammatical_spread (n := "B") (.of_toList rfl rfl rfl) (by decide)
  have hM := grammatical_spread (n := "M") (.of_toList rfl rfl rfl) (by decide)
  have hlacking : NamedDocument lackingDocument := by
    refine .document ?_ (by decide)
    exact List.forall_mem_cons.mpr ⟨grammatical_query (.of_toList rfl rfl rfl) hA,
      List.forall_mem_cons.mpr ⟨grammatical_fragment (.of_toList rfl rfl rfl) (by decide) hM,
        List.forall_mem_singleton.mpr (grammatical_fragment (.of_toList rfl rfl rfl) (by decide) hA)⟩⟩
  have hshadowing : NamedDocument shadowingDocument := by
    refine .document ?_ (by decide)
    exact List.forall_mem_cons.mpr ⟨grammatical_fragment (.of_toList rfl rfl rfl) (by decide) hB,
      List.forall_mem_cons.mpr ⟨grammatical_query (.of_toList rfl rfl rfl) hB,
        List.forall_mem_singleton.mpr (grammatical_query (.of_toList rfl rfl rfl) hM)⟩⟩
  have h : ∀ t ∈ Merged.aggregate lackingDocument [[shadowingDocument]], NamedDocument t :=
    List.forall_mem_cons.mpr ⟨hlacking, List.forall_mem_singleton.mpr hshadowing⟩
  obtain ⟨m, -, p, hm, -, hp, -, hnames, -⟩ := identifies_every ⟨true, false⟩ none "" h
  have hoperations : m.operations.map (·.1) = [.text "Q", .text "P"] := by
    cases hm
    rfl
  rw [hoperations] at hnames
  obtain ⟨⟨q, i⟩, rest, hidentifiers, hq, hrest⟩ := List.map_eq_cons_iff.mp hnames
  obtain ⟨⟨p', j⟩, hlast, hp'⟩ := List.map_eq_singleton_iff.mp hrest
  cases hq
  cases hp'
  exact ⟨h, p, i, j, hp, hidentifiers.trans (congrArg _ hlast)⟩

end Processed

end PersistedOps

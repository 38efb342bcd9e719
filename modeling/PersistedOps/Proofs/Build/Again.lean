import PersistedOps.Proofs.Build.Attached
import PersistedOps.Proofs.Document.Restore

/-!
Processed units as units. A source with its identifiers attached is processed again, and gives the same
documents and identifiers, where all operations that have identifiers are exported as nodes. A unit exports
its own ones so. The placeholder of a dependency has no operations that could be exported, so with the
identifier of one that only a dependency brings the source cannot even be extracted.
-/

namespace PersistedOps

variable {options : Options} {signer : Signer} {loader : String → Option String → Answer}
  {path : Option String} {source : String} {unit : Script.Extracted} {p : Processed} {n : String}

theorem Signature.toNat_lt_of_mem_identifier {signature : String} {c : Char}
    (h : c ∈ (identifier signature).toList) : c.toNat < 0x10000 := by
  rw [identifier, Sha256.hexDigest, String.toList_ofList] at h
  obtain ⟨hdigit, -⟩ := Lexeme.mem_encode h
  simp only [isLowerHex, Bool.or_eq_true, Bool.and_eq_true, decide_eq_true_eq] at hdigit
  have hle : c ≤ 'f' := hdigit.elim (fun h => by
    simp only [Char.isDigit, Bool.and_eq_true, decide_eq_true_eq] at h
    exact le_trans h.2 (by decide)) And.right
  exact lt_of_le_of_lt (show c.toNat ≤ 'f'.toNat from hle) (by decide)

namespace Processed

/-- A dependency of the unit brings an operation of the name. -/
def Brings (loader : String → Option String → Answer) (path : Option String) (unit : Script.Extracted)
    (n : String) : Prop :=
  ∃ reference ∈ unit.dependencies, ∃ documents, loader reference path = .ok documents ∧
    ∃ document ∈ documents, ∃ others, document.definitions = .ok others ∧ operationsNamed n others ≠ []

/-- What is processed does not hang on the source: this is kept, and the identifiers stand behind it. -/
theorem ofAnswers_source {answers : List Answer}
    (h : ofAnswers options signer path source unit answers = .ok p) (other : String) :
    p.source = Script.appendIdentifiers source p.identifiers ∧
      ofAnswers options signer path other unit answers
        = .ok { p with source := Script.appendIdentifiers other p.identifiers } := by
  obtain ⟨resolved, hresolved, h⟩ := bind_eq_ok_iff.mp h
  obtain ⟨operations, hoperations, heq⟩ := bind_eq_ok_iff.mp h
  cases heq
  refine ⟨rfl, bind_eq_ok_iff.mpr ⟨resolved, hresolved, ?_⟩⟩
  exact bind_eq_ok_iff.mpr ⟨operations, hoperations, rfl⟩

/-- The operations that have identifiers are the unit's own and those that its dependencies bring. -/
theorem identified_iff {own : List Tree} (h : Processes options .registry loader path source unit p)
    (hown : unit.document.definitions = .ok own) :
    (∃ i, (n, i) ∈ p.identifiers) ↔ operationsNamed n own ≠ [] ∨ Brings loader path unit n := by
  obtain ⟨resolved, hresolved, hfinished⟩ := bind_eq_ok_iff.mp h.finished
  obtain ⟨operations, hoperations, heq⟩ := bind_eq_ok_iff.mp hfinished
  cases heq
  obtain ⟨m, separated, hm, hnamed, hseparated, hsigned⟩ := SignedOperation.exists_merged hoperations
  obtain ⟨definitions, -, hdefinitions, -⟩ := Merged.exists_filed hm
  obtain ⟨others, hothers, rfl⟩ := Merged.allDefinitions_cons hown hdefinitions
  have hget := Merged.get?_operations (n := n) hm hdefinitions
  have hbrings : operationsNamed n others ≠ [] ↔ Brings loader path unit n := by
    rw [Merged.operationsNamed_ne_nil_iff hothers]
    simp only [List.mem_flatten, mem_resolved_iff hresolved, Brings]
    constructor
    · rintro ⟨document, ⟨documents, ⟨reference, hreference, hanswer⟩, hdocument⟩, hsome⟩
      exact ⟨reference, hreference, documents, hanswer, document, hdocument, hsome⟩
    · rintro ⟨reference, hreference, documents, hanswer, document, hdocument, hsome⟩
      exact ⟨document, ⟨documents, ⟨reference, hreference, hanswer⟩, hdocument⟩, hsome⟩
  have hall : (m.operations.get? (.text n)).isSome ↔
      operationsNamed n own ≠ [] ∨ operationsNamed n others ≠ [] := by
    rw [hget, List.getLast?_isSome, operationsNamed_append, ne_eq, List.append_eq_nil_iff, not_and_or]
  rw [← hbrings]
  constructor
  · rintro ⟨i, hi⟩
    obtain ⟨o, ho, heq⟩ := List.mem_map.mp hi
    obtain ⟨rfl, -⟩ := Prod.mk.inj heq
    obtain ⟨⟨_, d⟩, he, rfl, -⟩ := exists_of_mem_left hsigned.flip ho
    exact hall.mp (Option.isSome_of_eq_some ((Entries.get?_text_iff hnamed.nodup).mpr he))
  · intro hsome
    obtain ⟨d, hd⟩ := Option.isSome_iff_exists.mp (hall.mpr hsome)
    obtain ⟨o, ho, hkey, -⟩ := exists_of_mem_left hsigned (Entries.mem_of_get?_text hd)
    cases hkey
    exact ⟨o.identifier, List.mem_map.mpr ⟨o, ho, rfl⟩⟩

/-- Let a unit export each operation of its own as a node. If under the name of every operation that its
dependencies bring a node is exported as well, then the source with the identifiers says the same, and
processing it gives the same documents and operations. If under one of these names no dictionary is
exported, then the source with the identifiers is refused. -/
theorem processes_again {own : List Tree} {statements : List Script.Statement} {s : Script.Sandbox}
    (h : Processes options .registry loader path source unit p)
    (hown : unit.document.definitions = .ok own) (hparse : Script.parse source = .ok statements)
    (hs : Script.Evaluation.run statements = .ok s)
    (hexports : ∀ n, operationsNamed n own ≠ [] → s.ExportsNode n)
    (hplain : ∀ i ∈ p.identifiers, ∀ c ∈ i.1.toList, c.toNat < 0x10000) :
    ((∀ n, Brings loader path unit n → s.ExportsNode n) →
      ∃ p', Processes options .registry loader path p.source unit p' ∧
        p'.documents = p.documents ∧ p'.operations = p.operations) ∧
    ((∃ n, Brings loader path unit n ∧ ¬s.ExportsDict n) →
      ∃ fault line, Script.extract (fileName path) p.source
        = .error (.extraction fault (fileName path) (some line))) := by
  obtain ⟨hsource, hagain⟩ := ofAnswers_source h.finished p.source
  have hchars : ∀ e ∈ p.identifiers, ∀ c ∈ e.1.toList ++ e.2.toList, c.toNat < 0x10000 := by
    intro e he
    obtain ⟨o, -, rfl⟩ := List.mem_map.mp he
    exact List.forall_mem_append.mpr ⟨hplain _ he, fun c => Signature.toNat_lt_of_mem_identifier⟩
  constructor
  · -- Each line stores its identifier in a node, where no reader looks for it.
    intro hbrought
    have hnodes : ∀ e ∈ p.identifiers, s.ExportsNode e.1 := fun e he =>
      ((identified_iff h hown).mp ⟨e.2, he⟩).elim (hexports e.1) (hbrought e.1)
    have hextract : Script.extract (fileName path) p.source = .ok unit := by
      rw [hsource]
      refine Script.extract_appendIdentifiers_of_ends h.extracted hparse hs hchars
        fun added document hattaching => ?_
      exact Script.Evaluation.run_attaching hattaching hnodes
    exact ⟨_, ⟨hextract, hagain⟩, rfl, rfl⟩
  · -- The operation has an identifier, whose line finds nothing to store it in.
    rintro ⟨n, hbrought, hnone⟩
    obtain ⟨i, hi⟩ := (identified_iff h hown).mpr (.inr hbrought)
    rw [hsource]
    exact Script.extract_appendIdentifiers_halts h.extracted hparse hs hchars ⟨(n, i), hi, hnone⟩

theorem operationsNamed_query {name : String} (selection : Tree) :
    operationsNamed n [SignedOperation.query name selection] ≠ [] ↔ n = name := by
  have hkind : (SignedOperation.query name selection).kind? = some .operationDefinition := rfl
  have hname : (SignedOperation.query name selection).nameOf = .ok (.text name) := rfl
  simp [operationsNamed, List.filter_cons, hkind, hname, Except.toOption, eq_comm]

/-- The loader brings the operation that it knows, and no other. -/
theorem brings_oneQuery_iff {name : String} (hdependencies : unit.dependencies = ["b"]) :
    Brings (oneQuery name) none unit n ↔ n = name := by
  rw [← operationsNamed_query (SignedOperation.plainField "b")]
  constructor
  · rintro ⟨reference, -, documents, hanswer, document, hdocument, others, hothers, hsome⟩
    cases hanswer
    cases List.mem_singleton.mp hdocument
    cases hothers
    exact hsome
  · intro hsome
    exact ⟨"b", hdependencies ▸ List.mem_singleton_self _, _, rfl, _, List.mem_singleton_self _, _, rfl,
      hsome⟩

/-- The unit exports a query, and a unit that it requires has one of the same name. -/
theorem processes_again_exporting : ∃ unit p p',
    Processes {} .registry (oneQuery "Q") none exportingSource unit p ∧
      Brings (oneQuery "Q") none unit "Q" ∧
      Processes {} .registry (oneQuery "Q") none p.source unit p' ∧
      p'.documents = p.documents ∧ p'.operations = p.operations := by
  obtain ⟨unit, own, -, statements, s, hextract, hown, hparse, hs, ⟨-, hnames⟩, hdependencies, hnode, -, -,
    p, hp, -, hidentifiers⟩ := exists_exporting
  have hprocesses : Processes {} .registry (oneQuery "Q") none exportingSource unit p := ⟨hextract, hp⟩
  have hbrings (n : String) := @brings_oneQuery_iff unit n "Q" hdependencies
  have hplain : ∀ i ∈ p.identifiers, ∀ c ∈ i.1.toList, c.toNat < 0x10000 := by
    rw [hidentifiers, List.forall_mem_singleton]
    simp
  obtain ⟨hagain, -⟩ := processes_again hprocesses hown hparse hs (fun n hn => hnames n hn ▸ hnode) hplain
  obtain ⟨p', hp', hdocuments, hoperations⟩ := hagain fun n hn => (hbrings n).mp hn ▸ hnode
  exact ⟨unit, p, p', hprocesses, (hbrings _).mpr rfl, hp', hdocuments, hoperations⟩

/-- The unit requires another operation, which it does not export: with its identifiers it is refused. -/
theorem processes_once : ∃ unit own statements s p,
    Processes {} .registry (oneQuery "P") none exportingSource unit p ∧
      unit.document.definitions = .ok own ∧ Script.parse exportingSource = .ok statements ∧
      Script.Evaluation.run statements = .ok s ∧ (∀ n, operationsNamed n own ≠ [] → s.ExportsNode n) ∧
      ∃ fault line, Script.extract "<unit>" p.source = .error (.extraction fault "<unit>" (some line)) := by
  obtain ⟨unit, own, -, statements, s, hextract, hown, hparse, hs, ⟨-, hnames⟩, hdependencies, hnode, hnone,
    ⟨p, hp⟩, -⟩ := exists_exporting
  have hprocesses : Processes {} .registry (oneQuery "P") none exportingSource unit p := ⟨hextract, hp⟩
  have hidentified (n : String) := @identified_iff _ _ _ _ _ _ n _ hprocesses hown
  have hbrings (n : String) := @brings_oneQuery_iff unit n "P" hdependencies
  have hchars : ∀ e ∈ p.identifiers, ∀ c ∈ e.1.toList ++ e.2.toList, c.toNat < 0x10000 := by
    intro e he
    have hname : e.1 = "Q" ∨ e.1 = "P" := ((hidentified _).mp ⟨e.2, he⟩).imp (hnames _) (hbrings _).mp
    obtain ⟨o, -, rfl⟩ := List.mem_map.mp he
    refine List.forall_mem_append.mpr ⟨?_, fun c => Signature.toNat_lt_of_mem_identifier⟩
    obtain hname | hname := hname <;> rw [hname] <;> simp
  obtain ⟨i, hi⟩ := (hidentified _).mpr (.inr ((hbrings _).mpr rfl))
  refine ⟨unit, own, statements, s, p, hprocesses, hown, hparse, hs, fun n hn => hnames n hn ▸ hnode, ?_⟩
  rw [(ofAnswers_source hp p.source).1]
  exact Script.extract_appendIdentifiers_halts hextract hparse hs hchars ⟨_, hi, hnone⟩

end Processed

end PersistedOps

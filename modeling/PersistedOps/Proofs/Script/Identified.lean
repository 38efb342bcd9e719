import PersistedOps.Proofs.Document.Foreign
import PersistedOps.Proofs.Script.Agreement
import PersistedOps.Proofs.Script.Characters
import PersistedOps.Proofs.Script.Lines
import PersistedOps.Proofs.Script.Runs

/-!
A unit with identifiers attached to what it exports. The lines behind it store the identifiers in the
dictionaries of nodes, which may stand in the document or be held in several places. No node has an
attribute of the key's name, so the unit still says the same.
-/

namespace PersistedOps.Script

/-- No node reads what is stored under an identifier's key. -/
theorem isForeign_documentIdKey (kind : Kind) :
    Decode.isForeign kind (.text documentIdKey) = true := by
  have hattribute : Decode.attributeOf? kind documentIdKey = none := by
    have hnone : Attribute.ofSnake? (Camel.toSnake documentIdKey) = none := by decide +kernel
    rw [Decode.attributeOf?, hnone]
    rfl
  have hlocation : Decode.isLocation documentIdKey = false := by decide +kernel
  simp [Decode.isForeign, hattribute, hlocation]

namespace Sandbox

/-- Under the name a dictionary is exported that has a kind and is not the dictionary of exports. -/
def ExportsNode (s : Sandbox) (name : String) : Prop :=
  ∃ v entries w inner, s.lookup? exportsName = some v ∧ s.heap.layer v = .dict entries ∧
    entries.getText? name = some w ∧ w ≠ v ∧ s.heap.layer w = .dict inner ∧
    inner.contains (.text "kind") = true

/-- Checks that a dictionary with a kind is exported under the name. -/
def exportsNode (s : Sandbox) (name : String) : Bool :=
  match s.lookup? exportsName with
  | none => false
  | some v => match s.heap.layer v with
    | .dict entries => match entries.getText? name with
      | none => false
      | some w => match s.heap.layer w with
        | .dict inner => w ≠ v && inner.contains (.text "kind")
        | _ => false
    | _ => false

theorem exportsNode_iff {s : Sandbox} {name : String} : s.exportsNode name = true ↔ s.ExportsNode name := by
  rw [exportsNode]
  constructor
  · intro h
    split at h
    · cases h
    · next v hv =>
      split at h
      · next entries hentries =>
        split at h
        · cases h
        · next w hw =>
          split at h
          · next inner hinner =>
            obtain ⟨hne, hkind⟩ := Bool.and_eq_true_iff.mp h
            exact ⟨v, entries, w, inner, hv, hentries, hw, of_decide_eq_true hne, hinner, hkind⟩
          · cases h
      · cases h
  · rintro ⟨v, entries, w, inner, hv, hentries, hw, hne, hinner, hkind⟩
    simp [hv, hentries, hw, hinner, hne, hkind]

instance (s : Sandbox) (name : String) : Decidable (s.ExportsNode name) :=
  decidable_of_iff _ exportsNode_iff

variable {s : Sandbox} {name : String} {b : Nat} {inner : Entries Value} {k : Scalar} {v : Value}

/-- The sandbox with a value stored in a dictionary. -/
def putInto (s : Sandbox) (b : Nat) (inner : Entries Value) (k : Scalar) (v : Value) : Sandbox :=
  { s with heap := s.heap.set b (.dict (inner.put k v)) }

theorem layer_putInto (hb : s.heap.get? b = some (.dict inner)) (w : Value) :
    (s.putInto b inner k v).heap.layer w = if w = .cell b then .dict (inner.put k v) else s.heap.layer w := by
  cases w with
  | scalar x => rfl
  | cell c =>
      rw [Heap.layer, putInto, Heap.get?_set hb]
      by_cases hc : c = b
      · rw [if_pos hc, if_pos (congrArg Value.cell hc)]
      · rw [if_neg hc, if_neg (mt Value.cell.inj hc)]
        rfl

theorem depth_putInto : (s.putInto b inner k v).heap.depth = s.heap.depth := by
  simp [putInto, Heap.depth, Heap.set]

/-- What is stored under an identifier's key is not read, wherever the node is held. -/
theorem overlays_putInto (hb : s.heap.get? b = some (.dict inner))
    (hkind : inner.contains (.text "kind") = true) (v : Value) :
    Decode.Overlays s.heap.view (s.putInto b inner (.text documentIdKey) v).heap.view := by
  intro w
  by_cases hw : w = .cell b
  · refine .inr ⟨inner, _, ?_, (layer_putInto hb w).trans (if_pos hw), ?_⟩
    · rw [hw]
      exact Heap.layer_cell hb
    · exact Decode.sameNode_put hkind isForeign_documentIdKey (by decide) v
  · exact .inl ((layer_putInto hb w).trans (if_neg hw))

theorem exported_putInto {file : String} {a : Nat} {document : Tree} (hb : s.heap.get? b = some (.dict inner))
    (hkind : inner.contains (.text "kind") = true) (ha : s.lookup? exportsName = some (.cell a))
    (hab : a ≠ b) (h : s.exported file = .ok document) :
    (s.putInto b inner (.text documentIdKey) v).exported file = .ok document := by
  obtain ⟨w, hw, hdocument⟩ := exists_of_exported h
  obtain rfl : Value.cell a = w := Option.some.inj (ha.symm.trans hw)
  have hroot : (s.putInto b inner (.text documentIdKey) v).heap.layer (.cell a) = s.heap.layer (.cell a) :=
    (layer_putInto hb _).trans (if_neg (mt Value.cell.inj hab))
  have hread := (overlays_putInto hb hkind v).document (a := .cell a) hroot hdocument
  have hw' : (s.putInto b inner (.text documentIdKey) v).lookup? exportsName = some (.cell a) := hw
  rw [exported, hw']
  simp only [depth_putInto, hread]

theorem ExportsNode.putInto (h : s.ExportsNode name) (hb : s.heap.get? b = some (.dict inner))
    (ha : s.lookup? exportsName ≠ some (.cell b)) :
    (s.putInto b inner (.text documentIdKey) v).ExportsNode name := by
  obtain ⟨r, entries, w, fields, hr, hentries, hw, hne, hfields, hkind⟩ := h
  have hrb : r ≠ .cell b := by
    rintro rfl
    exact ha hr
  refine ⟨r, entries, w, if w = .cell b then inner.put (.text documentIdKey) v else fields,
    hr, ?_, hw, hne, ?_, ?_⟩
  · rw [layer_putInto hb, if_neg hrb, hentries]
  · rw [layer_putInto hb, hfields]
    split <;> rfl
  · split
    · next hwb =>
      subst hwb
      cases (Heap.layer_cell hb).symm.trans hfields
      rw [Entries.contains, Entries.get?_put rfl, if_neg (by decide)]
      exact hkind
    · exact hkind

end Sandbox

namespace Evaluation

variable {s s' : Sandbox} {statements : List Statement}

/-- A unit that can be evaluated has only statements that units may use. -/
theorem ne_other_of_run (h : run statements = .ok s) {st : Statement} (hst : st ∈ statements) (l : Nat)
    (k : StatementKind) : st ≠ .other l k := by
  rintro rfl
  obtain ⟨s₁, s₂, hrun⟩ := exists_run_of_mem hst (run_eq_ok_iff.mp h)
  cases hrun

/-- Statements behind others go on where these end. -/
theorem run_append (h : run statements = .ok s) (added : List Statement) :
    run (statements ++ added) = (StateT.run (added.forM statement) s).map (·.2) := by
  have hforM : (statements ++ added).forM statement
      = statements.forM statement >>= fun _ => added.forM statement := List.forM_append
  rw [run, hforM, StateT.run_bind, run_eq_ok_iff.mp h]
  rfl

/-- One line for a node that is exported: the document stays, and all nodes that are exported. -/
theorem run_attachment_node {l : Nat} {operation identifier file : String} {document : Tree}
    (hnode : s.ExportsNode operation) (hexported : s.exported file = .ok document) :
    ∃ s', StateT.run (statement (attachment l (.text operation) (.text documentIdKey)
        (.text identifier))) s = .ok ((), s') ∧ s'.exported file = .ok document ∧
      s'.references = s.references ∧ ∀ name, s.ExportsNode name → s'.ExportsNode name := by
  obtain ⟨v, entries, w, inner, hv, hentries, hw, hne, hinner, hkind⟩ := hnode
  obtain ⟨a, rfl, ha⟩ := Heap.exists_cell_of_layer_dict hentries
  obtain ⟨b, rfl, hb⟩ := Heap.exists_cell_of_layer_dict hinner
  have hab : a ≠ b := fun hab => hne (congrArg Value.cell hab.symm)
  refine ⟨_, run_attachment hv ha hw hb, Sandbox.exported_putInto hb hkind hv hab hexported, rfl, ?_⟩
  exact fun name hname => hname.putInto hb fun hvb =>
    hab (Value.cell.inj (Option.some.inj (hv.symm.trans hvb)))

/-- The statements of the lines that attach identifiers. -/
def Attaching (identifiers : List (String × String)) (statements : List Statement) : Prop :=
  List.Forall₂ (fun e st => ∃ l, st = attachment l (.text e.1) (.text documentIdKey) (.text e.2))
    identifiers statements

/-- Lines for nodes that are exported come to their end, and the document is what it was. -/
theorem run_attaching {identifiers : List (String × String)} {file : String} {document : Tree}
    (h : Attaching identifiers statements) (hnodes : ∀ e ∈ identifiers, s.ExportsNode e.1)
    (hexported : s.exported file = .ok document) :
    ∃ s', StateT.run (statements.forM statement) s = .ok ((), s') ∧
      s'.exported file = .ok document ∧ s'.references = s.references := by
  induction h generalizing s with
  | nil => exact ⟨s, rfl, hexported, rfl⟩
  | cons hst _ ih =>
      obtain ⟨l, rfl⟩ := hst
      obtain ⟨hnode, hnodes⟩ := List.forall_mem_cons.mp hnodes
      obtain ⟨s₁, hrun, hexported₁, hreferences, hkept⟩ := run_attachment_node hnode hexported
      obtain ⟨s', hrest, hexported', hreferences'⟩ :=
        ih (fun e he => hkept e.1 (hnodes e he)) hexported₁
      exact ⟨s', run_forM_cons_eq_ok_iff.mpr ⟨s₁, hrun, hrest⟩, hexported',
        hreferences'.trans hreferences⟩

end Evaluation

variable {file source : String} {unit : Extracted} {statements : List Statement} {s : Sandbox}
  {identifiers : List (String × String)}

theorem appendIdentifiers_cons (e : String × String) (rest : List (String × String)) :
    appendIdentifiers source (e :: rest)
      = appendIdentifiers (source ++ ("\n" ++ documentIdStatement e.1 e.2)) rest := by
  simp [appendIdentifiers, String.append_assoc]

theorem null_not_mem_appendIdentifiers (h : '\x00' ∉ source.toList) :
    '\x00' ∉ (appendIdentifiers source identifiers).toList := by
  induction identifiers generalizing source with
  | nil => simpa [appendIdentifiers] using h
  | cons e rest ih =>
      rw [appendIdentifiers_cons]
      have hprintable : '\x00' ∉ (documentIdStatement e.1 e.2).toList := fun hmem =>
        absurd (Lexer.isPrintableAscii_of_mem_documentIdStatement hmem) (by decide)
      exact ih (by simpa [h] using hprintable)

/-- A source with all its lines is its statements and one for each line. -/
theorem exists_parse_appendIdentifiers (h : parse source = .ok statements)
    (hunits : ∀ st ∈ statements, ∀ l k, st ≠ .other l k)
    (hplain : ∀ e ∈ identifiers, ∀ c ∈ e.1.toList ++ e.2.toList, c.toNat < 0x10000) :
    ∃ added, parse (appendIdentifiers source identifiers) = .ok (statements ++ added) ∧
      Evaluation.Attaching identifiers added := by
  induction identifiers generalizing source statements with
  | nil => exact ⟨[], by simpa [appendIdentifiers] using h, .nil⟩
  | cons e rest ih =>
      obtain ⟨hchars, hplain⟩ := List.forall_mem_cons.mp hplain
      obtain ⟨hoperation, hidentifier⟩ := List.forall_mem_append.mp hchars
      obtain ⟨l, hline⟩ := exists_parse_append h hunits e.1 e.2
      rw [spelled_eq_text_iff.mpr hoperation, spelled_eq_text_iff.mpr hidentifier] at hline
      have hunits' : ∀ st ∈ statements ++
          [attachment l (.text e.1) (.text documentIdKey) (.text e.2)], ∀ l k, st ≠ .other l k := by
        rw [List.forall_mem_append, List.forall_mem_singleton]
        exact ⟨hunits, nofun⟩
      obtain ⟨added, hadded, hattaching⟩ := ih hline hunits' hplain
      refine ⟨_ :: added, ?_, .cons ⟨l, rfl⟩ hattaching⟩
      rw [appendIdentifiers_cons, hadded, List.append_assoc, List.singleton_append]

/-- What a source with its lines says is what the statements of these come to where the source ends. -/
theorem exists_extract_appendIdentifiers_eq (hextract : extract file source = .ok unit)
    (hparse : parse source = .ok statements) (hs : Evaluation.run statements = .ok s)
    (hplain : ∀ e ∈ identifiers, ∀ c ∈ e.1.toList ++ e.2.toList, c.toNat < 0x10000) :
    ∃ added, Evaluation.Attaching identifiers added ∧
      extract file (appendIdentifiers source identifiers) =
        match StateT.run (added.forM Evaluation.statement) s with
        | .error h => .error (h.failure file)
        | .ok r => (r.2.exported file).map (⟨·, r.2.references⟩) := by
  obtain ⟨hnull, -⟩ := extract_eq_ok_iff.mp hextract
  obtain ⟨added, hadded, hattaching⟩ := exists_parse_appendIdentifiers hparse
    (fun st hst => Evaluation.ne_other_of_run hs hst) hplain
  refine ⟨added, hattaching, ?_⟩
  rw [extract, if_neg (null_not_mem_appendIdentifiers hnull), hadded]
  simp only [Evaluation.run_append hs]
  cases StateT.run (added.forM Evaluation.statement) s <;> rfl

/-- Lines that come to their end with the document and the references as they were change nothing in what
the unit says. -/
theorem extract_appendIdentifiers_of_ends (hextract : extract file source = .ok unit)
    (hparse : parse source = .ok statements) (hs : Evaluation.run statements = .ok s)
    (hplain : ∀ e ∈ identifiers, ∀ c ∈ e.1.toList ++ e.2.toList, c.toNat < 0x10000)
    (hends : ∀ added document, Evaluation.Attaching identifiers added → s.exported file = .ok document →
      ∃ s', StateT.run (added.forM Evaluation.statement) s = .ok ((), s') ∧
        s'.exported file = .ok document ∧ s'.references = s.references) :
    extract file (appendIdentifiers source identifiers) = .ok unit := by
  obtain ⟨-, _, _, hparse', hs', hexported, hreferences⟩ := extract_eq_ok_iff.mp hextract
  cases hparse.symm.trans hparse'
  cases hs.symm.trans hs'
  obtain ⟨added, hattaching, heq⟩ := exists_extract_appendIdentifiers_eq hextract hparse hs hplain
  obtain ⟨s', hrun, hexported', hreferences'⟩ := hends added _ hattaching hexported
  rw [heq, hrun]
  simp only [hexported', hreferences', hreferences]
  rfl

end PersistedOps.Script

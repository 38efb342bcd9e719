import PersistedOps.Proofs.Script.Identified

/-!
Identifiers that find no place. A line stores its identifier in the dictionary that is exported under the
operation's name. Where none is, the unit halts at that line, whatever the lines before it have stored.
-/

namespace PersistedOps.Script

variable {s s' : Sandbox} {name : String} {l b : Nat} {inner : Entries Value} {k i x : Scalar} {v : Value}

namespace Sandbox

/-- A dictionary is exported. -/
def ExportsEntries (s : Sandbox) (entries : Entries Value) : Prop :=
  ∃ a, s.lookup? exportsName = some (.cell a) ∧ s.heap.get? a = some (.dict entries)

/-- Under the name a dictionary is exported. -/
def ExportsDict (s : Sandbox) (name : String) : Prop :=
  ∃ entries b inner, s.ExportsEntries entries ∧ entries.getText? name = some (.cell b) ∧
    s.heap.get? b = some (.dict inner)

theorem ExportsEntries.unique {entries others : Entries Value} (h : s.ExportsEntries entries)
    (h' : s.ExportsEntries others) : entries = others := by
  obtain ⟨a, ha, hentries⟩ := h
  obtain ⟨a', ha', hothers⟩ := h'
  cases ha.symm.trans ha'
  cases hentries.symm.trans hothers
  rfl

/-- A document is read off a dictionary. -/
theorem exists_exportsEntries {file : String} {document : Tree} (h : s.exported file = .ok document) :
    ∃ entries, s.ExportsEntries entries := by
  obtain ⟨v, hv, hdocument⟩ := exists_of_exported h
  rw [Decode.document] at hdocument
  split at hdocument
  · next entries hentries =>
    obtain ⟨a, rfl, ha⟩ := Heap.exists_cell_of_layer_dict hentries
    exact ⟨entries, a, hv, ha⟩
  · cases hdocument

/-- Checks that nothing is exported under the name. -/
def exportsNothing (s : Sandbox) (name : String) : Bool :=
  (s.lookup? exportsName).all fun v => match s.heap.layer v with
    | .dict entries => (entries.getText? name).isNone
    | _ => true

theorem not_exportsDict (h : s.exportsNothing name = true) : ¬s.ExportsDict name := by
  rintro ⟨entries, b, inner, ⟨a, ha, hentries⟩, hb, -⟩
  rw [exportsNothing, ha] at h
  simp [Heap.layer, hentries, hb] at h

/-! ### A scalar stored in a dictionary -/

theorem exportsEntries_putInto {entries : Entries Value} (hb : s.heap.get? b = some (.dict inner))
    (h : s.ExportsEntries entries) : ∃ entries',
      (s.putInto b inner k v).ExportsEntries entries' ∧ (entries' = entries ∨ entries' = entries.put k v) := by
  obtain ⟨a, ha, hentries⟩ := h
  by_cases hab : a = b
  · subst hab
    cases hentries.symm.trans hb
    exact ⟨_, ⟨a, ha, (Heap.get?_set hb _ a).trans (if_pos rfl)⟩, .inr rfl⟩
  · exact ⟨_, ⟨a, ha, ((Heap.get?_set hb _ a).trans (if_neg hab)).trans hentries⟩, .inl rfl⟩

/-- No dictionary comes to be exported: the entry that is stored holds none. -/
theorem exportsDict_of_putInto (hb : s.heap.get? b = some (.dict inner)) {entries : Entries Value}
    (hexports : s.ExportsEntries entries)
    (h : (s.putInto b inner k (.scalar x)).ExportsDict name) : s.ExportsDict name := by
  obtain ⟨found, c, fields, hfound, hc, hfields⟩ := h
  obtain ⟨entries', hentries', heq⟩ := exportsEntries_putInto (k := k) (v := .scalar x) hb hexports
  cases hfound.unique hentries'
  have hold : entries.getText? name = some (.cell c) := by
    obtain rfl | rfl := heq
    · exact hc
    · rw [Entries.getText?, Entries.get?_put rfl] at hc
      split at hc
      · cases hc
      · exact hc
  -- The cell held a dictionary before: a store puts one where one was.
  have hdict : ∃ before, s.heap.get? c = some (.dict before) := by
    by_cases hcb : c = b
    · exact ⟨inner, hcb ▸ hb⟩
    · exact ⟨fields, ((Heap.get?_set hb _ c).trans (if_neg hcb)).symm.trans hfields⟩
  obtain ⟨before, hbefore⟩ := hdict
  exact ⟨entries, c, before, hexports, hold, hbefore⟩

end Sandbox

namespace Evaluation

/-- Only into a dictionary something is stored under a text. -/
theorem run_assignInto_text (hnone : ∀ b inner, v = .cell b → s.heap.get? b ≠ some (.dict inner))
    (key : String) (w : Value) :
    ∃ fault, StateT.run (assignInto l v (.scalar (.text key)) w) s = .error (.fault fault l) := by
  simp only [assignInto, StateT.run_bind, run_layerOf]
  cases v with
  | scalar x => exact ⟨_, rfl⟩
  | cell b =>
      cases hlayer : s.heap.layer (.cell b) with
      | scalar x => exact ⟨_, rfl⟩
      | list items => exact ⟨_, rfl⟩
      | dict entries => exact (hnone b entries rfl (Heap.get?_of_layer_dict hlayer)).elim

/-- Where no dictionary is exported under the name, the statement halts. -/
theorem run_attachment_halts {entries : Entries Value} (hexports : s.ExportsEntries entries)
    (hnone : ¬s.ExportsDict name) :
    ∃ fault, StateT.run (statement (attachment l (.text name) (.text documentIdKey) i)) s
      = .error (.fault fault l) := by
  obtain ⟨a, ha, hentries⟩ := hexports
  cases hentry : entries.get? (.text name) with
  | none => exact ⟨_, run_attachment_missing ha hentries hentry rfl⟩
  | some w =>
      have hplace : StateT.run (expression (.subscript l (.name l exportsName) (.text l (.text name)))) s
          = .ok (w, s) := by
        rw [run_place ha hentries, hentry, Option.elim_some]
      obtain ⟨fault, hfault⟩ := run_assignInto_text (l := l) (v := w) (s := s)
        (fun b inner hw hb => hnone ⟨entries, b, inner, ⟨a, ha, hentries⟩, hw ▸ hentry, hb⟩)
        documentIdKey (.scalar i)
      refine ⟨fault, ?_⟩
      rw [attachment, statement, StateT.run_bind, run_text]
      show StateT.run (assign (.scalar i) _ >>= fun _ => pure ()) s = _
      rw [StateT.run_bind, assign, run_parts hplace, hfault]
      rfl

/-- The lines before the first one that halts leave it to halt. -/
theorem run_attaching_halts {identifiers : List (String × String)} {statements : List Statement}
    {entries : Entries Value} (h : Attaching identifiers statements) (hexports : s.ExportsEntries entries)
    (hmissing : ∃ e ∈ identifiers, ¬s.ExportsDict e.1) :
    ∃ fault line, StateT.run (statements.forM statement) s = .error (.fault fault line) := by
  induction h generalizing s entries with
  | nil =>
      obtain ⟨e, he, -⟩ := hmissing
      cases he
  | @cons e st identifiers statements hst _ ih =>
      obtain ⟨l, rfl⟩ := hst
      have hrun : StateT.run ((attachment l (.text e.1) (.text documentIdKey) (.text e.2) ::
          statements).forM statement) s = StateT.run (statement (attachment l (.text e.1)
            (.text documentIdKey) (.text e.2)) >>= fun _ => statements.forM statement) s := rfl
      rw [hrun, StateT.run_bind]
      by_cases hname : s.ExportsDict e.1
      · obtain ⟨found, b, inner, hfound, hentry, hb⟩ := hname
        cases hfound.unique hexports
        obtain ⟨a, ha, hentries⟩ := id hexports
        rw [run_attachment ha hentries hentry hb]
        obtain ⟨entries', hentries', -⟩ := Sandbox.exportsEntries_putInto (k := .text documentIdKey)
          (v := .scalar (.text e.2)) hb hexports
        refine ih hentries' ?_
        obtain ⟨e', he', hnone⟩ := hmissing
        refine ⟨e', ?_, fun hdict => hnone (Sandbox.exportsDict_of_putInto hb hexports hdict)⟩
        exact (List.mem_cons.mp he').resolve_left fun heq =>
          hnone (heq ▸ ⟨_, b, inner, hexports, hentry, hb⟩)
      · obtain ⟨fault, hfault⟩ := run_attachment_halts (l := l) (i := .text e.2) hexports hname
        exact ⟨fault, l, by rw [hfault]; rfl⟩

end Evaluation

variable {file source : String} {unit : Extracted} {statements : List Statement}
  {identifiers : List (String × String)}

/-- A unit with an identifier for an operation under whose name it exports no dictionary cannot be
extracted. -/
theorem extract_appendIdentifiers_halts (hextract : extract file source = .ok unit)
    (hparse : parse source = .ok statements) (hs : Evaluation.run statements = .ok s)
    (hplain : ∀ e ∈ identifiers, ∀ c ∈ e.1.toList ++ e.2.toList, c.toNat < 0x10000)
    (hmissing : ∃ e ∈ identifiers, ¬s.ExportsDict e.1) :
    ∃ fault line, extract file (appendIdentifiers source identifiers)
      = .error (.extraction fault file (some line)) := by
  obtain ⟨-, _, _, hparse', hs', hexported, -⟩ := extract_eq_ok_iff.mp hextract
  cases hparse.symm.trans hparse'
  cases hs.symm.trans hs'
  obtain ⟨entries, hexports⟩ := Sandbox.exists_exportsEntries hexported
  obtain ⟨added, hattaching, heq⟩ := exists_extract_appendIdentifiers_eq hextract hparse hs hplain
  obtain ⟨fault, line, hhalts⟩ := Evaluation.run_attaching_halts hattaching hexports hmissing
  exact ⟨fault, line, by rw [heq, hhalts]; rfl⟩

end PersistedOps.Script

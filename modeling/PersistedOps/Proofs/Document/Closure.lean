import PersistedOps.Proofs.Document.Separation

/-!
Closed documents of merged definitions. Merging files every named definition of well-formed documents
once, and separating what is merged gives each operation its closure: the operation and the fragments
it reaches, which depends on nothing else that was merged.
-/

namespace PersistedOps

/-- The definition spreads the name. -/
def Spreads (definition : Tree) (n : String) : Prop :=
  ∃ names, Separate.spreadsOf definition = .ok names ∧ .text n ∈ names

namespace Merged

/-- An operation reaches the names it spreads and those that the fragments of names it reaches
spread. -/
inductive Reaches (m : Merged) (operation : Tree) : String → Prop
  | spread {n : String} (h : Spreads operation n) : Reaches m operation n
  | through {f n : String} {fragment : Tree} (h : Reaches m operation f)
      (found : m.fragments.get? (.text f) = some fragment) (spreads : Spreads fragment n) :
      Reaches m operation n

/-- Merged definitions of a kind: each is filed under the text of its name, and no name twice. -/
structure Files (k : Kind) (entries : Entries Tree) : Prop where
  each : ∀ e ∈ entries, ∃ n, e.1 = .text n ∧ SignableDefinition k (some n) e.2
  nodup : (entries.map (·.1)).Nodup

/-- Merged definitions as well-formed documents give them. -/
structure Regular (m : Merged) : Prop where
  fragments : Files .fragmentDefinition m.fragments
  operations : Files .operationDefinition m.operations

section

variable {k : Kind} {entries : Entries Tree} {n : String} {d : Tree} {ds : List Tree}

theorem files_nil (k : Kind) : Files k [] := ⟨by simp, List.nodup_nil⟩

theorem Files.put (h : Files k entries) (hd : SignableDefinition k (some n) d) :
    Files k (entries.put (.text n) d) := by
  refine ⟨fun e he => ?_, Entries.nodup_put rfl h.nodup⟩
  obtain rfl | hold := Entries.mem_put rfl he
  · exact ⟨n, rfl, hd⟩
  · exact h.each e hold

theorem Files.filter (h : Files k entries) (p : Scalar × Tree → Bool) :
    Files k (entries.filter p) := by
  refine ⟨fun e he => h.each e (List.mem_filter.mp he).1, ?_⟩
  exact h.nodup.sublist (List.filter_sublist.map _)

theorem Files.singleton {e : Scalar × Tree} (h : Files k entries) (he : e ∈ entries) :
    Files k [e] := by
  refine ⟨fun f hf => ?_, List.nodup_singleton _⟩
  obtain rfl := List.mem_singleton.mp hf
  exact h.each f he

theorem Files.nodup_entries (h : Files k entries) : entries.Nodup := h.nodup.of_map _

end

/-! ### Merging -/

section

variable {ds definitions : List Tree} {m : Merged} {entries : Entries Tree}

theorem exists_definition {d : Tree} (h : Grammatical .definition d) :
    ∃ k n, SignableDefinition k n d :=
  h.signs

theorem putFragment_files {d : Tree} {entries' : Entries Tree}
    (hd : ∃ k n, SignableDefinition k n d) (h : Files .fragmentDefinition entries)
    (hput : putFragment entries d = .ok entries') : Files .fragmentDefinition entries' := by
  obtain ⟨k, n, hd⟩ := hd
  rw [putFragment, hd.kind_eq] at hput
  split at hput
  · rename_i hk
    obtain rfl := Option.some.inj hk
    cases hd with
    | @fragment description n condition vars directives selections described name declared
        conditioned directed filled selected =>
        have hdefinition := SignableDefinition.fragment described name declared conditioned directed
          filled selected
        obtain ⟨key, hkey, hput⟩ := bind_eq_ok_iff.mp hput
        rw [hdefinition.nameOf_eq] at hkey
        cases hkey
        cases hput
        exact h.put hdefinition
  · cases hput
    exact h

theorem putOperation_files {d : Tree} {entries' : Entries Tree}
    (hd : ∃ k n, SignableDefinition k n d) (h : Files .operationDefinition entries)
    (hput : putOperation entries d = .ok entries') : Files .operationDefinition entries' := by
  obtain ⟨k, n, hd⟩ := hd
  rw [putOperation, hd.kind_eq] at hput
  split at hput
  · rename_i hk
    obtain rfl := Option.some.inj hk
    obtain ⟨key, hkey, hput⟩ := bind_eq_ok_iff.mp hput
    cases hput
    rw [operationName, hd.get?_name] at hkey
    cases n with
    | none => cases hkey
    | some n =>
        rw [if_neg (by simp), hd.nameOf_eq] at hkey
        simp only at hkey
        split at hkey
        · cases hkey
          exact h.put hd
        · cases hkey
  · cases hput
    exact h

/-- The definitions of well-formed documents that can be listed. -/
theorem definitions_signable (hds : ∀ d ∈ ds, WellFormed d)
    (h : allDefinitions ds = .ok definitions) :
    ∀ d ∈ definitions, ∃ k n, SignableDefinition k n d := by
  obtain ⟨lists, hlists, hjoined⟩ := bind_eq_ok_iff.mp h
  cases hjoined
  have hrelated := mapM_eq_ok_iff.mp hlists
  clear h hlists
  induction hrelated with
  | nil => simp
  | @cons document list ds lists hlist _ ih =>
      obtain ⟨hdocument, hrest⟩ := List.forall_mem_cons.mp hds
      rw [List.flatten_cons, List.forall_mem_append]
      refine ⟨?_, ih hrest⟩
      obtain @⟨items, hitems⟩ := hdocument
      cases items with
      | none => cases hlist
      | some items =>
          cases hlist
          exact fun d hd => exists_definition (hitems d hd)

/-- What merging makes of well-formed documents. -/
theorem regular_of_ofDocuments (hds : ∀ d ∈ ds, WellFormed d) (h : ofDocuments ds = .ok m) :
    m.Regular := by
  rw [ofDocuments] at h
  split at h
  · cases h
  · rename_i fragments hfragments
    obtain ⟨operations, hoperations, hm⟩ := bind_eq_ok_iff.mp h
    cases hm
    obtain ⟨definitions, hdefinitions, hfold⟩ := bind_eq_ok_iff.mp hfragments
    have hsignable := definitions_signable hds hdefinitions
    rw [operationsOf, hdefinitions] at hoperations
    exact ⟨foldlM_induction (fun d hd _ _ hfiles hput => putFragment_files (hsignable d hd) hfiles hput)
        (files_nil _) hfold,
      foldlM_induction (fun d hd _ _ hfiles hput => putOperation_files (hsignable d hd) hfiles hput)
        (files_nil _) hoperations⟩

end

/-! ### Separating -/

/-- What a definition spreads can be told, and it is texts. -/
def TellsSpreads (definition : Tree) : Prop :=
  ∃ names : List String, Separate.spreadsOf definition = .ok (names.map .text)

/-- A definition of a kind that can be closed over: its name can be told, and what it spreads. -/
structure Spreadable (k : Kind) (n : String) (definition : Tree) : Prop where
  kind_eq : definition.kind? = some k
  nameOf_eq : definition.nameOf = .ok (.text n)
  tells : TellsSpreads definition

/-- Merged definitions of a kind that can be closed over, each filed under its name. -/
structure Shelf (k : Kind) (entries : Entries Tree) : Prop where
  each : ∀ e ∈ entries, ∃ n, e.1 = .text n ∧ Spreadable k n e.2
  nodup : (entries.map (·.1)).Nodup

/-- Merged definitions that can be closed over. -/
structure Closable (m : Merged) : Prop where
  fragments : Shelf .fragmentDefinition m.fragments
  operations : Shelf .operationDefinition m.operations

theorem Files.shelf {k : Kind} {entries : Entries Tree} (h : Files k entries) : Shelf k entries where
  each e he := by
    obtain ⟨n, hkey, hd⟩ := h.each e he
    exact ⟨n, hkey, hd.kind_eq, hd.nameOf_eq, hd.exists_spreadsOf⟩
  nodup := h.nodup

theorem Regular.closable {m : Merged} (h : m.Regular) : m.Closable :=
  ⟨h.fragments.shelf, h.operations.shelf⟩

/-- The names a definition spreads, none if it cannot be told. -/
def spreadsFrom (d : Tree) : List Scalar := (Separate.spreadsOf d).toOption.getD []

/-- What the merged fragments spread. -/
def spreadGraph (m : Merged) : Separate.SpreadGraph := m.fragments.map fun e => (e.1, spreadsFrom e.2)

section

variable {k : Kind} {d : Tree} {m : Merged}

theorem spreadsOf_eq (h : TellsSpreads d) : Separate.spreadsOf d = .ok (spreadsFrom d) := by
  obtain ⟨names, hnames⟩ := h
  rw [spreadsFrom, hnames]
  rfl

theorem text_of_mem_spreadsFrom (h : TellsSpreads d) : ∀ s ∈ spreadsFrom d, ∃ n, s = .text n := by
  obtain ⟨names, hnames⟩ := h
  rw [spreadsFrom, hnames]
  intro s hs
  obtain ⟨n, -, rfl⟩ := List.mem_map.mp hs
  exact ⟨n, rfl⟩

theorem spreads_iff (h : TellsSpreads d) {name : String} :
    Spreads d name ↔ .text name ∈ spreadsFrom d := by
  rw [Spreads, spreadsOf_eq h]
  simp

theorem get?_spreadGraph (key : Scalar) :
    m.spreadGraph.get? key = (m.fragments.get? key).map spreadsFrom := by
  rw [spreadGraph]
  generalize m.fragments = fragments
  induction fragments with
  | nil => rfl
  | cons e fragments ih =>
      rw [List.map_cons, Entries.get?_cons, ih]
      obtain ⟨k, d⟩ := e
      rw [Entries.get?_cons]
      split <;> rfl

theorem Closable.kind_of_fragment (h : m.Closable) :
    ∀ t ∈ m.fragments.map (·.2), t.kind? = some .fragmentDefinition := by
  intro t ht
  obtain ⟨e, he, rfl⟩ := List.mem_map.mp ht
  obtain ⟨_, -, hd⟩ := h.fragments.each e he
  exact hd.kind_eq

theorem Closable.kind_of_operation (h : m.Closable) :
    ∀ t ∈ m.operations.map (·.2), t.kind? = some .operationDefinition := by
  intro t ht
  obtain ⟨e, he, rfl⟩ := List.mem_map.mp ht
  obtain ⟨_, -, hd⟩ := h.operations.each e he
  exact hd.kind_eq

theorem Closable.graph_eq (h : m.Closable) :
    Separate.graph (m.fragments.map (·.2) ++ m.operations.map (·.2)) = .ok m.spreadGraph := by
  have hfragments : (m.fragments.map (·.2)).foldlM (fun g d =>
      if d.kind? = some .fragmentDefinition then do
        let name ← d.nameOf
        return Entries.put g name (← Separate.spreadsOf d)
      else pure g) [] = .ok m.spreadGraph := by
    rw [List.foldlM_map]
    refine Entries.foldlM_put (fun e he => ?_) h.fragments.nodup
    obtain ⟨n, hkey, hd⟩ := h.fragments.each e he
    refine ⟨⟨n, hkey⟩, fun g => ?_⟩
    rw [if_pos hd.kind_eq, hd.nameOf_eq, spreadsOf_eq hd.tells, hkey]
    rfl
  rw [Separate.graph_append h.kind_of_operation]
  exact hfragments

/-- The names that the graph of the fragments leads to are the names reached. -/
theorem Closable.follows_iff (h : m.Closable) (hd : TellsSpreads d) {name : String} :
    Separate.Follows m.spreadGraph (spreadsFrom d) (.text name) ↔ m.Reaches d name := by
  constructor
  · intro hfollows
    have hall : ∀ s, Separate.Follows m.spreadGraph (spreadsFrom d) s →
        ∃ name, s = .text name ∧ m.Reaches d name := by
      intro s hs
      induction hs with
      | start hmem =>
          obtain ⟨name, rfl⟩ := text_of_mem_spreadsFrom hd _ hmem
          exact ⟨name, rfl, .spread ((spreads_iff hd).mpr hmem)⟩
      | next _ found mem ih =>
          obtain ⟨f, rfl, hf⟩ := ih
          rw [get?_spreadGraph] at found
          obtain ⟨fragment, hfragment, rfl⟩ := Option.map_eq_some_iff.mp found
          obtain ⟨_, -, hfragment'⟩ := h.fragments.each _ (Entries.mem_of_get?_text hfragment)
          obtain ⟨name, rfl⟩ := text_of_mem_spreadsFrom hfragment'.tells _ mem
          exact ⟨name, rfl, .through hf hfragment ((spreads_iff hfragment'.tells).mpr mem)⟩
    obtain ⟨name', heq, hreaches⟩ := hall _ hfollows
    cases heq
    exact hreaches
  · intro hreaches
    induction hreaches with
    | spread hspreads => exact .start ((spreads_iff hd).mp hspreads)
    | through _ found spreads ih =>
        obtain ⟨_, -, hfragment⟩ := h.fragments.each _ (Entries.mem_of_get?_text found)
        refine .next ih ?_ ((spreads_iff hfragment.tells).mp spreads)
        rw [get?_spreadGraph, found]
        rfl

open Classical in
/-- An operation with the fragments it reaches. -/
noncomputable def closureOf (m : Merged) (operation : Scalar × Tree) : Merged where
  fragments := m.fragments.filter fun e => ∃ n, e.1 = .text n ∧ m.Reaches operation.2 n
  operations := [operation]

theorem Regular.closureOf (h : m.Regular) {e : Scalar × Tree} (he : e ∈ m.operations) :
    (m.closureOf e).Regular :=
  ⟨h.fragments.filter _, h.operations.singleton he⟩

open Classical in
/-- The names reached select the fragments reached. -/
theorem Closable.isFragmentIn_eq (h : m.Closable) (hd : TellsSpreads d) {e : Scalar × Tree}
    (he : e ∈ m.fragments) :
    Separate.isFragmentIn (Separate.reach m.spreadGraph (spreadsFrom d)) e.2
      = .ok (decide (∃ n, e.1 = .text n ∧ m.Reaches d n)) := by
  obtain ⟨name, hkey, hfragment⟩ := h.fragments.each e he
  have htexts : ∀ f ∈ m.spreadGraph, ∀ s ∈ f.2, ∃ n, s = .text n := by
    intro f hf
    obtain ⟨g, hg, rfl⟩ := List.mem_map.mp hf
    obtain ⟨_, -, hdefinition⟩ := h.fragments.each g hg
    exact text_of_mem_spreadsFrom hdefinition.tells
  rw [Separate.isFragmentIn, if_pos hfragment.kind_eq, hfragment.nameOf_eq]
  refine congrArg Except.ok (Bool.eq_iff_iff.mpr ?_)
  simp only [List.any_eq_true, Scalar.same_text_iff, exists_eq_right, decide_eq_true_eq, hkey,
    Scalar.text.injEq, exists_eq_left', Separate.mem_reach_iff htexts (text_of_mem_spreadsFrom hd),
    h.follows_iff hd]

open Classical in
/-- The definitions that separation keeps for an operation are those of its closure. -/
theorem Closable.closure_eq (h : m.Closable) {x : (Scalar × Tree) × Nat}
    (hx : x ∈ m.operations.zipIdx m.fragments.length) :
    Separate.closure (Separate.reach m.spreadGraph (spreadsFrom x.1.2)) x.2
        (m.fragments.map (·.2) ++ m.operations.map (·.2)).zipIdx
      = .ok ((m.closureOf x.1).fragments.map (·.2) ++ [x.1.2]) := by
  obtain ⟨-, -, hx'⟩ := List.mem_zipIdx hx
  obtain ⟨_, -, hd⟩ := h.operations.each x.1 (hx' ▸ List.getElem_mem _)
  generalize hnames : Separate.reach m.spreadGraph (spreadsFrom x.1.2) = names
  have hfragments : ∀ e ∈ m.fragments, Separate.isFragmentIn names e.2
      = .ok (decide (∃ n, e.1 = .text n ∧ m.Reaches x.1.2 n)) :=
    fun e he => hnames ▸ h.isFragmentIn_eq hd.tells he
  have hoperations : ∀ t ∈ m.operations.map (·.2), Separate.isFragmentIn names t = .ok false := by
    intro t ht
    obtain ⟨e, he, rfl⟩ := List.mem_map.mp ht
    obtain ⟨_, -, hdefinition⟩ := h.operations.each e he
    rw [Separate.isFragmentIn, hdefinition.kind_eq, if_neg (by decide)]
  have hfilter : (m.fragments.map (·.2)).filter
      (fun t => (Separate.isFragmentIn names t).toOption.getD false)
      = (m.closureOf x.1).fragments.map (·.2) := by
    rw [List.filter_map, Merged.closureOf]
    refine congrArg _ (List.filter_congr fun e he => ?_)
    rw [Function.comp, hfragments e he]
    rfl
  have hmem : (x.1.2, x.2) ∈ (m.operations.map (·.2)).zipIdx (m.fragments.map (·.2)).length := by
    rw [List.length_map, List.zipIdx_map]
    exact List.mem_map.mpr ⟨x, hx, rfl⟩
  rw [← hfilter]
  refine Separate.closure_append (fun t ht => ?_) hoperations (fun t ht => ?_) hmem
  · obtain ⟨e, he, rfl⟩ := List.mem_map.mp ht
    rw [hfragments e he]
    rfl
  · rw [hoperations t ht]
    rfl

theorem map_zipIdx_fst {α β : Type} (f : α → β) (l : List α) (i : Nat) :
    ((l.zipIdx i).map fun x => f x.1) = l.map f := by
  conv => rhs; rw [← List.zipIdx_map_fst i l, List.map_map]
  rfl

/-- Separating gives each operation its closure. -/
theorem Closable.ofDocument_eq (h : m.Closable) :
    Separate.ofDocument m.toDocument
      = .ok (m.operations.map fun e => (e.1, (m.closureOf e).toDocument)) := by
  have hdefinitions : m.toDocument.definitions
      = .ok (m.fragments.map (·.2) ++ m.operations.map (·.2)) := rfl
  have hfilter : (m.fragments.map (·.2) ++ m.operations.map (·.2)).zipIdx.filter
      (fun d => d.1.kind? = some .operationDefinition)
      = (m.operations.zipIdx m.fragments.length).map fun x => (x.1.2, x.2) := by
    rw [Separate.filter_operations h.kind_of_fragment h.kind_of_operation, List.length_map,
      List.zipIdx_map]
    rfl
  have hkeys : ((m.operations.zipIdx m.fragments.length).map fun x => x.1.1).Nodup := by
    rw [map_zipIdx_fst]
    exact h.operations.nodup
  rw [Separate.ofDocument, hdefinitions]
  simp only [bind, Except.bind, h.graph_eq, hfilter]
  rw [List.foldlM_map]
  have hclosure := fun x => h.closure_eq (x := x)
  generalize m.fragments.map (·.2) ++ m.operations.map (·.2) = definitions at hclosure ⊢
  have hstep : ∀ x ∈ m.operations.zipIdx m.fragments.length, (∃ n, x.1.1 = .text n) ∧
      ∀ acc : Entries Tree, (do
        let names := Separate.reach m.spreadGraph (← Separate.spreadsOf x.1.2)
        let key ← Separate.keyOf x.1.2
        return acc.put key (.document (← Separate.closure names x.2 definitions.zipIdx)))
        = .ok (acc.put x.1.1 (m.closureOf x.1).toDocument) := by
    intro x hx
    obtain ⟨-, -, hmem⟩ := List.mem_zipIdx hx
    obtain ⟨n, hkey, hd⟩ := h.operations.each x.1 (hmem ▸ List.getElem_mem _)
    refine ⟨⟨n, hkey⟩, fun acc => ?_⟩
    have hkeyOf : Separate.keyOf x.1.2 = .ok x.1.1 := by
      rw [hkey]
      exact Separate.keyOf_of_nameOf hd.nameOf_eq
    simp only [spreadsOf_eq hd.tells, hkeyOf, bind, Except.bind, hclosure x hx]
    rfl
  have hfold := Entries.foldlM_put hstep hkeys
  rw [map_zipIdx_fst fun e => (e.1, (m.closureOf e).toDocument)] at hfold
  exact hfold

/-- Among all closed documents, that of an operation is found under its name. -/
theorem Closable.get?_closed (h : m.Closable) {e : Scalar × Tree} (he : e ∈ m.operations) :
    Entries.get? (m.operations.map fun e => (e.1, (m.closureOf e).toDocument)) e.1
      = some (m.closureOf e).toDocument := by
  have hnodup : ((m.operations.map fun e => (e.1, (m.closureOf e).toDocument)).map (·.1)).Nodup := by
    rw [List.map_map]
    exact h.operations.nodup
  obtain ⟨n, hkey, -⟩ := h.operations.each e he
  rw [hkey]
  exact (Entries.get?_text_iff hnodup).mpr (List.mem_map.mpr ⟨e, he, by rw [hkey]⟩)

/-- Separating what is merged gives every operation, in merged order, with its closure. -/
theorem Closable.ofMerged_eq (h : m.Closable) :
    Separate.ofMerged m = .ok (m.operations.map fun e => (e.1, (m.closureOf e).toDocument)) := by
  rw [Separate.ofMerged, h.ofDocument_eq]
  show List.mapM _ m.operations = Except.ok _
  rw [mapM_eq_ok_iff, List.forall₂_map_right_iff, List.forall₂_same]
  intro e he
  rw [h.get?_closed he]

end

/-! ### What a closure depends on -/

/-- The same definitions, the fragments in any order. -/
structure Same (m m' : Merged) : Prop where
  fragments : m.fragments.Perm m'.fragments
  operations : m.operations = m'.operations

/-- Every definition changed. -/
def map (f : Tree → Tree) (m : Merged) : Merged where
  fragments := m.fragments.map fun e => (e.1, f e.2)
  operations := m.operations.map fun e => (e.1, f e.2)

section

variable {m m' : Merged} {e : Scalar × Tree}

theorem Same.map (h : m.Same m') (f : Tree → Tree) : (m.map f).Same (m'.map f) where
  fragments := h.fragments.map _
  operations := by rw [Merged.map, Merged.map, h.operations]

/-- Merges that agree on the fragments reached in one of them reach the same. -/
theorem reaches_congr {d : Tree}
    (h : ∀ f, m.Reaches d f → m.fragments.get? (.text f) = m'.fragments.get? (.text f)) {n : String} :
    m.Reaches d n ↔ m'.Reaches d n := by
  constructor
  · intro hreaches
    induction hreaches with
    | spread hspreads => exact .spread hspreads
    | through hf found spreads ih => exact .through ih (h _ hf ▸ found) spreads
  · intro hreaches
    induction hreaches with
    | spread hspreads => exact .spread hspreads
    | through _ found spreads ih => exact .through ih ((h _ ih).trans found) spreads

/-- An operation has one closure in merges that agree on the fragments it reaches. -/
theorem Regular.closureOf_same (h : m.Regular) (h' : m'.Regular)
    (hagree : ∀ f, m.Reaches e.2 f → m.fragments.get? (.text f) = m'.fragments.get? (.text f)) :
    (m.closureOf e).Same (m'.closureOf e) := by
  refine ⟨?_, rfl⟩
  refine (List.perm_ext_iff_of_nodup (h.fragments.nodup_entries.filter _)
    (h'.fragments.nodup_entries.filter _)).mpr fun f => ?_
  simp only [List.mem_filter, decide_eq_true_eq]
  -- A fragment that is reached is filed under its name in one merge when it is in the other.
  have hmem : ∀ n, f.1 = .text n → m.Reaches e.2 n → (f ∈ m.fragments ↔ f ∈ m'.fragments) := by
    intro n hkey hreaches
    obtain ⟨key, d⟩ := f
    obtain rfl : key = .text n := hkey
    rw [← Entries.get?_text_iff h.fragments.nodup, ← Entries.get?_text_iff h'.fragments.nodup,
      hagree n hreaches]
  constructor
  · rintro ⟨hf, n, hkey, hreaches⟩
    exact ⟨(hmem n hkey hreaches).mp hf, n, hkey, (reaches_congr hagree).mp hreaches⟩
  · rintro ⟨hf, n, hkey, hreaches⟩
    have hreaches' := (reaches_congr hagree).mpr hreaches
    exact ⟨(hmem n hkey hreaches').mpr hf, n, hkey, hreaches'⟩

theorem Same.get?_eq (hsame : m.Same m') (h : m.Regular) (h' : m'.Regular) (n : String) :
    m.fragments.get? (.text n) = m'.fragments.get? (.text n) := by
  refine Option.ext fun d => ?_
  rw [Entries.get?_text_iff h.fragments.nodup, Entries.get?_text_iff h'.fragments.nodup,
    hsame.fragments.mem_iff]

theorem Same.closureOf (hsame : m.Same m') (h : m.Regular) (h' : m'.Regular) :
    (m.closureOf e).Same (m'.closureOf e) :=
  h.closureOf_same h' fun f _ => hsame.get?_eq h h' f

/-- A change that keeps kinds and names keeps merged definitions regular. -/
theorem Regular.map {f : Tree → Tree} (h : m.Regular)
    (hf : ∀ {k n d}, SignableDefinition k n d → SignableDefinition k n (f d)) :
    (m.map f).Regular := by
  have hfiles : ∀ {k} {entries : Entries Tree}, Files k entries →
      Files k (entries.map fun e => (e.1, f e.2)) := by
    intro k entries hentries
    refine ⟨fun e he => ?_, ?_⟩
    · obtain ⟨g, hg, rfl⟩ := List.mem_map.mp he
      obtain ⟨n, hkey, hd⟩ := hentries.each g hg
      exact ⟨n, hkey, hf hd⟩
    · rw [List.map_map]
      exact hentries.nodup
  exact ⟨hfiles h.fragments, hfiles h.operations⟩

end

end Merged

end PersistedOps

import PersistedOps.Document.Merge
import PersistedOps.Proofs.Entries

/-!
Merged documents. The definitions of a kind are collected under their names: a name stands where it
occurs first and holds the definition of it that occurs last. That tells the collection from the list of
definitions alone, so what is merged in parts, or merged once more, is what is merged at once.
-/

namespace PersistedOps

/-! ### Lists without repetition -/

section

variable {α : Type} [BEq α] [LawfulBEq α] {a : α} {l l' : List α}

theorem eraseDups_concat (l : List α) (a : α) [Decidable (a ∈ l)] :
    (l ++ [a]).eraseDups = if a ∈ l then l.eraseDups else l.eraseDups ++ [a] := by
  have hsingle : [a].removeAll l = if a ∈ l then [] else [a] := by
    simp [List.removeAll, List.filter_cons]
  rw [List.eraseDups_append, hsingle]
  split <;> simp [List.eraseDups_cons]

theorem nodup_eraseDups (l : List α) : l.eraseDups.Nodup := by
  classical
  induction l using List.reverseRecOn with
  | nil => exact List.nodup_nil
  | append_singleton l a ih =>
      rw [eraseDups_concat]
      split
      · exact ih
      · rename_i hnew
        exact List.nodup_append.mpr ⟨ih, List.nodup_singleton a, by
          rintro b hb _ hmem rfl
          rw [List.mem_singleton] at hmem
          exact hnew (hmem ▸ List.mem_eraseDups.mp hb)⟩

theorem eraseDups_of_nodup (h : l.Nodup) : l.eraseDups = l := by
  classical
  induction l using List.reverseRecOn with
  | nil => rfl
  | append_singleton l a ih =>
      obtain ⟨hl, -, hnew⟩ := List.nodup_append.mp h
      have ha : a ∉ l := fun hmem => hnew a hmem a (List.mem_singleton_self a) rfl
      rw [eraseDups_concat, if_neg ha, ih hl]

/-- Repetitions may be dropped in the parts first. -/
theorem eraseDups_append_eraseDups (l l' : List α) :
    (l.eraseDups ++ l'.eraseDups).eraseDups = (l ++ l').eraseDups := by
  classical
  induction l' using List.reverseRecOn with
  | nil => rw [List.eraseDups_nil, List.append_nil, List.append_nil, eraseDups_of_nodup (nodup_eraseDups l)]
  | append_singleton l' a ih =>
      have hmem : a ∈ l.eraseDups ++ l'.eraseDups ↔ a ∈ l ++ l' := by
        simp only [List.mem_append, List.mem_eraseDups]
      rw [← List.append_assoc, eraseDups_concat (l ++ l'), eraseDups_concat l', ← ih]
      by_cases ha : a ∈ l'
      · rw [if_pos ha, if_pos (List.mem_append_right l ha)]
      · rw [if_neg ha, ← List.append_assoc, eraseDups_concat]
        exact if_congr hmem rfl rfl

end

namespace Entries

variable {α : Type} {entries entries' others : Entries α} {k : Scalar} {v : α}

/-- All keys are texts. -/
def Texts (entries : Entries α) : Prop := ∀ k ∈ entries.map (·.1), k.isText

theorem keys_put (hk : k.isText) (entries : Entries α) (v : α) : (entries.put k v).map (·.1)
    = if k ∈ entries.map (·.1) then entries.map (·.1) else entries.map (·.1) ++ [k] := by
  split
  · rename_i hmem
    induction entries with
    | nil => cases hmem
    | cons e entries ih =>
        obtain ⟨j, w⟩ := e
        rw [put]
        by_cases hj : j = k
        · rw [if_pos ((Scalar.same_iff hk).mpr hj)]
          rfl
        · rw [if_neg (mt (Scalar.same_iff hk).mp hj)]
          exact congrArg (j :: ·) (ih ((List.mem_cons.mp hmem).resolve_left (Ne.symm hj)))
  · rename_i hfresh
    rw [put_of_fresh hk hfresh, List.map_append]
    rfl

/-- Keys are kept in the order in which they came. -/
theorem keys_update (hnodup : (entries.map (·.1)).Nodup) (hothers : others.Texts) :
    (entries.update others).map (·.1) = (entries.map (·.1) ++ others.map (·.1)).eraseDups := by
  induction others using List.reverseRecOn with
  | nil =>
      rw [List.map_nil, List.append_nil, eraseDups_of_nodup hnodup]
      rfl
  | append_singleton others e ih =>
      rw [Texts, List.map_append, List.forall_mem_append] at hothers
      obtain ⟨hothers, hlast⟩ := hothers
      have hupdate : entries.update (others ++ [e]) = (entries.update others).put e.1 e.2 := by
        rw [update, List.foldl_append]
        rfl
      have hmem : e.1 ∈ (entries.update others).map (·.1) ↔
          e.1 ∈ entries.map (·.1) ++ others.map (·.1) := by
        rw [ih hothers, List.mem_eraseDups]
      rw [hupdate, List.map_append, ← List.append_assoc]
      show _ = (_ ++ [e.1]).eraseDups
      rw [eraseDups_concat, ← ih hothers, keys_put (hlast e.1 (List.mem_singleton_self _))]
      exact if_congr hmem rfl rfl

/-- With no key twice, what answers a text is the last pair of it. -/
theorem getLast?_filter_eq (hk : k.isText) (hnodup : (entries.map (·.1)).Nodup) :
    (entries.filter (·.1 = k)).getLast?.map (·.2) = entries.get? k := by
  cases hget : entries.get? k with
  | some v =>
      rw [filter_key_eq hnodup (mem_of_get? hk hget)]
      rfl
  | none =>
      have hnone : entries.filter (·.1 = k) = [] := by
        refine List.filter_eq_nil_iff.mpr fun e he hkey => ?_
        have hmem : (k, e.2) ∈ entries := (of_decide_eq_true hkey : e.1 = k) ▸ he
        rw [(get?_iff hk hnodup).mpr hmem] at hget
        cases hget
      rw [hnone]
      rfl

/-- Dictionaries of texts are told by their keys and what these are answered with. -/
theorem eq_of_get? (hkeys : entries.map (·.1) = entries'.map (·.1)) (hnodup : (entries.map (·.1)).Nodup)
    (htexts : entries.Texts) (hget : ∀ k, k.isText → entries.get? k = entries'.get? k) :
    entries = entries' := by
  have hlength : entries.length = entries'.length := by simpa using congrArg List.length hkeys
  apply List.ext_getElem hlength
  intro i hi hi'
  have hkey : entries[i].1 = entries'[i].1 := by
    have hat : (entries.map (·.1))[i]? = (entries'.map (·.1))[i]? := by rw [hkeys]
    simpa [hi, hi'] using hat
  have hk : entries[i].1.isText := htexts _ (List.mem_map_of_mem (List.getElem_mem hi))
  have hleft : entries.get? entries[i].1 = some entries[i].2 :=
    (get?_iff hk hnodup).mpr (List.getElem_mem hi)
  have hright : entries'.get? entries[i].1 = some entries'[i].2 :=
    (get?_iff hk (hkeys ▸ hnodup)).mpr (hkey ▸ List.getElem_mem hi')
  rw [hget _ hk] at hleft
  exact Prod.ext hkey (Option.some.inj (hleft.symm.trans hright))

end Entries

namespace Merged

variable {k : Kind} {n : Scalar} {d : Tree} {definitions definitions' documents others : List Tree}
  {entries entries' : Entries Tree} {m : Merged}

/-! ### Collected definitions -/

/-- The name under which a definition of the kind is filed. -/
def filedAs? (k : Kind) (d : Tree) : Option Scalar :=
  if d.kind? = some k then d.nameOf.toOption else none

theorem filedAs?_eq_some_iff : filedAs? k d = some n ↔ d.kind? = some k ∧ d.nameOf = .ok n := by
  rw [filedAs?]
  by_cases hk : d.kind? = some k
  · rw [if_pos hk, and_iff_right hk]
    cases d.nameOf <;> simp [Except.toOption]
  · rw [if_neg hk]
    simp [hk]

/-- The definitions of a kind under their names: each name where it occurs first, with the last
definition of it. -/
structure Collected (k : Kind) (definitions : List Tree) (entries : Entries Tree) : Prop where
  texts : entries.Texts
  keys : entries.map (·.1) = (definitions.filterMap (filedAs? k)).eraseDups
  get? : ∀ n, n.isText → entries.get? n = (definitions.filter (filedAs? k · = some n)).getLast?

namespace Collected

theorem nil (k : Kind) : Collected k [] [] where
  texts _ h := absurd h List.not_mem_nil
  keys := rfl
  get? _ _ := rfl

theorem nodup (h : Collected k definitions entries) : (entries.map (·.1)).Nodup :=
  h.keys ▸ nodup_eraseDups _

/-- One more definition is filed. -/
theorem put (h : Collected k definitions entries) (hd : filedAs? k d = some n) (hn : n.isText) :
    Collected k (definitions ++ [d]) (entries.put n d) where
  texts j hj := by
    rw [Entries.keys_put hn] at hj
    split at hj
    · exact h.texts j hj
    · obtain hold | hnew := List.mem_append.mp hj
      · exact h.texts j hold
      · exact List.mem_singleton.mp hnew ▸ hn
  keys := by
    have hmem : n ∈ entries.map (·.1) ↔ n ∈ definitions.filterMap (filedAs? k) := by
      rw [h.keys, List.mem_eraseDups]
    have hlast : [d].filterMap (filedAs? k) = [n] := by rw [List.filterMap_cons, hd, List.filterMap_nil]
    rw [List.filterMap_append, hlast, eraseDups_concat, Entries.keys_put hn, h.keys]
    exact if_congr (h.keys ▸ hmem) rfl rfl
  get? j hj := by
    rw [Entries.get?_put hj, List.filter_append, h.get? j hj]
    by_cases hnj : n = j
    · rw [if_pos hnj, List.filter_cons_of_pos (by simp [hd, hnj])]
      simp
    · rw [if_neg hnj, List.filter_cons_of_neg (by simp [hd, hnj]), List.filter_nil, List.append_nil]

/-- Definitions of another kind, or without a name, are passed over. -/
theorem amid (h : Collected k definitions entries) (before after : List Tree)
    (hothers : ∀ d ∈ before ++ after, filedAs? k d = none) :
    Collected k (before ++ definitions ++ after) entries := by
  obtain ⟨hbefore, hafter⟩ := List.forall_mem_append.mp hothers
  have hnames {l : List Tree} (hl : ∀ d ∈ l, filedAs? k d = none) : l.filterMap (filedAs? k) = [] :=
    List.filterMap_eq_nil_iff.mpr hl
  have hnone {l : List Tree} (hl : ∀ d ∈ l, filedAs? k d = none) (n : Scalar) :
      l.filter (filedAs? k · = some n) = [] :=
    List.filter_eq_nil_iff.mpr fun d hd => by simp [hl d hd]
  refine ⟨h.texts, ?_, fun n hn => ?_⟩
  · rw [List.filterMap_append, List.filterMap_append, hnames hbefore, hnames hafter, List.append_nil,
      List.nil_append, h.keys]
  · rw [List.filter_append, List.filter_append, hnone hbefore, hnone hafter, List.append_nil,
      List.nil_append, h.get? n hn]

/-- The definitions tell what is collected. -/
theorem unique (h : Collected k definitions entries) (h' : Collected k definitions entries') :
    entries = entries' :=
  Entries.eq_of_get? (h.keys.trans h'.keys.symm) h.nodup h.texts
    fun n hn => (h.get? n hn).trans (h'.get? n hn).symm

/-- What is collected from the later definitions is put over what is collected from the earlier ones. -/
theorem append (h : Collected k definitions entries) (h' : Collected k definitions' entries') :
    Collected k (definitions ++ definitions') (entries.update entries') where
  texts j hj := by
    rw [Entries.keys_update h.nodup h'.texts, List.mem_eraseDups, List.mem_append] at hj
    exact hj.elim (h.texts j) (h'.texts j)
  keys := by
    rw [Entries.keys_update h.nodup h'.texts, h.keys, h'.keys, eraseDups_append_eraseDups,
      List.filterMap_append]
  get? j hj := by
    rw [Entries.get?_update hj, Entries.getLast?_filter_eq hj h'.nodup, h.get? j hj, h'.get? j hj,
      List.filter_append, List.getLast?_append]

/-- What is collected comes from the definitions, and is filed under its name. -/
theorem of_mem (h : Collected k definitions entries) {e : Scalar × Tree} (he : e ∈ entries) :
    e.2 ∈ definitions ∧ filedAs? k e.2 = some e.1 := by
  have hk : e.1.isText := h.texts _ (List.mem_map_of_mem he)
  have hlast : (definitions.filter (filedAs? k · = some e.1)).getLast? = some e.2 := by
    rw [← h.get? e.1 hk]
    exact (Entries.get?_iff hk h.nodup).mpr he
  have hmem := List.mem_of_getLast? hlast
  exact ⟨List.mem_of_mem_filter hmem, of_decide_eq_true (List.mem_filter.mp hmem).2⟩

/-- Definitions that stand under their names are collected as they stand. -/
theorem of_named (hnodup : (entries.map (·.1)).Nodup) (htexts : entries.Texts)
    (hnamed : ∀ e ∈ entries, filedAs? k e.2 = some e.1) : Collected k (entries.map (·.2)) entries where
  texts := htexts
  keys := by
    have hnames : (entries.map (·.2)).filterMap (filedAs? k) = entries.map (·.1) := by
      rw [List.filterMap_map]
      exact (List.filterMap_congr hnamed).trans (congrFun List.filterMap_eq_map entries)
    rw [hnames, eraseDups_of_nodup hnodup]
  get? j hj := by
    rw [List.filter_map, List.getLast?_map, ← Entries.getLast?_filter_eq hj hnodup]
    refine congrArg (fun l => Option.map _ (List.getLast? l)) (List.filter_congr fun e he => ?_)
    simp [hnamed e he]

end Collected

/-- What a step does with a definition: it files it under its name, or passes it over. -/
def Filing (k : Kind) {ε : Type} (step : Entries Tree → Tree → Except ε (Entries Tree)) (d : Tree) : Prop :=
  (∃ n, n.isText ∧ filedAs? k d = some n ∧ ∀ acc, step acc d = .ok (acc.put n d)) ∨
    (filedAs? k d = none ∧ ∀ acc, step acc d = .ok acc)

/-- Steps that file all definitions but refused ones collect them, or fail at the first refused one. -/
theorem foldlM_filing {ε : Type} {step : Entries Tree → Tree → Except ε (Entries Tree)} {refused : Tree → Bool}
    {refusal : Tree → ε} (hrefused : ∀ d, refused d → ∀ acc, step acc d = .error (refusal d))
    (hfiles : ∀ d ∈ definitions, refused d = false → Filing k step d) :
    (∀ d, definitions.find? refused = some d → definitions.foldlM step [] = .error (refusal d)) ∧
      (definitions.find? refused = none →
        ∃ entries, definitions.foldlM step [] = .ok entries ∧ Collected k definitions entries) := by
  induction definitions using List.reverseRecOn with
  | nil => exact ⟨by simp, fun _ => ⟨[], rfl, .nil k⟩⟩
  | append_singleton definitions last ih =>
      obtain ⟨hinit, hlast⟩ := List.forall_mem_append.mp hfiles
      obtain ⟨herror, hok⟩ := ih hinit
      rw [List.find?_append, List.foldlM_append]
      cases hfind : definitions.find? refused with
      | some first =>
          rw [herror first hfind]
          refine ⟨fun d hd => ?_, by simp⟩
          cases hd
          rfl
      | none =>
          obtain ⟨entries, hentries, hcollected⟩ := hok hfind
          rw [hentries, Option.none_or]
          cases hrefuse : refused last with
          | true =>
              rw [List.find?_cons_of_pos hrefuse]
              refine ⟨fun d hd => ?_, by simp⟩
              cases hd
              show (step entries last >>= pure) = _
              rw [hrefused last hrefuse]
              rfl
          | false =>
              rw [List.find?_cons_of_neg (by simp [hrefuse])]
              refine ⟨by simp, fun _ => ?_⟩
              show ∃ entries', (step entries last >>= pure) = _ ∧ _
              obtain ⟨n, hn, hname, hstep⟩ | ⟨hname, hstep⟩ :=
                hlast last (List.mem_singleton_self last) hrefuse
              · rw [hstep]
                exact ⟨_, rfl, hcollected.put hname hn⟩
              · rw [hstep]
                exact ⟨_, rfl, hcollected.amid [] [last] (List.forall_mem_singleton.mpr hname)⟩

/-! ### Documents -/

/-- The name of a definition is a text. -/
def HasName (d : Tree) : Prop := ∃ n, d.nameOf = .ok n ∧ n.isText

/-- An operation without a name, or with an empty one. -/
def isAnonymous (d : Tree) : Bool :=
  d.kind? = some .operationDefinition &&
    ((d.get? .name).isNone || d.nameOf.toOption.any fun n => n.points? = some [])

/-- Documents whose definitions are these: fragments have names, operations may have them. -/
structure Mergeable (documents definitions : List Tree) : Prop where
  allDefinitions_eq : allDefinitions documents = .ok definitions
  fragments : ∀ d ∈ definitions, d.kind? = some .fragmentDefinition → HasName d
  operations : ∀ d ∈ definitions, d.kind? = some .operationDefinition → d.get? .name = none ∨ HasName d

/-- Both kinds of definitions, each under its own names. -/
def Collects (definitions : List Tree) (m : Merged) : Prop :=
  Collected .fragmentDefinition definitions m.fragments ∧
    Collected .operationDefinition definitions m.operations

/-- One merge put over another. -/
def update (m others : Merged) : Merged :=
  ⟨m.fragments.update others.fragments, m.operations.update others.operations⟩

theorem Collects.unique {m' : Merged} (h : Collects definitions m) (h' : Collects definitions m') :
    m = m' := by
  obtain ⟨fragments, operations⟩ := m
  obtain ⟨fragments', operations'⟩ := m'
  obtain rfl : fragments = fragments' := h.1.unique h'.1
  obtain rfl : operations = operations' := h.2.unique h'.2
  rfl

theorem Collects.append {m' : Merged} (h : Collects definitions m) (h' : Collects definitions' m') :
    Collects (definitions ++ definitions') (m.update m') :=
  ⟨h.1.append h'.1, h.2.append h'.2⟩

/-- What is collected is collected from itself. -/
theorem Collected.values (h : Collected k definitions entries) : Collected k (entries.map (·.2)) entries :=
  .of_named h.nodup h.texts fun _ he => (h.of_mem he).2

theorem Collected.kind_and_name (h : Collected k definitions entries) :
    ∀ d ∈ entries.map (·.2), d.kind? = some k ∧ HasName d := by
  intro d hd
  obtain ⟨e, he, rfl⟩ := List.mem_map.mp hd
  obtain ⟨hk, hname⟩ := filedAs?_eq_some_iff.mp (h.of_mem he).2
  exact ⟨hk, e.1, hname, h.texts _ (List.mem_map_of_mem he)⟩

theorem truthy_of_isText (hn : n.isText) : n.truthy = !decide (n.points? = some []) := by
  cases n with
  | text s => by_cases hs : s = "" <;> simp [Scalar.truthy, Scalar.points?, hs]
  | surrogates points => cases points <;> simp [Scalar.truthy, Scalar.points?]
  | _ => cases hn

theorem filedAs?_of_ne (hk : d.kind? ≠ some k) : filedAs? k d = none := if_neg hk

/-- Fragments are filed under their names. -/
theorem filing_putFragment (hd : d.kind? = some .fragmentDefinition → HasName d) :
    Filing .fragmentDefinition putFragment d := by
  by_cases hk : d.kind? = some .fragmentDefinition
  · obtain ⟨n, hname, hn⟩ := hd hk
    refine .inl ⟨n, hn, filedAs?_eq_some_iff.mpr ⟨hk, hname⟩, fun acc => ?_⟩
    rw [putFragment, if_pos hk, hname]
    rfl
  · exact .inr ⟨filedAs?_of_ne hk, fun acc => if_neg hk⟩

/-- Operations are filed under their names, if these are not empty. -/
theorem filing_putOperation (hd : d.kind? = some .operationDefinition → d.get? .name = none ∨ HasName d)
    (hnamed : isAnonymous d = false) : Filing .operationDefinition putOperation d := by
  by_cases hk : d.kind? = some .operationDefinition
  · rw [isAnonymous, hk, decide_eq_true rfl, Bool.true_and, Bool.or_eq_false_iff] at hnamed
    obtain ⟨hpresent, hempty⟩ := hnamed
    obtain ⟨n, hname, hn⟩ := (hd hk).resolve_left (by simpa [Option.isSome_iff_ne_none] using hpresent)
    have hnonempty : decide (n.points? = some []) = false := by simpa [hname, Except.toOption] using hempty
    refine .inl ⟨n, hn, filedAs?_eq_some_iff.mpr ⟨hk, hname⟩, fun acc => ?_⟩
    have hoperation : operationName d = .ok n := by
      rw [operationName, hpresent, if_neg Bool.false_ne_true, hname]
      simp only [truthy_of_isText hn, hnonempty, Bool.not_false, if_true]
    rw [putOperation, if_pos hk, hoperation]
    rfl
  · exact .inr ⟨filedAs?_of_ne hk, fun acc => if_neg hk⟩

theorem putOperation_of_isAnonymous (h : isAnonymous d) (operations : Entries Tree) :
    putOperation operations d = .error (.anonymousOperation d) := by
  rw [isAnonymous, Bool.and_eq_true, decide_eq_true_eq, Bool.or_eq_true] at h
  obtain ⟨hk, hnone | hempty⟩ := h
  · rw [putOperation, if_pos hk, operationName, if_pos hnone]
    rfl
  · have hpresent : (d.get? .name).isNone = false ∨ (d.get? .name).isNone = true := by
      cases (d.get? .name).isNone <;> simp
    obtain hpresent | hnone := hpresent
    · cases hname : d.nameOf with
      | error e => simp [hname, Except.toOption] at hempty
      | ok n =>
          have hpoints : n.points? = some [] := by simpa [hname, Except.toOption] using hempty
          have htruthy : n.truthy = false := by
            rw [truthy_of_isText (by rw [Scalar.isText, hpoints]; rfl), hpoints]
            rfl
          rw [putOperation, if_pos hk, operationName, hpresent, if_neg Bool.false_ne_true, hname]
          simp only [htruthy, Bool.false_eq_true, if_false]
          rfl
    · rw [putOperation, if_pos hk, operationName, if_pos hnone]
      rfl

/-- What merging documents with these definitions comes to. -/
theorem Mergeable.ofDocuments (h : Mergeable documents definitions) :
    (∀ d, definitions.find? isAnonymous = some d →
      Merged.ofDocuments documents = .error (.anonymousOperation d)) ∧
      (definitions.find? isAnonymous = none →
        ∃ m, Merged.ofDocuments documents = .ok m ∧ Collects definitions m) := by
  have hfragment : ∀ d : Tree, false = true → ∀ acc, putFragment acc d = .error .noName :=
    fun _ h => absurd h Bool.false_ne_true
  obtain ⟨-, hfragments⟩ := foldlM_filing hfragment fun d hd _ => filing_putFragment (h.fragments d hd)
  obtain ⟨fragments, hfragments, hcollected⟩ := hfragments (by simp)
  obtain ⟨herror, hok⟩ := foldlM_filing (fun d hd acc => putOperation_of_isAnonymous hd acc)
    fun d hd hnamed => filing_putOperation (h.operations d hd) hnamed
  have hmerge : Merged.ofDocuments documents =
      definitions.foldlM putOperation [] >>= fun operations => .ok ⟨fragments, operations⟩ := by
    have hkept : fragmentsOf documents = .ok fragments := by
      rw [fragmentsOf, h.allDefinitions_eq]
      exact hfragments
    rw [Merged.ofDocuments, hkept, operationsOf, h.allDefinitions_eq]
    rfl
  rw [hmerge]
  refine ⟨fun d hd => ?_, fun hnone => ?_⟩
  · rw [herror d hd]
    rfl
  · obtain ⟨operations, hoperations, hcollects⟩ := hok hnone
    rw [hoperations]
    exact ⟨_, rfl, hcollected, hcollects⟩

theorem Mergeable.append (h : Mergeable documents definitions) (hothers : Mergeable others definitions') :
    Mergeable (documents ++ others) (definitions ++ definitions') where
  allDefinitions_eq := by
    obtain ⟨lists, hlists, heq⟩ := bind_eq_ok_iff.mp h.allDefinitions_eq
    obtain ⟨lists', hlists', heq'⟩ := bind_eq_ok_iff.mp hothers.allDefinitions_eq
    cases heq
    cases heq'
    rw [allDefinitions, List.mapM_append, hlists, hlists']
    exact congrArg Except.ok List.flatten_append
  fragments d hd := (List.mem_append.mp hd).elim (h.fragments d) (hothers.fragments d)
  operations d hd := (List.mem_append.mp hd).elim (h.operations d) (hothers.operations d)

theorem allDefinitions_toDocument (m : Merged) : allDefinitions [m.toDocument] =
    .ok (m.fragments.map (·.2) ++ m.operations.map (·.2)) := by
  have hlists : [m.toDocument].mapM Tree.definitions =
      .ok [m.fragments.map (·.2) ++ m.operations.map (·.2)] := rfl
  rw [allDefinitions, hlists]
  exact congrArg Except.ok (List.append_nil _)

/-- What is merged can be merged once more, and comes to the same. -/
theorem ofDocuments_toDocument (hfragments : Collected .fragmentDefinition (m.fragments.map (·.2)) m.fragments)
    (hoperations : Collected .operationDefinition (m.operations.map (·.2)) m.operations)
    (hnamed : ∀ d ∈ m.operations.map (·.2), isAnonymous d = false) :
    ofDocuments [m.toDocument] = .ok m := by
  have hfragment := hfragments.kind_and_name
  have hoperation := hoperations.kind_and_name
  have hname : ∀ d ∈ m.fragments.map (·.2) ++ m.operations.map (·.2), HasName d :=
    List.forall_mem_append.mpr ⟨fun d hd => (hfragment d hd).2, fun d hd => (hoperation d hd).2⟩
  have hagain : Mergeable [m.toDocument] (m.fragments.map (·.2) ++ m.operations.map (·.2)) :=
    ⟨allDefinitions_toDocument m, fun d hd _ => hname d hd, fun d hd _ => .inr (hname d hd)⟩
  have hcollects : Collects (m.fragments.map (·.2) ++ m.operations.map (·.2)) m := by
    constructor
    · refine hfragments.amid [] _ fun d hd => filedAs?_of_ne ?_
      rw [(hoperation d hd).1]
      decide
    · have hboth := hoperations.amid (m.fragments.map (·.2)) [] fun d hd => by
        rw [List.append_nil] at hd
        apply filedAs?_of_ne
        rw [(hfragment d hd).1]
        decide
      rwa [List.append_nil] at hboth
  have hnone : (m.fragments.map (·.2) ++ m.operations.map (·.2)).find? isAnonymous = none := by
    rw [List.find?_append, Option.or_eq_none_iff]
    refine ⟨List.find?_eq_none.mpr fun d hd => ?_, List.find?_eq_none.mpr fun d hd => ?_⟩
    · rw [isAnonymous, (hfragment d hd).1]
      simp
    · simp [hnamed d hd]
  obtain ⟨m', hm', hcollects'⟩ := hagain.ofDocuments.2 hnone
  rw [hm', hcollects'.unique hcollects]

/-- Merging fails for an operation without a name, and names the first one. Else the definitions of
both kinds are collected, apart from each other; those of later documents are put over those of
earlier ones, and what is merged stays as it is when it is merged again. -/
theorem ofDocuments_collects (h : Mergeable documents definitions) :
    (∀ d, ofDocuments documents = .error (.anonymousOperation d) ↔
        definitions.find? isAnonymous = some d) ∧
      (definitions.find? isAnonymous = none →
        ∃ m, ofDocuments documents = .ok m ∧ Collects definitions m) ∧
      (∀ others definitions', Mergeable others definitions' →
        ofDocuments (documents ++ others) = do
          let m ← ofDocuments documents
          let m' ← ofDocuments others
          return m.update m') ∧
      ∀ m, ofDocuments documents = .ok m → ofDocuments [m.toDocument] = .ok m := by
  obtain ⟨herror, hok⟩ := h.ofDocuments
  refine ⟨fun d => ⟨fun hd => ?_, herror d⟩, hok, fun others definitions' hothers => ?_, fun m hm => ?_⟩
  · cases hfind : definitions.find? isAnonymous with
    | some first =>
        rw [herror first hfind] at hd
        cases hd
        rfl
    | none =>
        obtain ⟨m, hm, -⟩ := hok hfind
        cases hm.symm.trans hd
  · -- The first definition without a name among both is the first of the one, or else of the other.
    obtain ⟨herror', hok'⟩ := hothers.ofDocuments
    obtain ⟨herrors, hoks⟩ := (h.append hothers).ofDocuments
    rw [List.find?_append] at herrors hoks
    cases hfind : definitions.find? isAnonymous with
    | some first =>
        rw [hfind] at herrors
        rw [herror first hfind, herrors first rfl]
        rfl
    | none =>
        obtain ⟨m, hm, hcollects⟩ := hok hfind
        rw [hfind, Option.none_or] at herrors hoks
        rw [hm]
        cases hfind' : definitions'.find? isAnonymous with
        | some first =>
            rw [herror' first hfind', herrors first hfind']
            rfl
        | none =>
            obtain ⟨m', hm', hcollects'⟩ := hok' hfind'
            obtain ⟨both, hboth, hcollected⟩ := hoks hfind'
            rw [hm', hboth, hcollected.unique (hcollects.append hcollects')]
            rfl
  · cases hfind : definitions.find? isAnonymous with
    | some first =>
        rw [herror first hfind] at hm
        cases hm
    | none =>
        obtain ⟨m', hm', hcollects⟩ := hok hfind
        cases hm.symm.trans hm'
        refine ofDocuments_toDocument hcollects.1.values hcollects.2.values fun d hd => ?_
        obtain ⟨e, he, rfl⟩ := List.mem_map.mp hd
        simpa using List.find?_eq_none.mp hfind e.2 (hcollects.2.of_mem he).1

/-- A definition with no more than a name and one empty list. -/
def bare (k : Kind) (name : Option String) (list : Attribute) : Tree :=
  .node k ((name.map fun n => (.name, .node .name [(.value, .scalar (.text n))])).toList ++
    [(list, .list [])])

theorem hasName_bare {k : Kind} (hk : .name ∈ k.attributes) (n : String) (list : Attribute) :
    HasName (bare k (some n) list) := by
  refine ⟨.text n, ?_, rfl⟩
  have hattr : (bare k (some n) list).attr .name = .ok (.node .name [(.value, .scalar (.text n))]) :=
    if_pos hk
  rw [Tree.nameOf, hattr]
  rfl

/-- A fragment and an operation of one name, both given anew by a second document. -/
def renewed : List Tree :=
  [Tree.document [bare .fragmentDefinition "A" .directives, bare .operationDefinition "A" .directives,
      bare .operationDefinition "B" .directives],
    Tree.document [bare .operationDefinition "C" .directives,
      bare .operationDefinition "A" .variableDefinitions, bare .fragmentDefinition "A" .variableDefinitions]]

/-- What is given anew stands in the place of what it replaces. An operation without a name in a
further document is what the merge fails for. -/
theorem ofDocuments_renewed :
    ∃ definitions m, Mergeable renewed definitions ∧ ofDocuments renewed = .ok m ∧ Collects definitions m ∧
      m.fragments = [(.text "A", bare .fragmentDefinition "A" .variableDefinitions)] ∧
      m.operations = [(.text "A", bare .operationDefinition "A" .variableDefinitions),
        (.text "B", bare .operationDefinition "B" .directives),
        (.text "C", bare .operationDefinition "C" .directives)] ∧
      ofDocuments [m.toDocument] = .ok m ∧
      ofDocuments (renewed ++ [Tree.document [bare .operationDefinition none .directives]])
        = .error (.anonymousOperation (bare .operationDefinition none .directives)) := by
  let definitions := [bare .fragmentDefinition "A" .directives, bare .operationDefinition "A" .directives,
    bare .operationDefinition "B" .directives, bare .operationDefinition "C" .directives,
    bare .operationDefinition "A" .variableDefinitions, bare .fragmentDefinition "A" .variableDefinitions]
  have hnames : ∀ d ∈ definitions, HasName d := by
    simp only [definitions, List.forall_mem_cons]
    refine ⟨?_, ?_, ?_, ?_, ?_, ?_, fun d hd => absurd hd List.not_mem_nil⟩ <;>
      exact hasName_bare (by decide) _ _
  have hmergeable : Mergeable renewed definitions :=
    ⟨rfl, fun d hd _ => hnames d hd, fun d hd _ => .inr (hnames d hd)⟩
  have hanonymous : Mergeable [Tree.document [bare .operationDefinition none .directives]]
      [bare .operationDefinition none .directives] :=
    ⟨rfl, fun d hd hk => absurd (List.mem_singleton.mp hd ▸ hk) (by decide),
      fun d hd _ => .inl (List.mem_singleton.mp hd ▸ rfl)⟩
  obtain ⟨-, hok, happend, hagain⟩ := ofDocuments_collects hmergeable
  obtain ⟨m, hm, hcollects⟩ := hok rfl
  have hvalue := hm
  cases hvalue
  exact ⟨definitions, _, hmergeable, hm, hcollects, rfl, rfl, hagain _ hm, happend _ _ hanonymous⟩

end Merged

end PersistedOps

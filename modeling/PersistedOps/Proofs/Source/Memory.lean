import PersistedOps.Proofs.Source.Confined

/-!
Units in memory. They are held by normal path, whatever spelling they were registered under, and the last
text counts. Main statement: what is located is the canonical path of a unit, located again from anywhere;
so whoever asks for one path in a session shares one task.
-/

namespace PersistedOps

namespace Reference

variable {isUnit : String → Bool} {reference path found : String} {issuer : Option String}

/-- Of the candidates the path itself comes first, and the suffix is tried only where it is lacking. -/
theorem find?_candidates : (candidates path).find? isUnit = some found ↔
    isUnit path = true ∧ found = path ∨
      isUnit path = false ∧ path.endsWith suffix = false ∧ found = path ++ suffix ∧
        isUnit found = true := by
  by_cases hpath : isUnit path = true
  · have hfirst : (candidates path).find? isUnit = some path := by
      rw [candidates]
      split <;> exact List.find?_cons_of_pos hpath
    rw [hfirst, Option.some.injEq, hpath]
    exact ⟨fun h => .inl ⟨rfl, h.symm⟩, fun h => h.elim (fun h => h.2.symm) fun h => by cases h.1⟩
  · rw [Bool.not_eq_true] at hpath
    rw [hpath, or_iff_right (fun h => Bool.false_ne_true h.1), candidates]
    cases hsuffix : path.endsWith suffix with
    | true =>
        rw [if_pos rfl, List.find?_cons_of_neg (by simp [hpath])]
        constructor
        · rintro ⟨⟩
        · rintro ⟨-, ⟨⟩, -⟩
    | false =>
        rw [if_neg Bool.false_ne_true, List.find?_cons_of_neg (by simp [hpath])]
        by_cases hunit : isUnit (path ++ suffix) = true
        · rw [List.find?_cons_of_pos hunit, Option.some.injEq]
          exact ⟨fun h => ⟨rfl, rfl, h.symm, h ▸ hunit⟩, fun h => h.2.2.1.symm⟩
        · rw [List.find?_cons_of_neg hunit, List.find?_nil]
          constructor
          · rintro ⟨⟩
          · rintro ⟨-, -, rfl, hfound⟩
            exact (hunit hfound).elim

theorem locate_eq_ok_iff : locate isUnit reference issuer = .ok found ↔
    ∃ path, join reference issuer = .ok path ∧ (candidates path).find? isUnit = some found := by
  constructor
  · exact exists_of_locate
  · rintro ⟨path, hjoin, hfind⟩
    refine bind_eq_ok_iff.mpr ⟨path, hjoin, ?_⟩
    rw [hfind]
    rfl

/-- A reference is not found when it leads nowhere, or to where no candidate names a unit. -/
theorem locate_eq_error_iff :
    (∃ looked, locate isUnit reference issuer = .error (.unitNotFound reference looked)) ↔
      (∃ looked, join reference issuer = .error (.unitNotFound reference looked)) ∨
        ∃ path, join reference issuer = .ok path ∧ ∀ q ∈ candidates path, isUnit q = false := by
  constructor
  · rintro ⟨looked, h⟩
    rcases bind_eq_error_iff.mp h with hjoin | ⟨path, hjoin, h⟩
    · exact .inl ⟨looked, hjoin⟩
    · refine .inr ⟨path, hjoin, fun q hq => ?_⟩
      split at h
      · cases h
      · next hnone => simpa using List.find?_eq_none.mp hnone q hq
  · rintro (⟨looked, hjoin⟩ | ⟨path, hjoin, hnone⟩)
    · exact ⟨looked, bind_eq_error_iff.mpr (.inl hjoin)⟩
    · have hfind : (candidates path).find? isUnit = none :=
        List.find?_eq_none.mpr fun q hq => by simp [hnone q hq]
      refine ⟨some path, bind_eq_error_iff.mpr (.inr ⟨path, hjoin, ?_⟩)⟩
      simp only [hfind]
      rfl

end Reference

namespace MemorySource

variable {history : List (String × String)} {spelling path text : String}

/-- The units of a history of registrations. -/
def ofHistory (history : List (String × String)) : MemorySource :=
  history.foldl (fun m e => m.add e.1 e.2) ⟨[]⟩

/-- A path was registered under some spelling. -/
def Names (history : List (String × String)) (path : String) : Prop :=
  ∃ e ∈ history, Path.normalize e.1 = path

/-- A path was last registered with this text, under whatever spelling. -/
def Holds (history : List (String × String)) (path text : String) : Prop :=
  ∃ before spelling after, history = before ++ (spelling, text) :: after ∧
    Path.normalize spelling = path ∧ ∀ e ∈ after, Path.normalize e.1 ≠ path

theorem holds_concat {last : String} : Holds (history ++ [(spelling, last)]) path text ↔
    if Path.normalize spelling = path then text = last else Holds history path text := by
  constructor
  · rintro ⟨before, other, after, heq, hother, hafter⟩
    rcases List.eq_nil_or_concat' after with rfl | ⟨after, e, rfl⟩
    · obtain ⟨-, hlast⟩ := List.append_singleton_inj.mp heq
      cases hlast
      rw [if_pos hother]
    · rw [← List.cons_append, ← List.append_assoc] at heq
      obtain ⟨rfl, rfl⟩ := List.append_singleton_inj.mp heq
      have hpath : Path.normalize spelling ≠ path := hafter (spelling, last) (by simp)
      rw [if_neg hpath]
      exact ⟨before, other, after, rfl, hother, fun e he => hafter e (List.mem_append_left _ he)⟩
  · split
    · next hpath =>
      rintro rfl
      exact ⟨history, spelling, [], rfl, hpath, nofun⟩
    · next hpath =>
      rintro ⟨before, other, after, rfl, hother, hafter⟩
      refine ⟨before, other, after ++ [(spelling, last)], by simp, hother, fun e he => ?_⟩
      rcases List.mem_append.mp he with he | he
      · exact hafter e he
      · rw [List.mem_singleton.mp he]
        exact hpath

/-- What is held under a path is what the path was last registered with. -/
theorem get?_ofHistory : (ofHistory history).get? path = some text ↔ Holds history path text := by
  induction history using List.reverseRecOn with
  | nil => simp [ofHistory, get?, Holds]
  | append_singleton history e ih =>
      obtain ⟨spelling, last⟩ := e
      rw [holds_concat, ← ih, ofHistory, List.foldl_append, List.foldl_cons, List.foldl_nil, add, get?,
        List.lookup_cons]
      by_cases hpath : Path.normalize spelling = path
      · rw [if_pos hpath, beq_iff_eq.mpr hpath.symm]
        exact ⟨fun h => (Option.some.inj h).symm, fun h => congrArg some h.symm⟩
      · rw [if_neg hpath, beq_eq_false_iff_ne.mpr (Ne.symm hpath)]
        exact Iff.rfl

theorem names_iff : Names history path ↔ ∃ text, Holds history path text := by
  constructor
  · intro h
    induction history using List.reverseRecOn with
    | nil => simp [Names] at h
    | append_singleton history e ih =>
        obtain ⟨spelling, last⟩ := e
        by_cases hpath : Path.normalize spelling = path
        · exact ⟨last, holds_concat.mpr (by rw [if_pos hpath])⟩
        · obtain ⟨other, hmem, hother⟩ := h
          have hold : Names history path := by
            rcases List.mem_append.mp hmem with hmem | hmem
            · exact ⟨other, hmem, hother⟩
            · rw [List.mem_singleton.mp hmem] at hother
              exact (hpath hother).elim
          obtain ⟨text, htext⟩ := ih hold
          exact ⟨text, holds_concat.mpr (by rwa [if_neg hpath])⟩
  · rintro ⟨text, before, spelling, after, rfl, hpath, -⟩
    exact ⟨(spelling, text), by simp, hpath⟩

theorem isSome_get?_ofHistory : ((ofHistory history).get? path).isSome = true ↔ Names history path := by
  rw [names_iff, Option.isSome_iff_exists]
  simp only [get?_ofHistory]

theorem ofHistory_append (given added : List (String × String)) : ofHistory (given ++ added) =
    added.foldl (fun m e => m.add e.1 e.2) (ofUnits given) := List.foldl_append

theorem read_ofHistory (h : Holds history path text) : (ofHistory history).read path = .ok text := by
  rw [read, get?_ofHistory.mpr h]

/-- The first of a path's candidates that names a unit. -/
def unitAt? (m : MemorySource) (path : String) : Option String :=
  (Reference.candidates path).find? fun q => (m.get? q).isSome

variable {m : MemorySource} {reference p : String} {issuer : Option String}

theorem locate_eq_ok_iff : m.locate reference issuer = .ok p ↔
    ∃ path, Reference.join reference issuer = .ok path ∧ m.unitAt? path = some p :=
  Reference.locate_eq_ok_iff

theorem isSome_get?_of_locate (h : m.locate reference issuer = .ok p) : (m.get? p).isSome = true := by
  obtain ⟨path, -, hfind⟩ := locate_eq_ok_iff.mp h
  exact List.find?_some (p := fun q => (m.get? q).isSome) hfind

/-- A located path is located again, from nowhere and with a slash in front from anywhere. -/
theorem locate_again (hissuer : ∀ path ∈ issuer, Path.isRooted path = false)
    (h : m.locate reference issuer = .ok p) :
    m.locate p none = .ok p ∧ ∀ other, m.locate ("/" ++ p) other = .ok p := by
  obtain ⟨names, hspells⟩ := Reference.exists_spells_of_locate hissuer h
  have hunit := isSome_get?_of_locate h
  refine ⟨Reference.locate_of_join (Reference.join_self hspells) hunit, fun other => ?_⟩
  refine Reference.locate_of_join (Reference.join_of_spells hspells ?_ ?_) hunit
  · rw [Reference.base.eq_def, if_pos (by simp [String.startsWith_string_iff])]
  · have hslash : ("/" ++ p).toList = '/' :: p.toList := by simp
    rw [Path.dropLeadingSlashes, hslash, List.dropWhile_cons_of_pos (by simp)]
    exact hspells.dropLeadingSlashes_eq

end MemorySource

/-! ### Sessions on one source -/

/-- Events that leave the source as it is. -/
def Event.Steady {σ : Type} : Event σ → Prop
  | .change _ => False
  | _ => True

namespace Session

variable {m : MemorySource} {options : Options} {signer : Signer} {events : List (Event MemorySource)}

theorem source_steady (h : ∀ e ∈ events, e.Steady) :
    ((start m options signer).after events).source = m := by
  refine after_moves (P := fun s => s.source = m) (A := Event.Steady) (fun s c _ _ hs => hs)
    (fun s source hchange _ => hchange.elim) (fun s job rest s' _ hpick hmove hs => ?_) rfl
    (accounted_start m options signer) h
  rw [(settings_move hmove).1, hpick.rest_eq]
  exact hs

theorem source_of_looks {w : Waiter} {reference : String} {moment : Session MemorySource}
    (hlooks : Looks (start m options signer) events w reference moment) (h : ∀ e ∈ events, e.Steady) :
    moment.source = m := by
  induction hlooks with
  | now picked =>
      rw [(picked_of_pick? picked).rest_eq]
      exact source_steady fun e he => h e (List.mem_append_left _ he)
  | earlier _ ih => exact ih fun e he => h e (List.mem_append_left _ he)

/-- Whoever has found a path ends with the outcome of the path, unless it is refused. -/
theorem EndsAs.outcome {s moment : Session MemorySource} {issuer : Option String}
    {reference p : String} {outcome : Except Failure Processed}
    (h : EndsAs s issuer reference moment outcome) (hsource : moment.source = m)
    (hlocate : m.locate reference issuer = .ok p) :
    s.outcome? p = some outcome ∨
      issuer.isSome = true ∧ ∃ chain, outcome = .error (.dependencyCycle chain) := by
  subst hsource
  cases h with
  | lost located => cases hlocate.symm.trans located
  | refused issued =>
      rw [issued]
      exact .inr ⟨rfl, _, rfl⟩
  | shared located finished =>
      cases hlocate.symm.trans located
      exact .inl finished

/-- Every call that finds a path ends so. -/
theorem outcome_of_called (hsteady : ∀ e ∈ events, e.Steady) {id : Nat} {c : Call} {p : String}
    {outcome : Except Failure Processed}
    (hcall : ((start m options signer).after events).calls[id]? = some c)
    (hended : ((start m options signer).after events).callOutcome? id = some outcome)
    (hlocate : m.locate c.reference c.issuer = .ok p) :
    ((start m options signer).after events).outcome? p = some outcome ∨
      c.issuer.isSome = true ∧ ∃ chain, outcome = .error (.dependencyCycle chain) := by
  obtain ⟨reference, moment, hlooks, hends⟩ :=
    (carries_after m options signer tellsReference_memory events).ended id outcome hended
  cases (past_of_looks hlooks).asked with
  | call made =>
      cases hcall.symm.trans made
      exact hends.outcome (source_of_looks hlooks hsteady) hlocate

/-- Every request that finds a path is answered so. -/
theorem outcome_of_requested (hsteady : ∀ e ∈ events, e.Steady) {issuer text reference p : String}
    {unit : Script.Extracted} {resolution : Resolution} {position : Nat} {answer : Answer}
    (hstate : ((start m options signer).after events).state? issuer =
      some (.resolving text unit resolution))
    (hasked : unit.dependencies[position]? = some reference)
    (hanswer : resolution.answers[position]? = some (some answer))
    (hlocate : m.locate reference (some issuer) = .ok p) :
    ∃ outcome, answer = outcome.map Processed.documents ∧
      (((start m options signer).after events).outcome? p = some outcome ∨
        ∃ chain, outcome = .error (.dependencyCycle chain)) := by
  obtain ⟨outcome, ⟨reference', moment, hlooks, hends⟩, heq⟩ :=
    (carries_after m options signer tellsReference_memory events).noted issuer text unit resolution
      position answer hstate hanswer
  cases (past_of_looks hlooks).asked with
  | request begun asked =>
      cases hasked.symm.trans (asked text unit resolution hstate)
      have hways := hends.outcome (source_of_looks hlooks hsteady) hlocate
      exact ⟨outcome, heq, hways.imp_right And.right⟩

end Session

/-- Units are given and registered in memory in any order and under any spelling. A reference of a relative
path, or of none, is then located at the normal path it leads to when that names a unit, else with the
suffix of compiled units when that is lacking and names one, and else nowhere. What is located names a
unit, is read as it was last registered, and is located again from anywhere. So in a session, however
calls and steps are mixed, there is one task for each path, and all whose references lead to one path end
with the outcome of one task, unless they are refused for a cycle. -/
theorem locate_canonical (given added : List (String × String)) :
    let history := given ++ added
    let m := added.foldl (fun m e => m.add e.1 e.2) (MemorySource.ofUnits given)
    (∀ reference issuer, (∀ path ∈ issuer, Path.isRooted path = false) →
      (∀ p, m.locate reference issuer = .ok p →
        (∃ text, MemorySource.Holds history p text ∧ m.read p = .ok text) ∧
        m.locate p none = .ok p ∧ ∀ other, m.locate ("/" ++ p) other = .ok p) ∧
      (∀ p, m.locate reference issuer = .ok p ↔ ∃ path, Reference.join reference issuer = .ok path ∧
        (MemorySource.Names history path ∧ p = path ∨
          ¬MemorySource.Names history path ∧ path.endsWith ".py" = false ∧ p = path ++ ".py" ∧
            MemorySource.Names history p)) ∧
      ((∃ looked, m.locate reference issuer = .error (.unitNotFound reference looked)) ↔
        Reference.descend? (Reference.trail reference issuer) = none ∨
          ∃ path, Reference.join reference issuer = .ok path ∧
            ∀ q ∈ Reference.candidates path, ¬MemorySource.Names history q)) ∧
    ∀ options signer (events : List (Event MemorySource)), (∀ e ∈ events, e.Steady) →
      let s := (Session.start m options signer).after events
      (s.tasks.map Prod.fst).Nodup ∧ s.reads.Nodup ∧
      ∀ path p, m.unitAt? path = some p →
        (∀ id c outcome, s.calls[id]? = some c → Reference.join c.reference c.issuer = .ok path →
          s.callOutcome? id = some outcome → s.outcome? p = some outcome ∨
            c.issuer.isSome = true ∧ ∃ chain, outcome = .error (.dependencyCycle chain)) ∧
        ∀ issuer text unit resolution (position : Nat) reference answer,
          s.state? issuer = some (.resolving text unit resolution) →
          unit.dependencies[position]? = some reference →
          Reference.join reference (some issuer) = .ok path →
          resolution.answers[position]? = some (some answer) →
          ∃ outcome, answer = outcome.map Processed.documents ∧ (s.outcome? p = some outcome ∨
            ∃ chain, outcome = .error (.dependencyCycle chain)) := by
  intro history m
  -- Units that are given and units that are registered make one history, of which the last text counts.
  have hm : m = MemorySource.ofHistory history := (MemorySource.ofHistory_append given added).symm
  have hunit (q : String) : (m.get? q).isSome = true ↔ MemorySource.Names history q :=
    hm ▸ MemorySource.isSome_get?_ofHistory
  have hnone (q : String) : (m.get? q).isSome = false ↔ ¬MemorySource.Names history q := by
    rw [← hunit, Bool.not_eq_true]
  refine ⟨fun reference issuer hissuer => ⟨fun p hp => ⟨?_, MemorySource.locate_again hissuer hp⟩,
    fun p => ?_, ?_⟩, fun options signer events hsteady => ?_⟩
  · obtain ⟨text, htext⟩ := MemorySource.names_iff.mp ((hunit p).mp (MemorySource.isSome_get?_of_locate hp))
    exact ⟨text, htext, hm ▸ MemorySource.read_ofHistory htext⟩
  · rw [MemorySource.locate_eq_ok_iff]
    refine exists_congr fun path => and_congr_right fun _ => ?_
    rw [MemorySource.unitAt?, Reference.find?_candidates, hunit, hunit, hnone]
    rfl
  · rw [MemorySource.locate, Reference.locate_eq_error_iff, Reference.join_eq_error_iff hissuer]
    simp only [hnone]
  · intro s
    refine ⟨(Session.accounted_after m options signer events).keys,
      (Session.readOnce_after m options signer events).nodup, fun path p hp => ⟨?_, ?_⟩⟩
    · intro id c outcome hcall hjoin hended
      have hlocate := MemorySource.locate_eq_ok_iff.mpr ⟨path, hjoin, hp⟩
      exact Session.outcome_of_called hsteady hcall hended hlocate
    · intro issuer text unit resolution position reference answer hstate hasked hjoin hanswer
      have hlocate := MemorySource.locate_eq_ok_iff.mpr ⟨path, hjoin, hp⟩
      exact Session.outcome_of_requested hsteady hstate hasked hanswer hlocate

/-- A unit that is registered again under another spelling, and two calls that spell it differently. -/
theorem locate_canonical_respelled :
    let m := [("./q", "exports=\x7b'kind':'Document'\x7d")].foldl (fun m e => m.add e.1 e.2)
      (MemorySource.ofUnits [("dir/../q", "exports=1")])
    let s := (Session.start m {} Signer.registry).after
      (.call ⟨"q/.", none⟩ :: .call ⟨"/dir//../q", none⟩ :: List.replicate 6 (.work 0))
    m.locate "../q" (some "deep/r") = .ok "q" ∧ m.locate "/q" (some "deep/r") = .ok "q" ∧
      ∃ outcome, s.outcome? "q" = some outcome ∧ s.callOutcome? 0 = some outcome ∧
        s.callOutcome? 1 = some outcome := by
  intro m s
  obtain ⟨hlocates, hsessions⟩ := locate_canonical [("dir/../q", "exports=1")]
    [("./q", "exports=\x7b'kind':'Document'\x7d")]
  have hissuer : ∀ path ∈ some "deep/r", Path.isRooted path = false := by decide +kernel
  have hlocate : m.locate "../q" (some "deep/r") = .ok "q" := eq_ok_of_toOption (by decide +kernel)
  obtain ⟨-, -, hagain⟩ := (hlocates "../q" (some "deep/r") hissuer).1 "q" hlocate
  have hsteady : ∀ e ∈ (.call ⟨"q/.", none⟩ :: .call ⟨"/dir//../q", none⟩ ::
      List.replicate 6 (.work 0) : List (Event MemorySource)), e.Steady := by
    intro e he
    rcases List.mem_cons.mp he with rfl | he
    · trivial
    · rcases List.mem_cons.mp he with rfl | he
      · trivial
      · rw [List.eq_of_mem_replicate he]
        trivial
  obtain ⟨-, -, hshared⟩ := hsessions {} Signer.registry _ hsteady
  have hcalls := (hshared "q" "q" (by decide +kernel)).1
  have hended : (s.callOutcome? 0).isSome = true ∧ (s.callOutcome? 1).isSome = true := by decide +kernel
  obtain ⟨first, hfirst⟩ := Option.isSome_iff_exists.mp hended.1
  obtain ⟨second, hsecond⟩ := Option.isSome_iff_exists.mp hended.2
  have hjoins : Reference.join "q/." none = .ok "q" ∧ Reference.join "/dir//../q" none = .ok "q" :=
    ⟨eq_ok_of_toOption (by decide +kernel), eq_ok_of_toOption (by decide +kernel)⟩
  have hmade : s.calls[0]? = some ⟨"q/.", none⟩ ∧ s.calls[1]? = some ⟨"/dir//../q", none⟩ := by
    decide +kernel
  have houtcome := (hcalls 0 _ first hmade.1 hjoins.1 hfirst).resolve_right nofun
  have hother := (hcalls 1 _ second hmade.2 hjoins.2 hsecond).resolve_right nofun
  cases houtcome.symm.trans hother
  exact ⟨hlocate, hagain (some "deep/r"), first, houtcome, hfirst, hsecond⟩

end PersistedOps

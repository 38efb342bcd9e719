import PersistedOps.Proofs.Session.Progress
import PersistedOps.Proofs.Session.Recursive

/-!
Dependency cycles. A session refuses a wait only for a chain of units that require one another, and
the build of a unit that reaches such a chain always ends, with a failure that tells of one.
-/

namespace PersistedOps

/-- A failure of a resolution that has a cycle failure somewhere below it, or is one itself. -/
inductive Failure.Reports (chain : List String) : Failure → Prop
  | here : Reports chain (.dependencyCycle chain)
  | nested {failures : List (String × Failure)} {total : Nat} {reference : String} {f : Failure}
      (mem : (reference, f) ∈ failures) (reports : Reports chain f) :
      Reports chain (.dependencyResolution failures total)

namespace Session

open Relation RecursiveBuild

variable {σ : Type} [UnitSource σ]

/-- A chain that begins with an issuer and the path that it requires, goes from each unit to one that
it requires, and ends with the issuer. -/
structure Closes (source : σ) (issuer path : String) (chain : List String) : Prop where
  head : chain.head? = some issuer
  second : chain[1]? = some path
  last : chain.getLast? = some issuer
  requires : chain.IsChain (Requires source)

theorem closes_of_walk {source : σ} {issuer path : String} {walk : List String}
    (hrequires : Requires source issuer path)
    (hwalk : Waiting.Walk (Requires source) path issuer walk) :
    Closes source issuer path (issuer :: walk) := by
  obtain ⟨hhead, hlast, hchain⟩ := hwalk
  cases walk with
  | nil => cases hhead
  | cons a walk =>
      cases hhead
      exact ⟨rfl, rfl, by simpa using hlast, List.isChain_cons_cons.mpr ⟨hrequires, hchain⟩⟩

/-- A unit that a chain begins and ends with requires itself through others. -/
theorem Closes.cyclic {source : σ} {issuer path : String} {chain : List String}
    (h : Closes source issuer path chain) : TransGen (Requires source) issuer issuer := by
  obtain ⟨hhead, hsecond, hlast, hchain⟩ := h
  rcases chain with _ | ⟨a, _ | ⟨b, chain⟩⟩
  · cases hhead
  · cases hsecond
  · cases hhead
    cases hsecond
    rw [List.isChain_cons_cons] at hchain
    refine .head' hchain.1 (Waiting.Walk.reaches ⟨rfl, ?_, hchain.2⟩)
    simpa using hlast

/-- A step refuses a wait: a waiter of an issuer looks for a unit, and a chain of waits leads from the
unit back to the issuer. -/
inductive Refuses (s : Session σ) : Job → (issuer path : String) → (chain : List String) → Prop
  | intro {job : Job} {w : Waiter} {reference issuer path : String} {chain : List String}
      (seeks : s.Seeks job w reference) (issued : s.issuer? w = some issuer)
      (located : UnitSource.locate s.source reference (some issuer) = .ok path)
      (cycle : s.waiting.cycle? issuer path = some chain) : Refuses s job issuer path chain

/-- What refusing does: the cycle failure is what the waiter gets. -/
theorem Refuses.step {s : Session σ} {job : Job} {issuer path : String} {chain : List String}
    (h : s.Refuses job issuer path chain) :
    ∃ w, s.issuer? w = some issuer ∧
      s.step job = s.deliver w (.error (.dependencyCycle chain)) := by
  obtain ⟨seeks, issued, located, cycle⟩ := h
  refine ⟨_, issued, ?_⟩
  have hseek {w : Waiter} {reference : String} (issued : s.issuer? w = some issuer)
      (located : UnitSource.locate s.source reference (some issuer) = .ok path) :
      s.seek w reference = s.deliver w (.error (.dependencyCycle chain)) := by
    simp only [seek, issued, located, Option.bind_some, cycle]
  cases seeks with
  | call made =>
      rw [Session.step, made]
      exact hseek issued located
  | request task asked =>
      rw [Session.step, request, task]
      simp only [asked]
      exact hseek issued located

variable {source : σ} {options : Options} {signer : Signer}

/-- The chain of a wait that is refused is one of units that require one another. -/
theorem Refuses.closes {s : Session σ} {P : String → Except Failure Processed → Prop}
    (h : Justified source options signer P s) {job : Job} {issuer path : String}
    {chain : List String} (hrefuses : s.Refuses job issuer path chain) :
    Closes source issuer path chain := by
  obtain ⟨seeks, issued, located, cycle⟩ := hrefuses
  have hasks := h.asks seeks
  rw [issued] at hasks
  rw [h.source_eq] at located
  obtain ⟨walk, rfl, hwalk⟩ := Waiting.walk_of_cycle?_eq_some cycle
  exact closes_of_walk (hasks.requires located) (hwalk.mono h.awaits)

/-! Units that reach a cycle -/

/-- A unit that a cycle can be reached from. -/
def ReachesCycle (source : σ) (path : String) : Prop :=
  ∃ x, ReflTransGen (Requires source) path x ∧ TransGen (Requires source) x x

/-- It requires a unit that a cycle can be reached from. -/
theorem ReachesCycle.exists_requires {path : String} (h : ReachesCycle source path) :
    ∃ q, Requires source path q ∧ ReachesCycle source q := by
  obtain ⟨x, hpx, hx⟩ := h
  rcases ReflTransGen.cases_head_iff.mp hpx with rfl | ⟨q, hpq, hqx⟩
  · obtain ⟨q, hpq, hqp⟩ := TransGen.head'_iff.mp hx
    exact ⟨q, hpq, path, hqp, hx⟩
  · exact ⟨q, hpq, x, hqx, hx⟩

/-- A failure to resolve dependencies that tells of a cycle of units. -/
def TellsOfCycle (source : σ) (outcome : Except Failure Processed) : Prop :=
  ∃ failures total, outcome = .error (.dependencyResolution failures total) ∧
    ∃ issuer path chain, Closes source issuer path chain ∧
      Failure.Reports chain (.dependencyResolution failures total)

/-- A failed answer is among the failures of its resolution. -/
theorem mem_failures {references : List String} {answers : List Answer} {k : Nat}
    {reference : String} {f : Failure} (hreference : references[k]? = some reference)
    (hanswer : answers[k]? = some (.error f)) :
    (reference, f) ∈ Resolution.failures references answers := by
  induction references generalizing answers k with
  | nil => cases hreference
  | cons r references ih =>
      rcases answers with _ | ⟨_ | _, answers⟩
      · cases hanswer
      · cases k with
        | zero =>
            cases hreference
            cases hanswer
            exact List.mem_cons_self
        | succ k => exact List.mem_cons_of_mem _ (ih hreference hanswer)
      · cases k with
        | zero => cases hanswer
        | succ k => exact ih hreference hanswer

/-- Units hand on that those which reach a cycle tell of one. -/
theorem hereditary_tellsOfCycle : Hereditary source options signer
    fun path outcome => ReachesCycle source path → TellsOfCycle source outcome where
  unread {path f} read hreaches := by
    obtain ⟨q, ⟨text, unit, hload, -⟩, -⟩ := hreaches.exists_requires
    cases read.symm.trans hload.read
  unextracted {path text f} read extracted hreaches := by
    obtain ⟨q, ⟨text', unit, hload, -⟩, -⟩ := hreaches.exists_requires
    cases read.symm.trans hload.read
    cases extracted.symm.trans hload.extracted
  assembled {path text unit answers} hload hanswers hreaches := by
    obtain ⟨q, ⟨text', unit', hload', reference, hreference, hq⟩, hqreaches⟩ :=
      hreaches.exists_requires
    obtain ⟨rfl, rfl⟩ := hload.unique hload'
    obtain ⟨k, hk⟩ := List.mem_iff_getElem?.mp hreference
    obtain ⟨hklt, -⟩ := List.getElem?_eq_some_iff.mp hk
    obtain ⟨hlength, hall⟩ := List.forall₂_iff_get.mp hanswers
    have hklt' : k < answers.length := hlength ▸ hklt
    -- The answer to the reference that leads to the cycle is a failure that tells of one.
    obtain ⟨f, hf, issuer, p, chain, hcloses, hreports⟩ : ∃ f, answers[k]? = some (.error f) ∧
        ∃ issuer p chain, Closes source issuer p chain ∧ Failure.Reports chain f := by
      obtain ⟨outcome, hanswered, heq⟩ := hall k hklt hklt'
      have hget : unit.dependencies.get ⟨k, hklt⟩ = reference := by
        rw [List.getElem?_eq_getElem hklt] at hk
        exact Option.some.inj hk
      have hanswer : answers[k]? = some (outcome.map Processed.documents) := by
        rw [List.getElem?_eq_getElem hklt']
        exact congrArg some heq
      rw [hget] at hanswered
      cases hanswered with
      | lost located => cases hq.symm.trans located
      | @refused i p walk issued located walks =>
          cases issued
          cases hq.symm.trans located
          exact ⟨_, hanswer, path, q, path :: walk,
            closes_of_walk ⟨text, unit, hload, reference, hreference, hq⟩ walks, .here⟩
      | shared located shared =>
          cases hq.symm.trans located
          obtain ⟨failures, total, rfl, issuer, p, chain, hcloses, hreports⟩ := shared hqreaches
          exact ⟨_, hanswer, issuer, p, chain, hcloses, hreports⟩
    have hmem := mem_failures hk hf
    refine ⟨Resolution.failures unit.dependencies answers, unit.dependencies.length, ?_, issuer, p,
      chain, hcloses, .nested hmem hreports⟩
    unfold Processed.ofAnswers Resolution.conclude
    split
    · rename_i hnil
      rw [hnil] at hmem
      cases hmem
    · rfl

/-- Cycle failures of a session over a source that stays as it is, under any schedule. A wait is
refused only with a chain that begins with its issuer and the unit that is asked for, in which each
unit requires the next one, and that ends with the issuer; so none is where no unit requires itself
through others. And the build of a unit that a cycle of units can be reached from ends, if the source
has finitely many units, within a bound on the steps yet to take; it ends with the failure to resolve
dependencies, which has a cycle failure below it. -/
theorem cycles_found (source : σ) (options : Options) (signer : Signer) {events : List (Event σ)}
    (hplain : ∀ e ∈ events, e.Plain) :
    let s := (start source options signer).after events
    (∀ choice job rest issuer path chain, s.pick? choice = some (job, rest) →
      rest.Refuses job issuer path chain → Closes source issuer path chain) ∧
    ((∀ a, ¬TransGen (Requires source) a a) →
      ∀ choice job rest issuer path chain, s.pick? choice = some (job, rest) →
        ¬rest.Refuses job issuer path chain) ∧
    ∀ (id : Nat) (c : Call) (path x : String), s.calls[id]? = some c →
      UnitSource.locate source c.reference none = .ok path →
      ReflTransGen (Requires source) path x → TransGen (Requires source) x x →
      (∀ units, WithinUnits source units → ∃ bound, ∀ more : List (Event σ),
        (∀ e ∈ more, e.Plain) → bound + 4 * more.countP Event.isCall < more.countP Event.isWork →
        ((s.after more).callOutcome? id).isSome) ∧
      ∀ outcome, s.callOutcome? id = some outcome → TellsOfCycle source outcome := by
  intro s
  have hjustified : Justified source options signer _ s :=
    justified_after hereditary_tellsOfCycle hplain
  have hcloses (choice : Nat) (job : Job) (rest : Session σ) (issuer path : String)
      (chain : List String) (hpick : s.pick? choice = some (job, rest))
      (hrefuses : rest.Refuses job issuer path chain) : Closes source issuer path chain :=
    hrefuses.closes (hjustified.pick (picked_of_pick? hpick)).1
  refine ⟨hcloses, fun hacyclic choice job rest issuer path chain hpick hrefuses => ?_,
    fun id c path x hcall hlocated hpx hx => ⟨fun units hwithin => ?_, fun outcome hended => ?_⟩⟩
  · exact hacyclic issuer (hcloses choice job rest issuer path chain hpick hrefuses).cyclic
  · obtain ⟨bound, hbound⟩ := call_ends hwithin hplain hcall
    refine ⟨bound, fun more hmore hlong => ?_⟩
    have hsome := hbound more hmore hlong
    rwa [after_append] at hsome
  · exact outcome_of_callOutcome hereditary_tellsOfCycle hplain hcall hlocated hended ⟨x, hpx, hx⟩

/-- A unit that requires itself. -/
def loopSource : MemorySource := ⟨[("a", "exports=require('a')")]⟩

theorem cycles_found_loop : ∃ (more : List (Event MemorySource)) (outcome : Except Failure Processed),
    ((start loopSource {} Signer.registry).after (.call ⟨"a", none⟩ :: more)).callOutcome? 0 =
      some outcome ∧ TellsOfCycle loopSource outcome := by
  have hlocated (issuer : Option String) (h : issuer ∈ [none, some "a"]) :
      UnitSource.locate loopSource "a" issuer = .ok "a" :=
    eq_ok_of_toOption ((by decide +kernel : ∀ i ∈ [none, some "a"],
      (UnitSource.locate loopSource "a" i).toOption = some "a") issuer h)
  have hloop : Requires loopSource "a" "a" := by
    have hdependencies : (Script.extract "a" "exports=require('a')").toOption.map
        Script.Extracted.dependencies = some ["a"] := by decide +kernel
    obtain ⟨unit, hunit, hasked⟩ := Option.map_eq_some_iff.mp hdependencies
    refine ⟨_, unit, ⟨rfl, eq_ok_of_toOption hunit⟩, "a", ?_, hlocated _ (by simp)⟩
    rw [hasked]
    exact List.mem_singleton_self _
  have hplain (n : Nat) : ∀ e ∈ (.call ⟨"a", none⟩ :: List.replicate n (.work 0) :
      List (Event MemorySource)), e.Plain := by
    intro e he
    rcases List.mem_cons.mp he with rfl | he
    · rfl
    · rw [List.eq_of_mem_replicate he]
      trivial
  have hmade : ((start loopSource {} Signer.registry).after [.call ⟨"a", none⟩]).calls[0]? =
      some ⟨"a", none⟩ := rfl
  obtain ⟨hends, -⟩ := (cycles_found loopSource {} Signer.registry (hplain 0)).2.2 0 ⟨"a", none⟩
    "a" "a" hmade (hlocated _ (by simp)) .refl (.single hloop)
  obtain ⟨bound, hbound⟩ := hends _ (withinUnits_paths loopSource)
  let more : List (Event MemorySource) := List.replicate (bound + 1) (.work 0)
  have hsome := hbound more (fun e he => hplain _ e (List.mem_cons_of_mem _ he)) (by
    simp [more, List.countP_replicate, Event.isCall, Event.isWork])
  obtain ⟨outcome, houtcome⟩ := Option.isSome_iff_exists.mp hsome
  obtain ⟨-, htells⟩ := (cycles_found loopSource {} Signer.registry (hplain (bound + 1))).2.2 0
    ⟨"a", none⟩ "a" "a" (calls_after hmade more) (hlocated _ (by simp)) .refl
    (.single hloop)
  exact ⟨more, outcome, houtcome, htells outcome houtcome⟩

end Session

end PersistedOps

import PersistedOps.Proofs.Session.Outcome

/-!
Sessions against the recursive build. Whatever else runs, and in whatever order the tasks take their
steps, a unit ends with what the recursive build of it gives, and it ends well exactly when it has all
that its build needs.
-/

namespace PersistedOps.RecursiveBuild

variable {σ : Type} [UnitSource σ]

theorem exists_map_eq {α β γ : Type} {S : α → γ → Prop} {f : γ → β} {l : List α} {bs : List β}
    (h : List.Forall₂ (fun a b => ∃ c, S a c ∧ b = f c) l bs) :
    ∃ cs, List.Forall₂ S l cs ∧ bs = cs.map f := by
  induction h with
  | nil => exact ⟨[], .nil, rfl⟩
  | cons hab _ ih =>
      obtain ⟨c, hc, rfl⟩ := hab
      obtain ⟨cs, hcs, rfl⟩ := ih
      exact ⟨c :: cs, .cons hc hcs, rfl⟩

/-- The documents of a unit come from those of its dependencies. -/
theorem Aggregates.assemble {source : σ} {path text : String} {unit : Script.Extracted}
    {lists : List (List Tree)} (hload : Loads source path text unit)
    (hlists : List.Forall₂ (fun reference list => ∃ q,
      UnitSource.locate source reference (some path) = .ok q ∧ Aggregates source q list)
        unit.dependencies lists) :
    Aggregates source path (unit.document :: lists.flatten) := by
  have hbound : ∃ depth, List.Forall₂ (fun reference list => ∃ q,
      UnitSource.locate source reference (some path) = .ok q ∧
      aggregateWithin source depth q = .ok list) unit.dependencies lists := by
    refine exists_bound ?_ (hlists.imp fun reference list => ?_)
    · rintro m n reference list hmn ⟨q, hq, hlist⟩
      exact ⟨q, hq, aggregateWithin_mono hlist hmn⟩
    · rintro ⟨q, hq, depth, hlist⟩
      exact ⟨depth, q, hq, hlist⟩
  obtain ⟨depth, hdepth⟩ := hbound
  exact ⟨depth + 1, aggregateWithin_succ_eq_ok_iff.mpr ⟨text, unit, lists, hload, hdepth, rfl⟩⟩

end PersistedOps.RecursiveBuild

namespace PersistedOps.Session

open Relation RecursiveBuild

variable {σ : Type} [UnitSource σ] {source : σ} {options : Options} {signer : Signer}

/-- An outcome is the one that the recursive build of a unit has. -/
def Agrees (source : σ) (options : Options) (signer : Signer) (path : String) :
    Except Failure Processed → Prop
  | .ok p => Builds source options signer path p
  | .error _ => ¬Buildable source options signer path

/-- A unit that has all it needs gets no failure for a reference. -/
theorem exists_builds_of_answered {path text reference : String} {unit : Script.Extracted}
    {outcome : Except Failure Processed} (hbuildable : Buildable source options signer path)
    (hload : Loads source path text unit) (hreference : reference ∈ unit.dependencies)
    (h : Answered source (Agrees source options signer) (some path) reference outcome) :
    ∃ q d, UnitSource.locate source reference (some path) = .ok q ∧
      Builds source options signer q d ∧ outcome = .ok d := by
  have requires {q : String} (hq : UnitSource.locate source reference (some path) = .ok q) :
      Requires source path q := ⟨text, unit, hload, reference, hreference, hq⟩
  cases h with
  | lost located =>
      obtain ⟨text', unit', hload', hall⟩ := hbuildable.present path .refl
      obtain ⟨rfl, rfl⟩ := hload.unique hload'
      obtain ⟨r, hr⟩ := hall reference hreference
      rw [hr] at located
      cases located
  | @refused i q walk issued located walks =>
      cases issued
      exact (hbuildable.acyclic path .refl (.head' (requires located) walks.reaches)).elim
  | @shared q outcome located unit =>
      cases outcome with
      | error f => exact (unit (hbuildable.requires (requires located))).elim
      | ok d => exact ⟨q, d, located, unit, rfl⟩

/-- Units hand on that they agree with the recursive build. -/
theorem hereditary_agrees : Hereditary source options signer (Agrees source options signer) where
  unread {path f} read hbuildable := by
    obtain ⟨text, unit, hload, -⟩ := hbuildable.present path .refl
    cases read.symm.trans hload.read
  unextracted {path text f} read extracted hbuildable := by
    obtain ⟨text', unit, hload, -⟩ := hbuildable.present path .refl
    cases read.symm.trans hload.read
    cases extracted.symm.trans hload.extracted
  assembled {path text unit answers} hload hanswers := by
    have hlength : answers.length = unit.dependencies.length := hanswers.length_eq.symm
    cases houtcome : Processed.ofAnswers options signer (some path) text unit answers with
    | ok p =>
        -- All answers are documents, which only units that are built give.
        obtain ⟨lists, hlists, hp⟩ := bind_eq_ok_iff.mp houtcome
        rw [Resolution.conclude_eq_ok_iff hlength] at hlists
        rw [hlists, List.forall₂_map_right_iff] at hanswers
        refine Builds.assemble hload (hanswers.imp fun reference list => ?_) hp
        rintro ⟨outcome, hanswered, heq⟩
        cases outcome with
        | error f => cases heq
        | ok d =>
            cases heq
            cases hanswered with
            | shared located unit => exact ⟨_, d, located, unit, rfl⟩
    | error f =>
        -- Were the unit buildable, no answer would be a failure, and nothing else could go wrong.
        intro hbuildable
        have hall : List.Forall₂ (fun reference answer => ∃ list, (∃ q d,
            UnitSource.locate source reference (some path) = .ok q ∧
            Builds source options signer q d ∧ d.documents = list) ∧ answer = Except.ok list)
            unit.dependencies answers := by
          refine ((List.forall₂_and_left _ _).mpr ⟨fun _ => id, hanswers⟩).imp
            fun reference answer => ?_
          rintro ⟨hreference, outcome, hanswered, rfl⟩
          obtain ⟨q, d, hq, hd, rfl⟩ :=
            exists_builds_of_answered hbuildable hload hreference hanswered
          exact ⟨d.documents, ⟨q, d, hq, hd, rfl⟩, rfl⟩
        obtain ⟨lists, hlists, rfl⟩ := exists_map_eq hall
        have haggregates : Aggregates source path (unit.document :: lists.flatten) := by
          refine Aggregates.assemble hload (hlists.imp fun reference list => ?_)
          rintro ⟨q, d, hq, hd, rfl⟩
          exact ⟨q, hq, hd.aggregates⟩
        obtain ⟨operations, hoperations⟩ := hbuildable.signs path .refl _ haggregates
        obtain ⟨p, hp⟩ : ∃ p, Processed.ofDocuments options signer (some path) text unit.document
            lists = .ok p := ⟨_, ofDocuments_eq_ok_iff.mpr ⟨operations, hoperations, rfl⟩⟩
        have hconclude := (Resolution.conclude_eq_ok_iff hlength).mpr rfl
        cases houtcome.symm.trans (bind_eq_ok_iff.mpr ⟨lists, hconclude, hp⟩)

/-- A call that finds its unit has, once it has ended, the outcome of that unit. -/
theorem outcome_of_callOutcome {P : String → Except Failure Processed → Prop}
    (hP : Hereditary source options signer P) {events : List (Event σ)}
    (hplain : ∀ e ∈ events, e.Plain) {id : Nat} {c : Call} {path : String}
    {outcome : Except Failure Processed}
    (hcall : ((start source options signer).after events).calls[id]? = some c)
    (hlocated : UnitSource.locate source c.reference none = .ok path)
    (hended : ((start source options signer).after events).callOutcome? id = some outcome) :
    P path outcome := by
  cases answered_of_callOutcome hP hplain hcall hended with
  | lost located =>
      rw [hlocated] at located
      cases located
  | refused issued => cases issued
  | shared located unit =>
      cases hlocated.symm.trans located
      exact unit

/-- A unit that requires another one, and that one. -/
def pairSource : MemorySource :=
  ⟨[("q", "exports=require('f')"), ("f", "exports=\x7b'kind':'Document'\x7d")]⟩

end PersistedOps.Session

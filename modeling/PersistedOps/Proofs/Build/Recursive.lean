import Mathlib.Logic.Relation
import PersistedOps.Build.Processed
import PersistedOps.Proofs.Results
import PersistedOps.Source.Memory

/-!
Building one unit after the other. The recursive build of a unit builds each dependency, in the order
in which the unit requires them, and then the unit itself; a bound on the depth makes it total. What a
session computes is measured against it.
-/

namespace PersistedOps.RecursiveBuild

open Relation

variable {σ : Type} [UnitSource σ]

/-- The unit of a path can be read and extracted. -/
structure Loads (source : σ) (path text : String) (unit : Script.Extracted) : Prop where
  read : UnitSource.read source path = .ok text
  extracted : Script.extract (Processed.fileName (some path)) text = .ok unit

theorem Loads.unique {source : σ} {path text text' : String} {unit unit' : Script.Extracted}
    (h : Loads source path text unit) (h' : Loads source path text' unit') :
    text = text' ∧ unit = unit' := by
  obtain ⟨hread, hextract⟩ := h
  obtain ⟨hread', hextract'⟩ := h'
  cases hread.symm.trans hread'
  cases hextract.symm.trans hextract'
  exact ⟨rfl, rfl⟩

/-- One unit requires another: a reference of it is located there. -/
def Requires (source : σ) (a b : String) : Prop :=
  ∃ text unit, Loads source a text unit ∧
    ∃ reference ∈ unit.dependencies, UnitSource.locate source reference (some a) = .ok b

/-- The recursive build of a unit, as deep as a bound allows. -/
def buildWithin (source : σ) (options : Options) (signer : Signer) :
    (depth : Nat) → String → Except Failure Processed
  | 0, _ => .error .unexpected
  | depth + 1, path => do
    let text ← UnitSource.read source path
    let unit ← Script.extract (Processed.fileName (some path)) text
    let answers := unit.dependencies.map fun reference => do
      let dependency ← buildWithin source options signer depth
        (← UnitSource.locate source reference (some path))
      return dependency.documents
    Processed.ofAnswers options signer (some path) text unit answers

/-- The recursive build of a unit succeeds. -/
def Builds (source : σ) (options : Options) (signer : Signer) (path : String) (p : Processed) :
    Prop :=
  ∃ depth, buildWithin source options signer depth path = .ok p

/-- The documents a unit stands for, as deep as a bound allows: its own, then those of its
dependencies in the order in which it requires them. -/
def aggregateWithin (source : σ) : (depth : Nat) → String → Except Failure (List Tree)
  | 0, _ => .error .unexpected
  | depth + 1, path => do
    let text ← UnitSource.read source path
    let unit ← Script.extract (Processed.fileName (some path)) text
    let lists ← unit.dependencies.mapM fun reference => do
      aggregateWithin source depth (← UnitSource.locate source reference (some path))
    return unit.document :: lists.flatten

def Aggregates (source : σ) (path : String) (documents : List Tree) : Prop :=
  ∃ depth, aggregateWithin source depth path = .ok documents

/-- What the build of a unit needs: every unit it reaches is there, and so is every unit that one of
those refers to; none of them requires itself through others; and the operations of each can be
signed. -/
structure Buildable (source : σ) (options : Options) (signer : Signer) (path : String) : Prop where
  present : ∀ q, ReflTransGen (Requires source) path q → ∃ text unit, Loads source q text unit ∧
    ∀ reference ∈ unit.dependencies, ∃ r, UnitSource.locate source reference (some q) = .ok r
  acyclic : ∀ q, ReflTransGen (Requires source) path q → ¬TransGen (Requires source) q q
  signs : ∀ q, ReflTransGen (Requires source) path q → ∀ documents, Aggregates source q documents →
    ∃ operations, SignedOperation.ofDocuments options signer documents = .ok operations

theorem Buildable.requires {source : σ} {options : Options} {signer : Signer} {a b : String}
    (h : Buildable source options signer a) (hab : Requires source a b) :
    Buildable source options signer b where
  present q hq := h.present q (.head hab hq)
  acyclic q hq := h.acyclic q (.head hab hq)
  signs q hq := h.signs q (.head hab hq)

/-! Lists of results -/

theorem map_eq_map_iff {α β γ : Type} {f : α → γ} {g : β → γ} {l : List α} {r : List β} :
    l.map f = r.map g ↔ List.Forall₂ (fun a b => f a = g b) l r := by
  rw [← List.forall₂_eq_eq_eq, List.forall₂_map_left_iff, List.forall₂_map_right_iff]

/-- What holds of each pair from some bound on holds of all pairs from one bound on. -/
theorem exists_bound {α β : Type} {R : Nat → α → β → Prop}
    (hmono : ∀ m n a b, m ≤ n → R m a b → R n a b) {l : List α} {bs : List β}
    (h : List.Forall₂ (fun a b => ∃ n, R n a b) l bs) : ∃ n, List.Forall₂ (R n) l bs := by
  induction h with
  | nil => exact ⟨0, .nil⟩
  | cons hab _ ih =>
      obtain ⟨m, hm⟩ := hab
      obtain ⟨n, hn⟩ := ih
      refine ⟨max m n, .cons ?_ ?_⟩
      · exact hmono _ _ _ _ (Nat.le_max_left m n) hm
      · exact hn.imp fun a b => hmono _ _ a b (Nat.le_max_right m n)

/-! Depth -/

/-- A unit's documents are its own, then those of its dependencies; it is processed when the operations
among them can be signed. -/
theorem ofDocuments_eq_ok_iff {options : Options} {signer : Signer} {path : Option String}
    {source : String} {own : Tree} {resolved : List (List Tree)} {p : Processed} :
    Processed.ofDocuments options signer path source own resolved = .ok p ↔
      ∃ operations, SignedOperation.ofDocuments options signer (own :: resolved.flatten) =
          .ok operations ∧
        p = ⟨path, Script.appendIdentifiers source (operations.map fun o => (o.name, o.identifier)),
          own :: resolved.flatten, operations⟩ := by
  unfold Processed.ofDocuments Merged.aggregate
  rw [bind_eq_ok_iff]
  refine exists_congr fun operations => and_congr Iff.rfl ?_
  constructor
  · rintro ⟨⟩
    rfl
  · rintro rfl
    rfl

theorem buildWithin_succ_eq_ok_iff {source : σ} {options : Options} {signer : Signer} {depth : Nat}
    {path : String} {p : Processed} :
    buildWithin source options signer (depth + 1) path = .ok p ↔
      ∃ text unit lists, Loads source path text unit ∧
        List.Forall₂ (fun reference list => ∃ q d,
          UnitSource.locate source reference (some path) = .ok q ∧
          buildWithin source options signer depth q = .ok d ∧ d.documents = list)
            unit.dependencies lists ∧
        Processed.ofDocuments options signer (some path) text unit.document lists = .ok p := by
  have hanswer (reference : String) (list : List Tree) :
      (do
        let dependency ← buildWithin source options signer depth
          (← UnitSource.locate source reference (some path))
        return dependency.documents) = Except.ok list ↔
      ∃ q d, UnitSource.locate source reference (some path) = .ok q ∧
        buildWithin source options signer depth q = .ok d ∧ d.documents = list := by
    rw [bind_eq_ok_iff]
    refine exists_congr fun q => ?_
    rw [bind_eq_ok_iff]
    constructor
    · rintro ⟨hq, d, hd, heq⟩
      exact ⟨d, hq, hd, Except.ok.inj heq⟩
    · rintro ⟨d, hq, hd, rfl⟩
      exact ⟨hq, d, hd, rfl⟩
  rw [buildWithin, bind_eq_ok_iff]
  constructor
  · rintro ⟨text, hread, h⟩
    obtain ⟨unit, hextract, h⟩ := bind_eq_ok_iff.mp h
    obtain ⟨lists, hlists, h⟩ := bind_eq_ok_iff.mp h
    rw [Resolution.conclude_eq_ok_iff (List.length_map _), map_eq_map_iff] at hlists
    exact ⟨text, unit, lists, ⟨hread, hextract⟩, hlists.imp fun r l => (hanswer r l).mp, h⟩
  · rintro ⟨text, unit, lists, ⟨hread, hextract⟩, hlists, h⟩
    refine ⟨text, hread, bind_eq_ok_iff.mpr ⟨unit, hextract, bind_eq_ok_iff.mpr ⟨lists, ?_, h⟩⟩⟩
    rw [Resolution.conclude_eq_ok_iff (List.length_map _), map_eq_map_iff]
    exact hlists.imp fun r l => (hanswer r l).mpr

theorem aggregateWithin_succ_eq_ok_iff {source : σ} {depth : Nat} {path : String}
    {documents : List Tree} :
    aggregateWithin source (depth + 1) path = .ok documents ↔
      ∃ text unit lists, Loads source path text unit ∧
        List.Forall₂ (fun reference list => ∃ q,
          UnitSource.locate source reference (some path) = .ok q ∧
          aggregateWithin source depth q = .ok list) unit.dependencies lists ∧
        documents = unit.document :: lists.flatten := by
  rw [aggregateWithin, bind_eq_ok_iff]
  constructor
  · rintro ⟨text, hread, h⟩
    obtain ⟨unit, hextract, h⟩ := bind_eq_ok_iff.mp h
    obtain ⟨lists, hlists, h⟩ := bind_eq_ok_iff.mp h
    refine ⟨text, unit, lists, ⟨hread, hextract⟩, ?_, (Except.ok.inj h).symm⟩
    exact (mapM_eq_ok_iff.mp hlists).imp fun _ _ => bind_eq_ok_iff.mp
  · rintro ⟨text, unit, lists, ⟨hread, hextract⟩, hlists, rfl⟩
    refine ⟨text, hread, bind_eq_ok_iff.mpr ⟨unit, hextract, bind_eq_ok_iff.mpr ⟨lists, ?_, rfl⟩⟩⟩
    exact mapM_eq_ok_iff.mpr (hlists.imp fun _ _ => bind_eq_ok_iff.mpr)

theorem buildWithin_mono {source : σ} {options : Options} {signer : Signer} {m n : Nat}
    {path : String} {p : Processed} (h : buildWithin source options signer m path = .ok p)
    (hmn : m ≤ n) : buildWithin source options signer n path = .ok p := by
  induction m generalizing n path p with
  | zero => cases h
  | succ m ih =>
      obtain ⟨n, rfl⟩ := Nat.exists_eq_add_of_lt hmn
      obtain ⟨text, unit, lists, hload, hlists, hp⟩ := buildWithin_succ_eq_ok_iff.mp h
      refine buildWithin_succ_eq_ok_iff.mpr ⟨text, unit, lists, hload, ?_, hp⟩
      refine hlists.imp fun reference list => ?_
      rintro ⟨q, d, hq, hd, hdocuments⟩
      exact ⟨q, d, hq, ih hd (Nat.le_add_right m n), hdocuments⟩

theorem aggregateWithin_mono {source : σ} {m n : Nat} {path : String} {documents : List Tree}
    (h : aggregateWithin source m path = .ok documents) (hmn : m ≤ n) :
    aggregateWithin source n path = .ok documents := by
  induction m generalizing n path documents with
  | zero => cases h
  | succ m ih =>
      obtain ⟨n, rfl⟩ := Nat.exists_eq_add_of_lt hmn
      obtain ⟨text, unit, lists, hload, hlists, hdocuments⟩ := aggregateWithin_succ_eq_ok_iff.mp h
      refine aggregateWithin_succ_eq_ok_iff.mpr ⟨text, unit, lists, hload, ?_, hdocuments⟩
      refine hlists.imp fun reference list => ?_
      rintro ⟨q, hq, hlist⟩
      exact ⟨q, hq, ih hlist (Nat.le_add_right m n)⟩

theorem Builds.unique {source : σ} {options : Options} {signer : Signer} {path : String}
    {p p' : Processed} (h : Builds source options signer path p)
    (h' : Builds source options signer path p') : p = p' := by
  obtain ⟨m, hm⟩ := h
  obtain ⟨n, hn⟩ := h'
  have heq := (buildWithin_mono hm (Nat.le_max_left m n)).symm.trans
    (buildWithin_mono hn (Nat.le_max_right m n))
  exact Except.ok.inj heq

theorem Aggregates.unique {source : σ} {path : String} {ds ds' : List Tree}
    (h : Aggregates source path ds) (h' : Aggregates source path ds') : ds = ds' := by
  obtain ⟨m, hm⟩ := h
  obtain ⟨n, hn⟩ := h'
  have heq := (aggregateWithin_mono hm (Nat.le_max_left m n)).symm.trans
    (aggregateWithin_mono hn (Nat.le_max_right m n))
  exact Except.ok.inj heq

/-! What a build has built -/

/-- A unit is built from the builds of its dependencies. -/
theorem Builds.assemble {source : σ} {options : Options} {signer : Signer} {path text : String}
    {unit : Script.Extracted} {lists : List (List Tree)} {p : Processed}
    (hload : Loads source path text unit)
    (hlists : List.Forall₂ (fun reference list => ∃ q d,
      UnitSource.locate source reference (some path) = .ok q ∧
      Builds source options signer q d ∧ d.documents = list) unit.dependencies lists)
    (hp : Processed.ofDocuments options signer (some path) text unit.document lists = .ok p) :
    Builds source options signer path p := by
  have hbound : ∃ depth, List.Forall₂ (fun reference list => ∃ q d,
      UnitSource.locate source reference (some path) = .ok q ∧
      buildWithin source options signer depth q = .ok d ∧ d.documents = list)
        unit.dependencies lists := by
    refine exists_bound ?_ (hlists.imp fun reference list => ?_)
    · rintro m n reference list hmn ⟨q, d, hq, hd, hdocuments⟩
      exact ⟨q, d, hq, buildWithin_mono hd hmn, hdocuments⟩
    · rintro ⟨q, d, hq, ⟨depth, hd⟩, hdocuments⟩
      exact ⟨depth, q, d, hq, hd, hdocuments⟩
  obtain ⟨depth, hdepth⟩ := hbound
  exact ⟨depth + 1, buildWithin_succ_eq_ok_iff.mpr ⟨text, unit, lists, hload, hdepth, hp⟩⟩

/-- The documents of a unit that is built are its own, then those of its dependencies. -/
theorem aggregateWithin_of_buildWithin {source : σ} {options : Options} {signer : Signer}
    {depth : Nat} {path : String} {p : Processed}
    (h : buildWithin source options signer depth path = .ok p) :
    aggregateWithin source depth path = .ok p.documents := by
  induction depth generalizing path p with
  | zero => cases h
  | succ depth ih =>
      obtain ⟨text, unit, lists, hload, hlists, hp⟩ := buildWithin_succ_eq_ok_iff.mp h
      obtain ⟨operations, -, rfl⟩ := ofDocuments_eq_ok_iff.mp hp
      refine aggregateWithin_succ_eq_ok_iff.mpr ⟨text, unit, lists, hload, ?_, rfl⟩
      refine hlists.imp fun reference list => ?_
      rintro ⟨q, d, hq, hd, rfl⟩
      exact ⟨q, hq, ih hd⟩

theorem Builds.aggregates {source : σ} {options : Options} {signer : Signer} {path : String}
    {p : Processed} (h : Builds source options signer path p) :
    Aggregates source path p.documents := by
  obtain ⟨depth, hdepth⟩ := h
  exact ⟨depth, aggregateWithin_of_buildWithin hdepth⟩

/-- What a unit that is built requires has been built less deep. -/
theorem exists_buildWithin_of_requires {source : σ} {options : Options} {signer : Signer}
    {depth : Nat} {a b : String} {p : Processed}
    (h : buildWithin source options signer depth a = .ok p) (hab : Requires source a b) :
    ∃ depth' < depth, ∃ d, buildWithin source options signer depth' b = .ok d := by
  cases depth with
  | zero => cases h
  | succ depth =>
      obtain ⟨text, unit, lists, hload, hlists, -⟩ := buildWithin_succ_eq_ok_iff.mp h
      obtain ⟨text', unit', hload', reference, hreference, hb⟩ := hab
      obtain ⟨rfl, rfl⟩ := hload.unique hload'
      obtain ⟨list, -, q, d, hq, hd, -⟩ := exists_of_mem_left hlists hreference
      cases hq.symm.trans hb
      exact ⟨depth, Nat.lt_succ_self depth, d, hd⟩

theorem exists_buildWithin_of_reaches {source : σ} {options : Options} {signer : Signer}
    {depth : Nat} {a b : String} {p : Processed}
    (h : buildWithin source options signer depth a = .ok p) (hab : TransGen (Requires source) a b) :
    ∃ depth' < depth, ∃ d, buildWithin source options signer depth' b = .ok d := by
  induction hab with
  | single hab => exact exists_buildWithin_of_requires h hab
  | tail _ hbc ih =>
      obtain ⟨m, hm, d, hd⟩ := ih
      obtain ⟨n, hn, e, he⟩ := exists_buildWithin_of_requires hd hbc
      exact ⟨n, Nat.lt_trans hn hm, e, he⟩

theorem Builds.reaches {source : σ} {options : Options} {signer : Signer} {a b : String}
    {p : Processed} (h : Builds source options signer a p)
    (hab : ReflTransGen (Requires source) a b) : ∃ d, Builds source options signer b d := by
  obtain ⟨depth, hdepth⟩ := h
  rcases ReflTransGen.cases_head_iff.mp hab with rfl | ⟨c, hac, hcb⟩
  · exact ⟨p, depth, hdepth⟩
  · obtain ⟨depth', -, d, hd⟩ := exists_buildWithin_of_reaches hdepth (.head' hac hcb)
    exact ⟨d, depth', hd⟩

end PersistedOps.RecursiveBuild

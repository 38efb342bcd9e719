import Mathlib.Data.List.Chain
import Mathlib.Logic.Relation
import PersistedOps.Build.Session.Waiting

/-!
The search for a chain of waits. Where several paths are awaited, any of them may be looked at first. A
search takes at most one step for each wait and one more; it ends without a chain exactly when the
issuer cannot be reached from the path, and otherwise with a chain of waits.
-/

namespace PersistedOps.Waiting

open Relation

/-- One path awaits another. -/
def Awaits (w : Waiting) (a b : String) : Prop := (a, b) ∈ w

@[simp] theorem mem_awaitedBy {w : Waiting} {a b : String} :
    b ∈ w.awaitedBy a ↔ w.Awaits a b := by
  simp [awaitedBy, Awaits]

/-! ### Walks -/

/-- A walk along waits from one path to another. -/
structure Walk (R : String → String → Prop) (a b : String) (paths : List String) : Prop where
  head : paths.head? = some a
  last : paths.getLast? = some b
  chain : paths.IsChain R

theorem Walk.single {R : String → String → Prop} (a : String) : Walk R a a [a] :=
  ⟨rfl, rfl, .singleton a⟩

theorem Walk.snoc {R : String → String → Prop} {a b c : String} {paths : List String}
    (h : Walk R a b paths) (hbc : R b c) : Walk R a c (paths ++ [c]) where
  head := by
    cases paths with
    | nil => simpa using h.head
    | cons x xs => simpa using h.head
  last := by simp
  chain := by
    refine h.chain.append (.singleton c) ?_
    intro x hx y hy
    rw [h.last] at hx
    cases hx
    cases hy
    exact hbc

theorem Walk.mono {R S : String → String → Prop} (hRS : ∀ a b, R a b → S a b) {a b : String}
    {paths : List String} (h : Walk R a b paths) : Walk S a b paths :=
  ⟨h.head, h.last, h.chain.imp hRS⟩

theorem Walk.reaches {R : String → String → Prop} {a b : String} {paths : List String}
    (h : Walk R a b paths) : ReflTransGen R a b := by
  obtain ⟨head, last, chain⟩ := h
  induction paths generalizing a with
  | nil => cases head
  | cons x xs ih =>
      cases head
      cases xs with
      | nil => cases last; exact .refl
      | cons y ys =>
          rw [List.isChain_cons_cons] at chain
          exact .head chain.1 (ih rfl (by simpa using last) chain.2)

/-! ### What is left to look at -/

/-- The pairs whose first path has not been seen. -/
def unseen (w : Waiting) (seen : List String) : Waiting := w.filter fun e => e.1 ∉ seen

/-- Seeing a new path takes exactly the pairs that leave it away. -/
theorem length_unseen_cons {w : Waiting} {seen : List String} {a : String} (h : a ∉ seen) :
    (w.unseen (a :: seen)).length + (w.awaitedBy a).length = (w.unseen seen).length := by
  induction w with
  | nil => rfl
  | cons e w ih =>
      simp only [unseen, awaitedBy, List.length_map, List.mem_cons, not_or, Bool.decide_and,
        decide_not] at ih ⊢
      by_cases ha : e.1 = a
      · simp [ha, h]
        omega
      · by_cases hs : e.1 ∈ seen
        · simpa [ha, hs] using ih
        · simp [ha, hs]
          omega

/-- A set of paths that waits only for itself. -/
def Closed (w : Waiting) (paths : List String) : Prop :=
  ∀ a ∈ paths, ∀ b, w.Awaits a b → b ∈ paths

theorem Closed.mem_of_reaches {w : Waiting} {paths : List String} (h : w.Closed paths)
    {a b : String} (hab : ReflTransGen w.Awaits a b) (ha : a ∈ paths) : b ∈ paths := by
  induction hab with
  | refl => exact ha
  | tail _ hbc ih => exact h _ ih _ hbc

/-- An answer to the question whether waiting for the path would close a cycle: none where the path does
not lead to the issuer, and else the issuer followed by a walk from the path back to it. -/
structure Answers (w : Waiting) (issuer path : String) (answer : Option (List String)) : Prop where
  none_iff : answer = none ↔ ¬ReflTransGen w.Awaits path issuer
  walk : ∀ chain, answer = some chain →
    ∃ walk, chain = issuer :: walk ∧ Walk w.Awaits path issuer walk

/-! ### Searches -/

/-- A search under way: the pending paths, each with the reversed chain that leads to it, and the paths
seen. -/
structure Search where
  pending : List (String × List String)
  seen : List String

namespace Search

def start (issuer path : String) : Search := ⟨[(path, [path, issuer])], []⟩

/-- What a search does next. The paths that a new path awaits become pending, in any order. -/
inductive Step (w : Waiting) (issuer : String) : Search → Search → Prop
  | pass {current : String} {chain : List String} {pending : List (String × List String)}
      {seen : List String} (other : current ≠ issuer) (known : current ∈ seen) :
      Step w issuer ⟨(current, chain) :: pending, seen⟩ ⟨pending, seen⟩
  | visit {current : String} {chain : List String} {pending : List (String × List String)}
      {seen order : List String} (other : current ≠ issuer) (new : current ∉ seen)
      (awaited : order.Perm (w.awaitedBy current)) :
      Step w issuer ⟨(current, chain) :: pending, seen⟩
        ⟨order.map (fun path => (path, path :: chain)) ++ pending, current :: seen⟩

/-- How a search ends: at the issuer, with the chain that led there, or with nothing pending. -/
inductive Ends (issuer : String) : Search → Option (List String) → Prop
  | found {chain : List String} {pending : List (String × List String)} {seen : List String} :
      Ends issuer ⟨(issuer, chain) :: pending, seen⟩ (some chain.reverse)
  | exhausted {seen : List String} : Ends issuer ⟨[], seen⟩ none

/-- So many steps lead from one search to another. -/
inductive Runs (w : Waiting) (issuer : String) : Nat → Search → Search → Prop
  | refl (s : Search) : Runs w issuer 0 s s
  | next {s t u : Search} {n : Nat} (step : Step w issuer s t) (rest : Runs w issuer n t u) :
      Runs w issuer (n + 1) s u

variable {w : Waiting} {issuer path : String} {s t : Search} {n : Nat}

/-- A search that has not ended goes on. -/
theorem goes_on (w : Waiting) (issuer : String) (s : Search) :
    (∃ t, Step w issuer s t) ∨ ∃ answer, Ends issuer s answer := by
  obtain ⟨_ | ⟨⟨current, chain⟩, pending⟩, seen⟩ := s
  · exact .inr ⟨_, .exhausted⟩
  · by_cases hissuer : current = issuer
    · subst hissuer
      exact .inr ⟨_, .found⟩
    · by_cases hseen : current ∈ seen
      · exact .inl ⟨_, .pass hissuer hseen⟩
      · exact .inl ⟨_, .visit hissuer hseen (.refl _)⟩

/-! ### Termination -/

/-- What a search still has to look at: the pending paths, and the waits of the paths not yet seen. -/
def load (w : Waiting) (s : Search) : Nat := s.pending.length + (w.unseen s.seen).length

/-- Every step looks at one pending path. A new path turns its waits into pending paths. -/
theorem Step.load_eq (h : Step w issuer s t) : s.load w = t.load w + 1 := by
  cases h with
  | pass =>
      simp only [load, List.length_cons]
      omega
  | visit _ new awaited =>
      have hunseen := w.length_unseen_cons new
      have horder := awaited.length_eq
      simp only [load, List.length_cons, List.length_append, List.length_map]
      omega

theorem Runs.load_eq (h : Runs w issuer n s t) : s.load w = t.load w + n := by
  induction h with
  | refl => rfl
  | next step _ ih =>
      rw [step.load_eq, ih]
      omega

theorem load_start (w : Waiting) (issuer path : String) :
    (start issuer path).load w = w.length + 1 := by
  simp [load, start, unseen, Nat.add_comm]

/-! ### What a search knows -/

/-- The path has been seen or is pending. -/
def Knows (s : Search) (a : String) : Prop := a ∈ s.seen ∨ a ∈ s.pending.map Prod.fst

theorem Step.knows {a : String} (h : Step w issuer s t) (ha : s.Knows a) : t.Knows a := by
  cases h with
  | pass _ known =>
      obtain hseen | hpending := ha
      · exact .inl hseen
      · obtain rfl | hpending := List.mem_cons.mp hpending
        · exact .inl known
        · exact .inr hpending
  | visit =>
      obtain hseen | hpending := ha
      · exact .inl (List.mem_cons_of_mem _ hseen)
      · obtain rfl | hpending := List.mem_cons.mp hpending
        · exact .inl List.mem_cons_self
        · refine .inr ?_
          rw [List.map_append]
          exact List.mem_append_right _ hpending

/-- The invariant of a search from a path: the issuer has not been seen, what a seen path awaits is
known, and a walk leads from the path to each pending one. -/
structure Explores (w : Waiting) (issuer path : String) (s : Search) : Prop where
  missed : issuer ∉ s.seen
  begun : s.Knows path
  covered : ∀ a ∈ s.seen, ∀ b, w.Awaits a b → s.Knows b
  led : ∀ e ∈ s.pending, ∃ walk, e.2.reverse = issuer :: walk ∧ Walk w.Awaits path e.1 walk

theorem explores_start (w : Waiting) (issuer path : String) :
    Explores w issuer path (start issuer path) where
  missed := List.not_mem_nil
  begun := .inr List.mem_cons_self
  covered _ ha := absurd ha List.not_mem_nil
  led e he := by
    rw [List.mem_singleton.mp he]
    exact ⟨[path], rfl, .single path⟩

theorem Explores.step (hs : Explores w issuer path s) (h : Step w issuer s t) :
    Explores w issuer path t := by
  have hbegun := h.knows hs.begun
  have hcovered := fun a ha b hab => h.knows (hs.covered a ha b hab)
  cases h with
  | pass =>
      exact ⟨hs.missed, hbegun, hcovered, fun e he => hs.led e (List.mem_cons_of_mem _ he)⟩
  | @visit current chain pending seen order other new awaited =>
      refine ⟨?_, hbegun, fun a ha b hab => ?_, fun e he => ?_⟩
      · intro hissuer
        obtain rfl | hissuer := List.mem_cons.mp hissuer
        · exact other rfl
        · exact hs.missed hissuer
      · obtain rfl | ha := List.mem_cons.mp ha
        · right
          simp [awaited.mem_iff, hab]
        · exact hcovered a ha b hab
      · obtain he | he := List.mem_append.mp he
        · obtain ⟨next, hnext, rfl⟩ := List.mem_map.mp he
          obtain ⟨walk, hchain, hwalk⟩ := hs.led _ List.mem_cons_self
          have hawaits : w.Awaits current next := mem_awaitedBy.mp (awaited.mem_iff.mp hnext)
          exact ⟨walk ++ [next], by simp [hchain], hwalk.snoc hawaits⟩
        · exact hs.led e (List.mem_cons_of_mem _ he)

theorem Runs.explores (h : Runs w issuer n s t) (hs : Explores w issuer path s) :
    Explores w issuer path t := by
  induction h with
  | refl => exact hs
  | next step _ ih => exact ih (hs.step step)

/-- A search that ends without a chain has seen a closed set of paths, and the issuer is not one of
them; one that ends with a chain has walked along it. -/
theorem Explores.answers {answer : Option (List String)} (hs : Explores w issuer path s)
    (h : s.Ends issuer answer) : w.Answers issuer path answer := by
  cases h with
  | found =>
      obtain ⟨walk, hchain, hwalk⟩ := hs.led _ List.mem_cons_self
      refine ⟨⟨nofun, fun hnot => absurd hwalk.reaches hnot⟩, fun chain heq => ?_⟩
      cases heq
      exact ⟨walk, hchain, hwalk⟩
  | @exhausted seen =>
      have hknown : ∀ a, Knows ⟨[], seen⟩ a → a ∈ seen :=
        fun a ha => ha.resolve_right List.not_mem_nil
      have hclosed : w.Closed seen := fun a ha b hab => hknown b (hs.covered a ha b hab)
      refine ⟨⟨fun _ hreach => ?_, fun _ => rfl⟩, nofun⟩
      exact hs.missed (hclosed.mem_of_reaches hreach (hknown path hs.begun))

/-! ### The search with fuel -/

/-- With more fuel than there is to look at, the search ends as one of the searches does. -/
theorem exists_runs_search {fuel : Nat} (hfuel : s.load w < fuel) :
    ∃ n t, Runs w issuer n s t ∧ t.Ends issuer (w.search issuer fuel s.pending s.seen) := by
  induction fuel generalizing s with
  | zero => omega
  | succ fuel ih =>
      have hgoes {t : Search} (h : Step w issuer s t) : ∃ n u, Runs w issuer n s u ∧
          u.Ends issuer (w.search issuer fuel t.pending t.seen) := by
        have hload := h.load_eq
        obtain ⟨n, u, hruns, hends⟩ := ih (s := t) (by omega)
        exact ⟨n + 1, u, .next h hruns, hends⟩
      obtain ⟨_ | ⟨⟨current, chain⟩, pending⟩, seen⟩ := s
      · exact ⟨0, _, .refl _, .exhausted⟩
      · rw [search]
        split
        · rename_i hissuer
          subst hissuer
          exact ⟨0, _, .refl _, .found⟩
        · rename_i hother
          split
          · rename_i hknown
            exact hgoes (.pass hother hknown)
          · rename_i hnew
            have hvisit := hgoes (.visit hother hnew (w.awaitedBy current).reverse_perm)
            rwa [List.map_reverse] at hvisit

theorem exists_runs_cycle? (w : Waiting) (issuer path : String) : ∃ n s,
    Runs w issuer n (start issuer path) s ∧ s.Ends issuer (w.cycle? issuer path) := by
  have hfuel : (start issuer path).load w < w.length + 2 := by
    rw [load_start]
    omega
  exact exists_runs_search hfuel

end Search

theorem answers_cycle? (w : Waiting) (issuer path : String) :
    w.Answers issuer path (w.cycle? issuer path) := by
  obtain ⟨n, s, hruns, hends⟩ := Search.exists_runs_cycle? w issuer path
  exact (hruns.explores (Search.explores_start w issuer path)).answers hends

/-- Where no chain is found, the path does not lead to the issuer. -/
theorem not_reaches_of_cycle?_eq_none {w : Waiting} {issuer path : String}
    (h : w.cycle? issuer path = none) : ¬ReflTransGen w.Awaits path issuer :=
  (answers_cycle? w issuer path).none_iff.mp h

/-- A chain that is found begins with the issuer and the path, goes along waits, and ends with the
issuer. -/
theorem walk_of_cycle?_eq_some {w : Waiting} {issuer path : String} {chain : List String}
    (h : w.cycle? issuer path = some chain) :
    ∃ walk, chain = issuer :: walk ∧ Walk w.Awaits path issuer walk :=
  (answers_cycle? w issuer path).walk chain h

/-- Searches for a chain, whatever they look at first where several paths are awaited. None takes more
steps than there are waits and one; one that cannot take a further step has ended, and its answer is
right: no chain exactly where the path does not lead to the issuer, and else the issuer followed by a
walk along waits from the path back to the issuer. The search with fuel is one of them. -/
theorem searches_conclude (w : Waiting) (issuer path : String) :
    (∀ n s, Search.Runs w issuer n (.start issuer path) s →
      n ≤ w.length + 1 ∧ ((∃ t, Search.Step w issuer s t) ∨ ∃ answer, s.Ends issuer answer) ∧
      ∀ answer, s.Ends issuer answer → w.Answers issuer path answer) ∧
    ∃ n s, Search.Runs w issuer n (.start issuer path) s ∧
      s.Ends issuer (w.cycle? issuer path) := by
  refine ⟨fun n s hruns => ⟨?_, Search.goes_on w issuer s, fun answer hends => ?_⟩,
    Search.exists_runs_cycle? w issuer path⟩
  · have hload := hruns.load_eq
    rw [Search.load_start] at hload
    omega
  · exact (hruns.explores (Search.explores_start w issuer path)).answers hends

/-- A path that awaits the issuer, itself, and another one that awaits both: which chain is found depends
on the order, and that one is found does not. -/
theorem searches_conclude_branching :
    let w : Waiting := [("b", "a"), ("b", "b"), ("b", "c"), ("c", "b"), ("c", "a")]
    ∃ n m s t, Search.Runs w "a" n (.start "a" "b") s ∧ s.Ends "a" (some ["a", "b", "a"]) ∧
      Search.Runs w "a" m (.start "a" "b") t ∧ t.Ends "a" (some ["a", "b", "c", "a"]) ∧
      ReflTransGen w.Awaits "b" "a" ∧ (w.cycle? "a" "b").isSome := by
  intro w
  have hshort : Search.Runs w "a" 1 (.start "a" "b") _ :=
    .next (@Search.Step.visit w _ _ _ _ _ ["a", "b", "c"] (by decide) (by decide) (by decide))
      (.refl _)
  have hlong : Search.Runs w "a" 3 (.start "a" "b") _ :=
    .next (@Search.Step.visit w _ _ _ _ _ ["b", "c", "a"] (by decide) (by decide) (by decide))
      (.next (.pass (by decide) (by decide))
        (.next (@Search.Step.visit w _ _ _ _ _ ["a", "b"] (by decide) (by decide) (by decide))
          (.refl _)))
  obtain ⟨hall, n, s, hruns, hends⟩ := searches_conclude w "a" "b"
  obtain ⟨-, -, hanswer⟩ := hall 1 _ hshort
  have hreach : ReflTransGen w.Awaits "b" "a" := by
    by_contra hnot
    cases (hanswer _ .found).none_iff.mpr hnot
  refine ⟨1, 3, _, _, hshort, .found, hlong, .found, hreach, ?_⟩
  obtain ⟨-, -, hanswer⟩ := hall n s hruns
  rw [Option.isSome_iff_ne_none]
  exact fun hnone => (hanswer _ hends).none_iff.mp hnone hreach

end PersistedOps.Waiting

import PersistedOps.Proofs.Session.Progress
import PersistedOps.Proofs.Session.Recursive

/-!
Units built side by side. In whatever order their tasks take their steps, it is the failure of the call
that is the first to fail that counts; and when none fails, each unit is what the recursive build of it
gives, in the order in which they were asked for.
-/

namespace PersistedOps.Session

open RecursiveBuild

variable {σ : Type}

theorem calls_foldl_addCall (s : Session σ) (references : List String) :
    (references.foldl (fun s reference => s.addCall reference none) s).calls =
      s.calls ++ references.map (⟨·, none⟩) := by
  induction references generalizing s with
  | nil => simp
  | cons reference references ih =>
      rw [List.foldl_cons, ih, addCall, List.map_cons, List.append_assoc]
      rfl

/-- A new session in which units are called for side by side. -/
def called (source : σ) (options : Options) (signer : Signer) (references : List String) : Session σ :=
  references.foldl (fun s reference => s.addCall reference none) (start source options signer)

variable [UnitSource σ]

/-- What units built side by side come to once tasks have taken enough steps, in any order: the failure of
the call that was the first to fail, or all units. -/
inductive Gathers (source : σ) (options : Options) (signer : Signer) (references : List String) :
    Except Failure (List Processed) → Prop
  | failed {work : List (Event σ)} {f : Failure} (steps : ∀ e ∈ work, e.isWork = true)
      (first : ((called source options signer references).after work).firstFailure? = some f) :
      Gathers source options signer references (.error f)
  | built {work : List (Event σ)} {units : List Processed} (steps : ∀ e ∈ work, e.isWork = true)
      (ended : List.Forall₂ (fun id p =>
        ((called source options signer references).after work).callOutcome? id = some (.ok p))
        (List.range references.length) units) :
      Gathers source options signer references (.ok units)

/-- Steps of tasks make no calls. -/
theorem calls_after_work {s : Session σ} (haccount : s.Accounted []) {events : List (Event σ)}
    (h : ∀ e ∈ events, e.isWork = true) : (s.after events).calls = s.calls := by
  refine after_moves (P := fun r => r.calls = s.calls) (A := fun e => e.isWork = true)
    (fun r c he => ?_) (fun r source he => ?_) (fun r job rest r' _ hpick hmove hr => ?_) rfl
    haccount h
  · cases he
  · cases he
  · rw [calls_move hmove, hpick.rest_eq]
    exact hr

variable {source : σ} {options : Options} {signer : Signer} {references : List String}

/-- The calls of units built side by side, and the history that they are built in. -/
theorem exists_after_eq_called (source : σ) (options : Options) (signer : Signer)
    (references : List String) {work : List (Event σ)} (h : ∀ e ∈ work, e.isWork = true) :
    ∃ events : List (Event σ), (∀ e ∈ events, e.Plain) ∧
      (called source options signer references).after work = (start source options signer).after events ∧
      ((start source options signer).after events).calls = references.map (⟨·, none⟩) := by
  let made : List (Event σ) := references.map fun reference => .call ⟨reference, none⟩
  have hmade : called source options signer references = (start source options signer).after made := by
    rw [after, List.foldl_map]
    rfl
  refine ⟨made ++ work, fun e he => ?_, by rw [hmade, after_append], ?_⟩
  · rcases List.mem_append.mp he with he | he
    · obtain ⟨reference, -, rfl⟩ := List.mem_map.mp he
      rfl
    · cases e with
      | work => trivial
      | _ => cases h _ he
  · rw [after_append, calls_after_work (accounted_after source options signer made) h, ← hmade, called,
      calls_foldl_addCall]
    rfl

/-- In whatever order they are built, units built side by side are built as each would be alone. -/
theorem builds_of_gathers {units : List Processed}
    (h : Gathers source options signer references (.ok units)) :
    List.Forall₂ (fun reference p => ∃ path, UnitSource.locate source reference none = .ok path ∧
      Builds source options signer path p) references units := by
  cases h with
  | @built work _ steps ended =>
      obtain ⟨events, hplain, hafter, hcalls⟩ :=
        exists_after_eq_called source options signer references steps
      rw [hafter] at ended
      obtain ⟨hlength, hended⟩ := List.forall₂_iff_get.mp ended
      rw [List.length_range] at hlength
      refine List.forall₂_iff_get.mpr ⟨hlength, fun id hid hunit => ?_⟩
      have houtcome := hended id (by rwa [List.length_range]) hunit
      rw [List.get_eq_getElem, List.getElem_range] at houtcome
      have hcall : ((start source options signer).after events).calls[id]? =
          some ⟨references[id], none⟩ := by
        rw [hcalls, List.getElem?_map, List.getElem?_eq_getElem hid]
        rfl
      cases answered_of_callOutcome hereditary_agrees hplain hcall houtcome with
      | shared located unit => exact ⟨_, located, unit⟩

/-- Taking the steps in the order in which they became ready is one of the orders. -/
theorem gathers_of_buildAll {result : Except Failure (List Processed)}
    (h : (start source options signer).buildAll references = result)
    (hresult : result ≠ .error .unexpected) : Gathers source options signer references result := by
  obtain ⟨work, hwork, hrun⟩ := exists_after_eq_run (references.foldl
    (fun s reference => s.addCall reference none) (start source options signer))
  have hsteps : ∀ e ∈ work, e.isWork = true := fun e he => by rw [hwork e he]; rfl
  obtain ⟨events, -, hafter, hcalls⟩ :=
    exists_after_eq_called source options signer references hsteps
  have hrun' : (references.foldl (fun s reference => s.addCall reference none)
      (start source options signer)).run = (called source options signer references).after work := hrun
  rw [buildAll, hrun'] at h
  split at h
  · next f hfirst =>
    subst h
    exact .failed hsteps hfirst
  · next hnone =>
    rw [hafter, hcalls, List.length_map, ← hafter] at h
    -- No call has failed, so only one that has not ended could give a failure.
    have hok {id : Nat} {f : Failure} (hf : (((called source options signer references).after
        work).callOutcome? id).getD (.error .unexpected) = .error f) : f = .unexpected := by
      cases houtcome : ((called source options signer references).after work).callOutcome? id with
      | none =>
          rw [houtcome] at hf
          cases hf
          rfl
      | some outcome =>
          rw [houtcome, Option.getD_some] at hf
          subst hf
          obtain ⟨front, back, heq, -⟩ := List.lookup_eq_some_iff.mp houtcome
          have hall := List.findSome?_eq_none_iff.mp hnone (id, .error f) (by rw [heq]; simp)
          cases hall
    cases result with
    | error f =>
        obtain ⟨id, -, hf⟩ := exists_of_mapM_eq_error h
        exact (hresult (by rw [hok hf])).elim
    | ok units =>
        refine .built hsteps ((mapM_eq_ok_iff.mp h).imp fun id p hp => ?_)
        cases houtcome : ((called source options signer references).after work).callOutcome? id with
        | none =>
            rw [houtcome] at hp
            cases hp
        | some outcome =>
            rw [houtcome, Option.getD_some] at hp
            rw [hp]

/-- Units built side by side are built as each would be alone. -/
theorem builds_of_buildAll {units : List Processed}
    (h : (start source options signer).buildAll references = .ok units) :
    List.Forall₂ (fun reference p => ∃ path, UnitSource.locate source reference none = .ok path ∧
      Builds source options signer path p) references units :=
  builds_of_gathers (gathers_of_buildAll h nofun)

end PersistedOps.Session

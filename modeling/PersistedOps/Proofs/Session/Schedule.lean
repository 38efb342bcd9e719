import Mathlib.Data.List.Perm.Basic
import PersistedOps.Build.Session

/-!
Sessions under any schedule. A history is a list of events: calls from outside, changes of the source,
and steps of tasks, where at each step any task that is ready may take its own. The order in which
`run` takes jobs is one schedule among them.
-/

namespace PersistedOps

/-- What can happen to a session at any moment. -/
inductive Event (σ : Type) where
  /-- A call is made. -/
  | call (c : Call)
  /-- The source changes. -/
  | change (source : σ)
  /-- A ready task takes its step. The choice counts around the queue, so any number picks one. -/
  | work (choice : Nat)

/-- Events that leave the source as it is, in which all calls are builds or resolve for nobody. -/
def Event.Plain {σ : Type} : Event σ → Prop
  | .call c => c.issuer = none
  | .change _ => False
  | .work _ => True

namespace Session

variable {σ : Type}

/-- The job that a choice picks, with the session without it. -/
def pick? (s : Session σ) (choice : Nat) : Option (Job × Session σ) :=
  let position := choice % s.queue.length
  s.queue[position]?.map fun job => (job, { s with queue := s.queue.eraseIdx position })

def occur [UnitSource σ] (s : Session σ) : Event σ → Session σ
  | .call c => s.addCall c.reference c.issuer
  | .change source => { s with source }
  | .work choice => match s.pick? choice with
    | some (job, rest) => rest.step job
    | none => s

/-- The session after a history. -/
def after [UnitSource σ] (s : Session σ) (events : List (Event σ)) : Session σ :=
  events.foldl occur s

@[simp] theorem after_nil [UnitSource σ] (s : Session σ) : s.after [] = s := rfl

@[simp] theorem after_cons [UnitSource σ] (s : Session σ) (e : Event σ)
    (events : List (Event σ)) : s.after (e :: events) = (s.occur e).after events := rfl

theorem after_append [UnitSource σ] (s : Session σ) (first second : List (Event σ)) :
    s.after (first ++ second) = (s.after first).after second :=
  List.foldl_append

/-- A session that lacks one job of another's queue. -/
structure Picked (s : Session σ) (job : Job) (rest : Session σ) : Prop where
  queue : s.queue.Perm (job :: rest.queue)
  rest_eq : rest = { s with queue := rest.queue }

theorem picked_of_pick? {s rest : Session σ} {choice : Nat} {job : Job}
    (h : s.pick? choice = some (job, rest)) : Picked s job rest := by
  obtain ⟨j, hj, he⟩ := Option.map_eq_some_iff.mp h
  cases he
  obtain ⟨hlt, hget⟩ := List.getElem?_eq_some_iff.mp hj
  refine ⟨?_, rfl⟩
  rw [← hget]
  exact (List.getElem_cons_eraseIdx_perm hlt).symm

theorem pick?_eq_none_iff {s : Session σ} {choice : Nat} :
    s.pick? choice = none ↔ s.queue = [] := by
  rw [pick?, Option.map_eq_none_iff, List.getElem?_eq_none_iff]
  constructor
  · intro h
    by_contra hne
    exact absurd (Nat.mod_lt choice (List.length_pos_iff.mpr hne)) (by omega)
  · intro h
    simp [h]

/-- A property that calls, changes and steps keep holds after every history. -/
theorem after_induction [UnitSource σ] {P : Session σ → Prop} {A : Event σ → Prop}
    (call : ∀ s c, A (.call c) → P s → P (s.addCall c.reference c.issuer))
    (change : ∀ s source, A (.change source) → P s → P { s with source })
    (work : ∀ s job rest, Picked s job rest → P s → P (rest.step job))
    {s : Session σ} (hs : P s) {events : List (Event σ)} (h : ∀ e ∈ events, A e) :
    P (s.after events) := by
  induction events generalizing s with
  | nil => exact hs
  | cons e events ih =>
      refine ih ?_ fun e he => h e (List.mem_cons_of_mem _ he)
      cases e with
      | call c => exact call s c (h _ List.mem_cons_self) hs
      | change source => exact change s source (h _ List.mem_cons_self) hs
      | work choice =>
          rw [occur]
          split
          · rename_i job rest hpick
            exact work s job rest (picked_of_pick? hpick) hs
          · exact hs

/-- Doing the jobs in the order in which they became ready is one of the schedules. -/
theorem exists_after_eq_runFor [UnitSource σ] (s : Session σ) (fuel : Nat) :
    ∃ events, (∀ e ∈ events, e = .work 0) ∧ s.runFor fuel = s.after events := by
  induction fuel generalizing s with
  | zero => exact ⟨[], by simp, rfl⟩
  | succ fuel ih =>
      rw [runFor]
      split
      · exact ⟨[], by simp, rfl⟩
      · rename_i job rest hqueue
        obtain ⟨events, hwork, heq⟩ := ih ({ s with queue := rest }.step job)
        refine ⟨.work 0 :: events, List.forall_mem_cons.mpr ⟨rfl, hwork⟩, ?_⟩
        rw [heq, after_cons]
        simp [occur, pick?, hqueue]

theorem exists_after_eq_run [UnitSource σ] (s : Session σ) :
    ∃ events, (∀ e ∈ events, e = .work 0) ∧ s.run = s.after events :=
  s.exists_after_eq_runFor s.jobBound

end Session

end PersistedOps

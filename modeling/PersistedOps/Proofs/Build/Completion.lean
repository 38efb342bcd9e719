import Mathlib.Data.List.Range
import Mathlib.Data.List.Perm.Subperm
import PersistedOps.Build.Resolution

/-!
Resolutions under any schedule. The calls for all references are queued at once, and a call that has
been begun may end at any moment from then on; what is noted of it waits for its turn behind what is
queued already. Whatever the order in which the calls end, all are begun before the first answer is
noted, and the result is that of the answers by position.
-/

namespace PersistedOps

/-! ### Runs -/

/-- What waits for its turn. -/
inductive Turn where
  /-- The call for a position is begun. -/
  | ask (position : Nat)
  /-- The answer to a position is noted. -/
  | note (position : Nat) (answer : Answer)
  /-- The resolution goes on with all answers. -/
  | resume

/-- A resolution on its way: the turns that are queued, the calls that are begun and have not ended, and
the result. Calls begun, ended and noted are recorded in the order in which that happens. -/
structure Course where
  resolution : Resolution
  queue : List Turn
  asked : List (String × Option String)
  pending : List Nat
  ended : List (Nat × Answer)
  noted : List (Nat × Answer)
  result : Option (Except Failure (List (List Tree)))

/-- What can happen at any moment. -/
inductive Moment where
  /-- The first of the queue takes its turn. -/
  | turn
  /-- A call ends, if it is pending. -/
  | finish (position : Nat) (answer : Answer)

namespace Course

/-- Without references there is nothing to wait for. -/
def start (issuer : Option String) (references : List String) : Course where
  resolution := Resolution.start issuer references
  queue := (List.range references.length).map .ask
  asked := []
  pending := []
  ended := []
  noted := []
  result := if references = [] then some (.ok []) else none

/-- The resolution goes on when the last answer is noted. -/
def take (c : Course) : Turn → Course
  | .ask position =>
    { c with asked := c.asked ++ c.resolution.requests[position]?.toList, pending := c.pending ++ [position] }
  | .note position answer =>
    let resolution := c.resolution.settle position answer
    { c with
      resolution
      noted := c.noted ++ [(position, answer)]
      queue := if resolution.settled?.isSome then c.queue ++ [.resume] else c.queue }
  | .resume =>
    { c with result := c.resolution.settled?.map (Resolution.conclude c.resolution.references) }

def occur (c : Course) : Moment → Course
  | .turn => match c.queue with
    | t :: rest => take { c with queue := rest } t
    | [] => c
  | .finish position answer =>
    if position ∈ c.pending then
      { c with
        pending := c.pending.erase position
        ended := c.ended ++ [(position, answer)]
        queue := c.queue ++ [.note position answer] }
    else c

/-- The course after the first moments of a schedule. -/
def upTo (issuer : Option String) (references : List String) (schedule : Nat → Moment) : Nat → Course
  | 0 => start issuer references
  | n + 1 => (upTo issuer references schedule n).occur (schedule n)

/-- Turns are taken again and again, and every call that has been begun ends. -/
structure Fair (issuer : Option String) (references : List String) (schedule : Nat → Moment) : Prop where
  turns : ∀ n, ∃ m, n ≤ m ∧ schedule m = .turn
  ends : ∀ n, ∀ position ∈ (upTo issuer references schedule n).pending,
    ∃ m answer, n ≤ m ∧ schedule m = .finish position answer

end Course

/-! ### Answers by position -/

namespace Resolution

variable {r : Resolution} {l : List (Nat × Answer)} {p : Nat} {a : Answer}

@[simp] theorem settleAll_nil (r : Resolution) : r.settleAll [] = r := rfl

theorem settleAll_concat (r : Resolution) (l : List (Nat × Answer)) (e : Nat × Answer) :
    r.settleAll (l ++ [e]) = (r.settleAll l).settle e.1 e.2 :=
  List.foldl_concat _ _ _ _

@[simp] theorem references_settleAll (r : Resolution) (l : List (Nat × Answer)) :
    (r.settleAll l).references = r.references := by
  induction l using List.reverseRecOn with
  | nil => rfl
  | append_singleton l e ih => rw [settleAll_concat, settle, ih]

@[simp] theorem requests_settleAll (r : Resolution) (l : List (Nat × Answer)) :
    (r.settleAll l).requests = r.requests := by
  induction l using List.reverseRecOn with
  | nil => rfl
  | append_singleton l e ih => rwa [settleAll_concat, settle, requests]

@[simp] theorem length_answers_settleAll (r : Resolution) (l : List (Nat × Answer)) :
    (r.settleAll l).answers.length = r.answers.length := by
  induction l using List.reverseRecOn with
  | nil => rfl
  | append_singleton l e ih => rw [settleAll_concat, settle, List.length_set, ih]

/-- A position that was not noted is as it was. -/
theorem getElem?_settleAll_of_notMem (h : p ∉ l.map (·.1)) :
    (r.settleAll l).answers[p]? = r.answers[p]? := by
  induction l using List.reverseRecOn with
  | nil => rfl
  | append_singleton l e ih =>
      rw [List.map_append, List.mem_append, not_or] at h
      have hne : e.1 ≠ p := fun heq => h.2 (by simp [heq])
      rw [settleAll_concat, settle, List.getElem?_set_ne hne, ih h.1]

/-- With no position twice, each has the answer that was noted. -/
theorem getElem?_settleAll (hnodup : (l.map (·.1)).Nodup) (h : (p, a) ∈ l) (hp : p < r.answers.length) :
    (r.settleAll l).answers[p]? = some (some a) := by
  induction l using List.reverseRecOn with
  | nil => cases h
  | append_singleton l e ih =>
      rw [List.map_append, List.nodup_append] at hnodup
      obtain ⟨hl, -, hfresh⟩ := hnodup
      rw [settleAll_concat, settle]
      obtain hold | hlast := List.mem_append.mp h
      · have hne : e.1 ≠ p := (hfresh p (List.mem_map_of_mem hold) e.1 (by simp)).symm
        rw [List.getElem?_set_ne hne, ih hl hold]
      · obtain rfl := List.mem_singleton.mp hlast
        rw [List.getElem?_set_self (by simpa using hp)]

/-- The failing positions in order: what was asked for, and why it failed. -/
def failing (references : List String) (answers : List Answer) : List (String × Failure) :=
  (references.zip answers).filterMap fun e => match e.2 with
    | .ok _ => none
    | .error f => some (e.1, f)

theorem failures_eq_failing (references : List String) (answers : List Answer) :
    failures references answers = failing references answers := by
  induction references generalizing answers with
  | nil => rfl
  | cons reference references ih =>
      cases answers with
      | nil => rfl
      | cons answer answers =>
          cases answer with
          | ok documents => exact ih answers
          | error f => exact congrArg ((reference, f) :: ·) (ih answers)

/-- What comes of the answers to all references: all lists of documents in the order of the references,
or one failure that tells every failing position, and whose cause is the first of these. -/
structure ResultOf (references : List String) (answers : List Answer)
    (result : Except Failure (List (List Tree))) : Prop where
  ok : ∀ lists, result = .ok lists ↔ answers = lists.map .ok
  error : ∀ f, result = .error f ↔ failing references answers ≠ [] ∧
    f = .dependencyResolution (failing references answers) references.length
  cause : ∀ f, result = .error f → f.cause? = (failing references answers).head?.map (·.2)

theorem resultOf_conclude {references : List String} {answers : List Answer}
    (h : answers.length = references.length) : ResultOf references answers (conclude references answers) := by
  have herror : ∀ f, conclude references answers = .error f ↔ failing references answers ≠ [] ∧
      f = .dependencyResolution (failing references answers) references.length := by
    intro f
    rw [conclude, ← failures_eq_failing]
    cases failures references answers <;> simp [eq_comm]
  refine ⟨fun lists => conclude_eq_ok_iff h, herror, fun f hf => ?_⟩
  obtain ⟨hne, rfl⟩ := (herror f).mp hf
  obtain ⟨first, rest, hfirst⟩ := List.exists_cons_of_ne_nil hne
  rw [hfirst]
  rfl

/-- All answers are there when each position was noted. -/
theorem isSome_settled?_settleAll {issuer : Option String} {references : List String}
    (hnodup : (l.map (·.1)).Nodup) (hlt : ∀ q ∈ l.map (·.1), q < references.length) :
    ((start issuer references).settleAll l).settled?.isSome ↔ l.length = references.length := by
  have hsize : (start issuer references).answers.length = references.length := List.length_map _
  have hsub : (l.map (·.1)).Subperm (List.range references.length) :=
    List.subperm_of_subset hnodup fun q hq => List.mem_range.mpr (hlt q hq)
  rw [Option.isSome_iff_ne_none, Ne, settled?_eq_none_iff]
  constructor
  · intro hall
    -- Each position below the length was noted, since else its answer would be missing.
    have hmem : ∀ q ∈ List.range references.length, q ∈ l.map (·.1) := by
      intro q hq
      by_contra hnone
      refine hall (List.mem_of_getElem? (i := q) ?_)
      rw [getElem?_settleAll_of_notMem hnone]
      simp [start, List.mem_range.mp hq]
    have hle := (List.subperm_of_subset List.nodup_range hmem).length_le
    have hge := hsub.length_le
    simp only [List.length_range, List.length_map] at hle hge
    omega
  · intro hlength hnone
    obtain ⟨q, hq, hget⟩ := List.getElem_of_mem hnone
    have hbound : q < references.length := by simpa [hsize] using hq
    have hperm : (l.map (·.1)).Perm (List.range references.length) :=
      hsub.perm_of_length_le (by simp [hlength])
    obtain ⟨e, he, rfl⟩ := List.mem_map.mp (hperm.mem_iff.mpr (List.mem_range.mpr hbound))
    have hanswer := getElem?_settleAll (r := start issuer references) hnodup he (hsize ▸ hbound)
    rw [List.getElem?_eq_getElem hq, hget] at hanswer
    cases hanswer

end Resolution

namespace Course

variable {issuer : Option String} {references : List String} {c : Course} {k : Nat}
  {waiting : List (Nat × Answer)} {schedule : Nat → Moment}

/-! ### One moment -/

/-- The turn that is left when all answers are noted. -/
def resumption (references : List String) (noted : List (Nat × Answer))
    (result : Option (Except Failure (List (List Tree)))) : List Turn :=
  if noted.length = references.length ∧ result.isNone then [.resume] else []

theorem resumption_of_lt {noted : List (Nat × Answer)} (h : noted.length < references.length)
    (result : Option (Except Failure (List (List Tree)))) : resumption references noted result = [] := by
  rw [resumption, if_neg (by omega)]

/-- How much of a course is done: calls begun, ended and noted, and the resolution itself. -/
def progress (c : Course) : Nat :=
  c.asked.length + c.ended.length + c.noted.length + if c.result.isSome then 1 else 0

/-- What holds of a course of which some calls are begun and some answers wait to be noted. The queue is
told: first the calls that are left, then the answers, then the resolution. -/
structure Kept (issuer : Option String) (references : List String) (c : Course) (k : Nat)
    (waiting : List (Nat × Answer)) : Prop where
  le : k ≤ references.length
  queue : c.queue = ((List.range references.length).drop k).map .ask
    ++ waiting.map (fun e => .note e.1 e.2) ++ resumption references c.noted c.result
  asked : c.asked = (Resolution.start issuer references).requests.take k
  calls : (c.pending ++ c.ended.map (·.1)).Perm (List.range k)
  ended : c.ended = c.noted ++ waiting
  noted : c.noted ≠ [] → k = references.length
  resolution : c.resolution = (Resolution.start issuer references).settleAll c.noted
  result : ∀ result, c.result = some result → c.noted.length = references.length ∧
    c.resolution.settled?.map (Resolution.conclude references) = some result

theorem kept_start (issuer : Option String) (references : List String) :
    Kept issuer references (start issuer references) 0 [] where
  le := Nat.zero_le _
  queue := by
    have hnone : resumption references [] (start issuer references).result = [] := by
      cases references with
      | nil => rfl
      | cons => rfl
    show _ = _ ++ resumption references [] (start issuer references).result
    rw [hnone]
    simp [start]
  asked := by simp [start]
  calls := .refl _
  ended := rfl
  noted h := absurd rfl h
  resolution := rfl
  result result h := by
    by_cases hnil : references = []
    · subst hnil
      exact ⟨rfl, h⟩
    · simp [start, hnil] at h

namespace Kept

variable (h : Kept issuer references c k waiting)

include h

theorem length_calls : c.pending.length + c.ended.length = k := by
  simpa using h.calls.length_eq

theorem nodup_ended : (c.ended.map (·.1)).Nodup :=
  (List.nodup_append.mp (h.calls.nodup_iff.mpr List.nodup_range)).2.1

theorem lt_of_ended {p : Nat} (hp : p ∈ c.ended.map (·.1)) : p < references.length :=
  Nat.lt_of_lt_of_le (List.mem_range.mp (h.calls.subset (List.mem_append_right _ hp))) h.le

/-- With a call pending or an answer waiting, the resolution cannot go on yet. -/
theorem not_complete (hleft : c.pending ≠ [] ∨ waiting ≠ []) : c.noted.length < references.length := by
  have hcalls := h.length_calls
  have hle := h.le
  rw [h.ended, List.length_append] at hcalls
  obtain hp | hw := hleft
  · have := List.length_pos_iff.mpr hp
    omega
  · have := List.length_pos_iff.mpr hw
    omega

theorem result_eq_none (hleft : c.noted.length < references.length) : c.result = none := by
  by_contra hne
  obtain ⟨result, hresult⟩ := Option.ne_none_iff_exists'.mp hne
  exact absurd (h.result result hresult).1 (by omega)

/-- A call that ends is noted behind all that is queued. -/
theorem finish {p : Nat} (a : Answer) (hp : p ∈ c.pending) :
    Kept issuer references (c.occur (.finish p a)) k (waiting ++ [(p, a)]) ∧
      (c.occur (.finish p a)).progress = c.progress + 1 := by
  have hleft := h.not_complete (.inl (List.ne_nil_of_mem hp))
  have hnone := resumption_of_lt hleft c.result
  rw [occur, if_pos hp]
  refine ⟨{ le := h.le, queue := ?_, asked := h.asked, calls := ?_, ended := ?_, noted := h.noted,
            resolution := h.resolution, result := h.result }, ?_⟩
  · show c.queue ++ [.note p a] = _ ++ resumption references c.noted c.result
    rw [h.queue, hnone]
    simp
  · show (c.pending.erase p ++ (c.ended ++ [(p, a)]).map (·.1)).Perm _
    refine List.Perm.trans ?_ h.calls
    rw [List.map_append, ← List.append_assoc]
    refine List.perm_append_comm.trans ?_
    exact (List.perm_cons_erase hp).symm.append_right (c.ended.map (·.1))
  · show c.ended ++ _ = c.noted ++ _
    rw [h.ended, List.append_assoc]
  · show c.asked.length + (c.ended ++ [(p, a)]).length + c.noted.length
      + (if c.result.isSome then 1 else 0) = _
    rw [List.length_append, List.length_singleton, progress]
    omega

/-- The next call is begun. All calls stand in the queue before any answer does. -/
theorem ask (hk : k < references.length) : Kept issuer references (c.occur .turn) (k + 1) waiting ∧
    (c.occur .turn).progress = c.progress + 1 := by
  have hfirst : c.noted = [] := by
    by_contra hne
    exact absurd (h.noted hne) (by omega)
  have hnone : c.noted.length < references.length := by
    rw [hfirst]
    exact Nat.lt_of_le_of_lt (Nat.zero_le k) hk
  have hqueue : c.queue = .ask k :: (((List.range references.length).drop (k + 1)).map .ask
      ++ waiting.map (fun e => .note e.1 e.2)) := by
    rw [h.queue, resumption_of_lt hnone, List.drop_eq_getElem_cons (by simpa using hk), List.getElem_range]
    simp
  have hrequest : c.resolution.requests[k]? = (Resolution.start issuer references).requests[k]? := by
    rw [h.resolution, Resolution.requests_settleAll]
  rw [occur, hqueue]
  refine ⟨{ le := hk, queue := ?_, asked := ?_, calls := ?_, ended := h.ended,
            noted := fun hne => absurd hfirst hne, resolution := h.resolution, result := h.result }, ?_⟩
  · show _ = _ ++ resumption references c.noted c.result
    rw [resumption_of_lt hnone, List.append_nil]
    rfl
  · show c.asked ++ c.resolution.requests[k]?.toList = _
    rw [h.asked, hrequest, List.take_add_one]
  · show ((c.pending ++ [k]) ++ c.ended.map (·.1)).Perm _
    rw [List.range_succ, List.append_assoc]
    have hswap : ([k] ++ c.ended.map (·.1)).Perm (c.ended.map (·.1) ++ [k]) := List.perm_append_comm
    refine (hswap.append_left c.pending).trans ?_
    rw [← List.append_assoc]
    exact h.calls.append_right [k]
  · have hone : (c.resolution.requests[k]?.toList).length = 1 := by
      have hlt : k < (Resolution.start issuer references).requests.length := by
        simpa [Resolution.requests, Resolution.start] using hk
      rw [hrequest, List.getElem?_eq_getElem hlt]
      rfl
    show (c.asked ++ _).length + c.ended.length + c.noted.length + (if c.result.isSome then 1 else 0) = _
    rw [List.length_append, hone, progress]
    omega

end Kept

/-- The next answer is noted, and with the last one the resolution can go on. -/
theorem Kept.note {e : Nat × Answer} (h : Kept issuer references c references.length (e :: waiting)) :
    Kept issuer references (c.occur .turn) references.length waiting ∧
      (c.occur .turn).progress = c.progress + 1 := by
  have hleft := h.not_complete (.inr (List.cons_ne_nil _ _))
  have hqueue : c.queue = .note e.1 e.2 :: waiting.map (fun e => .note e.1 e.2) := by
    rw [h.queue, resumption_of_lt hleft, List.drop_eq_nil_of_le (by simp)]
    simp
  have hended : c.ended = (c.noted ++ [e]) ++ waiting := by rw [h.ended, List.append_cons]
  have hsub : ((c.noted ++ [e]).map (·.1)).Sublist (c.ended.map (·.1)) := by
    rw [hended]
    exact (List.sublist_append_left _ _).map _
  have hresolution : c.resolution.settle e.1 e.2
      = (Resolution.start issuer references).settleAll (c.noted ++ [e]) := by
    rw [h.resolution, Resolution.settleAll_concat]
  have hresult := h.result_eq_none hleft
  have hsettled : ((Resolution.start issuer references).settleAll (c.noted ++ [e])).settled?.isSome
      ↔ (c.noted ++ [e]).length = references.length :=
    Resolution.isSome_settled?_settleAll (h.nodup_ended.sublist hsub)
      fun q hq => h.lt_of_ended (hsub.subset hq)
  rw [occur, hqueue]
  refine ⟨{ le := h.le, queue := ?_, asked := h.asked, calls := h.calls, ended := hended,
            noted := fun _ => rfl, resolution := hresolution, result := fun result hsome => ?_ }, ?_⟩
  · show (if (c.resolution.settle e.1 e.2).settled?.isSome then _ else _) =
      _ ++ resumption references (c.noted ++ [e]) c.result
    rw [hresolution, resumption, hresult, List.drop_eq_nil_of_le (by simp)]
    by_cases hall : (c.noted ++ [e]).length = references.length
    · rw [if_pos (hsettled.mpr hall), if_pos ⟨hall, rfl⟩]
      simp
    · rw [if_neg (mt hsettled.mp hall), if_neg fun h => hall h.1]
      simp
  · exact absurd (hresult.symm.trans hsome) (by simp)
  · show c.asked.length + c.ended.length + (c.noted ++ [e]).length
      + (if c.result.isSome then 1 else 0) = _
    rw [List.length_append, List.length_singleton, progress]
    omega

/-- The resolution goes on with all answers. -/
theorem Kept.resume (h : Kept issuer references c references.length []) (hresult : c.result = none)
    (hall : c.noted.length = references.length) :
    Kept issuer references (c.occur .turn) references.length [] ∧
      (c.occur .turn).progress = c.progress + 1 := by
  have hqueue : c.queue = [.resume] := by
    rw [h.queue, resumption, if_pos ⟨hall, by rw [hresult]; rfl⟩, List.drop_eq_nil_of_le (by simp)]
    rfl
  have hended : c.ended = c.noted := by rw [h.ended, List.append_nil]
  have hsettled : c.resolution.settled?.isSome := by
    rw [h.resolution]
    exact (Resolution.isSome_settled?_settleAll (hended ▸ h.nodup_ended)
      fun q hq => h.lt_of_ended (hended ▸ hq)).mpr hall
  obtain ⟨answers, hanswers⟩ := Option.isSome_iff_exists.mp hsettled
  have hreferences : c.resolution.references = references := by
    rw [h.resolution, Resolution.references_settleAll]
    rfl
  rw [occur, hqueue]
  have hdone : (c.resolution.settled?.map (Resolution.conclude c.resolution.references))
      = some (Resolution.conclude references answers) := by rw [hanswers, hreferences]; rfl
  refine ⟨{ le := h.le, queue := ?_, asked := h.asked, calls := h.calls, ended := h.ended, noted := h.noted,
            resolution := h.resolution, result := fun result hsome => ⟨hall, ?_⟩ }, ?_⟩
  · show [] = _ ++ resumption references c.noted (c.resolution.settled?.map _)
    rw [hdone, resumption, if_neg (by simp), List.drop_eq_nil_of_le (by simp)]
    rfl
  · rw [← hsome]
    show c.resolution.settled?.map _ = c.resolution.settled?.map _
    rw [hreferences]
  · show _ + _ + _ + (if (c.resolution.settled?.map _).isSome then 1 else 0) = _
    rw [hdone, progress, hresult]
    rfl

/-! ### All moments -/

/-- A course that can be told, one step further on than another. -/
def Advances (issuer : Option String) (references : List String) (c d : Course) : Prop :=
  (∃ k waiting, Kept issuer references d k waiting) ∧ d.progress = c.progress + 1

/-- Until the result is there, the first in the queue advances the course. -/
theorem Kept.turn (h : Kept issuer references c k waiting) (hqueue : c.queue ≠ []) :
    Advances issuer references c (c.occur .turn) := by
  obtain hk | rfl := Nat.lt_or_eq_of_le h.le
  · obtain ⟨hkept, hprogress⟩ := h.ask hk
    exact ⟨⟨_, _, hkept⟩, hprogress⟩
  · cases waiting with
    | cons e waiting =>
        obtain ⟨hkept, hprogress⟩ := h.note
        exact ⟨⟨_, _, hkept⟩, hprogress⟩
    | nil =>
        -- Nothing but the resolution itself can be in the queue.
        have hresume : c.noted.length = references.length ∧ c.result.isNone := by
          by_contra hnot
          apply hqueue
          rw [h.queue, resumption, if_neg hnot, List.drop_eq_nil_of_le (by simp)]
          rfl
        obtain ⟨hkept, hprogress⟩ := h.resume (Option.isNone_iff_eq_none.mp hresume.2) hresume.1
        exact ⟨⟨_, _, hkept⟩, hprogress⟩

/-- A moment leaves a course as it is or advances it. -/
theorem Kept.occur (h : Kept issuer references c k waiting) (m : Moment) :
    c.occur m = c ∨ Advances issuer references c (c.occur m) := by
  cases m with
  | turn =>
      by_cases hqueue : c.queue = []
      · exact .inl (by rw [Course.occur, hqueue])
      · exact .inr (h.turn hqueue)
  | finish p a =>
      by_cases hp : p ∈ c.pending
      · obtain ⟨hkept, hprogress⟩ := h.finish a hp
        exact .inr ⟨⟨_, _, hkept⟩, hprogress⟩
      · exact .inl (if_neg hp)

/-- Where nothing is left to happen the result is there. -/
theorem Kept.exists_result (h : Kept issuer references c k waiting) (hqueue : c.queue = [])
    (hpending : c.pending = []) : ∃ result, c.result = some result := by
  rw [h.queue, List.append_eq_nil_iff, List.append_eq_nil_iff, List.map_eq_nil_iff, List.map_eq_nil_iff,
    List.drop_eq_nil_iff, List.length_range] at hqueue
  obtain ⟨⟨hk, rfl⟩, hresume⟩ := hqueue
  have hlength : c.noted.length = references.length := by
    have hcalls := h.length_calls
    rw [h.ended, hpending] at hcalls
    simp only [List.length_nil, List.append_nil] at hcalls
    have hle := h.le
    omega
  by_contra hnone
  have hresult : c.result = none := by simpa [Option.eq_none_iff_forall_ne_some] using hnone
  rw [resumption, if_pos ⟨hlength, by rw [hresult]; rfl⟩] at hresume
  cases hresume

theorem kept_upTo (issuer : Option String) (references : List String) (schedule : Nat → Moment) (n : Nat) :
    ∃ k waiting, Kept issuer references (upTo issuer references schedule n) k waiting := by
  induction n with
  | zero => exact ⟨0, [], kept_start issuer references⟩
  | succ n ih =>
      obtain ⟨k, waiting, h⟩ := ih
      obtain hsame | hadvances := h.occur (schedule n)
      · exact ⟨k, waiting, by rwa [upTo, hsame]⟩
      · exact hadvances.1

/-- Later on a course is as it was, or further. -/
theorem upTo_le {n m : Nat} (hnm : n ≤ m) :
    upTo issuer references schedule m = upTo issuer references schedule n ∨
      (upTo issuer references schedule n).progress < (upTo issuer references schedule m).progress := by
  induction m, hnm using Nat.le_induction with
  | base => exact .inl rfl
  | succ m _ ih =>
      obtain ⟨k, waiting, h⟩ := kept_upTo issuer references schedule m
      obtain hsame | ⟨-, hprogress⟩ := h.occur (schedule m)
      · rwa [upTo, hsame]
      · right
        rw [upTo, hprogress]
        obtain heq | hlt := ih
        · rw [heq]
          exact Nat.lt_succ_self _
        · exact Nat.lt_succ_of_lt hlt

theorem Kept.progress_le (h : Kept issuer references c k waiting) :
    c.progress ≤ 3 * references.length + 1 := by
  have hcalls := h.length_calls
  have hle := h.le
  have hasked : c.asked.length ≤ k := by
    rw [h.asked]
    exact List.length_take_le _ _
  have hnoted : c.noted.length ≤ c.ended.length := by
    rw [h.ended, List.length_append]
    exact Nat.le_add_right _ _
  rw [progress]
  split <;> omega

/-- A moment of the schedule advances what it can advance, or the course is further by then. -/
theorem exists_progress {n m : Nat} (hnm : n ≤ m)
    (hadvances : Advances issuer references (upTo issuer references schedule n)
      ((upTo issuer references schedule n).occur (schedule m))) :
    ∃ m', (upTo issuer references schedule n).progress < (upTo issuer references schedule m').progress := by
  have hle : upTo issuer references schedule m = upTo issuer references schedule n ∨
      (upTo issuer references schedule n).progress < (upTo issuer references schedule m).progress := upTo_le hnm
  obtain hsame | hlt := hle
  · refine ⟨m + 1, ?_⟩
    rw [upTo, hsame, hadvances.2]
    exact Nat.lt_succ_self _
  · exact ⟨m, hlt⟩

/-- Without a result something is left to happen, and under a fair schedule it does. -/
theorem Fair.exists_progress (fair : Fair issuer references schedule) (n : Nat)
    (hnone : (upTo issuer references schedule n).result = none) :
    ∃ m, (upTo issuer references schedule n).progress < (upTo issuer references schedule m).progress := by
  obtain ⟨k, waiting, h⟩ := kept_upTo issuer references schedule n
  by_cases hqueue : (upTo issuer references schedule n).queue = []
  · by_cases hpending : (upTo issuer references schedule n).pending = []
    · obtain ⟨result, hresult⟩ := h.exists_result hqueue hpending
      cases hnone.symm.trans hresult
    · obtain ⟨p, hp⟩ := List.exists_mem_of_ne_nil _ hpending
      obtain ⟨m, a, hnm, hfinish⟩ := fair.ends n p hp
      obtain ⟨hkept, hprogress⟩ := h.finish a hp
      exact Course.exists_progress hnm (hfinish ▸ ⟨⟨_, _, hkept⟩, hprogress⟩)
  · obtain ⟨m, hnm, hturn⟩ := fair.turns n
    exact Course.exists_progress hnm (hturn ▸ h.turn hqueue)

/-- A fair schedule brings the result. -/
theorem Fair.exists_result (fair : Fair issuer references schedule) :
    ∃ n result, (upTo issuer references schedule n).result = some result := by
  by_contra hnever
  have hnone : ∀ n, (upTo issuer references schedule n).result = none := fun n => by
    by_contra hne
    obtain ⟨result, hresult⟩ := Option.ne_none_iff_exists'.mp hne
    exact hnever ⟨n, result, hresult⟩
  have hgrows : ∀ b, ∃ n, b ≤ (upTo issuer references schedule n).progress := by
    intro b
    induction b with
    | zero => exact ⟨0, Nat.zero_le _⟩
    | succ b ih =>
        obtain ⟨n, hn⟩ := ih
        obtain ⟨m, hm⟩ := fair.exists_progress n (hnone n)
        exact ⟨m, by omega⟩
  obtain ⟨n, hn⟩ := hgrows (3 * references.length + 2)
  obtain ⟨k, waiting, h⟩ := kept_upTo issuer references schedule n
  have hle := h.progress_le
  omega

/-! ### Results -/

/-- What has happened when the result is there. -/
structure Finished (issuer : Option String) (references : List String) (c : Course) : Prop where
  queue : c.queue = []
  asked : c.asked = references.map fun reference => (reference, issuer)
  pending : c.pending = []
  ended : (c.ended.map (·.1)).Perm (List.range references.length)
  noted : c.noted = c.ended

theorem Kept.finished (h : Kept issuer references c k waiting)
    {result : Except Failure (List (List Tree))} (hresult : c.result = some result) :
    Finished issuer references c := by
  obtain ⟨hall, -⟩ := h.result result hresult
  have hpending : c.pending = [] := by
    by_contra hne
    exact absurd (h.not_complete (.inl hne)) (by omega)
  have hwaiting : waiting = [] := by
    by_contra hne
    exact absurd (h.not_complete (.inr hne)) (by omega)
  subst hwaiting
  have hended : c.ended = c.noted := by rw [h.ended, List.append_nil]
  have hk : k = references.length := by
    have hcalls := h.length_calls
    rw [hpending, hended, hall] at hcalls
    simpa using hcalls.symm
  subst hk
  refine ⟨?_, ?_, hpending, ?_, hended.symm⟩
  · rw [h.queue, resumption, hresult, if_neg (by simp), List.drop_eq_nil_of_le (by simp)]
    rfl
  · rw [h.asked, List.take_of_length_le (by simp [Resolution.requests, Resolution.start])]
    rfl
  · have hcalls := h.calls
    rwa [hpending, List.nil_append] at hcalls

/-- When the result is there nothing happens any more. -/
theorem Finished.occur (h : Finished issuer references c) (m : Moment) : c.occur m = c := by
  cases m with
  | turn => rw [Course.occur, h.queue]
  | finish p a => rw [Course.occur, h.pending, if_neg List.not_mem_nil]

theorem upTo_of_finished {n m : Nat} (h : Finished issuer references (upTo issuer references schedule n))
    (hnm : n ≤ m) : upTo issuer references schedule m = upTo issuer references schedule n := by
  induction m, hnm using Nat.le_induction with
  | base => rfl
  | succ m _ ih => rw [upTo, ih, h.occur]

theorem ended_occur (c : Course) (m : Moment) : c.ended <+: (c.occur m).ended := by
  cases m with
  | turn =>
      rw [occur]
      split
      · rename_i t _ _
        cases t <;> exact List.prefix_rfl
      · exact List.prefix_rfl
  | finish p a =>
      rw [occur]
      split
      · exact List.prefix_append _ _
      · exact List.prefix_rfl

theorem ended_upTo {n m : Nat} (hnm : n ≤ m) :
    (upTo issuer references schedule n).ended <+: (upTo issuer references schedule m).ended := by
  induction m, hnm using Nat.le_induction with
  | base => exact List.prefix_rfl
  | succ m _ ih => exact ih.trans (ended_occur _ _)

/-- The calls of a run end with these answers, by position. -/
structure Gives (issuer : Option String) (references : List String) (schedule : Nat → Moment)
    (answers : List Answer) : Prop where
  length : answers.length = references.length
  ends : ∀ n, ∀ e ∈ (upTo issuer references schedule n).ended, answers[e.1]? = some e.2

/-- The answers tell the result. -/
theorem Kept.result_eq (h : Kept issuer references c k waiting)
    {result : Except Failure (List (List Tree))} (hresult : c.result = some result) :
    ∃ answers : List Answer, answers.length = references.length ∧
      (∀ e ∈ c.ended, answers[e.1]? = some e.2) ∧ result = Resolution.conclude references answers := by
  have hfinished := h.finished hresult
  obtain ⟨-, hconclude⟩ := h.result result hresult
  obtain ⟨answers, hanswers, rfl⟩ := Option.map_eq_some_iff.mp hconclude
  rw [Resolution.settled?_eq_some_iff, h.resolution, hfinished.noted] at hanswers
  refine ⟨answers, ?_, fun e he => ?_, rfl⟩
  · have hlength := congrArg List.length hanswers
    simpa [Resolution.start] using hlength.symm
  · have hbound := h.lt_of_ended (List.mem_map_of_mem he)
    have hanswer := Resolution.getElem?_settleAll (r := Resolution.start issuer references) h.nodup_ended he
      (by simpa [Resolution.start] using hbound)
    rw [hanswers, List.getElem?_map, Option.map_eq_some_iff] at hanswer
    obtain ⟨a, ha, heq⟩ := hanswer
    cases heq
    exact ha

/-- Where calls end once for each position, there is one list of their answers. -/
theorem Finished.answers_unique (h : Finished issuer references c) {answers answers' : List Answer}
    (hlength : answers.length = references.length) (hends : ∀ e ∈ c.ended, answers[e.1]? = some e.2)
    (hlength' : answers'.length = references.length) (hends' : ∀ e ∈ c.ended, answers'[e.1]? = some e.2) :
    answers = answers' := by
  refine List.ext_getElem? fun p => ?_
  by_cases hp : p < references.length
  · obtain ⟨e, he, rfl⟩ := List.mem_map.mp (h.ended.mem_iff.mpr (List.mem_range.mpr hp))
    rw [hends e he, hends' e he]
  · rw [List.getElem?_eq_none (by omega), List.getElem?_eq_none (by omega)]

/-- What has ended when the result is there is all that ends. -/
theorem Finished.gives {n : Nat} (h : Finished issuer references (upTo issuer references schedule n))
    {answers : List Answer} (hlength : answers.length = references.length)
    (hends : ∀ e ∈ (upTo issuer references schedule n).ended, answers[e.1]? = some e.2) :
    Gives issuer references schedule answers := by
  refine ⟨hlength, fun m e he => ?_⟩
  obtain hnm | hmn := Nat.le_total n m
  · rw [upTo_of_finished h hnm] at he
    exact hends e he
  · exact hends e ((ended_upTo hmn).subset he)

/-- From some moment on the result is there, with every call begun in its turn and ended. -/
def EndsWith (issuer : Option String) (references : List String) (schedule : Nat → Moment)
    (result : Except Failure (List (List Tree))) : Prop :=
  ∃ n, ∀ m, n ≤ m → (upTo issuer references schedule m).result = some result ∧
    Finished issuer references (upTo issuer references schedule m)

theorem Fair.endsWith (fair : Fair issuer references schedule) :
    ∃ answers, Gives issuer references schedule answers ∧
      EndsWith issuer references schedule (Resolution.conclude references answers) := by
  obtain ⟨n, result, hresult⟩ := fair.exists_result
  obtain ⟨k, waiting, h⟩ := kept_upTo issuer references schedule n
  have hfinished := h.finished hresult
  obtain ⟨answers, hlength, hends, rfl⟩ := h.result_eq hresult
  refine ⟨answers, hfinished.gives hlength hends, n, fun m hnm => ?_⟩
  rw [upTo_of_finished hfinished hnm]
  exact ⟨hresult, hfinished⟩

/-- Under every fair schedule the calls are made once for each position and in order, all of them before
the first answer is noted; each ends, and the result is that of their answers by position. A schedule
under which they end otherwise but with these answers has the same result. -/
theorem ends_by_position (fair : Fair issuer references schedule) :
    (∀ n, let c := upTo issuer references schedule n
      c.asked <+: references.map (fun reference => (reference, issuer)) ∧
        (c.noted ≠ [] → c.asked = references.map fun reference => (reference, issuer))) ∧
    ∃ answers result, Gives issuer references schedule answers ∧
      Resolution.ResultOf references answers result ∧ EndsWith issuer references schedule result ∧
      ∀ other, Fair issuer references other → Gives issuer references other answers →
        EndsWith issuer references other result := by
  constructor
  · intro n
    obtain ⟨k, waiting, h⟩ := kept_upTo issuer references schedule n
    refine ⟨h.asked ▸ List.take_prefix _ _, fun hnoted => ?_⟩
    rw [h.asked, h.noted hnoted, List.take_of_length_le (by simp [Resolution.requests, Resolution.start])]
    rfl
  · obtain ⟨answers, hgives, hends⟩ := fair.endsWith
    refine ⟨answers, _, hgives, Resolution.resultOf_conclude hgives.length, hends,
      fun other hfair hother => ?_⟩
    obtain ⟨answers', hgives', n, hn⟩ := hfair.endsWith
    obtain rfl : answers' = answers := (hn n le_rfl).2.answers_unique hgives'.length (hgives'.ends n)
      hother.length (hother.ends n)
    exact ⟨n, hn⟩

/-! ### A resolution with two failures -/

/-- A schedule that begins so and goes on with turns. -/
def beginning (moments : List Moment) : Nat → Moment := fun n => moments.getD n .turn

/-- A pending call stays so until it ends. -/
theorem pending_or_finished {n m p : Nat} (hnm : n ≤ m)
    (hp : p ∈ (upTo issuer references schedule n).pending) :
    p ∈ (upTo issuer references schedule m).pending ∨ ∃ j a, n ≤ j ∧ schedule j = .finish p a := by
  induction m, hnm using Nat.le_induction with
  | base => exact .inl hp
  | succ m hnm ih =>
      obtain hpending | hfinished := ih
      · rw [upTo]
        generalize hmoment : schedule m = moment
        cases moment with
        | turn =>
            left
            rw [occur]
            split
            · rename_i t _ _
              cases t with
              | ask => exact List.mem_append_left _ hpending
              | note | resume => exact hpending
            · exact hpending
        | finish q a =>
            by_cases hq : p = q
            · exact .inr ⟨m, a, hnm, hq ▸ hmoment⟩
            · left
              rw [occur]
              split
              · exact (List.mem_erase_of_ne hq).mpr hpending
              · exact hpending
      · exact .inr hfinished

theorem finished_beginning {moments : List Moment}
    (h : (upTo issuer references (beginning moments) moments.length).result.isSome) :
    Finished issuer references (upTo issuer references (beginning moments) moments.length) := by
  obtain ⟨result, hresult⟩ := Option.isSome_iff_exists.mp h
  obtain ⟨k, waiting, hkept⟩ := kept_upTo issuer references (beginning moments) moments.length
  exact hkept.finished hresult

/-- A schedule that brings the result and goes on with turns is fair. -/
theorem fair_beginning {moments : List Moment}
    (h : (upTo issuer references (beginning moments) moments.length).result.isSome) :
    Fair issuer references (beginning moments) := by
  have hturn : ∀ n, moments.length ≤ n → beginning moments n = .turn := fun n hn => by
    rw [beginning, List.getD, List.getElem?_eq_none hn, Option.getD_none]
  have hfinished := finished_beginning h
  refine ⟨fun n => ⟨max n moments.length, le_max_left _ _, hturn _ (le_max_right _ _)⟩, fun n p hp => ?_⟩
  obtain hpending | ⟨j, a, hnj, hj⟩ := pending_or_finished (le_max_left n moments.length) hp
  · rw [upTo_of_finished hfinished (le_max_right n moments.length), hfinished.pending] at hpending
    cases hpending
  · exact ⟨j, a, hnj, hj⟩

/-- One reference twice, with a failure in between and one behind. -/
def repeated : List String := ["./a.graphql", "./b.graphql", "./a.graphql"]

/-- The first call ends at once, the other two when all are begun, the last one first. -/
def crossed : List Moment :=
  [.turn, .finish 0 (.ok []), .turn, .turn, .finish 2 (.error (.loader "late")),
    .finish 1 (.error (.loader "early")), .turn, .turn, .turn, .turn]

/-- The calls end one after the other, each noted before the next one ends. -/
def straight : List Moment :=
  [.turn, .turn, .turn, .finish 0 (.ok []), .turn, .finish 1 (.error (.loader "early")), .turn,
    .finish 2 (.error (.loader "late")), .turn, .turn]

/-- Two ways for three calls to end, and one result. -/
theorem ends_by_position_repeated :
    Fair none repeated (beginning crossed) ∧ Fair none repeated (beginning straight) ∧
    ∃ f, EndsWith none repeated (beginning crossed) (.error f) ∧
      EndsWith none repeated (beginning straight) (.error f) ∧
      f = .dependencyResolution [("./b.graphql", .loader "early"), ("./a.graphql", .loader "late")] 3 ∧
      f.cause? = some (.loader "early") := by
  let outcomes : List Answer := [.ok [], .error (.loader "early"), .error (.loader "late")]
  have hcrossed : Fair none repeated (beginning crossed) := fair_beginning rfl
  have hstraight : Fair none repeated (beginning straight) := fair_beginning rfl
  have hends : ∀ e ∈ (upTo none repeated (beginning crossed) 10).ended, outcomes[e.1]? = some e.2 := by
    show ∀ e ∈ [(0, _), (2, _), (1, _)], outcomes[e.1]? = some e.2
    simp [outcomes]
  have hends' : ∀ e ∈ (upTo none repeated (beginning straight) 10).ended, outcomes[e.1]? = some e.2 := by
    show ∀ e ∈ [(0, _), (1, _), (2, _)], outcomes[e.1]? = some e.2
    simp [outcomes]
  have hdone : Finished none repeated (upTo none repeated (beginning crossed) 10) := finished_beginning rfl
  have hdone' : Finished none repeated (upTo none repeated (beginning straight) 10) := finished_beginning rfl
  obtain ⟨-, answers, result, hgives, hresult, hresolved, hother⟩ := ends_by_position hcrossed
  obtain rfl : answers = outcomes :=
    hdone.answers_unique hgives.length (hgives.ends 10) rfl hends
  obtain rfl : result = .error (.dependencyResolution
      [("./b.graphql", .loader "early"), ("./a.graphql", .loader "late")] 3) :=
    (hresult.error _).mpr ⟨List.cons_ne_nil _ _, rfl⟩
  exact ⟨hcrossed, hstraight, _, hresolved, hother _ hstraight (hdone'.gives rfl hends'), rfl, rfl⟩

end Course

end PersistedOps

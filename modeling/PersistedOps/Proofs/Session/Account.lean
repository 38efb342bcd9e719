import Mathlib.Algebra.BigOperators.Group.List.Basic
import Mathlib.Algebra.GroupWithZero.Nat
import Mathlib.Data.List.Nodup
import PersistedOps.Proofs.Session.Schedule

/-!
The account of who goes on. Each call and each request of a unit is in one place at a time: it has a
job in the queue, or it is parked at the task of an unfinished unit, or it has its answer. The same
holds for the tasks of units: one that could take its next step has exactly one job for it.
-/

namespace PersistedOps

/-- What a job moves: a waiter, or the task of a unit. -/
inductive Token where
  | waiter (w : Waiter)
  | task (path : String)
deriving DecidableEq

def Job.token : Job → Token
  | .call id => .waiter (.call id)
  | .start path => .task path
  | .request issuer position => .waiter (.request issuer position)
  | .wake w _ => .waiter w
  | .settle issuer position _ => .waiter (.request issuer position)
  | .resume path => .task path

namespace TaskState

def outcome? : TaskState → Option (Except Failure Processed)
  | finished outcome => some outcome
  | _ => none

/-- Whether a task has its next step ahead without waiting for anyone. -/
def isReady : TaskState → Bool
  | queued => true
  | resolving _ _ resolution => resolution.settled?.isSome
  | finished _ => false

/-- Whether a task lacks the answer at a position. -/
def lacks (position : Nat) : TaskState → Bool
  | resolving _ _ resolution => resolution.answers[position]?.any Option.isNone
  | _ => false

@[simp] theorem outcome?_queued : queued.outcome? = none := rfl

@[simp] theorem outcome?_resolving (source : String) (unit : Script.Extracted) (r : Resolution) :
    (resolving source unit r).outcome? = none := rfl

@[simp] theorem outcome?_finished (outcome : Except Failure Processed) :
    (finished outcome).outcome? = some outcome := rfl

@[simp] theorem isReady_queued : queued.isReady = true := rfl

@[simp] theorem isReady_resolving (source : String) (unit : Script.Extracted) (r : Resolution) :
    (resolving source unit r).isReady = r.settled?.isSome := rfl

@[simp] theorem isReady_finished (outcome : Except Failure Processed) :
    (finished outcome).isReady = false := rfl

@[simp] theorem lacks_queued (position : Nat) : queued.lacks position = false := rfl

@[simp] theorem lacks_resolving (position : Nat) (source : String) (unit : Script.Extracted)
    (r : Resolution) :
    (resolving source unit r).lacks position = r.answers[position]?.any Option.isNone := rfl

@[simp] theorem lacks_finished (position : Nat) (outcome : Except Failure Processed) :
    (finished outcome).lacks position = false := rfl

end TaskState

/-- Those who still wait at a task. -/
def BuildTask.parked (t : BuildTask) : List Waiter :=
  if t.state.outcome?.isSome then [] else t.waiters

namespace Session

variable {σ : Type}

/-! Tasks by path -/

def state? (s : Session σ) (path : String) : Option TaskState :=
  (s.task? path).map BuildTask.state

theorem outcome?_eq (s : Session σ) (path : String) :
    s.outcome? path = (s.state? path).bind TaskState.outcome? := by
  unfold outcome? state?
  rcases s.task? path with _ | ⟨_ | _ | _, _⟩ <;> rfl

theorem lookup_modify {α : Type} (l : List (String × α)) (path p : String) (f : α → α) :
    (l.map fun e => if e.1 = path then (e.1, f e.2) else e).lookup p =
      if p = path then (l.lookup p).map f else l.lookup p := by
  induction l with
  | nil => simp
  | cons e l ih =>
      obtain ⟨q, a⟩ := e
      by_cases hp : p = q
      · subst hp
        by_cases hpath : p = path <;> simp [hpath]
      · have hne : (p == q) = false := by simpa using hp
        have hcons (b : α) (rest : List (String × α)) :
            ((q, b) :: rest).lookup p = rest.lookup p := by
          rw [List.lookup_cons, hne]
        rw [List.map_cons, hcons, ← ih]
        split <;> exact hcons _ _

theorem task?_modifyTask (s : Session σ) (path p : String) (f : BuildTask → BuildTask) :
    (s.modifyTask path f).task? p = if p = path then (s.task? p).map f else s.task? p :=
  lookup_modify s.tasks path p f

@[simp] theorem task?_enqueue (s : Session σ) (jobs : List Job) (p : String) :
    (s.enqueue jobs).task? p = s.task? p := rfl

@[simp] theorem state?_enqueue (s : Session σ) (jobs : List Job) (p : String) :
    (s.enqueue jobs).state? p = s.state? p := rfl

/-- Starting a task leaves the other paths alone; the path itself keeps the task it had. -/
theorem task?_ensureTask (s : Session σ) (path p : String) :
    (s.ensureTask path).task? p =
      if p = path then some ((s.task? path).getD ⟨.queued, []⟩) else s.task? p := by
  unfold Session.ensureTask
  split
  · rename_i t htask
    split
    · rename_i hp; rw [hp, htask]; rfl
    · rfl
  · rename_i htask
    have htask' : s.tasks.lookup path = none := htask
    simp only [task?, List.lookup_append, List.lookup_cons, List.lookup_nil]
    by_cases hp : p = path
    · simp [hp, htask']
    · simp [hp, beq_eq_false_iff_ne.mpr hp]

/-! What the parts of a step leave alone -/

theorem stopWaiting_eq (s : Session σ) (w : Waiter) (path : String) :
    s.stopWaiting w path = { s with waiting := (s.stopWaiting w path).waiting } := by
  unfold stopWaiting
  split <;> rfl

theorem park_eq (s : Session σ) (w : Waiter) (path : String) :
    s.park w path = { s.modifyTask path fun t => { t with waiters := t.waiters ++ [w] } with
      waiting := (s.park w path).waiting } := by
  unfold park
  simp only
  split <;> rfl

theorem state?_park (s : Session σ) (w : Waiter) (path p : String) :
    (s.park w path).state? p = s.state? p := by
  have htask : (s.park w path).task? p =
      (s.modifyTask path fun t => { t with waiters := t.waiters ++ [w] }).task? p := by
    rw [park_eq]
    rfl
  rw [state?, htask, task?_modifyTask]
  split
  · rw [Option.map_map]
    rfl
  · rfl

theorem deliver_eq (s : Session σ) (w : Waiter) (outcome : Except Failure Processed) :
    s.deliver w outcome = { s with
      outcomes := (s.deliver w outcome).outcomes
      queue := (s.deliver w outcome).queue } := by
  cases w <;> rfl

/-- A call that has ended keeps its outcome. -/
theorem callOutcome?_deliver (s : Session σ) (id : Nat) (outcome : Except Failure Processed)
    (i : Nat) : (s.deliver (.call id) outcome).callOutcome? i =
      (s.callOutcome? i).or (if i = id then some outcome else none) := by
  simp only [callOutcome?, deliver, List.lookup_append]
  congr 1
  rw [List.lookup_cons, List.lookup_nil]
  by_cases hi : i = id
  · simp [hi]
  · simp [hi, beq_eq_false_iff_ne.mpr hi]

theorem ensureTask_eq (s : Session σ) (path : String) :
    s.ensureTask path = { s with
      tasks := (s.ensureTask path).tasks
      queue := (s.ensureTask path).queue } := by
  unfold ensureTask
  split <;> rfl

/-- A note changes the state of its task, and with the last answer it queues its next step. -/
theorem settle_eq {s : Session σ} {issuer source : String} {unit : Script.Extracted}
    {resolution : Resolution} {waiters : List Waiter}
    (htask : s.task? issuer = some ⟨.resolving source unit resolution, waiters⟩) (position : Nat)
    (answer : Answer) : s.settle issuer position answer =
      (s.modifyTask issuer fun t =>
        { t with state := .resolving source unit (resolution.settle position answer) }).enqueue
        (if (resolution.settle position answer).settled?.isSome then [.resume issuer] else []) := by
  rw [settle, htask]
  by_cases hlast : (resolution.settle position answer).settled?.isSome
  · simp only [hlast, if_true]
  · simp only [hlast, if_false, enqueue, List.append_nil, Bool.false_eq_true]

/-! Sums over tasks -/

/-- What a change of one entry does to a sum over all. -/
theorem sum_modify {α : Type} {l : List (String × α)} {path : String} {a : α}
    (hkeys : (l.map Prod.fst).Nodup) (h : l.lookup path = some a) (f : α → α) (g : α → Nat) :
    ((l.map fun e => if e.1 = path then (e.1, f e.2) else e).map fun e => g e.2).sum + g a =
      (l.map fun e => g e.2).sum + g (f a) := by
  induction l with
  | nil => cases h
  | cons e l ih =>
      obtain ⟨q, b⟩ := e
      rw [List.map_cons, List.nodup_cons] at hkeys
      rw [List.lookup_cons] at h
      by_cases hq : q = path
      · subst hq
        simp only [BEq.rfl] at h
        cases h
        have hrest : (l.map fun e => if e.1 = q then (e.1, f e.2) else e) = l := by
          conv_rhs => rw [← List.map_id l]
          refine List.map_congr_left fun e he => ?_
          have hne : e.1 ≠ q := by
            rintro rfl
            exact hkeys.1 (List.mem_map.mpr ⟨e, he, rfl⟩)
          simp [hne]
        simp only [List.map_cons, if_true, hrest, List.sum_cons]
        omega
      · have hbeq : (path == q) = false := by simpa using fun h => hq h.symm
        simp only [hbeq] at h
        have := ih hkeys.2 h
        simp only [List.map_cons, hq, if_false, List.sum_cons]
        omega

/-! Tokens -/

/-- How often a token stands in the queue. -/
def queued (s : Session σ) (t : Token) : Nat := (s.queue.map Job.token).count t

/-- How often a token is parked at tasks. -/
def parked (s : Session σ) (t : Token) : Nat :=
  (s.tasks.map fun e => (e.2.parked.map Token.waiter).count t).sum

/-- Whether a token has to be somewhere. -/
def owes (s : Session σ) : Token → Bool
  | .waiter (.call id) => id < s.calls.length && (s.callOutcome? id).isNone
  | .waiter (.request issuer position) => (s.state? issuer).any (TaskState.lacks position)
  | .task path => (s.state? path).any TaskState.isReady

/-- A job whose step finds what it expects. -/
def Fits (s : Session σ) : Job → Prop
  | .start path => s.state? path = some .queued
  | .wake _ path => (s.outcome? path).isSome
  | .resume path => ∃ source unit resolution, s.state? path = some (.resolving source unit resolution)
  | _ => True

/-- The account of a session, where some tokens are in the hands of the step that is under way. -/
structure Accounted (s : Session σ) (held : List Token) : Prop where
  /-- Each unit has one task. -/
  keys : (s.tasks.map Prod.fst).Nodup
  balance : ∀ t, s.queued t + s.parked t + held.count t = (s.owes t).toNat
  fits : ∀ job ∈ s.queue, s.Fits job
  /-- A unit has room for an answer to each of its dependencies. -/
  sized : ∀ path source unit resolution,
    s.state? path = some (.resolving source unit resolution) →
      resolution.answers.length = unit.dependencies.length
  /-- Outcomes belong to calls. -/
  made : ∀ id, (s.callOutcome? id).isSome → id < s.calls.length

/-- The account of nothing. -/
theorem accounted_start (source : σ) (options : Options) (signer : Signer) :
    (start source options signer).Accounted [] where
  keys := List.nodup_nil
  balance := by
    rintro ((id | ⟨issuer, position⟩) | path) <;> rfl
  fits := by simp [start]
  sized := by simp [start, state?, task?]
  made := by simp [start, callOutcome?]

/-- The account looks at tasks, jobs, calls and outcomes alone. -/
theorem Accounted.congr {s s' : Session σ} {held : List Token} (h : s.Accounted held)
    (tasks : s'.tasks = s.tasks) (queue : s'.queue = s.queue) (calls : s'.calls = s.calls)
    (outcomes : s'.outcomes = s.outcomes) : s'.Accounted held := by
  obtain ⟨source, options, signer, _, waiting, _, _, _, reads⟩ := s'
  cases tasks
  cases queue
  cases calls
  cases outcomes
  exact ⟨h.keys, h.balance, h.fits, h.sized, h.made⟩

/-- A token in hand is owed, and it is nowhere else. -/
theorem Accounted.held_owed {s : Session σ} {t : Token} (h : s.Accounted [t]) :
    s.owes t = true ∧ s.queued t = 0 ∧ s.parked t = 0 := by
  have hb := h.balance t
  rw [List.count_singleton_self] at hb
  cases ho : s.owes t with
  | false => rw [ho, Bool.toNat_false] at hb; omega
  | true => rw [ho, Bool.toNat_true] at hb; exact ⟨rfl, by omega, by omega⟩

theorem Accounted.not_mem_queue {s : Session σ} {t : Token} (h : s.Accounted [t]) {job : Job}
    (hjob : job ∈ s.queue) : job.token ≠ t := by
  rintro rfl
  have hpos : 0 < s.queued job.token :=
    List.count_pos_iff.mpr (List.mem_map.mpr ⟨job, hjob, rfl⟩)
  have := h.held_owed.2.1
  omega

/-- What stands in the queue is owed. -/
theorem Accounted.owed_of_mem_queue {s : Session σ} {held : List Token} (h : s.Accounted held)
    {job : Job} (hjob : job ∈ s.queue) : s.owes job.token = true := by
  have hpos : 0 < s.queued job.token :=
    List.count_pos_iff.mpr (List.mem_map.mpr ⟨job, hjob, rfl⟩)
  have hb := h.balance job.token
  by_contra hne
  rw [Bool.not_eq_true] at hne
  rw [hne, Bool.toNat_false] at hb
  omega

theorem queued_enqueue (s : Session σ) (jobs : List Job) (t : Token) :
    (s.enqueue jobs).queued t = s.queued t + (jobs.map Job.token).count t := by
  simp [queued, enqueue, List.map_append, List.count_append]

/-- What a change of one task does to those parked. -/
theorem parked_modifyTask {s : Session σ} (hkeys : (s.tasks.map Prod.fst).Nodup) {path : String}
    {t : BuildTask} (h : s.task? path = some t) (f : BuildTask → BuildTask) (tok : Token) :
    (s.modifyTask path f).parked tok + (t.parked.map Token.waiter).count tok =
      s.parked tok + ((f t).parked.map Token.waiter).count tok :=
  sum_modify hkeys h f fun t => (t.parked.map Token.waiter).count tok

theorem keys_modifyTask (s : Session σ) (path : String) (f : BuildTask → BuildTask) :
    (s.modifyTask path f).tasks.map Prod.fst = s.tasks.map Prod.fst := by
  rw [modifyTask, List.map_map]
  refine List.map_congr_left fun e _ => ?_
  simp only [Function.comp_apply]
  split <;> rfl

theorem state?_modifyTask (s : Session σ) (path p : String) (f : BuildTask → BuildTask) :
    (s.modifyTask path f).state? p =
      if p = path then (s.task? p).map fun t => (f t).state else s.state? p := by
  unfold state?
  rw [task?_modifyTask]
  split
  · rw [Option.map_map]; rfl
  · rfl

/-! What the steps' parts do to the account -/

theorem Accounted.addCall {s : Session σ} (h : s.Accounted []) (reference : String)
    (issuer : Option String) : (s.addCall reference issuer).Accounted [] where
  keys := h.keys
  balance t := by
    have hb := h.balance t
    have hq : (s.addCall reference issuer).queued t =
        s.queued t + [Token.waiter (.call s.calls.length)].count t := by
      simp [queued, Session.addCall, Job.token, List.count_append]
    have hp : (s.addCall reference issuer).parked t = s.parked t := rfl
    rw [hq, hp]
    rcases t with (id | ⟨i, k⟩) | path
    · have hnew : (s.callOutcome? s.calls.length) = none := by
        by_contra hne
        exact absurd (h.made _ (Option.isSome_iff_ne_none.mpr hne)) (Nat.lt_irrefl _)
      have hout : (s.addCall reference issuer).callOutcome? id = s.callOutcome? id := rfl
      have hlen : (s.addCall reference issuer).calls.length = s.calls.length + 1 := by
        simp [Session.addCall]
      simp only [owes, hout, hlen] at hb ⊢
      -- Older calls are owed what they were, the new one its first step, and later ones are not there.
      rcases Nat.lt_trichotomy id s.calls.length with hid | rfl | hid
      · have hne : Token.waiter (.call s.calls.length) ≠ .waiter (.call id) := by
          simp; omega
        rw [List.count_singleton, if_neg (by simpa using hne)]
        simpa [hid, Nat.lt_succ_of_lt hid] using hb
      · simp [hnew] at hb ⊢
        omega
      · have hne : Token.waiter (.call s.calls.length) ≠ .waiter (.call id) := by
          simp; omega
        rw [List.count_singleton, if_neg (by simpa using hne)]
        have h1 : ¬id < s.calls.length := by omega
        have h2 : ¬id < s.calls.length + 1 := by omega
        simpa [h1, h2] using hb
    · have ho : (s.addCall reference issuer).owes (.waiter (.request i k)) =
          s.owes (.waiter (.request i k)) := rfl
      simpa [ho, List.count_singleton] using hb
    · have ho : (s.addCall reference issuer).owes (.task path) = s.owes (.task path) := rfl
      simpa [ho, List.count_singleton] using hb
  fits job hjob := by
    rcases List.mem_append.mp hjob with hjob | hjob
    · have := h.fits job hjob
      cases job <;> exact this
    · rw [List.mem_singleton.mp hjob]
      trivial
  sized := h.sized
  made id hid := by
    have := h.made id hid
    simp only [Session.addCall, List.length_append, List.length_singleton]
    omega

/-- Taking a job out of the queue takes its token in hand. -/
theorem Accounted.pick {s rest : Session σ} {job : Job} (h : s.Accounted [])
    (hpick : Picked s job rest) : rest.Accounted [job.token] ∧ rest.Fits job := by
  obtain ⟨hperm, heq⟩ := hpick
  have hfits : ∀ j, s.Fits j → rest.Fits j := by
    intro j hj
    rw [heq]
    cases j <;> exact hj
  refine ⟨⟨?_, fun t => ?_, fun j hj => ?_, ?_, ?_⟩, ?_⟩
  · rw [heq]; exact h.keys
  · have hb := h.balance t
    have hq : s.queued t = rest.queued t + [job.token].count t := by
      rw [queued, (hperm.map Job.token).count_eq, List.map_cons, List.count_cons,
        List.count_singleton]
      rfl
    have hp : rest.parked t = s.parked t := by rw [heq]; rfl
    have ho : rest.owes t = s.owes t := by
      rw [heq]
      rcases t with (_ | _) | _ <;> rfl
    rw [List.count_nil] at hb
    rw [hp, ho]
    omega
  · exact hfits j (h.fits j (hperm.mem_iff.mpr (List.mem_cons_of_mem _ hj)))
  · rw [heq]; exact h.sized
  · rw [heq]; exact h.made
  · exact hfits job (h.fits job (hperm.mem_iff.mpr List.mem_cons_self))

/-- An answer to a call settles what was owed to it; one to a request is on its way to the unit. -/
theorem Accounted.deliver {s : Session σ} {w : Waiter} (h : s.Accounted [.waiter w])
    (outcome : Except Failure Processed) : (s.deliver w outcome).Accounted [] := by
  have hheld := h.held_owed
  -- A call is told at once and owed nothing more; a request is owed the step that notes the answer.
  cases w with
  | call id =>
      have hid : id < s.calls.length ∧ s.callOutcome? id = none := by
        simpa [owes] using hheld.1
      have hout := s.callOutcome?_deliver id outcome
      refine ⟨h.keys, fun t => ?_, h.fits, h.sized, fun i hi => ?_⟩
      · have hb := h.balance t
        have hq : (s.deliver (.call id) outcome).queued t = s.queued t := rfl
        have hp : (s.deliver (.call id) outcome).parked t = s.parked t := rfl
        rw [hq, hp]
        rcases t with (i | ⟨i, k⟩) | path
        · have hcalls : (s.deliver (.call id) outcome).calls = s.calls := rfl
          simp only [owes, hout, hcalls] at hb ⊢
          by_cases hi : i = id
          · subst hi
            simp [hid] at hb ⊢
            omega
          · have hne : Token.waiter (.call id) ≠ .waiter (.call i) := by
              simpa using fun h => hi h.symm
            rw [List.count_singleton, if_neg (by simpa using hne)] at hb
            simpa [hi] using hb
        · have ho : (s.deliver (.call id) outcome).owes (.waiter (.request i k)) =
              s.owes (.waiter (.request i k)) := rfl
          simpa [ho, List.count_singleton] using hb
        · have ho : (s.deliver (.call id) outcome).owes (.task path) = s.owes (.task path) := rfl
          simpa [ho, List.count_singleton] using hb
      · rw [hout] at hi
        by_cases hi' : i = id
        · rw [hi']; exact hid.1
        · exact h.made i (by simpa [hi'] using hi)
  | request issuer position =>
      refine ⟨h.keys, fun t => ?_, fun job hjob => ?_, h.sized, h.made⟩
      · have hb := h.balance t
        have ho : (s.deliver (.request issuer position) outcome).owes t = s.owes t := by
          rcases t with (_ | _) | _ <;> rfl
        have hq := s.queued_enqueue
          [.settle issuer position (outcome.map Processed.documents)] t
        have hp : (s.deliver (.request issuer position) outcome).parked t = s.parked t := rfl
        simp only [Session.deliver] at ho hp ⊢
        rw [ho, hp, hq]
        simp only [List.map_cons, List.map_nil, Job.token, List.count_nil]
        omega
      · rcases List.mem_append.mp hjob with hjob | hjob
        · have := h.fits job hjob
          cases job <;> exact this
        · rw [List.mem_singleton.mp hjob]
          trivial

/-- A task that is started is owed its first step. -/
theorem Accounted.ensureTask {s : Session σ} {held : List Token} (h : s.Accounted held)
    (path : String) : (s.ensureTask path).Accounted held := by
  unfold Session.ensureTask
  split
  · exact h
  · rename_i hnone
    let s' : Session σ := { s with
      tasks := s.tasks ++ [(path, ⟨.queued, []⟩)]
      queue := s.queue ++ [.start path] }
    have hstate (p : String) :
        s'.state? p = if p = path then some .queued else s.state? p := by
      have htask := s.task?_ensureTask path p
      rw [Session.ensureTask, hnone] at htask
      rw [state?, state?, htask]
      split <;> rfl
    have hold : s.state? path = none := by
      rw [state?, hnone]; rfl
    -- The new task is owed its first step, and the job that is queued for it balances this.
    refine ⟨?_, fun t => ?_, fun job hjob => ?_, fun p source unit resolution hp => ?_, h.made⟩
    · rw [List.map_append, List.nodup_append]
      refine ⟨h.keys, by simp, ?_⟩
      rintro p hp q hq rfl
      obtain ⟨e, he, rfl⟩ := List.mem_map.mp hp
      have hne := List.lookup_eq_none_iff.mp hnone e he
      rw [List.mem_singleton.mp hq] at hne
      simp at hne
    · have hb := h.balance t
      have hq : s'.queued t = s.queued t + [Token.task path].count t := by
        simp [s', queued, Job.token, List.count_append]
      have hp : s'.parked t = s.parked t := by
        simp [s', parked, BuildTask.parked]
      change s'.queued t + s'.parked t + _ = (s'.owes t).toNat
      rw [hq, hp]
      rcases t with (id | ⟨i, k⟩) | p
      · have ho : s'.owes (.waiter (.call id)) = s.owes (.waiter (.call id)) := rfl
        simpa [ho, List.count_singleton] using hb
      · have ho : s'.owes (.waiter (.request i k)) = s.owes (.waiter (.request i k)) := by
          simp only [owes, hstate]
          split
          · rename_i hi; rw [hi, hold]; rfl
          · rfl
        simpa [ho, List.count_singleton] using hb
      · simp only [owes, hstate] at hb ⊢
        by_cases hpath : p = path
        · subst hpath
          rw [hold] at hb
          simp [TaskState.isReady] at hb ⊢
          omega
        · have hne : Token.task path ≠ .task p := by simpa using fun h => hpath h.symm
          rw [List.count_singleton, if_neg (by simpa using hne)]
          simpa [hpath] using hb
    · change s'.Fits job
      rcases List.mem_append.mp hjob with hjob | hjob
      · have hfit := h.fits job hjob
        cases job with
        | start p =>
            have hfit' : s.state? p = some .queued := hfit
            rw [Fits, hstate]
            split
            · rfl
            · exact hfit'
        | wake w p =>
            simp only [Fits, outcome?_eq, hstate] at hfit ⊢
            split
            · rename_i hp; rw [hp, hold] at hfit; cases hfit
            · exact hfit
        | resume p =>
            simp only [Fits, hstate] at hfit ⊢
            split
            · rename_i hp; rw [hp, hold] at hfit; simp at hfit
            · exact hfit
        | _ => trivial
      · rw [List.mem_singleton.mp hjob, Fits, hstate, if_pos rfl]
    · have hp' : s'.state? p = some (.resolving source unit resolution) := hp
      rw [hstate] at hp'
      split at hp'
      · cases hp'
      · exact h.sized p source unit resolution hp'

/-- Which tokens the task of a path owes in a state. -/
def owedBy (path : String) (state : TaskState) : Token → Bool
  | .waiter (.call _) => false
  | .waiter (.request issuer position) => issuer = path && state.lacks position
  | .task p => p = path && state.isReady

/-- A change of one task that queues jobs keeps the account when what becomes owed and parked there
balances what is in hand. -/
theorem Accounted.update {s : Session σ} {held held' : List Token} {path : String} {t : BuildTask}
    {f : BuildTask → BuildTask} {jobs : List Job} (h : s.Accounted held)
    (htask : s.task? path = some t)
    (hbalance : ∀ tok, (jobs.map Job.token).count tok +
        ((f t).parked.map Token.waiter).count tok + held'.count tok + (owedBy path t.state tok).toNat =
      (t.parked.map Token.waiter).count tok + held.count tok + (owedBy path (f t).state tok).toNat)
    (hfits : ∀ job ∈ s.queue ++ jobs, ((s.modifyTask path f).enqueue jobs).Fits job)
    (hsized : ∀ source unit resolution, (f t).state = .resolving source unit resolution →
      resolution.answers.length = unit.dependencies.length) :
    ((s.modifyTask path f).enqueue jobs).Accounted held' := by
  have hstate (p : String) : ((s.modifyTask path f).enqueue jobs).state? p =
      if p = path then some (f t).state else s.state? p := by
    rw [state?_enqueue, state?_modifyTask]
    split
    · rename_i hp; rw [hp, htask]; rfl
    · rfl
  have hold : s.state? path = some t.state := by rw [state?, htask]; rfl
  refine ⟨?_, fun tok => ?_, hfits, fun p source unit resolution hp => ?_, h.made⟩
  · have := keys_modifyTask s path f
    change ((s.modifyTask path f).tasks.map Prod.fst).Nodup
    rw [this]
    exact h.keys
  · have hb := h.balance tok
    have hq := (s.modifyTask path f).queued_enqueue jobs tok
    have hp := parked_modifyTask h.keys htask f tok
    have hq' : (s.modifyTask path f).queued tok = s.queued tok := rfl
    have hp' : ((s.modifyTask path f).enqueue jobs).parked tok = (s.modifyTask path f).parked tok :=
      rfl
    -- What is owed differs by what is owed for this path alone.
    have ho : (((s.modifyTask path f).enqueue jobs).owes tok).toNat + (owedBy path t.state tok).toNat =
        (s.owes tok).toNat + (owedBy path (f t).state tok).toNat := by
      rcases tok with (id | ⟨i, k⟩) | p
      · rfl
      · simp only [owes, owedBy, hstate]
        by_cases hi : i = path
        · subst hi
          simp [hold, Nat.add_comm]
        · simp [hi]
      · simp only [owes, owedBy, hstate]
        by_cases hp : p = path
        · subst hp
          simp [hold, Nat.add_comm]
        · simp [hp]
    have := hbalance tok
    rw [hq, hp', hq']
    omega
  · rw [hstate] at hp
    split at hp
    · exact hsized source unit resolution (Option.some.inj hp)
    · exact h.sized p source unit resolution hp

/-- What fits before a task changes fits afterwards, unless it is the step of that task, when the
unit stays finished if it was. -/
theorem Fits.update {s : Session σ} {path : String} {t : BuildTask} {f : BuildTask → BuildTask}
    {jobs : List Job} {job : Job} (h : s.Fits job) (htask : s.task? path = some t)
    (hjob : job.token ≠ .task path ∨ (f t).state = t.state)
    (hfinished : t.state.outcome?.isSome → (f t).state.outcome?.isSome) :
    ((s.modifyTask path f).enqueue jobs).Fits job := by
  have hstate (p : String) : ((s.modifyTask path f).enqueue jobs).state? p =
      if p = path then some (f t).state else s.state? p := by
    rw [state?_enqueue, state?_modifyTask]
    split
    · rename_i hp; rw [hp, htask]; rfl
    · rfl
  have hold : s.state? path = some t.state := by rw [state?, htask]; rfl
  -- Only jobs for tasks of the path look at what has changed.
  cases job with
  | start p =>
      have h' : s.state? p = some .queued := h
      rw [Fits, hstate]
      split
      · rename_i hp
        subst hp
        rcases hjob with hjob | hjob
        · exact absurd rfl hjob
        · rw [hjob, ← hold, h']
      · exact h'
  | wake w p =>
      simp only [Fits, outcome?_eq, hstate] at h ⊢
      split
      · rename_i hp
        subst hp
        rw [hold] at h
        exact hfinished h
      · exact h
  | resume p =>
      simp only [Fits, hstate] at h ⊢
      split
      · rename_i hp
        subst hp
        rcases hjob with hjob | hjob
        · exact absurd rfl hjob
        · rw [hjob, ← hold]
          exact h
      · exact h
  | _ => trivial

/-- A waiter that parks is nowhere else. -/
theorem Accounted.park {s : Session σ} {w : Waiter} {path : String} {t : BuildTask}
    (h : s.Accounted [.waiter w]) (htask : s.task? path = some t)
    (hopen : t.state.outcome? = none) : (s.park w path).Accounted [] := by
  let f (t : BuildTask) : BuildTask := { t with waiters := t.waiters ++ [w] }
  have hupdate : ((s.modifyTask path f).enqueue []).Accounted [] := by
    refine h.update htask (fun tok => ?_) (fun job hjob => ?_) fun source unit resolution hst => ?_
    · have hparked : (f t).parked = t.parked ++ [w] := by simp [f, BuildTask.parked, hopen]
      rw [hparked]
      simp [f, List.count_append]
    · rw [List.append_nil] at hjob
      exact (h.fits job hjob).update htask (Or.inr rfl) id
    · refine h.sized path source unit resolution ?_
      rw [state?, htask]
      exact congrArg some hst
  rw [park_eq]
  exact hupdate.congr rfl (List.append_nil _).symm rfl rfl

/-- A task that is ready lacks no answer. -/
theorem lacks_eq_false_of_isReady {state : TaskState} (h : state.isReady = true) (position : Nat) :
    state.lacks position = false := by
  cases state with
  | queued => rfl
  | finished => rfl
  | resolving source unit resolution =>
      obtain ⟨answers, hanswers⟩ := Option.isSome_iff_exists.mp h
      rw [TaskState.lacks, Resolution.settled?_eq_some_iff.mp hanswers]
      cases ha : answers[position]? <;> simp [ha]

/-- All that wait for a unit have a job when it is finished. -/
theorem Accounted.finish {s : Session σ} {path : String} (h : s.Accounted [.task path])
    (outcome : Except Failure Processed) : (s.finish path outcome).Accounted [] := by
  obtain ⟨t, htask, hready⟩ : ∃ t, s.task? path = some t ∧ t.state.isReady = true := by
    simpa [owes, state?, Option.any_map, Option.any_eq_true] using h.held_owed.1
  have hopen : t.state.outcome? = none := by
    cases hs : t.state with
    | finished => rw [hs] at hready; cases hready
    | _ => rfl
  unfold Session.finish
  rw [htask]
  refine h.update htask (fun tok => ?_) (fun job hjob => ?_) ?_
  · have hold : t.parked = t.waiters := by simp [BuildTask.parked, hopen]
    have hnew : BuildTask.parked { t with state := .finished outcome } = [] := rfl
    have hjobs : ((((some t).map BuildTask.waiters).getD []).map fun w => Job.wake w path).map
        Job.token = t.waiters.map Token.waiter := by
      simp [Job.token, Function.comp_def]
    rw [hjobs, hnew, hold]
    rcases tok with (id | ⟨i, k⟩) | p
    · simp [owedBy]
    · simp [owedBy, lacks_eq_false_of_isReady hready]
    · by_cases hp : p = path
      · simp [owedBy, hready, hp]
      · simp [owedBy, hp, Ne.symm hp]
  · rcases List.mem_append.mp hjob with hjob | hjob
    · exact (h.fits job hjob).update htask (Or.inl (h.not_mem_queue hjob)) fun _ => rfl
    · obtain ⟨w, -, rfl⟩ := List.mem_map.mp hjob
      rw [Fits, outcome?_eq, state?_enqueue, state?_modifyTask, if_pos rfl, htask]
      rfl
  · rintro _ _ _ ⟨⟩

/-- A unit owes itself an answer to each request it makes. -/
theorem Accounted.expand {s : Session σ} {path : String} (h : s.Accounted [.task path])
    (hqueued : s.state? path = some .queued) (source : String) {unit : Script.Extracted}
    (hne : unit.dependencies ≠ []) : (s.expand path source unit).Accounted [] := by
  obtain ⟨t, htask, hstate⟩ := Option.map_eq_some_iff.mp hqueued
  let state : TaskState := .resolving source unit (.start (some path) unit.dependencies)
  have hready : state.isReady = false := by
    obtain ⟨reference, rest, hdeps⟩ := List.exists_cons_of_ne_nil hne
    simp [state, Resolution.settled?, Resolution.start, hdeps]
  have hlacks (k : Nat) : state.lacks k = decide (k < unit.dependencies.length) := by
    by_cases hk : k < unit.dependencies.length <;> simp [state, Resolution.start, hk]
  refine h.update htask (fun tok => ?_) (fun job hjob => ?_) ?_
  · have hjobs : ((unit.dependencies.zipIdx.map fun d => Job.request path d.2).map Job.token) =
        (List.range unit.dependencies.length).map fun k => Token.waiter (.request path k) := by
      rw [List.range_eq_range', ← List.zipIdx_map_snd 0 unit.dependencies, List.map_map,
        List.map_map]
      rfl
    have hparked : BuildTask.parked { t with state } = t.parked := by
      simp [BuildTask.parked, hstate, state]
    have hnodup : ((List.range unit.dependencies.length).map
        fun k => Token.waiter (.request path k)).Nodup :=
      List.Nodup.map (fun a b hab => by simpa using hab) List.nodup_range
    change _ + ((BuildTask.parked { t with state }).map Token.waiter).count tok + _ + _ =
      _ + _ + (owedBy path state tok).toNat
    rw [hjobs, hparked, hstate, hnodup.count]
    -- The step in hand is paid. Each request the unit makes is owed, and has its one job.
    rcases tok with (id | ⟨i, k⟩) | p
    · simp [owedBy]
    · by_cases hi : i = path
      · by_cases hk : k < unit.dependencies.length <;> simp [owedBy, hlacks, hk, hi]
        omega
      · simp [owedBy, hi, Ne.symm hi]
    · by_cases hp : p = path
      · simp [owedBy, hready, hp]
      · simp [owedBy, hp, Ne.symm hp]
  · rcases List.mem_append.mp hjob with hjob | hjob
    · refine (h.fits job hjob).update htask (Or.inl (h.not_mem_queue hjob)) fun hfin => ?_
      rw [hstate] at hfin
      cases hfin
    · obtain ⟨d, -, rfl⟩ := List.mem_map.mp hjob
      trivial
  · rintro source unit resolution ⟨⟩
    simp [Resolution.start]

/-- The task that a request in hand belongs to. -/
theorem Accounted.exists_resolving {s : Session σ} {issuer : String} {position : Nat}
    (h : s.Accounted [.waiter (.request issuer position)]) :
    ∃ source unit resolution waiters,
      s.task? issuer = some ⟨.resolving source unit resolution, waiters⟩ ∧
        resolution.answers[position]? = some none := by
  have howed := h.held_owed.1
  simp only [owes, state?, Option.any_map, Option.any_eq_true] at howed
  obtain ⟨⟨state, waiters⟩, htask, hlacks⟩ := howed
  cases state with
  | queued => cases hlacks
  | finished => cases hlacks
  | resolving source unit resolution =>
      refine ⟨source, unit, resolution, waiters, htask, ?_⟩
      simpa [Option.any_eq_true] using hlacks

/-- An answer that is noted is owed no more; with the last one the task is owed its step. -/
theorem Accounted.settle {s : Session σ} {issuer : String} {position : Nat}
    (h : s.Accounted [.waiter (.request issuer position)]) (answer : Answer) :
    (s.settle issuer position answer).Accounted [] := by
  obtain ⟨source, unit, resolution, waiters, htask, hlacks⟩ := h.exists_resolving
  have hsize : resolution.answers.length = unit.dependencies.length := by
    refine h.sized issuer source unit resolution ?_
    rw [state?, htask]
    rfl
  let next : TaskState := .resolving source unit (resolution.settle position answer)
  let jobs : List Job := if next.isReady then [.resume issuer] else []
  have hsettle : s.settle issuer position answer =
      (s.modifyTask issuer fun t => { t with state := next }).enqueue jobs :=
    settle_eq htask position answer
  have hready : TaskState.isReady (.resolving source unit resolution) = false := by
    refine Bool.eq_false_iff.mpr fun hready => ?_
    have hnot := lacks_eq_false_of_isReady hready position
    rw [TaskState.lacks_resolving, hlacks] at hnot
    cases hnot
  have hlength : position < resolution.answers.length := by
    by_contra hge
    rw [List.getElem?_eq_none (by omega)] at hlacks
    cases hlacks
  -- Of all positions only the one that is settled lacks its answer no longer.
  have hother (k : Nat) : next.lacks k =
      (!decide (k = position) && TaskState.lacks k (.resolving source unit resolution)) := by
    simp only [next, TaskState.lacks_resolving, Resolution.settle, List.getElem?_set]
    by_cases hk : position = k
    · subst hk
      simp [hlength]
    · simp [hk, Ne.symm hk]
  rw [hsettle]
  refine h.update htask (fun tok => ?_) (fun job hjob => ?_) ?_
  · have hparked : BuildTask.parked ⟨next, waiters⟩ =
        BuildTask.parked ⟨.resolving source unit resolution, waiters⟩ := rfl
    change _ + ((BuildTask.parked ⟨next, waiters⟩).map Token.waiter).count tok + _ + _ =
      _ + _ + (owedBy issuer next tok).toNat
    rw [hparked]
    rcases tok with (id | ⟨i, k⟩) | p
    · by_cases hn : next.isReady <;> simp [owedBy, jobs, hn, Job.token]
    · by_cases hi : i = issuer
      -- The request that was in hand is paid; the task is owed a step if this was the last answer.
      · by_cases hk : k = position
        · by_cases hn : next.isReady <;> simp [owedBy, jobs, hn, Job.token, hother, hi, hk, hlacks]
        · by_cases hn : next.isReady <;>
            simp [owedBy, jobs, hn, Job.token, hother, hi, hk, Ne.symm hk]
      · by_cases hn : next.isReady <;> simp [owedBy, jobs, hn, Job.token, hi, Ne.symm hi]
    · by_cases hp : p = issuer
      · by_cases hn : next.isReady <;> simp [owedBy, jobs, hn, Job.token, hp, hready]
        omega
      · by_cases hn : next.isReady <;> simp [owedBy, jobs, hn, Job.token, hp, Ne.symm hp]
  · rcases List.mem_append.mp hjob with hjob | hjob
    · refine (h.fits job hjob).update htask (Or.inl ?_) fun hfin => hfin
      intro htoken
      have howed := h.owed_of_mem_queue hjob
      rw [htoken, owes, state?, htask] at howed
      simp [hready] at howed
    · by_cases hn : next.isReady
      · simp only [jobs, hn, if_true, List.mem_singleton] at hjob
        subst hjob
        refine ⟨source, unit, resolution.settle position answer, ?_⟩
        rw [state?_enqueue, state?_modifyTask, if_pos rfl, htask]
        rfl
      · simp [jobs, hn] at hjob
  · rintro source' unit' resolution' ⟨⟩
    simpa [Resolution.settle] using hsize

end Session

end PersistedOps

import PersistedOps.Proofs.Session.Waiting

/-!
What a session carries to its waiters. A waiter is bound to the path that it has found, and outcomes are
due to it: those of the path, or its own when it has found none or is refused. All that is parked, on
its way or noted in a session is bound and due in this way, whatever the rules of being bound and due.
-/

namespace PersistedOps.Session

variable {σ : Type}

/-- What a job carries is bound and due. -/
def Backed (bound : Waiter → String → Prop) (due : Waiter → Except Failure Processed → Prop) :
    Job → Prop
  | .wake w path => bound w path
  | .settle issuer position answer => ∃ outcome,
      due (.request issuer position) outcome ∧ answer = outcome.map Processed.documents
  | _ => True

/-- All that a session holds for its waiters is bound and due. -/
structure Carries (bound : Waiter → String → Prop)
    (due : Waiter → Except Failure Processed → Prop) (s : Session σ) : Prop where
  parked : ∀ w q, s.ParkedAt w q → bound w q
  jobs : ∀ job ∈ s.queue, Backed bound due job
  noted : ∀ issuer text unit resolution (position : Nat) (answer : Answer),
    s.state? issuer = some (.resolving text unit resolution) →
    resolution.answers[position]? = some (some answer) →
    ∃ outcome, due (.request issuer position) outcome ∧ answer = outcome.map Processed.documents
  ended : ∀ id outcome, s.callOutcome? id = some outcome → due (.call id) outcome

section

variable {bound bound' : Waiter → String → Prop}
  {due due' : Waiter → Except Failure Processed → Prop} {s : Session σ}

theorem Backed.mono (hbound : ∀ w q, bound w q → bound' w q)
    (hdue : ∀ w outcome, due w outcome → due' w outcome) {job : Job} (h : Backed bound due job) :
    Backed bound' due' job := by
  cases job with
  | wake w path => exact hbound w path h
  | settle issuer position answer =>
      obtain ⟨outcome, howed, heq⟩ := h
      exact ⟨outcome, hdue _ _ howed, heq⟩
  | _ => trivial

theorem Carries.mono (h : Carries bound due s) (hbound : ∀ w q, bound w q → bound' w q)
    (hdue : ∀ w outcome, due w outcome → due' w outcome) : Carries bound' due' s where
  parked w q hw := hbound w q (h.parked w q hw)
  jobs job hjob := (h.jobs job hjob).mono hbound hdue
  noted issuer text unit resolution position answer hstate hanswer := by
    obtain ⟨outcome, howed, heq⟩ := h.noted issuer text unit resolution position answer hstate hanswer
    exact ⟨outcome, hdue _ _ howed, heq⟩
  ended id outcome hid := hdue _ _ (h.ended id outcome hid)

theorem carries_start (source : σ) (options : Options) (signer : Signer) :
    Carries bound due (start source options signer) where
  parked := by
    rintro w q ⟨t, ht, -⟩
    cases ht
  jobs := by simp [start]
  noted := by simp [start, state?, task?]
  ended := by simp [start, callOutcome?]

/-- What a session carries stands in its tasks, jobs and outcomes. -/
theorem Carries.congr {s' : Session σ} (h : Carries bound due s) (tasks : s'.tasks = s.tasks)
    (queue : ∀ job ∈ s'.queue, job ∈ s.queue) (outcomes : s'.outcomes = s.outcomes) :
    Carries bound due s' where
  parked w q hw := h.parked w q ((parkedAt_congr tasks w q).mp hw)
  jobs job hjob := h.jobs job (queue job hjob)
  noted issuer text unit resolution position answer hstate := by
    rw [state?, task?, tasks] at hstate
    exact h.noted issuer text unit resolution position answer hstate
  ended id outcome hid := by
    rw [callOutcome?, outcomes] at hid
    exact h.ended id outcome hid

theorem Carries.enqueue (h : Carries bound due s) {jobs : List Job}
    (hjobs : ∀ job ∈ jobs, Backed bound due job) : Carries bound due (s.enqueue jobs) :=
  { h with jobs := fun job hjob => (List.mem_append.mp hjob).elim (h.jobs job) (hjobs job) }

theorem Carries.addCall (h : Carries bound due s) (reference : String) (issuer : Option String) :
    Carries bound due (s.addCall reference issuer) where
  parked := h.parked
  jobs job hjob := by
    rcases List.mem_append.mp hjob with hjob | hjob
    · exact h.jobs job hjob
    · rw [List.mem_singleton.mp hjob]
      trivial
  noted := h.noted
  ended := h.ended

theorem Carries.pick {rest : Session σ} {job : Job} (h : Carries bound due s)
    (hpick : Picked s job rest) : Carries bound due rest ∧ Backed bound due job := by
  obtain ⟨hperm, heq⟩ := hpick
  refine ⟨h.congr (by rw [heq]) (fun j hj => ?_) (by rw [heq]), ?_⟩
  · exact hperm.mem_iff.mpr (List.mem_cons_of_mem _ hj)
  · exact h.jobs job (hperm.mem_iff.mpr List.mem_cons_self)

/-- A waiter takes an outcome that is due to it. -/
theorem Carries.deliver (h : Carries bound due s) {w : Waiter} {outcome : Except Failure Processed}
    (hdue : due w outcome) : Carries bound due (s.deliver w outcome) := by
  cases w with
  | call id =>
      refine { h with ended := fun i o hi => ?_ }
      rw [callOutcome?_deliver] at hi
      rcases Option.or_eq_some_iff.mp hi with hold | ⟨-, hnew⟩
      · exact h.ended i o hold
      · split at hnew
        · rename_i hid
          cases hnew
          exact hid ▸ hdue
        · cases hnew
  | request issuer position =>
      refine h.enqueue fun job hjob => ?_
      rw [List.mem_singleton.mp hjob]
      exact ⟨outcome, hdue, rfl⟩

theorem Carries.stopWaiting (h : Carries bound due s) (w : Waiter) (path : String) :
    Carries bound due (s.stopWaiting w path) := by
  rw [stopWaiting_eq]
  exact h.congr rfl (fun _ => id) rfl

theorem mem_queue_ensureTask {path : String} {job : Job} (h : job ∈ (s.ensureTask path).queue) :
    job ∈ s.queue ∨ job = .start path := by
  unfold Session.ensureTask at h
  split at h
  · exact .inl h
  · exact (List.mem_append.mp h).imp_right List.mem_singleton.mp

theorem Carries.ensureTask (h : Carries bound due s) (path : String) :
    Carries bound due (s.ensureTask path) where
  parked w q hw := h.parked w q ((s.parkedAt_ensureTask path w q).mp hw)
  jobs job hjob := by
    rcases mem_queue_ensureTask hjob with hjob | rfl
    · exact h.jobs job hjob
    · trivial
  noted issuer text unit resolution position answer hstate := by
    rcases s.state?_ensureTask path issuer with hold | ⟨-, hnew⟩
    · rw [hold] at hstate
      exact h.noted issuer text unit resolution position answer hstate
    · rw [hnew] at hstate
      cases hstate
  ended id outcome hid := by
    rw [ensureTask_eq] at hid
    exact h.ended id outcome hid

/-- A waiter that parks is bound to the path. -/
theorem Carries.park (h : Carries bound due s) {w : Waiter} {path : String} {t : BuildTask}
    (htask : s.task? path = some t) (hopen : t.state.outcome? = none) (hbound : bound w path) :
    Carries bound due (s.park w path) where
  parked w' q hw := by
    rcases (parkedAt_park htask hopen w w' q).mp hw with hw | ⟨rfl, rfl⟩
    · exact h.parked w' q hw
    · exact hbound
  jobs job hjob := by
    rw [park_eq] at hjob
    exact h.jobs job hjob
  noted issuer text unit resolution position answer hstate := by
    rw [state?_park] at hstate
    exact h.noted issuer text unit resolution position answer hstate
  ended id outcome hid := by
    rw [park_eq] at hid
    exact h.ended id outcome hid

/-- A change of a task's state frees those parked there, or leaves them. -/
theorem parkedAt_of_setState {path : String} {t : BuildTask} {state : TaskState}
    (htask : s.task? path = some t) (hopen : t.state.outcome? = none) {w : Waiter} {q : String}
    (h : (s.modifyTask path fun t => { t with state }).ParkedAt w q) : s.ParkedAt w q := by
  rw [parkedAt_modifyTask] at h
  split at h
  · rename_i hq
    subst hq
    obtain ⟨t', ht', hw⟩ := h
    cases htask.symm.trans ht'
    refine ⟨t, htask, ?_⟩
    unfold BuildTask.parked at hw ⊢
    rw [hopen]
    split at hw
    · cases hw
    · exact hw
  · exact h

/-- A task that is not finished goes on to a state in which what is noted was due. -/
theorem Carries.setState (h : Carries bound due s) {path : String} {t : BuildTask}
    {state : TaskState} (htask : s.task? path = some t) (hopen : t.state.outcome? = none)
    (hnoted : ∀ text unit resolution (position : Nat) (answer : Answer),
      state = .resolving text unit resolution → resolution.answers[position]? = some (some answer) →
      ∃ outcome, due (.request path position) outcome ∧ answer = outcome.map Processed.documents) :
    Carries bound due (s.modifyTask path fun t => { t with state }) where
  parked w q hw := h.parked w q (parkedAt_of_setState htask hopen hw)
  jobs := h.jobs
  noted issuer text unit resolution position answer hstate hanswer := by
    rw [state?_setState htask] at hstate
    split at hstate
    · rename_i hissuer
      exact hissuer ▸ hnoted text unit resolution position answer (Option.some.inj hstate) hanswer
    · exact h.noted issuer text unit resolution position answer hstate hanswer
  ended := h.ended

/-- All that wait for a unit go on when it is finished. -/
theorem Carries.finish (h : Carries bound due s) {path : String} {t : BuildTask}
    (htask : s.task? path = some t) (hopen : t.state.outcome? = none)
    (outcome : Except Failure Processed) : Carries bound due (s.finish path outcome) := by
  unfold Session.finish
  refine (h.setState htask hopen (by rintro _ _ _ _ _ ⟨⟩)).enqueue ?_
  rw [htask]
  intro job hjob
  obtain ⟨w, hw, rfl⟩ := List.mem_map.mp hjob
  refine h.parked w path ⟨t, htask, ?_⟩
  simpa [BuildTask.parked, hopen] using hw

/-- Those whose first step finds a path are bound to it, and to those bound to a path its outcome is
due; apart from that a waiter's first step may find nothing, or be refused. -/
structure Rules [UnitSource σ] (bound : Waiter → String → Prop)
    (due : Waiter → Except Failure Processed → Prop) (s : Session σ) (job : Job) : Prop where
  found : ∀ {w reference path}, s.Seeks job w reference →
    UnitSource.locate s.source reference (s.issuer? w) = .ok path → bound w path
  lost : ∀ {w reference f}, s.Seeks job w reference →
    UnitSource.locate s.source reference (s.issuer? w) = .error f → due w (.error f)
  refused : ∀ {w reference issuer path chain}, s.Seeks job w reference →
    UnitSource.locate s.source reference (s.issuer? w) = .ok path → s.issuer? w = some issuer →
    s.waiting.cycle? issuer path = some chain → due w (.error (.dependencyCycle chain))
  shared : ∀ {w path outcome}, bound w path → s.outcome? path = some outcome → due w outcome

/-- A step by the rules carries on. -/
theorem Carries.move [UnitSource σ] {s' : Session σ} {job : Job} (h : Carries bound due s)
    (hrules : Rules bound due s job) (hbacked : Backed bound due job) (hmove : Move s job s') :
    Carries bound due s' := by
  -- A waiter gets an answer by a rule, or from the unit it is bound to; other steps leave the answers alone.
  cases hmove with
  | lost seeks located => exact h.deliver (hrules.lost seeks located)
  | refused seeks located issued cycle => exact h.deliver (hrules.refused seeks located issued cycle)
  | met seeks located finished =>
      exact (h.stopWaiting _ _).deliver (hrules.shared (hrules.found seeks located) finished)
  | parked seeks located _ unfinished =>
      obtain ⟨t, htask, hopen⟩ := exists_open_ensureTask unfinished
      exact (h.ensureTask _).park htask hopen (hrules.found seeks located)
  | woken finished => exact (h.stopWaiting _ _).deliver (hrules.shared hbacked finished)
  | @ended path outcome queued =>
      obtain ⟨t, htask, hstate⟩ := Option.map_eq_some_iff.mp queued
      have hread : Carries bound due { s with reads := s.reads ++ [path] } := { h with }
      exact hread.finish htask (by rw [hstate]; rfl) outcome
  | @expanded path text unit queued =>
      obtain ⟨t, htask, hstate⟩ := Option.map_eq_some_iff.mp queued
      have hread : Carries bound due { s with reads := s.reads ++ [path] } := { h with }
      refine (hread.setState htask (by rw [hstate]; rfl) ?_).enqueue fun job hjob => ?_
      · rintro _ _ _ position answer ⟨⟩ hanswer
        simp only [Resolution.start, List.getElem?_map] at hanswer
        obtain ⟨_, -, hnone⟩ := Option.map_eq_some_iff.mp hanswer
        cases hnone
      · obtain ⟨d, -, rfl⟩ := List.mem_map.mp hjob
        trivial
  | @noted issuer text position answer unit resolution waiters task lacking =>
      rw [settle_eq task]
      refine (h.setState task rfl ?_).enqueue fun job hjob => ?_
      · rintro _ _ _ k a ⟨⟩ ha
        rw [Resolution.settle, List.getElem?_set] at ha
        split at ha
        · rename_i hk
          subst hk
          split at ha
          · cases ha
            exact hbacked
          · cases ha
        · exact h.noted issuer text unit resolution k a (by rw [state?, task]; rfl) ha
      · split at hjob
        · rw [List.mem_singleton.mp hjob]
          trivial
        · cases hjob
  | resumed task => exact h.finish task rfl _

end

end PersistedOps.Session

import PersistedOps.Proofs.Session.Outcome

/-!
Sessions come to an end. A potential counts the steps ahead: each step of a task takes something off
it, and only a call puts something on it. So over a source with finitely many units every call ends,
after a number of steps that is known when it is made, in whatever order they are taken.
-/

namespace PersistedOps

/-- A step of a task, rather than a call. -/
def Event.isWork {σ : Type} : Event σ → Bool
  | .work _ => true
  | _ => false

def Event.isCall {σ : Type} : Event σ → Bool
  | .call _ => true
  | _ => false

namespace Session

open RecursiveBuild

variable {σ : Type} [UnitSource σ]

/-- All units of a source are among the given ones. -/
def WithinUnits (source : σ) (units : List String) : Prop :=
  ∀ reference issuer path, UnitSource.locate source reference issuer = .ok path → path ∈ units

/-- The units in memory are finitely many. -/
theorem withinUnits_paths (m : MemorySource) : WithinUnits m m.paths := by
  intro reference issuer path hlocated
  have h : Reference.locate (fun path => (m.get? path).isSome) reference issuer = .ok path :=
    hlocated
  rw [Reference.locate, bind_eq_ok_iff] at h
  obtain ⟨joined, -, h⟩ := h
  split at h
  · rename_i found hfound
    cases h
    have hunit := List.find?_some hfound
    obtain ⟨text, htext⟩ := Option.isSome_iff_exists.mp hunit
    obtain ⟨before, after, hunits, -⟩ := List.lookup_eq_some_iff.mp htext
    rw [MemorySource.paths, List.mem_eraseDups, hunits]
    simp
  · cases h

/-- The steps that the task of a unit leads to: its own, and four for each dependency that it asks
for. -/
def taskCost (source : σ) (path : String) : Nat :=
  match UnitSource.read source path with
  | .error _ => 1
  | .ok text => match Script.extract (Processed.fileName (some path)) text with
    | .error _ => 1
    | .ok unit => 1 + 4 * unit.dependencies.length

theorem taskCost_pos (source : σ) (path : String) : 0 < taskCost source path := by
  unfold taskCost
  split
  · exact Nat.one_pos
  · split <;> omega

theorem taskCost_eq {source : σ} {path text : String} {unit : Script.Extracted}
    (h : Loads source path text unit) :
    taskCost source path = 1 + 4 * unit.dependencies.length := by
  simp only [taskCost, h.read, h.extracted]

/-- The steps that a job leads to. A request takes a step, is woken, has its answer noted, and may be
the last one that its unit waited for. -/
def jobCost (source : σ) : Job → Nat
  | .call _ => 4
  | .request _ _ => 4
  | .start path => taskCost source path
  | .wake _ _ => 3
  | .settle _ _ _ => 2
  | .resume _ => 1

theorem jobCost_pos (source : σ) (job : Job) : 0 < jobCost source job := by
  cases job with
  | start path => exact taskCost_pos source path
  | _ => simp [jobCost]

/-- The steps that jobs lead to. -/
def queueCost (source : σ) (jobs : List Job) : Nat := (jobs.map (jobCost source)).sum

/-- The steps that those parked at tasks lead to. -/
def parkedCost (s : Session σ) : Nat := (s.tasks.map fun e => 3 * e.2.parked.length).sum

/-- The steps that the units without a task may lead to. -/
def unitsCost (source : σ) (units : List String) (s : Session σ) : Nat :=
  ((units.filter fun path => (s.task? path).isNone).map (taskCost source)).sum

/-- The potential of a session. -/
def load (source : σ) (units : List String) (s : Session σ) : Nat :=
  queueCost source s.queue + parkedCost s + unitsCost source units s

section

variable (source : σ) (units : List String)

@[simp] theorem queueCost_append (jobs more : List Job) :
    queueCost source (jobs ++ more) = queueCost source jobs + queueCost source more := by
  simp [queueCost]

@[simp] theorem queueCost_singleton (job : Job) : queueCost source [job] = jobCost source job := by
  simp [queueCost]

/-- The load looks at tasks and jobs alone. -/
theorem load_congr {s s' : Session σ} (htasks : s'.tasks = s.tasks) (hqueue : s'.queue = s.queue) :
    load source units s' = load source units s := by
  simp only [load, parkedCost, unitsCost, task?, htasks, hqueue]

theorem load_addCall (s : Session σ) (reference : String) (issuer : Option String) :
    load source units (s.addCall reference issuer) = load source units s + 4 := by
  simp only [load, addCall, queueCost_append, queueCost_singleton, jobCost]
  change _ + 4 + parkedCost s + unitsCost source units s = _
  omega

theorem load_pick {s rest : Session σ} {job : Job} (hpick : Picked s job rest) :
    load source units s = load source units rest + jobCost source job := by
  obtain ⟨hperm, heq⟩ := hpick
  have hqueue : queueCost source s.queue = queueCost source (job :: rest.queue) :=
    (hperm.map (jobCost source)).sum_nat
  have hrest : load source units rest =
      queueCost source rest.queue + parkedCost s + unitsCost source units s := by
    rw [heq]
    rfl
  rw [hrest, load, hqueue]
  simp only [queueCost, List.map_cons, List.sum_cons]
  omega

/-- Delivery leads to a note at most. -/
theorem load_deliver (s : Session σ) (w : Waiter) (outcome : Except Failure Processed) :
    load source units (s.deliver w outcome) ≤ load source units s + 2 := by
  cases w with
  | call id =>
      have heq : load source units (s.deliver (.call id) outcome) = load source units s :=
        load_congr source units rfl rfl
      omega
  | request issuer position =>
      simp only [load, deliver, enqueue, queueCost_append, queueCost_singleton, jobCost]
      change _ + 2 + parkedCost s + unitsCost source units s ≤ _
      omega

/-- What a change of one task, with the jobs that it queues, does to the load. -/
theorem load_update {s : Session σ} (hkeys : (s.tasks.map Prod.fst).Nodup) {path : String}
    {t : BuildTask} (htask : s.task? path = some t) (f : BuildTask → BuildTask) (jobs : List Job) :
    load source units ((s.modifyTask path f).enqueue jobs) + 3 * t.parked.length =
      load source units s + queueCost source jobs + 3 * (f t).parked.length := by
  have hparked : parkedCost (s.modifyTask path f) + 3 * t.parked.length =
      parkedCost s + 3 * (f t).parked.length :=
    sum_modify hkeys htask f fun t => 3 * t.parked.length
  have hunits : unitsCost source units (s.modifyTask path f) = unitsCost source units s := by
    unfold unitsCost
    congr 2
    refine List.filter_congr fun p _ => ?_
    rw [task?_modifyTask]
    split <;> simp
  simp only [load, enqueue, queueCost_append]
  change queueCost source s.queue + queueCost source jobs + parkedCost (s.modifyTask path f) +
    unitsCost source units (s.modifyTask path f) + _ = _
  rw [hunits]
  omega

theorem sum_filter_ne_le (g : String → Nat) (p : String → Bool) (path : String)
    (paths : List String) :
    ((paths.filter fun q => p q && q != path).map g).sum ≤ ((paths.filter p).map g).sum := by
  induction paths with
  | nil => simp
  | cons q paths ih =>
      rw [List.filter_cons, List.filter_cons]
      by_cases hp : p q
      · by_cases hq : q != path
        · simp only [hp, hq, Bool.and_self, if_true, List.map_cons, List.sum_cons]
          omega
        · simp only [hp, hq, Bool.and_false, Bool.false_eq_true, if_false, if_true, List.map_cons,
            List.sum_cons]
          omega
      · simpa [hp] using ih

/-- Leaving out a path that counted takes at least its share off. -/
theorem sum_filter_ne_add_le (g : String → Nat) {p : String → Bool} {path : String}
    {paths : List String} (hp : p path = true) (hpath : path ∈ paths) :
    ((paths.filter fun q => p q && q != path).map g).sum + g path ≤
      ((paths.filter p).map g).sum := by
  induction paths with
  | nil => cases hpath
  | cons q paths ih =>
      rw [List.filter_cons, List.filter_cons]
      by_cases hq : q = path
      · subst hq
        have := sum_filter_ne_le g p q paths
        simp only [hp, bne_self_eq_false, Bool.and_false, Bool.false_eq_true, if_false, if_true,
          List.map_cons, List.sum_cons]
        omega
      · have hmem : path ∈ paths := by simpa [Ne.symm hq] using hpath
        have := ih hmem
        by_cases hpq : p q
        · have hne : (q != path) = true := by simpa using hq
          simp only [hpq, hne, Bool.and_self, if_true, List.map_cons, List.sum_cons]
          omega
        · simpa [hpq] using this

/-- A task that is started was accounted for with its unit. -/
theorem load_ensureTask (s : Session σ) {path : String} (hpath : path ∈ units) :
    load source units (s.ensureTask path) ≤ load source units s := by
  unfold ensureTask
  split
  · exact Nat.le_refl _
  · rename_i hnone
    let s' : Session σ := { s with
      tasks := s.tasks ++ [(path, ⟨.queued, []⟩)]
      queue := s.queue ++ [.start path] }
    have hparked : parkedCost s' = parkedCost s := by simp [s', parkedCost, BuildTask.parked]
    have htask (p : String) : (s'.task? p).isNone = ((s.task? p).isNone && p != path) := by
      have htask := s.task?_ensureTask path p
      rw [ensureTask, hnone] at htask
      have htask' : s'.task? p = _ := htask
      rw [htask']
      split
      · rename_i hp
        simp [hp]
      · rename_i hp
        simp [hp]
    have hunits : unitsCost source units s' + taskCost source path ≤
        unitsCost source units s := by
      unfold unitsCost
      rw [List.filter_congr fun p _ => htask p]
      exact sum_filter_ne_add_le _ (by simp [hnone]) hpath
    change load source units s' ≤ _
    simp only [load]
    have hqueue : queueCost source s'.queue = queueCost source s.queue + taskCost source path := by
      simp [s', jobCost]
    omega

theorem load_stopWaiting (s : Session σ) (w : Waiter) (path : String) :
    load source units (s.stopWaiting w path) = load source units s := by
  rw [stopWaiting_eq]
  exact load_congr source units rfl rfl

/-- A waiter that parks leads to being woken. -/
theorem load_park {s : Session σ} (hkeys : (s.tasks.map Prod.fst).Nodup) {w : Waiter}
    {path : String} {t : BuildTask} (htask : s.task? path = some t)
    (hopen : t.state.outcome? = none) :
    load source units (s.park w path) = load source units s + 3 := by
  let f (t : BuildTask) : BuildTask := { t with waiters := t.waiters ++ [w] }
  have hpark : load source units (s.park w path) =
      load source units ((s.modifyTask path f).enqueue []) := by
    rw [park_eq]
    exact load_congr source units rfl (List.append_nil _).symm
  have hupdate := load_update source units hkeys htask f []
  have hold : t.parked = t.waiters := by simp [BuildTask.parked, hopen]
  have hnew : (f t).parked = t.waiters ++ [w] := by simp [f, BuildTask.parked, hopen]
  rw [hold, hnew, List.length_append, List.length_singleton] at hupdate
  simp only [queueCost, List.map_nil, List.sum_nil] at hupdate
  omega

/-- Waking all that are parked at a unit was accounted for. -/
theorem load_finish {s : Session σ} (hkeys : (s.tasks.map Prod.fst).Nodup) {path : String}
    {t : BuildTask} (htask : s.task? path = some t) (hopen : t.state.outcome? = none)
    (outcome : Except Failure Processed) :
    load source units (s.finish path outcome) = load source units s := by
  let f (t : BuildTask) : BuildTask := { t with state := .finished outcome }
  have hfinish : s.finish path outcome =
      (s.modifyTask path f).enqueue (t.waiters.map fun w => .wake w path) := by
    rw [finish, htask]
    rfl
  have hupdate := load_update source units hkeys htask f (t.waiters.map fun w => .wake w path)
  have hold : t.parked = t.waiters := by simp [BuildTask.parked, hopen]
  have hnew : (f t).parked = [] := rfl
  have hcost : queueCost source (t.waiters.map fun w => Job.wake w path) =
      3 * t.waiters.length := by
    simp [queueCost, jobCost, Function.comp_def, Nat.mul_comm]
  rw [hold, hnew, hcost, List.length_nil] at hupdate
  rw [hfinish]
  omega

/-- A task that goes on leads to the jobs that it queues. -/
theorem load_goOn {s : Session σ} (hkeys : (s.tasks.map Prod.fst).Nodup) {path : String}
    {t : BuildTask} {state : TaskState} (htask : s.task? path = some t)
    (hopen : t.state.outcome? = none) (hstate : state.outcome? = none) (jobs : List Job) :
    load source units ((s.modifyTask path fun t => { t with state }).enqueue jobs) =
      load source units s + queueCost source jobs := by
  have hupdate := load_update source units hkeys htask
    (fun t => { t with state }) jobs
  have hparked : BuildTask.parked { t with state } = t.parked := by
    simp [BuildTask.parked, hopen, hstate]
  rw [hparked] at hupdate
  omega

/-- Every step takes something off the load. -/
theorem load_move {s s' : Session σ} {job : Job} (hsource : s.source = source)
    (hwithin : WithinUnits source units) (haccount : s.Accounted [job.token])
    (hmove : Move s job s') :
    load source units s' < load source units s + jobCost source job := by
  -- Each move is paid for by what its job costs, and what it leads to costs less.
  have seeks_cost {w : Waiter} {reference : String} (seeks : s.Seeks job w reference) :
      jobCost source job = 4 := by
    cases seeks <;> rfl
  cases hmove with
  | @lost _ w _ f seeks located =>
      have := load_deliver source units s w (.error f)
      have := seeks_cost seeks
      omega
  | @refused _ w _ _ _ chain seeks =>
      have := load_deliver source units s w (.error (.dependencyCycle chain))
      have := seeks_cost seeks
      omega
  | @met _ w _ path outcome seeks =>
      have := load_deliver source units (s.stopWaiting w path) w outcome
      have := load_stopWaiting source units s w path
      have := seeks_cost seeks
      omega
  | @parked _ w reference path seeks located clear unfinished =>
      rw [hsource] at located
      obtain ⟨t, htask, hopen⟩ := exists_open_ensureTask unfinished
      have := load_park source units (w := w)
        (haccount.ensureTask path).keys htask hopen
      have := load_ensureTask source units s (hwithin _ _ _ located)
      have := seeks_cost seeks
      omega
  | @woken w path outcome finished =>
      have := load_deliver source units (s.stopWaiting w path) w outcome
      have := load_stopWaiting source units s w path
      simp only [jobCost]
      omega
  | @ended path outcome queued ends =>
      obtain ⟨t, htask, hstate⟩ := Option.map_eq_some_iff.mp queued
      have hfinish := load_finish source units
        (s := { s with reads := s.reads ++ [path] }) haccount.keys htask (by rw [hstate]; rfl)
        outcome
      have hreads : load source units { s with reads := s.reads ++ [path] } =
          load source units s := load_congr source units rfl rfl
      have := jobCost_pos source (.start path)
      omega
  | @expanded path text unit queued read extracted some =>
      obtain ⟨t, htask, hstate⟩ := Option.map_eq_some_iff.mp queued
      have hload : Loads source path text unit := ⟨hsource ▸ read, extracted⟩
      have hstart : (TaskState.resolving text unit
          (.start (.some path) unit.dependencies)).outcome? = none := rfl
      have hexpand := load_goOn source units
        (s := { s with reads := s.reads ++ [path] }) haccount.keys htask (by rw [hstate]; rfl)
        hstart (unit.dependencies.zipIdx.map fun d => .request path d.2)
      have hreads : load source units { s with reads := s.reads ++ [path] } =
          load source units s := load_congr source units rfl rfl
      have hcost : queueCost source (unit.dependencies.zipIdx.map fun d => .request path d.2) =
          4 * unit.dependencies.length := by
        simp [queueCost, jobCost, Function.comp_def, Nat.mul_comm]
      change load source units (Session.enqueue _ _) < _
      rw [hexpand, hreads, hcost]
      simp only [jobCost, taskCost_eq hload]
      omega
  | @noted issuer text position answer unit resolution waiters task lacking =>
      rw [settle_eq task, load_goOn source units haccount.keys task rfl rfl]
      have hlast : queueCost source (if (resolution.settle position answer).settled?.isSome then
          [.resume issuer] else []) ≤ 1 := by
        split <;> simp [queueCost, jobCost]
      simp only [jobCost]
      omega
  | @resumed path text unit resolution waiters answers task settled =>
      have := load_finish source units haccount.keys task rfl
        (s.assemble path text unit answers)
      have := jobCost_pos source (.resume path)
      omega

end

/-! Every call ends -/

variable {source : σ} {units : List String} {options : Options} {signer : Signer}

/-- In a plain session the source stays as it is. -/
theorem source_after (source : σ) (options : Options) (signer : Signer) {events : List (Event σ)}
    (hplain : ∀ e ∈ events, e.Plain) :
    ((start source options signer).after events).source = source := by
  have hall : Hereditary source options signer fun _ _ => True :=
    ⟨fun _ => trivial, fun _ _ => trivial, fun _ _ => trivial⟩
  exact (justified_after hall hplain).source_eq

/-- Work takes something off the load, as long as there is any. -/
theorem load_work (hwithin : WithinUnits source units) {s : Session σ} (haccount : s.Accounted [])
    (hsource : s.source = source) (hbusy : s.queue ≠ []) (choice : Nat) :
    load source units (s.occur (.work choice)) < load source units s := by
  rcases move_work haccount choice with ⟨hidle, -⟩ | ⟨job, rest, hpick, hrest, hmove⟩
  · exact absurd hidle hbusy
  · have hpicked := picked_of_pick? hpick
    have hrestSource : rest.source = source := by
      rw [hpicked.rest_eq]
      exact hsource
    have hload := load_move source units hrestSource hwithin hrest hmove
    have hpickLoad := load_pick source units hpicked
    omega

/-- A call puts four steps on the load; a step takes at least one off. -/
theorem load_occur (hwithin : WithinUnits source units) {events : List (Event σ)}
    (hevents : ∀ e ∈ events, e.Plain) {e : Event σ} (he : e.Plain)
    (hbusy : ((start source options signer).after events).queue ≠ []) :
    e.isWork.toNat + load source units (((start source options signer).after events).occur e) ≤
      load source units ((start source options signer).after events) + 4 * e.isCall.toNat := by
  have haccount := accounted_after source options signer events
  have hsource := source_after source options signer hevents
  generalize (start source options signer).after events = s at haccount hsource hbusy ⊢
  cases e with
  | call c =>
      have := load_addCall source units s c.reference c.issuer
      simp only [Event.isWork, Event.isCall, occur, Bool.toNat_true, Bool.toNat_false]
      omega
  | change source => exact he.elim
  | work choice =>
      have := load_work hwithin haccount hsource hbusy choice
      simp only [Event.isWork, Event.isCall, Bool.toNat_true, Bool.toNat_false]
      omega

/-- As long as a call has not ended, every step takes something off the load. -/
theorem load_after (hwithin : WithinUnits source units) {events more : List (Event σ)}
    (hevents : ∀ e ∈ events, e.Plain) (hmore : ∀ e ∈ more, e.Plain) {id : Nat} {c : Call}
    (hcall : ((start source options signer).after events).calls[id]? = some c)
    (hnone : ((start source options signer).after (events ++ more)).callOutcome? id = none) :
    more.countP Event.isWork +
        load source units ((start source options signer).after (events ++ more)) ≤
      load source units ((start source options signer).after events) +
        4 * more.countP Event.isCall := by
  induction more generalizing events with
  | nil => simp
  | cons e more ih =>
      rw [List.append_cons] at hnone ⊢
      have he : e.Plain := hmore e List.mem_cons_self
      have hevents' : ∀ d ∈ events ++ [e], d.Plain := by
        intro d hd
        rcases List.mem_append.mp hd with hd | hd
        · exact hevents d hd
        · exact List.mem_singleton.mp hd ▸ he
      have hbusy : ((start source options signer).after events).queue ≠ [] := by
        obtain ⟨hid, -⟩ := List.getElem?_eq_some_iff.mp hcall
        refine queue_ne_nil_of_call (accounted_after source options signer events)
          (noted_after source options signer events) hid ?_
        by_contra hsome
        obtain ⟨outcome, houtcome⟩ := Option.ne_none_iff_exists'.mp hsome
        have hlater := callOutcome?_after houtcome ([e] ++ more)
        rw [← List.append_assoc, hnone] at hlater
        cases hlater
      have hstep := load_occur hwithin hevents he hbusy
      have hrest := ih hevents' (fun d hd => hmore d (List.mem_cons_of_mem _ hd))
        (calls_after hcall _) hnone
      have hoccur : (start source options signer).after (events ++ [e]) =
          ((start source options signer).after events).occur e := by
        rw [after_append]
        rfl
      rw [hoccur] at hrest
      rw [List.countP_cons, List.countP_cons]
      rcases hwork : e.isWork with _ | _ <;> rcases hcalls : e.isCall with _ | _ <;>
        simp only [hwork, hcalls, Bool.toNat_true, Bool.toNat_false, if_true, if_false,
          Bool.false_eq_true] at hstep ⊢ <;> omega

/-- Over a source with finitely many units every call ends: no schedule can put off its outcome for
longer than the steps that the session has ahead, with four more for each call made since. -/
theorem call_ends (hwithin : WithinUnits source units) {events : List (Event σ)}
    (hevents : ∀ e ∈ events, e.Plain) {id : Nat} {c : Call}
    (hcall : ((start source options signer).after events).calls[id]? = some c) :
    ∃ bound, ∀ more : List (Event σ), (∀ e ∈ more, e.Plain) →
      bound + 4 * more.countP Event.isCall < more.countP Event.isWork →
      (((start source options signer).after (events ++ more)).callOutcome? id).isSome := by
  refine ⟨load source units ((start source options signer).after events), fun more hmore hlong => ?_⟩
  by_contra hnone
  rw [Option.not_isSome_iff_eq_none] at hnone
  have := load_after hwithin hevents hmore hcall hnone
  omega

end Session

end PersistedOps

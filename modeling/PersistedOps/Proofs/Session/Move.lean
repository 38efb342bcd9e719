import PersistedOps.Proofs.Session.Account

/-!
What a step can do. Every step of a session whose account is in order is one of a few moves, each with
all that held when it was made; what moves keep, every schedule keeps.
-/

namespace PersistedOps.Session

variable {σ : Type}

/-- A job in which a waiter looks for the unit of a reference. -/
inductive Seeks (s : Session σ) : Job → Waiter → String → Prop
  | call {id : Nat} {c : Call} (made : s.calls[id]? = some c) :
      Seeks s (.call id) (.call id) c.reference
  | request {issuer : String} {position : Nat} {source : String} {unit : Script.Extracted}
      {resolution : Resolution} {waiters : List Waiter} {reference : String}
      (task : s.task? issuer = some ⟨.resolving source unit resolution, waiters⟩)
      (asked : unit.dependencies[position]? = some reference) :
      Seeks s (.request issuer position) (.request issuer position) reference

/-- How the task of a unit can end in its first step. -/
inductive EndsAtOnce [UnitSource σ] (s : Session σ) (path : String) :
    Except Failure Processed → Prop
  | unread {f : Failure} (read : UnitSource.read s.source path = .error f) :
      EndsAtOnce s path (.error f)
  | unextracted {source : String} {f : Failure} (read : UnitSource.read s.source path = .ok source)
      (extracted : Script.extract (Processed.fileName (some path)) source = .error f) :
      EndsAtOnce s path (.error f)
  | alone {source : String} {unit : Script.Extracted}
      (read : UnitSource.read s.source path = .ok source)
      (extracted : Script.extract (Processed.fileName (some path)) source = .ok unit)
      (none : unit.dependencies = []) : EndsAtOnce s path (s.assemble path source unit [])

/-- The moves of a session that has taken a job in hand. -/
inductive Move [UnitSource σ] (s : Session σ) : Job → Session σ → Prop
  /-- No unit has the reference. -/
  | lost {job : Job} {w : Waiter} {reference : String} {f : Failure}
      (seeks : s.Seeks job w reference)
      (located : UnitSource.locate s.source reference (s.issuer? w) = .error f) :
      Move s job (s.deliver w (.error f))
  /-- Waiting for the unit would close a cycle. -/
  | refused {job : Job} {w : Waiter} {reference issuer path : String} {chain : List String}
      (seeks : s.Seeks job w reference)
      (located : UnitSource.locate s.source reference (s.issuer? w) = .ok path)
      (issued : s.issuer? w = some issuer) (cycle : s.waiting.cycle? issuer path = some chain) :
      Move s job (s.deliver w (.error (.dependencyCycle chain)))
  /-- The unit is finished already. -/
  | met {job : Job} {w : Waiter} {reference path : String} {outcome : Except Failure Processed}
      (seeks : s.Seeks job w reference)
      (located : UnitSource.locate s.source reference (s.issuer? w) = .ok path)
      (finished : s.outcome? path = some outcome) :
      Move s job ((s.stopWaiting w path).deliver w outcome)
  /-- The waiter begins to wait. -/
  | parked {job : Job} {w : Waiter} {reference path : String}
      (seeks : s.Seeks job w reference)
      (located : UnitSource.locate s.source reference (s.issuer? w) = .ok path)
      (clear : ∀ issuer, s.issuer? w = some issuer → s.waiting.cycle? issuer path = none)
      (unfinished : s.outcome? path = none) : Move s job ((s.ensureTask path).park w path)
  /-- The waiter has waited long enough. -/
  | woken {w : Waiter} {path : String} {outcome : Except Failure Processed}
      (finished : s.outcome? path = some outcome) :
      Move s (.wake w path) ((s.stopWaiting w path).deliver w outcome)
  /-- A unit needs nothing to be finished. -/
  | ended {path : String} {outcome : Except Failure Processed}
      (queued : s.state? path = some .queued) (ends : s.EndsAtOnce path outcome) :
      Move s (.start path) ({ s with reads := s.reads ++ [path] }.finish path outcome)
  /-- A unit asks for its dependencies. -/
  | expanded {path source : String} {unit : Script.Extracted}
      (queued : s.state? path = some .queued) (read : UnitSource.read s.source path = .ok source)
      (extracted : Script.extract (Processed.fileName (some path)) source = .ok unit)
      (some : unit.dependencies ≠ []) :
      Move s (.start path) ({ s with reads := s.reads ++ [path] }.expand path source unit)
  /-- A unit notes an answer. -/
  | noted {issuer source : String} {position : Nat} {answer : Answer} {unit : Script.Extracted}
      {resolution : Resolution} {waiters : List Waiter}
      (task : s.task? issuer = some ⟨.resolving source unit resolution, waiters⟩)
      (lacking : resolution.answers[position]? = some none) :
      Move s (.settle issuer position answer) (s.settle issuer position answer)
  /-- A unit has all its answers. -/
  | resumed {path source : String} {unit : Script.Extracted} {resolution : Resolution}
      {waiters : List Waiter} {answers : List Answer}
      (task : s.task? path = some ⟨.resolving source unit resolution, waiters⟩)
      (settled : resolution.answers = answers.map some) :
      Move s (.resume path) (s.finish path (s.assemble path source unit answers))

/-- The step of a job in hand is a move. -/
theorem move_step [UnitSource σ] {s : Session σ} {job : Job} (h : s.Accounted [job.token])
    (hfits : s.Fits job) : Move s job (s.step job) := by
  -- Calls and requests look for their unit in the same way.
  have seek {w : Waiter} {reference : String} (seeks : s.Seeks job w reference) :
      Move s job (s.seek w reference) := by
    unfold Session.seek
    split
    · rename_i f hlocate
      exact .lost seeks hlocate
    · rename_i path hlocate
      split
      · rename_i chain hcycle
        obtain ⟨issuer, hissuer, hcycle⟩ := Option.bind_eq_some_iff.mp hcycle
        exact .refused seeks hlocate hissuer hcycle
      · rename_i hcycle
        unfold Session.wait
        split
        · rename_i outcome houtcome
          exact .met seeks hlocate houtcome
        · rename_i houtcome
          refine .parked seeks hlocate (fun issuer hissuer => ?_) houtcome
          rw [hissuer] at hcycle
          exact hcycle
  cases job with
  | call id =>
      have hid : id < s.calls.length := by
        have howed := h.held_owed.1
        simp only [Job.token, owes, Bool.and_eq_true, decide_eq_true_eq] at howed
        exact howed.1
      have hmade : s.calls[id]? = some s.calls[id] := List.getElem?_eq_getElem hid
      rw [Session.step, hmade]
      exact seek (.call hmade)
  | start path =>
      have hqueued : s.state? path = some .queued := hfits
      rw [Session.step]
      unfold Session.begin
      simp only
      split
      · rename_i f hread
        exact .ended hqueued (.unread hread)
      · rename_i source hread
        split
        · rename_i f hextract
          exact .ended hqueued (.unextracted hread hextract)
        · rename_i unit hextract
          split
          · rename_i hnone
            have hnone : unit.dependencies = [] := List.isEmpty_iff.mp hnone
            exact .ended hqueued (.alone hread hextract hnone)
          · rename_i hsome
            refine .expanded hqueued hread hextract fun hnone => hsome ?_
            rw [hnone]
            rfl
  | request issuer position =>
      obtain ⟨source, unit, resolution, waiters, htask, hlacks⟩ := h.exists_resolving
      have hlength : resolution.answers.length = unit.dependencies.length := by
        refine h.sized issuer source unit resolution ?_
        rw [state?, htask]
        rfl
      obtain ⟨hlt, -⟩ := List.getElem?_eq_some_iff.mp hlacks
      have hasked : unit.dependencies[position]? = some unit.dependencies[position] :=
        List.getElem?_eq_getElem (hlength ▸ hlt)
      rw [Session.step, Session.request, htask]
      simp only [hasked]
      exact seek (.request htask hasked)
  | wake w path =>
      obtain ⟨outcome, houtcome⟩ := Option.isSome_iff_exists.mp hfits
      rw [Session.step, houtcome]
      exact .woken houtcome
  | settle issuer position answer =>
      obtain ⟨source, unit, resolution, waiters, htask, hlacks⟩ := h.exists_resolving
      exact .noted htask hlacks
  | resume path =>
      obtain ⟨source, unit, resolution, hstate⟩ := hfits
      obtain ⟨⟨_, waiters⟩, htask, rfl⟩ := Option.map_eq_some_iff.mp hstate
      -- A task is owed its next step only when all answers are there.
      have hready := h.held_owed.1
      simp only [Job.token, owes, hstate, Option.any_some, TaskState.isReady_resolving] at hready
      obtain ⟨answers, hanswers⟩ := Option.isSome_iff_exists.mp hready
      rw [Session.step, Session.resume, htask]
      simp only [hanswers]
      exact .resumed htask (Resolution.settled?_eq_some_iff.mp hanswers)

theorem Seeks.token_eq {s : Session σ} {job : Job} {w : Waiter} {reference : String}
    (h : s.Seeks job w reference) : job.token = .waiter w := by
  cases h <;> rfl

theorem Accounted.stopWaiting {s : Session σ} {held : List Token} (h : s.Accounted held)
    (w : Waiter) (path : String) : (s.stopWaiting w path).Accounted held := by
  rw [stopWaiting_eq]
  exact h.congr rfl rfl rfl rfl

/-- After starting it a unit that is not finished has an open task. -/
theorem exists_open_ensureTask {s : Session σ} {path : String} (h : s.outcome? path = none) :
    ∃ t, (s.ensureTask path).task? path = some t ∧ t.state.outcome? = none := by
  rw [task?_ensureTask, if_pos rfl]
  refine ⟨_, rfl, ?_⟩
  rw [outcome?_eq, state?] at h
  cases htask : s.task? path with
  | none => rfl
  | some t =>
      rw [htask] at h
      exact h

/-- Moves keep the account. -/
theorem Accounted.move [UnitSource σ] {s s' : Session σ} {job : Job}
    (h : s.Accounted [job.token]) (hmove : Move s job s') : s'.Accounted [] := by
  cases hmove with
  | lost seeks =>
      rw [seeks.token_eq] at h
      exact h.deliver _
  | refused seeks =>
      rw [seeks.token_eq] at h
      exact h.deliver _
  | met seeks =>
      rw [seeks.token_eq] at h
      exact (h.stopWaiting _ _).deliver _
  | parked seeks _ _ unfinished =>
      rw [seeks.token_eq] at h
      obtain ⟨t, htask, hopen⟩ := exists_open_ensureTask unfinished
      exact (h.ensureTask _).park htask hopen
  | woken => exact (Accounted.stopWaiting h _ _).deliver _
  | @ended path =>
      refine Accounted.finish (s := { s with reads := s.reads ++ [path] }) ?_ _
      exact h.congr rfl rfl rfl rfl
  | @expanded path _ _ queued _ _ some =>
      refine Accounted.expand (s := { s with reads := s.reads ++ [path] }) ?_ queued _ some
      exact h.congr rfl rfl rfl rfl
  | noted => exact Accounted.settle h _
  | resumed => exact Accounted.finish h _

/-- The account is in order after every history. -/
theorem accounted_after [UnitSource σ] (source : σ) (options : Options) (signer : Signer)
    (events : List (Event σ)) : ((start source options signer).after events).Accounted [] := by
  refine after_induction (P := fun s => s.Accounted []) (A := fun _ => True)
    (fun s c _ h => h.addCall _ _) (fun s source _ h => h.congr rfl rfl rfl rfl)
    (fun s job rest hpick h => ?_) (accounted_start source options signer) (fun _ _ => trivial)
  obtain ⟨hrest, hfits⟩ := h.pick hpick
  exact hrest.move (move_step hrest hfits)

/-- Work is a move of some job, unless there is none. -/
theorem move_work [UnitSource σ] {s : Session σ} (h : s.Accounted []) (choice : Nat) :
    s.queue = [] ∧ s.occur (.work choice) = s ∨
      ∃ job rest, s.pick? choice = some (job, rest) ∧ rest.Accounted [job.token] ∧
        Move rest job (s.occur (.work choice)) := by
  cases hpick : s.pick? choice with
  | none =>
      refine .inl ⟨pick?_eq_none_iff.mp hpick, ?_⟩
      rw [occur, hpick]
  | some picked =>
      obtain ⟨job, rest⟩ := picked
      obtain ⟨hrest, hfits⟩ := h.pick (picked_of_pick? hpick)
      refine .inr ⟨job, rest, rfl, hrest, ?_⟩
      rw [occur, hpick]
      exact move_step hrest hfits

/-- What every call, change and move keeps holds after every history: the account needs no proof of its
own again. -/
theorem after_moves [UnitSource σ] {P : Session σ → Prop} {A : Event σ → Prop}
    (call : ∀ s c, A (.call c) → s.Accounted [] → P s → P (s.addCall c.reference c.issuer))
    (change : ∀ s source, A (.change source) → P s → P { s with source })
    (move : ∀ s job rest s', s.Accounted [] → Picked s job rest → Move rest job s' → P s → P s')
    {s : Session σ} (hs : P s) (haccount : s.Accounted []) {events : List (Event σ)}
    (h : ∀ e ∈ events, A e) : P (s.after events) := by
  suffices (s.after events).Accounted [] ∧ P (s.after events) from this.2
  refine after_induction (P := fun s => s.Accounted [] ∧ P s) (fun s c hc hs => ?_)
    (fun s source hc hs => ?_) (fun s job rest hpick hs => ?_) ⟨haccount, hs⟩ h
  · exact ⟨hs.1.addCall _ _, call s c hc hs.1 hs.2⟩
  · exact ⟨hs.1.congr rfl rfl rfl rfl, change s source hc hs.2⟩
  · obtain ⟨hrest, hfits⟩ := hs.1.pick hpick
    have hmove := move_step hrest hfits
    exact ⟨hrest.move hmove, move s job rest _ hs.1 hpick hmove hs.2⟩

/-! How tasks go on -/

/-- A task that has been started keeps its state. -/
theorem state?_ensureTask (s : Session σ) (path p : String) :
    (s.ensureTask path).state? p = s.state? p ∨
      s.state? p = none ∧ (s.ensureTask path).state? p = some .queued := by
  rw [state?, state?, task?_ensureTask]
  split
  · rename_i hp
    subst hp
    cases s.task? p with
    | none => exact .inr ⟨rfl, rfl⟩
    | some t => exact .inl rfl
  · exact .inl rfl

theorem state?_setState {s : Session σ} {path : String} {t : BuildTask}
    (htask : s.task? path = some t) (state : TaskState) (p : String) :
    (s.modifyTask path fun t => { t with state }).state? p =
      if p = path then some state else s.state? p := by
  rw [state?_modifyTask]
  split
  · rename_i hp
    rw [hp, htask]
    rfl
  · rfl

theorem state?_deliver (s : Session σ) (w : Waiter) (outcome : Except Failure Processed)
    (p : String) : (s.deliver w outcome).state? p = s.state? p := by
  rw [deliver_eq]
  rfl

theorem state?_stopWaiting (s : Session σ) (w : Waiter) (path p : String) :
    (s.stopWaiting w path).state? p = s.state? p := by
  rw [stopWaiting_eq]
  rfl

/-- How the task of a path goes on in a step. -/
inductive Advances [UnitSource σ] (s : Session σ) :
    Job → String → Option TaskState → Option TaskState → Prop
  | kept {job : Job} {path : String} {state : Option TaskState} : Advances s job path state state
  | started {job : Job} {path : String} : Advances s job path none (some .queued)
  | ended {path : String} {outcome : Except Failure Processed}
      (ends : s.EndsAtOnce path outcome) :
      Advances s (.start path) path (some .queued) (some (.finished outcome))
  | expanded {path source : String} {unit : Script.Extracted}
      (read : UnitSource.read s.source path = .ok source)
      (extracted : Script.extract (Processed.fileName (some path)) source = .ok unit) :
      Advances s (.start path) path (some .queued)
        (some (.resolving source unit (.start (some path) unit.dependencies)))
  | noted {path source : String} {unit : Script.Extracted} {resolution : Resolution}
      {position : Nat} {answer : Answer} :
      Advances s (.settle path position answer) path (some (.resolving source unit resolution))
        (some (.resolving source unit (resolution.settle position answer)))
  | resumed {path source : String} {unit : Script.Extracted} {resolution : Resolution}
      {answers : List Answer} (settled : resolution.answers = answers.map some) :
      Advances s (.resume path) path (some (.resolving source unit resolution))
        (some (.finished (s.assemble path source unit answers)))

/-- A move lets the task of one path go on, and leaves all others. -/
theorem advances_move [UnitSource σ] {s s' : Session σ} {job : Job} (hmove : Move s job s')
    (p : String) : Advances s job p (s.state? p) (s'.state? p) := by
  -- Only the task that the move is of can change, and the one that it parks at can be new.
  cases hmove with
  | lost =>
      rw [state?_deliver]
      exact .kept
  | refused =>
      rw [state?_deliver]
      exact .kept
  | met =>
      rw [state?_deliver, state?_stopWaiting]
      exact .kept
  | @parked _ w _ path =>
      rw [state?_park]
      rcases s.state?_ensureTask path p with hold | ⟨hnone, hnew⟩
      · rw [hold]
        exact .kept
      · rw [hnone, hnew]
        exact .started
  | woken =>
      rw [state?_deliver, state?_stopWaiting]
      exact .kept
  | @ended path outcome queued ends =>
      obtain ⟨t, htask, -⟩ := Option.map_eq_some_iff.mp queued
      have hstate := state?_setState (s := { s with reads := s.reads ++ [path] }) htask
        (.finished outcome) p
      rw [finish, state?_enqueue, hstate]
      split
      · rename_i hp
        rw [hp, queued]
        exact .ended ends
      · exact .kept
  | @expanded path source unit queued read extracted =>
      obtain ⟨t, htask, -⟩ := Option.map_eq_some_iff.mp queued
      have hstate := state?_setState (s := { s with reads := s.reads ++ [path] }) htask
        (.resolving source unit (.start (some path) unit.dependencies)) p
      rw [expand, state?_enqueue, hstate]
      split
      · rename_i hp
        rw [hp, queued]
        exact .expanded read extracted
      · exact .kept
  | @noted issuer source position answer unit resolution waiters task lacking =>
      rw [settle_eq task, state?_enqueue, state?_setState task]
      split
      · rename_i hp
        rw [hp, state?, task]
        exact .noted
      · exact .kept
  | @resumed path source unit resolution waiters answers task settled =>
      rw [finish, state?_enqueue, state?_setState task]
      split
      · rename_i hp
        rw [hp, state?, task]
        exact .resumed settled
      · exact .kept

theorem state?_eq_finished {s : Session σ} {path : String} {outcome : Except Failure Processed} :
    s.state? path = some (.finished outcome) ↔ s.outcome? path = some outcome := by
  rw [outcome?_eq]
  constructor
  · intro h
    rw [h]
    rfl
  · intro h
    obtain ⟨state, hstate, houtcome⟩ := Option.bind_eq_some_iff.mp h
    cases state with
    | finished o =>
        cases houtcome
        exact hstate
    | _ => cases houtcome

/-! What stays -/

section

variable [UnitSource σ] {source : σ} {options : Options} {signer : Signer}

theorem callOutcome?_move {s s' : Session σ} {job : Job} {id : Nat}
    {outcome : Except Failure Processed} (h : s.callOutcome? id = some outcome)
    (hmove : Move s job s') : s'.callOutcome? id = some outcome := by
  have deliver {r : Session σ} (hr : r.outcomes = s.outcomes) (w : Waiter)
      (o : Except Failure Processed) : (r.deliver w o).callOutcome? id = some outcome := by
    have hr' : r.callOutcome? id = some outcome := by rw [callOutcome?, hr]; exact h
    cases w with
    | call i => rw [callOutcome?_deliver, hr']; rfl
    | request => exact hr'
  cases hmove with
  | lost => exact deliver rfl _ _
  | refused => exact deliver rfl _ _
  | met => exact deliver (by rw [stopWaiting_eq]) _ _
  | parked =>
      rw [callOutcome?, park_eq, ensureTask_eq]
      exact h
  | woken => exact deliver (by rw [stopWaiting_eq]) _ _
  | ended => exact h
  | expanded => exact h
  | noted task =>
      rw [settle_eq task]
      exact h
  | resumed => exact h

/-- A finished unit keeps its outcome. -/
theorem outcome?_move {s s' : Session σ} {job : Job} {path : String}
    {outcome : Except Failure Processed} (h : s.outcome? path = some outcome)
    (hmove : Move s job s') : s'.outcome? path = some outcome := by
  have hadvance := advances_move hmove path
  rw [state?_eq_finished.mpr h] at hadvance
  generalize hnew : s'.state? path = new at hadvance
  cases hadvance with
  | kept => exact state?_eq_finished.mp hnew

/-- No step touches the source, the settings or the calls made. -/
theorem settings_move {s s' : Session σ} {job : Job} (hmove : Move s job s') :
    s'.source = s.source ∧ s'.options = s.options ∧ s'.signer = s.signer ∧ s'.calls = s.calls := by
  cases hmove with
  | lost | refused =>
      rw [deliver_eq]
      exact ⟨rfl, rfl, rfl, rfl⟩
  | met | woken =>
      rw [deliver_eq, stopWaiting_eq]
      exact ⟨rfl, rfl, rfl, rfl⟩
  | parked =>
      rw [park_eq, ensureTask_eq]
      exact ⟨rfl, rfl, rfl, rfl⟩
  | noted task =>
      rw [settle_eq task]
      exact ⟨rfl, rfl, rfl, rfl⟩
  | ended | expanded | resumed => exact ⟨rfl, rfl, rfl, rfl⟩

theorem calls_move {s s' : Session σ} {job : Job} (hmove : Move s job s') : s'.calls = s.calls :=
  (settings_move hmove).2.2.2

/-- A call that has been made stays, and so does its outcome. -/
theorem callOutcome?_after {events : List (Event σ)} {id : Nat} {outcome : Except Failure Processed}
    (h : ((start source options signer).after events).callOutcome? id = some outcome)
    (more : List (Event σ)) :
    ((start source options signer).after (events ++ more)).callOutcome? id = some outcome := by
  rw [after_append]
  refine after_moves (P := fun s => s.callOutcome? id = some outcome) (A := fun _ => True)
    (fun s c _ _ h => h) (fun s source _ h => h) (fun s job rest s' _ hpick hmove h => ?_) h
    (accounted_after source options signer events) fun _ _ => trivial
  refine callOutcome?_move ?_ hmove
  rw [hpick.rest_eq]
  exact h

theorem outcome?_after {events : List (Event σ)} {path : String}
    {outcome : Except Failure Processed}
    (h : ((start source options signer).after events).outcome? path = some outcome)
    (more : List (Event σ)) :
    ((start source options signer).after (events ++ more)).outcome? path = some outcome := by
  rw [after_append]
  refine after_moves (P := fun s => s.outcome? path = some outcome) (A := fun _ => True)
    (fun s c _ _ h => h) (fun s source _ h => h) (fun s job rest s' _ hpick hmove h => ?_) h
    (accounted_after source options signer events) fun _ _ => trivial
  refine outcome?_move ?_ hmove
  rw [hpick.rest_eq]
  exact h

theorem calls_after {events : List (Event σ)} {id : Nat} {c : Call}
    (h : ((start source options signer).after events).calls[id]? = some c)
    (more : List (Event σ)) :
    ((start source options signer).after (events ++ more)).calls[id]? = some c := by
  rw [after_append]
  refine after_moves (P := fun s => s.calls[id]? = some c) (A := fun _ => True)
    (fun s d _ _ h => ?_) (fun s source _ h => h) (fun s job rest s' _ hpick hmove h => ?_) h
    (accounted_after source options signer events) fun _ _ => trivial
  · obtain ⟨hlt, -⟩ := List.getElem?_eq_some_iff.mp h
    rw [addCall, List.getElem?_append_left hlt]
    exact h
  · rw [calls_move hmove, hpick.rest_eq]
    exact h

end

end PersistedOps.Session

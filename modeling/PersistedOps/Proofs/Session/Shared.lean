import PersistedOps.Proofs.Session.Progress

/-!
One outcome for each path. However calls, changes of the source and steps are mixed, a path is read at
most once, and whoever has found it ends with the one outcome that it has. A waiter looks for its unit
once; what it finds then decides how it ends, whatever becomes of the source.
-/

namespace PersistedOps.Session

variable {σ : Type} [UnitSource σ]

/-! Reading once -/

/-- The task of a path has taken its first step. -/
def Begun (s : Session σ) (path : String) : Prop :=
  ∃ state, s.state? path = some state ∧ state ≠ .queued

theorem Begun.move {s s' : Session σ} {job : Job} {path : String} (h : s.Begun path)
    (hmove : Move s job s') : s'.Begun path := by
  obtain ⟨state, hstate, hbegun⟩ := h
  have hadvance := advances_move hmove path
  rw [hstate] at hadvance
  generalize hnew : s'.state? path = new at hadvance
  cases hadvance with
  | kept => exact ⟨state, hnew, hbegun⟩
  | ended | expanded => exact absurd rfl hbegun
  | noted | resumed => exact ⟨_, hnew, by simp⟩

/-- A path is read in the step that begins its task. -/
theorem reads_move {s s' : Session σ} {job : Job} (hmove : Move s job s') :
    s'.reads = s.reads ∨
      ∃ path, s.state? path = some .queued ∧ s'.Begun path ∧ s'.reads = s.reads ++ [path] := by
  cases hmove with
  | lost | refused =>
      rw [deliver_eq]
      exact .inl rfl
  | met | woken =>
      rw [deliver_eq, stopWaiting_eq]
      exact .inl rfl
  | parked =>
      rw [park_eq, ensureTask_eq]
      exact .inl rfl
  | @ended path outcome queued =>
      obtain ⟨t, htask, -⟩ := Option.map_eq_some_iff.mp queued
      refine .inr ⟨path, queued, ⟨.finished outcome, ?_, by simp⟩, rfl⟩
      have hstate := state?_setState (s := { s with reads := s.reads ++ [path] }) htask
        (.finished outcome) path
      rw [finish, state?_enqueue, hstate, if_pos rfl]
  | @expanded path text unit queued =>
      obtain ⟨t, htask, -⟩ := Option.map_eq_some_iff.mp queued
      let state : TaskState := .resolving text unit (.start (some path) unit.dependencies)
      refine .inr ⟨path, queued, ⟨state, ?_, by simp [state]⟩, rfl⟩
      have hstate := state?_setState (s := { s with reads := s.reads ++ [path] }) htask state path
      rw [expand, state?_enqueue, hstate, if_pos rfl]
  | noted task =>
      rw [settle_eq task]
      exact .inl rfl
  | resumed => exact .inl rfl

/-- The paths that have been read are those of tasks that have begun, each once. -/
structure ReadOnce (s : Session σ) : Prop where
  nodup : s.reads.Nodup
  begun : ∀ path ∈ s.reads, s.Begun path

theorem ReadOnce.move {s s' : Session σ} {job : Job} (h : s.ReadOnce) (hmove : Move s job s') :
    s'.ReadOnce := by
  rcases reads_move hmove with hreads | ⟨path, hqueued, hbegun, hreads⟩
  · exact ⟨hreads ▸ h.nodup, fun p hp => (h.begun p (hreads ▸ hp)).move hmove⟩
  · have hnew : path ∉ s.reads := by
      intro hmem
      obtain ⟨state, hstate, hne⟩ := h.begun path hmem
      exact hne (Option.some.inj (hstate.symm.trans hqueued))
    refine ⟨?_, fun p hp => ?_⟩
    · rw [hreads]
      exact List.nodup_append'.mpr ⟨h.nodup, List.nodup_singleton _, by simpa using hnew⟩
    · rw [hreads] at hp
      rcases List.mem_append.mp hp with hp | hp
      · exact (h.begun p hp).move hmove
      · exact List.mem_singleton.mp hp ▸ hbegun

theorem readOnce_after (source : σ) (options : Options) (signer : Signer)
    (events : List (Event σ)) : ((start source options signer).after events).ReadOnce := by
  refine after_moves (P := ReadOnce) (A := fun _ => True) (fun s c _ _ h => ⟨h.nodup, h.begun⟩)
    (fun s source _ h => ⟨h.nodup, h.begun⟩) (fun s job rest s' _ hpick hmove h => ?_)
    ⟨List.nodup_nil, by simp [start]⟩ (accounted_start source options signer) fun _ _ => trivial
  refine ReadOnce.move ?_ hmove
  rw [hpick.rest_eq]
  exact ⟨h.nodup, h.begun⟩

/-! Looking once -/

/-- In the course of a history a waiter looks for the unit of a reference, at this moment. -/
inductive Looks (s₀ : Session σ) : List (Event σ) → Waiter → String → Session σ → Prop
  | now {events : List (Event σ)} {choice : Nat} {job : Job} {moment : Session σ} {w : Waiter}
      {reference : String} (picked : (s₀.after events).pick? choice = some (job, moment))
      (seeks : moment.Seeks job w reference) :
      Looks s₀ (events ++ [.work choice]) w reference moment
  | earlier {events : List (Event σ)} {e : Event σ} {w : Waiter} {reference : String}
      {moment : Session σ} (h : Looks s₀ events w reference moment) :
      Looks s₀ (events ++ [e]) w reference moment

theorem not_looks_nil {s₀ moment : Session σ} {w : Waiter} {reference : String} :
    ¬Looks s₀ [] w reference moment := by
  intro h
  generalize hevents : ([] : List (Event σ)) = events at h
  cases h <;> simp at hevents

theorem looks_concat {s₀ moment : Session σ} {events : List (Event σ)} {e : Event σ} {w : Waiter}
    {reference : String} : Looks s₀ (events ++ [e]) w reference moment ↔
      Looks s₀ events w reference moment ∨ ∃ choice job, e = .work choice ∧
        (s₀.after events).pick? choice = some (job, moment) ∧ moment.Seeks job w reference := by
  constructor
  · intro h
    generalize hevents : events ++ [e] = all at h
    cases h with
    | now picked seeks =>
        obtain ⟨rfl, rfl⟩ := List.append_singleton_inj.mp hevents
        exact .inr ⟨_, _, rfl, picked, seeks⟩
    | earlier h =>
        obtain ⟨rfl, rfl⟩ := List.append_singleton_inj.mp hevents
        exact .inl h
  · rintro (h | ⟨choice, job, rfl, picked, seeks⟩)
    · exact h.earlier
    · exact .now picked seeks

end PersistedOps.Session

namespace PersistedOps

/-- The job in which a waiter looks for its unit. -/
def Waiter.firstJob : Waiter → Job
  | .call id => .call id
  | .request issuer position => .request issuer position

namespace Session

variable {σ : Type}

theorem Seeks.job_eq {s : Session σ} {job : Job} {w : Waiter} {reference : String}
    (h : s.Seeks job w reference) : job = w.firstJob := by
  cases h <;> rfl

variable [UnitSource σ]

/-- No step lets a call look; only one that begins a unit lets its requests look. -/
theorem firstJob_move {s s' : Session σ} {job : Job} (hmove : Move s job s') {w : Waiter}
    (h : w.firstJob ∈ s'.queue) : w.firstJob ∈ s.queue ∨
      ∃ issuer position, w = .request issuer position ∧ s.state? issuer = some .queued := by
  -- Neither a delivered outcome nor a finished task queues the first job of a waiter.
  have deliver {r : Session σ} (hr : r.queue = s.queue) {v : Waiter}
      {outcome : Except Failure Processed} (h : w.firstJob ∈ (r.deliver v outcome).queue) :
      w.firstJob ∈ s.queue := by
    rw [← hr]
    cases v with
    | call id => exact h
    | request issuer position =>
        rcases List.mem_append.mp h with h | h
        · exact h
        · cases w <;> simp [Waiter.firstJob] at h
  have finish {r : Session σ} (hr : r.queue = s.queue) {path : String}
      {outcome : Except Failure Processed} (h : w.firstJob ∈ (r.finish path outcome).queue) :
      w.firstJob ∈ s.queue := by
    rw [← hr]
    rcases List.mem_append.mp h with h | h
    · exact h
    · cases w <;> simp [Waiter.firstJob] at h
  cases hmove with
  | lost | refused => exact .inl (deliver rfl h)
  | met | woken => exact .inl (deliver (by rw [stopWaiting_eq]) h)
  | parked =>
      rw [park_eq] at h
      rcases mem_queue_ensureTask h with h | h
      · exact .inl h
      · cases w <;> cases h
  | @ended path outcome =>
      exact .inl (finish (r := { s with reads := s.reads ++ [path] }) rfl h)
  | @expanded path text unit queued =>
      rcases List.mem_append.mp h with h | h
      · exact .inl h
      · obtain ⟨d, -, heq⟩ := List.mem_map.mp h
        cases w with
        | call id => cases heq
        | request issuer position =>
            cases heq
            exact .inr ⟨_, _, rfl, queued⟩
  | noted task =>
      rw [settle_eq task] at h
      rcases List.mem_append.mp h with h | h
      · exact .inl h
      · split at h
        · cases w <;> simp [Waiter.firstJob] at h
        · cases h
  | resumed => exact .inl (finish rfl h)

/-- What a waiter that has looked at a moment keeps asking for: a call what it was made with, a request
what its unit requires there. -/
inductive Asked (s moment : Session σ) (reference : String) : Waiter → Prop
  | call {id : Nat} (made : s.calls[id]? = some ⟨reference, moment.issuer? (.call id)⟩) :
      Asked s moment reference (.call id)
  | request {issuer : String} {position : Nat} (begun : s.Begun issuer)
      (asked : ∀ text unit resolution, s.state? issuer = some (.resolving text unit resolution) →
        unit.dependencies[position]? = some reference) :
      Asked s moment reference (.request issuer position)

omit [UnitSource σ] in
theorem Asked.congr {s s' moment : Session σ} {reference : String} {w : Waiter}
    (h : Asked s moment reference w) (calls : s.calls <+: s'.calls) (tasks : s'.tasks = s.tasks) :
    Asked s' moment reference w := by
  have hstate (path : String) : s'.state? path = s.state? path := by
    rw [state?, state?, task?, task?, tasks]
  cases h with
  | call made =>
      obtain ⟨hlt, -⟩ := List.getElem?_eq_some_iff.mp made
      obtain ⟨later, hlater⟩ := calls
      refine .call ?_
      rw [← hlater, List.getElem?_append_left hlt]
      exact made
  | request begun asked =>
      refine .request ?_ fun text unit resolution h => asked text unit resolution (hstate _ ▸ h)
      rw [Begun, hstate]
      exact begun

omit [UnitSource σ] in
theorem Seeks.asked {moment : Session σ} {job : Job} {w : Waiter} {reference : String}
    (h : moment.Seeks job w reference) : Asked moment moment reference w := by
  cases h with
  | @call id c made =>
      refine .call ?_
      rw [issuer?, made]
      rfl
  | request task asked =>
      have hstate := congrArg (Option.map BuildTask.state) task
      refine .request ⟨_, hstate, by simp⟩ fun text unit resolution h => ?_
      cases hstate.symm.trans h
      exact asked

theorem Asked.move {s s' moment : Session σ} {job : Job} {reference : String} {w : Waiter}
    (h : Asked s moment reference w) (hmove : Move s job s') : Asked s' moment reference w := by
  cases h with
  | call made => exact .call (calls_move hmove ▸ made)
  | @request issuer position begun asked =>
      refine .request (begun.move hmove) fun text unit resolution hnew => ?_
      obtain ⟨state, hstate, hbegun⟩ := begun
      have hadvance := advances_move hmove issuer
      rw [hstate, hnew] at hadvance
      cases hadvance with
      | kept => exact asked text unit resolution hstate
      | expanded => exact absurd rfl hbegun
      | noted => exact asked text unit _ hstate

/-- A waiter that has looked at a moment keeps what it asked for, and does not look again. -/
structure Past (s moment : Session σ) (w : Waiter) (reference : String) : Prop where
  asked : Asked s moment reference w
  gone : w.firstJob ∉ s.queue

theorem Past.move {s s' moment : Session σ} {job : Job} {w : Waiter} {reference : String}
    (h : Past s moment w reference) (hmove : Move s job s') : Past s' moment w reference := by
  refine ⟨h.asked.move hmove, fun hmem => ?_⟩
  rcases firstJob_move hmove hmem with hold | ⟨issuer, position, rfl, hqueued⟩
  · exact h.gone hold
  · cases h.asked with
    | request begun =>
        obtain ⟨state, hstate, hne⟩ := begun
        exact hne (Option.some.inj (hstate.symm.trans hqueued))

/-- What has looked has looked for good. -/
theorem past_of_looks {source : σ} {options : Options} {signer : Signer}
    {events : List (Event σ)} {w : Waiter} {reference : String} {moment : Session σ}
    (h : Looks (start source options signer) events w reference moment) :
    Past ((start source options signer).after events) moment w reference := by
  induction h with
  | @now events choice job moment w reference picked seeks =>
      have haccount := accounted_after source options signer events
      obtain ⟨hrest, hfits⟩ := haccount.pick (picked_of_pick? picked)
      have hpast : Past moment moment w reference := by
        refine ⟨seeks.asked, fun hmem => hrest.not_mem_queue hmem ?_⟩
        rw [seeks.job_eq]
      rw [after_append, after_cons, after_nil, occur, picked]
      exact hpast.move (move_step hrest hfits)
  | @earlier events e w reference moment _ ih =>
      rw [after_append, after_cons, after_nil]
      cases e with
      | call c =>
          refine ⟨ih.asked.congr (List.prefix_append _ _) rfl, fun hmem => ?_⟩
          rcases List.mem_append.mp hmem with hmem | hmem
          · exact ih.gone hmem
          · have hnew := List.mem_singleton.mp hmem
            cases ih.asked with
            | @call id made =>
                obtain ⟨hlt, -⟩ := List.getElem?_eq_some_iff.mp made
                cases hnew
                exact Nat.lt_irrefl _ hlt
            | request => cases hnew
      | change source => exact ⟨ih.asked.congr (List.prefix_refl _) rfl, ih.gone⟩
      | work choice =>
          rcases move_work (accounted_after source options signer events) choice with
            ⟨-, hsame⟩ | ⟨job, rest, hpick, -, hmove⟩
          · rw [hsame]
            exact ih
          · have hpicked := picked_of_pick? hpick
            refine Past.move ⟨ih.asked.congr ?_ ?_, fun hmem => ih.gone ?_⟩ hmove
            · have hcalls : rest.calls = ((start source options signer).after events).calls := by
                rw [hpicked.rest_eq]
              exact hcalls ▸ List.prefix_refl _
            · rw [hpicked.rest_eq]
            · exact hpicked.queue.mem_iff.mpr (List.mem_cons_of_mem _ hmem)

/-- A waiter looks just once. -/
theorem Looks.unique {source : σ} {options : Options} {signer : Signer} {events : List (Event σ)}
    {w : Waiter} {reference other : String} {moment later : Session σ}
    (h : Looks (start source options signer) events w reference moment)
    (hother : Looks (start source options signer) events w other later) :
    other = reference ∧ later = moment := by
  have again {events : List (Event σ)} {choice : Nat} {job : Job} {reference other : String}
      {moment later : Session σ}
      (hlooks : Looks (start source options signer) events w reference moment)
      (picked : ((start source options signer).after events).pick? choice = some (job, later))
      (seeks : later.Seeks job w other) : False := by
    refine (past_of_looks hlooks).gone ?_
    rw [← seeks.job_eq]
    exact (picked_of_pick? picked).queue.mem_iff.mpr List.mem_cons_self
  induction events using List.reverseRecOn with
  | nil => exact (not_looks_nil h).elim
  | append_singleton events e ih =>
      rcases looks_concat.mp h with hold | ⟨choice, job, rfl, picked, seeks⟩
      · rcases looks_concat.mp hother with hold' | ⟨choice, job, rfl, picked, seeks⟩
        · exact ih hold hold'
        · exact (again hold picked seeks).elim
      · rcases looks_concat.mp hother with hold' | ⟨choice', job', heq, picked', seeks'⟩
        · exact (again hold' picked seeks).elim
        · cases heq
          cases picked.symm.trans picked'
          cases seeks with
          | call made =>
              cases seeks' with
              | call made' =>
                  cases made.symm.trans made'
                  exact ⟨rfl, rfl⟩
          | request task asked =>
              cases seeks' with
              | request task' asked' =>
                  cases task.symm.trans task'
                  cases asked.symm.trans asked'
                  exact ⟨rfl, rfl⟩

/-! How waiters end -/

/-- How a waiter ends that looks for a reference at a moment. One that finds no path ends with a failure
that names its reference. One that finds a path ends with the outcome of the path; or it is refused,
if it has an issuer that those which the path awaits lead back to. -/
inductive EndsAs (s : Session σ) (issuer : Option String) (reference : String)
    (moment : Session σ) : Except Failure Processed → Prop
  | lost {looked : Option String} (located : UnitSource.locate moment.source reference issuer =
      .error (.unitNotFound reference looked)) :
      EndsAs s issuer reference moment (.error (.unitNotFound reference looked))
  | refused {i path : String} {walk : List String} (issued : issuer = some i)
      (located : UnitSource.locate moment.source reference issuer = .ok path)
      (walks : Waiting.Walk moment.waiting.Awaits path i walk) :
      EndsAs s issuer reference moment (.error (.dependencyCycle (i :: walk)))
  | shared {path : String} {outcome : Except Failure Processed}
      (located : UnitSource.locate moment.source reference issuer = .ok path)
      (finished : s.outcome? path = some outcome) : EndsAs s issuer reference moment outcome

theorem EndsAs.mono {s s' : Session σ} {issuer : Option String} {reference : String}
    {moment : Session σ} {outcome : Except Failure Processed}
    (h : EndsAs s issuer reference moment outcome)
    (hfinished : ∀ path o, s.outcome? path = some o → s'.outcome? path = some o) :
    EndsAs s' issuer reference moment outcome := by
  cases h with
  | lost located => exact .lost located
  | refused issued located walks => exact .refused issued located walks
  | shared located finished => exact .shared located (hfinished _ _ finished)

/-- Whoever cannot be located is told so under the reference that was asked for. -/
def TellsReference (σ : Type) [UnitSource σ] : Prop :=
  ∀ (source : σ) (reference : String) (issuer : Option String) (f : Failure),
    UnitSource.locate source reference issuer = .error f → ∃ looked, f = .unitNotFound reference looked

theorem tellsReference_memory : TellsReference MemorySource := by
  intro source reference issuer f hlocated
  have h : Reference.locate (fun path => (source.get? path).isSome) reference issuer = .error f :=
    hlocated
  rcases bind_eq_error_iff.mp h with hjoin | ⟨path, -, hnone⟩
  · unfold Reference.join at hjoin
    simp only at hjoin
    split at hjoin
    · cases hjoin
      exact ⟨_, rfl⟩
    · cases hjoin
  · split at hnone
    · cases hnone
    · cases hnone
      exact ⟨_, rfl⟩

section

variable {source : σ} {options : Options} {signer : Signer}

/-- A waiter has found a path. -/
def Found (s₀ : Session σ) (events : List (Event σ)) (w : Waiter) (path : String) : Prop :=
  ∃ reference moment, Looks s₀ events w reference moment ∧
    UnitSource.locate moment.source reference (moment.issuer? w) = .ok path

/-- A waiter has looked, and it ends so. -/
def EndsAfter (s₀ : Session σ) (events : List (Event σ)) (s : Session σ) (w : Waiter)
    (outcome : Except Failure Processed) : Prop :=
  ∃ reference moment, Looks s₀ events w reference moment ∧
    EndsAs s (moment.issuer? w) reference moment outcome

/-- The session that a waiter looks in goes by the rules of finding paths and ending with them. -/
theorem rules_of_picked (htells : TellsReference σ) {s₀ moment : Session σ}
    {events : List (Event σ)} {choice : Nat} {job : Job}
    (hpick : (s₀.after events).pick? choice = some (job, moment)) :
    Rules (Found s₀ (events ++ [.work choice])) (EndsAfter s₀ (events ++ [.work choice]) moment)
      moment job where
  found seeks located := ⟨_, moment, .now hpick seeks, located⟩
  lost seeks located := by
    obtain ⟨looked, rfl⟩ := htells _ _ _ _ located
    exact ⟨_, moment, .now hpick seeks, .lost located⟩
  refused seeks located issued cycle := by
    obtain ⟨walk, rfl, walks⟩ := Waiting.walk_of_cycle?_eq_some cycle
    exact ⟨_, moment, .now hpick seeks, .refused issued located walks⟩
  shared hfound finished := by
    obtain ⟨reference, at_, hlooks, hlocated⟩ := hfound
    exact ⟨reference, at_, hlooks, .shared hlocated finished⟩

/-- After every history those who wait wait for paths that they have found, and those who have ended
have ended as they should. -/
theorem carries_after (source : σ) (options : Options) (signer : Signer) (htells : TellsReference σ)
    (events : List (Event σ)) :
    let s₀ := start source options signer
    Carries (Found s₀ events) (EndsAfter s₀ events (s₀.after events)) (s₀.after events) := by
  intro s₀
  induction events using List.reverseRecOn with
  | nil => exact carries_start source options signer
  | append_singleton events e ih =>
      rw [after_append, after_cons, after_nil]
      have found (w : Waiter) (path : String) (h : Found s₀ events w path) :
          Found s₀ (events ++ [e]) w path := by
        obtain ⟨reference, moment, hlooks, hlocated⟩ := h
        exact ⟨reference, moment, hlooks.earlier, hlocated⟩
      have ends {s s' : Session σ}
          (hfinished : ∀ path o, s.outcome? path = some o → s'.outcome? path = some o) (w : Waiter)
          (outcome : Except Failure Processed) (h : EndsAfter s₀ events s w outcome) :
          EndsAfter s₀ (events ++ [e]) s' w outcome := by
        obtain ⟨reference, moment, hlooks, hends⟩ := h
        exact ⟨reference, moment, hlooks.earlier, hends.mono hfinished⟩
      cases e with
      | call c => exact (ih.addCall c.reference c.issuer).mono found (ends fun _ _ => id)
      | change source =>
          let changed := (s₀.after events).occur (.change source)
          have hcarries := ih.mono found (@ends (s₀.after events) changed fun _ _ => id)
          exact hcarries.congr rfl (fun _ => id) rfl
      | work choice =>
          rcases move_work (accounted_after source options signer events) choice with
            ⟨-, hsame⟩ | ⟨job, moment, hpick, -, hmove⟩
          · rw [hsame]
            exact ih.mono found (ends fun _ _ => id)
          · have hpicked := picked_of_pick? hpick
            have hrest (path : String) (o : Except Failure Processed)
                (h : (s₀.after events).outcome? path = some o) : moment.outcome? path = some o := by
              rw [hpicked.rest_eq]
              exact h
            obtain ⟨hcarries, hbacked⟩ := (ih.mono found (ends hrest)).pick hpicked
            have hmoved := hcarries.move (rules_of_picked htells hpick) hbacked hmove
            refine hmoved.mono (fun _ _ => id) fun w outcome h => ?_
            obtain ⟨reference, moment', hlooks, hends⟩ := h
            exact ⟨reference, moment', hlooks, hends.mono fun path o ho => outcome?_move ho hmove⟩

end

/-! All come to an end -/

/-- Where there is nothing to do nothing is done. -/
theorem queue_after_idle {s : Session σ} (hidle : s.queue = []) {more : List (Event σ)}
    (hwork : ∀ e ∈ more, e.isWork = true) : (s.after more).queue = [] := by
  refine after_induction (P := fun s => s.queue = []) (A := fun e => e.isWork = true)
    (fun _ _ hcall => ?_) (fun _ _ hchange => ?_) (fun s job rest hpick hs => ?_) hidle hwork
  · cases hcall
  · cases hchange
  · have hperm := hpick.queue
    rw [hs] at hperm
    cases hperm.nil_eq

/-- Enough work leaves a session over finitely many units with nothing to do. -/
theorem queue_after_work {units : List String} {s : Session σ} (haccount : s.Accounted [])
    (hwithin : WithinUnits s.source units) {more : List (Event σ)}
    (hwork : ∀ e ∈ more, e.isWork = true) (hlong : load s.source units s ≤ more.length) :
    (s.after more).queue = [] := by
  induction more generalizing s with
  | nil =>
      by_contra hbusy
      have hless := load_work hwithin haccount rfl hbusy 0
      rw [List.length_nil] at hlong
      omega
  | cons e more ih =>
      have hmore (e : Event σ) (he : e ∈ more) := hwork e (List.mem_cons_of_mem _ he)
      cases e with
      | call | change => cases hwork _ List.mem_cons_self
      | work choice =>
          rw [after_cons]
          rcases move_work haccount choice with ⟨hidle, hsame⟩ | ⟨job, rest, hpick, hrest, hmove⟩
          · rw [hsame]
            exact queue_after_idle hidle hmore
          · have hpicked := picked_of_pick? hpick
            have hbusy : s.queue ≠ [] := by
              intro hnil
              have hperm := hpicked.queue
              rw [hnil] at hperm
              cases hperm.nil_eq
            have hless := load_work hwithin haccount rfl hbusy choice
            have hsource : (s.occur (.work choice)).source = s.source := by
              rw [(settings_move hmove).1, hpicked.rest_eq]
            rw [List.length_cons] at hlong
            refine ih (hrest.move hmove) ?_ hmore ?_
            · rw [hsource]
              exact hwithin
            · rw [hsource]
              omega

omit [UnitSource σ] in
/-- A session that has nothing to do has ended all calls, and finished all units. -/
theorem finished_of_queue_eq_nil {s : Session σ} (haccount : s.Accounted [])
    (hnoted : s.Noted fun _ _ => False) (hattended : s.Attended) (hidle : s.queue = []) :
    (∀ id < s.calls.length, (s.callOutcome? id).isSome) ∧
      ∀ path state, s.state? path = some state → ∃ outcome, state = .finished outcome := by
  have hcalls (id : Nat) (hid : id < s.calls.length) : (s.callOutcome? id).isSome := by
    by_contra hnone
    exact queue_ne_nil_of_call haccount hnoted hid (by simpa using hnone) hidle
  have hunits := unfinished_eq_nil haccount hnoted hattended hcalls
  refine ⟨hcalls, fun path state hstate => ?_⟩
  cases hopen : state.outcome? with
  | none =>
      obtain ⟨t, ht, rfl⟩ := Option.map_eq_some_iff.mp hstate
      have hmem := mem_unfinished.mpr ⟨t, ht, hopen⟩
      rw [hunits] at hmem
      cases hmem
  | some outcome =>
      have hfinished : s.outcome? path = some outcome := by
        rw [outcome?_eq, hstate]
        exact hopen
      exact ⟨outcome, Option.some.inj (hstate.symm.trans (state?_eq_finished.mpr hfinished))⟩

/-- Whatever calls, changes of the source and steps there have been, in whatever order, in a session
over units in memory: each path has been read at most once, and a path that has an outcome keeps it.
A call that has ended has looked for its unit at just one moment. It has ended with the outcome of the
path that it found then, whatever text was there before or later; or it found none, and was told so;
or it was refused, if it resolves for an issuer, because of a cycle of waits. So has every request of a
unit that has its answer. And once tasks take enough steps, all calls have ended and all units that
were begun are finished. -/
theorem outcomes_shared (source : MemorySource) (options : Options) (signer : Signer)
    (events : List (Event MemorySource)) :
    let s₀ := start source options signer
    let s := s₀.after events
    s.reads.Nodup ∧
    (∀ path outcome more, s.outcome? path = some outcome →
      (s.after more).outcome? path = some outcome) ∧
    (∀ id c outcome, s.calls[id]? = some c → s.callOutcome? id = some outcome →
      ∃ moment, (∀ r m, Looks s₀ events (.call id) r m ↔ r = c.reference ∧ m = moment) ∧
        EndsAs s c.issuer c.reference moment outcome) ∧
    (∀ issuer text unit resolution (position : Nat) (answer : Answer),
      s.state? issuer = some (.resolving text unit resolution) →
      resolution.answers[position]? = some (some answer) →
      ∃ reference moment outcome, unit.dependencies[position]? = some reference ∧
        (∀ r m, Looks s₀ events (.request issuer position) r m ↔ r = reference ∧ m = moment) ∧
        EndsAs s (some issuer) reference moment outcome ∧
        answer = outcome.map Processed.documents) ∧
    ∃ bound, ∀ more : List (Event MemorySource), (∀ e ∈ more, e.isWork = true) →
      bound ≤ more.length →
      (∀ id < s.calls.length, ((s.after more).callOutcome? id).isSome) ∧
      ∀ path state, (s.after more).state? path = some state →
        ∃ outcome, state = .finished outcome := by
  intro s₀ s
  -- Each answer there is has been carried from a look at its unit, an invariant of all sessions.
  have hcarries := carries_after source options signer tellsReference_memory events
  have once {w : Waiter} {reference : String} {moment : Session MemorySource}
      (hlooks : Looks s₀ events w reference moment) (r : String) (m : Session MemorySource) :
      Looks s₀ events w r m ↔ r = reference ∧ m = moment := by
    constructor
    · exact hlooks.unique
    · rintro ⟨rfl, rfl⟩
      exact hlooks
  refine ⟨(readOnce_after source options signer events).nodup, fun path outcome more h => ?_,
    fun id c outcome hcall hended => ?_,
    fun issuer text unit resolution position answer hstate hanswer => ?_,
    load s.source s.source.paths s, fun more hwork hlong => ?_⟩
  · have hlater := outcome?_after h more
    rwa [after_append] at hlater
  · obtain ⟨reference, moment, hlooks, hends⟩ := hcarries.ended id outcome hended
    cases (past_of_looks hlooks).asked with
    | call made =>
        cases hcall.symm.trans made
        exact ⟨moment, once hlooks, hends⟩
  · obtain ⟨outcome, ⟨reference, moment, hlooks, hends⟩, heq⟩ :=
      hcarries.noted issuer text unit resolution position answer hstate hanswer
    cases (past_of_looks hlooks).asked with
    | request begun asked =>
        exact ⟨reference, moment, outcome, asked text unit resolution hstate, once hlooks, hends, heq⟩
  · have hidle : (s.after more).queue = [] :=
      queue_after_work (accounted_after source options signer events) (withinUnits_paths s.source)
        hwork hlong
    -- Where no job is left, no call and no task is left open either.
    rw [← after_append] at hidle ⊢
    obtain ⟨hended, hfinished⟩ := finished_of_queue_eq_nil
      (accounted_after source options signer (events ++ more))
      (noted_after source options signer (events ++ more))
      (attended_after source options signer (events ++ more)) hidle
    refine ⟨fun id hid => hended id ?_, hfinished⟩
    exact (List.getElem?_eq_some_iff.mp (calls_after (List.getElem?_eq_getElem hid) more)).1

end Session

end PersistedOps

import PersistedOps.Proofs.Session.Move
import PersistedOps.Proofs.Waiting

/-!
The waits that a session notes. They are the waits that there are, as far as unfinished units go, and
they never close a cycle. So a session in which a unit is unfinished has a job, and one in which all
calls have ended notes no waits at all.
-/

namespace PersistedOps.Session

open Relation

variable {σ : Type}

/-- A waiter is parked at the task of an unfinished unit. -/
def ParkedAt (s : Session σ) (w : Waiter) (path : String) : Prop :=
  ∃ t, s.task? path = some t ∧ w ∈ t.parked

/-- The waits noted are those of waiters that are parked or on their way back, except for some pairs
whose waiter is in the hands of the step that is under way. -/
structure Noted (s : Session σ) (inHand : String → String → Prop) : Prop where
  justified : ∀ i q, s.waiting.Awaits i q → inHand i q ∨
    ∃ w, s.issuer? w = some i ∧ (s.ParkedAt w q ∨ .wake w q ∈ s.queue)
  noted : ∀ w i q, s.ParkedAt w q → s.issuer? w = some i → s.waiting.Awaits i q
  acyclic : s.waiting.Acyclic

/-- Every unfinished task has someone who waits for it: it was started by one. -/
def Attended (s : Session σ) : Prop :=
  ∀ path t, s.task? path = some t → t.state.outcome? = none → t.waiters ≠ []

theorem noted_start (source : σ) (options : Options) (signer : Signer) :
    (start source options signer).Noted fun _ _ => False where
  justified _ _ h := by cases h
  noted := by
    rintro w i q ⟨t, ht, -⟩
    cases ht
  acyclic := .nil

theorem issuer?_eq {s s' : Session σ} (h : s'.calls = s.calls) (w : Waiter) :
    s'.issuer? w = s.issuer? w := by
  cases w with
  | call id => simp only [issuer?, h]
  | request => rfl

/-- An issuer, once known, stays with its waiter. -/
theorem issuer?_addCall {s : Session σ} {w : Waiter} {i : String} (h : s.issuer? w = some i)
    (reference : String) (issuer : Option String) :
    (s.addCall reference issuer).issuer? w = some i := by
  cases w with
  | call id =>
      obtain ⟨c, hc, hi⟩ := Option.bind_eq_some_iff.mp h
      obtain ⟨hlt, -⟩ := List.getElem?_eq_some_iff.mp hc
      simp only [issuer?, addCall, List.getElem?_append_left hlt]
      exact h
  | request => exact h

theorem ParkedAt.unfinished {s : Session σ} {w : Waiter} {q : String} (h : s.ParkedAt w q) :
    s.outcome? q = none := by
  obtain ⟨t, ht, hw⟩ := h
  rw [outcome?_eq, state?, ht]
  change t.state.outcome? = none
  by_contra hne
  rw [BuildTask.parked, if_pos (Option.isSome_iff_ne_none.mpr hne)] at hw
  cases hw

theorem parked_pos {s : Session σ} {w : Waiter} (h : 0 < s.parked (.waiter w)) :
    ∃ e ∈ s.tasks, w ∈ e.2.parked := by
  obtain ⟨n, hn, hpos⟩ := List.sum_pos_iff_exists_pos_nat.mp h
  obtain ⟨e, he, rfl⟩ := List.mem_map.mp hn
  obtain ⟨w', hw', heq⟩ := List.mem_map.mp (List.count_pos_iff.mp hpos)
  cases heq
  exact ⟨e, he, hw'⟩

theorem lookup_of_mem {α : Type} {l : List (String × α)} (hkeys : (l.map Prod.fst).Nodup)
    {e : String × α} (he : e ∈ l) : l.lookup e.1 = some e.2 := by
  induction l with
  | nil => cases he
  | cons d l ih =>
      rw [List.map_cons, List.nodup_cons] at hkeys
      rw [List.lookup_cons]
      rcases List.mem_cons.mp he with rfl | he
      · simp
      · have hne : (e.1 == d.1) = false := by
          refine beq_eq_false_iff_ne.mpr fun heq => hkeys.1 ?_
          exact List.mem_map.mpr ⟨e, he, heq⟩
        rw [hne]
        exact ih hkeys.2 he

theorem mem_of_lookup {α : Type} {l : List (String × α)} {path : String} {a : α}
    (h : l.lookup path = some a) : (path, a) ∈ l := by
  obtain ⟨before, after, rfl, -⟩ := List.lookup_eq_some_iff.mp h
  exact List.mem_append_right _ List.mem_cons_self

/-- A waiter that is owed something is in the queue or parked. -/
theorem Accounted.place_of_owed {s : Session σ} (h : s.Accounted []) {w : Waiter}
    (howed : s.owes (.waiter w) = true) :
    (∃ job ∈ s.queue, job.token = .waiter w) ∨ ∃ q, s.ParkedAt w q := by
  have hb := h.balance (.waiter w)
  rw [howed, List.count_nil, Bool.toNat_true] at hb
  by_cases hq : s.queued (.waiter w) = 0
  · obtain ⟨e, he, hw⟩ := parked_pos (s := s) (w := w) (by omega)
    exact Or.inr ⟨e.1, e.2, lookup_of_mem h.keys he, hw⟩
  · left
    obtain ⟨job, hjob, htoken⟩ := List.mem_map.mp (List.count_pos_iff.mp (Nat.pos_of_ne_zero hq))
    exact ⟨job, hjob, htoken⟩

/-- A parked waiter is owed what it waits for. -/
theorem Accounted.owed_of_parkedAt {s : Session σ} {held : List Token} (h : s.Accounted held)
    {w : Waiter} {q : String} (hparked : s.ParkedAt w q) : s.owes (.waiter w) = true := by
  obtain ⟨t, ht, hw⟩ := hparked
  have hpos : 0 < s.parked (.waiter w) := by
    refine List.sum_pos_iff_exists_pos_nat.mpr ⟨_, List.mem_map.mpr ⟨(q, t), ?_, rfl⟩, ?_⟩
    · exact mem_of_lookup ht
    · exact List.count_pos_iff.mpr (List.mem_map.mpr ⟨w, hw, rfl⟩)
  have hb := h.balance (.waiter w)
  by_contra hne
  rw [Bool.not_eq_true] at hne
  rw [hne, Bool.toNat_false] at hb
  omega

/-! Where waiters are parked after the parts of a step -/

theorem parkedAt_congr {s s' : Session σ} (h : s'.tasks = s.tasks) (w : Waiter) (q : String) :
    s'.ParkedAt w q ↔ s.ParkedAt w q := by
  rw [ParkedAt, ParkedAt, task?, h, task?]

theorem parkedAt_modifyTask (s : Session σ) (path : String) (f : BuildTask → BuildTask)
    (w : Waiter) (q : String) : (s.modifyTask path f).ParkedAt w q ↔
      if q = path then ∃ t, s.task? q = some t ∧ w ∈ (f t).parked else s.ParkedAt w q := by
  rw [ParkedAt, task?_modifyTask]
  split
  · constructor
    · rintro ⟨t, ht, hw⟩
      obtain ⟨t', ht', rfl⟩ := Option.map_eq_some_iff.mp ht
      exact ⟨t', ht', hw⟩
    · rintro ⟨t, ht, hw⟩
      exact ⟨f t, by rw [ht]; rfl, hw⟩
  · rfl

/-- A change that keeps a task open, or ended, and its waiters keeps all waiters where they are. -/
theorem parkedAt_modifyTask_of_same {s : Session σ} {path : String} {f : BuildTask → BuildTask}
    (h : ∀ t, s.task? path = some t → (f t).parked = t.parked) (w : Waiter) (q : String) :
    (s.modifyTask path f).ParkedAt w q ↔ s.ParkedAt w q := by
  rw [parkedAt_modifyTask]
  split
  · rename_i hq
    subst hq
    constructor
    · rintro ⟨t, ht, hw⟩
      exact ⟨t, ht, h t ht ▸ hw⟩
    · rintro ⟨t, ht, hw⟩
      exact ⟨t, ht, (h t ht).symm ▸ hw⟩
  · rfl

theorem parkedAt_ensureTask (s : Session σ) (path : String) (w : Waiter) (q : String) :
    (s.ensureTask path).ParkedAt w q ↔ s.ParkedAt w q := by
  rw [ParkedAt, task?_ensureTask]
  split
  · rename_i hq
    subst hq
    constructor
    · rintro ⟨t, ht, hw⟩
      cases htask : s.task? q with
      | none =>
          rw [htask] at ht
          cases ht
          cases hw
      | some t' =>
          rw [htask] at ht
          cases ht
          exact ⟨_, htask, hw⟩
    · rintro ⟨t, ht, hw⟩
      exact ⟨t, by rw [ht]; rfl, hw⟩
  · rfl

theorem parkedAt_park {s : Session σ} {path : String} {t : BuildTask}
    (htask : s.task? path = some t) (hopen : t.state.outcome? = none) (w w' : Waiter) (q : String) :
    (s.park w path).ParkedAt w' q ↔ s.ParkedAt w' q ∨ w' = w ∧ q = path := by
  have htasks : (s.park w path).tasks =
      (s.modifyTask path fun t => { t with waiters := t.waiters ++ [w] }).tasks := by
    rw [park_eq]
  rw [parkedAt_congr htasks, parkedAt_modifyTask]
  split
  · rename_i hq
    subst hq
    simp [ParkedAt, htask, BuildTask.parked, hopen]
  · rename_i hq
    simp [hq]

theorem parkedAt_finish (s : Session σ) (path : String) (outcome : Except Failure Processed)
    (w : Waiter) (q : String) :
    (s.finish path outcome).ParkedAt w q ↔ s.ParkedAt w q ∧ q ≠ path := by
  have htasks : (s.finish path outcome).tasks =
      (s.modifyTask path fun t => { t with state := .finished outcome }).tasks := rfl
  rw [parkedAt_congr htasks, parkedAt_modifyTask]
  split
  · rename_i hq
    simp [hq, BuildTask.parked]
  · rename_i hq
    simp [hq]

/-! The waits noted after the parts of a step -/

theorem stopWaiting_waiting_subset (s : Session σ) (w : Waiter) (path i q : String)
    (h : (s.stopWaiting w path).waiting.Awaits i q) : s.waiting.Awaits i q := by
  unfold stopWaiting at h
  split at h
  · exact (Waiting.mem_discard.mp h).1
  · exact h

/-- More jobs, and other changes that leave waiters and waits alone, leave the waits in order. -/
theorem Noted.grow {s s' : Session σ} {inHand : String → String → Prop} (h : s.Noted inHand)
    (hwaiting : s'.waiting = s.waiting) (hcalls : s'.calls = s.calls)
    (hparked : ∀ w q, s'.ParkedAt w q ↔ s.ParkedAt w q) (hqueue : ∀ job ∈ s.queue, job ∈ s'.queue) :
    s'.Noted inHand where
  justified i q hiq := by
    rw [hwaiting] at hiq
    rcases h.justified i q hiq with hhand | ⟨w, hi, hplace⟩
    · exact Or.inl hhand
    · refine Or.inr ⟨w, by rw [issuer?_eq hcalls, hi], ?_⟩
      rcases hplace with hplace | hplace
      · exact Or.inl ((hparked w q).mpr hplace)
      · exact Or.inr (hqueue _ hplace)
  noted w i q hw hi := by
    rw [hwaiting]
    exact h.noted w i q ((hparked w q).mp hw) (by rw [← issuer?_eq hcalls, hi])
  acyclic := hwaiting ▸ h.acyclic

/-- The waits in hand when a job is picked: those of a waiter that is woken. -/
def waking (s : Session σ) (job : Job) (i q : String) : Prop :=
  ∃ w, job = .wake w q ∧ s.issuer? w = some i

theorem Noted.pick {s rest : Session σ} {job : Job} (h : s.Noted fun _ _ => False)
    (hpick : Picked s job rest) : rest.Noted (rest.waking job) := by
  obtain ⟨hperm, heq⟩ := hpick
  have hwaiting : rest.waiting = s.waiting := by rw [heq]
  have hcalls : rest.calls = s.calls := by rw [heq]
  have htasks : rest.tasks = s.tasks := by rw [heq]
  refine ⟨fun i q hiq => ?_, fun w i q hw hi => ?_, hwaiting ▸ h.acyclic⟩
  · rw [hwaiting] at hiq
    rcases h.justified i q hiq with hhand | ⟨w, hi, hplace⟩
    · exact hhand.elim
    · have hi' : rest.issuer? w = some i := by rw [issuer?_eq hcalls, hi]
      rcases hplace with hplace | hplace
      · exact Or.inr ⟨w, hi', Or.inl ((parkedAt_congr htasks w q).mpr hplace)⟩
      · rcases List.mem_cons.mp (hperm.mem_iff.mp hplace) with rfl | hplace
        · exact Or.inl ⟨w, rfl, hi'⟩
        · exact Or.inr ⟨w, hi', Or.inr hplace⟩
  · rw [hwaiting]
    exact h.noted w i q ((parkedAt_congr htasks w q).mp hw) (by rw [← issuer?_eq hcalls, hi])

/-- A job that wakes nobody leaves no wait in hand. -/
theorem Noted.settled {s : Session σ} {job : Job} (h : s.Noted (s.waking job))
    (hjob : ∀ w q, job ≠ .wake w q) : s.Noted fun _ _ => False where
  justified i q hiq := by
    rcases h.justified i q hiq with ⟨w, hwake, -⟩ | hplace
    · exact (hjob w q hwake).elim
    · exact Or.inr hplace
  noted := h.noted
  acyclic := h.acyclic

/-- When a waiter stops waiting for a finished unit, nobody parked loses a wait: the unit of a parked
waiter is not finished. -/
theorem Noted.stopWaiting {s : Session σ} {inHand inHand' : String → String → Prop} {w : Waiter}
    {path : String} (h : s.Noted inHand) (hfinished : (s.outcome? path).isSome)
    (hhand : ∀ i q, inHand i q → inHand' i q ∨ q = path ∧ s.issuer? w = some i) :
    (s.stopWaiting w path).Noted inHand' := by
  have hcalls : (s.stopWaiting w path).calls = s.calls := by rw [stopWaiting_eq]
  have htasks : (s.stopWaiting w path).tasks = s.tasks := by rw [stopWaiting_eq]
  have hqueue : (s.stopWaiting w path).queue = s.queue := by rw [stopWaiting_eq]
  have hgone (i : String) (hi : s.issuer? w = some i) :
      ¬(s.stopWaiting w path).waiting.Awaits i path := by
    intro haw
    rw [Session.stopWaiting, hi] at haw
    exact (Waiting.mem_discard.mp haw).2 rfl
  refine ⟨fun i q hiq => ?_, fun w' i q hw hi => ?_, ?_⟩
  · rcases h.justified i q (s.stopWaiting_waiting_subset w path i q hiq) with hin | ⟨w', hi, hplace⟩
    · rcases hhand i q hin with hin | ⟨rfl, hi⟩
      · exact Or.inl hin
      · exact (hgone i hi hiq).elim
    · refine Or.inr ⟨w', by rw [issuer?_eq hcalls, hi], ?_⟩
      rwa [parkedAt_congr htasks, hqueue]
  · have hw' := (parkedAt_congr htasks w' q).mp hw
    have hi' : s.issuer? w' = some i := by rw [← issuer?_eq hcalls, hi]
    have haw := h.noted w' i q hw' hi'
    unfold Session.stopWaiting
    split
    · refine Waiting.mem_discard.mpr ⟨haw, fun heq => ?_⟩
      cases heq
      rw [hw'.unfinished] at hfinished
      cases hfinished
    · exact haw
  · exact h.acyclic.mono fun e he => s.stopWaiting_waiting_subset w path e.1 e.2 he

theorem awaits_park (s : Session σ) (w : Waiter) (path i q : String) :
    (s.park w path).waiting.Awaits i q ↔
      s.waiting.Awaits i q ∨ s.issuer? w = some i ∧ q = path := by
  have hissuer : (s.modifyTask path fun t => { t with waiters := t.waiters ++ [w] }).issuer? w =
      s.issuer? w := issuer?_eq rfl w
  unfold park
  simp only [hissuer]
  split
  · rename_i issuer hi
    rw [hi]
    refine Iff.trans Waiting.mem_add (or_congr Iff.rfl ?_)
    rw [Prod.mk.injEq, Option.some.injEq, eq_comm (a := i)]
  · rename_i hi
    simp [hi, modifyTask]

/-- A waiter that parks is noted, and the search has made sure that this closes no cycle. -/
theorem Noted.park {s : Session σ} {w : Waiter} {path : String} {t : BuildTask}
    (h : s.Noted fun _ _ => False) (htask : s.task? path = some t)
    (hopen : t.state.outcome? = none)
    (hclear : ∀ i, s.issuer? w = some i → s.waiting.cycle? i path = none) :
    (s.park w path).Noted fun _ _ => False := by
  have hcalls : (s.park w path).calls = s.calls := by
    rw [park_eq]
    rfl
  have hqueue : (s.park w path).queue = s.queue := by
    rw [park_eq]
    rfl
  have hwaiting := s.awaits_park w path
  refine ⟨fun i q hiq => ?_, fun w' i q hw hi => ?_, ?_⟩
  · rcases (hwaiting i q).mp hiq with hiq | ⟨hi, rfl⟩
    · rcases h.justified i q hiq with hin | ⟨w', hi, hplace⟩
      · exact hin.elim
      · refine Or.inr ⟨w', by rw [issuer?_eq hcalls, hi], ?_⟩
        rw [parkedAt_park htask hopen, hqueue]
        exact hplace.imp_left Or.inl
    · refine Or.inr ⟨w, by rw [issuer?_eq hcalls, hi], Or.inl ?_⟩
      exact (parkedAt_park htask hopen w w q).mpr (Or.inr ⟨rfl, rfl⟩)
  · rw [issuer?_eq hcalls] at hi
    rw [hwaiting]
    rcases (parkedAt_park htask hopen w w' q).mp hw with hw | ⟨rfl, rfl⟩
    · exact Or.inl (h.noted w' i q hw hi)
    · exact Or.inr ⟨hi, rfl⟩
  · cases hi : s.issuer? w with
    | none =>
        refine h.acyclic.mono fun e he => ?_
        rcases (hwaiting e.1 e.2).mp he with he | ⟨hi', -⟩
        · exact he
        · rw [hi] at hi'
          cases hi'
    | some i =>
        refine (h.acyclic.add (hclear i hi)).mono fun e he => Waiting.mem_add.mpr ?_
        rcases (hwaiting e.1 e.2).mp he with he | ⟨hi', hq⟩
        · exact Or.inl he
        · rw [hi] at hi'
          cases hi'
          exact Or.inr (Prod.ext rfl hq)

/-- Those who were parked at a unit that is finished are on their way back. -/
theorem Noted.finish {s : Session σ} (h : s.Noted fun _ _ => False) (path : String)
    (outcome : Except Failure Processed) : (s.finish path outcome).Noted fun _ _ => False where
  justified i q hiq := by
    rcases h.justified i q hiq with hin | ⟨w, hi, hplace⟩
    · exact hin.elim
    · have hcalls : (s.finish path outcome).calls = s.calls := rfl
      refine Or.inr ⟨w, by rw [issuer?_eq hcalls, hi], ?_⟩
      rw [parkedAt_finish]
      rcases hplace with hplace | hplace
      · by_cases hq : q = path
        · right
          obtain ⟨t, ht, hw⟩ := hplace
          subst hq
          have hwaiters : w ∈ t.waiters := by
            unfold BuildTask.parked at hw
            split at hw
            · cases hw
            · exact hw
          refine List.mem_append_right _ (List.mem_map.mpr ⟨w, ?_, rfl⟩)
          rw [ht]
          exact hwaiters
        · exact Or.inl ⟨hplace, hq⟩
      · exact Or.inr (List.mem_append_left _ hplace)
  noted w i q hw hi := by
    have hcalls : (s.finish path outcome).calls = s.calls := rfl
    rw [issuer?_eq hcalls] at hi
    exact h.noted w i q ((parkedAt_finish s path outcome w q).mp hw).1 hi
  acyclic := h.acyclic

theorem Noted.deliver {s : Session σ} (h : s.Noted fun _ _ => False) (w : Waiter)
    (outcome : Except Failure Processed) : (s.deliver w outcome).Noted fun _ _ => False := by
  refine h.grow ?_ ?_ (parkedAt_congr ?_) fun job hjob => ?_
  · rw [deliver_eq]
  · rw [deliver_eq]
  · rw [deliver_eq]
  · cases w with
    | call => exact hjob
    | request => exact List.mem_append_left _ hjob

theorem Noted.ensureTask {s : Session σ} (h : s.Noted fun _ _ => False) (path : String) :
    (s.ensureTask path).Noted fun _ _ => False := by
  refine h.grow ?_ ?_ (s.parkedAt_ensureTask path) fun job hjob => ?_
  · rw [ensureTask_eq]
  · rw [ensureTask_eq]
  · unfold Session.ensureTask
    split
    · exact hjob
    · exact List.mem_append_left _ hjob

/-- A task that goes on without being finished keeps its waiters waiting. -/
theorem Noted.goOn {s : Session σ} (h : s.Noted fun _ _ => False) {path : String} {state : TaskState}
    (hopen : ∀ t, s.task? path = some t → t.state.outcome? = none) (hstate : state.outcome? = none)
    (jobs : List Job) :
    ((s.modifyTask path fun t => { t with state }).enqueue jobs).Noted fun _ _ => False := by
  refine h.grow rfl rfl ?_ fun job hjob => List.mem_append_left _ hjob
  have hparked : ∀ w q, (s.modifyTask path fun t => { t with state }).ParkedAt w q ↔
      s.ParkedAt w q := by
    refine parkedAt_modifyTask_of_same fun t ht => ?_
    simp [BuildTask.parked, hopen t ht, hstate]
  exact hparked

theorem Noted.addCall {s : Session σ} (h : s.Noted fun _ _ => False) (haccount : s.Accounted [])
    (reference : String) (issuer : Option String) :
    (s.addCall reference issuer).Noted fun _ _ => False where
  justified i q hiq := by
    rcases h.justified i q hiq with hin | ⟨w, hi, hplace⟩
    · exact hin.elim
    · refine Or.inr ⟨w, issuer?_addCall hi _ _, hplace.imp id fun hqueue => ?_⟩
      exact List.mem_append_left _ hqueue
  noted w i q hw hi := by
    refine h.noted w i q hw ?_
    cases w with
    | request => exact hi
    | call id =>
        have howed := haccount.owed_of_parkedAt (w := .call id) (q := q) hw
        simp only [owes, Bool.and_eq_true, decide_eq_true_eq] at howed
        simp only [issuer?, Session.addCall, List.getElem?_append_left howed.1] at hi
        exact hi
  acyclic := h.acyclic

/-- A step keeps the waits in order. -/
theorem Noted.move [UnitSource σ] {s s' : Session σ} {job : Job} (h : s.Noted (s.waking job))
    (hmove : Move s job s') : s'.Noted fun _ _ => False := by
  have wakes_nobody {w : Waiter} {reference : String} (seeks : s.Seeks job w reference) :
      ∀ w q, job ≠ .wake w q := by
    cases seeks <;> rintro _ _ ⟨⟩
  cases hmove with
  | lost seeks => exact (h.settled (wakes_nobody seeks)).deliver _ _
  | refused seeks => exact (h.settled (wakes_nobody seeks)).deliver _ _
  | met seeks located finished =>
      refine Noted.deliver ?_ _ _
      refine (h.settled (wakes_nobody seeks)).stopWaiting ?_ fun _ _ hin => hin.elim
      rw [finished]
      rfl
  | parked seeks located clear unfinished =>
      obtain ⟨t, htask, hopen⟩ := exists_open_ensureTask unfinished
      refine ((h.settled (wakes_nobody seeks)).ensureTask _).park htask hopen fun i hi => ?_
      rw [ensureTask_eq] at hi ⊢
      exact clear i hi
  | woken finished =>
      refine Noted.deliver (h.stopWaiting (by rw [finished]; rfl) ?_) _ _
      rintro i q ⟨w, heq, hi⟩
      cases heq
      exact Or.inr ⟨rfl, hi⟩
  | @ended path outcome queued ends =>
      refine Noted.finish (s := { s with reads := s.reads ++ [path] }) ?_ _ _
      exact (h.settled (by rintro _ _ ⟨⟩)).grow rfl rfl (parkedAt_congr rfl) fun _ => id
  | @expanded path source unit queued read extracted some =>
      refine Noted.goOn (s := { s with reads := s.reads ++ [path] }) ?_ ?_ rfl _
      · exact (h.settled (by rintro _ _ ⟨⟩)).grow rfl rfl (parkedAt_congr rfl) fun _ => id
      · rintro t ht
        obtain ⟨t', ht', hstate⟩ := Option.map_eq_some_iff.mp queued
        cases ht.symm.trans ht'
        rw [hstate]
        rfl
  | @noted issuer source position answer unit resolution waiters task lacking =>
      rw [settle_eq task]
      refine (h.settled (by rintro _ _ ⟨⟩)).goOn (fun t ht => ?_) rfl _
      cases ht.symm.trans task
      rfl
  | resumed => exact (h.settled (by rintro _ _ ⟨⟩)).finish _ _

/-! Every unfinished task is waited for -/

theorem attended_start (source : σ) (options : Options) (signer : Signer) :
    (start source options signer).Attended := by
  intro path t ht
  cases ht

theorem Attended.congr {s s' : Session σ} (h : s.Attended) (htasks : s'.tasks = s.tasks) :
    s'.Attended := by
  intro path t ht hopen
  rw [task?, htasks] at ht
  exact h path t ht hopen

theorem Attended.modifyTask {s : Session σ} (h : s.Attended) {path : String}
    {f : BuildTask → BuildTask}
    (hf : ∀ t, s.task? path = some t → (f t).state.outcome? = none → (f t).waiters ≠ []) :
    (s.modifyTask path f).Attended := by
  intro p t ht hopen
  rw [task?_modifyTask] at ht
  split at ht
  · rename_i hp
    subst hp
    obtain ⟨t', ht', rfl⟩ := Option.map_eq_some_iff.mp ht
    exact hf t' ht' hopen
  · exact h p t ht hopen

/-- A task in a new state keeps its waiters. -/
theorem Attended.setState {s : Session σ} (h : s.Attended) {path : String} {state : TaskState}
    (hopen : state.outcome? = none → ∀ t, s.task? path = some t → t.state.outcome? = none) :
    (s.modifyTask path fun t => { t with state }).Attended :=
  h.modifyTask fun t ht hstate => h path t ht (hopen hstate t ht)

/-- A task that is started has the waiter that started it. -/
theorem Attended.park {s : Session σ} (h : s.Attended) (w : Waiter) (path : String) :
    ((s.ensureTask path).park w path).Attended := by
  let f (t : BuildTask) : BuildTask := { t with waiters := t.waiters ++ [w] }
  suffices hmodify : ((s.ensureTask path).modifyTask path f).Attended by
    refine hmodify.congr ?_
    rw [park_eq]
  intro p t ht hopen
  rw [task?_modifyTask] at ht
  split at ht
  · obtain ⟨t', -, rfl⟩ := Option.map_eq_some_iff.mp ht
    simp [f]
  · rename_i hp
    rw [task?_ensureTask, if_neg hp] at ht
    exact h p t ht hopen

/-- A step leaves nobody unattended. -/
theorem Attended.move [UnitSource σ] {s s' : Session σ} {job : Job} (h : s.Attended)
    (hmove : Move s job s') : s'.Attended := by
  cases hmove with
  | lost => exact h.congr (by rw [deliver_eq])
  | refused => exact h.congr (by rw [deliver_eq])
  | met => exact h.congr (by rw [deliver_eq, stopWaiting_eq])
  | parked => exact h.park _ _
  | woken => exact h.congr (by rw [deliver_eq, stopWaiting_eq])
  | ended => exact Attended.congr (h.setState (by rintro ⟨⟩)) rfl
  | expanded queued =>
      refine Attended.congr (h.setState fun _ t ht => ?_) rfl
      obtain ⟨t', ht', hstate⟩ := Option.map_eq_some_iff.mp queued
      cases ht.symm.trans ht'
      rw [hstate]
      rfl
  | noted task =>
      rw [settle_eq task]
      refine Attended.congr (h.setState fun _ t ht => ?_) rfl
      cases ht.symm.trans task
      rfl
  | resumed => exact Attended.congr (h.setState (by rintro ⟨⟩)) rfl

/-- A wait that is noted in a step is that of a waiter that has found the path in this step. -/
theorem awaits_move [UnitSource σ] {s s' : Session σ} {job : Job} (hmove : Move s job s')
    {i q : String} (h : s'.waiting.Awaits i q) : s.waiting.Awaits i q ∨
      ∃ w reference, s.Seeks job w reference ∧ s.issuer? w = some i ∧
        UnitSource.locate s.source reference (some i) = .ok q := by
  cases hmove with
  | lost | refused =>
      rw [deliver_eq] at h
      exact .inl h
  | met | woken =>
      rw [deliver_eq] at h
      exact .inl (s.stopWaiting_waiting_subset _ _ i q h)
  | @parked _ w reference path seeks located =>
      rcases ((s.ensureTask path).awaits_park w path i q).mp h with h | ⟨hi, rfl⟩
      · rw [ensureTask_eq] at h
        exact .inl h
      · have hcalls : (s.ensureTask q).calls = s.calls := by rw [ensureTask_eq]
        rw [issuer?_eq hcalls] at hi
        rw [hi] at located
        exact .inr ⟨w, reference, seeks, hi, located⟩
  | noted task =>
      rw [settle_eq task] at h
      exact .inl h
  | ended | expanded | resumed => exact .inl h

/-! Every schedule -/

theorem noted_after [UnitSource σ] (source : σ) (options : Options) (signer : Signer)
    (events : List (Event σ)) :
    ((start source options signer).after events).Noted fun _ _ => False := by
  refine after_moves (P := fun s => s.Noted fun _ _ => False) (A := fun _ => True)
    (fun s c _ haccount h => h.addCall haccount _ _) (fun s source _ h => ?_)
    (fun s job rest s' _ hpick hmove h => (h.pick hpick).move hmove)
    (noted_start source options signer) (accounted_start source options signer) fun _ _ => trivial
  exact h.grow rfl rfl (parkedAt_congr rfl) fun _ => id

theorem attended_after [UnitSource σ] (source : σ) (options : Options) (signer : Signer)
    (events : List (Event σ)) : ((start source options signer).after events).Attended := by
  refine after_moves (P := Attended) (A := fun _ => True)
    (fun s c _ _ h => h.congr rfl) (fun s source _ h => h.congr rfl)
    (fun s job rest s' _ hpick hmove h => ?_)
    (attended_start source options signer) (accounted_start source options signer) fun _ _ => trivial
  refine Attended.move (h.congr ?_) hmove
  rw [hpick.rest_eq]

/-! What follows from the waits being in order -/

/-- Paths with a task that is not finished. -/
def unfinished (s : Session σ) : List String :=
  (s.tasks.map Prod.fst).filter fun path => (s.outcome? path).isNone

theorem mem_unfinished {s : Session σ} {path : String} :
    path ∈ s.unfinished ↔ ∃ t, s.task? path = some t ∧ t.state.outcome? = none := by
  rw [unfinished, List.mem_filter, List.mem_map, Option.isNone_iff_eq_none, outcome?_eq, state?]
  constructor
  · rintro ⟨⟨e, he, rfl⟩, hopen⟩
    obtain ⟨t, ht⟩ : ∃ t, s.task? e.1 = some t := by
      refine Option.ne_none_iff_exists'.mp fun hnone => ?_
      have hne := List.lookup_eq_none_iff.mp hnone e he
      simp at hne
    rw [ht] at hopen
    exact ⟨t, ht, hopen⟩
  · rintro ⟨t, ht, hopen⟩
    refine ⟨⟨(path, t), mem_of_lookup ht, rfl⟩, ?_⟩
    rw [ht]
    exact hopen

theorem ParkedAt.mem_unfinished {s : Session σ} {w : Waiter} {q : String} (h : s.ParkedAt w q) :
    q ∈ s.unfinished := by
  have hopen := h.unfinished
  obtain ⟨t, ht, -⟩ := h
  rw [outcome?_eq, state?, ht] at hopen
  exact Session.mem_unfinished.mpr ⟨t, ht, hopen⟩

/-- A request that is owed an answer belongs to an unfinished unit. -/
theorem mem_unfinished_of_owed {s : Session σ} {issuer : String} {position : Nat}
    (h : s.owes (.waiter (.request issuer position)) = true) : issuer ∈ s.unfinished := by
  simp only [owes, state?, Option.any_map, Option.any_eq_true] at h
  obtain ⟨t, ht, hlacks⟩ := h
  refine mem_unfinished.mpr ⟨t, ht, ?_⟩
  change t.state.lacks position = true at hlacks
  cases hs : t.state with
  | finished => rw [hs] at hlacks; cases hlacks
  | _ => rfl

/-- A task that is not finished has its next step ahead, or it lacks an answer. -/
theorem ready_or_lacks {state : TaskState} (h : state.outcome? = none) :
    state.isReady = true ∨ ∃ position, state.lacks position = true := by
  cases state with
  | queued => exact Or.inl rfl
  | finished => cases h
  | resolving source unit resolution =>
      rw [TaskState.isReady_resolving]
      cases hsettled : resolution.settled? with
      | some answers => exact Or.inl rfl
      | none =>
          right
          have hnone := Resolution.settled?_eq_none_iff.mp hsettled
          obtain ⟨position, hposition⟩ := List.mem_iff_getElem?.mp hnone
          exact ⟨position, by rw [TaskState.lacks_resolving, hposition]; rfl⟩

/-- A session with an unfinished task is not stuck. The unit that awaits no other unfinished unit can
take a step: the wait of one of its requests would be noted. -/
theorem queue_ne_nil_of_unfinished {s : Session σ} (haccount : s.Accounted [])
    (h : s.Noted fun _ _ => False) (hopen : s.unfinished ≠ []) : s.queue ≠ [] := by
  obtain ⟨a, ha, hsink⟩ := h.acyclic.exists_sink hopen
  obtain ⟨t, ht, hstate⟩ := mem_unfinished.mp ha
  rcases ready_or_lacks hstate with hready | ⟨position, hlacks⟩
  · have howed : s.owes (.task a) = true := by
      rw [owes, state?, ht]
      exact hready
    have hb := haccount.balance (.task a)
    have hparked : s.parked (.task a) = 0 := by
      refine Nat.eq_zero_of_not_pos fun hpos => ?_
      obtain ⟨n, hn, hpos⟩ := List.sum_pos_iff_exists_pos_nat.mp hpos
      obtain ⟨e, -, rfl⟩ := List.mem_map.mp hn
      obtain ⟨w, -, heq⟩ := List.mem_map.mp (List.count_pos_iff.mp hpos)
      cases heq
    rw [howed, hparked, List.count_nil, Bool.toNat_true] at hb
    intro hnil
    rw [queued, hnil] at hb
    simp at hb
  · have howed : s.owes (.waiter (.request a position)) = true := by
      rw [owes, state?, ht]
      exact hlacks
    rcases haccount.place_of_owed howed with ⟨job, hjob, -⟩ | ⟨q, hq⟩
    · exact List.ne_nil_of_mem hjob
    · exact (hsink q hq.mem_unfinished (h.noted _ a q hq rfl)).elim

/-- A session that owes a call its outcome is not stuck. -/
theorem queue_ne_nil_of_call {s : Session σ} (haccount : s.Accounted [])
    (h : s.Noted fun _ _ => False) {id : Nat} (hid : id < s.calls.length)
    (hcall : s.callOutcome? id = none) : s.queue ≠ [] := by
  have howed : s.owes (.waiter (.call id)) = true := by simp [owes, hid, hcall]
  rcases haccount.place_of_owed howed with ⟨job, hjob, -⟩ | ⟨q, hq⟩
  · exact List.ne_nil_of_mem hjob
  · exact queue_ne_nil_of_unfinished haccount h (List.ne_nil_of_mem hq.mem_unfinished)

/-- Once all calls have ended every unit is finished: one that nobody unfinished awaits has waiters, and
those could only be calls. -/
theorem unfinished_eq_nil {s : Session σ} (haccount : s.Accounted [])
    (h : s.Noted fun _ _ => False) (hattended : s.Attended)
    (hcalls : ∀ id < s.calls.length, (s.callOutcome? id).isSome) : s.unfinished = [] := by
  by_contra hne
  obtain ⟨a, ha, hsource⟩ := h.acyclic.exists_source hne
  obtain ⟨t, ht, hopen⟩ := mem_unfinished.mp ha
  obtain ⟨w, rest, hw⟩ := List.exists_cons_of_ne_nil (hattended a t ht hopen)
  have hparked : s.ParkedAt w a := by
    refine ⟨t, ht, ?_⟩
    simp [BuildTask.parked, hopen, hw]
  have howed := haccount.owed_of_parkedAt hparked
  cases w with
  | call id =>
      simp only [owes, Bool.and_eq_true, decide_eq_true_eq, Option.isNone_iff_eq_none] at howed
      have hended := hcalls id howed.1
      rw [howed.2] at hended
      cases hended
  | request issuer position =>
      exact hsource issuer (mem_unfinished_of_owed howed) (h.noted _ issuer a hparked rfl)

/-- Once all calls have ended no wait is left. -/
theorem waiting_eq_nil {s : Session σ} (haccount : s.Accounted [])
    (h : s.Noted fun _ _ => False) (hattended : s.Attended)
    (hcalls : ∀ id < s.calls.length, (s.callOutcome? id).isSome) : s.waiting = [] := by
  have hnone := unfinished_eq_nil haccount h hattended hcalls
  refine List.eq_nil_iff_forall_not_mem.mpr fun ⟨i, q⟩ hiq => ?_
  rcases h.justified i q hiq with hin | ⟨w, -, hplace⟩
  · exact hin
  · have howed : s.owes (.waiter w) = true := by
      rcases hplace with hparked | hqueue
      · exact haccount.owed_of_parkedAt hparked
      · exact haccount.owed_of_mem_queue hqueue
    cases w with
    | call id =>
        simp only [owes, Bool.and_eq_true, decide_eq_true_eq, Option.isNone_iff_eq_none] at howed
        have hended := hcalls id howed.1
        rw [howed.2] at hended
        cases hended
    | request issuer position =>
        have hmem := mem_unfinished_of_owed howed
        rw [hnone] at hmem
        cases hmem

/-- In every state that calls and tasks can lead to, in any order of steps and with any changes of the
source: the waits noted for unfinished units close no cycle; they are exactly the waits of those
parked there; an unfinished unit means that some task can take a step; and once all calls have ended
no wait is noted. -/
theorem waits_in_order [UnitSource σ] (source : σ) (options : Options) (signer : Signer)
    (events : List (Event σ)) :
    let s := (start source options signer).after events
    (∀ i, ¬TransGen (fun i q => s.waiting.Awaits i q ∧ s.outcome? q = none) i i) ∧
    (∀ i q, s.outcome? q = none →
      (s.waiting.Awaits i q ↔ ∃ w, s.issuer? w = some i ∧ s.ParkedAt w q)) ∧
    (∀ path t, s.task? path = some t → s.outcome? path = none → s.queue ≠ []) ∧
    ((∀ id < s.calls.length, (s.callOutcome? id).isSome) → s.waiting = []) := by
  intro s
  have haccount := accounted_after source options signer events
  have hnoted := noted_after source options signer events
  refine ⟨fun i hi => ?_, fun i q hq => ⟨fun hiq => ?_, ?_⟩, fun path t ht hopen => ?_, ?_⟩
  · exact hnoted.acyclic i (TransGen.mono (fun _ _ h => h.1) _ _ hi)
  · rcases hnoted.justified i q hiq with hin | ⟨w, hi, hparked | hqueue⟩
    · exact hin.elim
    · exact ⟨w, hi, hparked⟩
    · have hfinished : (s.outcome? q).isSome := haccount.fits _ hqueue
      rw [hq] at hfinished
      cases hfinished
  · rintro ⟨w, hi, hparked⟩
    exact hnoted.noted w i q hparked hi
  · have hmem : path ∈ s.unfinished := by
      rw [outcome?_eq, state?, ht] at hopen
      exact mem_unfinished.mpr ⟨t, ht, hopen⟩
    exact queue_ne_nil_of_unfinished haccount hnoted (List.ne_nil_of_mem hmem)
  · exact waiting_eq_nil haccount hnoted (attended_after source options signer events)

end PersistedOps.Session

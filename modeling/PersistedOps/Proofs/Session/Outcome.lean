import PersistedOps.Proofs.Build.Recursive
import PersistedOps.Proofs.Session.Carried

/-!
Where outcomes come from. In a session whose source stays as it is, and whose calls are builds or
resolve for nobody, every outcome is drawn by the same few rules from the outcomes of the units that a
unit requires, whatever the schedule. A property of outcomes that these rules hand on holds of all.
-/

namespace PersistedOps.Session

open Relation RecursiveBuild

variable {σ : Type} [UnitSource σ]

/-- What can come back for a reference, where `P` tells which outcomes the units have. -/
inductive Answered (source : σ) (P : String → Except Failure Processed → Prop)
    (issuer : Option String) (reference : String) : Except Failure Processed → Prop
  /-- The reference names no unit. -/
  | lost {f : Failure} (located : UnitSource.locate source reference issuer = .error f) :
      Answered source P issuer reference (.error f)
  /-- The unit of the reference requires, through others, the one that asks for it. -/
  | refused {i path : String} {walk : List String} (issued : issuer = some i)
      (located : UnitSource.locate source reference issuer = .ok path)
      (walks : Waiting.Walk (Requires source) path i walk) :
      Answered source P issuer reference (.error (.dependencyCycle (i :: walk)))
  /-- The unit has the outcome. -/
  | shared {path : String} {outcome : Except Failure Processed}
      (located : UnitSource.locate source reference issuer = .ok path) (unit : P path outcome) :
      Answered source P issuer reference outcome

/-- A property of the outcomes of units that is handed on: a unit has it that cannot be read or
extracted, and one that is assembled from answers to its references, where units that it shares
have it. -/
structure Hereditary (source : σ) (options : Options) (signer : Signer)
    (P : String → Except Failure Processed → Prop) : Prop where
  unread : ∀ {path f}, UnitSource.read source path = .error f → P path (.error f)
  unextracted : ∀ {path text f}, UnitSource.read source path = .ok text →
    Script.extract (Processed.fileName (some path)) text = .error f → P path (.error f)
  assembled : ∀ {path text unit answers}, Loads source path text unit →
    List.Forall₂ (fun reference answer => ∃ outcome,
      Answered source P (some path) reference outcome ∧ answer = outcome.map Processed.documents)
        unit.dependencies answers →
    P path (Processed.ofAnswers options signer (some path) text unit answers)

/-- A waiter is there for a reference that a call was made with, or that a unit requires. -/
inductive Asks (source : σ) (calls : List Call) : Waiter → Option String → String → Prop
  | call {id : Nat} {reference : String} (made : calls[id]? = some ⟨reference, none⟩) :
      Asks source calls (.call id) none reference
  | request {issuer text reference : String} {position : Nat} {unit : Script.Extracted}
      (loads : Loads source issuer text unit)
      (asked : unit.dependencies[position]? = some reference) :
      Asks source calls (.request issuer position) (some issuer) reference

/-- A waiter looks for the unit of a path. -/
def Bound (source : σ) (calls : List Call) (w : Waiter) (path : String) : Prop :=
  ∃ issuer reference, Asks source calls w issuer reference ∧
    UnitSource.locate source reference issuer = .ok path

/-- An outcome can come back to a waiter. -/
def Due (source : σ) (P : String → Except Failure Processed → Prop) (calls : List Call) (w : Waiter)
    (outcome : Except Failure Processed) : Prop :=
  ∃ issuer reference, Asks source calls w issuer reference ∧
    Answered source P issuer reference outcome

theorem Bound.due {source : σ} {P : String → Except Failure Processed → Prop} {calls : List Call}
    {w : Waiter} {path : String} {outcome : Except Failure Processed}
    (h : Bound source calls w path) (houtcome : P path outcome) : Due source P calls w outcome := by
  obtain ⟨issuer, reference, hasks, hlocated⟩ := h
  exact ⟨issuer, reference, hasks, .shared hlocated houtcome⟩

theorem Asks.mono {source : σ} {calls more : List Call} {w : Waiter} {issuer : Option String}
    {reference : String} (h : Asks source calls w issuer reference) :
    Asks source (calls ++ more) w issuer reference := by
  cases h with
  | call made =>
      refine .call ?_
      obtain ⟨hlt, -⟩ := List.getElem?_eq_some_iff.mp made
      rw [List.getElem?_append_left hlt]
      exact made
  | request loads asked => exact .request loads asked

theorem Bound.mono {source : σ} {calls more : List Call} {w : Waiter} {path : String}
    (h : Bound source calls w path) : Bound source (calls ++ more) w path := by
  obtain ⟨issuer, reference, hasks, hlocated⟩ := h
  exact ⟨issuer, reference, hasks.mono, hlocated⟩

theorem Due.mono {source : σ} {P : String → Except Failure Processed → Prop}
    {calls more : List Call} {w : Waiter} {outcome : Except Failure Processed}
    (h : Due source P calls w outcome) : Due source P (calls ++ more) w outcome := by
  obtain ⟨issuer, reference, hasks, hanswered⟩ := h
  exact ⟨issuer, reference, hasks.mono, hanswered⟩

/-- All that a session holds comes from where it should. -/
structure Justified (source : σ) (options : Options) (signer : Signer)
    (P : String → Except Failure Processed → Prop) (s : Session σ) : Prop where
  source_eq : s.source = source
  options_eq : s.options = options
  signer_eq : s.signer = signer
  plain : ∀ c ∈ s.calls, c.issuer = none
  resolving : ∀ path text unit resolution,
    s.state? path = some (.resolving text unit resolution) → Loads source path text unit
  finished : ∀ path outcome, s.outcome? path = some outcome → P path outcome
  awaits : ∀ i q, s.waiting.Awaits i q → Requires source i q
  carries : Carries (Bound source s.calls) (Due source P s.calls) s

section

variable {source : σ} {options : Options} {signer : Signer}
  {P : String → Except Failure Processed → Prop}

theorem justified_start : Justified source options signer P (start source options signer) where
  source_eq := rfl
  options_eq := rfl
  signer_eq := rfl
  plain := by simp [start]
  resolving := by simp [start, state?, task?]
  finished := by simp [start, outcome?, task?]
  awaits _ _ h := by cases h
  carries := carries_start source options signer

/-- The issuer of a plain session's waiter is the one it asks for. -/
theorem Justified.asks {s : Session σ} (h : Justified source options signer P s) {job : Job}
    {w : Waiter} {reference : String} (seeks : s.Seeks job w reference) :
    Asks source s.calls w (s.issuer? w) reference := by
  cases seeks with
  | @call id c made =>
      have hplain := h.plain c (List.mem_of_getElem? made)
      have hissuer : s.issuer? (.call id) = none := by rw [issuer?, made]; exact hplain
      rw [hissuer]
      refine .call ?_
      rw [made, ← hplain]
  | request task asked =>
      exact .request (h.resolving _ _ _ _ (by rw [state?, task]; rfl)) asked

/-- What waits for an issuer is required by it. -/
theorem Asks.requires {calls : List Call} {w : Waiter} {issuer : String} {reference path : String}
    (h : Asks source calls w (some issuer) reference)
    (located : UnitSource.locate source reference (some issuer) = .ok path) :
    Requires source issuer path := by
  cases h with
  | request loads asked =>
      exact ⟨_, _, loads, reference, List.mem_of_getElem? asked, located⟩

/-! What calls and steps hand on -/

theorem Justified.addCall {s : Session σ} (h : Justified source options signer P s)
    {reference : String} {issuer : Option String} (hissuer : issuer = none) :
    Justified source options signer P (s.addCall reference issuer) where
  source_eq := h.source_eq
  options_eq := h.options_eq
  signer_eq := h.signer_eq
  plain c hc := by
    rcases List.mem_append.mp hc with hc | hc
    · exact h.plain c hc
    · rw [List.mem_singleton.mp hc]
      exact hissuer
  resolving := h.resolving
  finished := h.finished
  awaits := h.awaits
  carries := (h.carries.addCall reference issuer).mono (fun _ _ => Bound.mono) fun _ _ => Due.mono

theorem Justified.pick {s rest : Session σ} (h : Justified source options signer P s) {job : Job}
    (hpick : Picked s job rest) : Justified source options signer P rest ∧
      Backed (Bound source rest.calls) (Due source P rest.calls) job := by
  obtain ⟨hcarries, hbacked⟩ := h.carries.pick hpick
  rw [hpick.rest_eq] at hcarries ⊢
  exact ⟨{ h with carries := hcarries }, hbacked⟩

/-- With all answers a unit has an outcome that is handed on. -/
theorem Justified.assembled {s : Session σ} (hP : Hereditary source options signer P)
    (h : Justified source options signer P s) {path text : String} {unit : Script.Extracted}
    {resolution : Resolution} {answers : List Answer}
    (hstate : s.state? path = some (.resolving text unit resolution))
    (hlength : resolution.answers.length = unit.dependencies.length)
    (hsettled : resolution.answers = answers.map some) :
    P path (s.assemble path text unit answers) := by
  have hload := h.resolving path text unit resolution hstate
  rw [hsettled, List.length_map] at hlength
  rw [assemble, h.options_eq, h.signer_eq]
  refine hP.assembled hload (List.forall₂_iff_get.mpr ⟨hlength.symm, fun k hk hk' => ?_⟩)
  have hanswer : resolution.answers[k]? = some (some answers[k]) := by
    rw [hsettled, List.getElem?_map, List.getElem?_eq_getElem hk']
    rfl
  obtain ⟨outcome, ⟨_, _, hasks, hanswered⟩, heq⟩ := h.carries.noted path text unit resolution k _ hstate
    hanswer
  cases hasks with
  | request loads asked =>
      obtain ⟨rfl, rfl⟩ := hload.unique loads
      cases (List.getElem?_eq_getElem hk).symm.trans asked
      exact ⟨outcome, hanswered, heq⟩

/-- How a unit ends that needs nothing. -/
theorem EndsAtOnce.handedOn {s : Session σ} (hP : Hereditary source options signer P)
    (h : Justified source options signer P s) {path : String} {outcome : Except Failure Processed}
    (hends : s.EndsAtOnce path outcome) : P path outcome := by
  cases hends with
  | unread read => exact hP.unread (h.source_eq ▸ read)
  | unextracted read extracted => exact hP.unextracted (h.source_eq ▸ read) extracted
  | alone read extracted none =>
      rw [assemble, h.options_eq, h.signer_eq]
      refine hP.assembled ⟨h.source_eq ▸ read, extracted⟩ ?_
      rw [none]
      exact .nil

/-- The rules by which outcomes are handed on are those of sessions. -/
theorem Justified.rules {s : Session σ} (h : Justified source options signer P s) (job : Job) :
    Rules (Bound source s.calls) (Due source P s.calls) s job where
  found seeks located := ⟨_, _, h.asks seeks, h.source_eq ▸ located⟩
  lost seeks located := ⟨_, _, h.asks seeks, .lost (h.source_eq ▸ located)⟩
  refused seeks located issued cycle := by
    obtain ⟨walk, rfl, hwalk⟩ := Waiting.walk_of_cycle?_eq_some cycle
    exact ⟨_, _, h.asks seeks, .refused issued (h.source_eq ▸ located) (hwalk.mono h.awaits)⟩
  shared hbound finished := hbound.due (h.finished _ _ finished)

/-- A step hands on. -/
theorem Justified.move {s s' : Session σ} {job : Job} (hP : Hereditary source options signer P)
    (h : Justified source options signer P s) (haccount : s.Accounted [job.token])
    (hbacked : Backed (Bound source s.calls) (Due source P s.calls) job) (hmove : Move s job s') :
    Justified source options signer P s' := by
  have hcarries := h.carries.move (h.rules job) hbacked hmove
  obtain ⟨hsource, hoptions, hsigner, hcalls⟩ := settings_move hmove
  refine ⟨hsource.trans h.source_eq, hoptions.trans h.options_eq, hsigner.trans h.signer_eq,
    hcalls ▸ h.plain, fun path text unit resolution hstate => ?_, fun path outcome hfinished => ?_,
    fun i q hiq => ?_, hcalls ▸ hcarries⟩
  · have hadvance := advances_move hmove path
    rw [hstate] at hadvance
    generalize hold : s.state? path = old at hadvance
    cases hadvance with
    | kept => exact h.resolving path text unit resolution hold
    | expanded read extracted => exact ⟨h.source_eq ▸ read, extracted⟩
    | noted => exact h.resolving path text unit _ hold
  · rw [outcome?_eq] at hfinished
    obtain ⟨state, hstate, houtcome⟩ := Option.bind_eq_some_iff.mp hfinished
    have hadvance := advances_move hmove path
    rw [hstate] at hadvance
    generalize hold : s.state? path = old at hadvance
    cases hadvance with
    | kept => exact h.finished path outcome (by rw [outcome?_eq, hold]; exact houtcome)
    | ended ends =>
        cases houtcome
        exact ends.handedOn hP h
    | resumed settled =>
        cases houtcome
        exact h.assembled hP hold (haccount.sized _ _ _ _ hold) settled
    | _ => cases houtcome
  · rcases awaits_move hmove hiq with hiq | ⟨w, reference, seeks, issued, located⟩
    · exact h.awaits i q hiq
    · have hasks := h.asks seeks
      rw [issued] at hasks
      exact hasks.requires (h.source_eq ▸ located)

/-- Whatever the schedule, all that a session holds comes from where it should. -/
theorem justified_after (hP : Hereditary source options signer P) {events : List (Event σ)}
    (hplain : ∀ e ∈ events, e.Plain) :
    Justified source options signer P ((start source options signer).after events) := by
  refine after_moves (P := Justified source options signer P) (A := Event.Plain)
    (fun s c hc _ h => h.addCall hc) (fun s source hc _ => hc.elim)
    (fun s job rest s' haccount hpick hmove h => ?_) justified_start
    (accounted_start source options signer) hplain
  obtain ⟨hrest, hbacked⟩ := h.pick hpick
  exact hrest.move hP (haccount.pick hpick).1 hbacked hmove

/-- A call that has ended has an outcome that its reference can have. -/
theorem answered_of_callOutcome (hP : Hereditary source options signer P)
    {events : List (Event σ)} (hplain : ∀ e ∈ events, e.Plain) {id : Nat} {c : Call}
    {outcome : Except Failure Processed}
    (hcall : ((start source options signer).after events).calls[id]? = some c)
    (hended : ((start source options signer).after events).callOutcome? id = some outcome) :
    Answered source P none c.reference outcome := by
  obtain ⟨issuer, reference, hasks, hanswered⟩ := (justified_after hP hplain).carries.ended id outcome hended
  cases hasks with
  | call made =>
      cases hcall.symm.trans made
      exact hanswered

end

end PersistedOps.Session

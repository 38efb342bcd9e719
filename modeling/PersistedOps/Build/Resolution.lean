import PersistedOps.Failure

/-!
The resolution of a unit's dependencies. All are asked for at once, in order; each is answered in its
own time, and the result is drawn from the answers when the last one is there.
-/

namespace PersistedOps

/-- A dependency's documents, its own first, or why it has none. -/
abbrev Answer := Except Failure (List Tree)

/-- What was asked for, by whom, and the answers so far by position. -/
structure Resolution where
  issuer : Option String
  references : List String
  answers : List (Option Answer)

namespace Resolution

def start (issuer : Option String) (references : List String) : Resolution :=
  ⟨issuer, references, references.map fun _ => none⟩

/-- The requests made, in order. -/
def requests (r : Resolution) : List (String × Option String) :=
  r.references.map fun reference => (reference, r.issuer)

/-- Notes the answer to the request at a position. -/
def settle (r : Resolution) (position : Nat) (answer : Answer) : Resolution :=
  { r with answers := r.answers.set position (some answer) }

/-- Notes answers in the order in which they come. -/
def settleAll (r : Resolution) (answers : List (Nat × Answer)) : Resolution :=
  answers.foldl (fun r a => r.settle a.1 a.2) r

/-- The answers, once all are there. -/
def settled? (r : Resolution) : Option (List Answer) := r.answers.mapM id

theorem mapM_id_eq_some_iff {α : Type} {l : List (Option α)} {as : List α} :
    l.mapM id = some as ↔ l = as.map some := by
  induction l generalizing as with
  | nil => cases as <;> simp
  | cons a l ih =>
      cases a with
      | none => cases as <;> simp
      | some a =>
          rw [List.mapM_cons]
          cases as with
          | nil => simp [Option.bind_eq_some_iff]
          | cons b as =>
              simp only [id, Option.bind_eq_bind, Option.bind_some, Option.bind_eq_some_iff, ih,
                Option.pure_def, Option.some.injEq, List.cons.injEq, List.map_cons]
              constructor
              · rintro ⟨_, hl, rfl, rfl⟩
                exact ⟨rfl, hl⟩
              · rintro ⟨rfl, hl⟩
                exact ⟨as, hl, rfl, rfl⟩

theorem settled?_eq_some_iff {r : Resolution} {answers : List Answer} :
    r.settled? = some answers ↔ r.answers = answers.map some :=
  mapM_id_eq_some_iff

theorem mapM_id_eq_none_iff {α : Type} {l : List (Option α)} : l.mapM id = none ↔ none ∈ l := by
  induction l with
  | nil => simp
  | cons a l ih =>
      cases a with
      | none => simp
      | some a =>
          rw [List.mapM_cons]
          cases hl : l.mapM id <;> simp [hl, ← ih]

theorem settled?_eq_none_iff {r : Resolution} : r.settled? = none ↔ none ∈ r.answers :=
  mapM_id_eq_none_iff

/-- The references that failed, with their failures. -/
def failures : List String → List Answer → List (String × Failure)
  | reference :: references, .error f :: answers => (reference, f) :: failures references answers
  | _ :: references, .ok _ :: answers => failures references answers
  | _, _ => []

/-- The documents of those that did not. -/
def documents (answers : List Answer) : List (List Tree) :=
  answers.filterMap fun a => match a with
    | .ok ds => some ds
    | .error _ => none

/-- The documents of all references in their order, or all failures. -/
def conclude (references : List String) (answers : List Answer) :
    Except Failure (List (List Tree)) :=
  match failures references answers with
  | [] => .ok (documents answers)
  | failed => .error (.dependencyResolution failed references.length)

@[simp] theorem documents_map_ok (lists : List (List Tree)) :
    documents (lists.map .ok) = lists := by
  rw [documents, List.filterMap_map]
  exact List.filterMap_some

theorem failures_eq_nil_iff {references : List String} {answers : List Answer}
    (h : answers.length = references.length) :
    failures references answers = [] ↔ ∃ lists : List (List Tree), answers = lists.map .ok := by
  induction references generalizing answers with
  | nil =>
      cases List.eq_nil_of_length_eq_zero h
      exact ⟨fun _ => ⟨[], rfl⟩, fun _ => rfl⟩
  | cons reference references ih =>
      cases answers with
      | nil => cases h
      | cons answer answers =>
          cases answer with
          | error f =>
              simp only [failures, reduceCtorEq, false_iff]
              rintro ⟨_ | ⟨_, lists⟩, heq⟩
              · cases heq
              · cases (List.cons.inj heq).1
          | ok ds =>
              rw [failures, ih (Nat.succ.inj h)]
              constructor
              · rintro ⟨lists, rfl⟩
                exact ⟨ds :: lists, rfl⟩
              · rintro ⟨_ | ⟨_, lists⟩, heq⟩
                · cases heq
                · exact ⟨lists, (List.cons.inj heq).2⟩

/-- A resolution succeeds exactly when no answer is a failure. -/
theorem conclude_eq_ok_iff {references : List String} {answers : List Answer}
    {lists : List (List Tree)} (h : answers.length = references.length) :
    conclude references answers = .ok lists ↔ answers = lists.map .ok := by
  unfold conclude
  split
  · rename_i hnil
    obtain ⟨all, rfl⟩ := (failures_eq_nil_iff h).mp hnil
    rw [documents_map_ok, Except.ok.injEq, List.map_inj_right fun _ _ => Except.ok.inj]
  · rename_i hne
    simp only [reduceCtorEq, false_iff]
    intro hall
    exact hne ((failures_eq_nil_iff h).mpr ⟨lists, hall⟩)

end Resolution

end PersistedOps

import PersistedOps.Script.Peg

/-!
Readings with fuel enough. A run that is settled, because it has a result or has none, is the same run
with any more fuel, so what a parsing expression reads and where it fails can be said without fuel.
-/

namespace PersistedOps.Script

variable {Rule : Type → Type} {α β γ : Type}

/-! ### Settled outcomes -/

namespace Outcome

/-- An outcome that more fuel does not change. -/
def isSettled : Outcome α → Bool
  | mistake _ => false
  | _ => true

variable {o : Outcome α} {next : α → Place → Outcome β}

theorem isSettled_of_andThen (h : (o.andThen next).isSettled) : o.isSettled := by
  cases o with
  | mistake l => cases h
  | _ => rfl

theorem isSettled_next {a : α} {place : Place} {reach : Nat}
    (h : ((done a place reach).andThen next).isSettled) : (next a place).isSettled := by
  rw [andThen] at h
  cases hnext : next a place with
  | mistake l =>
      rw [hnext] at h
      cases h
  | _ => rfl

theorem andThen_congr {next' : α → Place → Outcome β}
    (h : ∀ a place reach, o = done a place reach → next a place = next' a place) :
    o.andThen next = o.andThen next' := by
  cases o with
  | done a place reach => rw [andThen, andThen, h a place reach rfl]
  | _ => rfl

theorem andThen_eq_done {b : β} {place : Place} {reach : Nat}
    (h : o.andThen next = done b place reach) :
    ∃ a mid r r', o = done a mid r ∧ next a mid = done b place r' := by
  cases o with
  | done a mid r =>
      rw [andThen] at h
      cases hnext : next a mid with
      | done b' place' r' =>
          rw [hnext] at h
          cases h
          exact ⟨a, mid, r, r', rfl, hnext⟩
      | _ =>
          rw [hnext] at h
          cases h
  | _ => cases h

end Outcome

namespace Peg

open Outcome

variable {g : Reading Rule} {p : Peg Rule α} {q : Peg Rule β} {place next : Place}

/-! ### One step of a run -/

section

variable {fuel : Nat}

theorem run_map {f : α → β} : run g (fuel + 1) (.map f p) place
    = (run g fuel p place).andThen fun a place => .done (f a) place place.position := rfl

theorem run_seq {p : Peg Rule (α → β)} {q : Peg Rule α} : run g (fuel + 1) (.seq p q) place
    = (run g fuel p place).andThen fun f place =>
      (run g fuel q place).andThen fun a place => .done (f a) place place.position := rfl

theorem run_orElse {q : Peg Rule α} : run g (fuel + 1) (.orElse p q) place
    = match run g fuel p place with
      | .failed reach => (Outcome.failed reach).orTry (run g fuel q place)
      | o => o := rfl

theorem run_many : run g (fuel + 1) (.many p) place
    = match run g fuel p place with
      | .done a next reach =>
        if place.position < next.position then
          (Outcome.done a next reach).andThen fun a next =>
            (run g fuel (.many p) next).andThen fun as next => .done (a :: as) next next.position
        else .done [] place reach
      | .failed reach => .done [] place reach
      | .mistake l => .mistake l := rfl

theorem run_ahead : run g (fuel + 1) (.ahead p) place
    = (run g fuel p place).andThen fun _ _ => .done () place place.position := rfl

theorem run_notAhead : run g (fuel + 1) (.notAhead p) place
    = match run g fuel p place with
      | .done _ _ reach => .failed reach
      | .failed reach => .done () place reach
      | .mistake l => .mistake l := rfl

theorem run_judge {f : α → Option Nat → Except Nat β} : run g (fuel + 1) (.judge f p) place
    = (run g fuel p place).andThen fun a next => match f a (lineAt next) with
      | .ok b => .done b next next.position
      | .error l => .mistake l := rfl

theorem run_nested {parts : α → List (List Token)} {inner : Peg Rule β} :
    run g (fuel + 1) (.nested parts inner p) place
      = (run g fuel p place).andThen fun a next =>
        match run.runParts (fun part => run g fuel inner ⟨0, 0, part⟩) (parts a) with
        | none => .done a next next.position
        | some l => .mistake (l.getD ((lineAt place).getD 0)) := rfl

theorem run_diagnosing (plain : g.diagnosing = false) :
    run g (fuel + 1) (.diagnosing p) place = .failed place.position := by
  have hrun : run g (fuel + 1) (.diagnosing p) place
      = if g.diagnosing then run g fuel p place else .failed place.position := rfl
  rw [hrun, if_neg (by simp [plain])]

theorem run_suspect (plain : g.diagnosing = false) {exempt : Peg Rule β} {behind : Peg Rule γ} :
    run g (fuel + 1) (.suspect exempt p behind) place
      = (run g fuel p place).andThen fun a after => .done a after after.position := by
  refine andThen_congr fun _ _ _ _ => ?_
  rw [plain, Bool.false_and, if_neg Bool.false_ne_true]

end

/-! ### Fuel enough -/

/-- A settled run is the same with more fuel. -/
theorem run_succ (plain : g.diagnosing = false) {fuel : Nat} (p : Peg Rule α) (place : Place)
    (h : (run g fuel p place).isSettled) : run g (fuel + 1) p place = run g fuel p place := by
  -- The fuel of every part is less by one, so the induction is on it for all expressions at once.
  induction fuel generalizing α place with
  | zero => cases h
  | succ fuel ih =>
      cases p with
      | pure a => rfl
      | token accept => rfl
      | line => rfl
      | rule r => exact ih _ _ h
      | map f p =>
          rw [run_map] at h
          rw [run_map, run_map, ih p place (isSettled_of_andThen h)]
      | seq p q =>
          rw [run_seq] at h
          rw [run_seq, run_seq, ih p place (isSettled_of_andThen h)]
          refine andThen_congr fun f mid reach hp => ?_
          rw [hp] at h
          rw [ih q mid (isSettled_of_andThen (isSettled_next h))]
      | orElse p q =>
          rw [run_orElse] at h
          rw [run_orElse, run_orElse]
          cases hp : run g fuel p place with
          | done a next reach => rw [ih p place (by rw [hp]; rfl), hp]
          | mistake l =>
              rw [hp] at h
              cases h
          | failed reach =>
              rw [hp] at h
              have hq : (run g fuel q place).isSettled := by
                cases hq : run g fuel q place with
                | mistake l =>
                    rw [hq] at h
                    cases h
                | _ => rfl
              rw [ih p place (by rw [hp]; rfl), hp, ih q place hq]
      | many p =>
          rw [run_many] at h
          rw [run_many, run_many]
          cases hp : run g fuel p place with
          | mistake l =>
              rw [hp] at h
              cases h
          | failed reach => rw [ih p place (by rw [hp]; rfl), hp]
          | done a next reach =>
              rw [hp] at h
              rw [ih p place (by rw [hp]; rfl), hp]
              simp only at h ⊢
              split
              · rename_i hless
                rw [if_pos hless] at h
                refine andThen_congr fun a' mid reach' heq => ?_
                cases heq
                rw [ih (.many p) next (isSettled_of_andThen (isSettled_next h))]
              · rfl
      | ahead p =>
          rw [run_ahead] at h
          rw [run_ahead, run_ahead, ih p place (isSettled_of_andThen h)]
      | notAhead p =>
          rw [run_notAhead] at h
          rw [run_notAhead, run_notAhead]
          cases hp : run g fuel p place with
          | mistake l =>
              rw [hp] at h
              cases h
          | _ => rw [ih p place (by rw [hp]; rfl), hp]
      | judge f p =>
          rw [run_judge] at h
          rw [run_judge, run_judge, ih p place (isSettled_of_andThen h)]
      | diagnosing p => rw [run_diagnosing plain, run_diagnosing plain]
      | nested parts inner p =>
          rw [run_nested] at h
          rw [run_nested, run_nested, ih p place (isSettled_of_andThen h)]
          refine andThen_congr fun a mid reach hp => ?_
          rw [hp] at h
          have hsettled := isSettled_next h
          suffices hparts : ∀ lists, run.runParts (fun part => run g fuel inner ⟨0, 0, part⟩) lists = none →
              run.runParts (fun part => run g (fuel + 1) inner ⟨0, 0, part⟩) lists = none by
            cases hread : run.runParts (fun part => run g fuel inner ⟨0, 0, part⟩) (parts a) with
            | none => rw [hparts _ hread]
            | some l =>
                rw [hread] at hsettled
                cases hsettled
          intro lists hlists
          induction lists with
          | nil => rfl
          | cons part lists ihlists =>
              rw [run.runParts] at hlists
              rw [run.runParts]
              cases hpart : run g fuel inner ⟨0, 0, part⟩ with
              | done b end' reach' =>
                  rw [hpart] at hlists
                  rw [ih inner ⟨0, 0, part⟩ (by rw [hpart]; rfl), hpart]
                  exact ihlists hlists
              | _ =>
                  rw [hpart] at hlists
                  cases hlists
      | suspect exempt p behind =>
          rw [run_suspect plain] at h
          rw [run_suspect plain, run_suspect plain, ih p place (isSettled_of_andThen h)]

theorem run_mono (plain : g.diagnosing = false) {fuel fuel' : Nat} (hle : fuel ≤ fuel')
    (h : (run g fuel p place).isSettled) : run g fuel' p place = run g fuel p place := by
  induction hle with
  | refl => rfl
  | @step fuel' _ ih =>
      rw [run_succ plain p place (by rw [ih]; exact h), ih]

/-- With this fuel, `p` reads a result here and goes on there. -/
def Reads (g : Reading Rule) (fuel : Nat) (p : Peg Rule α) (place : Place) (a : α) (next : Place) : Prop :=
  ∃ reach, run g fuel p place = .done a next reach

/-- With this fuel, `p` has no result here. -/
def Fails (g : Reading Rule) (fuel : Nat) (p : Peg Rule α) (place : Place) : Prop :=
  ∃ reach, run g fuel p place = .failed reach

/-- With this fuel, a run of `p` comes to something that is no mistake. -/
def Settles (g : Reading Rule) (fuel : Nat) (p : Peg Rule α) (place : Place) : Prop :=
  Fails g fuel p place ∨ ∃ a next, Reads g fuel p place a next

variable {m n : Nat}

theorem Reads.mono (plain : g.diagnosing = false) {a : α} (h : Reads g m p place a next) (hle : m ≤ n) :
    Reads g n p place a next := by
  obtain ⟨reach, h⟩ := h
  exact ⟨reach, by rw [run_mono plain hle (by rw [h]; rfl), h]⟩

theorem Fails.mono (plain : g.diagnosing = false) (h : Fails g m p place) (hle : m ≤ n) :
    Fails g n p place := by
  obtain ⟨reach, h⟩ := h
  exact ⟨reach, by rw [run_mono plain hle (by rw [h]; rfl), h]⟩

theorem Fails.not_reads {a : α} (plain : g.diagnosing = false) (h : Fails g m p place) :
    ¬ Reads g n p place a next := by
  intro h'
  obtain ⟨reach, h⟩ := h.mono plain (Nat.le_max_left m n)
  obtain ⟨reach', h'⟩ := h'.mono plain (Nat.le_max_right m n)
  cases h.symm.trans h'

/-! ### What is read -/

theorem reads_pure (a : α) : Reads g (n + 1) (.pure a) place a place := ⟨_, rfl⟩

theorem reads_token {accept : TokenKind → Option α} {a : α} {t : Token} {rest : List Token}
    (hrest : place.rest = t :: rest) (ha : accept t.kind = some a) :
    Reads g (n + 1) (.token accept) place a ⟨place.position + 1, t.depth, rest⟩ :=
  ⟨place.position + 1, by simp only [run, hrest, ha]⟩

theorem reads_line {t : Token} {rest : List Token} (hrest : place.rest = t :: rest) :
    Reads g (n + 1) .line place t.line place :=
  ⟨place.position + 1, by rw [run, hrest]⟩

theorem reads_rule {r : Rule α} {a : α} (h : Reads g n (g.grammar r) place a next) :
    Reads g (n + 1) (.rule r) place a next := h

theorem reads_map {f : α → β} {a : α} (h : Reads g n p place a next) :
    Reads g (n + 1) (.map f p) place (f a) next := by
  obtain ⟨reach, h⟩ := h
  refine ⟨max reach next.position, ?_⟩
  rw [run_map, h]
  rfl

theorem reads_seq {p : Peg Rule (α → β)} {q : Peg Rule α} {f : α → β} {a : α} {mid : Place}
    (hp : Reads g n p place f mid) (hq : Reads g n q mid a next) :
    Reads g (n + 1) (.seq p q) place (f a) next := by
  obtain ⟨reach, hp⟩ := hp
  obtain ⟨reach', hq⟩ := hq
  refine ⟨max reach (max reach' next.position), ?_⟩
  rw [run_seq, hp, andThen, hq]
  rfl

theorem reads_orElse_left {q : Peg Rule α} {a : α} (h : Reads g n p place a next) :
    Reads g (n + 1) (.orElse p q) place a next := by
  obtain ⟨reach, h⟩ := h
  exact ⟨reach, by rw [run_orElse, h]⟩

theorem reads_orElse_right {q : Peg Rule α} {a : α} (hp : Fails g n p place)
    (hq : Reads g n q place a next) : Reads g (n + 1) (.orElse p q) place a next := by
  obtain ⟨reach, hp⟩ := hp
  obtain ⟨reach', hq⟩ := hq
  refine ⟨max reach reach', ?_⟩
  rw [run_orElse, hp, hq]
  rfl

theorem reads_many_nil (h : Fails g n p place) : Reads g (n + 1) (.many p) place [] place := by
  obtain ⟨reach, h⟩ := h
  exact ⟨reach, by rw [run_many, h]⟩

theorem reads_many_idle {a : α} (h : Reads g n p place a place) :
    Reads g (n + 1) (.many p) place [] place := by
  obtain ⟨reach, h⟩ := h
  refine ⟨reach, ?_⟩
  rw [run_many, h]
  exact if_neg (Nat.lt_irrefl _)

theorem reads_many_cons {a : α} {as : List α} {mid : Place} (hp : Reads g n p place a mid)
    (hless : place.position < mid.position) (hmore : Reads g n (.many p) mid as next) :
    Reads g (n + 1) (.many p) place (a :: as) next := by
  obtain ⟨reach, hp⟩ := hp
  obtain ⟨reach', hmore⟩ := hmore
  refine ⟨max reach (max reach' next.position), ?_⟩
  rw [run_many, hp]
  simp only [if_pos hless, andThen, hmore]

theorem reads_ahead {a : α} (h : Reads g n p place a next) :
    Reads g (n + 1) (.ahead p) place () place := by
  obtain ⟨reach, h⟩ := h
  refine ⟨max reach place.position, ?_⟩
  rw [run_ahead, h]
  rfl

theorem reads_notAhead (h : Fails g n p place) : Reads g (n + 1) (.notAhead p) place () place := by
  obtain ⟨reach, h⟩ := h
  exact ⟨reach, by rw [run_notAhead, h]⟩

theorem reads_judge {f : α → Option Nat → Except Nat β} {a : α} {b : β}
    (h : Reads g n p place a next) (hf : f a (lineAt next) = .ok b) :
    Reads g (n + 1) (.judge f p) place b next := by
  obtain ⟨reach, h⟩ := h
  refine ⟨max reach next.position, ?_⟩
  rw [run_judge, h, andThen, hf]

/-- A result without parts of its own is read as it is. -/
theorem reads_nested {parts : α → List (List Token)} {inner : Peg Rule β} {a : α}
    (h : Reads g n p place a next) (hparts : parts a = []) :
    Reads g (n + 1) (.nested parts inner p) place a next := by
  obtain ⟨reach, h⟩ := h
  refine ⟨max reach next.position, ?_⟩
  rw [run_nested, h, andThen, hparts]
  rfl

theorem reads_suspect (plain : g.diagnosing = false) {exempt : Peg Rule β} {behind : Peg Rule γ} {a : α}
    (h : Reads g n p place a next) : Reads g (n + 1) (.suspect exempt p behind) place a next := by
  obtain ⟨reach, h⟩ := h
  refine ⟨max reach next.position, ?_⟩
  rw [run_suspect plain, h]
  rfl

/-! ### Where nothing is read -/

theorem fails_token {accept : TokenKind → Option α} {t : Token} {rest : List Token}
    (hrest : place.rest = t :: rest) (ha : accept t.kind = none) :
    Fails g (n + 1) (.token accept) place :=
  ⟨place.position + 1, by simp only [run, hrest, ha]⟩

theorem fails_rule {r : Rule α} (h : Fails g n (g.grammar r) place) : Fails g (n + 1) (.rule r) place := h

theorem fails_map {f : α → β} (h : Fails g n p place) : Fails g (n + 1) (.map f p) place := by
  obtain ⟨reach, h⟩ := h
  refine ⟨reach, ?_⟩
  rw [run_map, h]
  rfl

theorem fails_seq_left {p : Peg Rule (α → β)} {q : Peg Rule α} (h : Fails g n p place) :
    Fails g (n + 1) (.seq p q) place := by
  obtain ⟨reach, h⟩ := h
  refine ⟨reach, ?_⟩
  rw [run_seq, h]
  rfl

theorem fails_seq_right {p : Peg Rule (α → β)} {q : Peg Rule α} {f : α → β} {mid : Place}
    (hp : Reads g n p place f mid) (hq : Fails g n q mid) : Fails g (n + 1) (.seq p q) place := by
  obtain ⟨reach, hp⟩ := hp
  obtain ⟨reach', hq⟩ := hq
  refine ⟨max reach reach', ?_⟩
  rw [run_seq, hp, andThen, hq]
  rfl

theorem fails_orElse {q : Peg Rule α} (hp : Fails g n p place) (hq : Fails g n q place) :
    Fails g (n + 1) (.orElse p q) place := by
  obtain ⟨reach, hp⟩ := hp
  obtain ⟨reach', hq⟩ := hq
  refine ⟨max reach reach', ?_⟩
  rw [run_orElse, hp, hq]
  rfl

theorem fails_ahead (h : Fails g n p place) : Fails g (n + 1) (.ahead p) place := by
  obtain ⟨reach, h⟩ := h
  refine ⟨reach, ?_⟩
  rw [run_ahead, h]
  rfl

theorem fails_notAhead {a : α} (h : Reads g n p place a next) : Fails g (n + 1) (.notAhead p) place := by
  obtain ⟨reach, h⟩ := h
  exact ⟨reach, by rw [run_notAhead, h]⟩

theorem fails_judge {f : α → Option Nat → Except Nat β} (h : Fails g n p place) :
    Fails g (n + 1) (.judge f p) place := by
  obtain ⟨reach, h⟩ := h
  refine ⟨reach, ?_⟩
  rw [run_judge, h]
  rfl

theorem fails_diagnosing (plain : g.diagnosing = false) : Fails g (n + 1) (.diagnosing p) place :=
  ⟨place.position, run_diagnosing plain⟩

theorem fails_nested {parts : α → List (List Token)} {inner : Peg Rule β} (h : Fails g n p place) :
    Fails g (n + 1) (.nested parts inner p) place := by
  obtain ⟨reach, h⟩ := h
  refine ⟨reach, ?_⟩
  rw [run_nested, h]
  rfl

theorem fails_suspect (plain : g.diagnosing = false) {exempt : Peg Rule β} {behind : Peg Rule γ}
    (h : Fails g n p place) : Fails g (n + 1) (.suspect exempt p behind) place := by
  obtain ⟨reach, h⟩ := h
  refine ⟨reach, ?_⟩
  rw [run_suspect plain, h]
  rfl

/-! ### What was read -/

theorem not_reads_zero {a : α} : ¬ Reads g 0 p place a next := nofun

theorem Reads.of_token {accept : TokenKind → Option α} {a : α}
    (h : Reads g (n + 1) (.token accept) place a next) :
    ∃ t rest, place.rest = t :: rest ∧ accept t.kind = some a ∧
      next = ⟨place.position + 1, t.depth, rest⟩ := by
  obtain ⟨reach, h⟩ := h
  rw [run] at h
  cases hrest : place.rest with
  | nil =>
      rw [hrest] at h
      cases h
  | cons t rest =>
      rw [hrest] at h
      simp only at h
      cases ha : accept t.kind with
      | none =>
          rw [ha] at h
          cases h
      | some b =>
          rw [ha] at h
          cases h
          exact ⟨t, rest, rfl, ha, rfl⟩

theorem Reads.of_map {f : α → β} {b : β} (h : Reads g (n + 1) (.map f p) place b next) :
    ∃ a, Reads g n p place a next ∧ b = f a := by
  obtain ⟨reach, h⟩ := h
  rw [run_map] at h
  obtain ⟨a, mid, r, r', hp, heq⟩ := andThen_eq_done h
  cases heq
  exact ⟨a, ⟨r, hp⟩, rfl⟩

theorem Reads.of_seq {p : Peg Rule (α → β)} {q : Peg Rule α} {b : β}
    (h : Reads g (n + 1) (.seq p q) place b next) :
    ∃ f mid a, Reads g n p place f mid ∧ Reads g n q mid a next ∧ b = f a := by
  obtain ⟨reach, h⟩ := h
  rw [run_seq] at h
  obtain ⟨f, mid, r, r', hp, hmore⟩ := andThen_eq_done h
  obtain ⟨a, next', s, s', hq, heq⟩ := andThen_eq_done hmore
  cases heq
  exact ⟨f, mid, a, ⟨r, hp⟩, ⟨s, hq⟩, rfl⟩

theorem Reads.of_orElse {q : Peg Rule α} {a : α} (h : Reads g (n + 1) (.orElse p q) place a next) :
    Reads g n p place a next ∨ (Fails g n p place ∧ Reads g n q place a next) := by
  obtain ⟨reach, h⟩ := h
  rw [run_orElse] at h
  cases hp : run g n p place with
  | done b next' r =>
      rw [hp] at h
      cases h
      exact .inl ⟨reach, hp⟩
  | mistake l =>
      rw [hp] at h
      cases h
  | failed r =>
      rw [hp] at h
      refine .inr ⟨⟨r, hp⟩, ?_⟩
      cases hq : run g n q place with
      | done b next' r' =>
          rw [hq] at h
          cases h
          exact ⟨r', hq⟩
      | _ =>
          rw [hq] at h
          cases h

/-- Several results are none, because the next has no result or goes nowhere, or one and more. -/
theorem Reads.of_many {as : List α} (h : Reads g (n + 1) (.many p) place as next) :
    (as = [] ∧ next = place) ∨ ∃ a mid as', Reads g n p place a mid ∧ place.position < mid.position ∧
      Reads g n (.many p) mid as' next ∧ as = a :: as' := by
  obtain ⟨reach, h⟩ := h
  rw [run_many] at h
  cases hp : run g n p place with
  | mistake l =>
      rw [hp] at h
      cases h
  | failed r =>
      rw [hp] at h
      cases h
      exact .inl ⟨rfl, rfl⟩
  | done a mid r =>
      rw [hp] at h
      simp only at h
      split at h
      · rename_i hless
        obtain ⟨a', mid', r', r'', heq, hmore⟩ := andThen_eq_done h
        cases heq
        obtain ⟨as', next', s, s', hmany, heq⟩ := andThen_eq_done hmore
        cases heq
        exact .inr ⟨a, mid, as', ⟨r, hp⟩, hless, ⟨s, hmany⟩, rfl⟩
      · cases h
        exact .inl ⟨rfl, rfl⟩

theorem Fails.of_map {f : α → β} (h : Fails g (n + 1) (.map f p) place) : Fails g n p place := by
  obtain ⟨reach, h⟩ := h
  rw [run_map] at h
  cases hp : run g n p place with
  | failed r => exact ⟨r, hp⟩
  | _ =>
      rw [hp] at h
      cases h

theorem Fails.of_orElse {q : Peg Rule α} (h : Fails g (n + 1) (.orElse p q) place) :
    Fails g n p place ∧ Fails g n q place := by
  obtain ⟨reach, h⟩ := h
  rw [run_orElse] at h
  cases hp : run g n p place with
  | failed r =>
      rw [hp] at h
      refine ⟨⟨r, hp⟩, ?_⟩
      cases hq : run g n q place with
      | failed r' => exact ⟨r', hq⟩
      | _ =>
          rw [hq] at h
          cases h
  | _ =>
      rw [hp] at h
      cases h

theorem Settles.of_map {f : α → β} (h : Settles g (n + 1) (.map f p) place) : Settles g n p place := by
  obtain h | ⟨b, next, h⟩ := h
  · exact .inl h.of_map
  · obtain ⟨a, hp, -⟩ := h.of_map
    exact .inr ⟨a, next, hp⟩

theorem Settles.left {p : Peg Rule (α → β)} {q : Peg Rule α} (h : Settles g (n + 1) (.seq p q) place) :
    Settles g n p place := by
  obtain ⟨reach, h⟩ | ⟨b, next, h⟩ := h
  · rw [run_seq] at h
    cases hp : run g n p place with
    | failed r => exact .inl ⟨r, hp⟩
    | done f mid r => exact .inr ⟨f, mid, r, hp⟩
    | mistake l =>
        rw [hp] at h
        cases h
  · obtain ⟨f, mid, a, hp, -, -⟩ := h.of_seq
    exact .inr ⟨f, mid, hp⟩

/-- What follows a reading settles where the two of them do. -/
theorem Settles.right {p : Peg Rule (α → β)} {q : Peg Rule α} {f : α → β} {mid : Place}
    (h : Settles g (n + 1) (.seq p q) place) (hp : Reads g n p place f mid) : Settles g n q mid := by
  obtain ⟨reach', hp⟩ := hp
  obtain ⟨reach, h⟩ | ⟨b, next, reach, h⟩ := h
  all_goals
    rw [run_seq, hp, andThen] at h
    cases hq : run g n q mid with
    | failed r => exact .inl ⟨r, hq⟩
    | done a next r => exact .inr ⟨a, next, r, hq⟩
    | mistake l =>
        rw [hq] at h
        cases h

/-! ### Parts in a row -/

section

variable {mid : Place} {a : α} {b : β}

theorem reads_right (hp : Reads g n p place a mid) (hq : Reads g (n + 1) q mid b next) :
    Reads g (n + 2) (p *> q) place b next :=
  reads_seq (reads_map hp) hq

theorem reads_left (hp : Reads g n p place a mid) (hq : Reads g (n + 1) q mid b next) :
    Reads g (n + 2) (p <* q) place a next :=
  reads_seq (reads_map hp) hq

theorem fails_right (h : Fails g n p place) : Fails g (n + 2) (p *> q) place :=
  fails_seq_left (fails_map h)

theorem fails_right_of_reads (hp : Reads g n p place a mid) (hq : Fails g (n + 1) q mid) :
    Fails g (n + 2) (p *> q) place :=
  fails_seq_right (reads_map hp) hq

theorem fails_left (h : Fails g n p place) : Fails g (n + 2) (p <* q) place :=
  fails_seq_left (fails_map h)

theorem fails_left_of_reads (hp : Reads g n p place a mid) (hq : Fails g (n + 1) q mid) :
    Fails g (n + 2) (p <* q) place :=
  fails_seq_right (reads_map hp) hq

theorem Reads.of_right (h : Reads g (n + 2) (p *> q) place b next) :
    ∃ a mid, Reads g n p place a mid ∧ Reads g (n + 1) q mid b next := by
  obtain ⟨f, mid, b', hf, hq, rfl⟩ := h.of_seq
  obtain ⟨a, hp, rfl⟩ := hf.of_map
  exact ⟨a, mid, hp, hq⟩

theorem Reads.of_left (h : Reads g (n + 2) (p <* q) place a next) :
    ∃ b mid, Reads g n p place a mid ∧ Reads g (n + 1) q mid b next := by
  obtain ⟨f, mid, b, hf, hq, rfl⟩ := h.of_seq
  obtain ⟨a, hp, rfl⟩ := hf.of_map
  exact ⟨b, mid, hp, hq⟩

theorem Settles.of_right (h : Settles g (n + 2) (p *> q) place) : Settles g n p place :=
  h.left.of_map

end

/-! ### Single tokens -/

section

variable {t : Token} {rest : List Token} {s : String}

theorem reads_sign (hrest : place.rest = t :: rest) (ht : t.kind = .sign s) :
    Reads g (n + 1) (sign s) place () ⟨place.position + 1, t.depth, rest⟩ :=
  reads_token hrest (if_pos ht)

theorem fails_sign (hrest : place.rest = t :: rest) (ht : t.kind ≠ .sign s) :
    Fails g (n + 1) (sign s) place :=
  fails_token hrest (if_neg ht)

theorem fails_keyword (hrest : place.rest = t :: rest) (ht : t.kind ≠ .keyword s) :
    Fails g (n + 1) (keyword s) place :=
  fails_token hrest (if_neg ht)

variable {k : TokenKind}

theorem reads_kind (hrest : place.rest = t :: rest) (ht : t.kind = k) :
    Reads g (n + 1) (kind k) place () ⟨place.position + 1, t.depth, rest⟩ :=
  reads_token hrest (if_pos ht)

theorem fails_kind (hrest : place.rest = t :: rest) (ht : t.kind ≠ k) :
    Fails g (n + 1) (kind k) place :=
  fails_token hrest (if_neg ht)

theorem Reads.of_kind (h : Reads g (n + 1) (kind k) place () next) :
    ∃ t rest, place.rest = t :: rest ∧ t.kind = k ∧ next = ⟨place.position + 1, t.depth, rest⟩ := by
  obtain ⟨t, rest, hrest, ha, hnext⟩ := h.of_token
  by_cases ht : t.kind = k
  · exact ⟨t, rest, hrest, ht, hnext⟩
  · rw [if_neg ht] at ha
    cases ha

end

end Peg

end PersistedOps.Script

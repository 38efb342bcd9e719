import PersistedOps.Proofs.Script.Independent
import PersistedOps.Proofs.Script.Order

/-!
Units that differ in the references they spell out. Each requires the references that stand at its own
calls. A reference that a call does not spell out is computed, and both units compute it alike.
-/

namespace PersistedOps.Script

/-! ### The calls that stand in a unit -/

namespace Expr

mutual

/-- The calls in an expression, in the order in which the sandbox makes them: of each the reference that
it spells out. -/
def sites : Expr → List (Option Scalar)
  | literal _ _ | name _ _ | starred _ _ | other _ _ => []
  | list _ items | tuple _ items => sitesIn items
  | dict _ parts => sitesInParts parts
  | subscript _ left right | add _ left right => left.sites ++ right.sites
  | call _ _ arguments _ => match arguments with
    | [argument] => argument.sites ++ [argument.spelled?]
    | _ => []
  | negate _ operand => operand.sites

def sitesIn : List Expr → List (Option Scalar)
  | [] => []
  | e :: rest => e.sites ++ sitesIn rest

def sitesInParts : List (Option Expr × Expr) → List (Option Scalar)
  | [] => []
  | (none, unpacked) :: rest => unpacked.sites ++ sitesInParts rest
  | (some key, value) :: rest => value.sites ++ key.sites ++ sitesInParts rest

end

end Expr

/-- The calls in a statement. The target of an augmented assignment is come to twice. -/
def Statement.sites : Statement → List (Option Scalar)
  | .assign _ targets value => value.sites ++ targets.flatMap Expr.sites
  | .augmented _ target _ value => target.sites ++ (value.sites ++ target.sites)
  | .expression _ value => value.sites
  | .pass _ | .other _ _ => []

/-- The references of calls, given those that are computed. -/
def fill : List (Option Scalar) → List Scalar → List Scalar
  | [], _ => []
  | some r :: sites, computed => r :: fill sites computed
  | none :: sites, r :: computed => r :: fill sites computed
  | none :: _, [] => []

/-- The references of calls are those that are spelled out, and the computed ones in their order. -/
structure Fills (sites : List (Option Scalar)) (computed references : List Scalar) : Prop where
  count : computed.length = sites.count none
  eq : references = fill sites computed

namespace Fills

variable {sites sites' : List (Option Scalar)} {computed computed' references references' : List Scalar}

theorem nil : Fills [] [] [] := ⟨rfl, rfl⟩

theorem fill_append (h : computed.length = sites.count none) :
    fill (sites ++ sites') (computed ++ computed') = fill sites computed ++ fill sites' computed' := by
  induction sites generalizing computed with
  | nil =>
      obtain rfl := List.eq_nil_of_length_eq_zero h
      rfl
  | cons site sites ih =>
      cases site with
      | some r =>
          rw [List.cons_append, fill, fill, ih (by simpa using h), List.cons_append]
      | none =>
          cases computed with
          | nil => simp at h
          | cons r computed =>
              rw [List.cons_append, List.cons_append, fill, fill, ih (by simpa using h), List.cons_append]

theorem append (h : Fills sites computed references) (h' : Fills sites' computed' references') :
    Fills (sites ++ sites') (computed ++ computed') (references ++ references') where
  count := by rw [List.length_append, List.count_append, h.count, h'.count]
  eq := by rw [fill_append h.count, h.eq, h'.eq]

theorem unique (h : Fills sites computed references) (h' : Fills sites computed' references) :
    computed = computed' := by
  obtain ⟨hcount, rfl⟩ := h
  obtain ⟨hcount', heq⟩ := h'
  induction sites generalizing computed computed' with
  | nil =>
      obtain rfl := List.eq_nil_of_length_eq_zero hcount
      exact (List.eq_nil_of_length_eq_zero hcount').symm
  | cons site sites ih =>
      cases site with
      | some r => exact ih (by simpa using hcount) (by simpa using hcount') (List.cons.inj heq).2
      | none =>
          cases computed with
          | nil => simp at hcount
          | cons x computed =>
              cases computed' with
              | nil => simp at hcount'
              | cons y computed' =>
                  obtain ⟨rfl, hrest⟩ := List.cons.inj heq
                  rw [ih (by simpa using hcount) (by simpa using hcount') hrest]

end Fills

namespace Evaluation

variable {s t s' : Sandbox} {v : Value} {l : Nat}

theorem SameOutcome.exists_run {α : Type} {m n : Evaluation α} {a : α} (h : SameOutcome m n)
    (hstore : s.store = t.store) (hrun : StateT.run m s = .ok (a, s')) :
    ∃ t', StateT.run n t = .ok (a, t') ∧ s'.store = t'.store := by
  have heq := h s t hstore
  rw [outcome, outcome, hrun] at heq
  cases hn : StateT.run n t with
  | error reason =>
      rw [hn] at heq
      cases heq
  | ok r =>
      rw [hn] at heq
      obtain ⟨b, t'⟩ := r
      obtain ⟨rfl, hstore'⟩ : a = b ∧ s'.store = t'.store := by simpa [Except.map] using heq
      exact ⟨t', rfl, hstore'⟩

/-- With and without the references that are spelled out, calls have the same computed ones. -/
def SameComputed (sites unnamed : List (Option Scalar)) (made without : List Call) : Prop :=
  ∃ computed, Fills sites computed (made.map (·.reference)) ∧ Fills unnamed computed (without.map (·.reference))

namespace SameComputed

variable {sites sites' unnamed unnamed' : List (Option Scalar)} {made made' without without' : List Call}

theorem nil : SameComputed [] [] [] [] := ⟨[], .nil, .nil⟩

theorem append (h : SameComputed sites unnamed made without) (h' : SameComputed sites' unnamed' made' without') :
    SameComputed (sites ++ sites') (unnamed ++ unnamed') (made ++ made') (without ++ without') := by
  obtain ⟨computed, hmade, hwithout⟩ := h
  obtain ⟨computed', hmade', hwithout'⟩ := h'
  refine ⟨computed ++ computed', ?_, ?_⟩
  · rw [List.map_append]
    exact hmade.append hmade'
  · rw [List.map_append]
    exact hwithout.append hwithout'

end SameComputed

theorem sites_call {function argument : Expr} {keywords : Bool} :
    (Expr.call l function [argument] keywords).sites = argument.sites ++ [argument.spelled?] := by
  rw [Expr.sites.eq_def]

/-- A call has the reference that it spells out, or both compute it. -/
theorem sameComputed_call {function argument : Expr} {keywords : Bool} (hcalls : callsRequire function = true)
    (ih : ∀ s t v s', s.store = t.store → StateT.run (expression argument) s = .ok (v, s') →
      SameComputed argument.sites argument.unnamed.sites (calls .evaluated argument s)
        (calls .evaluated argument.unnamed t))
    (hstore : s.store = t.store)
    (h : StateT.run (expression (.call l function [argument] keywords)) s = .ok (v, s')) :
    SameComputed (Expr.call l function [argument] keywords).sites
      (Expr.call l function [argument] keywords).unnamed.sites
      (calls .evaluated (.call l function [argument] keywords) s)
      (calls .evaluated (Expr.call l function [argument] keywords).unnamed t) := by
  obtain ⟨_, r, s₁, ⟨⟩, hr, hrequire⟩ := exists_of_run_call h
  obtain ⟨x, rfl, htext, htruthy, -, hcalled, -⟩ := exists_of_run_call_require hrequire
  have hx : (x.isText && x.truthy) = true := by rw [htext, htruthy]; rfl
  rw [Expr.unnamed, if_pos hcalls, Expr.unnamedArguments_singleton, sites_call, sites_call,
    calls_call, calls_call, after_of_run hr, after_of_run hrequire, hcalled]
  cases hspelled : argument.spelled? with
  | some y =>
      obtain ⟨⟨m, rfl⟩, hnamed⟩ := exists_of_spelled? hspelled
      have hother : StateT.run (expression (.literal m (.text someReference))) t
          = .ok (.scalar someReference, t) := by
        rw [expression_text]
        rfl
      obtain ⟨t', hrequire', -⟩ := (sameOutcome_require_exchanged hx (by decide) : SameOutcome
        (require l (.scalar x)) (require l (.scalar someReference))).exists_run (t := t) (by
          rw [expression_text] at hr
          cases hr
          exact hstore) hrequire
      obtain ⟨_, ⟨⟩, -, -, -, hcalled', -⟩ := exists_of_run_call_require hrequire'
      rw [expression_text] at hr
      cases hr
      rw [Expr.unnamedArgument_of_spelled hspelled, Expr.line, after_of_run hother, after_of_run hrequire',
        hcalled']
      refine ⟨[], ?_, ?_⟩ <;> simp only [calls, Expr.sites, List.nil_append] <;> exact ⟨rfl, rfl⟩
  | none =>
      rw [Expr.unnamedArgument_of_computed hspelled, Expr.spelled?_unnamed, hspelled]
      obtain ⟨t₁, hr', hstore₁⟩ := (sameOutcome_expression argument).exists_run hstore hr
      obtain ⟨t', hrequire', -⟩ := (sameOutcome_require _).exists_run hstore₁ hrequire
      obtain ⟨_, ⟨⟩, -, -, -, hcalled', -⟩ := exists_of_run_call_require hrequire'
      rw [after_of_run hr', after_of_run hrequire', hcalled']
      exact (ih s t _ s₁ hstore hr).append ⟨[x], ⟨rfl, rfl⟩, ⟨rfl, rfl⟩⟩

/-- The references of an expression's calls are those that it spells out, and computed ones. -/
theorem sameComputed_expression (e : Expr) : ∀ s t v s', s.store = t.store →
    StateT.run (expression e) s = .ok (v, s') →
    SameComputed e.sites e.unnamed.sites (calls .evaluated e s) (calls .evaluated e.unnamed t) := by
  -- Lists of expressions and parts of dictionary displays go along.
  induction e using Expr.induction
    (Q := fun es => ∀ s t vs s', s.store = t.store → StateT.run (expressions es) s = .ok (vs, s') →
      SameComputed (Expr.sitesIn es) (Expr.sitesIn (Expr.unnamedIn es)) (callsOfAll .evaluated es s)
        (callsOfAll .evaluated (Expr.unnamedIn es) t))
    (R := fun parts => ∀ l acc s t es s', s.store = t.store →
      StateT.run (entries l acc parts) s = .ok (es, s') →
      SameComputed (Expr.sitesInParts parts) (Expr.sitesInParts (Expr.unnamedInParts parts))
        (callsOfParts .evaluated parts s) (callsOfParts .evaluated (Expr.unnamedInParts parts) t)) with
  | literal l x =>
      intro s t v s' _ _
      rw [Expr.unnamed, Expr.sites, calls, calls]
      exact .nil
  | name l n =>
      intro s t v s' _ _
      rw [Expr.unnamed, Expr.sites, calls, calls]
      exact .nil
  | list l items ih =>
      intro s t v s' hstore h
      obtain ⟨vs, s₁, hitems, -⟩ := exists_of_run_list h
      rw [Expr.unnamed, Expr.sites, Expr.sites, calls, calls]
      exact ih s t vs s₁ hstore hitems
  | tuple l items ih =>
      intro s t v s' hstore h
      obtain ⟨vs, s₁, hitems, -⟩ := exists_of_run_tuple h
      rw [Expr.unnamed, Expr.sites, Expr.sites, calls, calls]
      exact ih s t vs s₁ hstore hitems
  | dict l parts ih =>
      intro s t v s' hstore h
      obtain ⟨es, s₁, hparts, -⟩ := exists_of_run_dict h
      rw [Expr.unnamed, Expr.sites, Expr.sites, calls, calls]
      exact ih l [] s t es s₁ hstore hparts
  | subscript l container key ihcontainer ihkey =>
      intro s t v s' hstore h
      obtain ⟨c, s₁, k, s₂, hc, hk, -⟩ := exists_of_run_subscript h
      obtain ⟨t₁, hc', hstore₁⟩ := (sameOutcome_expression container).exists_run hstore hc
      rw [Expr.unnamed, Expr.sites, Expr.sites, calls, calls, after_of_run hc, after_of_run hc']
      exact (ihcontainer s t c s₁ hstore hc).append (ihkey s₁ t₁ k s₂ hstore₁ hk)
  | call l function arguments keywords ih =>
      intro s t v s' hstore h
      obtain ⟨argument, r, s₁, rfl, hr, hrequire⟩ := exists_of_run_call h
      have hcalls : callsRequire function = true := by
        by_contra hne
        rw [expression.eq_def] at h
        simp only [hne] at h
        cases h
      exact sameComputed_call hcalls (ih argument List.mem_cons_self) hstore h
  | negate l operand ih =>
      intro s t v s' hstore h
      obtain ⟨w, s₁, hw, -⟩ := exists_of_run_negate h
      rw [Expr.unnamed, Expr.sites, Expr.sites, calls, calls]
      exact ih s t w s₁ hstore hw
  | add l left right ihleft ihright =>
      intro s t v s' hstore h
      obtain ⟨a, s₁, b, s₂, ha, hb, -⟩ := exists_of_run_add h
      obtain ⟨t₁, ha', hstore₁⟩ := (sameOutcome_expression left).exists_run hstore ha
      rw [Expr.unnamed, Expr.sites, Expr.sites, calls, calls, after_of_run ha, after_of_run ha']
      exact (ihleft s t a s₁ hstore ha).append (ihright s₁ t₁ b s₂ hstore₁ hb)
  | starred l value =>
      intro s t v s' _ h
      rw [expression] at h
      cases h
  | other l kind =>
      intro s t v s' _ h
      rw [expression] at h
      cases h
  | nil =>
      rw [Expr.unnamedIn, Expr.sitesIn, callsOfAll, callsOfAll]
      exact .nil
  | cons e rest ihe ihrest =>
      rename_i s t vs s' hstore h
      obtain ⟨w, ws, s₁, hw, hws, -⟩ := exists_of_run_expressions_cons h
      obtain ⟨t₁, hw', hstore₁⟩ := (sameOutcome_expression e).exists_run hstore hw
      rw [Expr.unnamedIn, Expr.sitesIn, Expr.sitesIn, callsOfAll, callsOfAll, after_of_run hw, after_of_run hw']
      exact (ihe s t w s₁ hstore hw).append (ihrest s₁ t₁ ws s' hstore₁ hws)
  | done =>
      rw [Expr.unnamedInParts, Expr.sitesInParts, callsOfParts, callsOfParts]
      exact .nil
  | unpack other rest ihother ihrest =>
      rename_i l acc s t es s' hstore h
      obtain ⟨w, s₁, others, hw, -, hrest⟩ := exists_of_run_entries_unpack h
      obtain ⟨t₁, hw', hstore₁⟩ := (sameOutcome_expression other).exists_run hstore hw
      rw [Expr.unnamedInParts, Expr.sitesInParts, Expr.sitesInParts, callsOfParts, callsOfParts,
        after_of_run hw, after_of_run hw']
      exact (ihother s t w s₁ hstore hw).append (ihrest l _ s₁ t₁ es s' hstore₁ hrest)
  | entry key value rest ihkey ihvalue ihrest =>
      rename_i l acc s t es s' hstore h
      obtain ⟨w, s₁, u, s₂, k, hw, hu, -, hrest⟩ := exists_of_run_entries_entry h
      obtain ⟨t₁, hw', hstore₁⟩ := (sameOutcome_expression value).exists_run hstore hw
      obtain ⟨t₂, hu', hstore₂⟩ := (sameOutcome_expression key).exists_run hstore₁ hu
      rw [Expr.unnamedInParts, Expr.sitesInParts, Expr.sitesInParts, callsOfParts, callsOfParts]
      simp only [after_of_run hw, after_of_run hw', after_of_run hu, after_of_run hu', Way.entry]
      exact ((ihvalue s t w s₁ hstore hw).append (ihkey s₁ t₁ u s₂ hstore₁ hu)).append
        (ihrest l _ s₂ t₂ es s' hstore₂ hrest)

theorem sameComputed_assign {target : Expr} (hstore : s.store = t.store)
    (h : StateT.run (assign v target) s = .ok ((), s')) :
    SameComputed target.sites target.unnamed.sites (calls .evaluated target s)
      (calls .evaluated target.unnamed t) := by
  cases target with
  | name l n =>
      rw [Expr.unnamed, Expr.sites, calls, calls]
      exact .nil
  | subscript l container key =>
      obtain ⟨c, s₁, k, s₂, hc, hk, -⟩ := exists_of_run_assign_subscript h
      obtain ⟨t₁, hc', hstore₁⟩ := (sameOutcome_expression container).exists_run hstore hc
      rw [Expr.unnamed, Expr.sites, Expr.sites, calls, calls, after_of_run hc, after_of_run hc']
      exact (sameComputed_expression container s t c s₁ hstore hc).append
        (sameComputed_expression key s₁ t₁ k s₂ hstore₁ hk)
  | _ => cases h

theorem sameComputed_assigns {targets : List Expr} (hstore : s.store = t.store)
    (h : StateT.run (targets.forM (assign v)) s = .ok ((), s')) :
    SameComputed (targets.flatMap Expr.sites) ((targets.map Expr.unnamed).flatMap Expr.sites)
      (callsOfTargets .evaluated v targets s) (callsOfTargets .evaluated v (targets.map Expr.unnamed) t) := by
  induction targets generalizing s t with
  | nil => exact .nil
  | cons target rest ih =>
      obtain ⟨s₁, htarget, hrest⟩ := run_forM_cons_eq_ok_iff.mp h
      obtain ⟨t₁, htarget', hstore₁⟩ := (sameOutcome_assign v target).exists_run hstore htarget
      rw [List.map_cons, callsOfTargets, callsOfTargets, after_of_run htarget, after_of_run htarget']
      exact (sameComputed_assign hstore htarget).append (ih hstore₁ hrest)

theorem sameComputed_statement {st : Statement} (hstore : s.store = t.store)
    (h : StateT.run (statement st) s = .ok ((), s')) :
    SameComputed st.sites st.unnamed.sites (callsOfStatement .evaluated st s)
      (callsOfStatement .evaluated st.unnamed t) := by
  cases st with
  | assign l targets value =>
      obtain ⟨w, s₁, hw, htargets⟩ := exists_of_run_assignment h
      obtain ⟨t₁, hw', hstore₁⟩ := (sameOutcome_expression value).exists_run hstore hw
      rw [Statement.unnamed, callsOfStatement, callsOfStatement, after_of_run hw, after_of_run hw']
      exact (sameComputed_expression value s t w s₁ hstore hw).append (sameComputed_assigns hstore₁ htargets)
  | augmented l target operator value =>
      obtain ⟨current, s₁, more, s₂, sum, s₃, hcurrent, hmore, hsum, hassign⟩ := exists_of_run_augmented h
      obtain ⟨t₁, hcurrent', hstore₁⟩ := (sameOutcome_expression target).exists_run hstore hcurrent
      obtain ⟨t₂, hmore', hstore₂⟩ := (sameOutcome_expression value).exists_run hstore₁ hmore
      obtain ⟨t₃, hsum', hstore₃⟩ := (sameOutcome_add _ _).exists_run hstore₂ hsum
      rw [Statement.unnamed, callsOfStatement, callsOfStatement, after_of_run hcurrent, after_of_run hcurrent',
        after_of_run hmore, after_of_run hmore', after_of_run hsum, after_of_run hsum']
      exact (sameComputed_expression target s t current s₁ hstore hcurrent).append
        ((sameComputed_expression value s₁ t₁ more s₂ hstore₁ hmore).append
          (sameComputed_assign hstore₃ hassign))
  | expression l value =>
      obtain ⟨w, hw⟩ := exists_of_run_expression h
      exact sameComputed_expression value s t w s' hstore hw
  | pass l => exact .nil
  | other l kind => exact .nil

theorem sameComputed_statements {statements : List Statement} (hstore : s.store = t.store)
    (h : StateT.run (statements.forM statement) s = .ok ((), s')) :
    SameComputed (statements.flatMap Statement.sites) ((statements.map Statement.unnamed).flatMap Statement.sites)
      (callsOfStatements .evaluated statements s)
      (callsOfStatements .evaluated (statements.map Statement.unnamed) t) := by
  induction statements generalizing s t with
  | nil => exact .nil
  | cons st rest ih =>
      obtain ⟨s₁, hst, hrest⟩ := run_forM_cons_eq_ok_iff.mp h
      obtain ⟨t₁, hst', hstore₁⟩ := (sameOutcome_statement st).exists_run hstore hst
      rw [List.map_cons, callsOfStatements, callsOfStatements, after_of_run hst, after_of_run hst']
      exact (sameComputed_statement hstore hst).append (ih hstore₁ hrest)

end Evaluation

/-! ### Units -/

/-- What the statements of a unit say. -/
def evaluate (file : String) (statements : List Statement) : Except Failure Extracted :=
  match Evaluation.run statements with
  | .error h => .error (h.failure file)
  | .ok s => (s.exported file).map (⟨·, s.references⟩)

theorem extract_eq_evaluate (file source : String) : extract file source =
    if '\x00' ∈ source.toList then .error .unexpected
    else match parse source with
      | .error line => .error (.extraction .invalidSource file (some line))
      | .ok statements => evaluate file statements := rfl

theorem Sandbox.exported_congr {file : String} {s t : Sandbox} (h : s.store = t.store) :
    s.exported file = t.exported file := by
  obtain ⟨heap, bindings, references⟩ := s
  obtain ⟨_, _, references'⟩ := t
  cases h
  rfl

variable {statements statements' : List Statement}

/-- Two units that differ in the references they spell out halt alike, or they leave the same store. -/
theorem Evaluation.run_of_unnamed
    (h : statements.map Statement.unnamed = statements'.map Statement.unnamed) :
    (∃ reason, run statements = .error reason ∧ run statements' = .error reason) ∨
      ∃ s s', run statements = .ok s ∧ run statements' = .ok s' ∧ s.store = s'.store := by
  have hlockstep (l : List Statement) : outcome (l.forM statement) .initial
      = outcome ((l.map Statement.unnamed).forM statement) .initial :=
    sameOutcome_forM sameOutcome_statement l _ _ rfl
  have heq : outcome (statements.forM statement) .initial = outcome (statements'.forM statement) .initial := by
    rw [hlockstep statements, hlockstep statements', h]
  rw [outcome, outcome] at heq
  rw [run, run]
  cases hs : StateT.run (statements.forM statement) Sandbox.initial with
  | error reason =>
      cases hs' : StateT.run (statements'.forM statement) Sandbox.initial with
      | error reason' =>
          rw [hs, hs'] at heq
          cases heq
          exact .inl ⟨reason, rfl, rfl⟩
      | ok r' =>
          rw [hs, hs'] at heq
          cases heq
  | ok r =>
      cases hs' : StateT.run (statements'.forM statement) Sandbox.initial with
      | error reason' =>
          rw [hs, hs'] at heq
          cases heq
      | ok r' =>
          rw [hs, hs'] at heq
          have hstore : r.2.store = r'.2.store := congrArg Prod.snd (Except.ok.inj heq)
          exact .inr ⟨r.2, r'.2, rfl, rfl, hstore⟩

/-- The references of a run are those that its calls spell out and computed ones, and what is computed does
not depend on what is spelled out. -/
theorem Evaluation.exists_computed (h : statements.map Statement.unnamed = statements'.map Statement.unnamed)
    {s s' : Sandbox} (hs : run statements = .ok s) (hs' : run statements' = .ok s') :
    ∃ computed, Fills (statements.flatMap Statement.sites) computed (required .evaluated statements) ∧
      Fills (statements'.flatMap Statement.sites) computed (required .evaluated statements') := by
  obtain ⟨computed, hfills, hwithout⟩ := sameComputed_statements (t := .initial) rfl (run_eq_ok_iff.mp hs)
  obtain ⟨computed', hfills', hwithout'⟩ := sameComputed_statements (t := .initial) rfl (run_eq_ok_iff.mp hs')
  rw [← h] at hwithout'
  obtain rfl := hwithout.unique hwithout'
  exact ⟨computed, hfills, hfills'⟩

/-- Two units that differ in the references they spell out fail alike, or they say the same document. Then
each requires the references that its own calls spell out and what both compute, each once. No two calls
share a cell of their placeholders. -/
theorem evaluate_of_unnamed
    (h : statements.map Statement.unnamed = statements'.map Statement.unnamed) (file : String) :
    ((∃ failure, evaluate file statements = .error failure ∧ evaluate file statements' = .error failure) ∨
      ∃ unit unit' computed, evaluate file statements = .ok unit ∧ evaluate file statements' = .ok unit' ∧
        unit.document = unit'.document ∧
        computed.length = (statements.flatMap Statement.sites).count none ∧
        unit.references = (fill (statements.flatMap Statement.sites) computed).eraseDups ∧
        unit'.references = (fill (statements'.flatMap Statement.sites) computed).eraseDups) ∧
      ∀ s, Evaluation.run statements = .ok s →
        (Evaluation.callsOfStatements .evaluated statements .initial).Pairwise
          fun c d => c.cells.Disjoint d.cells := by
  refine ⟨?_, fun s hs => (Evaluation.made_of_run hs).apart⟩
  obtain ⟨reason, hs, hs'⟩ | ⟨s, s', hs, hs', hstore⟩ := Evaluation.run_of_unnamed h
  · exact .inl ⟨reason.failure file, by rw [evaluate, hs], by rw [evaluate, hs']⟩
  · have hexported : s.exported file = s'.exported file := Sandbox.exported_congr hstore
    cases hd : s.exported file with
    | error failure =>
        rw [hd] at hexported
        refine .inl ⟨failure, ?_, ?_⟩
        · rw [evaluate, hs]
          simp only [hd, Except.map]
        · rw [evaluate, hs']
          simp only [← hexported, Except.map]
    | ok d =>
        rw [hd] at hexported
        obtain ⟨computed, hfills, hfills'⟩ := Evaluation.exists_computed h hs hs'
        refine .inr ⟨⟨d, s.references⟩, ⟨d, s'.references⟩, computed, ?_, ?_, rfl, hfills.count, ?_, ?_⟩
        · rw [evaluate, hs]
          simp only [hd, Except.map]
        · rw [evaluate, hs']
          simp only [← hexported, Except.map]
        · rw [← hfills.eq]
          exact (Evaluation.made_of_run hs).references [] rfl
        · rw [← hfills'.eq]
          exact (Evaluation.made_of_run hs').references [] rfl

/-- The statements of a unit that exports the placeholder of one unit, filled with those of two others. -/
def gathering (first second third : String) : List Statement :=
  let call (line : Nat) (reference : String) : Expr :=
    .call line (.name line requireName) [.literal line (.text (.text reference))] false
  [.assign 1 [.name 1 exportsName] (call 1 first),
    .assign 2 [.subscript 2 (.name 2 exportsName) (.literal 2 (.text (.text "definitions")))]
      (.list 2 [call 2 second, call 2 third])]

theorem evaluate_of_unnamed_gathering : ∃ unit unit',
    (gathering "a" "b" "a").map Statement.unnamed = (gathering "c" "c" "d").map Statement.unnamed ∧
      evaluate "<unit>" (gathering "a" "b" "a") = .ok unit ∧
      evaluate "<unit>" (gathering "c" "c" "d") = .ok unit' ∧ unit.document = unit'.document ∧
      unit.references = [.text "a", .text "b"] ∧ unit'.references = [.text "c", .text "d"] := by
  have hunnamed : (gathering "a" "b" "a").map Statement.unnamed
      = (gathering "c" "c" "d").map Statement.unnamed := rfl
  have hends : (evaluate "<unit>" (gathering "a" "b" "a")).toOption.isSome = true := by decide +kernel
  obtain ⟨⟨failure, hfailure, -⟩ | ⟨unit, unit', computed, h, h', hdocument, hcount, hrefs, hrefs'⟩, -⟩ :=
    evaluate_of_unnamed hunnamed "<unit>"
  · rw [hfailure] at hends
    cases hends
  · obtain rfl : computed = [] := List.eq_nil_of_length_eq_zero (hcount.trans (by decide +kernel))
    refine ⟨unit, unit', hunnamed, h, h', hdocument, hrefs.trans ?_, hrefs'.trans ?_⟩ <;> decide +kernel

end PersistedOps.Script

import PersistedOps.Proofs.Script.Characters
import PersistedOps.Proofs.Script.Repeated

/-!
The order in which a unit requires others. It is the order in which an execution would come to the calls,
unless the calls of a dictionary display stand in the key and in the value of one entry: the sandbox makes
those in the value first.
-/

namespace PersistedOps.Script

/-! ### Entries with calls on both sides -/

namespace Expr

mutual

/-- Whether there are calls in an expression. -/
def requires : Expr → Bool
  | literal _ _ | name _ _ | starred _ _ | other _ _ => false
  | list _ items | tuple _ items => requiresIn items
  | dict _ parts => requiresInParts parts
  | subscript _ left right | add _ left right => left.requires || right.requires
  | call _ _ _ _ => true
  | negate _ operand => operand.requires

def requiresIn : List Expr → Bool
  | [] => false
  | e :: rest => e.requires || requiresIn rest

def requiresInParts : List (Option Expr × Expr) → Bool
  | [] => false
  | (none, unpacked) :: rest => unpacked.requires || requiresInParts rest
  | (some key, value) :: rest => key.requires || value.requires || requiresInParts rest

end

mutual

/-- Whether an expression holds an entry with calls in its key and in its value. -/
def mixes : Expr → Bool
  | literal _ _ | name _ _ | starred _ _ | other _ _ => false
  | list _ items | tuple _ items => mixesIn items
  | dict _ parts => mixesInParts parts
  | subscript _ left right | add _ left right => left.mixes || right.mixes
  | call _ _ arguments _ => mixesIn arguments
  | negate _ operand => operand.mixes

def mixesIn : List Expr → Bool
  | [] => false
  | e :: rest => e.mixes || mixesIn rest

def mixesInParts : List (Option Expr × Expr) → Bool
  | [] => false
  | (none, unpacked) :: rest => unpacked.mixes || mixesInParts rest
  | (some key, value) :: rest =>
    key.requires && value.requires || key.mixes || value.mixes || mixesInParts rest

end

end Expr

def Statement.mixes : Statement → Bool
  | .assign _ targets value => targets.any Expr.mixes || value.mixes
  | .augmented _ target _ value => target.mixes || value.mixes
  | .expression _ value => value.mixes
  | .pass _ | .other _ _ => false

namespace Evaluation

variable {way : Way} {s s' : Sandbox} {w : Value}

theorem after_eq_nil {α : Type} {m : Evaluation α} {f : α → Sandbox → List Call} (h : ∀ a s', f a s' = []) :
    after m s f = [] := by
  rw [after]
  split
  · exact h _ _
  · rfl

theorem after_congr {α : Type} {m : Evaluation α} {f g : α → Sandbox → List Call}
    (h : ∀ a s', f a s' = g a s') : after m s f = after m s g := by
  obtain rfl : f = g := funext fun a => funext (h a)
  rfl

theorem calls_eq_nil (e : Expr) : e.requires = false → ∀ s, calls way e s = [] := by
  -- Lists of expressions and parts of dictionary displays go along.
  induction e using Expr.induction
    (Q := fun es => Expr.requiresIn es = false → ∀ s, callsOfAll way es s = [])
    (R := fun parts => Expr.requiresInParts parts = false → ∀ s, callsOfParts way parts s = []) with
  | literal l v => exact fun _ s => by rw [calls]
  | name l n => exact fun _ s => by rw [calls]
  | starred l value => exact fun _ s => by rw [calls]
  | other l kind => exact fun _ s => by rw [calls]
  | list l items ih =>
      intro h s
      rw [calls, ih h s]
  | tuple l items ih =>
      intro h s
      rw [calls, ih h s]
  | dict l parts ih =>
      intro h s
      rw [calls, ih h s]
  | subscript l container key ihcontainer ihkey =>
      intro h s
      obtain ⟨hcontainer, hkey⟩ := Bool.or_eq_false_iff.mp h
      rw [calls, ihcontainer hcontainer, after_eq_nil fun _ => ihkey hkey]
      rfl
  | call l function arguments keywords ih =>
      intro h
      cases h
  | negate l operand ih =>
      intro h s
      rw [calls, ih h s]
  | add l left right ihleft ihright =>
      intro h s
      obtain ⟨hleft, hright⟩ := Bool.or_eq_false_iff.mp h
      rw [calls, ihleft hleft, after_eq_nil fun _ => ihright hright]
      rfl
  | nil =>
      rename_i s
      rw [callsOfAll]
  | cons e rest ihe ihrest =>
      rename_i h s
      obtain ⟨he, hrest⟩ := Bool.or_eq_false_iff.mp h
      rw [callsOfAll, ihe he, after_eq_nil fun _ => ihrest hrest]
      rfl
  | done =>
      rename_i s
      rw [callsOfParts]
  | unpack other rest ihother ihrest =>
      rename_i h s
      obtain ⟨hother, hrest⟩ := Bool.or_eq_false_iff.mp h
      rw [callsOfParts, ihother hother, after_eq_nil fun _ => ihrest hrest]
      rfl
  | entry key value rest ihkey ihvalue ihrest =>
      rename_i h s
      obtain ⟨hentry, hrest⟩ := Bool.or_eq_false_iff.mp h
      obtain ⟨hkey, hvalue⟩ := Bool.or_eq_false_iff.mp hentry
      rw [callsOfParts, ihvalue hvalue, after_eq_nil fun _ => ihkey hkey,
        after_eq_nil fun _ _ => after_eq_nil fun _ => ihrest hrest]
      cases way <;> rfl

/-- Where no entry has calls on both sides, both ways come to the calls in one order. -/
theorem calls_executed (e : Expr) : e.mixes = false → ∀ s, calls .executed e s = calls .evaluated e s := by
  -- Lists of expressions and parts of dictionary displays go along.
  induction e using Expr.induction
    (Q := fun es => Expr.mixesIn es = false → ∀ s,
      callsOfAll .executed es s = callsOfAll .evaluated es s)
    (R := fun parts => Expr.mixesInParts parts = false → ∀ s,
      callsOfParts .executed parts s = callsOfParts .evaluated parts s) with
  | literal l v => exact fun _ s => by rw [calls, calls]
  | name l n => exact fun _ s => by rw [calls, calls]
  | starred l value => exact fun _ s => by rw [calls, calls]
  | other l kind => exact fun _ s => by rw [calls, calls]
  | list l items ih =>
      intro h s
      rw [calls, calls, ih h s]
  | tuple l items ih =>
      intro h s
      rw [calls, calls, ih h s]
  | dict l parts ih =>
      intro h s
      rw [calls, calls, ih h s]
  | subscript l container key ihcontainer ihkey =>
      intro h s
      obtain ⟨hcontainer, hkey⟩ := Bool.or_eq_false_iff.mp h
      rw [calls, calls, ihcontainer hcontainer, after_congr fun _ => ihkey hkey]
  | call l function arguments keywords ih =>
      intro h s
      cases arguments with
      | nil => rw [calls.eq_def, calls.eq_def]
      | cons argument rest =>
          cases rest with
          | cons _ _ => rw [calls.eq_def, calls.eq_def]
          | nil =>
              obtain ⟨hargument, -⟩ := Bool.or_eq_false_iff.mp h
              rw [calls_call, calls_call, ih argument List.mem_cons_self hargument]
  | negate l operand ih =>
      intro h s
      rw [calls, calls, ih h s]
  | add l left right ihleft ihright =>
      intro h s
      obtain ⟨hleft, hright⟩ := Bool.or_eq_false_iff.mp h
      rw [calls, calls, ihleft hleft, after_congr fun _ => ihright hright]
  | nil =>
      rename_i s
      rw [callsOfAll, callsOfAll]
  | cons e rest ihe ihrest =>
      rename_i h s
      obtain ⟨he, hrest⟩ := Bool.or_eq_false_iff.mp h
      rw [callsOfAll, callsOfAll, ihe he, after_congr fun _ => ihrest hrest]
  | done =>
      rename_i s
      rw [callsOfParts, callsOfParts]
  | unpack other rest ihother ihrest =>
      rename_i h s
      obtain ⟨hother, hrest⟩ := Bool.or_eq_false_iff.mp h
      rw [callsOfParts, callsOfParts, ihother hother, after_congr fun _ => ihrest hrest]
  | entry key value rest ihkey ihvalue ihrest =>
      rename_i h s
      obtain ⟨hentry, hrest⟩ := Bool.or_eq_false_iff.mp h
      obtain ⟨hentry, hvalue⟩ := Bool.or_eq_false_iff.mp hentry
      obtain ⟨hsides, hkey⟩ := Bool.or_eq_false_iff.mp hentry
      rw [callsOfParts, callsOfParts, ihvalue hvalue, after_congr fun _ => ihkey hkey,
        after_congr fun _ _ => after_congr fun _ => ihrest hrest]
      -- Only here do the ways differ: one has the key first, one the value. One of the two has no calls.
      obtain hnone | hnone := Bool.and_eq_false_iff.mp hsides
      · rw [after_eq_nil fun _ => calls_eq_nil key hnone]
        simp [Way.entry]
      · rw [calls_eq_nil value hnone]
        simp [Way.entry]

theorem callsOfTargets_executed {targets : List Expr} (h : ∀ target ∈ targets, target.mixes = false)
    (s : Sandbox) :
    callsOfTargets .executed w targets s = callsOfTargets .evaluated w targets s := by
  induction targets generalizing s with
  | nil => rfl
  | cons target rest ih =>
      obtain ⟨htarget, hrest⟩ := List.forall_mem_cons.mp h
      rw [callsOfTargets, callsOfTargets, calls_executed target htarget, after_congr fun _ => ih hrest]

theorem eraseDups_append_of_subset {α : Type} [BEq α] [LawfulBEq α] {xs ys : List α} (h : ys ⊆ xs) :
    (xs ++ ys).eraseDups = xs.eraseDups := by
  have hnone : ys.removeAll xs = [] := by
    simpa [List.removeAll] using fun y hy => h hy
  rw [List.eraseDups_append, hnone]
  simp

/-- Both ways come to the same references in one order. -/
theorem eraseDups_callsOfStatement {st : Statement} (hself : ∃ R, Simulates R s.store s.store)
    (hmixes : st.mixes = false) (h : StateT.run (statement st) s = .ok ((), s')) :
    ((callsOfStatement .evaluated st s).map (·.reference)).eraseDups
      = ((callsOfStatement .executed st s).map (·.reference)).eraseDups := by
  cases st with
  | assign l targets value =>
      obtain ⟨htargets, hvalue⟩ := Bool.or_eq_false_iff.mp hmixes
      rw [callsOfStatement, callsOfStatement, calls_executed value hvalue, after_congr fun _ =>
        callsOfTargets_executed fun target htarget => by simpa using List.any_eq_false.mp htargets target htarget]
  | augmented l target operator value =>
      obtain ⟨htarget, hvalue⟩ := Bool.or_eq_false_iff.mp hmixes
      obtain ⟨current, s₁, more, s₂, sum, s₃, hcurrent, hmore, hsum, hassign⟩ := exists_of_run_augmented h
      have hagain := calls_augmented_again hself hcurrent hmore hsum hassign
      simp only [callsOfStatement, after_of_run hcurrent, after_of_run hmore, after_of_run hsum,
        calls_executed target htarget, calls_executed value hvalue, Way.again, List.append_nil,
        List.map_append, hagain]
      rw [← List.append_assoc]
      exact eraseDups_append_of_subset (List.subset_append_left _ _)
  | expression l value => rw [callsOfStatement, callsOfStatement, calls_executed value hmixes]
  | pass l => rfl
  | other l kind => rfl

theorem eraseDups_callsOfStatements {statements : List Statement}
    (hself : ∃ R, Simulates R s.store s.store) (hmixes : ∀ st ∈ statements, st.mixes = false)
    (h : StateT.run (statements.forM statement) s = .ok ((), s')) :
    ((callsOfStatements .evaluated statements s).map (·.reference)).eraseDups
      = ((callsOfStatements .executed statements s).map (·.reference)).eraseDups := by
  induction statements generalizing s with
  | nil => rfl
  | cons st rest ih =>
      obtain ⟨hst, hrest⟩ := List.forall_mem_cons.mp hmixes
      obtain ⟨s₁, hrun, hrun'⟩ := run_forM_cons_eq_ok_iff.mp h
      rw [callsOfStatements, callsOfStatements, after_of_run hrun, after_of_run hrun, List.map_append,
        List.map_append, ← eraseDups_append_eraseDups, eraseDups_callsOfStatement hself hst hrun,
        ih (exists_simulates_self hself hrun) hrest hrun', eraseDups_append_eraseDups]

end Evaluation

/-! ### Units -/

/-- The references that a unit requires, one for each call. -/
def required (way : Way) (statements : List Statement) : List Scalar :=
  (Evaluation.callsOfStatements way statements .initial).map (·.reference)

theorem Evaluation.made_of_run {statements : List Statement} {s : Sandbox} (h : run statements = .ok s) :
    Made .initial s (callsOfStatements .evaluated statements .initial) :=
  made_statements (run_eq_ok_iff.mp h)

/-- The references of a unit are those of its calls, each once, in the order in which the sandbox first
makes the calls. They are texts and not empty. If no entry of a dictionary display has calls in its key
and in its value, then an execution comes to them in this order. -/
theorem references_of_extract {file source : String} {unit : Extracted} {statements : List Statement}
    (hextract : extract file source = .ok unit) (hparse : parse source = .ok statements) :
    unit.references = (required .evaluated statements).eraseDups ∧ unit.references.Nodup ∧
      (∀ r ∈ unit.references, r.isText = true ∧ r.truthy = true) ∧
      ((∀ st ∈ statements, st.mixes = false) →
        unit.references = (required .executed statements).eraseDups) := by
  obtain ⟨-, _, s, hparse', hs, -, hreferences⟩ := extract_eq_ok_iff.mp hextract
  cases hparse.symm.trans hparse'
  have hmade := Evaluation.made_of_run hs
  have heq : unit.references = (required .evaluated statements).eraseDups :=
    hreferences.symm.trans (hmade.references [] rfl)
  refine ⟨heq, heq ▸ nodup_eraseDups _, fun r hr => ?_, fun hmixes => ?_⟩
  · rw [heq, List.mem_eraseDups] at hr
    obtain ⟨c, hc, rfl⟩ := List.mem_map.mp hr
    exact hmade.named c hc
  · exact heq.trans
      (Evaluation.eraseDups_callsOfStatements ⟨_, .initial⟩ hmixes (Evaluation.run_eq_ok_iff.mp hs))

/-- A unit that comes back to a target with a call, which it has made by then. -/
def returningSource : String :=
  "exports=\x7b'kind':'Document'\x7d\n[require('b')][0]['definitions']+=[require('a'),require('b')]"

theorem references_of_extract_returning : ∃ unit statements,
    extract "<unit>" returningSource = .ok unit ∧ parse returningSource = .ok statements ∧
      (∀ st ∈ statements, st.mixes = false) ∧ unit.references = [.text "b", .text "a"] ∧
      unit.references = (required .executed statements).eraseDups := by
  obtain ⟨statements, s, d, hextract, hparse, -, hcheck⟩ := exists_of_check "<unit>" returningSource
    (fun statements s => s.references = [.text "b", .text "a"] && statements.all (!·.mixes))
    String.toList_ofList (by decide +kernel)
  obtain ⟨hreferences, hmixes⟩ := Bool.and_eq_true_iff.mp hcheck
  have hplain : ∀ st ∈ statements, st.mixes = false := by simpa using hmixes
  exact ⟨_, statements, hextract, hparse, hplain, of_decide_eq_true hreferences,
    (references_of_extract hextract hparse).2.2.2 hplain⟩

/-- A unit that requires one unit in the key of an entry and another in its value. -/
def mixingSource : String :=
  "exports=\x7b'kind':'Document'\x7d\nx=\x7brequire('a')['kind']:require('b')\x7d"

/-- The sandbox comes to the value first, an execution to the key. -/
theorem extract_mixing : ∃ unit statements,
    extract "<unit>" mixingSource = .ok unit ∧ parse mixingSource = .ok statements ∧
      unit.references = [.text "b", .text "a"] ∧
      (required .executed statements).eraseDups = [.text "a", .text "b"] := by
  obtain ⟨statements, s, d, hextract, hparse, -, hcheck⟩ := exists_of_check "<unit>" mixingSource
    (fun statements s => s.references = [.text "b", .text "a"] &&
      (required .executed statements).eraseDups = [.text "a", .text "b"])
    String.toList_ofList (by decide +kernel)
  obtain ⟨hreferences, hexecuted⟩ := Bool.and_eq_true_iff.mp hcheck
  exact ⟨_, statements, hextract, hparse, of_decide_eq_true hreferences, of_decide_eq_true hexecuted⟩

end PersistedOps.Script

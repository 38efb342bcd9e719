import PersistedOps.Proofs.Script.Store

/-!
The direct execution of units, which the sandbox stands in for. Lists, tuples and dictionaries are
objects with an identity, a tuple never changes, and an augmented assignment evaluates its target once
and extends a list where it is, so that all who hold the list see it grow. What would raise an exception,
and what units may not use, has no execution.
-/

namespace PersistedOps.Script

/-- The state of an execution. Tuples are cells with items as lists are, and told by their addresses. -/
structure Machine extends Store where
  tuples : List Nat
deriving Repr, Inhabited

abbrev Execution := StateT Machine Option

namespace Machine

def initial : Machine := ⟨⟨.empty, []⟩, []⟩

def isTuple (m : Machine) : Value → Bool
  | .cell a => a ∈ m.tuples
  | .scalar _ => false

end Machine

namespace Execution

def layerOf (v : Value) : Execution (Layer Value) := return (← get).heap.layer v

def allocate (c : Cell) : Execution Value :=
  modifyGet fun m => (.cell m.heap.cells.size, { m with toStore := m.toStore.allocate c })

def allocateTuple (items : List Value) : Execution Value :=
  modifyGet fun m => (.cell m.heap.cells.size,
    ⟨m.toStore.allocate (.list items), m.heap.cells.size :: m.tuples⟩)

/-- The fresh empty document that a required unit gives. -/
def placeholder : Execution Value := do
  let definitions ← allocate (.list [])
  allocate (.dict [(.text "kind", .scalar (.text "Document")), (.text "definitions", definitions)])

/-! ### Operators -/

/-- Two lists, two tuples or two texts can be added; the sum is new. -/
def add (left right : Value) : Execution Value := do
  let m ← get
  match m.heap.layer left, m.heap.layer right with
  | .list xs, .list ys =>
    match m.isTuple left, m.isTuple right with
    | false, false => allocate (.list (xs ++ ys))
    | true, true => allocateTuple (xs ++ ys)
    | _, _ => failure
  | .scalar s, .scalar t => return .scalar (← s.append? t)
  | _, _ => failure

/-- An augmented sum. The items of a list or a tuple are added to a list itself. -/
def extend (current more : Value) : Execution Value := do
  let m ← get
  match current, m.heap.layer current, m.heap.layer more with
  | .cell a, .list xs, .list ys =>
    if a ∈ m.tuples then add current more
    else do
      modify fun m => { m with toStore := m.toStore.write a (.list (xs ++ ys)) }
      return current
  | _, _, _ => add current more

def negate (v : Value) : Execution Value := do
  match ← layerOf v with
  | .scalar (.int n) => return .scalar (.int (-n))
  | .scalar (.float x) => return .scalar (.float x.neg)
  | _ => failure

def subscript (container key : Value) : Execution Value := do
  let found ← (Evaluation.lookup (← layerOf container) (← layerOf key)).toOption
  return found

/-- The key that a value is. Units may have no tuples for keys. -/
def keyOf (v : Value) : Execution Scalar := do
  match ← layerOf v with
  | .scalar s => return s
  | _ => failure

def literal : Literal → Execution Value
  | .null => return .scalar .null
  | .bool b => return .scalar (.bool b)
  | .int n => return .scalar (.int n)
  | .float x => return .scalar (.float x)
  | .text s => return .scalar s
  | .bytes | .imaginary | .ellipsis => failure

/-! ### Expressions and statements -/

mutual

/-- The value of an expression. -/
def expression : Expr → Execution Value
  | .literal _ v => literal v
  | .name _ n => do
    let v ← (← get).lookup? n
    return v
  | .list _ items => do allocate (.list (← expressions items))
  | .tuple _ items => do allocateTuple (← expressions items)
  | .dict _ parts => do allocate (.dict (← entries [] parts))
  | .subscript _ container key => do
    let c ← expression container
    let k ← expression key
    subscript c k
  | .call _ function arguments keywords =>
    match Evaluation.callsRequire function, arguments, keywords with
    | true, [argument], false => do
      let _ ← expression argument
      placeholder
    | _, _, _ => failure
  | .negate _ operand => do negate (← expression operand)
  | .add _ left right => do
    let a ← expression left
    let b ← expression right
    add a b
  | .starred _ _ | .other _ _ => failure

def expressions : List Expr → Execution (List Value)
  | [] => return []
  | e :: rest => do
    let v ← expression e
    return v :: (← expressions rest)

/-- Adds the entries of a dictionary display, a key before its value. -/
def entries (acc : Entries Value) : List (Option Expr × Expr) → Execution (Entries Value)
  | [] => return acc
  | (none, other) :: rest => do
    match ← layerOf (← expression other) with
    | .dict others => entries (acc.update others) rest
    | _ => failure
  | (some key, value) :: rest => do
    let k ← keyOf (← expression key)
    let v ← expression value
    entries (acc.put k v) rest

end

/-- What an expression assigns to. Units may not bind `require`. -/
def target : Expr → Execution Target
  | .name _ n => if n = requireName then failure else return .name n
  | .subscript _ container key => do
    let c ← expression container
    let k ← keyOf (← expression key)
    match c with
    | .cell a => return .item a k
    | .scalar _ => failure
  | _ => failure

def load (t : Target) : Execution Value := do
  let v ← (← get).load? t
  return v

def store (t : Target) (v : Value) : Execution Unit := do
  let m ← get
  match t with
  | .item a _ => if a ∈ m.tuples then failure
  | .name _ => pure ()
  let s ← m.assign? t v
  set { m with toStore := s }

/-- What an augmented assignment works on: its target, what the target holds, and what is added. -/
def operands (place value : Expr) : Execution (Target × Value × Value) := do
  let t ← target place
  let current ← load t
  return (t, current, ← expression value)

def statement : Statement → Execution Unit
  | .assign _ places value => do
    let v ← expression value
    places.forM fun place => do store (← target place) v
  | .augmented _ place .add value => do
    let (t, current, more) ← operands place value
    store t (← extend current more)
  | .augmented _ _ _ _ => failure
  | .expression _ value => do
    let _ ← expression value
  | .pass _ => return ()
  | .other _ _ => failure

/-- The state in which statements leave a machine. -/
def run (m : Machine) (statements : List Statement) : Option Machine :=
  (StateT.run (statements.forM statement) m).map (·.2)

/-! ### Lists that one place holds -/

/-- If the statement extends a list, then the list is held by the statement's target alone. -/
def Unshared (m : Machine) : Statement → Prop
  | .augmented _ place _ value =>
    ∀ t a more m', StateT.run (operands place value) m = some ((t, .cell a, more), m') →
      a ∉ m'.tuples → ∀ xs ys, m'.heap.layer (.cell a) = .list xs → m'.heap.layer more = .list ys →
        m'.HeldOnlyBy t a (xs ++ ys)
  | _ => True

/-- All lists that the statements extend are held by one target at the time. -/
def NoneShared : Machine → List Statement → Prop
  | _, [] => True
  | m, st :: rest =>
    Unshared m st ∧ ∀ m', StateT.run (statement st) m = some ((), m') → NoneShared m' rest

/-! A check that does not follow what names lead to -/

/-- No cell and no name holds the list once the target lets go of it. -/
def heldOnlyBy (s : Store) (t : Target) (a : Nat) (items : List Value) : Bool :=
  (s.assign? t (.scalar .null)).all fun s' =>
    items.all (· ≠ .cell a) && s'.bindings.all (fun e => s'.lookup? e.1 ≠ some (.cell a)) &&
      s'.heap.cells.all fun c => c.values.all (· ≠ .cell a)

theorem not_reaches {h : Heap} {a : Nat} (hcells : ∀ b c, h.get? b = some c → .cell a ∉ c.values)
    {v : Value} (hv : v ≠ .cell a) : ¬h.Reaches v a := by
  intro hreach
  induction hreach with
  | here => exact hv rfl
  | part hc hheld _ ih => exact ih hcells (fun heq => hcells _ _ hc (heq ▸ hheld))

theorem heldOnlyBy_sound {s : Store} {t : Target} {a : Nat} {items : List Value}
    (h : heldOnlyBy s t a items = true) : s.HeldOnlyBy t a items := by
  intro s' hs'
  rw [heldOnlyBy, hs', Option.all_some] at h
  obtain ⟨hfree, hcells⟩ := Bool.and_eq_true_iff.mp h
  obtain ⟨hitems, hnames⟩ := Bool.and_eq_true_iff.mp hfree
  rintro ⟨v, hroot, hreach⟩
  refine not_reaches (fun b c hc hheld => ?_) (fun heq => ?_) hreach
  · obtain ⟨hb, rfl⟩ := Array.getElem?_eq_some_iff.mp hc
    have hvalues := Array.all_eq_true.mp hcells b hb
    exact of_decide_eq_true (List.all_eq_true.mp hvalues _ hheld) rfl
  · subst heq
    obtain ⟨n, hn⟩ | hmem := hroot
    · obtain ⟨l₁, l₂, hbindings, -⟩ := List.lookup_eq_some_iff.mp hn
      have hentry : (n, Value.cell a) ∈ s'.bindings := by simp [hbindings]
      exact of_decide_eq_true (List.all_eq_true.mp hnames _ hentry) hn
    · exact of_decide_eq_true (List.all_eq_true.mp hitems _ hmem) rfl

def isUnshared (m : Machine) : Statement → Bool
  | .augmented _ place _ value =>
    match StateT.run (operands place value) m with
    | some ((t, .cell a, more), m') =>
      match m'.heap.layer (.cell a), m'.heap.layer more with
      | .list xs, .list ys => a ∈ m'.tuples || heldOnlyBy m'.toStore t a (xs ++ ys)
      | _, _ => true
    | _ => true
  | _ => true

def noneShared : Machine → List Statement → Bool
  | _, [] => true
  | m, st :: rest => isUnshared m st &&
    (StateT.run (statement st) m).all fun r => noneShared r.2 rest

theorem unshared_of_isUnshared {m : Machine} {st : Statement} (h : isUnshared m st = true) :
    Unshared m st := by
  cases st with
  | augmented l place operator value =>
      intro t a more m' hoperands htuple xs ys hxs hys
      rw [isUnshared, hoperands] at h
      dsimp only at h
      rw [hxs, hys] at h
      rcases Bool.or_eq_true_iff.mp h with htuple' | hheld
      · exact (htuple (of_decide_eq_true htuple')).elim
      · exact heldOnlyBy_sound hheld
  | _ => exact trivial

theorem noneShared_sound {m : Machine} {statements : List Statement} (h : noneShared m statements = true) :
    NoneShared m statements := by
  induction statements generalizing m with
  | nil => exact trivial
  | cons st rest ih =>
      obtain ⟨hst, hrest⟩ := Bool.and_eq_true_iff.mp h
      refine ⟨unshared_of_isUnshared hst, fun m' hrun => ih ?_⟩
      rw [hrun] at hrest
      exact hrest

end Execution

end PersistedOps.Script

import PersistedOps.Build.Processed
import PersistedOps.Build.Session.Waiting
import PersistedOps.Source.Memory

/-!
Build sessions. A session processes each unit of a source at most once: the first call that needs a
unit starts its task, all share its outcome. Tasks take their steps one at a time, as jobs of a queue;
a step runs up to the next wait.
-/

namespace PersistedOps

/-- Who waits for a unit: a call from outside, or a request of a unit being built, at its position. -/
inductive Waiter where
  | call (id : Nat)
  | request (issuer : String) (position : Nat)
deriving DecidableEq, Repr

/-- How far the task of a unit is. -/
inductive TaskState where
  | queued
  | resolving (source : String) (unit : Script.Extracted) (resolution : Resolution)
  | finished (outcome : Except Failure Processed)

/-- The task of a unit, with those who wait for it in the order in which they began to. -/
structure BuildTask where
  state : TaskState
  waiters : List Waiter

/-- A call from outside: a reference, and for whom it is resolved if that matters. -/
structure Call where
  reference : String
  issuer : Option String
deriving DecidableEq, Repr

/-- The steps that tasks are ready to take. -/
inductive Job where
  /-- A call locates its unit and begins to wait. -/
  | call (id : Nat)
  /-- The task of a unit reads it and asks for its dependencies. -/
  | start (path : String)
  /-- A request locates its unit and begins to wait. -/
  | request (issuer : String) (position : Nat)
  /-- A waiter goes on, as the unit of a path is finished. -/
  | wake (waiter : Waiter) (path : String)
  /-- The answer to a request reaches the unit that made it. -/
  | settle (issuer : String) (position : Nat) (answer : Answer)
  /-- The task of a unit goes on, as all requests are answered. -/
  | resume (path : String)

/-- A session: its settings, its units by path, who waits for what, the calls made so far, the outcomes
of those that have ended in the order in which they did, the jobs in the order in which they became
ready, and the paths read so far. -/
structure Session (σ : Type) where
  source : σ
  options : Options
  signer : Signer
  tasks : List (String × BuildTask)
  waiting : Waiting
  calls : List Call
  outcomes : List (Nat × Except Failure Processed)
  queue : List Job
  reads : List String

namespace Session

variable {σ : Type}

def start (source : σ) (options : Options) (signer : Signer) : Session σ :=
  ⟨source, options, signer, [], [], [], [], [], []⟩

/-- A call is made: its first step is queued. -/
def addCall (s : Session σ) (reference : String) (issuer : Option String) : Session σ :=
  { s with
    calls := s.calls ++ [⟨reference, issuer⟩]
    queue := s.queue ++ [.call s.calls.length] }

def task? (s : Session σ) (path : String) : Option BuildTask := s.tasks.lookup path

/-- The outcome of a finished unit. -/
def outcome? (s : Session σ) (path : String) : Option (Except Failure Processed) :=
  match s.task? path with
  | some ⟨.finished outcome, _⟩ => some outcome
  | _ => none

def enqueue (s : Session σ) (jobs : List Job) : Session σ := { s with queue := s.queue ++ jobs }

/-- Changes the task of a path. -/
def modifyTask (s : Session σ) (path : String) (f : BuildTask → BuildTask) : Session σ :=
  { s with tasks := s.tasks.map fun e => if e.1 = path then (e.1, f e.2) else e }

/-! Waiting -/

/-- The path that a waiter waits for its unit with: that of a request is the unit that made it. -/
def issuer? (s : Session σ) : Waiter → Option String
  | .call id => s.calls[id]?.bind Call.issuer
  | .request issuer _ => some issuer

/-- A waiter takes an outcome. -/
def deliver (s : Session σ) (waiter : Waiter) (outcome : Except Failure Processed) : Session σ :=
  match waiter with
  | .call id => { s with outcomes := s.outcomes ++ [(id, outcome)] }
  | .request issuer position =>
    s.enqueue [.settle issuer position (outcome.map Processed.documents)]

/-- A waiter that has waited for a path waits no more. -/
def stopWaiting (s : Session σ) (waiter : Waiter) (path : String) : Session σ :=
  match s.issuer? waiter with
  | some issuer => { s with waiting := s.waiting.discard issuer path }
  | none => s

/-- The task of a path is started unless it has been. -/
def ensureTask (s : Session σ) (path : String) : Session σ :=
  match s.task? path with
  | some _ => s
  | none => { s with
      tasks := s.tasks ++ [(path, ⟨.queued, []⟩)]
      queue := s.queue ++ [.start path] }

/-- A waiter joins those who wait for the unit of a path, and its issuer is noted as waiting for it. -/
def park (s : Session σ) (waiter : Waiter) (path : String) : Session σ :=
  let s := s.modifyTask path fun t => { t with waiters := t.waiters ++ [waiter] }
  match s.issuer? waiter with
  | some issuer => { s with waiting := s.waiting.add issuer path }
  | none => s

/-- A waiter begins to wait for the unit of a path, whose task is started unless it has been. A unit
that is finished needs no waiting: its waiter goes on at once, and with that nobody who shares its
issuer is noted as waiting for the path any more. -/
def wait (s : Session σ) (waiter : Waiter) (path : String) : Session σ :=
  match s.outcome? path with
  | some outcome => (s.stopWaiting waiter path).deliver waiter outcome
  | none => (s.ensureTask path).park waiter path

/-- The unit of a path is finished: all who wait for it will go on. -/
def finish (s : Session σ) (path : String) (outcome : Except Failure Processed) : Session σ :=
  let waiters := ((s.task? path).map BuildTask.waiters).getD []
  (s.modifyTask path fun t => { t with state := .finished outcome }).enqueue
    (waiters.map fun w => .wake w path)

/-! Steps -/

/-- A waiter looks for its unit. One that would wait for itself fails. -/
def seek [UnitSource σ] (s : Session σ) (waiter : Waiter) (reference : String) : Session σ :=
  match UnitSource.locate s.source reference (s.issuer? waiter) with
  | .error f => s.deliver waiter (.error f)
  | .ok path =>
    match (s.issuer? waiter).bind fun issuer => s.waiting.cycle? issuer path with
    | some chain => s.deliver waiter (.error (.dependencyCycle chain))
    | none => s.wait waiter path

/-- The outcome of a unit from the answers to its requests. -/
def assemble (s : Session σ) (path source : String) (unit : Script.Extracted)
    (answers : List Answer) : Except Failure Processed :=
  Processed.ofAnswers s.options s.signer (some path) source unit answers

/-- The task of a unit asks for all its dependencies at once. -/
def expand (s : Session σ) (path source : String) (unit : Script.Extracted) : Session σ :=
  (s.modifyTask path fun t =>
    { t with state := .resolving source unit (.start (some path) unit.dependencies) }).enqueue
    (unit.dependencies.zipIdx.map fun d => .request path d.2)

/-- The first step of a unit's task. -/
def begin [UnitSource σ] (s : Session σ) (path : String) : Session σ :=
  let s := { s with reads := s.reads ++ [path] }
  match UnitSource.read s.source path with
  | .error f => s.finish path (.error f)
  | .ok source =>
    match Script.extract (Processed.fileName (some path)) source with
    | .error f => s.finish path (.error f)
    | .ok unit =>
      if unit.dependencies.isEmpty then s.finish path (s.assemble path source unit [])
      else s.expand path source unit

/-- A request of a unit that resolves its dependencies takes its first step. -/
def request [UnitSource σ] (s : Session σ) (issuer : String) (position : Nat) : Session σ :=
  match s.task? issuer with
  | some ⟨.resolving _ unit _, _⟩ => match unit.dependencies[position]? with
    | some reference => s.seek (.request issuer position) reference
    | none => s
  | _ => s

/-- An answer is noted; the last one lets the unit go on. -/
def settle (s : Session σ) (issuer : String) (position : Nat) (answer : Answer) : Session σ :=
  match s.task? issuer with
  | some ⟨.resolving source unit resolution, _⟩ =>
    let resolution := resolution.settle position answer
    let s := s.modifyTask issuer fun t => { t with state := .resolving source unit resolution }
    if resolution.settled?.isSome then s.enqueue [.resume issuer] else s
  | _ => s

/-- A unit with all answers is finished. -/
def resume (s : Session σ) (path : String) : Session σ :=
  match s.task? path with
  | some ⟨.resolving source unit resolution, _⟩ => match resolution.settled? with
    | some answers => s.finish path (s.assemble path source unit answers)
    | none => s
  | _ => s

/-- A job is done. -/
def step [UnitSource σ] (s : Session σ) : Job → Session σ
  | .call id => match s.calls[id]? with
    | some c => s.seek (.call id) c.reference
    | none => s
  | .start path => s.begin path
  | .request issuer position => s.request issuer position
  | .wake waiter path => match s.outcome? path with
    | some outcome => (s.stopWaiting waiter path).deliver waiter outcome
    | none => s
  | .settle issuer position answer => s.settle issuer position answer
  | .resume path => s.resume path

/-! Runs -/

/-- Does the jobs in the order in which they became ready, until none is left. -/
def runFor [UnitSource σ] : (fuel : Nat) → Session σ → Session σ
  | 0, s => s
  | fuel + 1, s => match s.queue with
    | [] => s
    | job :: rest => runFor fuel ({ s with queue := rest }.step job)

/-- A bound on the requests that the unit of a path makes: each is written in its source. -/
def requestBound [UnitSource σ] (source : σ) (path : String) : Nat :=
  match UnitSource.read source path with
  | .ok text => text.length
  | .error _ => 0

/-- A bound on the jobs to come: three for each request, two for each unit and each call. -/
def jobBound [UnitSource σ] (s : Session σ) : Nat :=
  s.queue.length + 2 * s.calls.length
    + (UnitSource.paths s.source).foldr (fun path n => 3 * requestBound s.source path + 2 + n) 0

/-- Runs a session until no job is left. -/
def run [UnitSource σ] (s : Session σ) : Session σ := runFor s.jobBound s

/-- How a call has ended. -/
def callOutcome? (s : Session σ) (id : Nat) : Option (Except Failure Processed) :=
  s.outcomes.lookup id

/-- The failure of the call that was the first to fail. -/
def firstFailure? (s : Session σ) : Option Failure :=
  s.outcomes.findSome? fun e => match e.2 with
    | .error f => some f
    | .ok _ => none

/-- Builds units side by side, all or none; the first failure counts. -/
def buildAll [UnitSource σ] (s : Session σ) (references : List String) :
    Except Failure (List Processed) :=
  let s := (references.foldl (fun s reference => s.addCall reference none) s).run
  match s.firstFailure? with
  | some f => .error f
  | none => (List.range s.calls.length).mapM fun id => (s.callOutcome? id).getD (.error .unexpected)

end Session

end PersistedOps

import PersistedOps.Build.Session
import PersistedOps.Command.Arguments
import PersistedOps.Logging

/-!
The command line: builds the units it is given, all or none, and writes them out.
-/

namespace PersistedOps.Command

/-- Where a command runs: the environment, the files, and the working directory. -/
structure Setting where
  environment : Environment
  tree : FileTree
  directory : List String
deriving Inhabited

/-- What a command leaves: its exit status, what it wrote to its two outputs, and the files. -/
structure Outcome where
  status : Nat
  output : String
  errors : String
  tree : FileTree
deriving Inhabited

/-- How a command ends: as it should, by showing how it is used, by options that are none, or by a
failure that it does not report. -/
inductive Ending where
  | done (outcome : Outcome)
  | refused (refusal : Refusal)
  | invalid (faults : Options.Invalid)
  | unexpected

/-- The options of a command: flags stand over the environment. -/
def options (a : Arguments) (env : Environment) : Except Options.Invalid Options :=
  Options.ofFields
    ((if a.addTypename then [(Options.addTypenameField, .bool true)] else [])
      ++ if a.preserveLiterals then [(Options.preserveLiteralsField, .bool true)] else []) env

/-- Sets logging up; no unit depends on what it says. -/
def setupLogging (a : Arguments) (s : Setting) : Except Failure Logging.State := do
  let (config, _) ← (Logging.Configuration.choose none s.environment).load s.environment s.tree
    s.directory
  Logging.setup config a.logLevel ⟨.initial, none⟩

/-- The source of the units a command names. -/
def source (a : Arguments) (s : Setting) : DirectorySource :=
  ⟨s.tree, FileTree.absolute s.directory (a.root.getD ".")⟩

/-- A failed command: nothing but a message. -/
def failed (s : Setting) (status : Nat) (message : String) : Ending :=
  .done ⟨status, "", "error: " ++ message ++ "\n", s.tree⟩

/-- A line for each operation: its name and its identifier. -/
def listing (p : Processed) : String :=
  String.join (p.identifiers.map fun e => e.1 ++ "\t" ++ e.2 ++ "\n")

/-- A source with a line end behind it. -/
def printed (p : Processed) : String :=
  if p.source.endsWith "\n" then p.source else p.source ++ "\n"

/-- Writes each unit under a directory, at its path. -/
def writeAll (directory : List String) (target : String) :
    List (String × Processed) → FileTree → Option FileTree
  | [], tree => some tree
  | (path, p) :: rest, tree => do
    writeAll directory target rest (← tree.write directory (Path.join target path) p.source.toUTF8)

/-- Writes built units out. -/
def emit (a : Arguments) (s : Setting) (paths : List String) (units : List Processed) : Ending :=
  if a.list then .done ⟨0, String.join (units.map listing), "", s.tree⟩
  else match a.outDir with
    | none => .done ⟨0, String.join (units.map printed), "", s.tree⟩
    | some target => match writeAll s.directory target (paths.zip units) s.tree with
      | some tree => .done ⟨0, "", "", tree⟩
      | none => .unexpected

/-- Builds units by their paths and writes them out. -/
def build (a : Arguments) (s : Setting) (paths : List String) : Ending :=
  match options a s.environment with
  | .error faults => .invalid faults
  | .ok o => match (Session.start (source a s) o Signer.registry).buildAll paths with
    | .error .unexpected => .unexpected
    | .error f => failed s 1 f.message
    | .ok units => emit a s paths units

/-- Does what parsed arguments ask for. -/
def perform (a : Arguments) (s : Setting) : Ending :=
  match setupLogging a s with
  | .error _ => .unexpected
  | .ok _ =>
    let source := source a s
    match a.units.mapM (source.relative? s.directory) with
    | none => failed s 2
        ("every unit must live under --root (" ++ FileTree.display source.root ++ ")")
    | some paths => build a s paths

/-- Runs a command line. -/
def run (argv : List String) (s : Setting) : Ending :=
  match parse argv with
  | .error refusal => .refused refusal
  | .ok a => perform a s

end PersistedOps.Command

import PersistedOps.Command.Run

/-!
The program: reads the files that a command needs, runs it, and writes what it leaves.
-/

namespace PersistedOps.Main

/-- The variables that a command looks at. -/
def variableNames : List String :=
  [Options.addTypenameField, Options.preserveLiteralsField].flatMap (fun name =>
    [(Options.variablePrefix ++ name).toLower, (Options.variablePrefix ++ name).toUpper])
    ++ Logging.levelVariable :: Logging.pathVariables

def readEnvironment : IO Environment :=
  variableNames.filterMapM fun name => do return (← IO.getEnv name).map (name, ·)

/-- The content of a file that can be read. -/
def readFile? (location : List String) : IO (Option ByteArray) := do
  try
    return some (← IO.FS.readBinFile (FileTree.display location))
  catch _ => return none

/-- Adds the file at a path to a tree, if there is one. -/
def load (directory : List String) (path : String) (tree : FileTree) : IO FileTree := do
  let location := FileTree.absolute directory path
  match ← readFile? location with
  | some content => return tree.put location content
  | none => return tree

/-- The references that a located unit makes, as far as it can be read. -/
def referencesOf (source : DirectorySource) (path : String) : List (String × Option String) :=
  match source.read path with
  | .ok text => match Script.extract path text with
    | .ok unit => unit.dependencies.map fun reference => (reference, some path)
    | .error _ => []
  | .error _ => []

/-- Loads the units that references name, with those that they require. -/
partial def loadUnits (source : DirectorySource) (seen : List String) :
    List (String × Option String) → IO DirectorySource
  | [] => return source
  | (reference, issuer) :: rest => do
    let candidates := match Reference.join reference issuer with
      | .ok path => Reference.candidates path
      | .error _ => []
    let tree ← candidates.foldlM (fun tree path => load source.root path tree) source.tree
    let source := { source with tree }
    match source.locate reference issuer with
    | .ok path =>
      if path ∈ seen then loadUnits source seen rest
      else loadUnits source (path :: seen) (rest ++ referencesOf source path)
    | .error _ => loadUnits source seen rest

/-- The files that a command may need. -/
def loadSetting (a : Command.Arguments) : IO Command.Setting := do
  let environment ← readEnvironment
  let directory := FileTree.stepNames (← IO.currentDir).toString
  let start : Command.Setting := ⟨environment, ⟨[], [directory]⟩, directory⟩
  let tree ← match (Logging.Configuration.choose none environment).path with
    | some path => load directory path start.tree
    | none => pure start.tree
  let source := Command.source a { start with tree }
  let references := a.units.filterMap (source.relative? directory)
  let loaded ← loadUnits source [] (references.map (·, none))
  return { start with tree := loaded.tree }

/-- Writes the files of a tree that another tree does not hold. -/
def writeChanges (before after : FileTree) : IO Unit :=
  after.files.forM fun f => do
    if (before.file? f.1).map ByteArray.toList ≠ some f.2.toList then
      IO.FS.createDirAll (FileTree.display f.1.dropLast)
      IO.FS.writeBinFile (FileTree.display f.1) f.2

def usage : String :=
  "usage: persisted-ops [-h] [--root ROOT] [--out-dir OUT_DIR] [--add-typename]\n"
    ++ "    [--preserve-literals] [--list] [--log-level LOG_LEVEL] units [units ...]\n"

/-- Ends a command. -/
def conclude (before : FileTree) : Command.Ending → IO UInt32
  | .done outcome => do
    writeChanges before outcome.tree
    (← IO.getStdout).putStr outcome.output
    (← IO.getStderr).putStr outcome.errors
    return outcome.status.toUInt32
  | .refused refusal => do
    (← if refusal = .help then IO.getStdout else IO.getStderr).putStr usage
    return refusal.status.toUInt32
  | .invalid faults => do
    faults.forM fun e => do
      (← IO.getStderr).putStrLn (e.1 ++ ": " ++ e.2.label)
    return 1
  | .unexpected => do
    (← IO.getStderr).putStrLn "unexpected failure"
    return 1

end PersistedOps.Main

open PersistedOps in
def main (argv : List String) : IO UInt32 := do
  match Command.parse argv with
  | .error refusal => Main.conclude default (.refused refusal)
  | .ok a =>
    let setting ← Main.loadSetting a
    Main.conclude setting.tree (Command.run argv setting)

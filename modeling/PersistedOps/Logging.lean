import PersistedOps.Failure
import PersistedOps.Json.Reader
import PersistedOps.Options
import PersistedOps.Source.Directory

/-!
The logging of a build: which configuration applies, and the levels that loggers have under it. A
logger without a level of its own takes that of the nearest logger above it.
-/

namespace PersistedOps.Logging

/-! Levels -/

/-- The levels that have a name; of two names of one level the first is shown. -/
def levelNames : List (String × Int) := [
  ("CRITICAL", 50), ("FATAL", 50), ("ERROR", 40), ("WARNING", 30), ("WARN", 30), ("INFO", 20),
  ("DEBUG", 10), ("NOTSET", 0)]

def levelNamed? (name : String) : Option Int := levelNames.lookup name

def levelLabel (level : Int) : String :=
  match levelNames.find? fun e => e.2 = level with
  | some e => e.1
  | none => "Level " ++ toString level

/-! Loggers -/

/-- The logger above all loggers of builds. -/
def parentName : String := "prefect"

def packageName : String := "graphql_persisted_document"

/-- The names by which the loggers of builds are asked for. -/
def packageNames : List String :=
  [packageName, packageName ++ ".documents", packageName ++ ".loader"]

/-- The full name of the logger that a name asks for. -/
def fullName (name : String) : String :=
  if name = "" then parentName
  else if (parentName ++ ".").toList.isPrefixOf name.toList then name
  else parentName ++ "." ++ name

/-- Whether a logger stands below another. -/
def isBelow (name above : String) : Bool := (above ++ ".").toList.isPrefixOf name.toList

/-- The loggers there are with their levels, zero when they have none, and the root's level. -/
structure Loggers where
  levels : List (String × Int)
  root : Int
deriving DecidableEq, Repr, Inhabited

namespace Loggers

def levelOf (l : Loggers) (name : String) : Int := (l.levels.lookup name).getD 0

def setLevel (l : Loggers) (name : String) (level : Int) : Loggers :=
  { l with levels := Json.put l.levels name level }

/-- The names above a name with their dots, nearest first. -/
def above (name : String) : List String :=
  let pieces := name.splitOn "."
  ((List.range pieces.length).map fun n => ".".intercalate (pieces.take n)).reverse.dropLast

/-- The level that counts for a logger. -/
def effective (l : Loggers) (name : String) : Int :=
  match (name :: above name).find? fun n => l.levelOf n ≠ 0 with
  | some n => l.levelOf n
  | none => l.root

/-- The loggers before anything is configured. -/
def initial : Loggers := ⟨packageNames.map fun n => (fullName n, 0), 30⟩

end Loggers

/-! Configurations -/

/-- A level as a configuration gives it: a number or a name. -/
def levelOf? : Json → Option Int
  | .int n => some n
  | .bool b => some (if b then 1 else 0)
  | .str name => levelNamed? name
  | _ => none

/-- The level that an entry sets, if it sets one; `none` when it is malformed. -/
def entryLevel (entry : Json) : Option (Option Int) :=
  match entry with
  | .obj fields => match fields.lookup "level" with
    | none | some .null => some none
    | some level => (levelOf? level).map some
  | _ => none

/-- Whether an entry uses only handlers that are there. -/
def handlersFit (handlers : List String) (entry : Json) : Bool :=
  match entry.get? "handlers" with
  | none | some .null => true
  | some (.arr names) => names.all fun n => n.str?.any (· ∈ handlers)
  | some (.obj fields) => fields.all fun e => e.1 ∈ handlers
  | some (.str "") => true
  | some _ => false

/-- The entries of a section; none when it is absent. -/
def sectionOf (config : Json) (name : String) : Option (List (String × Json)) :=
  match config.get? name with
  | none => some []
  | some (.obj fields) => some fields
  | some _ => none

/-- Loggers that are not configured themselves but stand below one that is lose their level. -/
def resetBelow (configured : List String) (l : Loggers) : Loggers :=
  { l with levels := l.levels.map fun e =>
      if e.1 ∉ configured ∧ configured.any (isBelow e.1) then (e.1, 0) else e }

/-- Gives loggers their configured levels. -/
def setLevels (handlers : List String) :
    List (String × Json) → Loggers → Option Loggers
  | [], l => some l
  | (name, entry) :: rest, l => do
    let level ← entryLevel entry
    if handlersFit handlers entry then
      setLevels handlers rest (l.setLevel name (level.getD (l.levelOf name)))
    else none

/-- Whether a configuration is of the one version there is. -/
def isVersioned (config : Json) : Bool :=
  match config.get? "version" with
  | some (.int n) => n == 1
  | some (.bool b) => b
  | some (.float x) => x.eqInt 1
  | _ => false

/-- What a configuration makes of the loggers; `none` when it is malformed. -/
def configure (config : Json) (l : Loggers) : Option Loggers := do
  if !isVersioned config then none
  let handlerEntries ← sectionOf config "handlers"
  let _ ← handlerEntries.mapM fun e => entryLevel e.2
  let handlers := handlerEntries.map (·.1)
  let entries ← sectionOf config "loggers"
  let l ← setLevels handlers entries l
  let l := resetBelow (entries.map (·.1)) l
  match config.get? "root" with
  | none | some .null => some l
  | some (.obj []) => some l
  | some entry => do
    let level ← entryLevel entry
    if handlersFit handlers entry then some { l with root := level.getD l.root } else none

/-- The variables that name a configuration file, the stronger first. -/
def pathVariables : List String :=
  ["GRAPHQL_PERSISTED_LOGGING_CONFIG", "PREFECT_LOGGING_SETTINGS_PATH"]

/-- The variable of the level of builds where no file says otherwise. -/
def levelVariable : String := "GRAPHQL_PERSISTED_LOG_LEVEL"

/-- The configuration where there is no file: builds write to standard error. -/
def defaultConfiguration (env : Environment) : Json :=
  .obj [("version", .int 1), ("disable_existing_loggers", .bool false),
    ("formatters", .obj [("standard", .obj [
      ("format", .str "%(asctime)s.%(msecs)03d | %(levelname)-7s | %(name)s - %(message)s"),
      ("datefmt", .str "%H:%M:%S")])]),
    ("handlers", .obj [("console", .obj [("class", .str "logging.StreamHandler"),
      ("formatter", .str "standard"), ("stream", .str "ext://sys.stderr")])]),
    ("loggers", .obj [(fullName packageName, .obj [
      ("level", .str ((env.get? levelVariable).getD "INFO")), ("handlers", .arr [.str "console"]),
      ("propagate", .bool false)])]),
    ("root", .obj [("level", .str "WARNING"), ("handlers", .arr [.str "console"])])]

/-- A configuration that is read at most once. -/
structure Configuration where
  path : Option String
  loaded : Option Json
deriving Inhabited

namespace Configuration

/-- A path as it is shown: without needless components. -/
def shownPath (path : String) : String :=
  let shown := String.ofList (List.replicate (Path.leadingSlashes path) '/')
    ++ Path.ofComponents (FileTree.stepNames path)
  if shown = "" then "." else shown

/-- The configuration of an explicit path, or else of the first variable that names one. -/
def choose (explicit : Option String) (env : Environment) : Configuration :=
  let named := pathVariables.findSome? fun v => (env.get? v).filter (· ≠ "")
  ⟨(explicit <|> named).map shownPath, none⟩

/-- The configuration in a file. -/
def ofFile (content : ByteArray) : Except Failure Json :=
  match (String.fromUTF8? content).bind Json.read with
  | none | some .null => .error .unexpected
  | some config => .ok config

/-- Reads the configuration unless it has been read. A file that is not there stands for the default
configuration. -/
def load (c : Configuration) (env : Environment) (tree : FileTree) (directory : List String) :
    Except Failure (Json × Configuration) :=
  match c.loaded with
  | some config => .ok (config, c)
  | none => do
    let config ← match c.path.map (tree.find directory) with
      | some (.file content) => ofFile content
      | some .directory => throw .unexpected
      | _ => pure (defaultConfiguration env)
    return (config, { c with loaded := some config })

end Configuration

/-! Setting up -/

/-- The loggers, and the level exported to other programs. -/
structure State where
  loggers : Loggers
  exported : Option String
deriving DecidableEq, Repr, Inhabited

/-- Exports the level that a configuration gives to the parent logger, unless one is exported. -/
def exportLevel (config : Json) (exported : Option String) : Except Failure (Option String) :=
  match (config.get? "loggers").bind (·.get? parentName) with
  | none => .ok exported
  | some entry => match exported, (entry.get? "level").getD (.str "INFO") with
    | some level, _ => .ok (some level)
    | none, .str level => .ok (some level)
    | none, _ => .error .unexpected

/-- Gives every logger of builds a level, which is exported. -/
def override (level : String) (s : State) : Except Failure State :=
  match levelNamed? level with
  | none => .error .unexpected
  | some n => .ok ⟨packageNames.foldl (fun l name => l.setLevel (fullName name) n) s.loggers,
      some level⟩

/-- Applies a configuration, and then a level if one is given. -/
def setup (config : Json) (level : Option String) (s : State) : Except Failure State :=
  match configure config s.loggers with
  | none => .error .unexpected
  | some loggers => do
    let s : State := ⟨loggers, ← exportLevel config s.exported⟩
    match level with
    | none => return s
    | some level => if level = "" then return s else override level s

end PersistedOps.Logging

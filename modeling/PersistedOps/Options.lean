import PersistedOps.Json.Basic
import PersistedOps.Text.Camel

/-!
The options of a build. A value is given explicitly or by an environment variable, or is false.
-/

namespace PersistedOps

/-- Environment variables; of two of one name the later counts. -/
abbrev Environment := List (String × String)

namespace Environment

/-- The value of a variable of exactly this name. -/
def get? (env : Environment) (name : String) : Option String :=
  (env.reverse.find? fun e => e.1 = name).map (·.2)

/-- The value of a variable whose name is this up to case. -/
def getAnyCase? (env : Environment) (name : String) : Option String :=
  (env.reverse.find? fun e => e.1.toLower = name.toLower).map (·.2)

end Environment

/-- How a value fails to be a boolean: it may be of a type that holds booleans and be none, or be of
another type. -/
inductive BooleanFault where
  | parsing | type
deriving DecidableEq, Repr

def BooleanFault.label : BooleanFault → String
  | parsing => "bool_parsing"
  | type => "bool_type"

namespace Boolean

/-- The words for false and true, in any case. -/
def falseWords : List String := ["0", "off", "f", "false", "n", "no"]

def trueWords : List String := ["1", "on", "t", "true", "y", "yes"]

def ofText (s : String) : Except BooleanFault Bool :=
  if s.toLower ∈ falseWords then .ok false
  else if s.toLower ∈ trueWords then .ok true
  else .error .parsing

/-- Booleans, their words, and the numbers 0 and 1. -/
def ofJson : Json → Except BooleanFault Bool
  | .bool b => .ok b
  | .int n => if n = 0 then .ok false else if n = 1 then .ok true else .error .parsing
  | .float x =>
    if x.eqInt 0 then .ok false
    else if x.eqInt 1 then .ok true
    else if x.isWhole then .error .parsing
    else .error .type
  | .str s => ofText s
  | _ => .error .type

end Boolean

/-- What a build does beyond the plain signing. -/
structure Options where
  addTypename : Bool := false
  preserveLiterals : Bool := false
deriving DecidableEq, Repr, Inhabited

namespace Options

/-- The names of the two options. -/
def addTypenameField : String := "add_typename"

def preserveLiteralsField : String := "preserve_string_and_numeric_literals"

/-- What environment variables of options begin with. -/
def variablePrefix : String := "GRAPHQL_PERSISTED_"

/-- The options that have no boolean value, each with its fault. -/
abbrev Invalid := List (String × BooleanFault)

/-- One option: the last explicit value, else the environment's, else false. -/
def field (explicit : List (String × Json)) (env : Environment) (name : String) :
    Except BooleanFault Bool :=
  match (explicit.reverse.find? fun e => e.1 = name).map (·.2) with
  | some value => Boolean.ofJson value
  | none => match env.getAnyCase? (variablePrefix ++ name) with
    | some text => Boolean.ofText text
    | none => .ok false

/-- Options from explicit values, under an environment; other names are passed over. -/
def ofFields (explicit : List (String × Json)) (env : Environment) : Except Invalid Options :=
  match field explicit env addTypenameField, field explicit env preserveLiteralsField with
  | .ok a, .ok p => .ok ⟨a, p⟩
  | .error a, .ok _ => .error [(addTypenameField, a)]
  | .ok _, .error p => .error [(preserveLiteralsField, p)]
  | .error a, .error p => .error [(addTypenameField, a), (preserveLiteralsField, p)]

/-- The options of an environment alone. -/
def ofEnvironment (env : Environment) : Except Invalid Options := ofFields [] env

/-- Options from a mapping whose names may have humps or underscores. -/
def ofMapping (values : List (String × Json)) (env : Environment) : Except Invalid Options :=
  ofFields (values.map fun e => (Camel.toSnake e.1, e.2)) env

end Options

end PersistedOps

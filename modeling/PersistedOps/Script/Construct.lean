/-!
The constructs of the unit language, by the names that messages use.
-/

namespace PersistedOps.Script

/-- Statements outside the subset that units may use. -/
inductive StatementKind where
  | functionDef | asyncFunctionDef | classDef | returnStmt | deleteStmt | annAssign | forStmt
  | asyncFor | whileStmt | ifStmt | withStmt | asyncWith | matchStmt | raiseStmt | tryStmt
  | tryStar | assertStmt | importStmt | importFrom | globalStmt | nonlocalStmt | breakStmt
  | continueStmt
deriving DecidableEq, Repr, Inhabited

def StatementKind.label : StatementKind → String
  | .functionDef => "FunctionDef"
  | .asyncFunctionDef => "AsyncFunctionDef"
  | .classDef => "ClassDef"
  | .returnStmt => "Return"
  | .deleteStmt => "Delete"
  | .annAssign => "AnnAssign"
  | .forStmt => "For"
  | .asyncFor => "AsyncFor"
  | .whileStmt => "While"
  | .ifStmt => "If"
  | .withStmt => "With"
  | .asyncWith => "AsyncWith"
  | .matchStmt => "Match"
  | .raiseStmt => "Raise"
  | .tryStmt => "Try"
  | .tryStar => "TryStar"
  | .assertStmt => "Assert"
  | .importStmt => "Import"
  | .importFrom => "ImportFrom"
  | .globalStmt => "Global"
  | .nonlocalStmt => "Nonlocal"
  | .breakStmt => "Break"
  | .continueStmt => "Continue"

/-- Every kind of expression. -/
inductive ExpressionKind where
  | boolOp | namedExpr | binOp | unaryOp | lambdaExpr | ifExp | setDisplay | listComp | setComp
  | dictComp | generatorExp | awaited | yielded | yieldedFrom | compare | call | joinedStr
  | constant | attribute | subscript | starred | name | listDisplay | tupleDisplay
  | dictDisplay | slice
deriving DecidableEq, Repr, Inhabited

def ExpressionKind.label : ExpressionKind → String
  | .boolOp => "BoolOp"
  | .namedExpr => "NamedExpr"
  | .binOp => "BinOp"
  | .unaryOp => "UnaryOp"
  | .lambdaExpr => "Lambda"
  | .ifExp => "IfExp"
  | .setDisplay => "Set"
  | .listComp => "ListComp"
  | .setComp => "SetComp"
  | .dictComp => "DictComp"
  | .generatorExp => "GeneratorExp"
  | .awaited => "Await"
  | .yielded => "Yield"
  | .yieldedFrom => "YieldFrom"
  | .compare => "Compare"
  | .call => "Call"
  | .joinedStr => "JoinedStr"
  | .constant => "Constant"
  | .attribute => "Attribute"
  | .subscript => "Subscript"
  | .starred => "Starred"
  | .name => "Name"
  | .listDisplay => "List"
  | .tupleDisplay => "Tuple"
  | .dictDisplay => "Dict"
  | .slice => "Slice"

/-- The operators of augmented assignments. -/
inductive Operator where
  | add | sub | mult | matMult | div | mod | pow | lShift | rShift | bitOr | bitXor | bitAnd
  | floorDiv
deriving DecidableEq, Repr, Inhabited

def Operator.label : Operator → String
  | .add => "Add"
  | .sub => "Sub"
  | .mult => "Mult"
  | .matMult => "MatMult"
  | .div => "Div"
  | .mod => "Mod"
  | .pow => "Pow"
  | .lShift => "LShift"
  | .rShift => "RShift"
  | .bitOr => "BitOr"
  | .bitXor => "BitXor"
  | .bitAnd => "BitAnd"
  | .floorDiv => "FloorDiv"

/-- The sign of an augmented assignment. -/
def Operator.sign : Operator → String
  | .add => "+="
  | .sub => "-="
  | .mult => "*="
  | .matMult => "@="
  | .div => "/="
  | .mod => "%="
  | .pow => "**="
  | .lShift => "<<="
  | .rShift => ">>="
  | .bitOr => "|="
  | .bitXor => "^="
  | .bitAnd => "&="
  | .floorDiv => "//="

end PersistedOps.Script

import PersistedOps.Document.Decode
import PersistedOps.Script.Construct

/-!
Why a unit cannot be evaluated to a document, and how each reason is worded.
-/

namespace PersistedOps.Script

/-- Why a subscript has no value. -/
inductive SubscriptFault where
  | missingKey
  | listRange
  | textRange
  | hugeIndex
  | listIndexType (typeName : String)
  | textIndexType (typeName : String)
  | unhashable (typeName : String)
  | notSubscriptable (typeName : String)
deriving DecidableEq, Repr

/-- The wording of the reason, given the shown key. -/
def SubscriptFault.message (key : String) : SubscriptFault → String
  | missingKey => key
  | listRange => "list index out of range"
  | textRange => "string index out of range"
  | hugeIndex => "cannot fit 'int' into an index-sized integer"
  | listIndexType t => "list indices must be integers or slices, not " ++ t
  | textIndexType t => "string indices must be integers, not '" ++ t ++ "'"
  | unhashable t => "unhashable type: '" ++ t ++ "'"
  | notSubscriptable t => "'" ++ t ++ "' object is not subscriptable"

inductive Fault where
  | invalidSource
  | unsupportedStatement (kind : StatementKind)
  | unsupportedExpression (kind : ExpressionKind)
  | unsupportedOperator (operator : Operator)
  | unsupportedLiteral (typeName : String)
  | unsupportedTarget (kind : ExpressionKind)
  | rebindRequire
  | unhashableKey (typeName : String)
  | indexOutOfRange (key : String)
  | cannotAssignInto (typeName : String)
  | minusNeedsNumber
  | cannotUnpack (typeName : String)
  | starred
  | unknownName (name : String)
  | invalidSubscript (key : String) (reason : SubscriptFault)
  | onlyRequireCalls
  | requireArguments
  | requireText
  | cannotAdd (left right : String)
  | noExports
  | notDocument (reason : String)
  | reported (text : String)
deriving DecidableEq, Repr

def Fault.message : Fault → String
  | invalidSource => "Invalid unit source"
  | unsupportedStatement k => "Unsupported statement: " ++ k.label
  | unsupportedExpression k => "Unsupported expression: " ++ k.label
  | unsupportedOperator o => "Unsupported augmented operator: " ++ o.label
  | unsupportedLiteral t => "Unsupported literal: " ++ t
  | unsupportedTarget k => "Unsupported assignment target: " ++ k.label
  | rebindRequire => "Cannot rebind require"
  | unhashableKey t => "Unhashable key: " ++ t
  | indexOutOfRange key => "List index out of range: " ++ key
  | cannotAssignInto t => "Cannot assign into " ++ t
  | minusNeedsNumber => "Unary minus requires a number"
  | cannotUnpack t => "Cannot unpack " ++ t ++ " into a dict"
  | starred => "Starred expressions are not supported"
  | unknownName name => "Unknown name: " ++ name
  | invalidSubscript key reason => "Invalid subscript " ++ key ++ ": " ++ reason.message key
  | onlyRequireCalls => "Only require() may be called"
  | requireArguments => "require() takes exactly one positional argument"
  | requireText => "require() expects a non-empty string reference"
  | cannotAdd l r => "Cannot add " ++ l ++ " and " ++ r
  | noExports => "Unit does not bind 'exports'"
  | notDocument reason => reason
  | reported text => text

end PersistedOps.Script

import PersistedOps.Build.Processed
import PersistedOps.Build.Resolution
import PersistedOps.Build.Session
import PersistedOps.Build.Session.Waiting
import PersistedOps.Build.Signing
import PersistedOps.Command.Arguments
import PersistedOps.Command.Run
import PersistedOps.Digest.Sha256
import PersistedOps.Document.Decode
import PersistedOps.Document.Kind
import PersistedOps.Document.Literals
import PersistedOps.Document.Merge
import PersistedOps.Document.Printer
import PersistedOps.Document.Separate
import PersistedOps.Document.Signature
import PersistedOps.Document.Sort
import PersistedOps.Document.Tree
import PersistedOps.Document.Typename
import PersistedOps.Document.Walk
import PersistedOps.Failure
import PersistedOps.Json.Basic
import PersistedOps.Json.Reader
import PersistedOps.Logging
import PersistedOps.Main
import PersistedOps.Number.Binary64
import PersistedOps.Number.Shortest
import PersistedOps.Options
import PersistedOps.Path
import PersistedOps.Scalar
import PersistedOps.Script.Construct
import PersistedOps.Script.Evaluate
import PersistedOps.Script.Extract
import PersistedOps.Script.Fault
import PersistedOps.Script.Grammar
import PersistedOps.Script.Grammar.Basic
import PersistedOps.Script.Grammar.Display
import PersistedOps.Script.Grammar.Operation
import PersistedOps.Script.Grammar.Parameter
import PersistedOps.Script.Grammar.Pattern
import PersistedOps.Script.Grammar.Primary
import PersistedOps.Script.Grammar.Statement
import PersistedOps.Script.Heap
import PersistedOps.Script.Lexer
import PersistedOps.Script.Numeral
import PersistedOps.Script.Parse
import PersistedOps.Script.Peg
import PersistedOps.Script.Statement
import PersistedOps.Script.Syntax
import PersistedOps.Script.TextLiteral
import PersistedOps.Script.Token
import PersistedOps.Source.Directory
import PersistedOps.Source.FileTree
import PersistedOps.Source.Memory
import PersistedOps.Source.Reference
import PersistedOps.Text.Blank
import PersistedOps.Text.Camel
import PersistedOps.Text.CharacterName
import PersistedOps.Text.CharacterName.Table
import PersistedOps.Text.Hex
import PersistedOps.Text.Identifier
import PersistedOps.Text.JsonQuoted
import PersistedOps.Text.Normalization
import PersistedOps.Text.Normalization.Tables
import PersistedOps.Text.Pieces
import PersistedOps.Text.Printable
import PersistedOps.Text.Quoted
import PersistedOps.Text.Ranges
import PersistedOps.Proofs.Session.Schedule
import PersistedOps.Proofs.Waiting.Search
import PersistedOps.Proofs.Waiting
import PersistedOps.Proofs.Session.Account
import PersistedOps.Proofs.Session.Move
import PersistedOps.Proofs.Session.Waiting
import PersistedOps.Proofs.Build.Recursive
import PersistedOps.Proofs.Session.Carried
import PersistedOps.Proofs.Session.Outcome
import PersistedOps.Proofs.Session.Recursive
import PersistedOps.Proofs.Session.Progress
import PersistedOps.Proofs.Session.Cycle
import PersistedOps.Proofs.Session.Shared
import PersistedOps.Proofs.Document.Lexeme
import PersistedOps.Proofs.Document.Restore
import PersistedOps.Proofs.Document.Line
import PersistedOps.Proofs.Document.WellFormed
import PersistedOps.Proofs.Document.Numeral
import PersistedOps.Proofs.Document.Layout
import PersistedOps.Proofs.Document.Spelling
import PersistedOps.Proofs.Document.Parts
import PersistedOps.Proofs.Document.Printing
import PersistedOps.Proofs.Document.Reading
import PersistedOps.Proofs.Document.Strings
import PersistedOps.Proofs.Document.Distinct
import PersistedOps.Proofs.Document.Lexer
import PersistedOps.Proofs.Document.Lexing
import PersistedOps.Proofs.Document.Reduction
import PersistedOps.Proofs.Results
import PersistedOps.Proofs.Entries
import PersistedOps.Proofs.Document.Sorting
import PersistedOps.Proofs.Document.Traversal
import PersistedOps.Proofs.Document.Signable
import PersistedOps.Proofs.Document.Revision
import PersistedOps.Proofs.Document.Typename
import PersistedOps.Proofs.Document.Executable
import PersistedOps.Proofs.Document.Filled
import PersistedOps.Proofs.Document.Canonical
import PersistedOps.Proofs.Document.Separation
import PersistedOps.Proofs.Document.Closure
import PersistedOps.Proofs.Document.Reachable
import PersistedOps.Proofs.Build.Signing
import PersistedOps.Proofs.Document.Rearranged
import PersistedOps.Proofs.Document.Alike
import PersistedOps.Proofs.Document.SelectionOrder
import PersistedOps.Proofs.Document.Literals
import PersistedOps.Proofs.Document.Hidden
import PersistedOps.Proofs.Document.Permuted
import PersistedOps.Proofs.Document.Ordered
import PersistedOps.Proofs.Document.SameUpTo
import PersistedOps.Proofs.Document.Sequence
import PersistedOps.Proofs.Build.Attached
import PersistedOps.Proofs.Script.Attachment
import PersistedOps.Proofs.Script.Lexer
import PersistedOps.Proofs.Session.Gather
import PersistedOps.Proofs.Source.FileTree
import PersistedOps.Proofs.Source.LineEnds
import PersistedOps.Proofs.Source.Names
import PersistedOps.Proofs.Command.Written
import PersistedOps.Proofs.Document.Descent
import PersistedOps.Proofs.Document.Decoding
import PersistedOps.Proofs.Script.Store
import PersistedOps.Proofs.Script.Circular
import PersistedOps.Proofs.Script.Matching
import PersistedOps.Proofs.Script.Extension
import PersistedOps.Proofs.Script.Execution
import PersistedOps.Proofs.Script.Following
import PersistedOps.Proofs.Script.Agreement
import PersistedOps.Proofs.Document.Merging
import PersistedOps.Proofs.Build.Coverage
import PersistedOps.Proofs.Document.Directed
import PersistedOps.Proofs.Build.Completion
import PersistedOps.Proofs.Script.Quoted
import PersistedOps.Proofs.Script.Appended
import PersistedOps.Proofs.Document.Foreign
import PersistedOps.Proofs.Script.Lines
import PersistedOps.Proofs.Script.Runs
import PersistedOps.Proofs.Script.Identified
import PersistedOps.Proofs.Script.Calls
import PersistedOps.Proofs.Script.Repeated
import PersistedOps.Proofs.Script.Order
import PersistedOps.Proofs.Script.Independent
import PersistedOps.Proofs.Script.Exchanged
import PersistedOps.Proofs.Document.Encoded
import PersistedOps.Proofs.Script.Characters
import PersistedOps.Proofs.Document.Convertible
import PersistedOps.Proofs.Source.Confined
import PersistedOps.Proofs.Source.Memory
import PersistedOps.Proofs.Command.Ends
import PersistedOps.Proofs.Build.Again

import HandlerGuard.CallSite.Basic
import HandlerGuard.CallSite.Guarding
import HandlerGuard.CallSite.Listing
import HandlerGuard.Command.Arguments
import HandlerGuard.Command.Log
import HandlerGuard.Command.Notice
import HandlerGuard.Command.Program
import HandlerGuard.Command.Run
import HandlerGuard.Decimal.Binary64
import HandlerGuard.Glob.Expression
import HandlerGuard.Glob.Matching
import HandlerGuard.Glob.Pattern
import HandlerGuard.Json.Number
import HandlerGuard.Json.Printer
import HandlerGuard.Json.Quoted
import HandlerGuard.Json.Reader
import HandlerGuard.LogFilter
import HandlerGuard.LogFilter.Level
import HandlerGuard.LogFilter.Message
import HandlerGuard.LogFilter.Rule
import HandlerGuard.LogFilter.ValuePattern
import HandlerGuard.Main
import HandlerGuard.ModuleFilter
import HandlerGuard.ModuleId
import HandlerGuard.Patch.Basic
import HandlerGuard.Patch.Segment
import HandlerGuard.Position
import HandlerGuard.Proofs.CallSite.Branch
import HandlerGuard.Proofs.CallSite.Coverage
import HandlerGuard.Proofs.CallSite.Disjointness
import HandlerGuard.Proofs.CallSite.Guarding
import HandlerGuard.Proofs.CallSite.Occurrence
import HandlerGuard.Proofs.CallSite.Ordering
import HandlerGuard.Proofs.CallSite.Placement
import HandlerGuard.Proofs.CallSite.Repetition
import HandlerGuard.Proofs.CallSite.Settling
import HandlerGuard.Proofs.Command.Checking
import HandlerGuard.Proofs.Command.Effects
import HandlerGuard.Proofs.Command.Logging
import HandlerGuard.Proofs.Command.Scanning
import HandlerGuard.Proofs.Json.Printing
import HandlerGuard.Proofs.Json.Reading
import HandlerGuard.Proofs.LineIndex
import HandlerGuard.Proofs.ModuleId
import HandlerGuard.Proofs.Patch.Acceptance
import HandlerGuard.Proofs.Patch.Commutation
import HandlerGuard.Proofs.Patch.History
import HandlerGuard.Proofs.Patch.Recording
import HandlerGuard.Proofs.Patch.Rendering
import HandlerGuard.Proofs.Patch.Splicing
import HandlerGuard.Proofs.Patch.Tiling
import HandlerGuard.Proofs.Position
import HandlerGuard.Proofs.Script.Extent
import HandlerGuard.Proofs.Script.Grammar.Expression
import HandlerGuard.Proofs.Script.Grammar.Statement
import HandlerGuard.Proofs.Script.Grammar.Type
import HandlerGuard.Proofs.Script.Keeping
import HandlerGuard.Proofs.Script.Path
import HandlerGuard.Proofs.Script.Relexing
import HandlerGuard.Proofs.Settings.Leaf
import HandlerGuard.Proofs.Settings.Merging
import HandlerGuard.Proofs.Settings.Precedence
import HandlerGuard.Proofs.Settings.Variables
import HandlerGuard.Proofs.SourceMap.Decoding
import HandlerGuard.Proofs.SourceMap.Mapping
import HandlerGuard.Proofs.SourceMap.Placement
import HandlerGuard.Proofs.SourceMap.Resolution
import HandlerGuard.Proofs.SourceMap.RoundTrip
import HandlerGuard.Proofs.SourceMap.Vlq
import HandlerGuard.Proofs.Target.Validation
import HandlerGuard.Proofs.Text.Infix
import HandlerGuard.Proofs.Text.Slice
import HandlerGuard.Proofs.Text.Utf8
import HandlerGuard.Proofs.Text.Weaving
import HandlerGuard.Proofs.Toml.Documents
import HandlerGuard.Proofs.Transform.Agreement
import HandlerGuard.Proofs.Transform.Candidate
import HandlerGuard.Proofs.Transform.Completion
import HandlerGuard.Proofs.Transform.ImportPlace
import HandlerGuard.Proofs.Transform.Insertion
import HandlerGuard.Proofs.Transform.Rerun
import HandlerGuard.Proofs.Workspace
import HandlerGuard.Script.Character
import HandlerGuard.Script.Grammar.Arrow
import HandlerGuard.Script.Grammar.Basic
import HandlerGuard.Script.Grammar.Class
import HandlerGuard.Script.Grammar.Declaration
import HandlerGuard.Script.Grammar.Expression
import HandlerGuard.Script.Grammar.Function
import HandlerGuard.Script.Grammar.Knot
import HandlerGuard.Script.Grammar.Literal
import HandlerGuard.Script.Grammar.Markup
import HandlerGuard.Script.Grammar.Module
import HandlerGuard.Script.Grammar.Name
import HandlerGuard.Script.Grammar.Pattern
import HandlerGuard.Script.Grammar.Relexing
import HandlerGuard.Script.Grammar.Rule
import HandlerGuard.Script.Grammar.Statement
import HandlerGuard.Script.Grammar.Type
import HandlerGuard.Script.Language
import HandlerGuard.Script.Lexeme.Basic
import HandlerGuard.Script.Lexeme.Name
import HandlerGuard.Script.Lexeme.Number
import HandlerGuard.Script.Lexeme.Quoted
import HandlerGuard.Script.Lexer
import HandlerGuard.Script.NameTable
import HandlerGuard.Script.Program
import HandlerGuard.Script.Token
import HandlerGuard.Script.Tree
import HandlerGuard.Settings.Decoding
import HandlerGuard.Settings.Environment
import HandlerGuard.Settings.Layer
import HandlerGuard.Settings.Loading
import HandlerGuard.Settings.Value
import HandlerGuard.SourceMap.Basic
import HandlerGuard.SourceMap.Mapping
import HandlerGuard.SourceMap.Vlq
import HandlerGuard.Target.Basic
import HandlerGuard.Target.Validation
import HandlerGuard.Text.Alphanumeric
import HandlerGuard.Text.Basic
import HandlerGuard.Text.Blank
import HandlerGuard.Text.Identifier
import HandlerGuard.Text.Printable
import HandlerGuard.Text.Quoted
import HandlerGuard.Text.Utf8
import HandlerGuard.Toml.Blank
import HandlerGuard.Toml.Document
import HandlerGuard.Toml.Moment
import HandlerGuard.Toml.Number
import HandlerGuard.Toml.Printer
import HandlerGuard.Toml.Quoted
import HandlerGuard.Toml.Reader
import HandlerGuard.Transform
import HandlerGuard.Workspace

import Ghostwriter.Cache.Basic
import Ghostwriter.Cache.Event
import Ghostwriter.Cache.Key
import Ghostwriter.CommandLine.Arguments
import Ghostwriter.CommandLine.Command
import Ghostwriter.CommandLine.Manual
import Ghostwriter.CommandLine.Run
import Ghostwriter.Directive.EntryPoint
import Ghostwriter.Directive.Find
import Ghostwriter.Directive.Options
import Ghostwriter.Directive.Site
import Ghostwriter.Expansion.Basic
import Ghostwriter.Expansion.File
import Ghostwriter.Expansion.World
import Ghostwriter.Failure.Basic
import Ghostwriter.Files.Disk
import Ghostwriter.Files.Path
import Ghostwriter.Files.Source
import Ghostwriter.Grammar.Block
import Ghostwriter.Grammar.Escape
import Ghostwriter.Grammar.Expr
import Ghostwriter.Grammar.Expression
import Ghostwriter.Grammar.Formatted
import Ghostwriter.Grammar.Line
import Ghostwriter.Grammar.Numeral
import Ghostwriter.Grammar.Parameter
import Ghostwriter.Grammar.Parser
import Ghostwriter.Grammar.Pattern
import Ghostwriter.Grammar.Row
import Ghostwriter.Grammar.Statement
import Ghostwriter.Grammar.Token
import Ghostwriter.Hash.Sha256
import Ghostwriter.Lexeme.Basic
import Ghostwriter.Lexeme.Scan
import Ghostwriter.Lexeme.Shape
import Ghostwriter.Literal.Evaluate
import Ghostwriter.Literal.Value
import Ghostwriter.Main
import Ghostwriter.Number.Binary64
import Ghostwriter.Number.Shortest
import Ghostwriter.Proofs.Cache.Digest
import Ghostwriter.Proofs.Cache.Failing
import Ghostwriter.Proofs.Cache.Folder
import Ghostwriter.Proofs.Cache.Growth
import Ghostwriter.Proofs.Cache.KeySensitivity
import Ghostwriter.Proofs.Cache.Name
import Ghostwriter.Proofs.Cache.Record
import Ghostwriter.Proofs.Cache.Seed
import Ghostwriter.Proofs.Cache.Standing
import Ghostwriter.Proofs.Cache.Twin
import Ghostwriter.Proofs.CommandLine.Removal
import Ghostwriter.Proofs.Directive.Binding
import Ghostwriter.Proofs.Directive.Bracket
import Ghostwriter.Proofs.Directive.Cut
import Ghostwriter.Proofs.Directive.Found
import Ghostwriter.Proofs.Directive.Payload
import Ghostwriter.Proofs.Directive.Refusal
import Ghostwriter.Proofs.Directive.Reread
import Ghostwriter.Proofs.Directive.Returns
import Ghostwriter.Proofs.Directive.Slice
import Ghostwriter.Proofs.Directive.Statement
import Ghostwriter.Proofs.Directive.Written
import Ghostwriter.Proofs.Expansion.Course
import Ghostwriter.Proofs.Expansion.Diagnosis
import Ghostwriter.Proofs.Expansion.Halt
import Ghostwriter.Proofs.Expansion.History
import Ghostwriter.Proofs.Expansion.Isolation
import Ghostwriter.Proofs.Expansion.Limits
import Ghostwriter.Proofs.Expansion.Race
import Ghostwriter.Proofs.Expansion.Requests
import Ghostwriter.Proofs.Expansion.Rerun
import Ghostwriter.Proofs.Expansion.Stages
import Ghostwriter.Proofs.Failure.Result
import Ghostwriter.Proofs.Files.Folder
import Ghostwriter.Proofs.Files.Place
import Ghostwriter.Proofs.Files.Refill
import Ghostwriter.Proofs.Files.Staging
import Ghostwriter.Proofs.Files.Tree
import Ghostwriter.Proofs.Grammar.Aligned
import Ghostwriter.Proofs.Grammar.Context
import Ghostwriter.Proofs.Grammar.Enclosed
import Ghostwriter.Proofs.Grammar.Forest
import Ghostwriter.Proofs.Grammar.Indented
import Ghostwriter.Proofs.Grammar.Lexed
import Ghostwriter.Proofs.Grammar.Line
import Ghostwriter.Proofs.Grammar.Literal
import Ghostwriter.Proofs.Grammar.Margin
import Ghostwriter.Proofs.Grammar.Module
import Ghostwriter.Proofs.Grammar.Numeral
import Ghostwriter.Proofs.Grammar.OpenString
import Ghostwriter.Proofs.Grammar.Piece
import Ghostwriter.Proofs.Grammar.Plain
import Ghostwriter.Proofs.Grammar.Replace
import Ghostwriter.Proofs.Grammar.Row
import Ghostwriter.Proofs.Grammar.Scannable
import Ghostwriter.Proofs.Grammar.Scanned
import Ghostwriter.Proofs.Grammar.Seam
import Ghostwriter.Proofs.Grammar.Spelled
import Ghostwriter.Proofs.Grammar.Statement
import Ghostwriter.Proofs.Lexeme.Cover
import Ghostwriter.Proofs.Lexeme.Cropped
import Ghostwriter.Proofs.Lexeme.Echo
import Ghostwriter.Proofs.Lexeme.Extent
import Ghostwriter.Proofs.Lexeme.Layout
import Ghostwriter.Proofs.Lexeme.Passage
import Ghostwriter.Proofs.Lexeme.Returns
import Ghostwriter.Proofs.Lexeme.RowEnd
import Ghostwriter.Proofs.Lexeme.Run
import Ghostwriter.Proofs.Lexeme.Spelled
import Ghostwriter.Proofs.Lexeme.Taken
import Ghostwriter.Proofs.Lexeme.Tiled
import Ghostwriter.Proofs.Snippet.Accepted
import Ghostwriter.Proofs.Snippet.Breaks
import Ghostwriter.Proofs.Snippet.Fence
import Ghostwriter.Proofs.Snippet.Stable
import Ghostwriter.Proofs.Splice.Block
import Ghostwriter.Proofs.Splice.Body
import Ghostwriter.Proofs.Splice.Cut
import Ghostwriter.Proofs.Splice.Fill
import Ghostwriter.Proofs.Splice.Indent
import Ghostwriter.Proofs.Splice.Seam
import Ghostwriter.Proofs.Splice.Seat
import Ghostwriter.Proofs.Splice.Simultaneous
import Ghostwriter.Proofs.Splice.Strings
import Ghostwriter.Proofs.Splice.Trail
import Ghostwriter.Proofs.Splice.Whole
import Ghostwriter.Proofs.Text.Breaks
import Ghostwriter.Proofs.Text.Utf8
import Ghostwriter.Proofs.Text.Written
import Ghostwriter.Request.Instruction
import Ghostwriter.Request.Message
import Ghostwriter.Service.Client
import Ghostwriter.Settings.Basic
import Ghostwriter.Settings.EnvFile
import Ghostwriter.Settings.Environment
import Ghostwriter.Settings.Timeout
import Ghostwriter.Snippet.Basic
import Ghostwriter.Snippet.Fence
import Ghostwriter.Snippet.Splice
import Ghostwriter.Text.Basic
import Ghostwriter.Text.CharName
import Ghostwriter.Text.CharName.Aliases
import Ghostwriter.Text.CharName.Alphabets
import Ghostwriter.Text.CharName.Ancient
import Ghostwriter.Text.CharName.Asian
import Ghostwriter.Text.CharName.Pictures
import Ghostwriter.Text.CharName.Symbols
import Ghostwriter.Text.Digit
import Ghostwriter.Text.Identifier
import Ghostwriter.Text.Printable
import Ghostwriter.Text.Quoted
import Ghostwriter.Text.Ranges
import Ghostwriter.Text.Utf8

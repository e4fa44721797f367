import Stencil.CommandLine
import Stencil.CompileError
import Stencil.Config
import Stencil.Datum.Basic
import Stencil.Datum.Show
import Stencil.Decimal
import Stencil.Decimal.Arithmetic
import Stencil.FileTree
import Stencil.Fragment
import Stencil.Job
import Stencil.Main
import Stencil.Path
import Stencil.Program.Basic
import Stencil.Program.Builder
import Stencil.Proofs.Block.Below
import Stencil.Proofs.Block.Building
import Stencil.Proofs.Block.Numeral
import Stencil.Proofs.Block.Reading
import Stencil.Proofs.Block.Rendering
import Stencil.Proofs.Block.Running
import Stencil.Proofs.Builder.Ancestors
import Stencil.Proofs.Builder.Behind
import Stencil.Proofs.Builder.Composing
import Stencil.Proofs.Builder.Forest
import Stencil.Proofs.Builder.Line
import Stencil.Proofs.Builder.Nonlocal
import Stencil.Proofs.Builder.Outcome
import Stencil.Proofs.Builder.Program
import Stencil.Proofs.Builder.Run
import Stencil.Proofs.Builder.Sharing
import Stencil.Proofs.Builder.Stack
import Stencil.Proofs.Config.Keys
import Stencil.Proofs.Config.Mapping
import Stencil.Proofs.Config.Merging
import Stencil.Proofs.Config.Refusing
import Stencil.Proofs.Files.Delivery
import Stencil.Proofs.Files.Making
import Stencil.Proofs.Files.Route
import Stencil.Proofs.Files.Search
import Stencil.Proofs.Files.Sound
import Stencil.Proofs.Job.Order
import Stencil.Proofs.Job.Running
import Stencil.Proofs.Job.Setback
import Stencil.Proofs.Journal.Deepening
import Stencil.Proofs.Journal.Following
import Stencil.Proofs.Journal.Ledger
import Stencil.Proofs.Journal.Moving
import Stencil.Proofs.Journal.Nesting
import Stencil.Proofs.Journal.Sharing
import Stencil.Proofs.Layout.Built
import Stencil.Proofs.Layout.Program
import Stencil.Proofs.Layout.Source
import Stencil.Proofs.Layout.Steps
import Stencil.Proofs.Layout.Turn
import Stencil.Proofs.Locality.Embedded
import Stencil.Proofs.Locality.Enclosed
import Stencil.Proofs.Locality.Ending
import Stencil.Proofs.Locality.Expression
import Stencil.Proofs.Locality.Field
import Stencil.Proofs.Locality.Line
import Stencil.Proofs.Locality.Number
import Stencil.Proofs.Locality.Reader
import Stencil.Proofs.Locality.Word
import Stencil.Proofs.Markup.Boundary
import Stencil.Proofs.Markup.Bracket
import Stencil.Proofs.Markup.Cut
import Stencil.Proofs.Markup.Joined
import Stencil.Proofs.Markup.Lexing
import Stencil.Proofs.Markup.Line
import Stencil.Proofs.Markup.Moved
import Stencil.Proofs.Markup.Phrase
import Stencil.Proofs.Markup.Relaid
import Stencil.Proofs.Markup.Reread
import Stencil.Proofs.Markup.Row
import Stencil.Proofs.Markup.Terminated
import Stencil.Proofs.Markup.Tile
import Stencil.Proofs.Markup.Tiling
import Stencil.Proofs.Markup.Trailing
import Stencil.Proofs.Markup.Trouble
import Stencil.Proofs.Module.Checking
import Stencil.Proofs.Module.Code
import Stencil.Proofs.Module.Reading
import Stencil.Proofs.Module.Rendering
import Stencil.Proofs.Module.Running
import Stencil.Proofs.Naming.Exact
import Stencil.Proofs.Naming.Expression
import Stencil.Proofs.Naming.Pattern
import Stencil.Proofs.Naming.Reader
import Stencil.Proofs.Naming.Statement
import Stencil.Proofs.Naming.Tree
import Stencil.Proofs.Naming.Word
import Stencil.Proofs.Outcome
import Stencil.Proofs.Relocation.Builtin
import Stencil.Proofs.Relocation.Call
import Stencil.Proofs.Relocation.Eval
import Stencil.Proofs.Relocation.Loading
import Stencil.Proofs.Relocation.Operation
import Stencil.Proofs.Relocation.Rendering
import Stencil.Proofs.Relocation.Store
import Stencil.Proofs.Relocation.Value
import Stencil.Proofs.Script.Alone
import Stencil.Proofs.Script.Call
import Stencil.Proofs.Script.Encoding
import Stencil.Proofs.Script.Kinds
import Stencil.Proofs.Script.Literal
import Stencil.Proofs.Script.Margin
import Stencil.Proofs.Script.Operand
import Stencil.Proofs.Script.Outline
import Stencil.Proofs.Script.Reading
import Stencil.Proofs.Script.Spelling
import Stencil.Proofs.Script.Steps
import Stencil.Proofs.Script.Store
import Stencil.Proofs.Script.Sum
import Stencil.Proofs.Script.Words
import Stencil.Proofs.Serve.Agreement
import Stencil.Proofs.Serve.Attempts
import Stencil.Proofs.Serve.Covering
import Stencil.Proofs.Serve.Reacting
import Stencil.Proofs.Serve.Recovery
import Stencil.Proofs.Serve.Reports
import Stencil.Proofs.Serve.Script
import Stencil.Proofs.Serve.Shutdown
import Stencil.Proofs.Serve.Watching
import Stencil.Proofs.Static.Building
import Stencil.Proofs.Static.Entries
import Stencil.Proofs.Static.Legible
import Stencil.Proofs.Static.Piece
import Stencil.Proofs.Static.Rendering
import Stencil.Proofs.Static.Running
import Stencil.Proofs.Tag.Closing
import Stencil.Proofs.Tag.Line
import Stencil.Proofs.Tag.Part
import Stencil.Proofs.Tag.Value
import Stencil.Proofs.Template.Alike
import Stencil.Proofs.Text.Breaks
import Stencil.Proofs.Text.Composed
import Stencil.Proofs.Text.Endings
import Stencil.Proofs.Text.Inside
import Stencil.Proofs.Text.Unbroken
import Stencil.Proofs.Text.Unique
import Stencil.Proofs.Turn.Grammar
import Stencil.Proofs.Turn.Judgement
import Stencil.Proofs.Turn.Place
import Stencil.Proofs.Turn.Reading
import Stencil.Proofs.Turn.Recast
import Stencil.Proofs.Turn.Verdict
import Stencil.Script.Builtin
import Stencil.Script.Check
import Stencil.Script.Comparison
import Stencil.Script.Convert
import Stencil.Script.Escape
import Stencil.Script.Eval
import Stencil.Script.Field
import Stencil.Script.Fill
import Stencil.Script.Grammar.Expression
import Stencil.Script.Grammar.Formatted
import Stencil.Script.Grammar.Pattern
import Stencil.Script.Grammar.Reader
import Stencil.Script.Grammar.Statement
import Stencil.Script.Lexer
import Stencil.Script.Literal
import Stencil.Script.Names
import Stencil.Script.Number
import Stencil.Script.Operation
import Stencil.Script.Part
import Stencil.Script.Scope
import Stencil.Script.Spelled
import Stencil.Script.Syntax
import Stencil.Script.Token
import Stencil.Script.Value
import Stencil.Search.Glob
import Stencil.Session.Basic
import Stencil.Session.Serve
import Stencil.Session.Step
import Stencil.Session.Watch
import Stencil.Template
import Stencil.Text.Basic
import Stencil.Text.Case
import Stencil.Text.CharName
import Stencil.Text.CharName.Ancient
import Stencil.Text.CharName.Asian
import Stencil.Text.CharName.Letters
import Stencil.Text.CharName.Symbols
import Stencil.Text.Composition
import Stencil.Text.Decomposition
import Stencil.Text.Identifier
import Stencil.Text.Point
import Stencil.Text.Printable
import Stencil.Text.Word
import Stencil.Token
import Stencil.Token.Lexer
import Stencil.Workspace
import Stencil.Yaml.Document
import Stencil.Yaml.Grammar
import Stencil.Yaml.Lexer
import Stencil.Yaml.Node
import Stencil.Yaml.Scalar
import Stencil.Yaml.Scanner
import Stencil.Yaml.Token

import ShaderSyntax.Cache.Backend
import ShaderSyntax.Cache.Basic
import ShaderSyntax.Cache.Named
import ShaderSyntax.Command.Compiler
import ShaderSyntax.Command.Program
import ShaderSyntax.CommandLine.Arguments
import ShaderSyntax.CommandLine.Run
import ShaderSyntax.Digest
import ShaderSyntax.Files.Fault
import ShaderSyntax.Files.Path
import ShaderSyntax.Files.Store
import ShaderSyntax.Files.Tree
import ShaderSyntax.Grammar.Basic
import ShaderSyntax.Grammar.Binding
import ShaderSyntax.Host.Arithmetic
import ShaderSyntax.Host.Builtin
import ShaderSyntax.Host.Builtin.Basic
import ShaderSyntax.Host.Builtin.Folders
import ShaderSyntax.Host.Builtin.Signals
import ShaderSyntax.Host.Builtin.Variables
import ShaderSyntax.Host.ByteStream
import ShaderSyntax.Host.Condition
import ShaderSyntax.Host.Escape
import ShaderSyntax.Host.Expansion
import ShaderSyntax.Host.Fields
import ShaderSyntax.Host.Format
import ShaderSyntax.Host.Glob
import ShaderSyntax.Host.Leading
import ShaderSyntax.Host.Options
import ShaderSyntax.Host.PathPattern
import ShaderSyntax.Host.Program
import ShaderSyntax.Host.Redirections
import ShaderSyntax.Host.Rounded
import ShaderSyntax.Host.Script.Basic
import ShaderSyntax.Host.Script.Reader
import ShaderSyntax.Host.Script.Token
import ShaderSyntax.Host.Session
import ShaderSyntax.Host.Shell
import ShaderSyntax.Host.ShellOptions
import ShaderSyntax.Host.Signal
import ShaderSyntax.Host.Tool
import ShaderSyntax.Host.Tool.Basic
import ShaderSyntax.Host.Tool.ByteSet
import ShaderSyntax.Host.Tool.Copy
import ShaderSyntax.Host.Tool.Count
import ShaderSyntax.Host.Tool.Excerpt
import ShaderSyntax.Host.Tool.Exchange
import ShaderSyntax.Json.Basic
import ShaderSyntax.Json.Fault
import ShaderSyntax.Json.Inspection
import ShaderSyntax.Json.Reader
import ShaderSyntax.Json.Shape
import ShaderSyntax.Json.Writer
import ShaderSyntax.Macro.Expansion
import ShaderSyntax.Macro.Table
import ShaderSyntax.Main
import ShaderSyntax.Numeral.Decimal
import ShaderSyntax.Numeral.Scientific
import ShaderSyntax.Numeral.Shortest
import ShaderSyntax.Numeral.Whole
import ShaderSyntax.Parse.Engine
import ShaderSyntax.Parse.Error
import ShaderSyntax.Parse.Feed
import ShaderSyntax.Parse.SyntaxError
import ShaderSyntax.Pattern.Automaton
import ShaderSyntax.Pattern.Basic
import ShaderSyntax.Pattern.Reader
import ShaderSyntax.Preprocess.Basic
import ShaderSyntax.Preprocess.Directive
import ShaderSyntax.Preprocess.Error
import ShaderSyntax.Proofs.Cache.Calls
import ShaderSyntax.Proofs.Cache.Consistency
import ShaderSyntax.Proofs.Cache.Isolation
import ShaderSyntax.Proofs.Cache.Serving
import ShaderSyntax.Proofs.Cache.Transparency
import ShaderSyntax.Proofs.Grammar.Markers
import ShaderSyntax.Proofs.Grammar.Rendering
import ShaderSyntax.Proofs.Json.RoundTrip
import ShaderSyntax.Proofs.Macro.Agreement
import ShaderSyntax.Proofs.Macro.Passes
import ShaderSyntax.Proofs.Numeral.Decimal
import ShaderSyntax.Proofs.Numeral.Whole
import ShaderSyntax.Proofs.Parse.Calls
import ShaderSyntax.Proofs.Parse.Checked
import ShaderSyntax.Proofs.Parse.Derivation
import ShaderSyntax.Proofs.Parse.Excerpts
import ShaderSyntax.Proofs.Parse.Parametricity
import ShaderSyntax.Proofs.Parse.Places
import ShaderSyntax.Proofs.Parse.Progress
import ShaderSyntax.Proofs.Parse.Reports
import ShaderSyntax.Proofs.Parse.Resynchronization
import ShaderSyntax.Proofs.Parse.Safety
import ShaderSyntax.Proofs.Parse.Skipping
import ShaderSyntax.Proofs.Parse.Stacks
import ShaderSyntax.Proofs.Parse.Trail
import ShaderSyntax.Proofs.Parse.Truncation
import ShaderSyntax.Proofs.Pattern.Exploration
import ShaderSyntax.Proofs.Pattern.Language
import ShaderSyntax.Proofs.Pattern.Matching
import ShaderSyntax.Proofs.Preprocess.Comparison
import ShaderSyntax.Proofs.Preprocess.Failures
import ShaderSyntax.Proofs.Preprocess.Inclusions
import ShaderSyntax.Proofs.Preprocess.Limits
import ShaderSyntax.Proofs.Preprocess.PlainLines
import ShaderSyntax.Proofs.Preprocess.Registration
import ShaderSyntax.Proofs.Preprocess.Splicing
import ShaderSyntax.Proofs.Shader.Actions
import ShaderSyntax.Proofs.Shader.Comments
import ShaderSyntax.Proofs.Shader.Constants
import ShaderSyntax.Proofs.Shader.Gathering
import ShaderSyntax.Proofs.Shader.Layout
import ShaderSyntax.Proofs.Shader.Ownership
import ShaderSyntax.Proofs.Shader.Shapes
import ShaderSyntax.Proofs.Shader.Spelling
import ShaderSyntax.Proofs.Shader.Stack
import ShaderSyntax.Proofs.Shader.StringLiterals
import ShaderSyntax.Proofs.Shader.Tokens
import ShaderSyntax.Proofs.Tables.Automaton
import ShaderSyntax.Proofs.Tables.Bounds
import ShaderSyntax.Proofs.Tables.RoundTrip
import ShaderSyntax.Proofs.Token.Munch
import ShaderSyntax.Proofs.Token.Partition
import ShaderSyntax.Proofs.Tree.Branches
import ShaderSyntax.Proofs.Tree.Edits
import ShaderSyntax.Proofs.Tree.Forest
import ShaderSyntax.Proofs.Tree.Links
import ShaderSyntax.Proofs.Tree.Relinking
import ShaderSyntax.Proofs.Tree.Rendering
import ShaderSyntax.Shader.Actions
import ShaderSyntax.Shader.Constant
import ShaderSyntax.Shader.Error
import ShaderSyntax.Shader.Frontend
import ShaderSyntax.Shader.Grammar
import ShaderSyntax.Shader.Tokens
import ShaderSyntax.Shader.Value
import ShaderSyntax.Source.Loader
import ShaderSyntax.Tables.Basic
import ShaderSyntax.Tables.LabelMap
import ShaderSyntax.Tables.Record
import ShaderSyntax.Tables.Validity
import ShaderSyntax.Text.Blank
import ShaderSyntax.Text.Extending
import ShaderSyntax.Text.Lines
import ShaderSyntax.Text.Position
import ShaderSyntax.Text.Quoted
import ShaderSyntax.Text.Unprintable
import ShaderSyntax.Text.Utf8
import ShaderSyntax.Token.Basic
import ShaderSyntax.Token.Lexer
import ShaderSyntax.Tree.Basic

import CommandShell.Arguments.Basic
import CommandShell.Builtin.Basic
import CommandShell.Builtin.Run
import CommandShell.Calculator.Eval
import CommandShell.Calculator.Value
import CommandShell.Execution.Command
import CommandShell.Execution.Host
import CommandShell.Execution.Line
import CommandShell.Execution.Outcome
import CommandShell.Execution.Script
import CommandShell.Execution.Stream
import CommandShell.Expansion.Pattern
import CommandShell.Expansion.Words
import CommandShell.Files.FileSystem
import CommandShell.Files.Path
import CommandShell.Files.Search
import CommandShell.Interaction.Completion
import CommandShell.Interaction.LogFilter
import CommandShell.Interaction.Loop
import CommandShell.Interaction.Prompt
import CommandShell.Interaction.Settings
import CommandShell.Interaction.Startup
import CommandShell.Main
import CommandShell.Programs.Basic
import CommandShell.Programs.Cat
import CommandShell.Programs.CharacterList
import CommandShell.Programs.Launch
import CommandShell.Programs.Options
import CommandShell.Programs.PosixShell.Arithmetic
import CommandShell.Programs.PosixShell.Binary64
import CommandShell.Programs.PosixShell.Builtins
import CommandShell.Programs.PosixShell.Condition
import CommandShell.Programs.PosixShell.Describe
import CommandShell.Programs.PosixShell.Descriptor
import CommandShell.Programs.PosixShell.Directory
import CommandShell.Programs.PosixShell.Expansion
import CommandShell.Programs.PosixShell.Fields
import CommandShell.Programs.PosixShell.Format
import CommandShell.Programs.PosixShell.Glob
import CommandShell.Programs.PosixShell.Grammar
import CommandShell.Programs.PosixShell.Jobs
import CommandShell.Programs.PosixShell.Lookup
import CommandShell.Programs.PosixShell.Options
import CommandShell.Programs.PosixShell.Output
import CommandShell.Programs.PosixShell.Parameters
import CommandShell.Programs.PosixShell.Pattern
import CommandShell.Programs.PosixShell.Program
import CommandShell.Programs.PosixShell.Reader
import CommandShell.Programs.PosixShell.Redirect
import CommandShell.Programs.PosixShell.Run
import CommandShell.Programs.PosixShell.Runner
import CommandShell.Programs.PosixShell.Signal
import CommandShell.Programs.PosixShell.Simple
import CommandShell.Programs.PosixShell.State
import CommandShell.Programs.PosixShell.Syntax
import CommandShell.Programs.PosixShell.Tokens
import CommandShell.Programs.PosixShell.Utility
import CommandShell.Programs.PosixShell.Words
import CommandShell.Programs.Quoting
import CommandShell.Programs.Tr
import CommandShell.Session.Basic
import CommandShell.Session.DirectoryStack
import CommandShell.Session.Variables
import CommandShell.Syntax.CommandList
import CommandShell.Syntax.Token
import CommandShell.Syntax.Word
import CommandShell.Text.Basic
import CommandShell.Text.Blank
import CommandShell.Text.CharClass
import CommandShell.Text.Cluster
import CommandShell.Text.ClusterBreak
import CommandShell.Text.Number
import CommandShell.Text.Octets
import CommandShell.Text.Quoted
import CommandShell.Text.Utf8
import CommandShell.Text.WordCharacter
import CommandShell.Proofs.Syntax.Regions
import CommandShell.Proofs.Syntax.Scanning
import CommandShell.Proofs.Syntax.WellFormed
import CommandShell.Proofs.Syntax.Rendering
import CommandShell.Proofs.Expansion.Quoting
import CommandShell.Proofs.Execution.Subshell
import CommandShell.Proofs.Calculator.Derivations
import CommandShell.Proofs.Calculator.Grammar
import CommandShell.Proofs.Calculator.Plain
import CommandShell.Proofs.Calculator.Reading
import CommandShell.Proofs.Execution.Arithmetic
import CommandShell.Proofs.Execution.Nesting
import CommandShell.Proofs.Execution.Phases
import CommandShell.Proofs.Expansion.Substitution
import CommandShell.Proofs.Syntax.Arithmetic
import CommandShell.Proofs.Syntax.Enclosed
import CommandShell.Proofs.Execution.Pipes
import CommandShell.Proofs.Expansion.Slices
import CommandShell.Proofs.Execution.Calls
import CommandShell.Proofs.Execution.Sessions
import CommandShell.Proofs.Execution.Captured
import CommandShell.Proofs.Execution.Texts
import CommandShell.Proofs.Execution.Inherited
import CommandShell.Proofs.Syntax.Composition
import CommandShell.Proofs.Expansion.Outputs
import CommandShell.Proofs.Execution.Feeding
import CommandShell.Proofs.Execution.Unseen
import CommandShell.Proofs.Execution.Exiting
import CommandShell.Proofs.Execution.Succession
import CommandShell.Proofs.Syntax.Offences
import CommandShell.Proofs.Expansion.Groups
import CommandShell.Proofs.Expansion.Matches
import CommandShell.Proofs.Expansion.References
import CommandShell.Proofs.Syntax.Stretches
import CommandShell.Proofs.Syntax.Faults
import CommandShell.Proofs.Syntax.Bodies
import CommandShell.Proofs.Syntax.Characters
import CommandShell.Proofs.Calculator.Exactness
import CommandShell.Proofs.Calculator.Cursor
import CommandShell.Proofs.Calculator.Descent
import CommandShell.Proofs.Calculator.Positions
import CommandShell.Proofs.Calculator.Printing
import CommandShell.Proofs.Builtin.Failures
import CommandShell.Proofs.Execution.Resolution
import CommandShell.Proofs.Execution.Lookups
import CommandShell.Proofs.Syntax.Progress
import CommandShell.Proofs.Builtin.Counting
import CommandShell.Proofs.Files.Listing
import CommandShell.Proofs.Interaction.Completion
import CommandShell.Proofs.Session.DirectoryStack
import CommandShell.Proofs.Programs.CharacterLists
import CommandShell.Proofs.Programs.Joining
import CommandShell.Proofs.Programs.Patterns
import CommandShell.Proofs.Programs.Processes
import CommandShell.Proofs.Programs.Starting
import CommandShell.Proofs.Programs.Translation
import CommandShell.Proofs.Programs.Channels
import CommandShell.Proofs.Programs.Fields
import CommandShell.Proofs.Programs.Isolation
import CommandShell.Proofs.Programs.Restoring

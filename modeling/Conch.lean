import Conch.Text.CodeRange
import Conch.Text.Alnum
import Conch.Text.Printable
import Conch.Text.Decimal
import Conch.Text.Blank
import Conch.Text.Quoted
import Conch.Text.Utf8
import Conch.Text.Integer
import Conch.Env
import Conch.Word.Split
import Conch.Word.Render
import Conch.Word.Expand
import Conch.Word.Redirect
import Conch.Fs.Path
import Conch.Fs.Fault
import Conch.Fs.Tree
import Conch.World
import Conch.Sh.Syntax
import Conch.Sh.Read
import Conch.Sh.State
import Conch.Sh.Arith
import Conch.Sh.Pattern
import Conch.Sh.Fields
import Conch.Sh.Run
import Conch.Sh.Double
import Conch.Sh.Print
import Conch.Sh.Test
import Conch.Sh.Builtin
import Conch.Sh.Exec
import Conch.Sh.Eval
import Conch.Session.Shell
import Conch.Session.Builtin
import Conch.Session.Launch
import Conch.Session.Complete
import Conch.Session.Run
import Conch.Sh.Launcher
import Conch.Main
import Conch.Word.Proofs.Gap
import Conch.Fs.Proofs.Entries
import Conch.Fs.Proofs.Sound
import Conch.Proofs.Quoting
import Conch.Proofs.Expansion
import Conch.Proofs.Session
import Conch.Proofs.Environment
import Conch.Proofs.Redirections
import Conch.Proofs.Pipeline
import Conch.Proofs.Structure
import Conch.Proofs.OutputRedirection
import Conch.Proofs.ExpansionUnits
import Conch.Proofs.MissingTarget
import Conch.Proofs.OpenFailure
import Conch.Proofs.Completion
import Conch.Proofs.PipelineRedirections
import Conch.Proofs.Prompt
import Conch.Proofs.ProgramLookup
import Conch.Proofs.Directories
import Conch.Proofs.Loop

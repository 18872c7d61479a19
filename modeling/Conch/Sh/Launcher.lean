import Conch.Sh.Eval
import Conch.Session.Launch
/-!
The system whose programs are the shell scripts of the file tree.

The system starts a file the way `launchOf` reads it: a file whose first line names the shell,
or `env` with a program that leads to the shell, as its interpreter runs in the shell interpreter
of this library, with the environment, the working directory and the descriptors of the call; a
file without an interpreter line has no format the system knows, and any other file is refused
with the fault `launchOf` gives. This is the system the interactive shell runs in.
-/

namespace Conch.Sh

/-- The fault the system refuses to start a file with, read off how it would start it. -/
def refusal (t : Fs.Tree) (cwd : Fs.Path) (path : String) : Option Fs.Fault :=
  match launchOf t cwd path with
  | .shell _ _ | .lookup _ _ => none
  | .noFormat _ => some .execFormat
  | .fault f => some f

/-- Runs a started program in the shell interpreter: its exit status, or the pipe it stopped at.
A program the system no longer starts when its turn comes, its file having changed since, ends
with status 1; a run that stops in any other way leaves the status the interpreter holds. -/
def runCall (call : Call) : Proc Nat := ExceptT.mk fun w =>
  let m : Machine := ⟨State.host call.env call.cwd call.fds, w, 0, 0, []⟩
  match (launchProgram runFuel call.program (call.args.map Text.utf8)).runOn m with
  | (.ok (.ok st), m) => (.ok st, m.world)
  | (.ok (.error _), m) => (.ok 1, m.world)
  | (.error (.stall (.full id)), m) => (.error (.full id), m.world)
  | (.error (.stall (.dry id)), m) => (.error (.dry id), m.world)
  | (.error _, m) => (.ok m.sh.status, m.world)

/-- The programs of the system are shell scripts. -/
def launcher : Launcher := ⟨refusal, runCall⟩

end Conch.Sh

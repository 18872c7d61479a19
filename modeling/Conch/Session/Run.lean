import Conch.Session.Launch
import Conch.Session.Complete
/-!
The read-eval loop of the shell.

A session is a shell, the world it runs in, and the programs of the system. For each line the
shell shows its prompt, remembers the line as it was typed, and trims blank characters from both
ends. A blank line changes nothing. A line that holds `|` anywhere runs as a pipeline of the
pieces between the bars; any other line runs as one command. The line's status becomes the
shell's last status; an error that escapes a command is reported as `Error: message` with
status 1; `exit` ends the session. A completion request lists the candidates for a text without
reading a line.

The prompt shows the working directory, which the system finds only while that directory
exists. Once a program has removed it, the prompt cannot be computed: the shell reports the
fault and tries again, forever, without reading another line. It reads none either after a line
that never ends.

Scope. A directory is known by its path here: one made again at the path of the removed working
directory counts as that directory.
-/

namespace Conch

/-- One thing the user does. -/
inductive Step
  /-- Types a line. -/
  | line (text : String)
  /-- Asks to complete `text`, which starts at `begin` on the line (unknown when `none`). -/
  | complete (text : String) (begin : Option Nat)
  deriving DecidableEq, Repr

/-- What the shell answers to a step. -/
inductive Reply
  /-- The prompt shown, what the terminal received, and the status after the line. -/
  | line (prompt : String) (out : List UInt8) (status : Int)
  /-- The prompt shown, what the terminal received, and the code the session ended with. -/
  | exit (prompt : String) (out : List UInt8) (code : Int)
  /-- The completion candidates. -/
  | matches (candidates : List String)
  /-- The prompt shown, before a line that never ends. -/
  | hang (prompt : String)
  deriving DecidableEq, Repr

/-- Whether a reply is to a line that never ended. -/
def Reply.hangs : Reply → Bool
  | .hang _ => true
  | _ => false

/-- A shell, the world it runs in, and the programs of the system. -/
structure Session where
  shell : Shell
  world : World
  programs : Launcher

namespace Session

/-- The prompt the loop shows before it reads a step, or the fault that keeps the system from
telling the working directory: it tells it only while the directory exists. -/
def prompt? (ss : Session) : Except Fs.Fault String :=
  if ss.world.tree.isDirAt ss.shell.cwd then .ok ss.shell.prompt else .error .noEntry

/-- What the shell prints, again and again, when it cannot show its prompt. -/
def promptFailure (f : Fs.Fault) : String := "Error: " ++ f.message none

/-- Runs one line; the flag is false when the line ended the session. -/
def runLine (ss : Session) (text : String) : Session × Reply × Bool :=
  let prompt := ss.shell.prompt
  let shell := ss.shell.remember text
  let line := Text.trim text
  if line.isEmpty then ({ ss with shell := shell }, .line prompt [] shell.status, true)
  else
    let w := ss.world.fresh
    let (shell, w, ending) :=
      if line.contains '|' then
        let (w, e) := runPipeline ss.programs shell w line
        (shell, w, e)
      else runCommand ss.programs shell w line
    match ending with
    | .status n =>
      ({ ss with shell := { shell with status := n }, world := w }, .line prompt w.screen n, true)
    | .failure msg =>
      let w := w.say ("Error: " ++ msg)
      ({ ss with shell := { shell with status := 1 }, world := w }, .line prompt w.screen 1, true)
    | .exit code => ({ ss with shell := shell, world := w }, .exit prompt w.screen code, false)
    | .hang => ({ ss with shell := shell, world := w }, .hang prompt, true)

/-- Answers one step; the flag is false when a line ended the session. -/
def respond (ss : Session) : Step → Session × Reply × Bool
  | .line text => ss.runLine text
  | .complete text begin => (ss, .matches (Complete.candidates ss.shell ss.world text begin), true)

/-- Runs one step; the flag says whether the shell reads another: not after a line that ended
the session or never ended, nor when it cannot show its next prompt. -/
def runStep (ss : Session) (step : Step) : Session × Reply × Bool :=
  let r := ss.respond step
  (r.1, r.2.1, r.2.2 && !r.2.1.hangs && r.1.prompt?.isOk)

/-- Runs the steps in order until the session ends; returns one reply per step run. -/
def run (ss : Session) : List Step → List Reply × Session
  | [] => ([], ss)
  | step :: rest =>
    let (ss, reply, going) := ss.runStep step
    if going then
      let (replies, ss) := ss.run rest
      (reply :: replies, ss)
    else ([reply], ss)

/-- The tree a session starts from: the directories down to `root`, the null device, and the
account's home. -/
def baseTree (root : Fs.Path) : Fs.Tree :=
  ((Fs.Tree.empty.makeDirs root).add ["dev", "null"] .sink).makeDirs (Fs.names accountHome)

/-- A session with the programs `programs`, in the tree `t`, in the directory `cwd`, with the
environment `env`, before any line. -/
def start (programs : Launcher) (t : Fs.Tree) (env : Env) (cwd : Fs.Path) : Session :=
  ⟨⟨env, cwd, 0, [], []⟩, World.ofTree t, programs⟩

end Session

end Conch

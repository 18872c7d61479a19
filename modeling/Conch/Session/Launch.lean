import Conch.Session.Builtin
import Conch.Word.Split
import Conch.Word.Expand
import Conch.Text.Blank
/-!
Running programs from the shell, alone or as a pipeline.

The programs are a parameter of the shell: a `Launcher` says which executable files the system
refuses to start, and with which fault, and how a program it starts runs. A run changes the
world and ends with an exit status, or stops at a pipe: one it writes has no room, or one it
reads is empty while a writer may still write. Nothing else about programs is assumed here.

A single program is looked up through `PATH`; its input, output and error files are opened in
that order (a missing file makes the program count as not found, any other fault is an error,
and the files opened before the failing one stay created), and it runs with the terminal as its
output unless redirected, and the shell's own standard input and error output unless
redirected. The shell waits for it, forever when it stops at a pipe.

In a pipeline the stages are checked one at a time, in order, as the shell starts them. A stage
that is empty, only a comment, a syntax error, has no command, or names a program that is not
found or not started ends the pipeline there: the shell reports it and returns at once, without
waiting for the stages it started before it. When every stage starts, each reads what the stage
before it wrote; only the last writes to the terminal, and only when its output is not
redirected. The first stage's input redirection gives it a pipe nobody writes or closes, the
last stage's output redirection a pipe nobody reads, and every stage's error output goes to a
pipe nobody reads; the shell then waits for every stage, forever when one of them waits forever
on such a pipe.

Scope. A stage the shell did not wait for races with the lines the shell reads next. Here it
makes no progress after the shell returns: it is recorded as running, and nothing it would do
later is seen in the session.
-/

namespace Conch

/-- A program the shell starts: the path it was found at, its arguments, the environment it
receives, its working directory, and the streams of its descriptors. -/
structure Call where
  program : String
  args : List String
  env : List (String × List UInt8)
  cwd : Fs.Path
  fds : List (Nat × Nat)

/-- Where a program's run stopped before its end. -/
inductive Blocked
  /-- It writes a pipe that has no room left. -/
  | full (stream : Nat)
  /-- It reads a pipe that is empty while a writer may still write. -/
  | dry (stream : Nat)
  deriving DecidableEq, Repr

/-- Runs of programs in the world; a run that stops keeps the world it had changed so far. -/
abbrev Proc := ExceptT Blocked (StateM World)

/-- The programs of the system, as the shell sees them. -/
structure Launcher where
  /-- The fault the system refuses to start the file at a path text with, from a working
  directory; none when it starts it. -/
  refusal : Fs.Tree → Fs.Path → String → Option Fs.Fault
  /-- Runs a program the system started; its exit status. -/
  run : Call → Proc Nat

namespace Proc

/-- Opens a stream; its number. -/
def attach (s : Stream) : Proc Nat := modifyGet fun w => (w.attach s).swap

/-- Opens a pipe with room for `room` bytes, whose reader has gone when `gone` holds. -/
def openPipe (room : Nat) (gone : Bool) : Proc Nat :=
  attach (.pipe { Pipe.empty with room := some room, readerGone := gone })

/-- Opens a pipe that nobody reads: a writer that fills it waits. -/
def sinkPipe : Proc Nat := openPipe Pipe.capacity false

/-- Opens a pipe that nobody writes and nobody closes: a reader that finds it empty waits. -/
def idlePipe : Proc Nat := attach (.pipe Pipe.empty)

/-- Runs `m` and gives back where it stopped instead of stopping. -/
def attempt {α : Type} (m : Proc α) : Proc (Except Blocked α) := ExceptT.lift m.run

/-- Runs `writer` with its output into a new pipe and then `reader` with its input from it;
both are given the pipe's number. The two run one after the other, so when the writer fills the
pipe, the run goes back to where it started: if the reader, run on what the writer wrote so far,
needs more, the writer is given twice the room; if the reader ends after reading `k` bytes, the
writer is given room for `k` bytes more than the pipe holds, with the reader gone, so that a
writer that writes beyond is killed. Each retry costs one unit of `tries`; with none left the
writer is given a pipe without bound. -/
def piped {α β : Type} (writer : Nat → Proc β) (reader : Nat → Proc α) :
    Nat → Nat → Bool → Proc α
  | 0, _, _ => do
    let pid ← idlePipe
    let _ ← writer pid
    modify fun w => w.closePipe pid
    reader pid
  | tries + 1, room, gone => do
    let saved ← get
    let pid ← openPipe room gone
    match ← attempt (writer pid) with
    | .error (.full id) =>
      if id != pid then throw (.full id)
      else
        let before := ((← get).available pid).1.length
        match ← attempt (reader pid) with
        | .error (.dry id) =>
          if id != pid then throw (.dry id)
          else
            set saved
            piped writer reader tries (2 * room) false
        | .error b => throw b
        | .ok _ =>
          let left := ((← get).available pid).1.length
          set saved
          piped writer reader tries (before - left + Pipe.capacity) true
    | .error b => throw b
    | .ok _ =>
      modify fun w => w.closePipe pid
      reader pid

/-- Runs programs of the system from a world and waits for them: the world they leave and the
status of the last, or a line that never ends when one of them waits forever. -/
def wait (m : Proc Nat) (w : World) : World × Ending :=
  match (m.run.run w : Except Blocked Nat × World) with
  | (.ok st, w) => (w, .status st)
  | (.error _, w) => (w, .hang)

end Proc

/-- Reports a program that could not be started, as the shell does. -/
def startFailure (w : World) (program : String) (f : Fs.Fault) : World × Ending :=
  match f with
  | .noEntry => (w.say (program ++ ": command not found"), .status 127)
  | f => (w.say ("Error: " ++ f.message (some program)), .status 1)

/-- Opens the input file of a program's redirections, if it names one, as descriptor 0; the
other descriptors start at the shell's own streams. -/
def openInput (s : Shell) (w : World) (r : Word.Redirections) :
    World × Except (Fs.Fault × String) (List (Nat × Nat)) :=
  let fds := [(0, World.inputStream), (1, World.terminalStream), (2, World.errorStream)]
  match target? r.stdin with
  | some name =>
    match w.tree.readFile s.cwd name with
    | .ok (p, _) =>
      let (w, id) := w.attach (.file p 0 false)
      (w, .ok ((0, id) :: fds.filter (·.1 != 0)))
    | .error f => (w, .error (f, name))
  | none => (w, .ok fds)

/-- Opens a file for writing, if one is named, as descriptor `fd`, after the files opened so
far; after a failure nothing more is opened. -/
def openOutput (s : Shell) (fd : Nat) (name? : Option String) (append : Bool) :
    World × Except (Fs.Fault × String) (List (Nat × Nat)) →
      World × Except (Fs.Fault × String) (List (Nat × Nat))
  | (w, .error e) => (w, .error e)
  | (w, .ok fds) =>
    match target? name? with
    | some name =>
      match w.tree.openWrite s.cwd name append with
      | .ok (tree, p) =>
        let (w, id) := { w with tree := tree }.attach (.file p 0 append)
        (w, .ok ((fd, id) :: fds.filter (·.1 != fd)))
      | .error f => (w, .error (f, name))
    | none => (w, .ok fds)

/-- Opens the files of a program's redirections, input first. Returns the world, in which the
files opened before a failure stay created, and the descriptors, or the fault and the file it
concerns. -/
def openRedirections (s : Shell) (w : World) (r : Word.Redirections) :
    World × Except (Fs.Fault × String) (List (Nat × Nat)) :=
  openOutput s 2 r.stderr false (openOutput s 1 r.stdout r.append (openInput s w r))

/-- The environment programs receive: the shell's variables, and the terminal size the line
editor set when the session started, unless the shell has set or removed those names since. -/
def Shell.programEnv (s : Shell) : List (String × List UInt8) :=
  let base := s.env.vars.map fun (k, v) => (k, Text.utf8 v)
  let size := [("COLUMNS", "80"), ("LINES", "24")].filter fun (k, _) =>
    !s.env.contains k && !s.touched.contains k
  base ++ size.map fun (k, v) => (k, Text.utf8 v)

/-- The call that starts a program from the shell with the given descriptors. -/
def Shell.call (s : Shell) (program : String) (args : List String) (fds : List (Nat × Nat)) :
    Call :=
  ⟨program, args, s.programEnv, s.cwd, fds⟩

variable (L : Launcher)

/-- Runs a program with its arguments and descriptors, and waits for it: its status, or how the
shell reports a program the system does not start. A program that waits forever at a pipe keeps
the line from ending. -/
def runProgram (s : Shell) (w : World) (program : String) (args : List String)
    (fds : List (Nat × Nat)) : World × Ending :=
  if args.any hasNul then (w.say "Error: embedded null byte", .status 1)
  else
    match L.refusal w.tree s.cwd program with
    | some f => startFailure w program f
    | none => (L.run (s.call program args fds)).wait w

/-- Runs a command that is not one of the shell's own. -/
def runExternal (s : Shell) (w : World) (name : String) (args : List String)
    (r : Word.Redirections) : World × Ending :=
  match findExecutable s w name with
  | none => (w.say (name ++ ": command not found"), .status 127)
  | some program =>
    match openRedirections s w r with
    | (w, .error (.noEntry, _)) => (w.say (program ++ ": command not found"), .status 127)
    | (w, .error (f, file)) => (w.say ("Error: " ++ f.message (some file)), .status 1)
    | (w, .ok fds) => runProgram L s w program args fds

/-- The words of a command line up to the first word that starts a comment. -/
def commandWords (line : String) : List String :=
  (Word.split line).takeWhile fun t => !t.startsWith "#"

/-- Runs a command line without `|`. -/
def runCommand (s : Shell) (w : World) (line : String) : Shell × World × Ending :=
  match commandWords line with
  | [] => (s, w, .status 0)
  | ws =>
    match Word.Command.ofWords (Word.expand s.env (toString s.status) ws) with
    | .error e => (s, w.say e.message, .status 1)
    | .ok ⟨[], _⟩ => (s, w, .status 0)
    | .ok ⟨name :: args, r⟩ =>
      match Builtin.run? s w name args r with
      | some result => result
      | none =>
        let (w, e) := runExternal L s w name args r
        (s, w, e)

/-- A stage of a pipeline that starts: its program, its arguments, and whether its input or
output was redirected, which gives it a pipe nobody writes or reads. -/
structure Ready where
  program : String
  args : List String
  fed : Bool
  drained : Bool
  deriving Repr

/-- The program a stage started. -/
def Ready.child (r : Ready) : Child := ⟨r.program, r.args⟩

/-- Checks a stage of a pipeline as the shell does before it starts it: the stage that starts,
or what the shell prints and the status it returns when the stage cannot start. `first` and
`last` say whether the stage opens or closes the pipeline. -/
def checkStage (s : Shell) (w : World) (first last : Bool) (stage : String) :
    Except (Option String × Int) Ready :=
  match commandWords stage with
  | [] => .error (none, 1)
  | ws =>
    match Word.Command.ofWords (Word.expand s.env (toString s.status) ws) with
    | .error e => .error (some e.message, 1)
    | .ok ⟨[], _⟩ => .error (some "Error: list index out of range", 1)
    | .ok ⟨name :: args, r⟩ =>
      match findExecutable s w name with
      | none => .error (some (name ++ ": command not found"), 127)
      | some program =>
        if args.any hasNul then .error (some "Error: embedded null byte", 1)
        else
          match L.refusal w.tree s.cwd program with
          | none =>
            .ok ⟨program, args, first && (target? r.stdin).isSome,
              last && (target? r.stdout).isSome⟩
          | some .noEntry => .error (some (program ++ ": command not found"), 127)
          | some f => .error (some ("Error: " ++ f.message (some program)), 1)

/-- Checks the stages in order, as the shell starts them. Returns the stages that start and,
when one cannot, what the shell prints and the status it returns. -/
def prepareStages (s : Shell) (w : World) (first : Bool) :
    List String → List Ready × Option (Option String × Int)
  | [] => ([], none)
  | stage :: rest =>
    match checkStage L s w first rest.isEmpty stage with
    | .error e => ([], some e)
    | .ok r =>
      let (more, fault) := prepareStages s w false rest
      (r :: more, fault)

/-- Runs one stage with its descriptors; its status. -/
def runStage (s : Shell) (r : Ready) (input output errors : Nat) : Proc Nat :=
  L.run (s.call r.program r.args [(0, input), (1, output), (2, errors)])

/-- Runs the stages that started, each reading what the one before wrote, the last writing to
the terminal unless its output is redirected; the status of the last. -/
def runReady (s : Shell) : List Ready → Nat → Proc Nat
  | [], _ => pure 0
  | [r], input => do
    let out ← if r.drained then Proc.sinkPipe else pure World.terminalStream
    let err ← Proc.sinkPipe
    runStage L s r input out err
  | r :: rest, input => do
    let err ← Proc.sinkPipe
    Proc.piped (fun pid => runStage L s r input pid err) (fun pid => runReady s rest pid)
      64 Pipe.capacity false

/-- The stream the first stage reads: a pipe nobody writes or closes when its input is
redirected, the shell's own standard input otherwise. -/
def firstInput : List Ready → Proc Nat
  | r :: _ => if r.fed then Proc.idlePipe else pure World.inputStream
  | [] => pure World.inputStream

/-- Runs the pieces of a pipeline. When a stage cannot start, the shell reports it and returns
at once, and the stages it started before are left running. Otherwise the stages run together
and the shell waits for all of them: the line ends with the last stage's status, or never, when
a stage waits forever. -/
def runStages (s : Shell) (w : World) (pieces : List String) : World × Ending :=
  match prepareStages L s w true pieces with
  | (ready, some (msg, status)) =>
    let w := w.leaveRunning (ready.map Ready.child)
    ((match msg with
      | some text => w.say text
      | none => w), .status status)
  | (ready, none) => Proc.wait (do runReady L s ready (← firstInput ready)) w

/-- The pieces of a text between its bars, every bar counted: one more piece than bars. -/
def barPieces (line : String) : List String := (line.toList.splitOn '|').map String.ofList

/-- Runs a line that holds `|`: its pieces between the bars, trimmed, are the stages. -/
def runPipeline (s : Shell) (w : World) (line : String) : World × Ending :=
  runStages L s w ((barPieces line).map Text.trim)

end Conch

import Conch.Session.Run
import Conch.Sh.Launcher
/-!
The interactive shell on standard input and output. The session runs in a file tree of its own
that holds an empty home directory with a `bin` directory on `PATH`, and its programs are the
shell scripts of that tree. Each line is read after the prompt is shown; what the line prints
goes to standard output. At the end of the input the shell prints a line feed and stops; `exit`
stops it too, and its code becomes the exit status. When the prompt cannot be shown, the shell
says why, again and again; after a line that never ends, it reads nothing more.
-/

open Conch

/-- The home directory of an interactive session. -/
def homeDir : Fs.Path := ["home", "user"]

/-- The session an interactive shell starts with. -/
def initialSession : Session :=
  let tree := (Session.baseTree homeDir).makeDirs (homeDir ++ ["bin"])
  let env := Env.ofList [("HOME", homeDir.text), ("PATH", (homeDir ++ ["bin"]).text)]
  Session.start Sh.launcher tree env homeDir

/-- Says why the prompt cannot be shown, forever. -/
partial def spin (stdout : IO.FS.Stream) (f : Fs.Fault) : IO UInt32 := do
  stdout.putStrLn (Session.promptFailure f)
  stdout.flush
  spin stdout f

/-- Waits for a line that never ends. -/
partial def block : IO UInt32 := do
  IO.sleep 1000
  block

/-- Reads and runs lines until the input ends or the session exits. -/
partial def interact (stdin stdout : IO.FS.Stream) (ss : Session) : IO UInt32 := do
  match ss.prompt? with
  | .error f => spin stdout f
  | .ok prompt =>
    stdout.putStr prompt
    stdout.flush
    let line ← stdin.getLine
    if line.isEmpty then
      stdout.putStrLn ""
      return 0
    let text := if line.endsWith "\n" then String.ofList line.toList.dropLast else line
    let (ss, reply, going) := ss.runLine text
    match reply with
    | .line _ out _ => stdout.write (ByteArray.mk out.toArray)
    | .exit _ out _ => stdout.write (ByteArray.mk out.toArray)
    | .matches _ | .hang _ => pure ()
    stdout.flush
    match reply with
    | .exit _ _ code => return (code % 256).toNat.toUInt32
    | .hang _ => block
    | _ => if going then interact stdin stdout ss else return 0

def main : IO UInt32 := do
  interact (← IO.getStdin) (← IO.getStdout) initialSession

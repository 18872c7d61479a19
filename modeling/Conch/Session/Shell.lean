import Conch.Env
import Conch.World
/-!
The state of an interactive shell and the prompt it shows.

The shell keeps its environment, its working directory, the status of the last line, and the
history of lines read. The home directory is the value of `HOME` without trailing slashes (the
root when nothing is left), or the account's home when `HOME` is not set; `~` at the start of a
path stands for it, and `~name` for the home of a known account. The prompt shows the working
directory, with `~` in place of the home directory when the directory's text starts with it, and
then ` $ `.
-/

namespace Conch

/-- The state of an interactive shell. -/
structure Shell where
  env : Env
  cwd : Fs.Path
  /-- The status of the last line. -/
  status : Int
  /-- The lines read, oldest first. -/
  history : List String
  /-- The names the shell has set or removed since it started. -/
  touched : List String
  deriving Repr

/-- The home directory of the account the shell runs as. -/
def accountHome : String := "/root"

/-- The accounts whose home directories `~name` knows. -/
def accounts : List (String × String) := [("root", accountHome)]

namespace Shell

/-- The home directory before trailing slashes are removed. -/
def homeSetting (s : Shell) : String := (s.env.get? "HOME").getD accountHome

/-- Removes the slashes at the end of a text. -/
def dropTrailingSlashes (t : String) : String :=
  String.ofList (t.toList.reverse.dropWhile (· = '/')).reverse

/-- Expands a leading `~` or `~name` of a path text. -/
def expandHome (s : Shell) (path : String) : String :=
  match path.toList with
  | '~' :: rest =>
    let name := rest.takeWhile (· ≠ '/')
    let after := String.ofList (rest.drop name.length)
    let home :=
      if name.isEmpty then some s.homeSetting else accounts.lookup (String.ofList name)
    match home with
    | some h =>
      let t := dropTrailingSlashes h ++ after
      if t.isEmpty then "/" else t
    | none => path
  | _ => path

/-- The home directory. -/
def home (s : Shell) : String := s.expandHome "~"

/-- The prompt shown before a line is read. -/
def prompt (s : Shell) : String :=
  let cwd := s.cwd.text
  let h := s.home
  let shown := if cwd.startsWith h then "~" ++ String.ofList (cwd.toList.drop h.length) else cwd
  shown ++ " $ "

/-- Adds a line to the history: a non-empty line that differs from the last one. -/
def remember (s : Shell) (line : String) : Shell :=
  if line.isEmpty || s.history.getLast? = some line then s
  else { s with history := s.history ++ [line] }

end Shell

end Conch

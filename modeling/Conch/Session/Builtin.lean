import Conch.Session.Shell
import Conch.Text.Integer
import Conch.Word.Redirect
/-!
The commands the shell runs itself: `cd`, `pwd`, `echo`, `exit`, `export`, `unset`, `history`,
`type`, `ls`, `cat` and `clear`.

Only `echo`, `ls` and `cat` follow an output redirection: they build their whole text first and
then open the file, replacing or appending, so a command that fails leaves the file as it was.
The others print to the terminal whatever the redirections say. `cat` reads every file as UTF-8,
turns `\r\n` and a lone `\r` into `\n`, and writes nothing unless every file could be read.
`cd` and `ls` report a missing directory and a refused access in words of their own that name
the path they were given, and `cat` a missing file; any other fault is reported in the system's
words, which name the file.
`export` applies its arguments in order and stops at the first one the environment refuses (an
empty name, or a NUL character); `exit` ends the session with the number its first argument
writes, or fails when that argument is no number.
-/

namespace Conch

/-- How a line ends. -/
inductive Ending
  /-- The line ran and left this status. -/
  | status (n : Int)
  /-- An error escaped the command; the shell reports `Error: message` and the status is 1. -/
  | failure (message : String)
  /-- The session ends with this code. -/
  | exit (code : Int)
  /-- The line never ends: the shell waits for a program that waits forever. -/
  | hang
  deriving DecidableEq, Repr

/-- The names of the commands the shell runs itself, in the order `type` knows them. -/
def builtinNames : List String :=
  ["cd", "pwd", "echo", "exit", "export", "unset", "history", "type", "ls", "cat", "clear"]

/-- The name of the file a stream redirection names, when it names one: an empty name counts
as none. -/
def target? : Option String → Option String
  | some t => if t.isEmpty then none else some t
  | none => none

/-- Prints a line on the terminal. -/
def World.say (w : World) (line : String) : World := w.print (line ++ "\n")

/-- Writes a text to the named file as the shell does: open, replacing or appending, then write. -/
def writeText (w : World) (cwd : Fs.Path) (name : String) (append : Bool) (text : String) :
    Except Fs.Fault World :=
  match w.tree.openWrite cwd name append with
  | .ok (tree, p) =>
    let start := if append then (tree.data p).length else 0
    .ok { w with tree := (tree.writeAt p start (Text.utf8 text)).1 }
  | .error f => .error f

/-- Pads a text on the left with spaces to `width` characters. -/
def padLeft (width : Nat) (s : String) : String :=
  String.ofList (List.replicate (width - s.length) ' ') ++ s

/-- Turns `\r\n` and lone `\r` into `\n`. -/
def unifyNewlines : List Char → List Char
  | '\r' :: '\n' :: rest => '\n' :: unifyNewlines rest
  | '\r' :: rest => '\n' :: unifyNewlines rest
  | c :: rest => c :: unifyNewlines rest
  | [] => []

/-- Whether a text holds the character NUL. -/
def hasNul (s : String) : Bool := s.contains (Char.ofNat 0)

/-- Where `type` and the shell find a program: the first directory of `PATH` (an empty entry
meaning the working directory) that holds an executable file of that name. -/
def findExecutable (s : Shell) (w : World) (name : String) : Option String :=
  let dirs := ((s.env.get? "PATH").getD "").splitOn ":"
  (dirs.map fun d => Fs.join (if d.isEmpty then s.cwd.text else d) name).find? fun p =>
    w.tree.isFile s.cwd p && w.tree.isExecutableFile s.cwd p

namespace Builtin

/-- A command's result: the shell, the world and how the line ends. -/
abbrev Result := Shell × World × Ending

/-- `cd [dir]`. -/
def cd (s : Shell) (w : World) (args : List String) : Result :=
  let target := s.expandHome (args.head?.getD "~")
  match w.tree.changeDir s.cwd target with
  | .ok dir => ({ s with cwd := dir }, w, .status 0)
  | .error .noEntry => (s, w.say ("cd: " ++ target ++ ": No such file or directory"), .status 1)
  | .error .permissionDenied => (s, w.say ("cd: " ++ target ++ ": Permission denied"), .status 1)
  | .error f => (s, w.say ("cd: " ++ f.message (some target)), .status 1)

/-- `pwd`. -/
def pwd (s : Shell) (w : World) : Result := (s, w.say s.cwd.text, .status 0)

/-- `echo [word...]`. -/
def echo (s : Shell) (w : World) (args : List String) (r : Word.Redirections) : Result :=
  let text := " ".intercalate args
  match target? r.stdout with
  | some name =>
    match writeText w s.cwd name r.append (text ++ "\n") with
    | .ok w => (s, w, .status 0)
    | .error f => (s, w.say ("echo: " ++ f.message (some name)), .status 1)
  | none => (s, w.say text, .status 0)

/-- Sets one variable of the environment, or says why the environment refuses it. -/
def setVariable (env : Env) (name value : String) : Except String Env :=
  if hasNul name || hasNul value then .error "embedded null byte"
  else if name.isEmpty then .error (Fs.Fault.invalidArgument.message none)
  else .ok (env.set name value)

/-- `export [name[=value]...]`. -/
def exportAll (s : Shell) (w : World) : List String → Result
  | [] => (s, w, .status 0)
  | a :: rest =>
    let step : Except String Env :=
      if a.contains '=' then
        let name := String.ofList (a.toList.takeWhile (· ≠ '='))
        let value := String.ofList ((a.toList.dropWhile (· ≠ '=')).drop 1)
        setVariable s.env name value
      else if s.env.contains a then .ok s.env
      else setVariable s.env a ""
    let name := String.ofList (a.toList.takeWhile (· ≠ '='))
    match step with
    | .ok env => exportAll { s with env := env, touched := s.touched ++ [name] } w rest
    | .error e => (s, w, .failure e)

/-- `unset [name...]`. -/
def unset (s : Shell) (w : World) (args : List String) : Result :=
  ({ s with env := args.foldl Env.erase s.env, touched := s.touched ++ args }, w, .status 0)

/-- `history`: the remembered lines, numbered from one. -/
def history (s : Shell) (w : World) : Result :=
  let lines := (List.range s.history.length).zip s.history
  (s, lines.foldl (fun w (i, line) => w.say (padLeft 5 (toString (i + 1)) ++ "  " ++ line)) w,
    .status 0)

/-- `type name...`: stops at the first name that is neither a command of the shell nor found. -/
def type (s : Shell) (w : World) (args : List String) : Result :=
  if args.isEmpty then (s, w.say "type: usage: type command", .status 1)
  else go w args
where
  /-- Reports the names one by one. -/
  go (w : World) : List String → Result
    | [] => (s, w, .status 0)
    | name :: rest =>
      if builtinNames.contains name then go (w.say (name ++ " is a shell builtin")) rest
      else match findExecutable s w name with
        | some p => go (w.say (name ++ " is " ++ p)) rest
        | none => (s, w.say (name ++ ": not found"), .status 1)

/-- The line `ls -l` shows for an entry of the directory `dir`. -/
def longLine (s : Shell) (w : World) (dir entry : String) : String :=
  match w.tree.stat s.cwd (Fs.join dir entry) with
  | .ok (_, n) =>
    (if n = .dir then "d" else "-") ++ "  " ++ padLeft 10 (toString n.size) ++ "  " ++ entry
  | .error _ => "-  " ++ padLeft 10 "?" ++ "  " ++ entry

/-- Sorts texts by code point. -/
def sortTexts (xs : List String) : List String := xs.mergeSort fun a b => !decide (b < a)

/-- The directory `ls` lists: its first argument that is no option, else the working
directory. -/
def lsTarget (args : List String) : String := (args.filter fun a => !a.startsWith "-").head?.getD "."

/-- What `ls` says when listing `target` fails on `file`: a missing file or a refused access is
said of the directory listed, any other fault in its own words, which name the file. -/
def lsFailure (target file : String) : Fs.Fault → String
  | .noEntry => target ++ ": No such file or directory"
  | .permissionDenied => target ++ ": Permission denied"
  | f => f.message (some file)

/-- `ls [-a] [-l] [dir]`. -/
def ls (s : Shell) (w : World) (args : List String) (r : Word.Redirections) : Result :=
  let showAll := args.contains "-a"
  let long := args.contains "-l"
  let target := lsTarget args
  match w.tree.listDir s.cwd target with
  | .error f => (s, w.say ("ls: " ++ lsFailure target target f), .status 1)
  | .ok names =>
    let entries := sortTexts (names.filter fun e => showAll || !e.startsWith ".")
    let text :=
      if long then "\n".intercalate (entries.map (longLine s w target)) else "  ".intercalate entries
    match target? r.stdout with
    | some name =>
      match writeText w s.cwd name r.append (text ++ "\n") with
      | .ok w => (s, w, .status 0)
      | .error f => (s, w.say ("ls: " ++ lsFailure target name f), .status 1)
    | none => (s, w.say text, .status 0)

/-- Reads the files for `cat`, in order: their text, or the message of the first failure. -/
def readAll (s : Shell) (w : World) : List String → Except String String
  | [] => .ok ""
  | name :: rest =>
    match w.tree.readFile s.cwd name with
    | .error .noEntry => .error (name ++ ": No such file or directory")
    | .error f => .error (f.message (some name))
    | .ok (_, data) =>
      match Text.decode data with
      | .error e => .error e.message
      | .ok text =>
        match readAll s w rest with
        | .ok more => .ok (String.ofList (unifyNewlines text.toList) ++ more)
        | .error e => .error e

/-- `cat file...`. -/
def cat (s : Shell) (w : World) (args : List String) (r : Word.Redirections) : Result :=
  if args.isEmpty then (s, w.say "cat: usage: cat file...", .status 1)
  else
    match readAll s w args with
    | .error e => (s, w.say ("cat: " ++ e), .status 1)
    | .ok text =>
      match target? r.stdout with
      | some name =>
        match writeText w s.cwd name r.append text with
        | .ok w => (s, w, .status 0)
        | .error .noEntry => (s, w.say ("cat: " ++ name ++ ": No such file or directory"), .status 1)
        | .error f => (s, w.say ("cat: " ++ f.message (some name)), .status 1)
      | none => (s, w.print text, .status 0)

/-- `exit [n]`. -/
def exit (s : Shell) (w : World) (args : List String) : Result :=
  match args with
  | [] => (s, w, .exit 0)
  | a :: _ =>
    match Text.readInteger a with
    | .ok n => (s, w, .exit n)
    | .error e => (s, w, .failure (e.message a))

/-- Runs the shell's own command `name`, if it is one. -/
def run? (s : Shell) (w : World) (name : String) (args : List String) (r : Word.Redirections) :
    Option Result :=
  match name with
  | "exit" => some (exit s w args)
  | "cd" => some (cd s w args)
  | "pwd" => some (pwd s w)
  | "echo" => some (echo s w args r)
  | "export" => some (exportAll s w args)
  | "unset" => some (unset s w args)
  | "history" => some (history s w)
  | "type" => some (type s w args)
  | "ls" => some (ls s w args r)
  | "cat" => some (cat s w args r)
  | "clear" => some (s, w, .status 0)
  | _ => none

end Builtin

end Conch

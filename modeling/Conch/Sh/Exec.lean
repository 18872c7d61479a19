import Conch.Sh.Builtin
/-!
Starting programs from files, and the state a shell starts with.

The system starts a file that may be executed by looking at its first bytes. A first line
`#!interpreter [argument]` names the program to run on it: the interpreter is the text after `#!`
and any blanks, up to the next blank; the argument is the rest of the line without its outer
blanks. When the interpreter is the shell, the shell runs the file's text with the argument as
its options. An interpreter that is a directory may not be executed, one whose path runs through
a file is not a directory, and one that does not exist is missing. A file without an interpreter
line has no format the system knows; the shell then runs it as a script itself, while other
callers report the fault.

Outside the file tree the system holds the usual directories, the shell under its usual names,
`env`, which as an interpreter runs the program its argument names, looked up in the search
path, on the file (`-S` splits the argument into the program and its options), and `rmdir`,
which removes the empty directories its arguments name; nothing else of it is visible to
scripts.

A shell starts with the variables of its environment, all exported. `IFS` and `OPTIND` are set
to their defaults whatever the environment says, `PS1`, `PS2`, `PS4` and `PATH` get defaults when
the environment has none, `PPID` is the parent's process number, and `PWD` keeps the
environment's value when that names the working directory and is the directory's own path
otherwise.
-/

namespace Conch.Sh

/-- How the system starts the program in a file. -/
inductive Launch
  /-- The file names the shell, at the path `interp`, as its interpreter, with these arguments
  before the file's path. -/
  | shell (interp : Bytes) (flags : List Bytes)
  /-- The file has no interpreter line. -/
  | noFormat (text : Bytes)
  /-- The file names the program that looks another one up in the search path, at the path
  `interp`, with the argument `arg` naming the program. -/
  | lookup (interp : Bytes) (arg : Bytes)
  /-- The system refuses to start it. -/
  | fault (f : Fs.Fault)
  deriving Repr

/-- The paths of the program that runs a program it looks up in the search path. -/
def lookupPaths : List String := ["/usr/bin/env", "/bin/env"]

/-- The paths of the shell outside the file tree. -/
def shellPaths : List String :=
  ["/bin/sh", "/bin/dash", "/usr/bin/sh", "/usr/bin/dash", "/bin/bash", "/usr/bin/bash"]

/-- The directories of the system outside the file tree. -/
def systemDirs : List String :=
  ["/", "/bin", "/usr", "/usr/bin", "/usr/sbin", "/sbin", "/usr/local", "/usr/local/bin",
    "/usr/local/sbin", "/usr/lib", "/usr/share", "/lib", "/lib64", "/etc", "/var", "/opt",
    "/home", "/proc", "/sys", "/run", "/srv", "/mnt", "/media", "/boot"]

/-- Where an interpreter path leads on the system: to the shell, or to a fault. -/
def interpreterAt (t : Fs.Tree) (cwd : Fs.Path) (text : String) : Except Fs.Fault Unit :=
  let parts := Fs.names text
  let prefixes := (List.range parts.length).map fun k => "/" ++ "/".intercalate (parts.take (k + 1))
  let inner := prefixes.dropLast
  if text.startsWith "/" && inner.any shellPaths.contains then .error .notDirectory
  else if shellPaths.contains text then .ok ()
  else if text.startsWith "/" && shellPaths.any (fun p => text.startsWith (p ++ "/")) then
    .error .notDirectory
  else if systemDirs.contains text || (text.startsWith "/" && parts.isEmpty) then
    .error .permissionDenied
  else
    match t.stat cwd text with
    | .ok (_, .dir) => .error .permissionDenied
    | .ok (_, .file _ _) => .error .execFormat
    | .ok _ => .error .permissionDenied
    | .error f => .error f

/-- Whether a path text names the shell outside the file tree. -/
def isShellPath (p : String) : Bool :=
  p.startsWith "/" && shellPaths.contains ("/" ++ "/".intercalate (Fs.names p))

/-- The paths of the program that removes empty directories, outside the file tree. -/
def removeDirPaths : List String := ["/bin/rmdir", "/usr/bin/rmdir"]

/-- Whether a path text names the program that removes empty directories. -/
def isRemoveDirPath (p : String) : Bool :=
  p.startsWith "/" && removeDirPaths.contains ("/" ++ "/".intercalate (Fs.names p))

/-- Whether a byte is a blank of an interpreter line. -/
def isBlankByte (b : UInt8) : Bool := b == 32 || b == 9

/-- How the system starts a file holding `data`, at a path that may be executed. -/
def launchData (t : Fs.Tree) (cwd : Fs.Path) (data : Bytes) : Launch :=
  match data with
  | 35 :: 33 :: _ =>
    let buf := data.take 256
    let line := buf.takeWhile (· != 10)
    if line.length == buf.length && buf.length == 256 &&
        !((line.drop 2).dropWhile isBlankByte |>.any fun b => isBlankByte b || b == 0) then
      .noFormat data
    else
      let body := ((line.drop 2).reverse.dropWhile isBlankByte).reverse
      let body := body.dropWhile isBlankByte
      let interp := body.takeWhile fun b => !isBlankByte b && b != 0
      let after := body.drop interp.length
      let arg := match after with
        | 0 :: _ => []
        | _ => after.dropWhile isBlankByte
      if interp.isEmpty then .noFormat data
      else if lookupPaths.contains (pathText interp) then .lookup interp arg
      else
        match interpreterAt t cwd (pathText interp) with
        | .ok () => .shell interp (if arg.isEmpty then [] else [arg])
        | .error f => .fault f
  | _ => .noFormat data

/-- How the system starts the file at a path text. -/
def launchOf (t : Fs.Tree) (cwd : Fs.Path) (path : String) : Launch :=
  match t.stat cwd path with
  | .ok (_, .file data true) =>
    if path.endsWith "/" then .fault .notDirectory else launchData t cwd data
  | .ok (_, .file _ false) => .fault .permissionDenied
  | .ok _ => .fault .permissionDenied
  | .error f => .fault f

/-- Reads the shell's own arguments: after `-` letters turn options on, after `+` off, and `-`
or `--` alone ends them, as does the first argument that starts with neither. `c` and `l` are
taken and have no effect; `o` takes the next argument as the long name of an option. Returns the
options and the arguments after them, or the message for an option the shell does not have;
each round reads one argument, so as many rounds as arguments suffice. -/
def startArgs : Nat → Options → List Bytes → Except String (Options × List Bytes)
  | _, o, [] => .ok (o, [])
  | 0, o, args => .ok (o, args)
  | k + 1, o, a :: rest =>
    match a with
    | [45] | [45, 45] => .ok (o, rest)
    | c :: letters =>
      if c == 45 || c == 43 then
        match letterArgs o (c == 45) letters rest with
        | .ok (o, rest) => startArgs k o rest
        | .error e => .error e
      else .ok (o, a :: rest)
    | [] => .ok (o, a :: rest)
where
  /-- Applies the letters of one argument. -/
  letterArgs (o : Options) (on : Bool) : List UInt8 → List Bytes → Except String (Options × List Bytes)
    | [], rest => .ok (o, rest)
    | 111 :: more, rest =>
      match rest with
      | [] => letterArgs o on more []
      | name :: rest' =>
        match Options.table.find? fun (_, n) => n == textOf name with
        | some (c, _) => letterArgs (o.set c on) on more rest'
        | none => .error ("Illegal option -o " ++ textOf name)
    | c :: more, rest =>
      let ch := charOf c
      if ch == 'c' || ch == 'l' then letterArgs o on more rest
      else if (Options.table.map (·.1)).contains ch && ch != ' ' then letterArgs (o.set ch on) on more rest
      else .error ("Illegal option -" ++ toString ch)

/-- The search path used when `PATH` is not set. -/
def defaultPath : Bytes := utf8 "/usr/local/sbin:/usr/local/bin:/usr/sbin:/usr/bin:/sbin:/bin"

/-- Splits a search path at its colons. -/
def pathEntries (p : Bytes) : List Bytes :=
  (p.splitOn 58)

/-- The first file named `name` in the directories of a search path; an empty entry is the
working directory. -/
def findIn (t : Fs.Tree) (cwd : Fs.Path) (path : Bytes) (name : Bytes) : Option Bytes :=
  (pathEntries path).findSome? fun dir =>
    let candidate := if dir.isEmpty then name else dir ++ [47] ++ name
    if t.isFile cwd (pathText candidate) then some candidate else none

/-- Looks a command up in a search path: the first file of that name that may be executed.
When there is none, says whether some directory of the path held a file or directory of that
name, which makes the command one that may not be executed rather than one not found. -/
def searchPath (t : Fs.Tree) (cwd : Fs.Path) (path : Bytes) (name : Bytes) : Except Bool Bytes :=
  let candidates := (pathEntries path).map fun dir => if dir.isEmpty then name else dir ++ [47] ++ name
  match candidates.find? fun c => t.isExecutableFile cwd (pathText c) with
  | some c => .ok c
  | none => .error (candidates.any fun c => (t.stat cwd (pathText c)).toOption.isSome)

/-- The home directories of the system's accounts. -/
def accountHomes : List (String × String) :=
  [("root", "/root"), ("daemon", "/usr/sbin"), ("bin", "/bin"), ("sys", "/dev"), ("sync", "/bin"),
    ("games", "/usr/games"), ("man", "/var/cache/man"), ("lp", "/var/spool/lpd"),
    ("mail", "/var/mail"), ("news", "/var/spool/news"), ("uucp", "/var/spool/uucp"),
    ("proxy", "/bin"), ("www-data", "/var/www"), ("backup", "/var/backups"),
    ("list", "/var/list"), ("irc", "/run/ircd"), ("_apt", "/nonexistent"),
    ("nobody", "/nonexistent")]

/-- The directory `~name` stands for: the value of `HOME` for an empty name, the account's home
directory otherwise; nothing when there is none. -/
def homeOf (s : State) (name : Bytes) : Option Bytes :=
  if name.isEmpty then s.get? "HOME"
  else (accountHomes.lookup (textOf name)).map utf8

namespace State

/-- Sets a variable's value, keeping whether it is exported, or adds it unexported. -/
def withDefault (vars : List (String × Var)) (name : String) (value : Bytes) (force : Bool) :
    List (String × Var) :=
  match vars.lookup name with
  | some v =>
    if force then vars.map fun q => if q.1 == name then (name, { v with value := some value }) else q
    else vars
  | none => vars ++ [(name, ⟨some value, false, false⟩)]

/-- The state a shell starts with. -/
def start (env : List (String × Bytes)) (arg0 : Bytes) (params : List Bytes) (t : Fs.Tree)
    (cwd : Fs.Path) (fds : List (Nat × Nat)) (opts : Options) (pid : Nat) : State :=
  let vars : List (String × Var) := env.foldl (fun acc (k, v) =>
    (acc.filter (·.1 != k)) ++ [(k, ⟨some v, true, false⟩)]) []
  let vars := withDefault vars "IFS" [32, 9, 10] true
  let vars := withDefault vars "OPTIND" [49] true
  let vars := withDefault vars "PS1" (utf8 "# ") false
  let vars := withDefault vars "PS2" (utf8 "> ") false
  let vars := withDefault vars "PS4" (utf8 "+ ") false
  let vars := withDefault vars "PATH" defaultPath false
  let vars := withDefault vars "PPID" (decimal (pid - 1)) true
  let here := match vars.lookup "PWD" |>.bind (·.value) with
    | some p =>
      let text := pathText p
      match t.changeDir [] text with
      | .ok q => if text.startsWith "/" && q == cwd then text else cwd.text
      | .error _ => cwd.text
    | none => cwd.text
  let vars := (vars.filter (·.1 != "PWD")) ++ [("PWD", ⟨some (utf8 here), true, false⟩)]
  { vars := vars, params := params, arg0 := arg0, status := 0, opts := opts, funcs := [],
    cwd := cwd, curdir := some here, fds := fds, line := 0, parseLine := 1, loops := 0,
    depth := 0, builtin := none, frames := [], pid := pid, traps := [], mask := 18 }

/-- The state of a caller that is not a shell but starts programs: it holds only what they
inherit, its exported environment, its directory and its descriptors. -/
def host (env : List (String × Bytes)) (cwd : Fs.Path) (fds : List (Nat × Nat)) : State :=
  { vars := env.map fun (k, v) => (k, ⟨some v, true, false⟩), params := [], arg0 := [],
    status := 0, opts := Options.off, funcs := [], cwd := cwd, curdir := some cwd.text,
    fds := fds, line := 0, parseLine := 0, loops := 0, depth := 0, builtin := none,
    frames := [], pid := 4242, traps := [], mask := 18 }

/-- The environment a program started by the shell receives. -/
def exported (s : State) : List (String × Bytes) :=
  s.vars.filterMap fun (k, v) => if v.exported then v.value.map (k, ·) else none

end State

end Conch.Sh

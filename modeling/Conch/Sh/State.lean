import Conch.World
import Conch.Sh.Syntax
/-!
The state of a running shell.

A shell has variables (byte strings, each marked whether it is passed on to the programs it runs
and whether it may still change), positional parameters, its own name `$0`, the status of the
last command, its options, its functions, its working directory both as the directory it is in
and as the text it shows for it, and descriptors that refer to streams of the world. It also keeps
the line of the command it runs (for messages), the line the reader has reached, how many loops
and function calls enclose the command, the name of the builtin that runs (messages of a builtin
are prefixed with it), the saved variables of `local`, the traps, the file mode mask, and the
status the shell leaves with while its `EXIT` trap runs.

Messages go to descriptor 2 as `name: line: text`, with the builtin's name after the line while a
builtin runs.
-/

namespace Conch.Sh

/-- A byte string as text, one character per byte: names, numbers and operators are ASCII. -/
def textOf (bs : Bytes) : String := String.ofList (bs.map fun b => Char.ofNat b.toNat)

/-- The bytes of a text in UTF-8. -/
def utf8 (s : String) : Bytes := s.toUTF8.toList

/-- The decimal text of a number. -/
def decimal (n : Int) : Bytes := utf8 (toString n)

/-- A text for the file tree: the bytes read as UTF-8, or one character per byte when they are
not UTF-8. -/
def pathText (bs : Bytes) : String :=
  match String.fromUTF8? (ByteArray.mk bs.toArray) with
  | some s => s
  | none => textOf bs

/-- A variable: its value (`none` when it is declared but not set), whether it is passed on to
programs, and whether it is read-only. -/
structure Var where
  value : Option Bytes
  exported : Bool
  readonly : Bool
  deriving Repr

/-- The options of a shell. -/
structure Options where
  /-- `-e`: a failing command ends the shell. -/
  errexit : Bool
  /-- `-f`: no pathname expansion. -/
  noglob : Bool
  /-- `-n`: read commands without running them. -/
  noexec : Bool
  /-- `-u`: expanding an unset parameter is an error. -/
  nounset : Bool
  /-- `-x`: show each command before running it. -/
  xtrace : Bool
  /-- `-v`: show the input as it is read. -/
  verbose : Bool
  /-- `-C`: `>` does not overwrite files. -/
  noclobber : Bool
  /-- `-a`: variables set are exported. -/
  allexport : Bool
  /-- The other options that are set, by letter: `-i` makes the shell interactive, `-s` reads
  commands from the standard input, `-I` keeps the shell from leaving at the end of its input;
  the rest only show in `$-`. -/
  others : List Char
  deriving Repr

namespace Options

/-- No option set. -/
def off : Options := ⟨false, false, false, false, false, false, false, false, []⟩

/-- The options with their letters and long names, in the order `set -o` lists them. -/
def table : List (Char × String) :=
  [('e', "errexit"), ('f', "noglob"), ('I', "ignoreeof"), ('i', "interactive"),
    ('m', "monitor"), ('n', "noexec"), ('s', "stdin"), ('x', "xtrace"), ('v', "verbose"),
    ('V', "vi"), ('E', "emacs"), ('C', "noclobber"), ('a', "allexport"), ('b', "notify"),
    ('u', "nounset"), ('p', "privileged"), (' ', "nolog"), (' ', "debug")]

/-- Whether the option of a letter is set. -/
def get (o : Options) (c : Char) : Bool :=
  match c with
  | 'e' => o.errexit
  | 'f' => o.noglob
  | 'n' => o.noexec
  | 'u' => o.nounset
  | 'x' => o.xtrace
  | 'v' => o.verbose
  | 'C' => o.noclobber
  | 'a' => o.allexport
  | _ => o.others.contains c

/-- Sets or clears the option of a letter of the table; other letters are ignored. Of the two
line editing modes `V` and `E`, setting one clears the other. -/
def set (o : Options) (c : Char) (on : Bool) : Options :=
  match c with
  | 'e' => { o with errexit := on }
  | 'f' => { o with noglob := on }
  | 'n' => { o with noexec := on }
  | 'u' => { o with nounset := on }
  | 'x' => { o with xtrace := on }
  | 'v' => { o with verbose := on }
  | 'C' => { o with noclobber := on }
  | 'a' => { o with allexport := on }
  | _ =>
    if c == ' ' || !(table.map (·.1)).contains c then o
    else if on then
      let rival := if c == 'V' then ['E'] else if c == 'E' then ['V'] else []
      { o with others := (o.others.filter fun d => d != c && !rival.contains d) ++ [c] }
    else { o with others := o.others.erase c }

/-- The letters of the options set, as `$-` shows them: from the end of the table. -/
def letters (o : Options) : List Char :=
  ((table.map (·.1)).filter fun c => c != ' ' && o.get c).reverse

end Options

/-- The state of a running shell. -/
structure State where
  vars : List (String × Var)
  params : List Bytes
  /-- The shell's own name, `$0`. -/
  arg0 : Bytes
  /-- The status of the last command, `$?`. -/
  status : Nat
  opts : Options
  funcs : List (String × Cmd)
  /-- The directory the shell is in. -/
  cwd : Fs.Path
  /-- The text the shell shows for its directory, when it knows one. -/
  curdir : Option String
  /-- Descriptors and the streams they refer to. -/
  fds : List (Nat × Nat)
  /-- The line of the command being run. -/
  line : Nat
  /-- The line the reader has reached. -/
  parseLine : Nat
  /-- How many loops enclose the command. -/
  loops : Nat
  /-- How many function calls enclose the command. -/
  depth : Nat
  /-- The builtin that runs, if one does. -/
  builtin : Option String
  /-- The variables `local` saved, one frame per function call, innermost first. -/
  frames : List (List (String × Option Var))
  /-- The shell's process number. -/
  pid : Nat
  /-- The commands to run on signals and on leaving the shell (`EXIT`), by condition name. -/
  traps : List (String × Bytes)
  /-- The file mode creation mask. -/
  mask : Nat
  /-- While the `EXIT` trap runs, the status the shell was leaving with: `exit` without an
  operand leaves with it. -/
  leaving : Option Nat := none
  /-- Where `getopts` goes on: the index of the next argument, counted from 1. Setting `OPTIND`
  sets it, and a function call starts it again at 1. -/
  optind : Nat := 1
  /-- Where `getopts` goes on inside the argument before `optind`, when it stopped inside it. -/
  optoff : Option Nat := none
  /-- The background commands started, newest first: process number and exit status. -/
  jobs : List (Nat × Nat) := []
  /-- The aliases, by name, in the order they were first defined. -/
  aliases : List (String × String) := []

namespace State

/-- The variable of a name. -/
def var? (s : State) (name : String) : Option Var := s.vars.lookup name

/-- The value of a variable, when it is set. -/
def get? (s : State) (name : String) : Option Bytes := (s.var? name).bind (·.value)

/-- The value of a variable, or nothing when it is not set. -/
def getD (s : State) (name : String) : Bytes := (s.get? name).getD []

/-- Replaces or adds the variable of a name. -/
def putVar (s : State) (name : String) (v : Var) : State :=
  if (s.var? name).isSome then
    { s with vars := s.vars.map fun q => if q.1 == name then (name, v) else q }
  else { s with vars := s.vars ++ [(name, v)] }

/-- Setting `OPTIND` to a number makes `getopts` start again there (at 1 for 0); any other
value is refused. -/
def resetOptions (s : State) (name : String) (value : Bytes) : Except String State :=
  if name != "OPTIND" then .ok s
  else if value.isEmpty || !value.all (fun b => 48 ≤ b && b ≤ 57) then
    .error ("Illegal number: " ++ textOf value)
  else
    let n := value.foldl (fun a b => a * 10 + (b.toNat - 48)) 0
    .ok { s with optind := if n == 0 then 1 else n, optoff := none }

/-- Sets a variable, keeping its marks; exported too when `-a` is set. Fails with the message
for a read-only variable. -/
def setVar (s : State) (name : String) (value : Bytes) : Except String State :=
  match s.var? name with
  | some v =>
    if v.readonly then .error (name ++ ": is read only")
    else
      let v' : Var := { v with value := some value, exported := v.exported || s.opts.allexport }
      (s.putVar name v').resetOptions name value
  | none => (s.putVar name ⟨some value, s.opts.allexport, false⟩).resetOptions name value

/-- Marks a variable as exported, setting it first when a value is given. -/
def exportVar (s : State) (name : String) (value : Option Bytes) : Except String State :=
  match s.var? name, value with
  | some v, some _ => if v.readonly then .error (name ++ ": is read only")
      else .ok (s.putVar name { v with value := value, exported := true })
  | some v, none => .ok (s.putVar name { v with exported := true })
  | none, _ => .ok (s.putVar name ⟨value, true, false⟩)

/-- Marks a variable as read-only, setting it first when a value is given. -/
def readonlyVar (s : State) (name : String) (value : Option Bytes) : Except String State :=
  match s.var? name, value with
  | some v, some _ => if v.readonly then .error (name ++ ": is read only")
      else .ok (s.putVar name { v with value := value, readonly := true })
  | some v, none => .ok (s.putVar name { v with readonly := true })
  | none, _ => .ok (s.putVar name ⟨value, false, true⟩)

/-- Removes a variable. Fails for a read-only one. -/
def unsetVar (s : State) (name : String) : Except String State :=
  match s.var? name with
  | some v => if v.readonly then .error (name ++ ": is read only")
      else .ok { s with vars := s.vars.filter (·.1 != name) }
  | none => .ok s

/-- Puts a variable back as it was. -/
def restoreVar (s : State) (name : String) (old : Option Var) : State :=
  match old with
  | some v => s.putVar name v
  | none => { s with vars := s.vars.filter (·.1 != name) }

/-- The characters that split fields and the words `read` reads. -/
def ifs (s : State) : Bytes := (s.get? "IFS").getD [32, 9, 10]

/-- The value of `$-`. -/
def flags (s : State) : Bytes := (s.opts.letters.map fun c => c.toNat.toUInt8)

/-- The value of a special or positional parameter, or of a variable. -/
def param? (s : State) (name : String) : Option Bytes :=
  if name == "#" then some (decimal s.params.length)
  else if name == "?" then some (decimal s.status)
  else if name == "$" then some (decimal s.pid)
  else if name == "-" then some s.flags
  else if name == "!" then s.jobs.head?.map fun j => decimal j.1
  else if name == "0" then some s.arg0
  else if name == "@" || name == "*" then
    if s.params.isEmpty then none else some (List.intercalate [32] s.params)
  else if name.all Char.isDigit then
    s.params[name.toNat! - 1]?
  else s.get? name

/-- The variables passed on to programs, as text. -/
def environment (s : State) : List (String × String) :=
  s.vars.filterMap fun (k, v) =>
    if v.exported then v.value.map fun x => (k, pathText x) else none

/-- The stream a descriptor refers to, if it is open. -/
def stream? (s : State) (fd : Nat) : Option Nat := s.fds.lookup fd

/-- Points a descriptor at a stream. -/
def setFd (s : State) (fd stream : Nat) : State :=
  { s with fds := (fd, stream) :: s.fds.filter (·.1 != fd) }

/-- Closes a descriptor. -/
def closeFd (s : State) (fd : Nat) : State := { s with fds := s.fds.filter (·.1 != fd) }

/-- Writes bytes to a descriptor; nothing happens when it is closed or the stream has no
room. -/
def write (s : State) (w : World) (fd : Nat) (bytes : List UInt8) : World :=
  match s.stream? fd with
  | some id => w.write id bytes
  | none => w

/-- The prefix of a message: the shell's name, the line, and the builtin that runs. -/
def msgHead (s : State) : Bytes :=
  s.arg0 ++ utf8 (": " ++ toString s.line ++ ": ") ++
    match s.builtin with
    | some b => utf8 (b ++ ": ")
    | none => []

/-- Writes a message to descriptor 2. -/
def complain (s : State) (w : World) (message : Bytes) : World :=
  s.write w 2 (s.msgHead ++ message ++ [10])

/-- The function of a name. -/
def func? (s : State) (name : String) : Option Cmd := s.funcs.lookup name

/-- Defines a function. -/
def defineFunc (s : State) (name : String) (body : Cmd) : State :=
  { s with funcs := (name, body) :: s.funcs.filter (·.1 != name) }

end State

end Conch.Sh

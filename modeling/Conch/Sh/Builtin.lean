import Conch.Sh.Run
import Conch.Sh.Print
import Conch.Sh.Test
import Conch.Sh.Read
/-!
The commands the shell runs itself without looking at other commands: output, reading lines,
variables, options, positional parameters, the working directory, leaving loops, functions and
the shell, traps and the file mode mask.

A builtin reports its errors with its name after the line, as `name: line: builtin: text`. An
error sets the status to 2 and raises the error flow; the caller decides whether it ends the
shell (it does for the special builtins) or only the builtin. Output a builtin cannot write
because its descriptor is closed is reported as an I/O error with status 1.

Counts such as the argument of `exit` or `shift` are decimal numbers from 0 to 2147483647,
blanks around them allowed; anything else is an illegal number.
-/

namespace Conch.Sh

/-- Reads a count: blanks, an optional sign, decimal digits and blanks again, from 0 to
2147483647. -/
def count? (s : Bytes) : Option Nat :=
  match Test.number s with
  | .ok v => if 0 ≤ v && v ≤ 2147483647 then some v.toNat else none
  | .error _ => none

/-- Whether a text is a name a variable may have. -/
def isVarName (s : Bytes) : Bool := isName (s.map charOf)

/-- Quotes a value with single quotes so that the shell reads it back as it is; a single quote
in it is written inside double quotes. -/
def singleQuote (v : Bytes) : Bytes :=
  go (v.length + 1) v
where
  go : Nat → Bytes → Bytes
    | 0, _ => []
    | n + 1, v =>
      let plain := v.takeWhile (· != 39)
      let rest := v.drop plain.length
      let head := [39] ++ plain ++ [39]
      match rest with
      | [] => head
      | _ =>
        let quotes := rest.takeWhile (· == 39)
        let after := rest.drop quotes.length
        let mid := [34] ++ quotes ++ [34]
        if after.isEmpty then head ++ mid else head ++ mid ++ go n after

/-- Sorts named entries by the bytes of their names. -/
def sortByName {α : Type} (xs : List (String × α)) : List (String × α) :=
  xs.mergeSort fun a b => !bytesLt (utf8 b.1) (utf8 a.1)

/-- The listing of variables that satisfy `keep`: one line `prefix name='value'` each, sorted by
name; a variable without value is listed by name alone. -/
def listVars (s : State) (lead : String) (keep : Var → Bool) : Bytes :=
  let vs := sortByName (s.vars.filter fun (_, v) => keep v)
  vs.flatMap fun (k, v) =>
    utf8 lead ++ utf8 k ++ (match v.value with
      | some x => [61] ++ singleQuote x
      | none => []) ++ [10]

/-- Reads the options of a builtin from the front of its arguments. `spec` lists the letters it
takes, each with whether it takes a value. An argument `--` ends the options and is dropped; an
argument that does not start with `-`, or is `-` alone, ends them and stays. Returns the options
with their values and the arguments after them, or the message for a letter not taken. -/
def takeOptions (spec : List (Char × Bool)) (args : List Bytes) :
    Except String (List (Char × Option Bytes) × List Bytes) :=
  go (args.length + 1) args []
where
  letters : List UInt8 → List Bytes → List (Char × Option Bytes) →
      Except String (List (Char × Option Bytes) × List Bytes)
    | [], rest, acc => .ok (acc, rest)
    | c :: more, rest, acc =>
      match spec.lookup (charOf c) with
      | none => .error ("Illegal option -" ++ toString (charOf c))
      | some false => letters more rest ((charOf c, none) :: acc)
      | some true =>
        if !more.isEmpty then .ok ((charOf c, some more) :: acc, rest)
        else match rest with
          | v :: rest' => .ok ((charOf c, some v) :: acc, rest')
          | [] => .error ("No arg for -" ++ toString (charOf c) ++ " option")
  go : Nat → List Bytes → List (Char × Option Bytes) →
      Except String (List (Char × Option Bytes) × List Bytes)
    | 0, args, acc => .ok (acc.reverse, args)
    | _, [], acc => .ok (acc.reverse, [])
    | n + 1, a :: rest, acc =>
      match a with
      | [45, 45] => .ok (acc.reverse, rest)
      | 45 :: c :: more =>
        match letters (c :: more) rest acc with
        | .ok (acc, rest) => go n rest acc
        | .error e => .error e
      | _ => .ok (acc.reverse, a :: rest)

namespace M

/-- Reads a count, failing with an illegal number. -/
def count (s : Bytes) : M Nat :=
  match count? s with
  | some n => pure n
  | none => fail ("Illegal number: " ++ textOf s)

/-- Writes a builtin's output to descriptor 1; a closed descriptor is an I/O error, status 1. -/
def writeOut (name : String) (bytes : Bytes) : M Unit := do
  if bytes.isEmpty then return
  if !(← emit 1 bytes) then
    complain (utf8 (name ++ ": I/O error"))
    setStatus 1

/-- Sets a variable, failing for a read-only one. The name ends at its first `=`, and must be a
name. -/
def assign (name : String) (value : Bytes) : M Unit := do
  let name := String.ofList (name.toList.takeWhile (· != '='))
  if !isName name.toList then fail (name ++ ": bad variable name")
  match (← shell).setVar name value with
  | .ok s => setShell s
  | .error msg => fail msg

/-- Reads a builtin's options, failing for one it does not take. -/
def options (spec : List (Char × Bool)) (args : List Bytes) :
    M (List (Char × Option Bytes) × List Bytes) :=
  match takeOptions spec args with
  | .ok r => pure r
  | .error msg => fail msg

end M

namespace Builtin

/-- `echo`. -/
def echo (args : List Bytes) : M Unit := do
  M.setStatus 0
  M.writeOut "echo" (echoOutput args)

/-- `printf`: warnings about arguments go out as they are met, an error after them, and the
output last. -/
def printf (args : List Bytes) : M Unit := do
  match args with
  | [] => M.fail "usage: printf format [arg ...]"
  | fmt :: rest =>
    let start : Printed := ⟨[], [], 0⟩
    let (pr, err) := match printfRun (rest.length + 1) fmt rest start with
      | .ok pr _ => (pr, none)
      | .stop pr => (pr, none)
      | .error pr msg => (pr, some msg)
    for n in pr.notes do M.complain n
    match err with
    | some msg =>
      M.complain msg
      M.setStatus 2
    | none => M.setStatus pr.status
    M.writeOut "printf" pr.out

/-- Reads one logical line from descriptor 0: without `raw`, a backslash quotes the byte after
it and a backslash at the end of a line joins the next line. NUL bytes are dropped. Returns the
bytes, each marked whether it was quoted, and whether a line feed ended the line. -/
def readInput (raw : Bool) : Nat → List (UInt8 × Bool) → M (List (UInt8 × Bool) × Bool)
  | 0, acc => pure (acc, false)
  | n + 1, acc => do
    match ← M.readLine 0 with
    | none => pure (acc, false)
    | some (line, ended) =>
      let line := line.filter (· != 0)
      if raw then pure (acc ++ line.map (·, false), ended)
      else
        let (cells, join) := unescape line
        if join && ended then readInput raw n (acc ++ cells)
        else pure (acc ++ cells, ended)
where
  /-- Marks the bytes a backslash quotes; says whether the line ends in a lone backslash. -/
  unescape : Bytes → List (UInt8 × Bool) × Bool
    | [] => ([], false)
    | [92] => ([], true)
    | 92 :: c :: rest => let (cs, j) := unescape rest; ((c, true) :: cs, j)
    | c :: rest => let (cs, j) := unescape rest; ((c, false) :: cs, j)

/-- `read [-r] [-p prompt] name...`. -/
def read (args : List Bytes) : M Unit := do
  let (opts, names) ← M.options [('p', true), ('r', false)] args
  if names.isEmpty then M.fail "arg count"
  let raw := opts.any (·.1 == 'r')
  let (line, ended) ← readInput raw 1000000 []
  let s ← M.shell
  let values := readFields s.ifs line names.length
  for (name, value) in names.zip values do
    M.assign (textOf name) value
  M.setStatus (if ended then 0 else 1)

/-- The logical path `cd` goes to: `dir` taken from `cur`, with `.` dropped and `..` removing
the name before it. A path starting with exactly two slashes keeps them. Nothing when `dir` is
relative and the current directory is unknown. -/
def logicalPath (cur : Option String) (dir : String) : Option String :=
  let cs := dir.toList
  let absolute := cs.head? == some '/'
  let base : Option (String × List String) :=
    if absolute then
      if cs.take 2 == ['/', '/'] && (cs.drop 2).head? != some '/' then some ("//", [])
      else some ("/", [])
    else cur.map fun c => (if c.startsWith "//" && !c.startsWith "///" then "//" else "/", Fs.names c)
  base.map fun (lead, start) =>
    let parts := (Fs.names dir).foldl (fun acc p =>
      if p == "." then acc
      else if p == ".." then acc.dropLast
      else acc ++ [p]) start
    lead ++ "/".intercalate parts

/-- The directories `cd` tries for a destination, each with whether reaching it is shown: for a
destination that does not start with `/`, `.` or `..`, the directories of `CDPATH` that hold it,
in order, shown when the entry is not empty; then the destination itself. -/
def cdCandidates (t : Fs.Tree) (cwd : Fs.Path) (cdpath : Option Bytes) (dest : String) :
    List (String × Bool) :=
  let first := (Fs.names dest).head?
  let skip := dest.startsWith "/" || (dest.startsWith "." && (first == some "." || first == some ".."))
  let listed := match cdpath with
    | some p =>
      if skip then []
      else (p.splitOn 58).filterMap fun e =>
        let c := if e.isEmpty then dest else pathText e ++ "/" ++ dest
        if t.isDir cwd c then some (c, !e.isEmpty) else none
    | none => []
  listed ++ [(dest, false)]

/-- `cd [-L|-P] [dir]`. -/
def cd (args : List Bytes) : M Unit := do
  let (opts, rest) ← M.options [('L', false), ('P', false)] args
  let physical := (opts.reverse.find? fun (c, _) => c == 'L' || c == 'P').map (·.1) == some 'P'
  let s ← M.shell
  let (dest, shows) : Bytes × Bool := match rest with
    | [] => ((s.get? "HOME").getD [], false)
    | [45] :: _ => ((s.get? "OLDPWD").getD [], true)
    | d :: _ => (d, false)
  let destText := if dest.isEmpty then "." else pathText dest
  let (destText, shows) := match cdCandidates (← M.world).tree s.cwd (s.get? "CDPATH") destText with
    | (c, found) :: _ => (c, shows || found)
    | [] => (destText, shows)
  let logical := if physical then none else logicalPath s.curdir destText
  let target := logical.getD destText
  match (← M.world).tree.changeDir s.cwd target with
  | .error _ => M.fail ("can't cd to " ++ pathText dest)
  | .ok p =>
    let shown := logical.getD p.text
    let old := s.curdir.getD s.cwd.text
    let s := { s with cwd := p, curdir := some shown }
    let s := match s.exportVar "OLDPWD" (some (utf8 old)) with
      | .ok s => s
      | .error _ => s
    let s := match s.exportVar "PWD" (some (utf8 shown)) with
      | .ok s => s
      | .error _ => s
    M.setShell s
    M.setStatus 0
    if shows then M.writeOut "cd" (utf8 shown ++ [10])

/-- `pwd [-L|-P]`. -/
def pwd (args : List Bytes) : M Unit := do
  let (opts, _) ← M.options [('L', false), ('P', false)] args
  let physical := (opts.reverse.find? fun (c, _) => c == 'L' || c == 'P').map (·.1) == some 'P'
  let s ← M.shell
  let text := if physical then s.cwd.text else s.curdir.getD s.cwd.text
  M.setStatus 0
  M.writeOut "pwd" (utf8 text ++ [10])

/-- `export` and `readonly`: mark variables, setting those given as `name=value`; with no names
or with `-p`, list the variables so marked. -/
def mark (readonly : Bool) (args : List Bytes) : M Unit := do
  let (opts, names) ← M.options [('p', false)] args
  let lead := if readonly then "readonly " else "export "
  let cmd := if readonly then "readonly" else "export"
  M.setStatus 0
  if opts.isEmpty && !names.isEmpty then
    for a in names do
      let name := a.takeWhile (· != 61)
      let value := if name.length < a.length then some (a.drop (name.length + 1)) else none
      if !isVarName name then M.failAbout name "bad variable name"
      let s ← M.shell
      let r := if readonly then s.readonlyVar (textOf name) value else s.exportVar (textOf name) value
      match r with
      | .ok s => M.setShell s
      | .error msg => M.fail msg
  else
    let s ← M.shell
    M.writeOut cmd (listVars s lead fun v => if readonly then v.readonly else v.exported)

/-- `unset [-f|-v] name...`: removes variables, functions, or both. -/
def unset (args : List Bytes) : M Unit := do
  let (opts, names) ← M.options [('f', false), ('v', false)] args
  let which := opts.getLast?.map (·.1)
  M.setStatus 0
  for a in names do
    if which != some 'f' then
      if !isVarName a then M.failAbout a "bad variable name"
      match (← M.shell).unsetVar (textOf a) with
      | .ok s => M.setShell s
      | .error msg => M.fail msg
    if which == some 'f' then
      M.modShell fun s => { s with funcs := s.funcs.filter (·.1 != textOf a) }

/-- The lines `set -o` and `set +o` print. -/
def optionLines (o : Options) (on : Bool) : Bytes :=
  if on then
    utf8 "Current option settings\n" ++ Options.table.flatMap fun (c, name) =>
      let pad := List.replicate (16 - name.length) 32
      utf8 name ++ pad ++ utf8 (if o.get c then "on" else "off") ++ [10]
  else
    Options.table.flatMap fun (c, name) =>
      utf8 ("set " ++ (if o.get c then "-o " else "+o ") ++ name ++ "\n")

/-- Applies the option arguments of `set`. Returns the options, the output of `-o` listings,
whether the positional parameters are to be replaced, and the arguments left, or the message of
an error. -/
def setOptions (o : Options) : Nat → List Bytes → Bytes →
    Except String (Options × Bytes × Bool × List Bytes)
  | 0, args, out => .ok (o, out, false, args)
  | _, [], out => .ok (o, out, false, [])
  | n + 1, a :: rest, out =>
    match a with
    | [45] => .ok ({ o with xtrace := false, verbose := false }, out, !rest.isEmpty, rest)
    | [45, 45] => .ok (o, out, true, rest)
    | c :: letters =>
      if c == 45 || c == 43 then
        let on := c == 45
        match flags o on letters rest out with
        | .ok (o, rest, out) => setOptions o n rest out
        | .error e => .error e
      else .ok (o, out, true, a :: rest)
    | [] => .ok (o, out, true, a :: rest)
where
  /-- Applies the letters of one option argument; `o` takes the next argument as a name. -/
  flags (o : Options) (on : Bool) : List UInt8 → List Bytes → Bytes →
      Except String (Options × List Bytes × Bytes)
    | [], rest, out => .ok (o, rest, out)
    | 111 :: more, rest, out =>
      match rest with
      | [] => flags o on more [] (out ++ optionLines o on)
      | name :: rest' =>
        match Options.table.find? fun (_, n) => n == textOf name with
        | some (c, _) => flags (o.set c on) on more rest' out
        | none => .error ("Illegal option -o " ++ textOf name)
    | c :: more, rest, out =>
      if (Options.table.map (·.1)).contains (charOf c) && charOf c != ' ' then
        flags (o.set (charOf c) on) on more rest out
      else .error ("Illegal option -" ++ toString (charOf c))

/-- `set`: with no arguments, list the variables; otherwise set options and the positional
parameters. -/
def set (args : List Bytes) : M Unit := do
  let s ← M.shell
  M.setStatus 0
  if args.isEmpty then M.writeOut "set" (listVars s "" fun v => v.value.isSome)
  else
    match setOptions s.opts (args.length + 1) args [] with
    | .error msg => M.fail msg
    | .ok (o, out, replace, rest) =>
      let o ← if o.get 'm' then do
          M.complain (utf8 "can't access tty; job control turned off")
          pure (o.set 'm' false)
        else pure o
      M.modShell fun s => { s with opts := o }
      if replace then M.modShell fun s => { s with params := rest, optind := 1, optoff := none }
      M.writeOut "set" out

/-- `shift [n]`. -/
def shift (args : List Bytes) : M Unit := do
  let n ← match args with
    | a :: _ => M.count a
    | [] => pure 1
  let s ← M.shell
  if s.params.length < n then M.fail "can't shift that many"
  M.setShell { s with params := s.params.drop n, optind := 1, optoff := none }
  M.setStatus 0

/-- `exit [n]`: ends the shell with `n`, or with the last status; in the `EXIT` trap, with the
status the shell was leaving with. -/
def exit (args : List Bytes) : M Unit := do
  match args with
  | a :: _ => M.setStatus (← M.count a)
  | [] =>
    match (← M.shell).leaving with
    | some st => M.setStatus st
    | none => pure ()
  throw .exit

/-- `return [n]`: leaves the function or sourced file with `n`, or with the last status. -/
def ret (args : List Bytes) : M Unit := do
  match args with
  | a :: _ => M.setStatus (← M.count a)
  | [] => pure ()
  throw .ret

/-- `break [n]` and `continue [n]`: leave `n` loops, at most as many as enclose the command. -/
def leave (isContinue : Bool) (args : List Bytes) : M Unit := do
  let n ← match args with
    | a :: _ => M.count a
    | [] => pure 1
  if n == 0 then M.fail ("Illegal number: " ++ textOf (args.headD []))
  let s ← M.shell
  M.setStatus 0
  let n := min n s.loops
  if 0 < n then throw (if isContinue then .continueLoops n else .breakLoops n)

/-- `test` and `[`. -/
def test (bracket : Bool) (args : List Bytes) : M Unit := do
  let s ← M.shell
  match Test.run (← M.world).tree s.cwd args bracket with
  | .ok st => M.setStatus st
  | .error msg => M.fail msg

/-- The names of the signals a trap may be set for, by number. -/
def signalNames : List String :=
  ["EXIT", "HUP", "INT", "QUIT", "ILL", "TRAP", "ABRT", "BUS", "FPE", "KILL", "USR1", "SEGV",
    "USR2", "PIPE", "ALRM", "TERM", "STKFLT", "CHLD", "CONT", "STOP", "TSTP", "TTIN", "TTOU",
    "URG", "XCPU", "XFSZ", "VTALRM", "PROF", "WINCH", "IO", "PWR", "SYS"]

/-- The signal a trap argument names: a number or a name, with or without `SIG`. -/
def signalOf (a : Bytes) : Option String :=
  let t := textOf a
  if !t.isEmpty && t.all Char.isDigit then signalNames[t.toNat!]?
  else
    let u := t.toUpper
    let u := if u.startsWith "SIG" then (u.drop 3).toString else u
    signalNames.find? (· == u)

/-- The names `kill -l` lists, by signal number from 0: a signal without a name is listed by
its number. -/
def killNames : List String :=
  ["0"] ++ (signalNames.drop 1).map (fun n => if n == "STKFLT" then "16" else n) ++
    ["32", "33", "RTMIN"] ++ (List.range 15).map (fun i => "RTMIN+" ++ toString (i + 1)) ++
    (List.range 14).reverse.map (fun i => "RTMAX-" ++ toString (i + 1)) ++ ["RTMAX"]

/-- The number of the signal a `kill` argument names, by number or by name. -/
def killSignal (a : Bytes) : Option Nat :=
  let t := textOf a
  if !t.isEmpty && t.all Char.isDigit then
    if t.toNat! < killNames.length then some t.toNat! else none
  else
    let u := t.toUpper
    let u := if u.startsWith "SIG" then (u.drop 3).toString else u
    killNames.idxOf? u |>.filter (· != 0)

/-- `kill [-s signal | -signal] pid...` and `kill -l [status]`. The only process there is to
signal is the shell itself; any other is reported missing. -/
def kill (args : List Bytes) : M Unit := do
  let usage := "Usage: kill [-s sigspec | -signum | -sigspec] [pid | job]... or\nkill -l [exitstatus]"
  match args with
  | [] => M.fail usage
  | [45, 108] :: rest =>
    match rest with
    | [] =>
      M.setStatus 0
      M.writeOut "kill" (utf8 (String.join (killNames.map (· ++ "\n"))))
    | a :: _ =>
      let n ← M.count a
      let n := if 128 < n then n - 128 else n
      match killNames[n]? with
      | some name =>
        M.setStatus 0
        M.writeOut "kill" (utf8 (name ++ "\n"))
      | none => M.fail ("invalid signal number or exit status: " ++ textOf a)
  | first :: rest =>
    let (spec, pids) : Option Bytes × List Bytes := match first with
      | [45, 115] => (rest.head?, rest.drop 1)
      | 45 :: sig => (some sig, rest)
      | _ => (some (utf8 "TERM"), args)
    match spec with
    | none => M.fail usage
    | some sig =>
      match killSignal sig with
      | none => M.fail ("invalid signal number or name: " ++ textOf sig)
      | some num =>
        if pids.isEmpty then M.fail usage
        M.setStatus 0
        for p in pids do
          let n ← M.count p
          if n == (← M.shell).pid then
            if num != 0 then
              M.setStatus (128 + num)
              throw .exit
          else
            M.complain (utf8 "No such process\n")
            M.setStatus 1

/-- `trap [action] condition...`: sets, resets (`-`) or lists the traps. -/
def trap (args : List Bytes) : M Unit := do
  let (_, args) ← M.options [] args
  M.setStatus 0
  match args with
  | [] =>
    let s ← M.shell
    let lines := signalNames.flatMap fun n =>
      match s.traps.lookup n with
      | some a => utf8 "trap -- " ++ singleQuote a ++ [32] ++ utf8 n ++ [10]
      | none => []
    M.writeOut "trap" lines
  | first :: more =>
    let (action, conds) : Option Bytes × List Bytes :=
      if more.isEmpty || (signalOf first).isSome && (textOf first).all Char.isDigit then
        (none, first :: more)
      else if first == [45] then (none, more)
      else (some first, more)
    for c in conds do
      match signalOf c with
      | none =>
        let _ ← M.emit 2 (utf8 "trap: " ++ c ++ utf8 ": bad trap\n")
        M.setStatus 1
      | some n =>
        M.modShell fun s =>
          let rest := s.traps.filter (·.1 != n)
          { s with traps := match action with
            | some a => rest ++ [(n, a)]
            | none => rest }

/-- The permission bits of the classes `u`, `g` and `o` named at the start of a clause, all of
them when none is. -/
def classBits (who : List Char) : Nat :=
  if who.isEmpty || who.contains 'a' then 511
  else (if who.contains 'u' then 448 else 0) ||| (if who.contains 'g' then 56 else 0) |||
    (if who.contains 'o' then 7 else 0)

/-- The bits an operation's permission letters stand for, given the bits before it: `r w x`
for every class, `X` for execute when some class may execute, `u g o` for the bits that class
has, in every class; `s` holds no permission bit. -/
def permBits (perm : Nat) (letters : List Char) : Nat :=
  letters.foldl (fun v c =>
    v ||| match c with
      | 'r' => 292
      | 'w' => 146
      | 'x' => 73
      | 'X' => if perm &&& 73 != 0 then 73 else 0
      | 'u' => (perm / 64 % 8) * 73
      | 'g' => (perm / 8 % 8) * 73
      | 'o' => (perm % 8) * 73
      | _ => 0) 0

/-- Applies a symbolic mode such as `u=rwx,g+w` to the permission bits `perm`: clauses separated
by commas (one may end the text), each naming classes among `u g o a` and then one or more
operations `+`, `-` or `=` with their permission letters. Nothing for text that is not such a
mode. -/
def symbolicMode : Nat → Nat → List Char → Option Nat
  | 0, _, _ => none
  | k + 1, perm, cs =>
    let who := cs.takeWhile fun c => "ugoa".contains c
    let mask := classBits who
    match ops k perm mask (cs.drop who.length) false with
    | some (perm, []) => some perm
    | some (perm, [',']) => some perm
    | some (perm, ',' :: more) => symbolicMode k perm more
    | _ => none
where
  /-- Applies the operations of one clause; at least one must be there. -/
  ops : Nat → Nat → Nat → List Char → Bool → Option (Nat × List Char)
    | 0, _, _, _, _ => none
    | _ + 1, perm, _, [], seen => if seen then some (perm, []) else none
    | k + 1, perm, mask, c :: rest, seen =>
      if c == '+' || c == '-' || c == '=' then
        let letters := rest.takeWhile fun c => "rwxXsugo".contains c
        let v := permBits perm letters &&& mask
        let perm := if c == '+' then perm ||| v
          else if c == '-' then perm &&& (511 - v)
          else (perm &&& (511 - mask)) ||| v
        ops k perm mask (rest.drop letters.length) true
      else if seen then some (perm, c :: rest) else none

/-- `umask [mask]`: shows or sets the file mode creation mask, in octal or as a symbolic mode
applied to the permissions the mask leaves. -/
def umask (args : List Bytes) : M Unit := do
  let (opts, rest) ← M.options [('S', false)] args
  M.setStatus 0
  match rest with
  | [] =>
    let m := (← M.shell).mask
    if opts.isEmpty then
      let ds := Nat.toDigits 8 m
      M.writeOut "umask" (utf8 (String.ofList (List.replicate (4 - ds.length) '0' ++ ds) ++ "\n"))
    else
      let part (shift : Nat) : String :=
        let bits := 7 - (m / shift) % 8
        (if bits / 4 % 2 == 1 then "r" else "") ++ (if bits / 2 % 2 == 1 then "w" else "") ++
          (if bits % 2 == 1 then "x" else "")
      M.writeOut "umask" (utf8 ("u=" ++ part 64 ++ ",g=" ++ part 8 ++ ",o=" ++ part 1 ++ "\n"))
  | a :: _ =>
    match a with
    | d :: _ =>
      if 48 ≤ d && d ≤ 57 then
        if a.all fun b => 48 ≤ b && b ≤ 55 then
          M.modShell fun s => { s with mask := a.foldl (fun v d => v * 8 + (d.toNat - 48)) 0 % 512 }
        else M.fail ("Illegal number: " ++ textOf a)
      else
        let m := (← M.shell).mask
        match symbolicMode (a.length + 1) (511 - m) (a.map charOf) with
        | some perm => M.modShell fun s => { s with mask := 511 - perm % 512 }
        | none => M.fail ("Illegal mode: " ++ textOf a)
    | [] => pure ()

/-- One step of `getopts`: whether the options have ended, the letter to assign, what to do
with `OPTARG` (leave it, unset it, or set it), the message to write, and where to go on. -/
structure OptStep where
  done : Bool
  letter : UInt8
  optarg : Option (Option Bytes)
  note : Option String
  ind : Nat
  off : Option Nat

/-- The rest of an option string after the letter `c`, when `c` is one of its letters; a
letter is followed by at most one `:`. -/
def optLetter (c : UInt8) : List UInt8 → Option (List UInt8)
  | [] => none
  | x :: rest =>
    if x == c then some rest
    else match rest with
      | 58 :: more => optLetter c more
      | more => optLetter c more

/-- Reads the next option from `base`, going on at the argument `ind` (from 1) or inside the
argument before it at `off`. Options are letters after a `-`, several in one argument; `-` alone
or an argument not starting with `-` ends them, and `--` ends them and is passed over. A letter
followed by `:` in the option string takes an argument: the rest of its argument, or the next
one. An option string starting with `:` reports errors through `OPTARG` instead of messages. -/
def optStep (optstr : Bytes) (base : List Bytes) (ind : Nat) (off : Option Nat) : OptStep :=
  let silent := optstr.head? == some 58
  let inside : Option (Bytes × Nat) := match off with
    | some o =>
      if ind ≤ 1 then none
      else match base[ind - 2]? with
        | some w => if o < w.length then some (w, o) else none
        | none => none
    | none => none
  let next : Option (Bytes × Nat × Nat) := match inside with
    | some (w, o) => some (w, o, ind)
    | none =>
      match base[ind - 1]? with
      | some w =>
        if w.head? != some 45 || w.length == 1 then none
        else if w == [45, 45] then none
        else some (w, 1, ind + 1)
      | none => none
  let ended := match inside, base[ind - 1]? with
    | none, some [45, 45] => ind + 1
    | _, _ => ind
  match next with
  | none => ⟨true, 63, none, none, ended, none⟩
  | some (w, pos, ind) =>
    let c := w[pos]?.getD 0
    let pos := pos + 1
    match optLetter c optstr with
    | none =>
      if silent then ⟨false, 63, some (some [c]), none, ind, some pos⟩
      else ⟨false, 63, some none, some ("Illegal option -" ++ toString (Char.ofNat c.toNat)), ind,
        some pos⟩
    | some rest =>
      if rest.head? == some 58 then
        if pos < w.length then ⟨false, c, some (some (w.drop pos)), none, ind, none⟩
        else match base[ind - 1]? with
          | some a => ⟨false, c, some (some a), none, ind + 1, none⟩
          | none =>
            if silent then ⟨false, 58, some (some [c]), none, ind, none⟩
            else ⟨false, 63, some none,
              some ("No arg for -" ++ toString (Char.ofNat c.toNat) ++ " option"), ind, none⟩
      else ⟨false, c, some (some []), none, ind, some pos⟩

/-- `getopts optstring name [arg...]`: reads the next option of the arguments, or of the
positional parameters, into `name`, with its argument in `OPTARG`; the status is 1 once the
options have ended. -/
def getopts (args : List Bytes) : M Unit := do
  match args with
  | optstr :: name :: given =>
    let s ← M.shell
    let base := if given.isEmpty then s.params else given
    let (ind, off) := if base.length + 1 < s.optind then (1, none) else (s.optind, s.optoff)
    let st := optStep optstr base ind off
    match st.note with
    | some msg => let _ ← M.emit 2 (utf8 msg ++ [10])
    | none => pure ()
    match st.optarg with
    | some (some v) => M.assign "OPTARG" v
    | some none =>
      match (← M.shell).unsetVar "OPTARG" with
      | .ok s => M.setShell s
      | .error msg => M.fail msg
    | none => pure ()
    M.assign "OPTIND" (decimal st.ind)
    M.modShell fun s => { s with optind := st.ind, optoff := st.off }
    M.setStatus (if st.done then 1 else 0)
    M.assign (textOf name) [st.letter]
  | _ => M.fail "Usage: getopts optstring var [arg...]"

/-- `wait [pid...]`: background commands have already finished; a process that is not one of
them has status 127. -/
def wait (args : List Bytes) : M Unit := do
  let s ← M.shell
  match args.getLast? with
  | none => M.setStatus 0
  | some a =>
    match (textOf a).toNat?.bind (fun p => List.lookup p s.jobs) with
    | some st => M.setStatus st
    | none => M.setStatus 127

/-- `hash [-r] [name...]`: remembers nothing, but reports a name that is not a command. -/
def hash (args : List Bytes) (known : Bytes → Bool) : M Unit := do
  M.setStatus 0
  for a in args do
    if a.head? != some 45 && !known a then
      M.complain (a ++ utf8 ": not found")
      M.setStatus 1

/-- The bucket an alias is kept in, of 39: the first byte of its name times 16 plus the sum of
its bytes. `alias` lists the buckets in order, each in the order its aliases were defined. -/
def aliasBucket (name : String) : Nat :=
  let bs := name.toUTF8.toList
  bs.foldl (fun acc b => acc + b.toNat) ((bs.headD 0).toNat * 16) % 39

/-- The line `alias` shows for an alias. -/
def aliasLine (name value : String) : Bytes :=
  utf8 name ++ [61] ++ singleQuote (value.toList.map fun c => c.toNat.toUInt8) ++ [10]

/-- `alias [name[=value]...]`: defines the aliases given with a value and shows the others, or
all of them; the name is at least one character, so a leading `=` belongs to it. -/
def defineAliases (args : List Bytes) : M Unit := do
  M.setStatus 0
  if args.isEmpty then
    let all := (← M.shell).aliases
    let listed := (List.range 39).flatMap fun k => all.filter (aliasBucket ·.1 == k)
    M.writeOut "alias" (listed.flatMap fun (n, v) => aliasLine n v)
  else
    let mut out : Bytes := []
    for a in args do
      let name := textOf (a.take 1 ++ (a.drop 1).takeWhile (· != 61))
      if name.length < a.length then
        let value := textOf (a.drop (name.length + 1))
        M.modShell fun s =>
          if (s.aliases.lookup name).isSome then
            { s with aliases := s.aliases.map fun q => if q.1 == name then (name, value) else q }
          else { s with aliases := s.aliases ++ [(name, value)] }
      else
        match (← M.shell).aliases.lookup name with
        | some v => out := out ++ aliasLine name v
        | none =>
          let _ ← M.emit 2 (utf8 ("alias: " ++ name ++ " not found\n"))
          M.setStatus 1
    M.writeOut "alias" out

/-- `unalias [-a] name...`: removes the aliases named, or all of them. -/
def unalias (args : List Bytes) : M Unit := do
  let (opts, names) ← M.options [('a', false)] args
  M.setStatus 0
  if !opts.isEmpty then M.modShell fun s => { s with aliases := [] }
  for a in names do
    let name := textOf a
    if ((← M.shell).aliases.lookup name).isSome then
      M.modShell fun s => { s with aliases := s.aliases.filter (·.1 != name) }
    else
      let _ ← M.emit 2 (utf8 ("unalias: " ++ name ++ " not found\n"))
      M.setStatus 1

/-- `fg` and `bg`: there is no job to move. -/
def noJob : M Unit := do
  M.complain (utf8 "No current job")
  M.setStatus 2

/-- The resources `ulimit` reports, by option letter: the name `-a` shows and the limit. -/
def limits : List (Char × String × String) :=
  [('t', "time(seconds)", "unlimited"), ('f', "file(blocks)", "unlimited"),
    ('d', "data(kbytes)", "unlimited"), ('s', "stack(kbytes)", "8192"),
    ('c', "coredump(blocks)", "0"), ('m', "memory(kbytes)", "unlimited"),
    ('l', "locked memory(kbytes)", "8192"), ('p', "process", "128597"),
    ('n', "nofiles", "20000"), ('v', "vmemory(kbytes)", "unlimited"),
    ('w', "locks", "unlimited"), ('r', "rtprio", "0")]

/-- `ulimit [-HSa] [-letter]`: reports the limit of a resource, of the file size by default, or
of all of them with `-a`. -/
def ulimit (args : List Bytes) : M Unit := do
  let (opts, _) ← M.options ([('H', false), ('S', false), ('a', false)] ++
    limits.map fun (c, _, _) => (c, false)) args
  M.setStatus 0
  if opts.any (·.1 == 'a') then
    M.writeOut "ulimit" (utf8 (String.join (limits.map fun (_, name, v) =>
      name ++ String.ofList (List.replicate (20 - name.length) ' ') ++ " " ++ v ++ "\n")))
  else
    let letter := ((opts.map (·.1)).filter (fun c => c != 'H' && c != 'S')).getLast?.getD 'f'
    match limits.find? (·.1 == letter) with
    | some (_, _, v) => M.writeOut "ulimit" (utf8 (v ++ "\n"))
    | none => pure ()

/-- `times`: the shell and its children have used no time. -/
def times : M Unit := do
  M.setStatus 0
  M.writeOut "times" (utf8 "0m0.000000s 0m0.000000s\n0m0.000000s 0m0.000000s\n")

/-- `local name[=value]...`: saves the variables in the frame of the running function, to be
put back when it returns; `-` saves the options, kept in the frame under the name `-` as the
letters of `$-`. -/
def declareLocal (args : List Bytes) : M Unit := do
  let s ← M.shell
  match s.frames with
  | [] => M.fail "not in a function"
  | frame :: outer =>
    let mut frame := frame
    for a in args do
      if a == [45] then
        let s ← M.shell
        if !(frame.any (·.1 == "-")) then
          frame := ("-", some ⟨some (s.opts.letters.map fun c => c.toNat.toUInt8), false, false⟩) ::
            frame
      else
        let name := a.takeWhile (· != 61)
        if !isVarName name then M.failAbout name "bad variable name"
        let key := textOf name
        let s ← M.shell
        if !(frame.any (·.1 == key)) then frame := (key, s.var? key) :: frame
        if name.length < a.length then M.assign key (a.drop (name.length + 1))
    M.modShell fun s => { s with frames := frame :: outer }
    M.setStatus 0

end Builtin

end Conch.Sh

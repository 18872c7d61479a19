import Conch.Sh.Exec
import Conch.Sh.Arith
/-!
Running commands: expanding words, redirections, simple and compound commands, pipelines,
functions, and programs started from files.

A word expands to cells (see `Conch.Sh.Fields`): text written in the word, the values of
parameters, the output of command substitutions without its trailing line feeds, and the values
of arithmetic expansions. Outside double quotes the results of expansions are split into fields
and every field that holds a pattern becomes the sorted names of the files it matches. A tilde
at the start of a word, and in an assignment also after `=` and `:`, stands for a home
directory.

A simple command expands its words, opens its redirections, expands its assignments and then
runs: a special builtin keeps the assignments, a function or a regular builtin sees them while
it runs, a program receives them in its environment, and with no command word they are set in
the shell. An error in a special builtin or a failed redirection for one ends the shell; in a
regular builtin it ends the builtin with status 2. A command not found has status 127.

Compound commands run their parts in order. `&&`, `||`, `!`, the conditions of `if`, `while` and
`until` are tested: with `-e` set, a failing command that is not tested ends the shell. Loops
count themselves so that `break n` and `continue n` know how far to go; functions start with no
loops around them. Subshells, pipeline stages and command substitutions run on a copy of the
shell's state: what they change stays with them, except what they do to the world.

Every function takes a fuel argument first; running out of it stops the run with a stall.
-/

namespace Conch.Sh

/-- Where tilde prefixes are expanded in a word. -/
inductive Tilde
  /-- Nowhere. -/
  | none
  /-- At the start of the word. -/
  | start
  /-- At the start, after the first `=` and after every `:`, as in assignments. -/
  | assign
  deriving DecidableEq, Repr

/-- The cells of open text: quoted inside double quotes, in region `loose` when one is given
(the word of `${name-word}` outside quotes), written in the word otherwise. -/
def litCells (bs : Bytes) (quoted : Bool) (loose : Option Nat) : List Cell :=
  if quoted then bs.map (Cell.lit · true)
  else match loose with
    | some r => bs.map (Cell.loose · r)
    | none => bs.map (Cell.lit · false)

/-- The cells of open text in which tilde prefixes may stand: at the start when `atStart`,
and, in assignments, after the first `=` and after each `:`. A prefix runs up to a slash (or a
colon in assignments) or the end of the text; when the text ends the prefix and more of the
word follows, it is left alone. The home directory replaces the prefix as quoted text. -/
def tildeCells (s : State) (assign : Bool) (bs : Bytes) (atStart last : Bool)
    (loose : Option Nat) : List Cell :=
  go (bs.length + 1) bs atStart false
where
  go : Nat → Bytes → Bool → Bool → List Cell
    | 0, _, _, _ => []
    | _, [], _, _ => []
    | n + 1, b :: rest, boundary, eqSeen =>
      if boundary && b == 126 then
        let name := rest.takeWhile fun c => c != 47 && !(assign && c == 58)
        let after := rest.drop name.length
        let ended := !after.isEmpty || last
        match (if ended then homeOf s name else none) with
        | some home => home.map (Cell.lit · true) ++ go n after false eqSeen
        | none => litCells [b] false loose ++ go n rest false eqSeen
      else
        let next := assign && (b == 58 || (b == 61 && !eqSeen))
        litCells [b] false loose ++ go n rest next (eqSeen || b == 61)

/-- The cells of a value an expansion produced: quoted inside double quotes, in a fresh region
otherwise. -/
def valueCells (bs : Bytes) (quoted : Bool) : M (List Cell) := do
  if quoted then return bs.map (Cell.lit · true)
  else
    let r ← M.freshRegion
    return bs.map (Cell.loose · r)

/-- The fields of split cells after pathname expansion: a field with a pattern becomes the files
it matches, or stays as it is when there are none. -/
def globFields (t : Fs.Tree) (cwd : Fs.Path) (noglob : Bool) (fields : List (List Cell)) :
    List Bytes :=
  fields.flatMap fun f =>
    let m := markedText f
    if noglob || !Pattern.hasMeta m then [m.map (·.1)]
    else match glob t cwd m with
      | [] => [m.map (·.1)]
      | xs => xs

/-- Whether the words so far make the command a declaration (`export`, `readonly`, `local`,
also after `command`), whose assignment-shaped arguments are not split. -/
def isDeclaration (ws : List Bytes) : Bool :=
  let decl := fun (w : Bytes) => [utf8 "export", utf8 "readonly", utf8 "local"].contains w
  match ws with
  | w :: rest => decl w || (w == utf8 "command" && (rest.head?.any decl))
  | [] => false

/-- The builtins that are not special. -/
def regularBuiltins : List String :=
  ["[", "alias", "bg", "cd", "chdir", "command", "echo", "false", "fg", "getopts", "hash", "jobs",
    "kill", "printf", "pwd", "read", "test", "true", "type", "ulimit", "umask", "unalias", "wait"]

/-- Opens the file of a redirection. Returns the tree and the stream, or the message. -/
def openFile (t : Fs.Tree) (cwd : Fs.Path) (text : String) (op : FileOp) (noclobber : Bool) :
    Except String (Fs.Tree × Stream) :=
  let created (f : Fs.Fault) : String :=
    "cannot create " ++ text ++ ": " ++ match f with
      | .noEntry | .notDirectory => "Directory nonexistent"
      | f => f.text
  match op with
  | .input =>
    match t.stat cwd text with
    | .ok (p, _) => .ok (t, .file p 0 false)
    | .error _ => .error ("cannot open " ++ text ++ ": No such file")
  | .readWrite =>
    match t.resolve cwd text true with
    | .ok (.node _ .dir) => .error (created .isDirectory)
    | .ok (.notDir _ _) => .error (created .isDirectory)
    | .ok (.node p _) => .ok (t, .file p 0 false)
    | .ok (.absent _ _ _) =>
      match t.openWrite cwd text false with
      | .ok (t, p) => .ok (t, .file p 0 false)
      | .error f => .error (created f)
    | .error f => .error (created f)
  | _ =>
    let present := match t.stat cwd text with
      | .ok (_, .file _ _) => true
      | _ => false
    if op == .output && noclobber && present then .error ("cannot create " ++ text ++ ": File exists")
    else
      match t.openWrite cwd text (op == .append) with
      | .ok (t, p) => .ok (t, .file p 0 (op == .append))
      | .error f => .error (created f)

/-- The line `-x` shows for a command: `PS4`, then the assignments and the words. -/
def traceLine (s : State) (vals : List (String × Bytes)) (argv : List Bytes) : Bytes :=
  let items := vals.map (fun (k, v) => utf8 k ++ [61] ++ v) ++ argv
  s.getD "PS4" ++ List.intercalate [32] items ++ [10]

namespace M

/-- Ends the shell when `-e` is set, the command is not tested and it failed. -/
def checkExit (tested : Bool) : M Unit := do
  let s ← shell
  if !tested && s.opts.errexit && s.status != 0 then throw .exit

/-- Runs `m` as the builtin `name`: its messages name it. -/
def asBuiltin (name : String) (m : M Unit) : M Unit := do
  let prev := (← shell).builtin
  modShell fun s => { s with builtin := some name }
  let r ← attempt m
  modShell fun s => { s with builtin := prev }
  rethrow r

/-- Runs a regular builtin: an error ends only the builtin. -/
def regular (m : M Unit) : M Unit := do
  match ← attempt m with
  | .error .fail => pure ()
  | r => rethrow r

/-- Runs `m` with variables set for its duration, exported when `export` holds. -/
def withTemps (vals : List (String × Bytes)) (exporting : Bool) (m : M Unit) : M Unit := do
  let s ← shell
  let saved := vals.map fun (k, _) => (k, s.var? k)
  for (k, v) in vals do
    assign k v
    if exporting then
      modShell fun s => match s.var? k with
        | some var => s.putVar k { var with exported := true }
        | none => s
  let r ← attempt m
  for (k, old) in saved.reverse do
    modShell fun s => s.restoreVar k old
  rethrow r

end M

/-- What a command name stands for, as `type` describes it. -/
def describe (s : State) (t : Fs.Tree) (name : Bytes) : Option (Bytes × Bytes) :=
  let text := textOf name
  if (Keyword.all.map Keyword.text).contains text then
    some (name, name ++ utf8 " is a shell keyword")
  else if (s.func? text).isSome then some (name, name ++ utf8 " is a shell function")
  else if specialBuiltins.contains text then
    some (name, name ++ utf8 " is a special shell builtin")
  else if regularBuiltins.contains text || ["echo", "printf", "test", "["].contains text then
    some (name, name ++ utf8 " is a shell builtin")
  else
    let found := if name.contains 47 then (if t.isFile s.cwd (pathText name) then some name else none)
      else (searchPath t s.cwd ((s.get? "PATH").getD defaultPath) name).toOption
    found.map fun p => (p, name ++ utf8 " is " ++ p)

/-- `type name...`: describes what each name stands for. -/
def typeCmd (args : List Bytes) : M Unit := do
  let s ← M.shell
  let t := (← M.world).tree
  let mut status := 0
  let mut out : Bytes := []
  for a in args do
    match describe s t a with
    | some (_, line) => out := out ++ line ++ [10]
    | none =>
      out := out ++ a ++ utf8 ": not found\n"
      status := 127
  M.setStatus status
  M.writeOut "type" out

/-- Runs the system's program that removes empty directories: each argument in turn, a
directory that cannot be removed reported on the error output; the status is 1 when one could
not be removed. -/
def removeDirs (args : List Bytes) : M Nat :=
  List.foldlM (fun status a => do
    let s ← M.shell
    match (← M.world).tree.removeDir s.cwd (pathText a) with
    | .ok t =>
      M.modWorld fun w => { w with tree := t }
      return status
    | .error f =>
      let _ ← M.emit 2 (utf8 ("rmdir: failed to remove " ++ Text.quote (pathText a) ++ ": " ++
        f.text) ++ [10])
      return 1) 0 args

mutual

/-- Expands segments. -/
def segs : Nat → List Seg → Bool → Option Nat → M (List Cell)
  | 0, _, _, _ => throw (.stall .fuel)
  | _ + 1, [], _, _ => pure []
  | n + 1, sg :: rest, quoted, loose => do
    let a ← seg n sg quoted loose
    let b ← segs n rest quoted loose
    return a ++ b

/-- Expands segments with tilde prefixes: at the start when `atStart`, and after `=` and `:`
in assignments. -/
def tildeSegs : Nat → List Seg → Bool → Bool → Option Nat → M (List Cell)
  | 0, _, _, _, _ => throw (.stall .fuel)
  | _ + 1, [], _, _, _ => pure []
  | n + 1, .lit bs :: rest, atStart, assign, loose => do
    let s ← M.shell
    let a := tildeCells s assign bs atStart rest.isEmpty loose
    let b ← tildeSegs n rest false assign loose
    return a ++ b
  | n + 1, sg :: rest, _, assign, loose => do
    let a ← seg n sg false loose
    let b ← tildeSegs n rest false assign loose
    return a ++ b

/-- Expands a word outside quotes. -/
def word : Nat → Word → Tilde → M (List Cell)
  | 0, _, _ => throw (.stall .fuel)
  | n + 1, w, .none => segs n w false none
  | n + 1, w, .start => tildeSegs n w true false none
  | n + 1, w, .assign => tildeSegs n w true true none

/-- Expands one segment. -/
def seg : Nat → Seg → Bool → Option Nat → M (List Cell)
  | 0, _, _, _ => throw (.stall .fuel)
  | _ + 1, .lit bs, quoted, loose => pure (litCells bs quoted loose)
  | _ + 1, .quoted bs, _, _ => pure (.mark :: bs.map (Cell.lit · true))
  | n + 1, .dq [.param "@" .plain []], _, _ => atCells n "@" true true
  | n + 1, .dq inner, _, _ => do
    let cs ← segs n inner true none
    return .mark :: cs
  | n + 1, .param name op w, quoted, _ => param n name op w quoted
  | n + 1, .subst body, quoted, _ => do
    let out ← subst n body
    valueCells out quoted
  | n + 1, .arith expr, quoted, _ => do
    let cs ← segs n expr true none
    let text := cellBytes cs
    let s ← M.shell
    match Arith.eval text (fun k => s.get? k) (fun k => (s.var? k).any (·.readonly)) with
    | .error msg => M.fail msg
    | .ok (v, assigns) =>
      for (k, x) in assigns do M.assign k (decimal x)
      valueCells (decimal v) quoted

/-- The cells of `$@` and `$*`. Quoted, `"$@"` gives one field per parameter and `"$*"` joins
them with the first character of `IFS`; unquoted, both are split like any value, each parameter
apart, so that an empty parameter gives no field. `exact` says the word is `"$@"`
alone, whose quotes keep no empty field when there are no parameters. -/
def atCells : Nat → String → Bool → Bool → M (List Cell)
  | 0, _, _, _ => throw (.stall .fuel)
  | _ + 1, name, quoted, exact => do
    let s ← M.shell
    let ps := s.params
    let ifs := s.ifs
    if quoted then
      if name == "@" then
        let r ← M.freshRegion
        let cells := List.intercalate [Cell.sep r] (ps.map fun p => p.map (Cell.held · r))
        return if exact && !ps.isEmpty then .mark :: cells else cells
      else
        return (List.intercalate (ifs.take 1) ps).map (Cell.lit · true)
    else
      let r ← M.freshRegion
      return List.intercalate [Cell.gap r] (ps.map fun p => p.map (Cell.loose · r))

/-- Expands the word of `${name-word}` and its kin: quoted inside double quotes, split as a value
outside them. -/
def altWord : Nat → Word → Bool → M (List Cell)
  | 0, _, _ => throw (.stall .fuel)
  | n + 1, w, quoted => do
    if quoted then segs n w true none
    else
      let r ← M.freshRegion
      tildeSegs n w true false (some r)

/-- Expands a parameter. -/
def param : Nat → String → ParamOp → Word → Bool → M (List Cell)
  | 0, _, _, _, _ => throw (.stall .fuel)
  | n + 1, name, op, w, quoted => do
    let s ← M.shell
    let isAt := name == "@" || name == "*"
    let value? : Option Bytes :=
      if isAt then (if s.params.isEmpty then none
        else some (List.intercalate (s.ifs.take 1) s.params))
      else s.param? name
    let checkSet : M Unit :=
      if s.opts.nounset && !isAt && value?.isNone then M.fail (name ++ ": parameter not set")
      else pure ()
    let present (colon : Bool) : Bool := match value? with
      | some v => !(colon && v.isEmpty)
      | none => false
    let plain : M (List Cell) :=
      if isAt then atCells n name quoted false else valueCells (value?.getD []) quoted
    match op with
    | .bad => M.fail "Bad substitution"
    | .plain =>
      checkSet
      plain
    | .length =>
      checkSet
      valueCells (decimal (value?.getD []).length) quoted
    | .useDefault colon => if present colon then plain else altWord n w quoted
    | .useAlternative colon => if present colon then altWord n w quoted else pure []
    | .assignDefault colon =>
      if present colon then plain
      else if !isVarName (utf8 name) then M.failAbout (utf8 name) "bad variable name"
      else
        let v := cellBytes (← segs n w true none)
        M.assign name v
        valueCells v quoted
    | .failUnset colon =>
      if present colon then plain
      else
        let given := cellBytes (← segs n w true none)
        let msg := if w.isEmpty then
            utf8 (if colon then "parameter not set or null" else "parameter not set")
          else given
        M.complain (utf8 name ++ utf8 ": " ++ msg)
        M.setStatus 2
        throw .fail
    | .removeSuffix longest =>
      checkSet
      let pat := Pattern.ofMarked (markedText (← segs n w false none))
      valueCells (removeSuffix pat longest (value?.getD [])) quoted
    | .removePrefix longest =>
      checkSet
      let pat := Pattern.ofMarked (markedText (← segs n w false none))
      valueCells (removePrefix pat longest (value?.getD [])) quoted

/-- Runs a command substitution: its output without the trailing line feeds. -/
def subst : Nat → Cmd → M Bytes
  | 0, _ => throw (.stall .fuel)
  | n + 1, body => do
    flushJobs n
    let (w, pid) := (← M.world).attach (.pipe Pipe.empty)
    M.modWorld fun _ => w
    let (after, r) ← M.isolated (do
      M.modShell fun s => s.setFd 1 pid
      inSubshell n (cmd n body false))
    M.passStall r
    modify fun m => { m with back := after.status }
    let out := (← M.world).unread pid
    return (out.reverse.dropWhile (· == 10)).reverse

/-- Expands the words of a command into fields. -/
def fields : Nat → List Word → List Bytes → M (List Bytes)
  | 0, _, _ => throw (.stall .fuel)
  | _ + 1, [], acc => pure acc
  | n + 1, w :: rest, acc => do
    if isDeclaration acc && isAssignment w then
      let cs ← word n w .assign
      fields n rest (acc ++ [cellBytes cs])
    else
      let cs ← word n w .start
      let s ← M.shell
      let fs := globFields (← M.world).tree s.cwd s.opts.noglob (splitFields s.ifs cs)
      fields n rest (acc ++ fs)

/-- Expands an assignment: the name and the value. -/
def assignment : Nat → Word → M (String × Bytes)
  | 0, _ => throw (.stall .fuel)
  | n + 1, w => do
    let bs := cellBytes (← word n w .assign)
    let name := bs.takeWhile (· != 61)
    return (textOf name, bs.drop (name.length + 1))

/-- Performs redirections in order. Returns the message of the first that fails. -/
def redirs : Nat → List Redir → M (Option String)
  | 0, _ => throw (.stall .fuel)
  | _ + 1, [] => pure none
  | n + 1, r :: rest => do
    let s ← M.shell
    match r with
    | .file fd op target =>
      let name := cellBytes (← word n target .start)
      match openFile (← M.world).tree s.cwd (pathText name) op s.opts.noclobber with
      | .error msg => return some msg
      | .ok (t, stream) =>
        let (w, id) := { (← M.world) with tree := t }.attach stream
        M.modWorld fun _ => w
        M.modShell fun s => s.setFd fd id
        redirs n rest
    | .dup fd _ target =>
      let name := cellBytes (← word n target .start)
      if name == [45] then
        M.modShell fun s => s.closeFd fd
        redirs n rest
      else
        match name with
        | [d] =>
          if 48 ≤ d && d ≤ 57 then
            match s.stream? (d.toNat - 48) with
            | some id =>
              M.modShell fun s => s.setFd fd id
              redirs n rest
            | none => return some (toString (d.toNat - 48) ++ ": Bad file descriptor")
          else
            M.modShell fun s => { s with line := s.parseLine }
            M.fail "Syntax error: Bad fd number"
        | _ =>
          M.modShell fun s => { s with line := s.parseLine }
          M.fail "Syntax error: Bad fd number"
    | .here fd body _ =>
      let text := cellBytes (← segs n body true none)
      let (w, id) := (← M.world).attach (.pipe (Pipe.ofData text))
      M.modWorld fun _ => w
      M.modShell fun s => s.setFd fd id
      redirs n rest

/-- Runs a command; `tested` says its status is looked at, so that `-e` does not apply. -/
def cmd : Nat → Cmd → Bool → M Unit
  | 0, _, _ => throw (.stall .fuel)
  | n + 1, c, tested => do
    if (← M.shell).opts.noexec then return
    match c with
    | .simple line assigns args rs =>
      simple n line assigns args rs tested
      M.checkExit tested
    | .pipe stages =>
      pipeline n stages none tested
      M.checkExit tested
    | .andThen a b =>
      cmd n a true
      if (← M.status) == 0 then cmd n b tested
    | .orElse a b =>
      cmd n a true
      if (← M.status) != 0 then cmd n b tested
    | .seq a b =>
      cmd n a tested
      cmd n b tested
    | .background line body =>
      M.modShell fun s => { s with line := line }
      let s ← M.shell
      let pid := s.pid + 1 + s.jobs.length
      modify fun m => { m with pending := m.pending ++ [⟨pid, s, body⟩] }
      M.modShell fun s => { s with jobs := (pid, 0) :: s.jobs }
      M.setStatus 0
    | .negate body =>
      cmd n body true
      M.setStatus (if (← M.status) == 0 then 1 else 0)
    | .subshell line body rs =>
      M.modShell fun s => { s with line := line }
      flushJobs n
      let (after, r) ← M.isolated (inSubshell n (do
        match ← redirs n rs with
        | some msg =>
          M.complain (utf8 msg)
          M.setStatus 2
        | none => cmd n body tested))
      M.passStall r
      M.setStatus after.status
      M.checkExit tested
    | .redirected line body rs =>
      M.modShell fun s => { s with line := line }
      let saved := (← M.shell).fds
      match ← redirs n rs with
      | some msg =>
        M.complain (utf8 msg)
        M.setStatus 2
        M.modShell fun s => { s with fds := saved }
      | none =>
        let r ← M.attempt (cmd n body tested)
        M.modShell fun s => { s with fds := saved }
        M.rethrow r
    | .ifThen cond yes no =>
      cmd n cond true
      if (← M.status) == 0 then cmd n yes tested
      else match no with
        | some e => cmd n e tested
        | none => M.setStatus 0
    | .loop isUntil cond body =>
      M.modShell fun s => { s with loops := s.loops + 1 }
      let r ← M.attempt (loop n isUntil cond body tested 0)
      M.modShell fun s => { s with loops := s.loops - 1 }
      M.rethrow r
    | .forIn line name items body =>
      M.modShell fun s => { s with line := line }
      let ws ← fields n items []
      M.modShell fun s => { s with loops := s.loops + 1 }
      M.setStatus 0
      let r ← M.attempt (forEach n name ws body tested)
      M.modShell fun s => { s with loops := s.loops - 1 }
      M.rethrow r
    | .caseOf line subject as =>
      M.modShell fun s => { s with line := line }
      let subj := cellBytes (← word n subject .start)
      arms n subj as tested
    | .defun _ name body =>
      M.modShell fun s => s.defineFunc name body
      M.setStatus 0
    | .empty => M.setStatus 0

/-- The rounds of a `while` or `until` loop; `last` is the status of the last body. -/
def loop : Nat → Bool → Cmd → Cmd → Bool → Nat → M Unit
  | 0, _, _, _, _, _ => throw (.stall .fuel)
  | n + 1, isUntil, cond, body, tested, last => do
    match ← M.attempt (cmd n cond true) with
    | .error (.breakLoops k) =>
      if k ≤ 1 then M.setStatus last else throw (.breakLoops (k - 1))
    | .error (.continueLoops k) =>
      if k ≤ 1 then loop n isUntil cond body tested last else throw (.continueLoops (k - 1))
    | .error f => throw f
    | .ok () =>
      let st ← M.status
      if (if isUntil then st == 0 else st != 0) then M.setStatus last
      else
        match ← M.attempt (cmd n body tested) with
        | .ok () => loop n isUntil cond body tested (← M.status)
        | .error (.breakLoops k) =>
          if k ≤ 1 then pure () else throw (.breakLoops (k - 1))
        | .error (.continueLoops k) =>
          if k ≤ 1 then loop n isUntil cond body tested (← M.status)
          else throw (.continueLoops (k - 1))
        | .error f => throw f

/-- The rounds of a `for` loop. -/
def forEach : Nat → String → List Bytes → Cmd → Bool → M Unit
  | 0, _, _, _, _ => throw (.stall .fuel)
  | _ + 1, _, [], _, _ => pure ()
  | n + 1, name, w :: rest, body, tested => do
    M.assign name w
    match ← M.attempt (cmd n body tested) with
    | .ok () => forEach n name rest body tested
    | .error (.breakLoops k) => if k ≤ 1 then pure () else throw (.breakLoops (k - 1))
    | .error (.continueLoops k) =>
      if k ≤ 1 then forEach n name rest body tested else throw (.continueLoops (k - 1))
    | .error f => throw f

/-- Runs the first arm of a `case` command one of whose patterns matches. -/
def arms : Nat → Bytes → List CaseArm → Bool → M Unit
  | 0, _, _, _ => throw (.stall .fuel)
  | _ + 1, _, [], _ => M.setStatus 0
  | n + 1, subj, .arm pats body :: rest, tested => do
    if ← anyMatch n subj pats then
      match body with
      | some b => cmd n b tested
      | none => M.setStatus 0
    else arms n subj rest tested

/-- Whether one of the patterns matches, expanding them one at a time. -/
def anyMatch : Nat → Bytes → List Word → M Bool
  | 0, _, _ => throw (.stall .fuel)
  | _ + 1, _, [] => pure false
  | n + 1, subj, p :: ps => do
    let cs ← word n p .start
    if Pattern.accepts (Pattern.ofMarked (markedText cs)) subj then return true
    else anyMatch n subj ps

/-- Runs the stages of a pipeline, each in a subshell reading what the one before wrote;
`tested` says the pipeline's status is looked at. -/
def pipeline : Nat → List Cmd → Option Nat → Bool → M Unit
  | 0, _, _, _ => throw (.stall .fuel)
  | _ + 1, [], _, _ => pure ()
  | n + 1, [c], input, tested => stage n c input none tested
  | n + 1, c :: rest, input, tested =>
    M.piped (fun pid => stage n c input (some pid) tested)
      (fun pid => pipeline n rest (some pid) tested) 64 M.pipeSize false

/-- Runs a stage of a pipeline in a subshell with the given input and output. -/
def stage : Nat → Cmd → Option Nat → Option Nat → Bool → M Unit
  | 0, _, _, _, _ => throw (.stall .fuel)
  | n + 1, c, input, output, tested => do
    flushJobs n
    let (after, r) ← M.isolated (do
      match input with
      | some i => M.modShell fun s => s.setFd 0 i
      | none => pure ()
      match output with
      | some o => M.modShell fun s => s.setFd 1 o
      | none => pure ()
      inSubshell n (cmd n c tested))
    M.passStall r
    M.setStatus after.status

/-- Runs a simple command; `tested` says its status is looked at, which a function it calls
inherits. -/
def simple : Nat → Nat → List Word → List Word → List Redir → Bool → M Unit
  | 0, _, _, _, _, _ => throw (.stall .fuel)
  | n + 1, line, assigns, args, rs, tested => do
    M.modShell fun s => { s with line := line }
    modify fun m => { m with back := 0 }
    let argv ← fields n args []
    let special := match argv with
      | a :: _ => specialBuiltins.contains (textOf a)
      | [] => false
    let saved := (← M.shell).fds
    match ← redirs n rs with
    | some msg =>
      M.complain (utf8 msg)
      M.setStatus 2
      M.modShell fun s => { s with fds := saved }
      if special then throw .fail
    | none =>
      let mut vals : List (String × Bytes) := []
      for a in assigns do
        vals := vals ++ [← assignment n a]
      let s ← M.shell
      if s.opts.xtrace then
        let _ ← M.emit 2 (traceLine s vals argv)
      let keep := argv == [utf8 "exec"]
      let r ← M.attempt (invoke n argv vals tested)
      if !keep then M.modShell fun s => { s with fds := saved }
      M.rethrow r

/-- Runs the command words with the assignments. -/
def invoke : Nat → List Bytes → List (String × Bytes) → Bool → M Unit
  | 0, _, _, _ => throw (.stall .fuel)
  | _ + 1, [], vals, _ => do
    for (k, v) in vals do M.assign k v
    M.setStatus (← get).back
  | n + 1, name :: args, vals, tested => do
    let text := textOf name
    let s ← M.shell
    if name.contains 47 then M.withTemps vals true (program n name name args)
    else if specialBuiltins.contains text then
      for (k, v) in vals do M.assign k v
      builtin n text args tested
    else match s.func? text with
      | some body => M.withTemps vals false (call n body args tested)
      | none =>
        if regularBuiltins.contains text then
          M.withTemps vals false (M.regular (builtin n text args tested))
        else
          let path := ((vals.reverse.lookup "PATH").orElse fun _ => s.get? "PATH").getD defaultPath
          match searchPath (← M.world).tree s.cwd path name with
          | .ok p => M.withTemps vals true (program n name p args)
          | .error denied =>
            M.complain (name ++ utf8 (if denied then ": Permission denied" else ": not found"))
            M.setStatus 127

/-- Calls a function with its arguments as positional parameters. -/
def call : Nat → Cmd → List Bytes → Bool → M Unit
  | 0, _, _, _ => throw (.stall .fuel)
  | n + 1, body, args, tested => do
    let before ← M.shell
    let inner := { before with params := args, loops := 0, depth := before.depth + 1 }
    let inner := { inner with optind := 1, optoff := none }
    M.setShell { inner with frames := [] :: before.frames }
    let r ← M.attempt (cmd n body tested)
    let s ← M.shell
    let s := match s.frames with
      | frame :: _ => frame.foldl (fun (s : State) (q : String × Option Var) =>
          let (k, old) := q
          if k == "-" then
            let letters := ((old.bind (·.value)).getD []).map fun (b : UInt8) => Char.ofNat b.toNat
            { s with opts := letters.foldl (fun o c => o.set c true) Options.off }
          else s.restoreVar k old) s
      | [] => s
    let s := { s with params := before.params, loops := before.loops, depth := before.depth }
    let s := { s with optind := before.optind, optoff := before.optoff }
    M.setShell { s with frames := before.frames }
    match r with
    | .error .ret => pure ()
    | .error (.breakLoops _) => pure ()
    | .error (.continueLoops _) => pure ()
    | r => M.rethrow r

/-- Runs a builtin. -/
def builtin : Nat → String → List Bytes → Bool → M Unit
  | 0, _, _, _ => throw (.stall .fuel)
  | n + 1, name, args, tested => M.asBuiltin name do
    match name with
    | "echo" => Builtin.echo args
    | "printf" => Builtin.printf args
    | ":" | "true" => M.setStatus 0
    | "false" => M.setStatus 1
    | "read" => Builtin.read args
    | "cd" | "chdir" => Builtin.cd args
    | "pwd" => Builtin.pwd args
    | "export" => Builtin.mark false args
    | "readonly" => Builtin.mark true args
    | "unset" => Builtin.unset args
    | "set" => Builtin.set args
    | "shift" => Builtin.shift args
    | "exit" => Builtin.exit args
    | "return" => Builtin.ret args
    | "break" => Builtin.leave false args
    | "continue" => Builtin.leave true args
    | "test" => Builtin.test false args
    | "[" => Builtin.test true args
    | "trap" => Builtin.trap args
    | "umask" => Builtin.umask args
    | "times" => Builtin.times
    | "local" => Builtin.declareLocal args
    | "eval" => evalText n args tested
    | "." => source n args
    | "exec" => execCmd n args
    | "command" => command n args
    | "type" => typeCmd args
    | "getopts" => Builtin.getopts args
    | "wait" => do
      flushJobs n
      Builtin.wait args
    | "hash" =>
      let s ← M.shell
      let t := (← M.world).tree
      Builtin.hash args fun a => (describe s t a).isSome
    | "fg" | "bg" => Builtin.noJob
    | "kill" => Builtin.kill args
    | "alias" => Builtin.defineAliases args
    | "unalias" => Builtin.unalias args
    | "ulimit" => Builtin.ulimit args
    | _ => M.setStatus 0

/-- `eval word...`: runs the words, joined by spaces, as commands. -/
def evalText : Nat → List Bytes → Bool → M Unit
  | 0, _, _ => throw (.stall .fuel)
  | n + 1, args, tested => do
    let s ← M.shell
    M.setStatus 0
    let r ← M.attempt (script n (Reader.start ((List.intercalate [32] args).map charOf) 1) tested)
    M.modShell fun t => { t with parseLine := s.parseLine }
    M.rethrow r

/-- `. file [arg...]`: runs the commands of a file in this shell. -/
def source : Nat → List Bytes → M Unit
  | 0, _ => throw (.stall .fuel)
  | n + 1, args => do
    match args with
    | [] => M.setStatus 0
    | file :: rest =>
      let s ← M.shell
      let t := (← M.world).tree
      let path := if file.contains 47 then some file
        else findIn t s.cwd ((s.get? "PATH").getD defaultPath) file
      match path with
      | none => M.failAbout file "not found"
      | some p =>
        match t.readFile s.cwd (pathText p) with
        | .error _ => M.fail ("cannot open " ++ pathText file ++ ": No such file")
        | .ok (_, data) =>
          if !rest.isEmpty then M.modShell fun s => { s with params := rest }
          M.setStatus 0
          let r ← M.attempt (script n (Reader.start ((data.filter (· != 0)).map charOf) 1) false)
          let back := fun (t : State) => if rest.isEmpty then t.params else s.params
          M.modShell fun t => { t with parseLine := s.parseLine, params := back t }
          match r with
          | .error .ret => pure ()
          | r => M.rethrow r

/-- `exec [command [arg...]]`: with a command, runs it in place of the shell. -/
def execCmd : Nat → List Bytes → M Unit
  | 0, _ => throw (.stall .fuel)
  | n + 1, args => do
    match args with
    | [] => M.setStatus 0
    | name :: rest =>
      let s ← M.shell
      let t := (← M.world).tree
      let path : Except Bool Bytes := if name.contains 47 then .ok name
        else searchPath t s.cwd ((s.get? "PATH").getD defaultPath) name
      match path with
      | .error denied =>
        M.complain (name ++ utf8 (if denied then ": Permission denied" else ": not found"))
        M.setStatus (if denied then 126 else 127)
        throw .exit
      | .ok p =>
        program n name p rest
        throw .exit

/-- `command [-v|-V] name [arg...]`: runs a builtin or program, passing over functions, or
describes it. -/
def command : Nat → List Bytes → M Unit
  | 0, _ => throw (.stall .fuel)
  | n + 1, args => do
    let (opts, rest) ← M.options [('p', false), ('v', false), ('V', false)] args
    let s ← M.shell
    let t := (← M.world).tree
    if opts.any (fun o => o.1 == 'v' || o.1 == 'V') then
      match rest with
      | [] => M.setStatus 0
      | name :: _ =>
        match describe s t name with
        | some (short, long) =>
          M.setStatus 0
          M.writeOut "command" ((if opts.any (·.1 == 'V') then long else short) ++ [10])
        | none =>
          M.setStatus 127
          if opts.any (·.1 == 'V') then M.writeOut "command" (name ++ utf8 ": not found\n")
    else
      M.modShell fun s => { s with builtin := none }
      match rest with
      | [] => M.setStatus 0
      | name :: more =>
        let text := textOf name
        if name.contains 47 then program n name name more
        else if specialBuiltins.contains text || regularBuiltins.contains text then
          M.regular (builtin n text more false)
        else
          match searchPath t s.cwd ((s.get? "PATH").getD defaultPath) name with
          | .ok p => program n name p more
          | .error denied =>
            M.complain (name ++ utf8 (if denied then ": Permission denied" else ": not found"))
            M.setStatus 127

/-- Starts the program in a file, the way the system does; the shell runs a file the system
cannot start as a script. `name` is the command as written, which messages name. -/
def program : Nat → Bytes → Bytes → List Bytes → M Unit
  | 0, _, _, _ => throw (.stall .fuel)
  | n + 1, name, path, args => do
    flushJobs n
    let s ← M.shell
    if isRemoveDirPath (pathText path) then M.setStatus (← removeDirs args) else
    match launchOf (← M.world).tree s.cwd (pathText path) with
    | .shell interp flags => M.setStatus (← child n interp (flags ++ [path] ++ args))
    | .lookup interp arg => M.setStatus (← lookupRun n interp arg path args)
    | .noFormat text =>
      M.setShell (State.start s.exported path args (← M.world).tree s.cwd s.fds Options.off
        (s.pid + 1))
      M.setStatus (← runShell n s text)
    | .fault f =>
      let (msg, code) : String × Nat := match f with
        | .permissionDenied => ("Permission denied", 126)
        | .noEntry => ("not found", 127)
        | .notDirectory => ("not found", 2)
        | f => (f.text, 2)
      M.complain (name ++ utf8 (": " ++ msg))
      M.setStatus code

/-- Runs the shell at the path `interp` with the arguments `argv` in a new shell that inherits
the exported variables, the directory and the descriptors; returns its exit status. The
arguments are options, then the script's path and the positional parameters; with `-s` the
commands come from the standard input instead, and all arguments after the options are
positional parameters. Messages about the arguments and the script name the shell. -/
def child : Nat → Bytes → List Bytes → M Nat
  | 0, _, _ => throw (.stall .fuel)
  | n + 1, interp, argv => do
    let parent ← M.shell
    let t := (← M.world).tree
    match startArgs (argv.length + 1) Options.off argv with
    | .error msg =>
      let _ ← M.emit 2 (interp ++ utf8 (": 0: " ++ msg) ++ [10])
      return 2
    | .ok (opts, rest) =>
      let fromInput := opts.get 's' || rest.isEmpty
      let (arg0, params) := if fromInput then (interp, rest) else (rest.headD [], rest.drop 1)
      let opts := if opts.get 'i' then opts.set 'm' true else opts
      M.setShell (State.start parent.exported arg0 params t parent.cwd parent.fds opts
        (parent.pid + 1))
      if opts.get 'm' then
        M.complain (utf8 "can't access tty; job control turned off")
        M.modShell fun s => { s with opts := s.opts.set 'm' false }
      if fromInput then runShell n parent (← M.readAll 0)
      else
        match t.readFile parent.cwd (pathText arg0) with
        | .ok (_, data) => runShell n parent data
        | .error f =>
          let why := match f with
            | .noEntry => "No such file"
            | f => f.text
          let _ ← M.emit 2 (interp ++ utf8 (": 0: cannot open " ++ pathText arg0 ++ ": " ++ why) ++
            [10])
          M.setShell parent
          return 2

/-- Runs the program that the interpreter line `#!env arg` names, for the script at `path`:
the program is looked up in the exported search path, and runs with `-S` options, the script's
path and the arguments; a file the system cannot start runs in the shell. A program that is not
found, or not started, is reported as `env` reports it. Returns the exit status. -/
def lookupRun : Nat → Bytes → Bytes → Bytes → List Bytes → M Nat
  | 0, _, _, _, _ => throw (.stall .fuel)
  | n + 1, interp, arg, path, args => do
    let s ← M.shell
    let t := (← M.world).tree
    let words := match arg with
      | 45 :: 83 :: rest => (rest.splitOn 32).filter (· != [])
      | _ => [arg]
    match words with
    | [] => return 0
    | name :: opts =>
      let say (msg : String) (code : Nat) : M Nat := do
        let _ ← M.emit 2 (interp ++ utf8 ": '" ++ name ++ utf8 ("': " ++ msg) ++ [10])
        return code
      if name.contains 32 || name.contains 9 then
        let _ ← say "No such file or directory" 127
        let _ ← M.emit 2 (interp ++ utf8 ": use -[v]S to pass options in shebang lines\n")
        return 127
      let dirs := pathEntries ((s.exported.lookup "PATH").getD (utf8 "/bin:/usr/bin"))
      let candidates := if name.contains 47 then [name]
        else dirs.map fun d => if d.isEmpty then name else d ++ [47] ++ name
      let runs (c : Bytes) : Bool := isShellPath (pathText c) || t.isExecutableFile s.cwd (pathText c)
      let rest := opts ++ [path] ++ args
      match candidates.find? runs with
      | some c =>
        if isShellPath (pathText c) then child n name rest
        else match launchOf t s.cwd (pathText c) with
          | .shell i flags => child n i (flags ++ [c] ++ rest)
          | .lookup i a => lookupRun n i a c rest
          | .noFormat _ => child n (utf8 "/bin/sh") ([c] ++ rest)
          | .fault f => say f.text 126
      | none =>
        if candidates.any fun c => (t.stat s.cwd (pathText c)).toOption.isSome then
          say "Permission denied" 126
        else say "No such file or directory" 127

/-- Runs the script `text` in the shell state set up for it, then its `EXIT` trap; returns the
exit status and puts the state `parent` back. The shell reads past the zero bytes of a script as if
they were not there. -/
def runShell : Nat → State → Bytes → M Nat
  | 0, _, _ => throw (.stall .fuel)
  | n + 1, parent, text => do
    let text := text.filter (· != 0)
    match ← M.attempt (topScript n (Reader.start (text.map charOf) 1) text.length) with
    | .error (.stall x) =>
      M.setShell parent
      throw (.stall x)
    | _ =>
      exitTrap n
      flushJobs n
      let st := (← M.shell).status % 256
      M.setShell parent
      return st

/-- Runs `body` as a subshell: the traps it inherits are reset, but for those that ignore their
condition, and its own `EXIT` trap runs when it ends. -/
def inSubshell : Nat → M Unit → M Unit
  | 0, _ => throw (.stall .fuel)
  | n + 1, body => do
    M.modShell fun s => { s with traps := s.traps.filter fun t => t.2.isEmpty }
    let r ← M.attempt body
    match r with
    | .error (.stall x) => throw (.stall x)
    | _ =>
      exitTrap n
      flushJobs n
    M.rethrow r

/-- Runs the background commands that have not run yet, oldest first, each in the state of the
shell when it was started and with its standard input empty. The shell's own state stays as it
was, but for the status it keeps for each of them. -/
def flushJobs : Nat → M Unit
  | 0 => throw (.stall .fuel)
  | n + 1 => do
    let jobs := (← get).pending
    modify fun m => { m with pending := [] }
    for j in jobs do
      let parent ← M.shell
      let (w, null) := (← M.world).attach (.pipe (Pipe.ofData []))
      M.modWorld fun _ => w
      M.setShell (j.state.setFd 0 null)
      let r ← M.attempt (inSubshell n (cmd n j.body false))
      let st := (← M.shell).status
      M.setShell { parent with jobs := parent.jobs.map fun q => if q.1 == j.pid then (j.pid, st) else q }
      M.passStall r

/-- Runs the `EXIT` trap of a shell that ends. The shell then leaves with the status it was
leaving with, unless the trap exits or fails, which sets its own. -/
def exitTrap : Nat → M Unit
  | 0 => throw (.stall .fuel)
  | n + 1 => do
    let s ← M.shell
    match s.traps.lookup "EXIT" with
    | none => pure ()
    | some action =>
      M.modShell fun t => { t with traps := t.traps.filter (·.1 != "EXIT") }
      M.modShell fun t => { t with leaving := some s.status }
      match ← M.attempt (script n (Reader.start (action.map charOf) 1) false) with
      | .error (.stall x) => throw (.stall x)
      | .error .exit => pure ()
      | .error .fail => pure ()
      | _ => M.setStatus s.status

/-- Reads and runs the commands of a shell's script, `size` characters long, one line at a time.
An interactive shell (`-i`) writes the prompt `PS1` to descriptor 2 before each line it reads
and `PS2` before each further line of the same command, and writes a line feed at the end. An
error does not end it: it drops the rest of the block of 8192 bytes it has read and goes on after
it. With `-I` the end of the input is refused fifty times before the shell leaves. -/
def topScript : Nat → Reader → Nat → M Unit
  | 0, _, _ => throw (.stall .fuel)
  | n + 1, r, size => do
    let s ← M.shell
    let inter := s.opts.get 'i'
    if inter then
      let _ ← M.emit 2 (s.getD "PS1")
    let dropBlock (r : Reader) : Reader :=
      let pos := size - r.rest.length
      { r with rest := r.rest.drop ((pos + 8191) / 8192 * 8192 - pos) }
    match readNext { r with aliases := (← M.shell).aliases } with
    | .error e =>
      M.modShell fun s => { s with line := e.line }
      if inter then
        M.complain (utf8 ("Syntax error: " ++ e.msg))
        M.setStatus 2
        topScript n (dropBlock r) size
      else M.fail ("Syntax error: " ++ e.msg)
    | .ok (.atEnd, r') =>
      let read := (r.rest.take (r.rest.length - r'.rest.length)).map byteOf
      if s.opts.verbose then
        let _ ← M.emit 2 read
      if s.opts.get 'I' then
        let again := utf8 "\nUse \"exit\" to leave shell.\n" ++ (if inter then s.getD "PS1" else [])
        let _ ← M.emit 2 ((List.replicate 50 again).flatten)
      else if inter then
        let _ ← M.emit 2 [10]
    | .ok (next, r') =>
      let read := (r.rest.take (r.rest.length - r'.rest.length)).map byteOf
      if s.opts.verbose then
        let _ ← M.emit 2 read
      if inter then
        let more := (read.dropLast.filter (· == 10)).length
        let _ ← M.emit 2 (List.replicate more (s.getD "PS2")).flatten
      M.modShell fun s => { s with parseLine := r'.line }
      match next with
      | .command c =>
        match ← M.attempt (cmd n c false) with
        | .error .fail =>
          if (← M.shell).opts.get 'i' then topScript n (dropBlock r') size
          else throw .fail
        | .error f => throw f
        | .ok () => topScript n r' size
      | _ => topScript n r' size

/-- Reads and runs the commands of a text one at a time; `tested` says the status of the whole
is looked at, as for the text of `eval`. A syntax error ends the run with status 2. -/
def script : Nat → Reader → Bool → M Unit
  | 0, _, _ => throw (.stall .fuel)
  | n + 1, r, tested => do
    match readNext { r with aliases := (← M.shell).aliases } with
    | .error e =>
      M.modShell fun s => { s with line := e.line }
      M.fail ("Syntax error: " ++ e.msg)
    | .ok (.atEnd, r') =>
      if (← M.shell).opts.verbose then
        let _ ← M.emit 2 ((r.rest.take (r.rest.length - r'.rest.length)).map byteOf)
    | .ok (next, r') =>
      if (← M.shell).opts.verbose then
        let _ ← M.emit 2 ((r.rest.take (r.rest.length - r'.rest.length)).map byteOf)
      M.modShell fun s => { s with parseLine := r'.line }
      match next with
      | .command c => cmd n c tested
      | _ => pure ()
      script n r' tested

end

/-- The fuel a program run is given. -/
def runFuel : Nat := 4000000

/-- Starts the program in a file the way the system does, for a caller with no shell to fall
back on: a file without an interpreter line cannot be started. Returns the exit status, or the
fault that kept the program from starting. -/
def launchProgram (fuel : Nat) (path : String) (args : List Bytes) : M (Except Fs.Fault Nat) := do
  let s ← M.shell
  match launchOf (← M.world).tree s.cwd path with
  | .shell interp flags => return .ok (← child fuel interp (flags ++ [utf8 path] ++ args))
  | .lookup interp arg => return .ok (← lookupRun fuel interp arg (utf8 path) args)
  | .noFormat _ => return .error .execFormat
  | .fault f => return .error f

/-- Runs `x` on a machine: its result or flow, and the machine afterwards. -/
def M.runOn {α : Type} (x : M α) (m : Machine) : Except Flow α × Machine :=
  Id.run (x.run.run m)

end Conch.Sh

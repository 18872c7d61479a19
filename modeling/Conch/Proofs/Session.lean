import Mathlib.Data.List.Forall2
import Conch.Session.Run
import Conch.Proofs.Expansion
/-!
# Lines, statuses and the end of a session

A line without `|` runs the command its words name once they are split, cut at the first
comment, expanded against the environment and the last status, and stripped of their
redirections (`Shell.command?`). `runCommand_cases` says once what running such a line can do:
a line that names no command leaves the shell alone and ends with a status, and a line that names
one runs the shell's own command of that name or a program.

Only `exit` ends a session. `Builtin.run?_cases` says once what the shell's own commands can
do: besides `exit`, only `export` and `unset` write the environment, and neither ends the
session; no program ends it (`runExternal_status`), and no pipeline does (`runPipeline_status`).
So a line ends the session only when it is not blank, holds no `|`, names `exit`, and `exit`
reads its code (`Session.runLine_exit`). Every other line leaves the status its command
returned, or 1 when an error escaped the command, or never ends because a program it waits for
waits forever (`Session.runLine_continues`), and a blank line changes nothing
(`Session.runLine_blank`). The status a line leaves is what `$?` expands to until a later line
runs something.
-/

namespace Conch

/-! ### What a line asks for -/

/-- The command a line without `|` runs, once its words are split, cut at the first comment,
expanded, and stripped of their redirections: its name, its arguments and its redirections.
Nothing when no command word is left or a redirection has no target. -/
def Shell.command? (s : Shell) (line : String) :
    Option (String × List String × Word.Redirections) :=
  match Word.Command.ofWords (Word.expand s.env (toString s.status) (commandWords line)) with
  | .ok ⟨name :: args, r⟩ => some (name, args, r)
  | _ => none

@[simp] theorem Shell.remember_env (s : Shell) (line : String) :
    (s.remember line).env = s.env := by
  unfold remember; split <;> rfl

@[simp] theorem Shell.remember_status (s : Shell) (line : String) :
    (s.remember line).status = s.status := by
  unfold remember; split <;> rfl

@[simp] theorem Shell.remember_cwd (s : Shell) (line : String) :
    (s.remember line).cwd = s.cwd := by
  unfold remember; split <;> rfl

/-- Remembering a line changes nothing the words of a later line depend on. -/
@[simp] theorem Shell.command?_remember (s : Shell) (text line : String) :
    (s.remember text).command? line = s.command? line := by
  simp [command?]

/-- Running a line without `|`: a line that names no command leaves the shell as it was and
ends with a status; a line that names one runs the shell's own command of that name or, when
there is none, a program, which leaves the shell as it was. -/
theorem runCommand_cases (L : Launcher) (s : Shell) (w : World) (line : String) :
    (s.command? line = none ∧ (runCommand L s w line).1 = s ∧
      ∃ n, (runCommand L s w line).2.2 = .status n) ∨
    ∃ name args r, s.command? line = some (name, args, r) ∧
      (Builtin.run? s w name args r = some (runCommand L s w line) ∨
        (Builtin.run? s w name args r = none ∧
          runCommand L s w line = (s, runExternal L s w name args r))) := by
  unfold runCommand Shell.command?
  cases hwords : commandWords line with
  | nil => exact .inl ⟨rfl, rfl, 0, rfl⟩
  | cons word words =>
    simp only
    cases Word.Command.ofWords (Word.expand s.env (toString s.status) (word :: words)) with
    | error e => exact .inl ⟨rfl, rfl, 1, rfl⟩
    | ok cmd =>
      obtain ⟨cmdWords, r⟩ := cmd
      cases cmdWords with
      | nil => exact .inl ⟨rfl, rfl, 0, rfl⟩
      | cons name args =>
        refine .inr ⟨name, args, r, rfl, ?_⟩
        simp only
        cases Builtin.run? s w name args r with
        | some res => exact .inl rfl
        | none => exact .inr ⟨rfl, rfl⟩

/-! ### Nothing but `exit` ends a session -/

/-- A program that cannot be started ends its line with a status. -/
theorem startFailure_status (w : World) (program : String) (f : Fs.Fault) :
    ∃ n, (startFailure w program f).2 = .status n := by
  unfold startFailure
  split <;> exact ⟨_, rfl⟩

/-- Waiting for programs of the system ends a line with a status, or never. -/
theorem Proc.wait_ending (m : Proc Nat) (w : World) :
    (∃ n, (m.wait w).2 = .status n) ∨ (m.wait w).2 = .hang := by
  unfold Proc.wait
  rcases m.run.run w with ⟨_ | st, w⟩
  · exact .inr rfl
  · exact .inl ⟨st, rfl⟩

theorem runProgram_ending (L : Launcher) (s : Shell) (w : World) (program : String)
    (args : List String) (fds : List (Nat × Nat)) :
    (∃ n, (runProgram L s w program args fds).2 = .status n) ∨
      (runProgram L s w program args fds).2 = .hang := by
  unfold runProgram
  split
  · exact .inl ⟨1, rfl⟩
  · split
    · exact .inl (startFailure_status _ _ _)
    · exact Proc.wait_ending _ _

/-- A program run from a line ends it with a status, or never ends, whatever the program does. -/
theorem runExternal_ending (L : Launcher) (s : Shell) (w : World) (name : String)
    (args : List String) (r : Word.Redirections) :
    (∃ n, (runExternal L s w name args r).2 = .status n) ∨
      (runExternal L s w name args r).2 = .hang := by
  unfold runExternal
  split
  · exact .inl ⟨127, rfl⟩
  · split
    · exact .inl ⟨127, rfl⟩
    · exact .inl ⟨1, rfl⟩
    · exact runProgram_ending _ _ _ _ _ _

/-- A pipeline ends its line with a status, or never ends. -/
theorem runStages_ending (L : Launcher) (s : Shell) (w : World) (pieces : List String) :
    (∃ n, (runStages L s w pieces).2 = .status n) ∨ (runStages L s w pieces).2 = .hang := by
  unfold runStages
  split
  · exact .inl ⟨_, rfl⟩
  · exact Proc.wait_ending _ _

theorem runPipeline_ending (L : Launcher) (s : Shell) (w : World) (line : String) :
    (∃ n, (runPipeline L s w line).2 = .status n) ∨ (runPipeline L s w line).2 = .hang :=
  runStages_ending L s w _

namespace Builtin

/-- `export` ends with a status, or with the error of the argument the environment refuses. -/
theorem exportAll_ne_exit (w : World) (args : List String) :
    ∀ (s : Shell) (code : Int), (exportAll s w args).2.2 ≠ .exit code := by
  induction args with
  | nil => intro s code; simp [exportAll]
  | cons a rest ih =>
    intro s code
    unfold exportAll
    simp only []
    split
    · exact ih _ code
    · simp

/-! The commands that only report: they keep the environment and end with a status. -/

theorem cd_reports (s : Shell) (w : World) (args : List String) :
    (cd s w args).1.env = s.env ∧ ∃ n, (cd s w args).2.2 = .status n := by
  unfold cd
  simp only []
  split <;> exact ⟨rfl, _, rfl⟩

theorem echo_reports (s : Shell) (w : World) (args : List String) (r : Word.Redirections) :
    (echo s w args r).1 = s ∧ ∃ n, (echo s w args r).2.2 = .status n := by
  unfold echo
  simp only []
  split
  · -- written to the file, or the file refused
    split <;> exact ⟨rfl, _, rfl⟩
  · exact ⟨rfl, 0, rfl⟩

/-- `type` stops at its first name that is not found at the latest, and keeps the shell. -/
theorem type_go_reports (s : Shell) (args : List String) :
    ∀ w : World, (type.go s w args).1 = s ∧ ∃ n, (type.go s w args).2.2 = .status n := by
  induction args with
  | nil => intro w; exact ⟨rfl, 0, rfl⟩
  | cons name rest ih =>
    intro w
    unfold type.go
    split
    · exact ih _
    · split
      · exact ih _
      · exact ⟨rfl, 1, rfl⟩

theorem type_reports (s : Shell) (w : World) (args : List String) :
    (type s w args).1 = s ∧ ∃ n, (type s w args).2.2 = .status n := by
  unfold type
  split
  · exact ⟨rfl, 1, rfl⟩
  · exact type_go_reports s args w

theorem ls_reports (s : Shell) (w : World) (args : List String) (r : Word.Redirections) :
    (ls s w args r).1 = s ∧ ∃ n, (ls s w args r).2.2 = .status n := by
  unfold ls
  simp only []
  split
  · -- the directory cannot be listed
    exact ⟨rfl, 1, rfl⟩
  · split
    · split <;> exact ⟨rfl, _, rfl⟩
    · exact ⟨rfl, 0, rfl⟩

theorem cat_reports (s : Shell) (w : World) (args : List String) (r : Word.Redirections) :
    (cat s w args r).1 = s ∧ ∃ n, (cat s w args r).2.2 = .status n := by
  unfold cat
  split
  · exact ⟨rfl, 1, rfl⟩
  · split
    · -- a file cannot be read
      exact ⟨rfl, 1, rfl⟩
    · split
      · split <;> exact ⟨rfl, _, rfl⟩
      · exact ⟨rfl, 0, rfl⟩

/-- What a command of the shell can do: `exit`, `export` and `unset` are the only ones that end
the session or write the environment; every other one keeps the environment and ends its line
with a status. -/
theorem run?_cases {s : Shell} {w : World} {name : String} {args : List String}
    {r : Word.Redirections} {res : Result} (hrun : run? s w name args r = some res) :
    (name = "exit" ∧ res = exit s w args) ∨ (name = "export" ∧ res = exportAll s w args) ∨
    (name = "unset" ∧ res = unset s w args) ∨
    (name ∉ ["exit", "export", "unset"] ∧ res.1.env = s.env ∧ ∃ n, res.2.2 = .status n) := by
  unfold run? at hrun
  split at hrun <;> cases hrun
  · exact .inl ⟨rfl, rfl⟩
  · exact .inr (.inr (.inr ⟨by decide, cd_reports s w args⟩))
  · exact .inr (.inr (.inr ⟨by decide, rfl, 0, rfl⟩))
  · exact .inr (.inr (.inr ⟨by decide, congrArg Shell.env (echo_reports s w args r).1,
      (echo_reports s w args r).2⟩))
  · exact .inr (.inl ⟨rfl, rfl⟩)
  · exact .inr (.inr (.inl ⟨rfl, rfl⟩))
  · exact .inr (.inr (.inr ⟨by decide, rfl, 0, rfl⟩))
  · exact .inr (.inr (.inr ⟨by decide, congrArg Shell.env (type_reports s w args).1,
      (type_reports s w args).2⟩))
  · exact .inr (.inr (.inr ⟨by decide, congrArg Shell.env (ls_reports s w args r).1,
      (ls_reports s w args r).2⟩))
  · exact .inr (.inr (.inr ⟨by decide, congrArg Shell.env (cat_reports s w args r).1,
      (cat_reports s w args r).2⟩))
  · exact .inr (.inr (.inr ⟨by decide, rfl, 0, rfl⟩))

/-- No command of the shell but `exit` ends the session. -/
theorem run?_ne_exit {s : Shell} {w : World} {name : String} {args : List String}
    {r : Word.Redirections} {res : Result} (hrun : run? s w name args r = some res)
    (hname : name ≠ "exit") (code : Int) : res.2.2 ≠ .exit code := by
  rcases run?_cases hrun with ⟨rfl, -⟩ | ⟨-, rfl⟩ | ⟨-, rfl⟩ | ⟨-, -, n, hn⟩
  · exact absurd rfl hname
  · exact exportAll_ne_exit w args s code
  · simp [unset]
  · simp [hn]

end Builtin

/-! ### One line of a session -/

/-- The command a line runs after `exit` has been dispatched on it. -/
theorem runCommand_of_command? {L : Launcher} {s : Shell} {w : World} {line name : String}
    {args : List String} {r : Word.Redirections} (hcmd : s.command? line = some (name, args, r)) :
    runCommand L s w line =
      (Builtin.run? s w name args r).getD (s, runExternal L s w name args r) := by
  rcases runCommand_cases L s w line with ⟨hnone, -⟩ | ⟨name', args', r', hsome, hrun⟩
  · rw [hcmd] at hnone
    cases hnone
  · rw [hcmd] at hsome
    cases hsome
    rcases hrun with hrun | ⟨hrun, heq⟩
    · rw [hrun]; rfl
    · rw [hrun, heq]; rfl

/-- What a non-blank line leaves, before the session records it: the shell, the world and the
ending of the pipeline of the pieces between its bars when it holds `|`, else of its one
command. -/
def Session.lineResult (ss : Session) (text : String) : Shell × World × Ending :=
  if (Text.trim text).contains '|' then
    (ss.shell.remember text,
      runPipeline ss.programs (ss.shell.remember text) ss.world.fresh (Text.trim text))
  else runCommand ss.programs (ss.shell.remember text) ss.world.fresh (Text.trim text)

namespace Session

variable (ss : Session) (text : String)

/-- A blank line prints nothing and leaves the status, the environment, the working directory
and the files as they were. -/
theorem runLine_blank (hblank : Text.trim text = "") :
    (ss.runLine text).1.shell.status = ss.shell.status ∧
      (ss.runLine text).1.shell.env = ss.shell.env ∧
      (ss.runLine text).1.shell.cwd = ss.shell.cwd ∧
      (ss.runLine text).1.world = ss.world ∧
      (ss.runLine text).2 = (.line ss.shell.prompt [] ss.shell.status, true) := by
  simp [runLine, hblank]

/-- A non-blank line leaves the status its command or pipeline returned, or 1 when an error
escaped it, with the message printed after `Error: `; only an exit ending ends the session, and
a line that never ends is answered with the prompt alone. -/
theorem runLine_nonblank (hline : Text.trim text ≠ "") :
    ss.runLine text =
      match ss.lineResult text with
      | (shell, w, .status n) =>
        ({ ss with shell := { shell with status := n }, world := w },
          .line ss.shell.prompt w.screen n, true)
      | (shell, w, .failure msg) =>
        ({ ss with shell := { shell with status := 1 }, world := w.say ("Error: " ++ msg) },
          .line ss.shell.prompt (w.say ("Error: " ++ msg)).screen 1, true)
      | (shell, w, .exit code) =>
        ({ ss with shell := shell, world := w }, .exit ss.shell.prompt w.screen code, false)
      | (shell, w, .hang) =>
        ({ ss with shell := shell, world := w }, .hang ss.shell.prompt, true) := by
  have hne : (Text.trim text).isEmpty = false := by simpa using hline
  unfold runLine lineResult
  simp only [hne, Bool.false_eq_true, if_false]
  by_cases hpipe : (Text.trim text).contains '|' = true
  · simp only [hpipe, if_true]
    rcases runPipeline ss.programs (ss.shell.remember text) ss.world.fresh (Text.trim text) with
      ⟨w, ending⟩
    cases ending <;> rfl
  · simp only [hpipe, Bool.false_eq_true, if_false]
    rcases runCommand ss.programs (ss.shell.remember text) ss.world.fresh (Text.trim text) with
      ⟨shell, w, ending⟩
    cases ending <;> rfl

/-- A line that runs `exit`, with no `|` in it, leaves what `exit` leaves. -/
theorem lineResult_of_exit {args : List String} {r : Word.Redirections}
    (hpipe : (Text.trim text).contains '|' = false)
    (hcmd : ss.shell.command? (Text.trim text) = some ("exit", args, r)) :
    ss.lineResult text = Builtin.exit (ss.shell.remember text) ss.world.fresh args := by
  rw [← Shell.command?_remember ss.shell text] at hcmd
  unfold lineResult
  rw [if_neg (by simp [hpipe]), runCommand_of_command? hcmd]
  rfl

/-- Every line but one that runs `exit` without `|` goes on with the session. -/
theorem lineResult_ne_exit
    (hnot : (Text.trim text).contains '|' = true ∨
      ∀ args r, ss.shell.command? (Text.trim text) ≠ some ("exit", args, r))
    (code : Int) : (ss.lineResult text).2.2 ≠ .exit code := by
  unfold lineResult
  by_cases hpipe : (Text.trim text).contains '|' = true
  · rw [if_pos hpipe]
    rcases runPipeline_ending ss.programs (ss.shell.remember text) ss.world.fresh
      (Text.trim text) with ⟨n, hn⟩ | hn <;> simp [hn]
  · have hexit : ∀ args r, (ss.shell.remember text).command? (Text.trim text) ≠
        some ("exit", args, r) := by
      simpa [hpipe] using hnot
    rw [if_neg hpipe]
    rcases runCommand_cases ss.programs (ss.shell.remember text) ss.world.fresh
      (Text.trim text) with
      ⟨-, -, n, hn⟩ | ⟨name, args, r, hcmd, hrun⟩
    · simp [hn]
    · -- the command is not `exit`: one of the shell's other commands, or a program
      have hname : name ≠ "exit" := by
        rintro rfl
        exact hexit args r hcmd
      rcases hrun with hrun | ⟨-, heq⟩
      · exact Builtin.run?_ne_exit hrun hname code
      · rcases runExternal_ending ss.programs (ss.shell.remember text) ss.world.fresh name args r
          with ⟨n, hn⟩ | hn <;> simp [heq, hn]

/-- What a line prints on a screen cleared before it, when it prints one line. -/
theorem screen_fresh_say (w : World) (line : String) :
    (w.fresh.say line).screen = Text.utf8 (line ++ "\n") := by
  unfold World.say World.print World.display
  split <;> simp_all [World.screen, World.fresh]

theorem command?_empty (s : Shell) : s.command? "" = none := rfl

/-- A line that runs `exit` without `|` ends the session with code 0 when `exit` has no
argument, and with the number its first argument writes when there is one; when that argument
is no number the session goes on, with the reader's message after `Error: ` and status 1. -/
theorem runLine_exit {args : List String} {r : Word.Redirections}
    (hpipe : (Text.trim text).contains '|' = false)
    (hcmd : ss.shell.command? (Text.trim text) = some ("exit", args, r)) :
    (args = [] → (ss.runLine text).2 = (.exit ss.shell.prompt [] 0, false)) ∧
    (∀ a rest n, args = a :: rest → Text.readInteger a = .ok n →
      (ss.runLine text).2 = (.exit ss.shell.prompt [] n, false)) ∧
    (∀ a rest e, args = a :: rest → Text.readInteger a = .error e →
      (ss.runLine text).1.shell.status = 1 ∧
        (ss.runLine text).2 =
          (.line ss.shell.prompt (Text.utf8 ("Error: " ++ e.message a ++ "\n")) 1, true)) := by
  have hline : Text.trim text ≠ "" := by
    intro hblank
    rw [hblank, command?_empty] at hcmd
    cases hcmd
  rw [runLine_nonblank ss text hline, lineResult_of_exit ss text hpipe hcmd]
  refine ⟨?_, ?_, ?_⟩
  · rintro rfl
    rfl
  · rintro a rest n rfl hread
    simp [Builtin.exit, hread]
    rfl
  · rintro a rest e rfl hread
    simp [Builtin.exit, hread, screen_fresh_say]

/-- Every other non-blank line goes on with the session and leaves the status its command or
pipeline returned, or 1 when an error escaped it; or it never ends. -/
theorem runLine_continues (hline : Text.trim text ≠ "")
    (hnot : (Text.trim text).contains '|' = true ∨
      ∀ args r, ss.shell.command? (Text.trim text) ≠ some ("exit", args, r)) :
    (ss.runLine text).2.2 = true ∧
      ((∃ n, (ss.lineResult text).2.2 = .status n ∧ (ss.runLine text).1.shell.status = n) ∨
        (∃ msg, (ss.lineResult text).2.2 = .failure msg ∧
          (ss.runLine text).1.shell.status = 1) ∨
        ((ss.lineResult text).2.2 = .hang ∧ (ss.runLine text).2.1 = .hang ss.shell.prompt)) := by
  have hgoes := lineResult_ne_exit ss text hnot
  rw [runLine_nonblank ss text hline]
  rcases hres : ss.lineResult text with ⟨shell, w, ending⟩
  rw [hres] at hgoes
  cases ending with
  | status n => exact ⟨rfl, .inl ⟨n, rfl, rfl⟩⟩
  | failure msg => exact ⟨rfl, .inr (.inl ⟨msg, rfl, rfl⟩)⟩
  | exit code => exact absurd rfl (hgoes code)
  | hang => exact ⟨rfl, .inr (.inr ⟨rfl, rfl⟩)⟩

end Session

/-- The system whose programs all start, do nothing, and exit with status 0. -/
def Launcher.idle : Launcher := ⟨fun _ _ _ => none, fun _ => pure 0⟩

/-- A session of that system in a tree that holds the root alone, with nothing set. -/
def Session.bare : Session := Session.start Launcher.idle Fs.Tree.empty Env.empty []

/-- An environment whose `PATH` is the root. -/
def rootPath : Env := ⟨[("PATH", "/")]⟩

/-- A shell at the root whose `PATH` is the root, before any line. -/
def rootShell : Shell := ⟨rootPath, [], 0, [], []⟩

/-- A step that runs nothing: a blank line, or a completion request. -/
def Step.IsQuiet : Step → Prop
  | .line text => Text.trim text = ""
  | .complete _ _ => True

namespace Session

@[simp] theorem respond_line (ss : Session) (text : String) :
    ss.respond (.line text) = ss.runLine text := rfl

/-! A step leaves the session and the reply it answers with; the flag adds the loop's checks. -/

@[simp] theorem runStep_session (ss : Session) (step : Step) :
    (ss.runStep step).1 = (ss.respond step).1 := rfl

@[simp] theorem runStep_reply (ss : Session) (step : Step) :
    (ss.runStep step).2.1 = (ss.respond step).2.1 := rfl

theorem runStep_going (ss : Session) (step : Step) :
    (ss.runStep step).2.2 = ((ss.respond step).2.2 && !(ss.respond step).2.1.hangs &&
      (ss.respond step).1.prompt?.isOk) := rfl

/-- A step that lets the session go on is followed by the rest of the steps. -/
theorem run_cons_goes {ss ss' : Session} {step : Step} {reply : Reply}
    (hstep : ss.runStep step = (ss', reply, true)) (rest : List Step) :
    ss.run (step :: rest) = (reply :: (ss'.run rest).1, (ss'.run rest).2) := by
  rw [run, hstep]
  rfl

/-- A step that ends the session is the last one read. -/
theorem run_cons_ends {ss ss' : Session} {step : Step} {reply : Reply}
    (hstep : ss.runStep step = (ss', reply, false)) (rest : List Step) :
    ss.run (step :: rest) = ([reply], ss') := by
  rw [run, hstep]
  rfl

/-- A step that runs nothing keeps the status. -/
theorem runStep_quiet (ss : Session) {step : Step} (hquiet : step.IsQuiet) :
    (ss.runStep step).1.shell.status = ss.shell.status := by
  cases step with
  | line text =>
    rw [runStep_session, respond_line]
    exact (runLine_blank ss text hquiet).1
  | complete t b => rfl

/-- Steps that run nothing, in any number, keep the status, wherever the session stops. -/
theorem run_quiet_status (steps : List Step) (hquiet : ∀ step ∈ steps, step.IsQuiet) :
    ∀ ss : Session, (ss.run steps).2.shell.status = ss.shell.status := by
  induction steps with
  | nil => intro ss; rfl
  | cons step rest ih =>
    intro ss
    have hstatus := runStep_quiet ss (hquiet step List.mem_cons_self)
    rcases hres : ss.runStep step with ⟨ss', reply, going⟩
    rw [hres] at hstatus
    cases going with
    | false => rw [run_cons_ends hres]; exact hstatus
    | true =>
      rw [run_cons_goes hres, ih (fun st hst => hquiet st (List.mem_cons_of_mem step hst)) ss']
      exact hstatus

/-- The status of a session and its end. A blank line prints nothing and changes neither the
status, the environment, the working directory nor the files. A line without `|` whose command,
after splitting, the comment cut, expansion and the removal of redirections, is `exit` ends the
session with code 0 when there is no argument and with the number the first argument writes
when it writes one; otherwise the session goes on with the reader's message after `Error: ` and
status 1. Every other non-blank line goes on with the session, leaves the status its command or
pipeline returned, or 1 when an error escaped it, and until the next line that runs something
that status is what `$?` expands to, as its decimal text; unless the line never ends, when a
program it waits for waits forever, and returns no status. -/
theorem line_status_and_exit (ss : Session) (text : String) :
    (Text.trim text = "" →
      (ss.runLine text).1.shell.status = ss.shell.status ∧
        (ss.runLine text).1.shell.env = ss.shell.env ∧
        (ss.runLine text).1.shell.cwd = ss.shell.cwd ∧
        (ss.runLine text).1.world = ss.world ∧
        (ss.runLine text).2 = (.line ss.shell.prompt [] ss.shell.status, true)) ∧
    (∀ args r, (Text.trim text).contains '|' = false →
      ss.shell.command? (Text.trim text) = some ("exit", args, r) →
      (args = [] → (ss.runLine text).2 = (.exit ss.shell.prompt [] 0, false)) ∧
      (∀ a rest n, args = a :: rest → Text.readInteger a = .ok n →
        (ss.runLine text).2 = (.exit ss.shell.prompt [] n, false)) ∧
      (∀ a rest e, args = a :: rest → Text.readInteger a = .error e →
        (ss.runLine text).1.shell.status = 1 ∧
          (ss.runLine text).2 =
            (.line ss.shell.prompt (Text.utf8 ("Error: " ++ e.message a ++ "\n")) 1, true))) ∧
    (Text.trim text ≠ "" →
      ((Text.trim text).contains '|' = true ∨
        ∀ args r, ss.shell.command? (Text.trim text) ≠ some ("exit", args, r)) →
      (ss.runLine text).2.2 = true ∧
      ((∃ n, (ss.lineResult text).2.2 = .status n ∧ (ss.runLine text).1.shell.status = n) ∨
        (∃ msg, (ss.lineResult text).2.2 = .failure msg ∧
          (ss.runLine text).1.shell.status = 1) ∨
        ((ss.lineResult text).2.2 = .hang ∧ (ss.runLine text).2.1 = .hang ss.shell.prompt)) ∧
      ∀ steps : List Step, (∀ step ∈ steps, step.IsQuiet) →
        let after := ((ss.runLine text).1.run steps).2
        after.shell.status = (ss.runLine text).1.shell.status ∧
        ∀ pre post : String,
          Word.expandWord after.shell.env (toString after.shell.status) (pre ++ "$?" ++ post) =
            Word.expandWord after.shell.env (toString after.shell.status) pre ++
              toString (ss.runLine text).1.shell.status ++
              Word.expandWord after.shell.env (toString after.shell.status) post) := by
  refine ⟨runLine_blank ss text, fun args r hpipe hcmd => runLine_exit ss text hpipe hcmd, ?_⟩
  intro hline hnot
  refine ⟨(runLine_continues ss text hline hnot).1, (runLine_continues ss text hline hnot).2, ?_⟩
  intro steps hquiet
  have hkept := run_quiet_status steps hquiet (ss.runLine text).1
  refine ⟨hkept, fun pre post => ?_⟩
  rw [Word.expandWord_append_status, hkept]

/-- `exit 3` ends a fresh session with code 3. -/
theorem exit_three_ends_session :
    (Text.trim "exit 3").contains '|' = false ∧
    bare.shell.command? (Text.trim "exit 3") = some ("exit", ["3"], {}) ∧
    Text.readInteger "3" = .ok 3 ∧
    (bare.runLine "exit 3").2 = (.exit bare.shell.prompt [] 3, false) := by
  have hpipe : (Text.trim "exit 3").contains '|' = false := by
    rw [String.contains_char_eq]
    decide +kernel
  have hcmd : bare.shell.command? (Text.trim "exit 3") = some ("exit", ["3"], {}) := by
    have hwords : commandWords (Text.trim "exit 3") = ["exit", "3"] := by decide +kernel
    rw [Shell.command?, hwords, Word.expand, List.map_cons, List.map_cons, List.map_nil,
      Word.expandWord_of_not_mem _ _ "exit" (by decide +kernel),
      Word.expandWord_of_not_mem _ _ "3" (by decide +kernel)]
    decide +kernel
  have hread : Text.readInteger "3" = .ok 3 := rfl
  exact ⟨hpipe, hcmd, hread,
    ((line_status_and_exit bare "exit 3").2.1 ["3"] {} hpipe hcmd).2.1 "3" [] 3 rfl hread⟩

end Session

end Conch

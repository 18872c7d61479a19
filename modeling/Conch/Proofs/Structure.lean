import Mathlib
import Conch.Proofs.Pipeline
import Conch.Proofs.Redirections
/-!
# What a command line treats as structure

A command line reaches the shell's command runner only as the words the splitter returns, with
its quotes and escaping backslashes gone (`runCommand_eq_of_split_eq`). So quoting never makes a
word literal: a word written in quotes or with backslashes runs exactly as the same word
written bare (`runCommand_render_eq`), whether it is a redirection operator, a word that starts
a comment, or a word with a dollar sign in it.

The words then pass three stages in a fixed order: the cut at the first word that starts with
`#`, on the words as typed; expansion; and the redirection scan, on the expanded words. A word
that starts with `#` only once expanded therefore stays an argument
(`command?_of_no_operator`), while a word that expands to an operator acts as one: the scan
reads the segments of the expanded words (`command?_of_isSegmentation`).

Main statement: `command_sees_unquoted_words`.
-/

namespace Conch

/-! ### The runner sees words -/

/-- Two lines with the same words run the same way, in every state. -/
theorem runCommand_eq_of_split_eq (L : Launcher) (s : Shell) (w : World) {line line' : String}
    (h : Word.split line = Word.split line') : runCommand L s w line = runCommand L s w line' := by
  have hwords : commandWords line = commandWords line' := by
    rw [commandWords, commandWords, h]
  rw [runCommand, runCommand, hwords]

namespace Word

/-- The plainest written form of non-empty words is read back as those words. -/
theorem split_renderWords (ws : List String) (hws : ∀ w ∈ ws, w ≠ "") :
    split (renderWords ws) = ws := by
  have hwords : ∀ ps ∈ ws.map (fun w => [Piece.bare w]), textOf ps ≠ "" := by
    intro ps hps
    obtain ⟨w, hw, rfl⟩ := List.mem_map.mp hps
    simpa [textOf, Piece.text] using hws w hw
  have hread := split_renderLine (ws.map fun w => [Piece.bare w]) [] [] [] hwords
    (by simp) (by simp) (by simp)
  have htexts : (ws.map fun w => [Piece.bare w]).map textOf = ws := by
    simp [textOf, Piece.text, Function.comp_def]
  rw [htexts] at hread
  have hline : renderWords ws = String.ofList ([] ++
      renderLine ((ws.map fun w => [Piece.bare w]).map renderPieces) [] ++ []) := by
    simp [renderWords, renderPieces, Function.comp_def]
  rw [hline, hread]

end Word

/-- A line of written words runs as the plainest written form of the same words: however each
word is cut into bare, single-quoted and double-quoted pieces, and whatever blanks stand between
the words. -/
theorem runCommand_render_eq (L : Launcher) (s : Shell) (w : World)
    (words : List (List Word.Piece))
    (gaps : List (List Char)) (lead trail : List Char)
    (hwords : ∀ ps ∈ words, Word.textOf ps ≠ "") (hgaps : ∀ g ∈ gaps, Word.IsSeparatorRun g)
    (hlead : ∀ c ∈ lead, Word.isSeparator c = true)
    (htrail : ∀ c ∈ trail, Word.isSeparator c = true) :
    runCommand L s w (String.ofList (lead ++ Word.renderLine (words.map Word.renderPieces) gaps ++
      trail)) = runCommand L s w (Word.renderWords (words.map Word.textOf)) := by
  apply runCommand_eq_of_split_eq
  have htexts : ∀ t ∈ words.map Word.textOf, t ≠ "" := by
    intro t ht
    obtain ⟨ps, hps, rfl⟩ := List.mem_map.mp ht
    exact hwords ps hps
  rw [Word.split_renderLine words gaps lead trail hwords hgaps hlead htrail,
    Word.split_renderWords _ htexts]

/-! ### Cut, expansion, scan -/

/-- A line none of whose words starts a comment passes all its words to expansion. -/
theorem commandWords_of_no_comment {line : String}
    (hcomment : ∀ t ∈ Word.split line, t.startsWith "#" = false) :
    commandWords line = Word.split line := by
  have hall := @List.takeWhile_append_of_pos String (fun t => !t.startsWith "#") (Word.split line)
    [] fun t ht => by simp [hcomment t ht]
  simp only [List.append_nil, List.takeWhile_nil] at hall
  exact hall

/-- The command of a line with no comment word is read off the segments of its expanded
words: an expanded word that is an operator takes the next expanded word as its target. -/
theorem Shell.command?_of_isSegmentation (s : Shell) {line : String}
    (hcomment : ∀ t ∈ Word.split line, t.startsWith "#" = false) {segs : List Word.Segment}
    (hsegs : Word.IsSegmentation segs (Word.expand s.env (toString s.status) (Word.split line)))
    {name : String} {args : List String} (hwords : (Word.commandOf segs).words = name :: args) :
    s.command? line = some (name, args, (Word.commandOf segs).redirections) := by
  have hc : Word.commandOf segs = ⟨name :: args, (Word.commandOf segs).redirections⟩ := by
    rw [← hwords]
  rw [command?, commandWords_of_no_comment hcomment, Word.ofWords_of_isSegmentation hsegs, hc]

/-- A line with no comment word whose expanded words hold no operator runs its first expanded
word with the others as arguments and no redirection, whatever the expanded words start
with. -/
theorem Shell.command?_of_no_operator (s : Shell) {line : String}
    (hcomment : ∀ t ∈ Word.split line, t.startsWith "#" = false)
    {name : String} {args : List String}
    (hexpand : Word.expand s.env (toString s.status) (Word.split line) = name :: args)
    (hops : ∀ t ∈ name :: args, Word.RedirectOp.ofWord? t = none) :
    s.command? line = some (name, args, {}) := by
  rw [command?, commandWords_of_no_comment hcomment, hexpand,
    Word.ofWords_of_no_operator _ hops]

/-- What a command line treats as structure is decided on its words, quotes and escaping
backslashes removed. Two lines with the same words run the same way, so a word runs alike
however it is quoted or escaped: a quoted or escaped operator is an operator, a quoted or
escaped word that starts with `#` starts a comment, and a dollar sign in single quotes or after
a backslash is expanded. The comment cut reads the words as typed and the redirection scan
reads them expanded: on a line with no comment word, the command is read off the segments of
the expanded words, so a word that expands to an operator acts as one; and when no expanded
word is an operator, every expanded word, one that starts with `#` included, is an argument. -/
theorem command_sees_unquoted_words (L : Launcher) (s : Shell) (w : World) :
    (∀ line line' : String, Word.split line = Word.split line' →
      runCommand L s w line = runCommand L s w line') ∧
    (∀ (words : List (List Word.Piece)) (gaps : List (List Char)) (lead trail : List Char),
      (∀ ps ∈ words, Word.textOf ps ≠ "") → (∀ g ∈ gaps, Word.IsSeparatorRun g) →
      (∀ c ∈ lead, Word.isSeparator c = true) → (∀ c ∈ trail, Word.isSeparator c = true) →
      runCommand L s w (String.ofList (lead ++ Word.renderLine (words.map Word.renderPieces) gaps ++
        trail)) = runCommand L s w (Word.renderWords (words.map Word.textOf))) ∧
    (∀ line : String, (∀ t ∈ Word.split line, t.startsWith "#" = false) →
      ∀ segs : List Word.Segment,
        Word.IsSegmentation segs (Word.expand s.env (toString s.status) (Word.split line)) →
        ∀ name args, (Word.commandOf segs).words = name :: args →
          s.command? line = some (name, args, (Word.commandOf segs).redirections)) ∧
    (∀ line : String, (∀ t ∈ Word.split line, t.startsWith "#" = false) →
      ∀ name args, Word.expand s.env (toString s.status) (Word.split line) = name :: args →
        (∀ t ∈ name :: args, Word.RedirectOp.ofWord? t = none) →
        s.command? line = some (name, args, {})) :=
  ⟨fun _ _ h => runCommand_eq_of_split_eq L s w h, runCommand_render_eq L s w,
    fun _ hcomment _ hsegs _ _ hwords => s.command?_of_isSegmentation hcomment hsegs hwords,
    fun _ hcomment _ _ hexpand hops => s.command?_of_no_operator hcomment hexpand hops⟩

/-- `echo '>' x`, written with the operator in single quotes, runs as `echo > x`. -/
theorem quoted_operator_runs_as_typed :
    (∀ ps ∈ [[Word.Piece.bare "echo"], [.quoted .single ">"], [.bare "x"]], Word.textOf ps ≠ "") ∧
    (∀ g ∈ ([] : List (List Char)), Word.IsSeparatorRun g) ∧
    runCommand Launcher.idle Session.bare.shell Session.bare.world
        (String.ofList ([] ++ Word.renderLine
          ([[Word.Piece.bare "echo"], [.quoted .single ">"], [.bare "x"]].map Word.renderPieces)
          [] ++ [])) =
      runCommand Launcher.idle Session.bare.shell Session.bare.world
        (Word.renderWords ["echo", ">", "x"]) := by
  have hwords : ∀ ps ∈ [[Word.Piece.bare "echo"], [.quoted .single ">"], [.bare "x"]],
      Word.textOf ps ≠ "" := by decide +kernel
  have hgaps : ∀ g ∈ ([] : List (List Char)), Word.IsSeparatorRun g := by simp
  refine ⟨hwords, hgaps, ?_⟩
  exact (command_sees_unquoted_words _ _ _).2.1 _ [] [] [] hwords hgaps
    (by simp) (by simp)

/-- `echo '>' x` redirects the output of `echo` to `x` instead of printing `> x`, and
`echo '$A'` prints the value of `A` instead of `$A`. -/
theorem quoted_operator_redirects :
    Word.split "echo '>' x" = ["echo", ">", "x"] ∧
    Session.bare.shell.command? "echo '>' x" = some ("echo", [], { stdout := some "x" }) ∧
    (Session.start Launcher.idle Fs.Tree.empty (Env.ofList [("A", "v")]) []).shell.command?
      "echo '$A'" =
      some ("echo", ["v"], {}) := by
  refine ⟨by decide +kernel, by cbv, by cbv⟩

end Conch

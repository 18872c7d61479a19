import Mathlib
import Conch.Proofs.Quoting
import Conch.Proofs.Session
import Conch.Fs.Proofs.Sound
/-!
# Which lines run as pipelines

The shell decides whether a line is a pipeline on its raw text, before any word is split: a
non-blank line runs as a pipeline exactly when it holds `|`, wherever the bar stands (between
words, inside quotes, after a backslash, or after a word that starts a comment), and its stages
are the pieces between every two bars, trimmed (`lineResult_of_bar`); every other line runs as
one command, its text trimmed (`lineResult_of_no_bar`).

Two facts make the raw test reach every bar. Trimming removes blanks only, so it keeps every bar
of the line (`count_trim`); and the splitter only keeps characters of its line
(`mem_of_mem_split`), so a bar the splitter keeps inside a word, quoted or escaped, is a bar of
the line and cuts it into stages. The pieces are the line cut at every bar: joined with bars they
give the line back, none holds a bar, and there is one more piece than bars
(`barPieces_spec`).

Main statement: `line_runs_pipeline_iff_bar`.
-/

namespace Conch

/-! ### Trimming keeps what is not blank -/

namespace Text

theorem count_dropWhile_of_neg {p : Char → Bool} {c : Char} (hc : p c = false) :
    ∀ l : List Char, (l.dropWhile p).count c = l.count c
  | [] => rfl
  | x :: xs => by
    rw [List.dropWhile_cons]
    split
    · -- a dropped character is not `c`
      next hx =>
      have hne : x ≠ c := by
        rintro rfl
        rw [hx] at hc
        cases hc
      rw [count_dropWhile_of_neg hc xs, List.count_cons_of_ne hne]
    · rfl

/-- Trimming keeps every character that is not blank, as often as the text holds it. -/
theorem count_trim {c : Char} (hc : isBlank c = false) (s : String) :
    (trim s).toList.count c = s.toList.count c := by
  rw [trim, String.toList_ofList, List.count_reverse, count_dropWhile_of_neg hc,
    List.count_reverse, count_dropWhile_of_neg hc]

theorem isBlank_bar : isBlank '|' = false := by decide

theorem mem_trim_bar (s : String) : '|' ∈ (trim s).toList ↔ '|' ∈ s.toList := by
  rw [← List.count_pos_iff, ← List.count_pos_iff, count_trim isBlank_bar]

end Text

/-! ### The pieces between the bars -/

/-- Pieces without the separator, joined by it, hold it once between every two pieces. -/
theorem count_intercalate {a : Char} :
    ∀ {ls : List (List Char)}, ls ≠ [] → (∀ l ∈ ls, a ∉ l) →
      ([a].intercalate ls).count a + 1 = ls.length
  | [], hne, _ => absurd rfl hne
  | [l], _, h => by
    rw [List.intercalate_singleton, List.count_eq_zero_of_not_mem (h l List.mem_cons_self)]
    rfl
  | l :: l' :: ls, _, h => by
    have ih := count_intercalate (List.cons_ne_nil l' ls)
      fun l'' hl'' => h l'' (List.mem_cons_of_mem l hl'')
    rw [List.intercalate_cons_cons, List.count_append, List.count_append,
      List.count_eq_zero_of_not_mem (h l List.mem_cons_self), List.count_singleton_self]
    simp only [List.length_cons] at ih ⊢
    omega

/-- The pieces of a text between its bars: joined with bars they give the text back, none holds
a bar, and there is one more piece than the text has bars. -/
theorem barPieces_spec (line : String) :
    String.intercalate "|" (barPieces line) = line ∧ (∀ p ∈ barPieces line, '|' ∉ p.toList) ∧
      (barPieces line).length = line.toList.count '|' + 1 := by
  have hnone : ∀ piece ∈ line.toList.splitOn '|', '|' ∉ piece := fun _ h =>
    not_mem_of_mem_splitOn h
  refine ⟨?_, ?_, ?_⟩
  · apply String.ext
    rw [String.toList_intercalate, barPieces, List.map_map]
    simp [Function.comp_def]
  · intro p hp
    obtain ⟨piece, hpiece, rfl⟩ := List.mem_map.mp hp
    rw [String.toList_ofList]
    exact hnone piece hpiece
  · have hcount := count_intercalate (List.splitOn_ne_nil '|' line.toList) hnone
    rw [List.intercalate_splitOn] at hcount
    rw [barPieces, List.length_map, hcount]

/-! ### The splitter keeps characters of its line -/

namespace Word.Scan

/-- Every character a scan holds, in its finished words or its pending word, is one of `cs`. -/
def Within (s : Scan) (cs : List Char) : Prop :=
  (∀ w ∈ s.words, ∀ c ∈ w.toList, c ∈ cs) ∧ ∀ c ∈ s.pending, c ∈ cs

theorem within_flush {s : Scan} {cs : List Char} (h : s.Within cs) :
    ∀ w ∈ s.flush, ∀ c ∈ w.toList, c ∈ cs := by
  obtain ⟨hwords, hpending⟩ := h
  unfold flush
  split
  · exact hwords
  · intro w hw c hc
    rcases List.mem_append.mp hw with hold | hnew
    · exact hwords w hold c hc
    · rw [List.mem_singleton.mp hnew, String.toList_ofList, List.mem_reverse] at hc
      exact hpending c hc

/-- A character leaves the pending word as it was, adds itself to it, or empties it. -/
theorem step_pending (s : Scan) (c : Char) :
    (s.step c).pending = s.pending ∨ (s.step c).pending = c :: s.pending ∨
      (s.step c).pending = [] := by
  unfold step keep
  split <;> (repeat' split) <;> simp

/-- Reading a character of `cs` keeps a scan within `cs`. -/
theorem within_step {s : Scan} {cs : List Char} (h : s.Within cs) {c : Char} (hc : c ∈ cs) :
    (s.step c).Within cs := by
  refine ⟨?_, ?_⟩
  · rcases Word.step_words s c with hsame | hflush
    · rw [hsame]; exact h.1
    · rw [hflush]; exact within_flush h
  · rcases step_pending s c with hsame | hkept | hempty
    · rw [hsame]; exact h.2
    · rw [hkept]
      intro d hd
      rcases List.mem_cons.mp hd with rfl | hd
      · exact hc
      · exact h.2 d hd
    · rw [hempty]; simp

theorem within_feed (cs : List Char) :
    ∀ (ds : List Char) (s : Scan), s.Within cs → (∀ d ∈ ds, d ∈ cs) → (s.feed ds).Within cs
  | [], _, h, _ => h
  | d :: ds, s, h, hds => by
    rw [feed_cons]
    exact within_feed cs ds _ (within_step h (hds d List.mem_cons_self))
      fun e he => hds e (List.mem_cons_of_mem d he)

end Word.Scan

/-- Every character of a word the splitter returns is a character of the line. -/
theorem Word.mem_of_mem_split {line w : String} (hw : w ∈ split line) {c : Char}
    (hc : c ∈ w.toList) : c ∈ line.toList := by
  have hstart : Scan.start.Within line.toList := ⟨by simp [Scan.start], by simp [Scan.start]⟩
  exact Scan.within_flush (Scan.within_feed line.toList line.toList _ hstart fun _ h => h) w hw c
    hc

/-! ### The dispatch of a line -/

/-- A stage that cannot start ends the pipeline with its status, whatever the stages before it
did. -/
theorem runStages_of_fault {L : Launcher} {s : Shell} {w : World} {pieces : List String}
    {msg : Option String} {n : Int} (hfault : (prepareStages L s w true pieces).2 = some (msg, n)) :
    (runStages L s w pieces).2 = .status n := by
  unfold runStages
  rcases hprep : prepareStages L s w true pieces with ⟨ready, fault⟩
  rw [hprep] at hfault
  cases hfault
  rfl

namespace Session

variable (ss : Session) (text : String)

/-- A line that holds a bar anywhere runs as the pipeline of its pieces between the bars. -/
theorem lineResult_of_bar (hbar : '|' ∈ text.toList) :
    ss.lineResult text = (ss.shell.remember text,
      runStages ss.programs (ss.shell.remember text) ss.world.fresh
        ((barPieces (Text.trim text)).map Text.trim)) := by
  have hcontains : (Text.trim text).contains '|' = true := by
    rw [String.contains_char_eq, decide_eq_true_eq, Text.mem_trim_bar]
    exact hbar
  rw [lineResult, if_pos hcontains]
  rfl

/-- A line without a bar runs as one command, its text trimmed. -/
theorem lineResult_of_no_bar (hbar : '|' ∉ text.toList) :
    ss.lineResult text = runCommand ss.programs (ss.shell.remember text) ss.world.fresh (Text.trim text) := by
  have hcontains : (Text.trim text).contains '|' = false := by
    rw [String.contains_char_eq, decide_eq_false_iff_not, Text.mem_trim_bar]
    exact hbar
  rw [lineResult, if_neg (by simp [hcontains])]

/-- A line runs as a pipeline exactly when its text holds a bar, wherever the bar stands.
When it does, the stages are the pieces of the trimmed line between its bars, trimmed: joined
with bars the pieces give the trimmed line back, none holds a bar, and there is one more piece
than the line has bars. A line without a bar runs as one command, its text trimmed. A bar that
the splitter keeps inside a word, because it stands in quotes, after a backslash or in a word
after a comment, is a bar of the line, so such a line runs as a pipeline too. -/
theorem line_runs_pipeline_iff_bar :
    ('|' ∈ text.toList →
      ss.lineResult text = (ss.shell.remember text,
        runStages ss.programs (ss.shell.remember text) ss.world.fresh
          ((barPieces (Text.trim text)).map Text.trim)) ∧
      String.intercalate "|" (barPieces (Text.trim text)) = Text.trim text ∧
      (∀ p ∈ barPieces (Text.trim text), '|' ∉ p.toList) ∧
      (barPieces (Text.trim text)).length = text.toList.count '|' + 1) ∧
    ('|' ∉ text.toList →
      ss.lineResult text = runCommand ss.programs (ss.shell.remember text) ss.world.fresh (Text.trim text)) ∧
    ((∃ w ∈ Word.split (Text.trim text), '|' ∈ w.toList) →
      ss.lineResult text = (ss.shell.remember text,
        runStages ss.programs (ss.shell.remember text) ss.world.fresh
          ((barPieces (Text.trim text)).map Text.trim))) := by
  refine ⟨fun hbar => ?_, lineResult_of_no_bar ss text, ?_⟩
  · obtain ⟨hjoin, hnone, hlength⟩ := barPieces_spec (Text.trim text)
    rw [Text.count_trim Text.isBlank_bar] at hlength
    exact ⟨lineResult_of_bar ss text hbar, hjoin, hnone, hlength⟩
  · rintro ⟨w, hw, hbar⟩
    -- the bar of the word is a bar of the trimmed line, hence of the line
    have hline : '|' ∈ text.toList :=
      (Text.mem_trim_bar text).mp (Word.mem_of_mem_split hw hbar)
    exact lineResult_of_bar ss text hline

/-- `echo 'a|b'`: the bar stands in a word of the line, so the line runs as the pipeline of its
pieces between the bars. -/
theorem quoted_bar_pipeline_sample :
    (∃ w ∈ Word.split (Text.trim "echo 'a|b'"), '|' ∈ w.toList) ∧
    bare.lineResult "echo 'a|b'" =
      (bare.shell.remember "echo 'a|b'",
        runStages bare.programs (bare.shell.remember "echo 'a|b'") bare.world.fresh
          ((barPieces (Text.trim "echo 'a|b'")).map Text.trim)) := by
  have hword : ∃ w ∈ Word.split (Text.trim "echo 'a|b'"), '|' ∈ w.toList :=
    ⟨"a|b", by decide +kernel, by decide +kernel⟩
  exact ⟨hword, (line_runs_pipeline_iff_bar _ _).2.2 hword⟩

/-- `echo 'a|b'`: the splitter keeps the quoted bar inside the word `a|b`, and the command of
the trimmed line prints `a|b` with status 0; the line itself runs as the pipeline of
`echo 'a` and `b'`, whose first stage names no program, and leaves status 127. -/
theorem quoted_bar_cuts_line :
    Word.split "echo 'a|b'" = ["echo", "a|b"] ∧
    (runCommand Launcher.idle bare.shell bare.world.fresh
        (Text.trim "echo 'a|b'")).2.2 = .status 0 ∧
    (runCommand Launcher.idle bare.shell bare.world.fresh
        (Text.trim "echo 'a|b'")).2.1.screen = Text.utf8 "a|b\n" ∧
    (bare.runLine "echo 'a|b'").1.shell.status = 127 := by
  have hsplit : Word.split "echo 'a|b'" = ["echo", "a|b"] := by decide +kernel
  have hbar : '|' ∈ "echo 'a|b'".toList := by decide +kernel
  have hpieces : (barPieces (Text.trim "echo 'a|b'")).map Text.trim = ["echo 'a", "b'"] := by
    decide +kernel
  have hfault : (prepareStages bare.programs (bare.shell.remember "echo 'a|b'")
      bare.world.fresh true ["echo 'a", "b'"]).2 =
      some (some "echo: command not found", 127) := by cbv
  have hline : Text.trim "echo 'a|b'" ≠ "" := by decide +kernel
  refine ⟨hsplit, by cbv, by cbv, ?_⟩
  rw [runLine_nonblank _ _ hline, lineResult_of_bar _ _ hbar, hpieces]
  obtain ⟨w, hw⟩ : ∃ w, runStages bare.programs (bare.shell.remember "echo 'a|b'")
      bare.world.fresh ["echo 'a", "b'"] = (w, .status 127) :=
    ⟨_, Prod.ext rfl (runStages_of_fault hfault)⟩
  rw [hw]

end Session

end Conch

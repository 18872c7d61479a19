import Mathlib
import Conch.Proofs.Pipeline
/-!
# What a pipeline does with its stages' redirections

A pipeline parses the redirections of every stage but opens none of their files. Of a stage it
reads its view only (`stageView`): that it has no words before a comment, the operator left
without a file, or the command's words and whether its input and its output are redirected. A
redirected input of the first stage is a pipe that nobody writes and nobody closes, so a first
stage that reads it waits forever; a redirected output of the last stage is a pipe nobody reads,
and every error output goes to a pipe nobody reads, whatever file the redirection names.

A stage is checked through its view (`checkStage_congr`), and the stages one at a time, so two
lists of stages with the same views start the same programs with the same streams
(`prepareStages_congr`) and run alike (`pipeline_ignores_redirection_targets`): the files named,
and any `2>` at all, make no difference, whatever the programs of the system do.

After `a | b > out`, where `b` prints a line, there is no file `out` and the terminal shows
nothing (`pipeline_output_file_unopened`).
-/

namespace Conch

/-- What a pipeline reads of a stage: nothing when it has no words before a comment, the
operator left without a file, or the command's words and whether its input and its output are
redirected. The names of the files are no part of it. -/
def stageView (s : Shell) (stage : String) :
    Option (Except Word.MissingTarget (List String × Bool × Bool)) :=
  match commandWords stage with
  | [] => none
  | ws => some ((Word.Command.ofWords (Word.expand s.env (toString s.status) ws)).map fun c =>
      (c.words, (target? c.redirections.stdin).isSome, (target? c.redirections.stdout).isSome))

variable {L : Launcher} {s : Shell} {w : World}

/-! ### Each stage is checked through its view -/

/-- A stage is checked through its view: with the same view it starts the same program with the
same streams, or fails alike. -/
theorem checkStage_congr {stage stage' : String} {first last : Bool}
    (hview : stageView s stage = stageView s stage') :
    checkStage L s w first last stage = checkStage L s w first last stage' := by
  unfold stageView at hview
  unfold checkStage
  rcases h1 : commandWords stage with _ | ⟨w1, ws1⟩ <;>
    rcases h2 : commandWords stage' with _ | ⟨w2, ws2⟩ <;> simp only [h1, h2] at hview ⊢
  · -- one stage has words and the other none: their views differ
    cases hview
  · cases hview
  · generalize Word.Command.ofWords (Word.expand s.env (toString s.status) (w1 :: ws1)) = c1
      at hview ⊢
    generalize Word.Command.ofWords (Word.expand s.env (toString s.status) (w2 :: ws2)) = c2
      at hview ⊢
    rcases c1 with e1 | ⟨words1, r1⟩ <;> rcases c2 with e2 | ⟨words2, r2⟩ <;>
      simp only [Except.map, Option.some.injEq, Except.error.injEq, Except.ok.injEq,
        Prod.mk.injEq, reduceCtorEq] at hview
    · rw [hview]
    · -- the same words; the redirections differ at most in the files they name
      obtain ⟨rfl, hfed, hdrained⟩ := hview
      rcases words1 with _ | ⟨name, args⟩
      · rfl
      · simp only [hfed, hdrained]

/-- The stages of a pipeline are checked through their views alone. -/
theorem prepareStages_congr :
    ∀ {pieces pieces' : List String} {first : Bool},
      pieces.map (stageView s) = pieces'.map (stageView s) →
      prepareStages L s w first pieces = prepareStages L s w first pieces'
  | [], [], _, _ => rfl
  | stage :: rest, stage' :: rest', _, h => by
    rw [List.map_cons, List.map_cons, List.cons.injEq] at h
    have hlast : rest.isEmpty = rest'.isEmpty := by
      rw [Bool.eq_iff_iff, List.isEmpty_iff, List.isEmpty_iff, ← List.map_eq_nil_iff, h.2,
        List.map_eq_nil_iff]
    -- the stage, then the ones after it, which are no longer the first
    simp only [prepareStages, hlast, checkStage_congr h.1, prepareStages_congr h.2]
  | [], _ :: _, _, h | _ :: _, [], _, h => by simp at h

/-- When every stage starts, the pipeline ends as the shell's wait for its stages says. -/
theorem runStages_of_started {pieces : List String} {ready : List Ready}
    (hprep : prepareStages L s w true pieces = (ready, none)) :
    runStages L s w pieces = Proc.wait (do runReady L s ready (← firstInput ready)) w := by
  unfold runStages
  rw [hprep]

/-! ### The files named make no difference -/

/-- A pipeline opens none of the files its stages' redirections name: two lists of stages with
the same views run alike, from the programs they start and the streams these get to the world
they leave and the status they end with, whatever the programs of the system do. -/
theorem pipeline_ignores_redirection_targets (L : Launcher) (s : Shell) (w : World)
    {pieces pieces' : List String} (h : pieces.map (stageView s) = pieces'.map (stageView s)) :
    runStages L s w pieces = runStages L s w pieces' := by
  unfold runStages
  rw [prepareStages_congr h]

/-- The system whose programs print their own files: every file starts, writes its bytes to its
descriptor 1, and exits with status 0, or waits when that is a full pipe. -/
def Launcher.printing : Launcher where
  refusal _ _ _ := none
  run call := do
    let w ← get
    let out := (call.fds.lookup 1).getD World.terminalStream
    let bytes := match w.tree.readFile call.cwd call.program with
      | .ok (_, data) => data
      | .error _ => []
    match w.put out bytes with
    | .done w => set w; pure 0
    | .full => throw (.full out)
    | .broken => pure 1

/-- Two programs at the root: `a` prints nothing and `b` prints `b`. -/
def printerTree : Fs.Tree :=
  { nodes := [(["a"], .file [] true), (["b"], .file (Text.utf8 "b\n") true)] }

/-- `a < in | b 2> err > out` runs as `a < x | b > y`. -/
theorem pipeline_ignores_file_names :
    ["a < in", "b 2> err > out"].map (stageView ⟨rootPath, [], 0, [], []⟩) =
        ["a < x", "b > y"].map (stageView ⟨rootPath, [], 0, [], []⟩) ∧
      runStages Launcher.printing ⟨rootPath, [], 0, [], []⟩ (World.ofTree printerTree)
          ["a < in", "b 2> err > out"] =
        runStages Launcher.printing ⟨rootPath, [], 0, [], []⟩ (World.ofTree printerTree)
          ["a < x", "b > y"] := by
  have hview : ["a < in", "b 2> err > out"].map (stageView ⟨rootPath, [], 0, [], []⟩) =
      ["a < x", "b > y"].map (stageView ⟨rootPath, [], 0, [], []⟩) := by cbv
  exact ⟨hview, pipeline_ignores_redirection_targets _ _ _ hview⟩

/-! ### The output file of the last stage -/

/-- `a` and then `b` with its output redirected leave no file `out`, nothing on the terminal and
status 0: `b` prints into a pipe nobody reads. -/
theorem printer_stages_run :
    let run := Proc.wait (do
      runReady Launcher.printing ⟨rootPath, [], 0, ["a | b > out"], []⟩
        [⟨"/a", [], false, false⟩, ⟨"/b", [], false, true⟩]
        (← firstInput [⟨"/a", [], false, false⟩, ⟨"/b", [], false, true⟩]))
      (World.ofTree printerTree).fresh
    run.1.tree.get? ["out"] = none ∧ run.1.screen = [] ∧ run.2 = .status 0 := by
  simp only [runReady]
  cbv

open Session in
/-- `a | b > out` ends with status 0 and shows nothing, and afterwards there is no file `out`:
the line `b` printed went into a pipe nobody reads. -/
theorem pipeline_output_file_unopened :
    ((start Launcher.printing printerTree rootPath []).runLine "a | b > out").2.1 =
      .line (start Launcher.printing printerTree rootPath []).shell.prompt [] 0 ∧
    ((start Launcher.printing printerTree rootPath []).runLine "a | b > out").1.world.tree.get?
      ["out"] = none := by
  have hline : Text.trim "a | b > out" ≠ "" := by decide +kernel
  have hbar : '|' ∈ "a | b > out".toList := by decide +kernel
  have hpieces : (barPieces (Text.trim "a | b > out")).map Text.trim = ["a", "b > out"] := by
    decide +kernel
  have hremember : (start Launcher.printing printerTree rootPath []).shell.remember
      "a | b > out" = ⟨rootPath, [], 0, ["a | b > out"], []⟩ := by
    simp [Shell.remember, start]
  have hprep : prepareStages Launcher.printing ⟨rootPath, [], 0, ["a | b > out"], []⟩
      (World.ofTree printerTree).fresh true ["a", "b > out"] =
      ([⟨"/a", [], false, false⟩, ⟨"/b", [], false, true⟩], none) := by cbv
  obtain ⟨hout, hscreen, hstatus⟩ := printer_stages_run
  generalize hrun : Proc.wait _ _ = run at hout hscreen hstatus
  obtain ⟨w', ending⟩ := run
  simp only at hout hscreen hstatus
  subst hstatus
  rw [runLine_nonblank _ _ hline, lineResult_of_bar _ _ hbar, hpieces, hremember]
  erw [runStages_of_started hprep, hrun]
  exact ⟨by simp [hscreen], hout⟩

end Conch

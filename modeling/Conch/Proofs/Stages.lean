import Mathlib
import Conch.Proofs.PipelineRedirections
/-!
# Which stages of a pipeline the shell waits for

The shell checks the stages of a pipeline one by one and starts each stage that passes before it
checks the next (`prepareStages`). When every stage starts, it runs them together and waits for
all of them: the line ends only when the last stage ends, or never. When a stage cannot start,
it reports it and returns at once (`runStages`), and the stages it started before are left
running: they are recorded among the programs the shell has not waited for (`World.unwaited`),
and nothing later waits for them.

Runs are judged by what they keep of the files and of that record (`Proc.Keeps`): the pipes the
shell opens change neither, and a retry goes back to a world the run started from, so the run of
a pipeline keeps what every program keeps (`runReady_keeps`). A program of the system never adds
to the shell's record (`Launcher.KeepsUnwaited`).

The failing stage splits the pipeline (`prepareStages_of_fault`): the stages before it have each
passed their check and started, and it has not. The record then grows by exactly the programs of
the stages before it, in order (`runStages_unwaited_of_fault`); when all stages start it is left
as it was (`runStages_unwaited_of_started`).

Main statement: `pipeline_waits_only_when_all_start`.
-/

namespace Conch

/-! ### What the terminal and the record of programs keep -/

section World

variable (w : World)

@[simp] theorem World.display_tree (bytes : List UInt8) : (w.display bytes).tree = w.tree := by
  unfold World.display
  split <;> rfl

@[simp] theorem World.display_unwaited (bytes : List UInt8) :
    (w.display bytes).unwaited = w.unwaited := by
  unfold World.display
  split <;> rfl

@[simp] theorem World.print_tree (text : String) : (w.print text).tree = w.tree :=
  World.display_tree w _

@[simp] theorem World.print_unwaited (text : String) : (w.print text).unwaited = w.unwaited :=
  World.display_unwaited w _

@[simp] theorem World.say_tree (line : String) : (w.say line).tree = w.tree :=
  World.print_tree w _

@[simp] theorem World.say_unwaited (line : String) : (w.say line).unwaited = w.unwaited :=
  World.print_unwaited w _

@[simp] theorem World.leaveRunning_tree (cs : List Child) : (w.leaveRunning cs).tree = w.tree :=
  rfl

@[simp] theorem World.leaveRunning_unwaited (cs : List Child) :
    (w.leaveRunning cs).unwaited = w.unwaited ++ cs :=
  rfl

theorem World.closePipe_tree (pid : Nat) : (w.closePipe pid).tree = w.tree := by
  unfold World.closePipe
  split <;> rfl

theorem World.closePipe_unwaited (pid : Nat) : (w.closePipe pid).unwaited = w.unwaited := by
  unfold World.closePipe
  split <;> rfl

end World

/-! ### Runs that keep a property of the files and the programs left running -/

namespace Proc

/-- A run keeps `P` of the file tree and of the programs the shell left running: from a world
that has it, the run ends, or stops at a pipe, in a world that has it. The open streams and the
screen are not looked at, so opening and closing pipes keeps every such `P`. -/
def Keeps {α : Type} (P : Fs.Tree → List Child → Prop) (m : Proc α) : Prop :=
  ∀ w : World, P w.tree w.unwaited → P (m.run.run w).2.tree (m.run.run w).2.unwaited

theorem run_bind {α β : Type} (x : Proc α) (f : α → Proc β) (w : World) :
    (x >>= f).run.run w = match x.run.run w with
      | (.ok a, w') => (f a).run.run w'
      | (.error e, w') => (.error e, w') := by
  rcases h : x.run.run w with ⟨_ | a, w'⟩ <;>
    simp only [ExceptT.run_bind, StateT.run_bind, h] <;> rfl

/-- Waiting for a run leaves the world the run ends in, or stops in. -/
theorem wait_world (m : Proc Nat) (w : World) : (m.wait w).1 = (m.run.run w).2 := by
  unfold wait
  rcases m.run.run w with ⟨_ | st, w'⟩ <;> rfl

section

variable {P : Fs.Tree → List Child → Prop} {α β : Type}

theorem Keeps.pure (a : α) : (pure a : Proc α).Keeps P := fun _ hw => hw

theorem Keeps.throw (b : Blocked) : (throw b : Proc α).Keeps P := fun _ hw => hw

theorem Keeps.bind {m : Proc α} {f : α → Proc β} (hm : m.Keeps P) (hf : ∀ a, (f a).Keeps P) :
    (m >>= f).Keeps P := by
  intro w hw
  have hmid := hm w hw
  rw [run_bind]
  rcases hrun : m.run.run w with ⟨_ | a, w'⟩
  · rw [hrun] at hmid
    exact hmid
  · rw [hrun] at hmid
    exact hf a w' hmid

/-- A run that reads the world first keeps `P` when it does from every world that has it. -/
theorem Keeps.get_bind {f : World → Proc β}
    (hf : ∀ saved : World, P saved.tree saved.unwaited → (f saved).Keeps P) :
    ((get : Proc World) >>= f).Keeps P :=
  fun w hw => hf w hw w hw

/-- Going back to a world keeps `P` when that world has it. -/
theorem Keeps.set {saved : World} (hsaved : P saved.tree saved.unwaited) :
    (set saved : Proc PUnit).Keeps P :=
  fun _ _ => hsaved

/-- A change of the world that keeps its tree and the programs left running keeps every `P`. -/
theorem Keeps.update {f : World → World} (htree : ∀ w, (f w).tree = w.tree)
    (hunwaited : ∀ w, (f w).unwaited = w.unwaited) : (modify f : Proc PUnit).Keeps P := by
  intro w hw
  show P (f w).tree (f w).unwaited
  rw [htree, hunwaited]
  exact hw

theorem Keeps.attempt {m : Proc α} (hm : m.Keeps P) : (attempt m).Keeps P := hm

theorem Keeps.attach (s : Stream) : (attach s).Keeps P := fun _ hw => hw

theorem Keeps.openPipe (room : Nat) (gone : Bool) : (openPipe room gone).Keeps P :=
  Keeps.attach _

theorem Keeps.sinkPipe : (sinkPipe : Proc Nat).Keeps P := Keeps.openPipe _ _

theorem Keeps.idlePipe : (idlePipe : Proc Nat).Keeps P := Keeps.attach _

theorem Keeps.closePipe (pid : Nat) :
    (modify (fun w => w.closePipe pid) : Proc PUnit).Keeps P :=
  Keeps.update (World.closePipe_tree · pid) (World.closePipe_unwaited · pid)

/-- Two programs joined by a pipe keep what each of them keeps: every retry starts again from
the world the run started from. -/
theorem Keeps.piped {writer : Nat → Proc β} {reader : Nat → Proc α}
    (hwriter : ∀ pid, (writer pid).Keeps P) (hreader : ∀ pid, (reader pid).Keeps P) :
    ∀ tries room gone, (Proc.piped writer reader tries room gone).Keeps P
  | 0, _, _ =>
    Keeps.idlePipe.bind fun pid => (hwriter pid).bind fun _ =>
      (Keeps.closePipe pid).bind fun _ => hreader pid
  | tries + 1, room, gone => by
    unfold Proc.piped
    refine Keeps.get_bind fun saved hsaved => (Keeps.openPipe room gone).bind fun pid =>
      (hwriter pid).attempt.bind fun res => ?_
    -- what the writer came to
    split
    · -- the writer filled a pipe
      split
      · exact Keeps.throw _
      · refine Keeps.get_bind fun _ _ => (hreader pid).attempt.bind fun res' => ?_
        split
        · -- the reader ran dry: again from the start, with more room
          split
          · exact Keeps.throw _
          · exact (Keeps.set hsaved).bind fun _ => Keeps.piped hwriter hreader tries _ _
        · exact Keeps.throw _
        · -- the reader ended: again from the start, with the room it read
          exact Keeps.get_bind fun _ _ =>
            (Keeps.set hsaved).bind fun _ => Keeps.piped hwriter hreader tries _ _
    · exact Keeps.throw _
    · exact (Keeps.closePipe pid).bind fun _ => hreader pid

end

end Proc

/-- The programs of the system leave alone the shell's record of the programs it has not waited
for: only the shell starts and waits for its own children. -/
def Launcher.KeepsUnwaited (L : Launcher) : Prop :=
  ∀ call cs, (L.run call).Keeps fun _ u => u = cs

theorem Launcher.idle_keepsUnwaited : Launcher.idle.KeepsUnwaited :=
  fun _ _ _ hw => hw

/-! ### The stages of a pipeline -/

section

variable {L : Launcher} {s : Shell} {w : World}

theorem runReady_keeps {P : Fs.Tree → List Child → Prop} (hL : ∀ call, (L.run call).Keeps P) :
    ∀ (ready : List Ready) (input : Nat), (runReady L s ready input).Keeps P
  | [], _ => Proc.Keeps.pure _
  | [r], input => by
    simp only [runReady]
    -- the last stage writes to a pipe nobody reads when its output is redirected
    split
    · exact Proc.Keeps.sinkPipe.bind fun out => Proc.Keeps.sinkPipe.bind fun err => hL _
    · exact (Proc.Keeps.pure _).bind fun out => Proc.Keeps.sinkPipe.bind fun err => hL _
  | r :: r' :: rest, input => by
    simp only [runReady]
    exact Proc.Keeps.sinkPipe.bind fun err =>
      Proc.Keeps.piped (fun pid => hL _) (fun pid => runReady_keeps hL (r' :: rest) pid) _ _ _

theorem firstInput_keeps {P : Fs.Tree → List Child → Prop} (ready : List Ready) :
    (firstInput ready).Keeps P := by
  unfold firstInput
  split
  · split
    · exact Proc.Keeps.idlePipe
    · exact Proc.Keeps.pure _
  · exact Proc.Keeps.pure _

/-- Where the shell stops checking the stages: the pipeline splits at the stage that cannot
start, every stage before it has passed its check (none of them the last) and started, and the
check of that stage gives what the shell reports. -/
theorem prepareStages_of_fault :
    ∀ {first : Bool} {pieces : List String} {ready : List Ready} {e : Option String × Int},
      prepareStages L s w first pieces = (ready, some e) →
      ∃ before stage after, pieces = before ++ stage :: after ∧
        List.Forall₂ (fun piece r => ∃ first', checkStage L s w first' false piece = .ok r)
          before ready ∧
        checkStage L s w (first && before.isEmpty) after.isEmpty stage = .error e
  | _, [], _, _, h => by simp [prepareStages] at h
  | first, stage :: rest, ready, e, h => by
    unfold prepareStages at h
    rcases hcheck : checkStage L s w first rest.isEmpty stage with e' | r
    · -- this stage is the one that cannot start
      simp only [hcheck, Prod.mk.injEq, Option.some.injEq] at h
      obtain ⟨rfl, rfl⟩ := h
      exact ⟨[], stage, rest, rfl, .nil, by simpa using hcheck⟩
    · rw [hcheck] at h
      rcases hmore : prepareStages L s w false rest with ⟨more, fault⟩
      rw [hmore] at h
      obtain ⟨rfl, rfl⟩ := Prod.mk.inj h
      obtain ⟨before, stage', after, rfl, hstarted, hfault⟩ := prepareStages_of_fault hmore
      -- the stage started and is not the last: the one that cannot start comes after it
      have hlast : (before ++ stage' :: after).isEmpty = false := by cases before <;> rfl
      have hok : checkStage L s w first false stage = .ok r := by rw [← hlast]; exact hcheck
      exact ⟨stage :: before, stage', after, rfl, .cons ⟨first, hok⟩ hstarted,
        by simpa using hfault⟩

/-- A pipeline with a stage that cannot start leaves the stages it started running. -/
theorem runStages_unwaited_of_fault {pieces : List String} {ready : List Ready}
    {e : Option String × Int} (hprep : prepareStages L s w true pieces = (ready, some e)) :
    (runStages L s w pieces).1.unwaited = w.unwaited ++ ready.map Ready.child := by
  obtain ⟨msg, status⟩ := e
  unfold runStages
  rw [hprep]
  cases msg <;> simp

/-- A pipeline whose stages all start adds nothing to the programs left running, when the
programs of the system do not: the shell waits for every stage. -/
theorem runStages_unwaited_of_started (hL : L.KeepsUnwaited) {pieces : List String}
    {ready : List Ready} (hprep : prepareStages L s w true pieces = (ready, none)) :
    (runStages L s w pieces).1.unwaited = w.unwaited := by
  rw [runStages_of_started hprep, Proc.wait_world]
  exact (firstInput_keeps ready).bind (fun input => runReady_keeps (hL · w.unwaited) _ input) w rfl

end

/-- The shell waits for the stages of a pipeline only when all of them start. When a stage
cannot start, the pipeline splits there: each stage before it has passed its check and started,
and that stage's check gives the message and the status the line ends with. The shell returns at
once, and the programs of the stages before it are left running, not waited for, in order. When
every stage starts, no program is left running. -/
theorem pipeline_waits_only_when_all_start (L : Launcher) (s : Shell) (w : World)
    (pieces : List String) (hL : L.KeepsUnwaited) :
    (∀ ready msg status, prepareStages L s w true pieces = (ready, some (msg, status)) →
      (∃ before stage after, pieces = before ++ stage :: after ∧
        List.Forall₂ (fun piece r => ∃ first, checkStage L s w first false piece = .ok r)
          before ready ∧
        checkStage L s w before.isEmpty after.isEmpty stage = .error (msg, status)) ∧
      (runStages L s w pieces).1.unwaited = w.unwaited ++ ready.map Ready.child ∧
      (runStages L s w pieces).2 = .status status) ∧
    ((prepareStages L s w true pieces).2 = none →
      (runStages L s w pieces).1.unwaited = w.unwaited) := by
  constructor
  · intro ready msg status hprep
    obtain ⟨before, stage, after, hsplit, hstarted, hfault⟩ := prepareStages_of_fault hprep
    have hreported : (prepareStages L s w true pieces).2 = some (msg, status) := by rw [hprep]
    exact ⟨⟨before, stage, after, hsplit, hstarted, by simpa using hfault⟩,
      runStages_unwaited_of_fault hprep, runStages_of_fault hreported⟩
  · intro hnone
    rcases hprep : prepareStages L s w true pieces with ⟨ready, fault⟩
    rw [hprep] at hnone
    subst hnone
    exact runStages_unwaited_of_started hL hprep

/-- In `a | | b` the empty second stage cannot start: `a` has started and is left running, and the
line ends with status 1; in `a | b` both stages start and nothing is left running. -/
theorem empty_stage_leaves_first_running :
    Launcher.idle.KeepsUnwaited ∧
      prepareStages Launcher.idle rootShell (World.ofTree printerTree) true ["a", "", "b"] =
        ([⟨"/a", [], false, false⟩], some (none, 1)) ∧
      (runStages Launcher.idle rootShell (World.ofTree printerTree) ["a", "", "b"]).1.unwaited =
        [⟨"/a", []⟩] ∧
      (runStages Launcher.idle rootShell (World.ofTree printerTree) ["a", "", "b"]).2 =
        .status 1 ∧
      (prepareStages Launcher.idle rootShell (World.ofTree printerTree) true ["a", "b"]).2 =
        none ∧
      (runStages Launcher.idle rootShell (World.ofTree printerTree) ["a", "b"]).1.unwaited =
        [] := by
  have hfault : prepareStages Launcher.idle rootShell (World.ofTree printerTree) true
      ["a", "", "b"] = ([⟨"/a", [], false, false⟩], some (none, 1)) := by cbv
  have hstarted : (prepareStages Launcher.idle rootShell (World.ofTree printerTree) true
      ["a", "b"]).2 = none := by cbv
  have hempty := (pipeline_waits_only_when_all_start Launcher.idle rootShell
    (World.ofTree printerTree) ["a", "", "b"] Launcher.idle_keepsUnwaited).1 _ _ _ hfault
  have hboth := (pipeline_waits_only_when_all_start Launcher.idle rootShell
    (World.ofTree printerTree) ["a", "b"] Launcher.idle_keepsUnwaited).2 hstarted
  exact ⟨Launcher.idle_keepsUnwaited, hfault, hempty.2.1, hempty.2.2, hstarted, hboth⟩

open Session in
/-- After `a | nosuch`, whose second stage names no program, the line has ended with status 127
while `a`, started first, has not been waited for: the next line runs with it left running. -/
theorem unknown_stage_leaves_first_unwaited :
    ((start Launcher.idle printerTree rootPath []).runLine "a | nosuch").1.world.unwaited =
        [⟨"/a", []⟩] ∧
      ((start Launcher.idle printerTree rootPath []).runLine "a | nosuch").1.shell.status = 127 := by
  have hline : Text.trim "a | nosuch" ≠ "" := by decide +kernel
  have hbar : '|' ∈ "a | nosuch".toList := by decide +kernel
  have hpieces : (barPieces (Text.trim "a | nosuch")).map Text.trim = ["a", "nosuch"] := by
    decide +kernel
  -- the line is remembered first, which the stages do not read
  have hremember : (start Launcher.idle printerTree rootPath []).shell.remember "a | nosuch" =
      { rootShell with history := ["a | nosuch"] } := by
    simp [Shell.remember, start, rootShell]
  have hprep : prepareStages Launcher.idle { rootShell with history := ["a | nosuch"] }
      (start Launcher.idle printerTree rootPath []).world.fresh true ["a", "nosuch"] =
      ([⟨"/a", [], false, false⟩], some (some "nosuch: command not found", 127)) := by cbv
  have hunwaited := runStages_unwaited_of_fault hprep
  have hreported : (prepareStages Launcher.idle { rootShell with history := ["a | nosuch"] }
      (start Launcher.idle printerTree rootPath []).world.fresh true ["a", "nosuch"]).2 =
      some (some "nosuch: command not found", 127) := by rw [hprep]
  obtain ⟨w, hw⟩ : ∃ w, runStages Launcher.idle { rootShell with history := ["a | nosuch"] }
      (start Launcher.idle printerTree rootPath []).world.fresh ["a", "nosuch"] =
      (w, .status 127) :=
    ⟨_, Prod.ext rfl (runStages_of_fault hreported)⟩
  rw [hw] at hunwaited
  have hprograms : (start Launcher.idle printerTree rootPath []).programs = Launcher.idle := rfl
  rw [runLine_nonblank _ _ hline, lineResult_of_bar _ _ hbar, hpieces, hremember, hprograms, hw]
  exact ⟨hunwaited, rfl⟩

end Conch

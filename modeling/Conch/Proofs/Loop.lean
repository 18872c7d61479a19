import Mathlib
import Conch.Proofs.Directories
/-!
# The loop reads one step at a time

A session reads its steps one by one and answers each (`Session.run`): a line with the reply of a
line, a completion request with its candidates (`Reply.answers`). Before it reads the next step
it shows its prompt, which tells the working directory. The loop stops reading after a reply
that stops it, a line that ended the session or never ends (`Reply.stops`), and when it cannot
show its prompt because its working directory is gone (`Session.prompt?`). That last stop is not
an end: the shell reports the fault and tries to show the prompt again, forever, and no later
step is read.

One step is answered by one reply of its kind, and the loop goes on after it exactly when the
reply does not stop it and the prompt can be shown (`Session.runStep_going_eq`). So a run answers
the steps it reads in order, no reply but the last stops it, and it reads fewer steps than it is
given only when its last reply stops it or the prompt fails (`Session.run_answers`). When the
programs of the system keep every directory, a session that starts in a safe directory always
shows its prompt (`Session.run_prompt?_isOk`), and the loop reads every step up to the one that
stops it. A program that removes the shell's directory leaves it unable to read on
(`removed_directory_stops_reading`).

Main statement: `Session.run_reads_until_stopped`.
-/

namespace Conch

/-- Whether a reply stops the loop: the reply to a line that ended the session or that never
ends. -/
def Reply.stops : Reply → Bool
  | .exit .. => true
  | .hang _ => true
  | _ => false

/-- Whether a reply answers a step: a line gets the reply of a line, which may end the session
or never end, and a completion request its candidates. -/
def Reply.answers : Reply → Step → Bool
  | .line .., .line _ => true
  | .exit .., .line _ => true
  | .hang _, .line _ => true
  | .matches _, .complete .. => true
  | _, _ => false

namespace Session

variable (ss : Session)

/-- One step is answered by one reply of its kind, and the flag of the answer lets the loop go on
exactly when the reply does not stop it. -/
theorem respond_answers (step : Step) :
    (ss.respond step).2.1.answers step = true ∧
      ((ss.respond step).2.2 && !(ss.respond step).2.1.hangs) = !(ss.respond step).2.1.stops := by
  cases step with
  | line text =>
    rw [respond_line]
    by_cases hblank : Text.trim text = ""
    · rw [(runLine_blank ss text hblank).2.2.2.2]
      exact ⟨rfl, rfl⟩
    · rw [runLine_nonblank ss text hblank]
      -- the reply and the flag follow the line's ending
      rcases ss.lineResult text with ⟨shell, w, ending⟩
      cases ending <;> exact ⟨rfl, rfl⟩
  | complete text begin => exact ⟨rfl, rfl⟩

/-- The loop reads on after a step exactly when the reply does not stop it and the next prompt
can be shown. -/
theorem runStep_going_eq (step : Step) :
    (ss.runStep step).2.2 =
      (!(ss.runStep step).2.1.stops && (ss.runStep step).1.prompt?.isOk) := by
  rw [runStep_going, runStep_reply, runStep_session, (respond_answers ss step).2]

theorem runStep_answers (step : Step) : (ss.runStep step).2.1.answers step = true := by
  rw [runStep_reply]
  exact (respond_answers ss step).1

/-- A run answers the steps it reads, in order; no reply but the last stops it; and it reads fewer
steps than it is given only when its last reply stops it or the prompt cannot be shown. -/
theorem run_answers (steps : List Step) :
    List.Forall₂ (fun step reply => Reply.answers reply step = true)
        (steps.take (ss.run steps).1.length) (ss.run steps).1 ∧
      (∀ r ∈ (ss.run steps).1.dropLast, r.stops = false) ∧
      ((ss.run steps).1.length < steps.length →
        ∃ r, (ss.run steps).1.getLast? = some r ∧
          (r.stops = true ∨ (ss.run steps).2.prompt?.isOk = false)) := by
  induction steps generalizing ss with
  | nil => exact ⟨.nil, by simp [run], by simp⟩
  | cons step rest ih =>
    have hanswers := runStep_answers ss step
    have hgoing := runStep_going_eq ss step
    rcases hres : ss.runStep step with ⟨ss', reply, going⟩
    rw [hres] at hanswers hgoing
    cases going with
    | false =>
      -- the loop stops at this step: by its reply, or at the prompt
      rw [run_cons_ends hres]
      have hstop : reply.stops = true ∨ ss'.prompt?.isOk = false := by
        cases hstops : reply.stops <;> cases hok : ss'.prompt?.isOk <;> simp_all
      exact ⟨.cons hanswers .nil, by simp, fun _ => ⟨reply, rfl, hstop⟩⟩
    | true =>
      rw [run_cons_goes hres]
      have hgoes : reply.stops = false := by
        cases hstops : reply.stops <;> simp_all
      obtain ⟨hread, hdrop, hshort⟩ := ih ss'
      refine ⟨by simpa using ⟨hanswers, hread⟩, ?_, fun hlt => ?_⟩
      · -- the reply is followed by the rest, so only the last of those may stop
        intro r hr
        rcases hrest : (ss'.run rest).1 with _ | ⟨r', rs⟩
        · rw [hrest] at hr
          simp at hr
        · rw [hrest, List.dropLast_cons_of_ne_nil (List.cons_ne_nil r' rs)] at hr
          rcases List.mem_cons.mp hr with rfl | hr
          · exact hgoes
          · exact hdrop r (hrest ▸ hr)
      · obtain ⟨r, hlast, hstop⟩ := hshort (by simpa using hlt)
        exact ⟨r, by simp [List.getLast?_cons, hlast], hstop⟩

/-- A session that starts in a safe directory shows its prompt after every run, when the programs
of the system keep every directory. -/
theorem run_prompt?_isOk (steps : List Step) (hL : ss.programs.KeepsDirs)
    (hsafe : ss.world.tree.DirsAlong ss.shell.cwd) : (ss.run steps).2.prompt?.isOk = true :=
  prompt?_isOk_of_dirsAlong _ ((run_settles ss steps hL).cwd hsafe)

/-- The loop reads one step at a time and answers it with one reply of its kind, in order. It
reads on after every reply that does not end the session or hang, for as long as it can show its
prompt: it reads fewer steps than it is given only when its last reply stops it or its working
directory is gone. When the programs of the system keep every directory and the session starts
in a safe directory, the prompt never fails, so only a reply that stops the loop leaves steps
unread. -/
theorem run_reads_until_stopped (steps : List Step) :
    List.Forall₂ (fun step reply => Reply.answers reply step = true)
        (steps.take (ss.run steps).1.length) (ss.run steps).1 ∧
      (∀ r ∈ (ss.run steps).1.dropLast, r.stops = false) ∧
      ((ss.run steps).1.length < steps.length →
        ∃ r, (ss.run steps).1.getLast? = some r ∧
          (r.stops = true ∨ (ss.run steps).2.prompt?.isOk = false)) ∧
      (ss.programs.KeepsDirs → ss.world.tree.DirsAlong ss.shell.cwd →
        (ss.run steps).2.prompt?.isOk = true) := by
  obtain ⟨hread, hdrop, hshort⟩ := run_answers ss steps
  exact ⟨hread, hdrop, hshort, run_prompt?_isOk ss steps⟩

end Session

/-- The system whose programs do nothing keeps every directory. -/
theorem Launcher.idle_keepsDirs : Launcher.idle.KeepsDirs :=
  fun _ _ _ hw => hw

/-- A session of the system whose programs do nothing, started at the root, still shows its
prompt after `cd /` and a completion. -/
theorem bare_prompt_never_fails :
    Launcher.idle.KeepsDirs ∧ Session.bare.world.tree.DirsAlong Session.bare.shell.cwd ∧
      (Session.bare.run [.line "cd /", .complete "e" (some 0)]).2.prompt?.isOk = true :=
  ⟨Launcher.idle_keepsDirs, Fs.Tree.dirsAlong_root,
    (Session.run_reads_until_stopped Session.bare [.line "cd /", .complete "e" (some 0)]).2.2.2
      Launcher.idle_keepsDirs Fs.Tree.dirsAlong_root⟩

/-- A system whose every program removes the directory it was started in, as `cd .. && rmdir d`
does when started in `d`, and exits with status 0. -/
def Launcher.removing : Launcher where
  refusal _ _ _ := none
  run call := do
    let w ← get
    match w.tree.removeDir [] call.cwd.text with
    | .ok t => set { w with tree := t }; pure 0
    | .error _ => pure 1

/-- A directory `d` and, at the root, a program `r`. -/
def removalTree : Fs.Tree := { nodes := [(["d"], .dir), (["r"], .file [] true)] }

/-- A session in `d` of the system whose programs remove their directory, with `PATH` the root. -/
def removalSession : Session := Session.start Launcher.removing removalTree rootPath ["d"]

open Session in
/-- In `d`, the line `r` removes `d`: the line ends with status 0, but the shell can no longer
tell its directory, so it cannot show its prompt and reads no further step, though it has not
ended. -/
theorem removed_directory_stops_reading :
    (removalSession.run [.line "r", .line "pwd"]).1.length = 1 ∧
      (∀ r ∈ (removalSession.run [.line "r", .line "pwd"]).1, r.stops = false) ∧
      (removalSession.run [.line "r", .line "pwd"]).2.prompt? = .error .noEntry := by
  have hline : Text.trim "r" ≠ "" := by decide +kernel
  have hbar : '|' ∉ "r".toList := by decide +kernel
  have htrim : Text.trim "r" = "r" := by decide +kernel
  -- the line is remembered first, which the program does not read
  have hremember : removalSession.shell.remember "r" =
      { removalSession.shell with history := ["r"] } := by
    simp [Shell.remember, removalSession, start]
  have hstatus : (runCommand Launcher.removing { removalSession.shell with history := ["r"] }
      removalSession.world.fresh "r").2.2 = .status 0 := by cbv
  have hgone : (runCommand Launcher.removing { removalSession.shell with history := ["r"] }
      removalSession.world.fresh "r").2.1.tree.isDirAt ["d"] = false := by cbv
  obtain ⟨sh, w, hrun⟩ : ∃ sh w, runCommand Launcher.removing
      { removalSession.shell with history := ["r"] } removalSession.world.fresh "r" =
      (sh, w, .status 0) :=
    ⟨_, _, Prod.ext rfl (Prod.ext rfl hstatus)⟩
  have hcwd : (runCommand Launcher.removing { removalSession.shell with history := ["r"] }
      removalSession.world.fresh "r").1.cwd = ["d"] := by cbv
  have hgone' : w.tree.isDirAt ["d"] = false := by
    rw [hrun] at hgone
    exact hgone
  have hcwd' : sh.cwd = ["d"] := by
    rw [hrun] at hcwd
    exact hcwd
  have hprograms : removalSession.programs = Launcher.removing := rfl
  -- the line runs `r`, and the session it leaves cannot show its prompt
  have hprompt : (⟨{ sh with status := 0 }, w, Launcher.removing⟩ : Session).prompt? =
      .error .noEntry := by
    simp [prompt?, hcwd', hgone']
  have hstep : removalSession.runStep (.line "r") =
      (⟨{ sh with status := 0 }, w, Launcher.removing⟩,
        .line removalSession.shell.prompt w.screen 0, false) := by
    rw [runStep, respond_line, runLine_nonblank _ _ hline, lineResult_of_no_bar _ _ hbar, htrim,
      hremember, hprograms, hrun]
    simp only [hprompt]
    rfl
  rw [run_cons_ends hstep]
  refine ⟨rfl, fun r hr => ?_, ?_⟩
  · rw [List.mem_singleton.mp hr]
    rfl
  · exact hprompt

end Conch

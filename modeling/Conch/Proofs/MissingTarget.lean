import Mathlib.Algebra.Ring.Parity
import Mathlib.Data.List.DropRight
import Conch.Proofs.Redirections
/-!
# A redirection without a target

The redirection scan fails exactly when it meets an operator with no word after it. Whether it
does is decided by the run of operator words at the end of the list, the longest suffix whose
words are all operators (`List.rtakeWhile isOperator`). The scan pairs each operator with the
word after it, so a word that is no operator is read either alone or as a target, and in both
cases the scan goes on at the next word; inside the final run the scan takes its words two at a
time. The last operator of the run is left alone exactly when the run has odd length
(`collect_fails_iff`): a step over a word that is no operator keeps the final run
(`rtakeWhile_cons_of_not`), and a step over an operator and its target keeps the parity of its
length (`odd_rtakeWhile_cons_cons`).

The operator left alone is the last word of the list, and the message names it
(`collect_error_last`). A line whose redirections fail prints that message, ends with status 1,
and runs nothing (`runCommand_of_missingTarget`).

Main statement: `ofWords_fails_iff_odd_operator_run`.
-/

namespace Conch.Word

/-- Whether a word is one of the redirection operators. -/
def isOperator (w : String) : Bool := (RedirectOp.ofWord? w).isSome

/-! ### The final run of operators -/

section Run

variable {α : Type} (p : α → Bool)

/-- In front of a list that passes throughout, an element joins the final run if it passes. -/
theorem rtakeWhile_cons_of_forall {l : List α} (hl : ∀ y ∈ l, p y = true) (x : α) :
    (x :: l).rtakeWhile p = if p x then x :: l else l := by
  rw [List.rtakeWhile, List.reverse_cons, List.takeWhile_append_of_pos (by simpa using hl)]
  cases hx : p x <;> simp [hx]

/-- In front of a list that does not pass throughout, an element leaves the final run alone. -/
theorem rtakeWhile_cons_of_not_forall {l : List α} (hl : ¬ ∀ y ∈ l, p y = true) (x : α) :
    (x :: l).rtakeWhile p = l.rtakeWhile p := by
  -- the scan from the end stops inside `l`, before it reaches `x`
  have hshort : (l.reverse.takeWhile p).length ≠ l.reverse.length := by
    intro hlen
    have hall : l.reverse.takeWhile p = l.reverse := (List.takeWhile_prefix p).eq_of_length hlen
    exact hl fun y hy => List.mem_takeWhile_imp (hall ▸ List.mem_reverse.mpr hy)
  rw [List.rtakeWhile, List.rtakeWhile, List.reverse_cons, List.takeWhile_append, if_neg hshort]

/-- An element that does not pass never changes the final run. -/
theorem rtakeWhile_cons_of_not {x : α} (hx : p x = false) (l : List α) :
    (x :: l).rtakeWhile p = l.rtakeWhile p := by
  by_cases hl : ∀ y ∈ l, p y = true
  · rw [rtakeWhile_cons_of_forall p hl, hx, if_neg Bool.false_ne_true,
      List.rtakeWhile_eq_self_iff.mpr hl]
  · exact rtakeWhile_cons_of_not_forall p hl x

/-- Two elements in front, the first of which passes, keep the parity of the final run. -/
theorem odd_rtakeWhile_cons_cons {x : α} (hx : p x = true) (y : α) (l : List α) :
    Odd ((x :: y :: l).rtakeWhile p).length ↔ Odd (l.rtakeWhile p).length := by
  by_cases hl : ∀ z ∈ l, p z = true
  · cases hy : p y
    · -- `y` stops the run, which is then the run of `l`
      have hyl : ¬ ∀ z ∈ y :: l, p z = true := fun h => by simp [hy] at h
      rw [rtakeWhile_cons_of_not_forall p hyl, rtakeWhile_cons_of_not p hy]
    · -- the run is all of `x :: y :: l`, two longer than the run of `l`, which is `l`
      have hyl : ∀ z ∈ y :: l, p z = true := List.forall_mem_cons.mpr ⟨hy, hl⟩
      rw [rtakeWhile_cons_of_forall p hyl, if_pos hx, List.rtakeWhile_eq_self_iff.mpr hl]
      simp [Nat.odd_add_one]
  · have hyl : ¬ ∀ z ∈ y :: l, p z = true := fun h => hl fun z hz => h z (List.mem_cons_of_mem y hz)
    rw [rtakeWhile_cons_of_not_forall p hyl, rtakeWhile_cons_of_not_forall p hl]

end Run

/-! ### The scan -/

theorem isOperator_eq_false {w : String} (hw : RedirectOp.ofWord? w = none) : isOperator w = false := by
  simp [isOperator, hw]

theorem isOperator_eq_true {w : String} {op : RedirectOp} (hw : RedirectOp.ofWord? w = some op) :
    isOperator w = true := by
  simp [isOperator, hw]

/-- The scan fails exactly when the final run of operators has odd length, whatever it has
recorded and kept before. -/
theorem collect_fails_iff (r : Redirections) (kept ws : List String) :
    (∃ e, collect r kept ws = .error e) ↔ Odd (ws.rtakeWhile isOperator).length := by
  -- one case per step of the scan, with the final run followed along
  fun_induction collect r kept ws with
  | case1 r kept => simp
  | case2 r kept w rest hw ih =>
    rw [ih, rtakeWhile_cons_of_not isOperator (isOperator_eq_false hw)]
  | case3 r kept w op hop =>
    rw [rtakeWhile_cons_of_forall isOperator (by simp) w, isOperator_eq_true hop, if_pos rfl]
    simp
  | case4 r kept w op hop t rest ih =>
    rw [ih, odd_rtakeWhile_cons_cons isOperator (isOperator_eq_true hop)]

/-- When the scan fails, the operator left without a target is the last word. -/
theorem collect_error_last {r : Redirections} {kept ws : List String} {e : MissingTarget}
    (h : collect r kept ws = .error e) : ws.getLast? = some e.op.text := by
  fun_induction collect r kept ws with
  | case1 => cases h
  | case2 r kept w rest hw ih => simp [List.getLast?_cons, ih h]
  | case3 r kept w op hop =>
    cases h
    simp [RedirectOp.eq_text_of_ofWord? hop]
  | case4 r kept w op hop t rest ih => simp [List.getLast?_cons, ih h]

end Conch.Word

namespace Conch

/-- A line whose redirections lack a target prints the message, ends with status 1, and runs
nothing: the shell and the world are left as they were. -/
theorem runCommand_of_missingTarget {L : Launcher} {s : Shell} {w : World} {line : String}
    {e : Word.MissingTarget}
    (h : Word.Command.ofWords (Word.expand s.env (toString s.status) (commandWords line)) =
      .error e) :
    runCommand L s w line = (s, w.say e.message, .status 1) := by
  unfold runCommand
  cases hwords : commandWords line with
  | nil =>
    -- no word gives no operator, which the scan accepts
    rw [hwords] at h
    cases h
  | cons word rest =>
    rw [hwords] at h
    simp only [h]

namespace Word

/-- The redirection scan of a word list fails exactly when the operators at the end of the list,
as many as there are, are odd in number. It then names the last word of the list in its message,
`Syntax error: expected filename after 'OP'`, and a line whose expanded words are this list
prints that message, ends with status 1, and runs no command: the shell and everything but the
terminal are left as they were. -/
theorem ofWords_fails_iff_odd_operator_run (ws : List String) :
    ((∃ e, Command.ofWords ws = .error e) ↔ Odd (ws.rtakeWhile isOperator).length) ∧
    ∀ e, Command.ofWords ws = .error e →
      ws.getLast? = some e.op.text ∧
      e.message = "Syntax error: expected filename after '" ++ e.op.text ++ "'" ∧
      ∀ (L : Launcher) (s : Shell) (w : World) (line : String),
        expand s.env (toString s.status) (commandWords line) = ws →
        runCommand L s w line = (s, w.say e.message, .status 1) := by
  refine ⟨collect_fails_iff {} [] ws, fun e h => ⟨collect_error_last h, rfl, ?_⟩⟩
  intro L s w line hws
  rw [← hws] at h
  exact runCommand_of_missingTarget h

example : Command.ofWords [">", ">"] = .ok ⟨[], { stdout := some ">" }⟩ := rfl

/-- `a > > >`: the last three words are operators, an odd number, so the scan fails on the last
one; `> >` alone would be read as `>` with the target `>`. -/
theorem odd_operator_run_fails :
    Odd (["a", ">", ">", ">"].rtakeWhile isOperator).length ∧
    ∃ e, Command.ofWords ["a", ">", ">", ">"] = .error e := by
  have hodd : Odd (["a", ">", ">", ">"].rtakeWhile isOperator).length := by decide
  exact ⟨hodd, (ofWords_fails_iff_odd_operator_run _).1.mpr hodd⟩

end Word

end Conch

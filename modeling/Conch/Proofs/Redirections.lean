import Conch.Session.Launch
/-!
# What the redirection scan reads

`Conch.Word.Command.ofWords` reads a word list left to right: an operator word takes the word
after it as its target, whatever that word is, and every other word is kept. This module says
what a successful scan found without running the scan.

A word list is read as segments (`Segment`): a lone word that is no operator, or an operator
with its target. The scan reads the words of segments segment by segment
(`collect_flatMap_words`), and it succeeds exactly on the lists that split into segments
(`ofWords_ok_iff`), in one way only (`isSegmentation_unique`): an operator word can only start a
pair and any other word can only stand alone. What it returns is read off the segments
(`commandOf`): the lone words in order, and for each stream the target of its last operator
(`target_foldl_apply`), appending exactly when the last output operator is `>>`
(`append_foldl_apply`). What it keeps holds no operator, so a second scan keeps every word and
finds no redirection (`ofWords_of_no_operator`). Main statement: `ofWords_splits_into_segments`.

The scan prints nothing: its message belongs to its failure, and a line whose scan succeeds runs
its command on the world it had (`runCommand_of_ofWords`).
-/

namespace Conch.Word

/-! ### Operators -/

/-- The three streams a redirection can name. -/
inductive Channel
  | input
  | output
  | error
  deriving DecidableEq, Repr

namespace RedirectOp

theorem ofWord?_text (op : RedirectOp) : ofWord? op.text = some op := by
  cases op <;> decide

theorem eq_text_of_ofWord? {w : String} {op : RedirectOp} (h : ofWord? w = some op) :
    w = op.text := by
  unfold ofWord? at h
  split at h
  · cases h; assumption
  split at h
  · cases h; assumption
  split at h
  · cases h; assumption
  split at h
  · cases h; assumption
  · cases h

/-- The stream an operator redirects: `>` and `>>` both redirect the output. -/
def channel : RedirectOp → Channel
  | input => .input
  | output => .output
  | append => .output
  | errorOutput => .error

end RedirectOp

/-! ### Segments -/

/-- A stretch of a word list as the scan reads it. -/
inductive Segment
  /-- A word that is kept. -/
  | word (w : String)
  /-- An operator and the word after it, its target. -/
  | redirect (op : RedirectOp) (target : String)
  deriving DecidableEq, Repr

namespace Segment

/-- The words a segment is written as. -/
def words : Segment → List String
  | word w => [w]
  | redirect op t => [op.text, t]

/-- A lone word is no operator; the target of an operator may be any word. -/
def IsValid : Segment → Prop
  | word w => RedirectOp.ofWord? w = none
  | redirect _ _ => True

instance : DecidablePred IsValid
  | word w => inferInstanceAs (Decidable (RedirectOp.ofWord? w = none))
  | redirect _ _ => isTrue trivial

/-- The word a segment keeps. -/
def kept? : Segment → Option String
  | word w => some w
  | redirect _ _ => none

/-- The operator and the target of a segment that redirects the stream `ch`. -/
def target? (ch : Channel) : Segment → Option (RedirectOp × String)
  | word _ => none
  | redirect op t => if op.channel = ch then some (op, t) else none

/-- Records a segment's redirection as the scan does. -/
def apply (r : Redirections) : Segment → Redirections
  | word _ => r
  | redirect op t => r.add op t

theorem words_ne_nil (s : Segment) : s.words ≠ [] := by
  cases s <;> simp [words]

/-- The text of an operator is never a lone word. -/
theorem not_isValid_word_text (op : RedirectOp) : ¬ (word op.text).IsValid := by
  simp [IsValid, RedirectOp.ofWord?_text]

/-- Two segments that start a word list alike are the same segment. -/
theorem eq_of_words_append {s s' : Segment} (hs : s.IsValid) (hs' : s'.IsValid)
    {rest rest' : List String} (h : s.words ++ rest = s'.words ++ rest') :
    s = s' ∧ rest = rest' := by
  cases s with
  | word w =>
    cases s' with
    | word w' =>
      simp only [words, List.singleton_append, List.cons.injEq] at h
      exact ⟨by rw [h.1], h.2⟩
    | redirect op' t' =>
      -- a lone word would be the operator `op'`
      simp only [words, List.cons_append, List.nil_append, List.cons.injEq] at h
      exact absurd (h.1 ▸ hs) (not_isValid_word_text op')
  | redirect op t =>
    cases s' with
    | word w' =>
      -- likewise, a lone word would be the operator `op`
      simp only [words, List.cons_append, List.nil_append, List.cons.injEq] at h
      exact absurd (h.1 ▸ hs') (not_isValid_word_text op)
    | redirect op' t' =>
      simp only [words, List.cons_append, List.nil_append, List.cons.injEq] at h
      obtain ⟨htext, htarget, hrest⟩ := h
      have hop : some op = some op' := by
        rw [← RedirectOp.ofWord?_text op, htext, RedirectOp.ofWord?_text op']
      exact ⟨by rw [Option.some.inj hop, htarget], hrest⟩

end Segment

/-- The segments `segs` spell the word list `ws`. -/
def IsSegmentation (segs : List Segment) (ws : List String) : Prop :=
  (∀ s ∈ segs, s.IsValid) ∧ segs.flatMap Segment.words = ws

/-- A word list splits into segments in at most one way. -/
theorem isSegmentation_unique {segs segs' : List Segment} {ws : List String}
    (h : IsSegmentation segs ws) (h' : IsSegmentation segs' ws) : segs = segs' := by
  induction segs generalizing segs' ws with
  | nil =>
    obtain ⟨-, hnil⟩ := h
    obtain ⟨-, hws'⟩ := h'
    rw [← hnil, List.flatMap_nil, List.flatMap_eq_nil_iff] at hws'
    cases segs' with
    | nil => rfl
    | cons s' _ => exact absurd (hws' s' List.mem_cons_self) s'.words_ne_nil
  | cons s segs ih =>
    obtain ⟨hvalid, hws⟩ := h
    obtain ⟨hvalid', hws'⟩ := h'
    cases segs' with
    | nil =>
      rw [← hws', List.flatMap_nil, List.flatMap_cons, List.append_eq_nil_iff] at hws
      exact absurd hws.1 s.words_ne_nil
    | cons s' segs' =>
      rw [← hws', List.flatMap_cons, List.flatMap_cons] at hws
      obtain ⟨rfl, hrest⟩ := Segment.eq_of_words_append (hvalid s List.mem_cons_self)
        (hvalid' s' List.mem_cons_self) hws
      rw [ih ⟨fun t ht => hvalid t (List.mem_cons_of_mem s ht), hrest⟩
        ⟨fun t ht => hvalid' t (List.mem_cons_of_mem s ht), rfl⟩]

/-! ### The command segments describe -/

/-- The last operator of `segs` that redirects `ch`, with its target. -/
def lastFor (ch : Channel) (segs : List Segment) : Option (RedirectOp × String) :=
  (segs.filterMap (Segment.target? ch)).getLast?

/-- The command segments describe: the lone words in order; each stream goes to the target of
its last operator; the output is appended exactly when its last operator is `>>`. -/
def commandOf (segs : List Segment) : Command :=
  ⟨segs.filterMap Segment.kept?,
    { stdin := (lastFor .input segs).map Prod.snd
      stdout := (lastFor .output segs).map Prod.snd
      stderr := (lastFor .error segs).map Prod.snd
      append := decide ((lastFor .output segs).map Prod.fst = some .append) }⟩

@[simp] theorem lastFor_nil (ch : Channel) : lastFor ch [] = none := rfl

/-- A later segment of a stream wins over the ones before it. -/
theorem lastFor_cons (ch : Channel) (s : Segment) (segs : List Segment) :
    lastFor ch (s :: segs) = (lastFor ch segs).or (s.target? ch) := by
  unfold lastFor
  rw [List.filterMap_cons]
  cases s.target? ch with
  | none => simp
  | some x => rw [List.getLast?_cons, Option.or_some]

/-- The file a plan gives a stream. -/
def Redirections.target (r : Redirections) : Channel → Option String
  | .input => r.stdin
  | .output => r.stdout
  | .error => r.stderr

/-- A segment redirects its own stream and leaves the others as they were. -/
theorem target_apply (r : Redirections) (s : Segment) (ch : Channel) :
    (s.apply r).target ch = ((s.target? ch).map Prod.snd).or (r.target ch) := by
  cases s with
  | word w => simp [Segment.apply, Segment.target?]
  | redirect op t => cases op <;> cases ch <;> rfl

/-- An output segment sets the append flag by its operator; any other keeps it. -/
theorem append_apply (r : Redirections) (s : Segment) :
    (s.apply r).append = ((s.target? .output).map (·.1 == .append)).getD r.append := by
  cases s with
  | word w => rfl
  | redirect op t => cases op <;> rfl

/-- Along segments, a stream goes to the target of its last operator, and stays as it was when
no segment redirects it. -/
theorem target_foldl_apply (segs : List Segment) : ∀ (r : Redirections) (ch : Channel),
    (segs.foldl Segment.apply r).target ch = ((lastFor ch segs).map Prod.snd).or (r.target ch) := by
  induction segs with
  | nil => intro r ch; simp
  | cons s segs ih =>
    intro r ch
    rw [List.foldl_cons, ih, target_apply, lastFor_cons, Option.map_or, Option.or_assoc]

/-- Along segments, the append flag is set by the last output operator. -/
theorem append_foldl_apply (segs : List Segment) : ∀ r : Redirections,
    (segs.foldl Segment.apply r).append =
      ((lastFor .output segs).map (·.1 == .append)).getD r.append := by
  induction segs with
  | nil => intro r; rfl
  | cons s segs ih =>
    intro r
    rw [List.foldl_cons, ih, append_apply, lastFor_cons]
    cases lastFor .output segs <;> rfl

/-- From no redirection, segments record exactly the plan they describe. -/
theorem foldl_apply_empty (segs : List Segment) :
    segs.foldl Segment.apply {} = (commandOf segs).redirections := by
  have hin := target_foldl_apply segs {} .input
  have hout := target_foldl_apply segs {} .output
  have herr := target_foldl_apply segs {} .error
  have happ := append_foldl_apply segs {}
  generalize segs.foldl Segment.apply {} = r at hin hout herr happ
  obtain ⟨stdin, stdout, stderr, append⟩ := r
  simp only [Redirections.target, Option.or_none] at hin hout herr happ
  subst hin hout herr happ
  simp only [commandOf, Redirections.mk.injEq, true_and]
  cases lastFor .output segs with
  | none => rfl
  | some x =>
    obtain ⟨op, t⟩ := x
    cases op <;> rfl

/-! ### The scan reads segments -/

/-- The scan reads the words of valid segments segment by segment: it keeps their lone words,
records their redirections, and goes on with what follows. -/
theorem collect_flatMap_words (segs : List Segment) (hsegs : ∀ s ∈ segs, s.IsValid)
    (rest : List String) : ∀ (r : Redirections) (kept : List String),
      collect r kept (segs.flatMap Segment.words ++ rest) =
        collect (segs.foldl Segment.apply r) ((segs.filterMap Segment.kept?).reverse ++ kept)
          rest := by
  induction segs with
  | nil => intro r kept; rfl
  | cons s segs ih =>
    intro r kept
    have hrest := ih fun t ht => hsegs t (List.mem_cons_of_mem s ht)
    cases s with
    | word w =>
      have hw : RedirectOp.ofWord? w = none := hsegs _ List.mem_cons_self
      simp [Segment.words, collect, hw, hrest, Segment.apply, Segment.kept?]
    | redirect op t =>
      -- an operator segment keeps no word and records its redirection
      rw [List.filterMap_cons_none rfl]
      simp [Segment.words, collect, RedirectOp.ofWord?_text, hrest, Segment.apply]

/-- A list that splits into segments is read as the command they describe. -/
theorem ofWords_of_isSegmentation {segs : List Segment} {ws : List String}
    (h : IsSegmentation segs ws) : Command.ofWords ws = .ok (commandOf segs) := by
  obtain ⟨hvalid, rfl⟩ := h
  have hread := collect_flatMap_words segs hvalid [] {} []
  rw [List.append_nil] at hread
  rw [Command.ofWords, hread, foldl_apply_empty]
  simp [collect, commandOf]

/-- A successful scan read a list that splits into segments. -/
theorem exists_isSegmentation_of_collect {r : Redirections} {kept ws : List String}
    {c : Command} (h : collect r kept ws = .ok c) : ∃ segs, IsSegmentation segs ws := by
  fun_induction collect r kept ws with
  | case1 => exact ⟨[], by simp [IsSegmentation]⟩
  | case2 r kept w rest hw ih =>
    obtain ⟨segs, hvalid, hws⟩ := ih h
    refine ⟨.word w :: segs, ?_, by simp [Segment.words, hws]⟩
    intro s hs
    rcases List.mem_cons.mp hs with rfl | hs
    · exact hw
    · exact hvalid s hs
  | case3 => cases h
  | case4 r kept w op hop t rest ih =>
    obtain ⟨segs, hvalid, hws⟩ := ih h
    refine ⟨.redirect op t :: segs, ?_, ?_⟩
    · intro s hs
      rcases List.mem_cons.mp hs with rfl | hs
      · trivial
      · exact hvalid s hs
    · simp [Segment.words, hws, RedirectOp.eq_text_of_ofWord? hop]

/-- The scan succeeds exactly on the lists that split into segments. -/
theorem ofWords_ok_iff (ws : List String) :
    (∃ c, Command.ofWords ws = .ok c) ↔ ∃ segs, IsSegmentation segs ws := by
  constructor
  · rintro ⟨c, hc⟩
    exact exists_isSegmentation_of_collect hc
  · rintro ⟨segs, hsegs⟩
    exact ⟨_, ofWords_of_isSegmentation hsegs⟩

/-- The scan keeps a list with no operator word as it is, with no redirection. -/
theorem ofWords_of_no_operator (ws : List String) (hws : ∀ w ∈ ws, RedirectOp.ofWord? w = none) :
    Command.ofWords ws = .ok ⟨ws, {}⟩ := by
  have hsegs : IsSegmentation (ws.map Segment.word) ws := by
    refine ⟨?_, by simp [List.flatMap_map, Segment.words]⟩
    simpa [Segment.IsValid] using hws
  have hkept : (ws.map Segment.word).filterMap Segment.kept? = ws := by
    rw [List.filterMap_map]
    exact List.filterMap_some
  have hnone : ∀ ch, lastFor ch (ws.map Segment.word) = none := by
    intro ch
    rw [lastFor, List.getLast?_eq_none_iff, List.filterMap_eq_nil_iff]
    intro s hs
    obtain ⟨w, -, rfl⟩ := List.mem_map.mp hs
    rfl
  rw [ofWords_of_isSegmentation hsegs]
  simp [commandOf, hkept, hnone]

/-- The words a command of segments keeps are no operators. -/
theorem ofWord?_of_mem_commandOf {segs : List Segment} (hvalid : ∀ s ∈ segs, s.IsValid)
    {w : String} (hw : w ∈ (commandOf segs).words) : RedirectOp.ofWord? w = none := by
  obtain ⟨s, hs, hkept⟩ := List.mem_filterMap.mp hw
  cases s with
  | word v =>
    cases hkept
    exact hvalid _ hs
  | redirect op t => cases hkept

end Conch.Word

namespace Conch

/-- Runs a command whose words and redirections are known: the shell's own command of that name
or else a program; no word runs nothing. -/
def Word.Command.run (c : Word.Command) (L : Launcher) (s : Shell) (w : World) :
    Shell × World × Ending :=
  match c.words with
  | [] => (s, w, .status 0)
  | name :: args =>
    (Builtin.run? s w name args c.redirections).getD
      (s, runExternal L s w name args c.redirections)

/-- A line whose redirections are read without error runs its command on the world it had:
reading them prints nothing. -/
theorem runCommand_of_ofWords {L : Launcher} {s : Shell} {w : World} {line : String}
    {c : Word.Command}
    (hwords : commandWords line ≠ [])
    (h : Word.Command.ofWords (Word.expand s.env (toString s.status) (commandWords line)) =
      .ok c) :
    runCommand L s w line = c.run L s w := by
  unfold runCommand
  cases hcmd : commandWords line with
  | nil => exact absurd hcmd hwords
  | cons word rest =>
    rw [hcmd] at h
    simp only [h]
    obtain ⟨words, r⟩ := c
    cases words with
    | nil => rfl
    | cons name args =>
      simp only [Word.Command.run]
      cases Builtin.run? s w name args r <;> rfl

namespace Word

/-- The redirection scan, when it succeeds, read its list as segments: lone words that are no
operators, and operators each with the word after it as its target, whatever that word is. The
list splits so in exactly one way; the words kept are the lone words in order; the input, the
output and the error output go to the targets of their last operators, none when there is
none, and the output is appended exactly when its last operator is `>>`. The scan prints
nothing: a line whose words are this list runs the command on the world it had. The words
kept hold no operator, so a second scan keeps them as they are with no redirection. -/
theorem ofWords_splits_into_segments (ws : List String) (c : Command)
    (h : Command.ofWords ws = .ok c) :
    ∃ segs, IsSegmentation segs ws ∧ (∀ segs', IsSegmentation segs' ws → segs' = segs) ∧
      c = commandOf segs ∧
      (∀ (L : Launcher) (s : Shell) (wd : World) (line : String), commandWords line ≠ [] →
        expand s.env (toString s.status) (commandWords line) = ws →
        runCommand L s wd line = c.run L s wd) ∧
      (∀ w ∈ c.words, RedirectOp.ofWord? w = none) ∧
      Command.ofWords c.words = .ok ⟨c.words, {}⟩ := by
  obtain ⟨segs, hsegs⟩ := exists_isSegmentation_of_collect h
  have hc : c = commandOf segs := by
    have hread := ofWords_of_isSegmentation hsegs
    rw [h] at hread
    exact Except.ok.inj hread
  have hkept : ∀ w ∈ c.words, RedirectOp.ofWord? w = none := by
    rw [hc]
    exact fun w hw => ofWord?_of_mem_commandOf hsegs.1 hw
  refine ⟨segs, hsegs, fun segs' h' => isSegmentation_unique h' hsegs, hc, ?_, hkept,
    ofWords_of_no_operator c.words hkept⟩
  intro L s wd line hline hws
  rw [← hws] at h
  exact runCommand_of_ofWords hline h

/-- An operator taken as a target, and three operators of which the last of each stream wins:
the list splits only as these segments. -/
theorem ofWords_sample_segments :
    Command.ofWords ["a", ">", "f", "b", ">>", "g", "<", ">"] =
      .ok ⟨["a", "b"], { stdin := some ">", stdout := some "g", append := true }⟩ ∧
    ∀ segs, IsSegmentation segs ["a", ">", "f", "b", ">>", "g", "<", ">"] →
      segs = [.word "a", .redirect .output "f", .word "b", .redirect .append "g",
        .redirect .input ">"] := by
  have hread : Command.ofWords ["a", ">", "f", "b", ">>", "g", "<", ">"] =
      .ok ⟨["a", "b"], { stdin := some ">", stdout := some "g", append := true }⟩ := rfl
  obtain ⟨segs, -, hunique, -⟩ := ofWords_splits_into_segments _ _ hread
  have hsample : IsSegmentation [.word "a", .redirect .output "f", .word "b",
      .redirect .append "g", .redirect .input ">"] ["a", ">", "f", "b", ">>", "g", "<", ">"] :=
    ⟨by decide, rfl⟩
  refine ⟨hread, fun segs' h' => ?_⟩
  rw [hunique segs' h', ← hunique _ hsample]

end Word

end Conch

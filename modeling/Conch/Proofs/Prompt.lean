import Mathlib
import Conch.Fs.Proofs.Entries
import Conch.Proofs.Pipeline
/-!
# The prompt and the home directory

Before it reads a line the shell shows its working directory and ` $ `, with `~` in place of the
home directory when the directory's text starts with the home's text (`Shell.prompt`). Putting
the home back in place of that `~` always gives the working directory
(`Shell.expandTilde_promptDir`).

The test is on texts, not on names. Read by names, the prompt would show `~` for the home
itself, `~/` and the names below the home for a directory strictly below it, and the directory's
own text for any other (`homeRelative`). The two agree exactly when the text test and the names
test agree, and the home is not the root unless the working directory is the root as well
(`Shell.promptDir_eq_homeRelative_iff`): the home `/r/a` shows the directory `/r/ab` as `~b`
(`beside_home_shows_tilde`), and the home `/` shows `/x` as `~x` (`Shell.promptDir_of_root_home`).

The step that needs care is a directory below the home by names whose text starts with the
home's text. The home's text is then exactly the text of its names (`eq_joined_names_of_prefix`):
it starts with a slash, does not end with one, and is read off a text in which every name
follows one slash.

Main statement: `Session.line_prompt_abbreviates_home`.
-/

namespace Conch

namespace Fs

/-! ### Path texts -/

/-- The text the names of a path add below a directory: each name after a slash. -/
def Path.joined (p : Path) : String := String.join (p.map ("/" ++ ·))

@[simp] theorem Path.joined_nil : Path.joined [] = "" := rfl

@[simp] theorem Path.joined_cons (n : String) (p : Path) :
    Path.joined (n :: p) = "/" ++ n ++ Path.joined p := by
  simp [Path.joined, String.join_cons, String.append_assoc]

theorem Path.joined_append (p q : Path) : (p ++ q).joined = p.joined ++ q.joined := by
  simp [Path.joined, String.join_append]

theorem Path.text_of_ne_nil {p : Path} (hp : p ≠ []) : p.text = p.joined := by
  cases p with
  | nil => exact absurd rfl hp
  | cons n p => rfl

theorem Path.joined_eq_intercalate : ∀ {p : Path}, p ≠ [] → p.joined = "/" ++ "/".intercalate p
  | [n], _ => by simp
  | n :: m :: p, _ => by
    rw [Path.joined_cons, Path.joined_eq_intercalate (List.cons_ne_nil m p),
      String.intercalate_cons_cons]
    simp only [String.append_assoc]

/-- The text of every path starts with a slash. -/
theorem Path.text_toList (p : Path) : ∃ t, p.text.toList = '/' :: t := by
  cases p with
  | nil => exact ⟨[], rfl⟩
  | cons n p =>
    refine ⟨(n ++ Path.joined p).toList, ?_⟩
    rw [Path.text_of_ne_nil (List.cons_ne_nil n p), Path.joined_cons]
    simp [String.toList_append]

/-! ### Names -/

/-- Split at its slashes, a text that holds a character other than a slash has a piece that is not
empty. -/
theorem exists_piece_ne_nil {c : Char} (hc : c ≠ '/') :
    ∀ {l : List Char}, c ∈ l → ∃ piece ∈ l.splitOn '/', piece ≠ []
  | x :: xs, h => by
    rw [List.splitOn_cons_eq_if_modifyHead]
    split
    · -- a slash ends a piece; `c` comes later
      next hx =>
      have hcx : c ≠ x := by
        rintro rfl
        exact hc (by simpa using hx)
      obtain ⟨piece, hp, hne⟩ := exists_piece_ne_nil hc ((List.mem_cons.mp h).resolve_left hcx)
      exact ⟨piece, List.mem_cons_of_mem _ hp, hne⟩
    · -- any other character joins the first piece
      obtain ⟨first, rest, heq⟩ := List.exists_cons_of_ne_nil (List.splitOn_ne_nil '/' xs)
      rw [heq, List.modifyHead_cons]
      exact ⟨x :: first, List.mem_cons_self, List.cons_ne_nil _ _⟩

/-- A text that holds a character other than a slash has a name. -/
theorem names_ne_nil {s : String} {c : Char} (hc : c ∈ s.toList) (hslash : c ≠ '/') :
    names s ≠ [] := by
  obtain ⟨piece, hp, hne⟩ := exists_piece_ne_nil hslash hc
  have hmem : String.ofList piece ∈ names s := by
    simp only [names, List.mem_filter, List.mem_map]
    exact ⟨⟨piece, hp, rfl⟩, by simpa [String.ofList_eq_empty_iff] using hne⟩
  exact List.ne_nil_of_mem hmem

theorem names_slash_append (x : String) : names ("/" ++ x) = names x := by
  simpa [names_empty] using names_append_slash "" x

theorem names_entry_slash_append {q : String} (hq : IsEntryName q) (x : String) :
    names (q ++ "/" ++ x) = q :: names x := by
  rw [names_append_slash, names_of_entryName hq, List.singleton_append]

/-- A text that starts with a slash and does not end with one: its characters after the first. -/
theorem exists_tail_of_absolute {h : String} (habs : h.toList.head? = some '/')
    (hend : h.toList.getLast? ≠ some '/') : ∃ t, t ≠ [] ∧ h.toList = '/' :: t := by
  cases hl : h.toList with
  | nil => simp [hl] at habs
  | cons c t =>
    rw [hl, List.head?_cons, Option.some.injEq] at habs
    subst habs
    refine ⟨t, ?_, rfl⟩
    rintro rfl
    simp [hl] at hend

/-- A prefix of the text of `q` followed by more names either ends inside `q` or runs on past the
slash that starts the next name. -/
theorem prefix_joined_cons_cases {q : String} {Q : Path} {t : List Char}
    (ht : ('/' :: t) <+: (Path.joined (q :: Q)).toList) :
    t <+: q.toList ∨ ∃ t2, t = q.toList ++ '/' :: t2 ∧ ('/' :: t2) <+: (Path.joined Q).toList := by
  rw [Path.joined_cons, String.toList_append, String.toList_append] at ht
  simp only [show "/".toList = ['/'] from rfl, List.cons_append, List.cons_prefix_cons, true_and]
    at ht
  obtain ⟨u, hu⟩ := List.prefix_iff_exists_eq_append.mp ht
  rcases List.append_eq_append_iff.mp hu with ⟨as, rfl, hJ⟩ | ⟨bs, hqb, -⟩
  · cases as with
    | nil => exact .inl (by simp)
    | cons a t2 =>
      -- what follows `q` is the text of the next name, which starts with its slash
      obtain ⟨n, Q', rfl⟩ : ∃ n Q', Q = n :: Q' := by
        cases Q with
        | nil => simp at hJ
        | cons n Q' => exact ⟨n, Q', rfl⟩
      rw [Path.joined_cons, String.toList_append, String.toList_append] at hJ
      simp only [show "/".toList = ['/'] from rfl, List.cons_append, List.cons.injEq] at hJ
      obtain ⟨rfl, -⟩ := hJ
      refine .inr ⟨t2, rfl, ?_⟩
      rw [Path.joined_cons, String.toList_append, String.toList_append]
      exact List.prefix_iff_exists_eq_append.mpr ⟨u, by simp_all⟩
  · exact .inl ⟨bs, hqb.symm⟩

/-- A text that starts with a slash, does not end with one, and starts the text of a path whose
first names are its own names, is the text of those names. Induction on the path: the text
either ends inside the path's first name, which is then its only name, or runs on past the slash
before the next name, and what follows is a text of the same kind. -/
theorem eq_joined_names_of_prefix :
    ∀ {Q : Path} {h : String}, h.toList.head? = some '/' → h.toList.getLast? ≠ some '/' →
      h.toList <+: (Path.joined Q).toList → names h <+: Q → h = Path.joined (names h)
  | [], h, habs, _, hpre, _ => by
    -- only the empty text starts the empty text
    rw [Path.joined_nil, String.toList_empty, List.prefix_nil] at hpre
    simp [hpre] at habs
  | q :: Q, h, habs, hend, hpre, hnames => by
    obtain ⟨t, htne, ht⟩ := exists_tail_of_absolute habs hend
    -- the last character of `h` is no slash, so `h` has a name, and its first name is `q`
    obtain ⟨c, hc⟩ : ∃ c, h.toList.getLast? = some c :=
      Option.isSome_iff_exists.mp (List.getLast?_isSome.mpr (by simp [ht]))
    have hne : names h ≠ [] :=
      names_ne_nil (List.mem_of_getLast? hc) fun hslash => hend (hslash ▸ hc)
    obtain ⟨N, hN, hNQ⟩ : ∃ N, names h = q :: N ∧ N <+: Q :=
      (List.prefix_cons_iff.mp hnames).resolve_left hne
    have hq : IsEntryName q := entryName_of_mem_names (hN ▸ List.mem_cons_self)
    rcases prefix_joined_cons_cases (ht ▸ hpre) with hin | ⟨t2, rfl, ht2⟩
    · -- `t` ends inside `q`: it is a single name
      have hname : IsEntryName (String.ofList t) :=
        ⟨by simpa using htne, fun hm => hq.2 (hin.subset (by simpa using hm))⟩
      have hh : h = "/" ++ String.ofList t := String.ext (by simp [ht])
      rw [hh, names_slash_append, names_of_entryName hname]
      simp
    · -- `t` runs past `q`: what follows is a text of the same kind, read off the names after `q`
      obtain ⟨h2, hh2⟩ : ∃ h2, h2 = "/" ++ String.ofList t2 := ⟨_, rfl⟩
      have hh2' : h2.toList = '/' :: t2 := by simp [hh2]
      have hsplit : h = "/" ++ q ++ h2 := String.ext (by simp [ht, hh2', String.toList_append])
      have hnames2 : names h = q :: names h2 := by
        rw [hsplit, String.append_assoc, names_slash_append, hh2, ← String.append_assoc,
          names_entry_slash_append hq, names_slash_append]
      have hlast : h2.toList.getLast? = h.toList.getLast? := by
        rw [hsplit, String.toList_append, List.getLast?_append_of_ne_nil _ (by simp [hh2'])]
      have ih := eq_joined_names_of_prefix (by simp [hh2']) (hlast ▸ hend) (by rwa [hh2'])
        (by rw [hN, List.cons.injEq] at hnames2; exact hnames2.2 ▸ hNQ)
      rw [hnames2, Path.joined_cons, ← ih, hsplit]

theorem names_root : names "/" = [] := by
  simpa [names_empty] using names_slash_append ""

theorem head?_of_isAbsolute {h : String} (habs : isAbsolute h = true) :
    h.toList.head? = some '/' := by
  rw [isAbsolute, String.startsWith_string_iff, show "/".toList = ['/'] from rfl,
    List.singleton_prefix_iff_head?_eq_some] at habs
  exact habs

end Fs

/-! ### What the prompt shows -/

/-- The directory `cwd` lies strictly below the directory text `h`, name by name: `h` is
absolute, and its names are followed in `cwd` by at least one more. -/
def Fs.Path.LiesBelow (cwd : Fs.Path) (h : String) : Prop :=
  Fs.isAbsolute h = true ∧ Fs.names h <+: cwd ∧ (Fs.names h).length < cwd.length

instance (cwd : Fs.Path) (h : String) : Decidable (cwd.LiesBelow h) :=
  inferInstanceAs (Decidable (_ ∧ _ ∧ _))

/-- The working directory `cwd` as it reads from the home directory `h`, name by name: `~` for
the home itself, `~/` and the names below the home for a directory strictly below it, and the
directory's own text for any other. -/
def homeRelative (h : String) (cwd : Fs.Path) : String :=
  if cwd.text = h then "~"
  else if cwd.LiesBelow h then "~/" ++ "/".intercalate (cwd.drop (Fs.names h).length)
  else cwd.text

/-- Puts `h` in place of a leading `~`. -/
def expandTilde (h d : String) : String :=
  match d.toList with
  | '~' :: rest => h ++ String.ofList rest
  | _ => d

theorem expandTilde_tilde (h x : String) : expandTilde h ("~" ++ x) = h ++ x := by
  simp [expandTilde, String.toList_append]

theorem expandTilde_of_head {h d : String} (hd : d.toList.head? ≠ some '~') :
    expandTilde h d = d := by
  unfold expandTilde
  split
  · next rest heq => simp [heq] at hd
  · rfl

/-- A text that starts with `~` is no directory's text. -/
theorem ne_text_of_head {x : String} (hx : x.toList.head? = some '~') (p : Fs.Path) :
    x ≠ p.text := by
  obtain ⟨t, ht⟩ := p.text_toList
  rintro rfl
  simp [ht] at hx

theorem tilde_append_ne_text (x : String) (p : Fs.Path) : "~" ++ x ≠ p.text :=
  ne_text_of_head (by simp [String.toList_append]) p

namespace Shell

/-- The home directory is the setting without its trailing slashes, or the root when nothing is
left. -/
theorem home_eq (s : Shell) :
    s.home = if (dropTrailingSlashes s.homeSetting).isEmpty then "/"
      else dropTrailingSlashes s.homeSetting := by
  simp [home, expandHome]

theorem dropTrailingSlashes_getLast (t : String) :
    (dropTrailingSlashes t).toList.getLast? ≠ some '/' := by
  rw [dropTrailingSlashes, String.toList_ofList, List.getLast?_reverse]
  intro h
  have := List.head?_dropWhile_not (fun c => decide (c = '/')) t.toList.reverse
  rw [h] at this
  simp at this

/-- The home directory ends with a slash only when it is the root. -/
theorem home_getLast (s : Shell) (h : s.home ≠ "/") : s.home.toList.getLast? ≠ some '/' := by
  rw [home_eq] at h ⊢
  by_cases hempty : (dropTrailingSlashes s.homeSetting).isEmpty = true
  · rw [if_pos hempty] at h
    exact absurd rfl h
  · rw [if_neg hempty]
    exact dropTrailingSlashes_getLast _

/-- What the prompt shows before ` $ `. -/
def promptDir (s : Shell) : String :=
  if s.cwd.text.startsWith s.home then "~" ++ String.ofList (s.cwd.text.toList.drop s.home.length)
  else s.cwd.text

theorem prompt_eq (s : Shell) : s.prompt = s.promptDir ++ " $ " := rfl

variable (s : Shell)

theorem promptDir_of_startsWith (hp : s.cwd.text.startsWith s.home = true) :
    s.promptDir = "~" ++ String.ofList (s.cwd.text.toList.drop s.home.length) := if_pos hp

theorem promptDir_of_not_startsWith (hp : s.cwd.text.startsWith s.home = false) :
    s.promptDir = s.cwd.text := if_neg (by simp [hp])

/-- Putting the home back in place of the `~` gives the working directory. -/
theorem expandTilde_promptDir : expandTilde s.home s.promptDir = s.cwd.text := by
  cases hp : s.cwd.text.startsWith s.home
  · rw [promptDir_of_not_startsWith s hp]
    obtain ⟨t, ht⟩ := s.cwd.text_toList
    exact expandTilde_of_head (by simp [ht])
  · rw [promptDir_of_startsWith s hp, expandTilde_tilde]
    apply String.ext
    rw [String.toList_append, String.toList_ofList, ← String.length_toList]
    exact List.prefix_iff_eq_append.mp (String.startsWith_string_iff.mp hp)

/-- Below the home by names, what follows the home's text in the directory's text is the text of
the names below the home, unless the home is the root. -/
theorem drop_home_of_liesBelow (hbelow : s.cwd.LiesBelow s.home)
    (hp : s.cwd.text.startsWith s.home = true) (hroot : s.home ≠ "/") :
    String.ofList (s.cwd.text.toList.drop s.home.length) =
      "/" ++ "/".intercalate (s.cwd.drop (Fs.names s.home).length) := by
  obtain ⟨habs, ⟨rel, hrel⟩, hlen⟩ := hbelow
  have hrelne : rel ≠ [] := by
    rintro rfl
    simp [← hrel] at hlen
  have hcwd : s.cwd ≠ [] := by simp [← hrel, hrelne]
  -- the home's text is the text of its names, so the directory's text continues it
  have hhome : s.home = Fs.Path.joined (Fs.names s.home) := by
    refine Fs.eq_joined_names_of_prefix (Fs.head?_of_isAbsolute habs) (s.home_getLast hroot) ?_
      ⟨rel, hrel⟩
    rw [← Fs.Path.text_of_ne_nil hcwd]
    exact String.startsWith_string_iff.mp hp
  have htext : s.cwd.text = s.home ++ Fs.Path.joined rel := by
    rw [Fs.Path.text_of_ne_nil hcwd, ← hrel, Fs.Path.joined_append, ← hhome]
  rw [htext, String.toList_append, ← String.length_toList, List.drop_left, String.ofList_toList,
    ← hrel, List.drop_left, Fs.Path.joined_eq_intercalate hrelne]

/-- With the root as home, a directory other than the root shows as `~` and its names, without
the slash before the first: `/x` shows as `~x`. -/
theorem promptDir_of_root_home (hroot : s.home = "/") (hcwd : s.cwd ≠ []) :
    s.promptDir = "~" ++ "/".intercalate s.cwd := by
  have htext : s.cwd.text = "/" ++ "/".intercalate s.cwd := by
    rw [Fs.Path.text_of_ne_nil hcwd, Fs.Path.joined_eq_intercalate hcwd]
  have hp : s.cwd.text.startsWith s.home = true := by
    rw [hroot, htext, String.startsWith_string_iff, String.toList_append]
    exact List.prefix_append _ _
  rw [promptDir_of_startsWith s hp, hroot, htext, show "/".length = 1 by decide,
    String.toList_append]
  simp only [show "/".toList = ['/'] from rfl, List.singleton_append, List.drop_succ_cons,
    List.drop_zero, String.ofList_toList]

/-- The prompt shows the working directory as it reads from the home by names exactly when the
text test and the names test agree, and the home is not the root unless the working directory is
the root too. -/
theorem promptDir_eq_homeRelative_iff :
    s.promptDir = homeRelative s.home s.cwd ↔
      (s.cwd.text.startsWith s.home = true ↔ s.cwd.text = s.home ∨ s.cwd.LiesBelow s.home) ∧
      (s.home = "/" → s.cwd.text = "/") := by
  by_cases heq : s.cwd.text = s.home
  · -- the home itself shows as `~` both ways
    have hp : s.cwd.text.startsWith s.home = true := by
      rw [heq]
      exact String.startsWith_string_iff.mpr (List.prefix_refl _)
    rw [promptDir_of_startsWith s hp, homeRelative, if_pos heq, ← heq]
    simp [String.length_toList]
  by_cases hbelow : s.cwd.LiesBelow s.home
  · rw [homeRelative, if_neg heq, if_pos hbelow]
    cases hp : s.cwd.text.startsWith s.home
    · -- the text test misses a directory below the home by names
      rw [promptDir_of_not_startsWith s hp]
      have hne : s.cwd.text ≠ "~/" ++ "/".intercalate (s.cwd.drop (Fs.names s.home).length) :=
        Ne.symm (ne_text_of_head (by simp [String.toList_append]) s.cwd)
      simp [hbelow, hne]
    · by_cases hroot : s.home = "/"
      · -- the root as home leaves out the slash before the first name
        have hcwd : s.cwd ≠ [] := by
          have hlen := hbelow.2.2
          rw [hroot, Fs.names_root] at hlen
          exact List.ne_nil_of_length_pos hlen
        have hne : s.promptDir ≠ "~/" ++ "/".intercalate (s.cwd.drop (Fs.names s.home).length) := by
          rw [promptDir_of_root_home s hroot hcwd, hroot, Fs.names_root, List.length_nil,
            List.drop_zero, show "~/" = "~" ++ "/" by decide, String.append_assoc, ne_eq,
            String.append_right_inj]
          intro h
          have hlen := congrArg String.length h
          rw [String.length_append, show "/".length = 1 by decide] at hlen
          omega
        simp only [hne, false_iff, not_and]
        intro _ hc
        exact heq ((hc hroot).trans hroot.symm)
      · rw [promptDir_of_startsWith s hp, drop_home_of_liesBelow s hbelow hp hroot]
        simp [hbelow, hroot, ← String.append_assoc]
  · rw [homeRelative, if_neg heq, if_neg hbelow]
    cases hp : s.cwd.text.startsWith s.home
    · rw [promptDir_of_not_startsWith s hp]
      simp only [heq, hbelow, or_self, Bool.false_eq_true, iff_self, true_and, true_iff]
      -- every directory's text starts with the root's
      intro hroot
      obtain ⟨t, ht⟩ := s.cwd.text_toList
      rw [hroot] at hp
      simp [String.startsWith_string_eq_false_iff, ht] at hp
    · rw [promptDir_of_startsWith s hp]
      simp [heq, hbelow, tilde_append_ne_text]

end Shell

/-- The prompt a reply to a line shows. -/
def Reply.prompt? : Reply → Option String
  | .line p _ _ => some p
  | .exit p _ _ => some p
  | .hang p => some p
  | .matches _ => none

namespace Session

/-- Every line is answered under the prompt of the shell before it. -/
theorem runLine_prompt (ss : Session) (text : String) :
    (ss.runLine text).2.1.prompt? = some ss.shell.prompt := by
  by_cases hblank : Text.trim text = ""
  · rw [(runLine_blank ss text hblank).2.2.2.2]
    rfl
  · rw [runLine_nonblank ss text hblank]
    rcases ss.lineResult text with ⟨shell, w, ending⟩
    cases ending <;> rfl

/-- The prompt shown before a line is the directory it shows and ` $ `; putting the home back in
place of its `~` gives the working directory, and it shows the working directory as it reads
from the home by names exactly when the text test and the names test agree, and the home is not
the root unless the working directory is the root too. -/
theorem line_prompt_abbreviates_home (ss : Session) (text : String) :
    ∃ d, (ss.runLine text).2.1.prompt? = some (d ++ " $ ") ∧
      expandTilde ss.shell.home d = ss.shell.cwd.text ∧
      (d = homeRelative ss.shell.home ss.shell.cwd ↔
        (ss.shell.cwd.text.startsWith ss.shell.home = true ↔
            ss.shell.cwd.text = ss.shell.home ∨ ss.shell.cwd.LiesBelow ss.shell.home) ∧
          (ss.shell.home = "/" → ss.shell.cwd.text = "/")) :=
  ⟨ss.shell.promptDir, by rw [runLine_prompt, Shell.prompt_eq], ss.shell.expandTilde_promptDir,
    ss.shell.promptDir_eq_homeRelative_iff⟩

end Session

/-- A shell whose home is `/r/a`, in the directory `/r/ab` beside it. -/
def besideHomeShell : Shell := ⟨⟨[("HOME", "/r/a")]⟩, ["r", "ab"], 0, [], []⟩

/-- The directory `/r/ab` beside the home `/r/a` shows as `~b`, where by names it reads as
itself. -/
theorem beside_home_shows_tilde :
    besideHomeShell.prompt = "~b $ " ∧
      homeRelative besideHomeShell.home besideHomeShell.cwd = "/r/ab" ∧
      besideHomeShell.prompt ≠ homeRelative besideHomeShell.home besideHomeShell.cwd ++ " $ " := by
  have hprompt : besideHomeShell.prompt = "~b $ " := by
    rw [Shell.prompt]
    cbv
  have hrel : homeRelative besideHomeShell.home besideHomeShell.cwd = "/r/ab" := by
    have hhome : besideHomeShell.home = "/r/a" := by cbv
    have htext : besideHomeShell.cwd.text = "/r/ab" := by cbv
    have hnames : Fs.names "/r/a" = ["r", "a"] := by cbv
    -- by names `/r/a` is no start of `/r/ab`
    have hbelow : ¬ besideHomeShell.cwd.LiesBelow "/r/a" := by
      rintro ⟨-, hpre, -⟩
      rw [hnames] at hpre
      simp [besideHomeShell] at hpre
    rw [homeRelative, hhome, htext, if_neg (by decide), if_neg hbelow]
  refine ⟨hprompt, hrel, ?_⟩
  rw [hprompt, hrel]
  decide

end Conch

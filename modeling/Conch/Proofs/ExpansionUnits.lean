import Mathlib.Data.List.Forall2
import Mathlib.Data.List.TakeWhile
import Conch.Proofs.Expansion
/-!
# A word read as units of expansion

Expansion reads a word left to right in units (`Atom`): `$?`; a dollar sign with the longest run
of name characters after it, which may be empty; or one character other than the dollar sign.
`ReadsAs atoms cs` says that the units `atoms`, written one after another, spell `cs`, each read
as far as the rules let it go: a name stops only at a character that cannot continue it, and a
dollar sign followed by `?` is always `$?`. Every word is read so in exactly one way
(`exists_readsAs`, `readsAs_unique`), and its expansion is the values of its units in order
(`expandChars_of_readsAs`): the text of the last status for `$?`, the value of the variable for
a name, or the empty text when it is not set, and the character itself otherwise.

Values are put in as they are and never read again. So when neither the status nor any value
holds a dollar sign, no expanded word does (`dollar_not_mem_expandWord`), and expanding a second
time changes nothing.

Main statement: `expand_reads_units`.
-/

namespace Conch.Word

/-- A unit of a word as expansion reads it. -/
inductive Atom
  /-- `$?`. -/
  | status
  /-- A dollar sign and the name after it, possibly empty. -/
  | lookup (name : List Char)
  /-- A character other than the dollar sign. -/
  | literal (c : Char)
  deriving DecidableEq, Repr

namespace Atom

/-- How a unit is written. -/
def text : Atom → List Char
  | status => ['$', '?']
  | lookup name => '$' :: name
  | literal c => [c]

/-- What a unit expands to, given the environment and the text of the last status. -/
def value (env : Env) (status : String) : Atom → List Char
  | .status => status.toList
  | lookup name => (env.find (String.ofList name)).toList
  | literal c => [c]

end Atom

/-- `atoms` are the units of `cs`, read from the left, each as long as the rules allow. -/
inductive ReadsAs : List Atom → List Char → Prop
  | nil : ReadsAs [] []
  | status {atoms : List Atom} {rest : List Char} :
      ReadsAs atoms rest → ReadsAs (.status :: atoms) ('$' :: '?' :: rest)
  /-- A name is every name character up to the next character that is none, and a dollar sign
  followed by `?` is no name. -/
  | lookup {atoms : List Atom} {name rest : List Char} :
      (∀ c ∈ name, isNameChar c = true) → (∀ c ∈ rest.head?, isNameChar c = false) →
      (name ++ rest).head? ≠ some '?' →
      ReadsAs atoms rest → ReadsAs (.lookup name :: atoms) ('$' :: (name ++ rest))
  | literal {atoms : List Atom} {c : Char} {rest : List Char} :
      c ≠ '$' → ReadsAs atoms rest → ReadsAs (.literal c :: atoms) (c :: rest)

/-! ### Reading a word -/

/-- The units of a reading spell the word. -/
theorem flatMap_text_of_readsAs {atoms : List Atom} {cs : List Char} (h : ReadsAs atoms cs) :
    atoms.flatMap Atom.text = cs := by
  induction h with
  | nil => rfl
  | status _ ih => simp [Atom.text, ih]
  | lookup _ _ _ _ ih => simp [Atom.text, ih]
  | literal _ _ ih => simp [Atom.text, ih]

/-- Every word has a reading; it is found along the recursion of the expander itself. -/
theorem exists_readsAs (cs : List Char) : ∃ atoms, ReadsAs atoms cs := by
  induction cs using expandChars.induct with
  | case1 => exact ⟨[], .nil⟩
  | case2 rest ih =>
    obtain ⟨atoms, h⟩ := ih
    exact ⟨_, .status h⟩
  | case3 rest hrest ih =>
    obtain ⟨atoms, h⟩ := ih
    -- the name is the run of name characters after the dollar sign, cut where it stops
    have hsplit : rest = rest.takeWhile isNameChar ++ rest.dropWhile isNameChar :=
      (List.takeWhile_append_dropWhile).symm
    have hchars : ∀ c ∈ rest.takeWhile isNameChar, isNameChar c = true :=
      fun c hc => List.mem_takeWhile_imp hc
    have hstop : ∀ c ∈ (rest.dropWhile isNameChar).head?, isNameChar c = false := by
      intro c hc
      have hnot := List.head?_dropWhile_not isNameChar rest
      rw [Option.mem_def.mp hc] at hnot
      exact hnot
    have hhead : (rest.takeWhile isNameChar ++ rest.dropWhile isNameChar).head? ≠ some '?' := by
      rw [← hsplit]
      intro h
      obtain ⟨rest', rfl⟩ : ∃ rest', rest = '?' :: rest' := by
        cases rest with
        | nil => cases h
        | cons d rest' => exact ⟨rest', by simpa using h⟩
      exact hrest rest' rfl
    have hread := ReadsAs.lookup hchars hstop hhead h
    rw [← hsplit] at hread
    exact ⟨_, hread⟩
  | case4 c rest _ hc ih =>
    obtain ⟨atoms, h⟩ := ih
    exact ⟨_, .literal hc h⟩

/-- A word is read in one way only: at each point the characters ahead decide the unit. -/
theorem readsAs_unique {atoms atoms' : List Atom} {cs : List Char} (h : ReadsAs atoms cs)
    (h' : ReadsAs atoms' cs) : atoms' = atoms := by
  induction h generalizing atoms' with
  | nil =>
    cases h'
    rfl
  | @status atoms rest _ ih =>
    generalize hcs : '$' :: '?' :: rest = cs at h'
    cases h' with
    | nil => cases hcs
    | status h' =>
      simp only [List.cons.injEq, true_and] at hcs
      subst hcs
      rw [ih h']
    | lookup _ _ hq _ =>
      simp only [List.cons.injEq, true_and] at hcs
      exact absurd (by rw [← hcs]; rfl) hq
    | literal hc _ =>
      simp only [List.cons.injEq] at hcs
      exact absurd hcs.1.symm hc
  | @lookup atoms name rest hchars hstop hq _ ih =>
    generalize hcs : '$' :: (name ++ rest) = cs at h'
    cases h' with
    | nil => cases hcs
    | status h' =>
      simp only [List.cons.injEq, true_and] at hcs
      exact absurd (by rw [hcs]; rfl) hq
    | @lookup atoms' name' rest' hchars' hstop' _ h' =>
      simp only [List.cons.injEq, true_and] at hcs
      -- both names are the run of name characters the word starts with
      have hname : name' = name := by
        rw [← takeWhile_append_of_stop hchars hstop, hcs, takeWhile_append_of_stop hchars' hstop']
      subst hname
      obtain rfl := List.append_cancel_left hcs
      rw [ih h']
    | literal hc _ =>
      simp only [List.cons.injEq] at hcs
      exact absurd hcs.1.symm hc
  | @literal atoms c rest hc _ ih =>
    generalize hcs : c :: rest = cs at h'
    cases h' with
    | nil => cases hcs
    | status _ =>
      simp only [List.cons.injEq] at hcs
      exact absurd hcs.1 hc
    | lookup _ _ _ _ =>
      simp only [List.cons.injEq] at hcs
      exact absurd hcs.1 hc
    | literal _ h' =>
      simp only [List.cons.injEq] at hcs
      obtain ⟨rfl, rfl⟩ := hcs
      rw [ih h']

/-! ### Expanding a reading -/

variable (env : Env) (status : String)

/-- A word expands to the values of its units, one after another. -/
theorem expandChars_of_readsAs {atoms : List Atom} {cs : List Char} (h : ReadsAs atoms cs) :
    expandChars env status cs = atoms.flatMap (Atom.value env status) := by
  induction h with
  | nil => exact expandChars.eq_1 env status
  | status _ ih => rw [expandChars_status, ih, List.flatMap_cons, Atom.value]
  | lookup hchars hstop hq _ ih =>
    rw [expandChars_variable env status hchars _ hstop hq, ih, List.flatMap_cons, Atom.value]
  | literal hc _ ih => rw [expandChars_other env status hc, ih, List.flatMap_cons, Atom.value]; rfl

/-- With no variable of the empty name, a dollar sign followed by no name expands to nothing. -/
theorem value_lookup_nil (hempty : env.get? "" = none) : Atom.value env status (.lookup []) = [] := by
  simp [Atom.value, Env.find, hempty]

/-! ### Values are never read again -/

section Clean

variable {env status}

/-- When neither the status nor any value holds a dollar sign, no expansion does. -/
theorem dollar_not_mem_expandChars (hvalues : ∀ k v, env.get? k = some v → '$' ∉ v.toList)
    (hstatus : '$' ∉ status.toList) (cs : List Char) : '$' ∉ expandChars env status cs := by
  fun_induction expandChars env status cs with
  | case1 => simp
  | case2 rest ih => simp [hstatus, ih]
  | case3 rest _ ih =>
    -- the value of a name is a value of the environment or the empty text
    have hfind : '$' ∉ (env.find (String.ofList (rest.takeWhile isNameChar))).toList := by
      unfold Env.find
      cases hget : env.get? (String.ofList (rest.takeWhile isNameChar)) with
      | none => simp
      | some v => exact hvalues _ v hget
    simp [hfind, ih]
  | case4 c rest _ hc ih => simp [Ne.symm hc, ih]

theorem dollar_not_mem_expandWord (hvalues : ∀ k v, env.get? k = some v → '$' ∉ v.toList)
    (hstatus : '$' ∉ status.toList) (w : String) : '$' ∉ (expandWord env status w).toList := by
  rw [expandWord_eq, String.toList_ofList]
  exact dollar_not_mem_expandChars hvalues hstatus w.toList

end Clean

/-- Expansion reads each word in units, one word for one: a word without a dollar sign is left
as it is, and every word is read in exactly one way as units that spell it, its expansion being
their values one after another, with the empty text for a dollar sign followed by no name when no
variable has the empty name. Values are put in as they are: when neither the status nor any value
holds a dollar sign, no expanded word does, and expanding again changes nothing. -/
theorem expand_reads_units (hempty : env.get? "" = none) (ws : List String) :
    List.Forall₂ (fun w w' => ('$' ∉ w.toList → w' = w) ∧
      ∃ atoms, ReadsAs atoms w.toList ∧ atoms.flatMap Atom.text = w.toList ∧
        (∀ atoms', ReadsAs atoms' w.toList → atoms' = atoms) ∧
        w' = String.ofList (atoms.flatMap (Atom.value env status))) ws (expand env status ws) ∧
    Atom.value env status (.lookup []) = [] ∧
    ((∀ k v, env.get? k = some v → '$' ∉ v.toList) → '$' ∉ status.toList →
      (∀ w ∈ expand env status ws, '$' ∉ w.toList) ∧
      expand env status (expand env status ws) = expand env status ws) := by
  refine ⟨?_, value_lookup_nil env status hempty, fun hvalues hstatus => ?_⟩
  · rw [expand, List.forall₂_map_right_iff, List.forall₂_same]
    intro w _
    obtain ⟨atoms, hread⟩ := exists_readsAs w.toList
    refine ⟨expandWord_of_not_mem env status w, atoms, hread, flatMap_text_of_readsAs hread,
      fun atoms' h' => readsAs_unique hread h', ?_⟩
    rw [expandWord_eq, expandChars_of_readsAs env status hread]
  · have hclean : ∀ w ∈ expand env status ws, '$' ∉ w.toList := by
      intro w hw
      obtain ⟨w₀, -, rfl⟩ := List.mem_map.mp hw
      exact dollar_not_mem_expandWord hvalues hstatus w₀
    refine ⟨hclean, ?_⟩
    -- every expanded word is left as it is by a second expansion
    conv_rhs => rw [← List.map_id (expand env status ws)]
    exact List.map_congr_left fun w hw => expandWord_of_not_mem env status w (hclean w hw)

/-- `$$A` with `A` set to `alpha`: no variable has the empty name, the word is read only as a
dollar sign with no name followed by `$A`, and it expands to `alpha`. -/
theorem dollar_dollar_name_units :
    (Env.ofList [("A", "alpha")]).get? "" = none ∧
    (∀ atoms, ReadsAs atoms "$$A".toList → atoms = [.lookup [], .lookup ['A']]) ∧
    expand (Env.ofList [("A", "alpha")]) "0" ["$$A"] = ["alpha"] := by
  have hempty : (Env.ofList [("A", "alpha")]).get? "" = none := by decide
  have hchars : "$$A".toList = '$' :: ([] ++ '$' :: (['A'] ++ [])) := by simp
  have hA : isNameChar 'A' = true := by decide
  have hread : ReadsAs [.lookup [], .lookup ['A']] "$$A".toList := by
    rw [hchars]
    refine .lookup (by simp) (by simp [isNameChar_dollar]) (by simp)
      (.lookup (by simp [hA]) (by simp) (by simp) .nil)
  obtain ⟨hunits, -, -⟩ := expand_reads_units (Env.ofList [("A", "alpha")]) "0" hempty ["$$A"]
  obtain ⟨⟨-, atoms, -, -, hunique, hvalue⟩, -⟩ := List.forall₂_cons.mp hunits
  have hatoms : [Atom.lookup [], .lookup ['A']] = atoms := hunique _ hread
  subst hatoms
  refine ⟨hempty, fun atoms' h' => readsAs_unique hread h', ?_⟩
  rw [expand, List.map_singleton, hvalue]
  decide

end Conch.Word

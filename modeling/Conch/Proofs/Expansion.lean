import Conch.Word.Expand
/-!
# Every dollar sign starts a unit of expansion

`Conch.Word.expand` reads a word in units: `$?`, a dollar sign with the longest run of name
characters after it, or one other character. Since the dollar sign is neither a name character
nor `?`, no unit runs across a later dollar sign, so the expansion of a word cut before a dollar
sign is the expansion of the part before it followed by the expansion of the rest
(`expandChars_append_dollar`). From this the two facts the shell's bookkeeping relies on follow
for a unit anywhere in a word: `$?` gives the text of the last status
(`expandWord_append_status`), and `$NAME`, followed by the end of the word or a character that
cannot continue a name, gives the value of `NAME` (`expandWord_append_name`).
-/

namespace Conch.Word

/-! ### Scanning a name up to a stop -/

theorem takeWhile_append_cons_of_neg {p : Char → Bool} {c : Char} (hc : p c = false)
    (xs ys : List Char) : (xs ++ c :: ys).takeWhile p = xs.takeWhile p := by
  induction xs with
  | nil => simp [hc]
  | cons x xs ih => by_cases hx : p x = true <;> simp [hx, ih]

theorem dropWhile_append_cons_of_neg {p : Char → Bool} {c : Char} (hc : p c = false)
    (xs ys : List Char) : (xs ++ c :: ys).dropWhile p = xs.dropWhile p ++ c :: ys := by
  induction xs with
  | nil => simp [hc]
  | cons x xs ih => by_cases hx : p x = true <;> simp [hx, ih]

/-- A scan that keeps every element of `xs` and stops at the first element of `ys` takes `xs`. -/
theorem takeWhile_append_of_stop {p : Char → Bool} {xs ys : List Char} (hxs : ∀ c ∈ xs, p c = true)
    (hys : ∀ c ∈ ys.head?, p c = false) : (xs ++ ys).takeWhile p = xs := by
  rw [List.takeWhile_append_of_pos hxs]
  cases ys with
  | nil => simp
  | cons c ys => simp [hys c rfl]

/-- What such a scan leaves is `ys`. -/
theorem dropWhile_append_of_stop {p : Char → Bool} {xs ys : List Char} (hxs : ∀ c ∈ xs, p c = true)
    (hys : ∀ c ∈ ys.head?, p c = false) : (xs ++ ys).dropWhile p = ys := by
  rw [List.dropWhile_append_of_pos hxs]
  cases ys with
  | nil => rfl
  | cons c ys => simp [hys c rfl]

theorem isNameChar_dollar : isNameChar '$' = false := by decide

/-! ### Units -/

variable (env : Env) (status : String)

/-- `$?` gives the text of the last status. -/
theorem expandChars_status (rest : List Char) :
    expandChars env status ('$' :: '?' :: rest) = status.toList ++ expandChars env status rest :=
  expandChars.eq_2 env status rest

/-- A dollar sign not followed by `?` gives the value of the longest run of name characters
after it. -/
theorem expandChars_dollar (rest : List Char) (hrest : rest.head? ≠ some '?') :
    expandChars env status ('$' :: rest) =
      (env.find (String.ofList (rest.takeWhile isNameChar))).toList ++
        expandChars env status (rest.dropWhile isNameChar) :=
  expandChars.eq_3 env status rest fun _ h => hrest (by rw [h]; rfl)

/-- Any character but the dollar sign stands for itself. -/
theorem expandChars_other {c : Char} (hc : c ≠ '$') (rest : List Char) :
    expandChars env status (c :: rest) = c :: expandChars env status rest :=
  expandChars.eq_4 env status c rest (fun _ h _ => hc h) hc

/-- The expansion of a word cut just before a dollar sign is the expansion of the part before
the cut followed by the expansion of the part after it. -/
theorem expandChars_append_dollar (pre cs : List Char) :
    expandChars env status (pre ++ '$' :: cs) =
      expandChars env status pre ++ expandChars env status ('$' :: cs) := by
  fun_induction expandChars env status pre with
  | case1 => rfl
  | case2 rest ih =>
    rw [List.cons_append, List.cons_append, expandChars_status, ih, List.append_assoc]
  | case3 rest hrest ih =>
    -- the name after the dollar sign stops at the dollar sign of the cut at the latest
    have hhead : (rest ++ '$' :: cs).head? ≠ some '?' := by
      cases rest with
      | nil => simp
      | cons c rest => simpa using hrest rest
    rw [List.cons_append, expandChars_dollar env status _ hhead,
      takeWhile_append_cons_of_neg isNameChar_dollar,
      dropWhile_append_cons_of_neg isNameChar_dollar, ih, List.append_assoc]
  | case4 c rest _ hc ih =>
    simp only [List.cons_append, expandChars_other env status hc, ih]

/-- A text without a dollar sign expands to itself. -/
theorem expandChars_of_not_mem (cs : List Char) (hcs : '$' ∉ cs) :
    expandChars env status cs = cs := by
  induction cs with
  | nil => exact expandChars.eq_1 env status
  | cons c cs ih =>
    have hc : c ≠ '$' := fun h => hcs (h ▸ List.mem_cons_self)
    rw [expandChars_other env status hc, ih fun h => hcs (List.mem_cons_of_mem c h)]

/-- The check for a dollar sign that `expandWord` makes first changes nothing: a word expands
to the expansion of its characters. -/
theorem expandWord_eq (w : String) :
    expandWord env status w = String.ofList (expandChars env status w.toList) := by
  unfold expandWord
  split
  · rfl
  · next hno =>
    have hnot : '$' ∉ w.toList := by simpa [String.contains_char_eq] using hno
    rw [expandChars_of_not_mem env status _ hnot, String.ofList_toList]

/-- A word without a dollar sign is left as it is. -/
theorem expandWord_of_not_mem (w : String) (hw : '$' ∉ w.toList) : expandWord env status w = w := by
  rw [expandWord_eq, expandChars_of_not_mem env status _ hw, String.ofList_toList]

/-- A dollar sign, a run of name characters that is not followed by another one, and no `?` right
after the dollar sign: the unit gives the value of the name, which is empty when the run is. -/
theorem expandChars_variable {name : List Char} (hchars : ∀ c ∈ name, isNameChar c = true)
    (post : List Char) (hpost : ∀ c ∈ post.head?, isNameChar c = false)
    (hhead : (name ++ post).head? ≠ some '?') :
    expandChars env status ('$' :: (name ++ post)) =
      (env.find (String.ofList name)).toList ++ expandChars env status post := by
  rw [expandChars_dollar env status _ hhead, takeWhile_append_of_stop hchars hpost,
    dropWhile_append_of_stop hchars hpost]

/-- A dollar sign, a non-empty name, and then a character that cannot continue the name or
nothing: the unit gives the value of the name. -/
theorem expandChars_name {name : List Char} (hname : name ≠ [])
    (hchars : ∀ c ∈ name, isNameChar c = true) (post : List Char)
    (hpost : ∀ c ∈ post.head?, isNameChar c = false) :
    expandChars env status ('$' :: (name ++ post)) =
      (env.find (String.ofList name)).toList ++ expandChars env status post := by
  obtain ⟨c, cs, rfl⟩ := List.exists_cons_of_ne_nil hname
  -- the name starts with a name character, so the unit is no `$?`
  have hhead : ((c :: cs) ++ post).head? ≠ some '?' := by
    intro h
    have hc : c = '?' := by simpa using h
    have hquestion : isNameChar '?' = false := by decide
    rw [← hc, hchars c List.mem_cons_self] at hquestion
    cases hquestion
  exact expandChars_variable env status hchars post hpost hhead

/-- Every `$?` in a word, wherever it stands, expands to the text of the last status. -/
theorem expandWord_append_status (pre post : String) :
    expandWord env status (pre ++ "$?" ++ post) =
      expandWord env status pre ++ status ++ expandWord env status post := by
  have hchars : (pre ++ "$?" ++ post).toList = pre.toList ++ '$' :: '?' :: post.toList := by
    simp [String.toList_append]
  rw [expandWord_eq, expandWord_eq, expandWord_eq, hchars, expandChars_append_dollar,
    expandChars_status, String.ofList_append, String.ofList_append, String.ofList_toList,
    String.append_assoc]

/-- Every `$NAME` in a word, followed by the end of the word or a character that cannot
continue a name, expands to the value of `NAME`, or to nothing when it is not set. -/
theorem expandWord_append_name (pre name post : String) (hname : name ≠ "")
    (hchars : ∀ c ∈ name.toList, isNameChar c = true)
    (hpost : ∀ c ∈ post.toList.head?, isNameChar c = false) :
    expandWord env status (pre ++ "$" ++ name ++ post) =
      expandWord env status pre ++ env.find name ++ expandWord env status post := by
  have hchars' : (pre ++ "$" ++ name ++ post).toList =
      pre.toList ++ '$' :: (name.toList ++ post.toList) := by
    simp [String.toList_append]
  have hne : name.toList ≠ [] := by simpa [String.toList_eq_nil_iff] using hname
  rw [expandWord_eq, expandWord_eq, expandWord_eq, hchars', expandChars_append_dollar,
    expandChars_name env status hne hchars _ hpost, String.ofList_toList, String.ofList_append,
    String.ofList_append, String.ofList_toList, String.append_assoc]

end Conch.Word

/-!
Environments: the variables a shell and its programs see, as a list of name and value pairs in
the order the names were first set. Setting a name that is present changes its value in place;
every name occurs at most once, which `set` and `erase` keep.
-/

namespace Conch

/-- The variables of a shell, in the order their names were first set. -/
structure Env where
  /-- The name and value pairs, each name at most once. -/
  vars : List (String × String)
  deriving DecidableEq, Repr

namespace Env

/-- The environment with no variables. -/
def empty : Env := ⟨[]⟩

/-- The value of a variable, if it is set. -/
def get? (e : Env) (name : String) : Option String := e.vars.lookup name

/-- The value of a variable, or the empty text when it is not set. -/
def find (e : Env) (name : String) : String := (e.get? name).getD ""

/-- Whether a variable is set. -/
def contains (e : Env) (name : String) : Bool := (e.get? name).isSome

/-- Replaces the value of the first pair named `name`, or adds a pair at the end. -/
def setIn (name value : String) : List (String × String) → List (String × String)
  | [] => [(name, value)]
  | (k, v) :: rest => if k = name then (k, value) :: rest else (k, v) :: setIn name value rest

/-- Sets a variable. -/
def set (e : Env) (name value : String) : Env := ⟨setIn name value e.vars⟩

/-- Removes a variable. -/
def erase (e : Env) (name : String) : Env := ⟨e.vars.filter fun p => p.1 != name⟩

/-- The environment holding the given pairs, a later pair for a name replacing an earlier one. -/
def ofList (ps : List (String × String)) : Env := ps.foldl (fun e p => e.set p.1 p.2) empty

theorem get?_setIn_self (name value : String) (vs : List (String × String)) :
    (setIn name value vs).lookup name = some value := by
  induction vs with
  | nil => simp [setIn]
  | cons p rest ih =>
    obtain ⟨k, v⟩ := p
    by_cases h : k = name
    · subst h; simp [setIn]
    · have hne : (name == k) = false := beq_eq_false_iff_ne.2 fun e => h e.symm
      simp [setIn, h, List.lookup_cons, hne, ih]

@[simp] theorem get?_set_self (e : Env) (name value : String) :
    (e.set name value).get? name = some value :=
  get?_setIn_self name value e.vars

theorem get?_setIn_of_ne {name other : String} (value : String) (h : name ≠ other)
    (vs : List (String × String)) : (setIn name value vs).lookup other = vs.lookup other := by
  induction vs with
  | nil =>
    have hne : (other == name) = false := beq_eq_false_iff_ne.2 fun e => h e.symm
    simp [setIn, List.lookup_cons, List.lookup_nil, hne]
  | cons p rest ih =>
    obtain ⟨k, v⟩ := p
    by_cases hk : k = name
    · subst hk
      have hne : (other == k) = false := beq_eq_false_iff_ne.2 fun e => h e.symm
      simp [setIn, List.lookup_cons, hne]
    · by_cases ho : other = k
      · subst ho
        simp [setIn, hk]
      · have hne : (other == k) = false := beq_eq_false_iff_ne.2 ho
        simp [setIn, hk, List.lookup_cons, hne, ih]

/-- Setting one variable leaves every other one as it was. -/
theorem get?_set_of_ne (e : Env) {name other : String} (value : String) (h : name ≠ other) :
    (e.set name value).get? other = e.get? other :=
  get?_setIn_of_ne value h e.vars

theorem lookup_filter_ne (name other : String) (vs : List (String × String)) :
    (vs.filter fun p => p.1 != name).lookup other =
      if other = name then none else vs.lookup other := by
  induction vs with
  | nil => simp [List.lookup_nil]
  | cons p rest ih =>
    obtain ⟨k, v⟩ := p
    by_cases hk : k = name
    · subst hk
      simp only [List.filter_cons, bne_self_eq_false, Bool.false_eq_true, ite_false, ih]
      by_cases ho : other = k
      · simp [ho]
      · have hne : (other == k) = false := beq_eq_false_iff_ne.2 ho
        simp [ho, List.lookup_cons, hne]
    · have hkb : (k != name) = true := bne_iff_ne.2 hk
      simp only [List.filter_cons, hkb, ite_true, List.lookup_cons, ih]
      by_cases ho : other = name
      · subst ho
        have hne : (other == k) = false := beq_eq_false_iff_ne.2 fun e => hk e.symm
        simp [hne]
      · simp [ho]

/-- Removing a variable unsets it and leaves every other one as it was. -/
theorem get?_erase (e : Env) (name other : String) :
    (e.erase name).get? other = if other = name then none else e.get? other :=
  lookup_filter_ne name other e.vars

end Env

end Conch

import Mathlib
import Conch.Fs.Proofs.Entries
/-!
# What the changes of a tree keep

A tree changes in three ways: `Tree.put` replaces the node at a path that is there and adds one
that is not (`get?_put_self`, `get?_put_of_ne`); opening a file for writing and writing into one
put a file only where the tree held a file or nothing (`openWrite_file`, `writeAt_end`); and
removal takes a node away with everything below it. So opening and writing keep every directory
(`isDirAt_of_openWrite`, `isDirAt_writeAt`).

A tree is sound when it holds each path once and names every entry with an entry name
(`Tree.Sound`), and every change keeps it sound: `Sound.put` for a path of entry names,
`Sound.makeDirs`, `Sound.add`, `Sound.writeAt`, `Sound.erase`, `Sound.removeDir` and
`Sound.openWrite`. Opening may make a new file below the directory its path text resolves to;
that directory is a path of entry names when the working directory the text is read from is one
(`walk_absent_entryNames`), since every name of a path text is an entry name
(`entryName_of_mem_names`).
-/

namespace Conch

/-- No piece of a split holds the element it was split at. -/
theorem not_mem_of_mem_splitOn {a : Char} :
    ∀ {xs piece : List Char}, piece ∈ xs.splitOn a → a ∉ piece
  | [], piece, h => by
    rw [List.splitOn_nil, List.mem_singleton] at h
    subst h
    simp
  | x :: xs, piece, h => by
    rw [List.splitOn_cons_eq_if_modifyHead] at h
    split at h
    · -- the element cuts: a new empty piece starts
      rcases List.mem_cons.mp h with rfl | h
      · simp
      · exact not_mem_of_mem_splitOn h
    · -- any other element joins the first piece
      next hx =>
      obtain ⟨first, rest, hsplit⟩ := List.exists_cons_of_ne_nil (List.splitOn_ne_nil a xs)
      rw [hsplit, List.modifyHead_cons] at h
      rcases List.mem_cons.mp h with rfl | h
      · intro hmem
        rcases List.mem_cons.mp hmem with rfl | hmem
        · simp at hx
        · exact not_mem_of_mem_splitOn (hsplit ▸ List.mem_cons_self) hmem
      · exact not_mem_of_mem_splitOn (hsplit ▸ List.mem_cons_of_mem first h)

namespace Fs

theorem entryName_of_mem_names {s n : String} (h : n ∈ names s) : IsEntryName n := by
  simp only [names, List.mem_filter, List.mem_map] at h
  obtain ⟨⟨piece, hp, rfl⟩, hne⟩ := h
  exact ⟨by simpa using hne, by simpa using not_mem_of_mem_splitOn hp⟩

/-- A path all of whose names are entry names. -/
def IsEntryPath (p : Path) : Prop := ∀ n ∈ p, IsEntryName n

theorem IsEntryPath.dropLast {p : Path} (hp : IsEntryPath p) : IsEntryPath p.dropLast :=
  fun n hn => hp n (List.mem_of_mem_dropLast hn)

theorem IsEntryPath.take {p : Path} (hp : IsEntryPath p) (k : Nat) : IsEntryPath (p.take k) :=
  fun n hn => hp n (List.mem_of_mem_take hn)

theorem IsEntryPath.append {p : Path} {name : String} (hp : IsEntryPath p)
    (hname : IsEntryName name) : IsEntryPath (p ++ [name]) := by
  intro n hn
  rcases List.mem_append.mp hn with hn | hn
  · exact hp n hn
  · rw [List.mem_singleton.mp hn]
    exact hname

namespace Tree

variable {t : Tree}

/-! ### Replacing and adding a node -/

theorem lookup_map_replace (p : Path) (n : Inode) (nodes : List (Path × Inode)) :
    (nodes.map fun q => if q.1 = p then (p, n) else q).lookup p =
      if (nodes.lookup p).isSome then some n else none := by
  induction nodes with
  | nil => rfl
  | cons q rest ih =>
    obtain ⟨k, v⟩ := q
    by_cases hk : k = p
    · subst hk
      simp
    · have hne : (p == k) = false := beq_eq_false_iff_ne.2 fun e => hk e.symm
      simp only [List.map_cons, hk, if_false, List.lookup_cons, hne, ih]

theorem lookup_map_replace_of_ne {p q : Path} (hq : q ≠ p) (n : Inode)
    (nodes : List (Path × Inode)) :
    (nodes.map fun r => if r.1 = p then (p, n) else r).lookup q = nodes.lookup q := by
  induction nodes with
  | nil => rfl
  | cons r rest ih =>
    obtain ⟨k, v⟩ := r
    by_cases hk : k = p
    · subst hk
      have hne : (q == k) = false := beq_eq_false_iff_ne.2 hq
      simp [List.lookup_cons, hne, ih]
    · simp only [List.map_cons, hk, if_false, List.lookup_cons, ih]

theorem lookup_append_of_none {p : Path} {nodes : List (Path × Inode)} (h : nodes.lookup p = none)
    (n : Inode) : (nodes ++ [(p, n)]).lookup p = some n := by
  induction nodes with
  | nil => simp
  | cons q rest ih =>
    obtain ⟨k, v⟩ := q
    by_cases hk : p = k
    · subst hk
      simp at h
    · have hne : (p == k) = false := beq_eq_false_iff_ne.2 hk
      simp only [List.lookup_cons, hne] at h
      simp [List.lookup_cons, hne, ih h]

theorem lookup_append_of_ne {p q : Path} (hq : q ≠ p) (n : Inode) (nodes : List (Path × Inode)) :
    (nodes ++ [(p, n)]).lookup q = nodes.lookup q := by
  induction nodes with
  | nil => simp [List.lookup_cons, beq_eq_false_iff_ne.2 hq]
  | cons r rest ih =>
    obtain ⟨k, v⟩ := r
    by_cases hk : q = k
    · subst hk
      simp
    · simp [List.lookup_cons, beq_eq_false_iff_ne.2 hk, ih]

@[simp] theorem get?_put_self (t : Tree) {p : Path} (hp : p ≠ []) (n : Inode) :
    (t.put p n).get? p = some n := by
  cases p with
  | nil => exact absurd rfl hp
  | cons name rest =>
    show (t.put (name :: rest) n).nodes.lookup (name :: rest) = some n
    unfold put
    split
    · next hsome => rw [lookup_map_replace, if_pos hsome]
    · next hnone => exact lookup_append_of_none (Option.not_isSome_iff_eq_none.mp hnone) n

/-- Putting a node changes no other path. -/
theorem get?_put_of_ne (t : Tree) {p q : Path} (hq : q ≠ p) (n : Inode) :
    (t.put p n).get? q = t.get? q := by
  cases q with
  | nil => rfl
  | cons name rest =>
    show (t.put p n).nodes.lookup (name :: rest) = t.nodes.lookup (name :: rest)
    unfold put
    split
    · exact lookup_map_replace_of_ne hq n t.nodes
    · exact lookup_append_of_ne hq n t.nodes

theorem ne_nil_of_get?_file {p : Path} {d : List UInt8} {x : Bool}
    (h : t.get? p = some (.file d x)) : p ≠ [] := by
  rintro rfl
  cases h

theorem data_of_get? {p : Path} {d : List UInt8} {x : Bool}
    (h : t.get? p = some (.file d x)) : t.data p = d := by
  simp [data, h]

/-! ### Where a resolution leads -/

/-- What a resolution found agrees with the tree: a node other than a directory is there, and a
missing last name is missing. (A directory may be the working directory the walk started from,
which the tree need not hold.) -/
def Spot.Agrees (t : Tree) : Spot → Prop
  | .node p n => n ≠ .dir → t.get? p = some n
  | .absent dir name _ => t.get? (dir ++ [name]) = none
  | .notDir p n => t.get? p = some n

/-- Whatever a walk finds agrees with the tree. -/
theorem walk_agrees (t : Tree) (follow mustDir : Bool) (links : Nat) (dir : Path)
    (names : List String) :
    match t.walk follow mustDir links dir names with
    | .ok spot => Spot.Agrees t spot
    | .error _ => True := by
  -- one case per step of the walk; a step that goes on is the induction hypothesis
  fun_induction t.walk follow mustDir links dir names <;> simp_all +zetaDelta [Spot.Agrees]

theorem resolve_agrees {cwd : Path} {text : String} {follow : Bool} {spot : Spot}
    (h : t.resolve cwd text follow = .ok spot) : Spot.Agrees t spot := by
  unfold resolve at h
  split at h
  · cases h
  split at h
  · cases h
  split at h
  · cases h
  have hwalk := walk_agrees t follow (text.endsWith "/") maxLinks
    (if isAbsolute text then [] else cwd) (names text)
  rw [h] at hwalk
  exact hwalk

/-- A walk from a path of entry names, through entry names, finds a missing name below a path
of entry names. -/
theorem walk_absent_entryNames (t : Tree) (follow mustDir : Bool) (links : Nat) (dir : Path)
    (rest : List String) :
    IsEntryPath dir → (∀ n ∈ rest, IsEntryName n) →
    match t.walk follow mustDir links dir rest with
    | .ok (.absent d name _) => IsEntryPath (d ++ [name])
    | _ => True := by
  -- the walk goes below a name of the list, up to a parent, or to a link's names: each keeps
  -- the directory and the names left entry names
  fun_induction t.walk follow mustDir links dir rest
  case case4 ih =>
    -- `..`: up to the parent
    intro hdir hrest
    exact ih hdir.dropLast fun n hn => hrest n (List.mem_cons_of_mem _ hn)
  case case6 =>
    -- the missing name, below the directory reached
    intro hdir hrest
    exact hdir.append (hrest _ List.mem_cons_self)
  case case8 ih =>
    -- down into a directory
    intro hdir hrest
    exact ih (hdir.append (hrest _ List.mem_cons_self))
      fun n hn => hrest n (List.mem_cons_of_mem _ hn)
  case case18 ih =>
    -- through a link: from the root or the same directory, on the link's names
    intro hdir hrest
    refine ih ?_ fun n hn => (List.mem_append.mp hn).elim entryName_of_mem_names
      fun h => hrest n (List.mem_cons_of_mem _ h)
    split
    · exact fun n hn => absurd hn List.not_mem_nil
    · exact hdir
  all_goals simp_all

theorem resolve_absent_entryPath {cwd : Path} (hcwd : IsEntryPath cwd) {text : String}
    {follow : Bool} {dir : Path} {name : String} {slash : Bool}
    (h : t.resolve cwd text follow = .ok (.absent dir name slash)) : IsEntryPath (dir ++ [name]) := by
  unfold resolve at h
  split at h
  · cases h
  split at h
  · cases h
  split at h
  · cases h
  have hfrom : IsEntryPath (if isAbsolute text then [] else cwd) := by
    split
    · exact fun n hn => absurd hn List.not_mem_nil
    · exact hcwd
  have hwalk := walk_absent_entryNames t follow (text.endsWith "/") maxLinks _ (names text) hfrom
    fun n hn => entryName_of_mem_names hn
  rw [h] at hwalk
  exact hwalk

/-! ### Opening and writing files -/

/-- Opening a file for writing leaves a file at the path it resolves to, emptied unless
appending and created empty when it was missing; or the path is the null device, which stays
as it is. -/
theorem openWrite_file {t t' : Tree} {cwd : Path} {text : String} {append : Bool} {p : Path}
    (h : t.openWrite cwd text append = .ok (t', p)) :
    (t.get? p = some .sink ∧ t' = t) ∨
      ∃ x, t'.get? p = some (.file (if append then t.data p else []) x) := by
  unfold openWrite at h
  split at h
  · -- an existing file that may be written
    next p' d x hres =>
    have hget : t.get? p' = some (.file d x) := resolve_agrees hres (by simp)
    split at h
    · cases h
      refine .inr ⟨x, ?_⟩
      cases append with
      | false => simp [get?_put_self _ (ne_nil_of_get?_file hget)]
      | true => simp [hget, data_of_get? hget]
    · cases h
  · -- the null device
    next p' hres =>
    split at h
    · cases h
      exact .inl ⟨resolve_agrees hres (by simp), rfl⟩
    · cases h
  · cases h
  · -- a missing name in a directory that may be written: created empty
    next dir name slash hres =>
    split at h
    · cases h
    · split at h
      · cases h
        have hnone : t.get? (dir ++ [name]) = none := resolve_agrees hres
        refine .inr ⟨false, ?_⟩
        simp [data, hnone, get?_put_self]
      · cases h
  · cases h
  · cases h

/-- Writing at the end of a file adds the bytes after its contents. -/
theorem writeAt_end {p : Path} {d : List UInt8} {x : Bool}
    (h : t.get? p = some (.file d x)) (bytes : List UInt8) :
    (t.writeAt p d.length bytes).1.get? p = some (.file (d ++ bytes) x) := by
  unfold writeAt
  rw [h]
  simp [get?_put_self _ (ne_nil_of_get?_file h)]

/-! ### Directories stay -/

theorem isDirAt_of_get?_file {p : Path} {d : List UInt8} {x : Bool}
    (h : t.get? p = some (.file d x)) : t.isDirAt p = false := by
  simp [isDirAt, h]

theorem isDirAt_of_get?_none {p : Path} (h : t.get? p = none) : t.isDirAt p = false := by
  simp [isDirAt, h]

/-- Putting a node where there is no directory keeps every directory. -/
theorem isDirAt_put {p q : Path} (hp : t.isDirAt p = false) (n : Inode)
    (hq : t.isDirAt q = true) : (t.put p n).isDirAt q = true := by
  have hne : q ≠ p := by
    rintro rfl
    rw [hp] at hq
    cases hq
  rw [isDirAt, get?_put_of_ne t hne]
  exact hq

theorem isDirAt_of_openWrite {cwd : Path} {text : String} {append : Bool} {t' : Tree}
    {p q : Path} (h : t.openWrite cwd text append = .ok (t', p)) (hq : t.isDirAt q = true) :
    t'.isDirAt q = true := by
  unfold openWrite at h
  split at h
  · -- an existing file, emptied unless appending
    next p' d x hres =>
    have hget : t.get? p' = some (.file d x) := resolve_agrees hres (by simp)
    split at h
    · cases h
      split
      · exact hq
      · exact isDirAt_put (isDirAt_of_get?_file hget) _ hq
    · cases h
  · -- the null device
    split at h
    · cases h
      exact hq
    · cases h
  · cases h
  · -- a new file, where the directory reached has no such name
    next dir name slash hres =>
    split at h
    · cases h
    · split at h
      · cases h
        exact isDirAt_put (isDirAt_of_get?_none (resolve_agrees hres)) _ hq
      · cases h
  · cases h
  · cases h

theorem isDirAt_writeAt {p q : Path} {offset : Nat} {bytes : List UInt8}
    (hq : t.isDirAt q = true) : (t.writeAt p offset bytes).1.isDirAt q = true := by
  unfold writeAt
  split
  · next d x hget => exact isDirAt_put (isDirAt_of_get?_file hget) _ hq
  · exact hq

/-! ### Sound trees stay sound -/

theorem lookup_isSome_iff_mem {p : Path} {nodes : List (Path × Inode)} :
    (nodes.lookup p).isSome ↔ p ∈ nodes.map Prod.fst := by
  rw [List.lookup_isSome_iff, List.mem_map]
  simp only [beq_iff_eq]
  constructor
  · rintro ⟨r, hr, hp⟩
    exact ⟨r, hr, hp.symm⟩
  · rintro ⟨r, hr, hp⟩
    exact ⟨r, hr, hp.symm⟩

theorem keys_map_replace (p : Path) (n : Inode) (nodes : List (Path × Inode)) :
    (nodes.map fun q => if q.1 = p then (p, n) else q).map Prod.fst = nodes.map Prod.fst := by
  rw [List.map_map]
  apply List.map_congr_left
  intro q _
  simp only [Function.comp]
  split
  · next hq => exact hq.symm
  · rfl

/-- A node that a sound tree holds sits at a path of entry names. -/
theorem Sound.isEntryPath_of_get? (ht : t.Sound) {p : Path} {n : Inode} (hp : p ≠ [])
    (h : t.get? p = some n) : IsEntryPath p := by
  have hlookup : t.nodes.lookup p = some n := by
    cases p with
    | nil => exact absurd rfl hp
    | cons name rest => exact h
  exact ht.entryNames p (lookup_isSome_iff_mem.mp (by simp [hlookup]))

theorem Sound.put (ht : t.Sound) {p : Path} (hp : IsEntryPath p) (n : Inode) :
    (t.put p n).Sound := by
  unfold Tree.put
  split
  · -- the path is there: the paths stay as they were
    exact ⟨by simpa only [keys_map_replace] using ht.nodup,
      by simpa only [keys_map_replace] using ht.entryNames⟩
  · -- a new path, after the others
    next hnone =>
    have hfresh : p ∉ t.nodes.map Prod.fst := fun hmem => hnone (lookup_isSome_iff_mem.mpr hmem)
    constructor
    · rw [List.map_append, List.map_singleton]
      exact ht.nodup.append (List.nodup_singleton p) (List.disjoint_singleton.mpr hfresh)
    · intro q hq
      simp only [List.map_append, List.map_cons, List.map_nil, List.mem_append,
        List.mem_singleton] at hq
      rcases hq with hq | rfl
      · exact ht.entryNames q hq
      · exact hp

theorem Sound.makeDirs (ht : t.Sound) {p : Path} (hp : IsEntryPath p) : (t.makeDirs p).Sound := by
  unfold Tree.makeDirs
  -- one directory at a time, each a start of `p`
  generalize List.range p.length = ks
  induction ks generalizing t with
  | nil => exact ht
  | cons k ks ih =>
    rw [List.foldl_cons]
    refine ih ?_
    dsimp only
    split
    · exact ht
    · exact ht.put (hp.take (k + 1)) .dir

theorem Sound.add (ht : t.Sound) {p : Path} (hp : IsEntryPath p) (n : Inode) :
    (t.add p n).Sound :=
  (ht.makeDirs hp.dropLast).put hp n

theorem Sound.writeAt (ht : t.Sound) (p : Path) (offset : Nat) (bytes : List UInt8) :
    (t.writeAt p offset bytes).1.Sound := by
  unfold Tree.writeAt
  split
  · next d x hget => exact ht.put (ht.isEntryPath_of_get? (ne_nil_of_get?_file hget) hget) _
  · exact ht

theorem Sound.erase (ht : t.Sound) (p : Path) : (t.erase p).Sound := by
  have hsub : ((t.erase p).nodes.map Prod.fst).Sublist (t.nodes.map Prod.fst) :=
    (List.filter_sublist (l := t.nodes)).map _
  exact ⟨ht.nodup.sublist hsub, fun q hq => ht.entryNames q (hsub.subset hq)⟩

theorem Sound.removeDir (ht : t.Sound) {cwd : Path} {text : String} {t' : Tree}
    (h : t.removeDir cwd text = .ok t') : t'.Sound := by
  unfold Tree.removeDir at h
  split at h
  · cases h
  -- only an empty directory whose parent may be written is removed
  split at h <;> try cases h
  split at h
  · cases h
  split at h
  · cases h
    exact ht.erase _
  · cases h

/-- Opening a file for writing, from a working directory of entry names, keeps a tree sound. -/
theorem Sound.openWrite (ht : t.Sound) {cwd : Path} (hcwd : IsEntryPath cwd) {text : String}
    {append : Bool} {t' : Tree} {p : Path} (h : t.openWrite cwd text append = .ok (t', p)) :
    t'.Sound := by
  unfold Tree.openWrite at h
  split at h
  · -- an existing file, emptied unless appending
    next p' d x hres =>
    have hget : t.get? p' = some (.file d x) := resolve_agrees hres (by simp)
    split at h
    · cases h
      split
      · exact ht
      · exact ht.put (ht.isEntryPath_of_get? (ne_nil_of_get?_file hget) hget) _
    · cases h
  · split at h
    · cases h
      exact ht
    · cases h
  · cases h
  · -- a new file below the directory reached
    next dir name slash hres =>
    split at h
    · cases h
    · split at h
      · cases h
        exact ht.put (resolve_absent_entryPath hcwd hres) _
      · cases h
  · cases h
  · cases h

end Tree

end Fs

end Conch

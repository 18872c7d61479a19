import Conch.Sh.Pattern
/-!
What becomes of expanded text: fields, pathname expansion and the words `read` reads.

An expanded word is a list of cells. Text written in the word itself is never split; the text
that an unquoted expansion produced lies in a region of its own and is split at the characters
of `IFS`, by these rules: `IFS` white space (space, tab and line feed among the `IFS`
characters) at the start of a field is dropped; a run of white space, with at most one other
`IFS` character in it, ends a field; any other `IFS` character ends a field by itself, so two of
them in a row leave an empty field between them; a field that is empty at the very end is
dropped. The positional parameters of `"$@"` lie in a region that is split only between the
parameters, where every parameter gives a field, empty or not; those of an unquoted `$@` or `$*`
are split as any value is, and between two of them as at white space. A quote in the word keeps the
field it is in even when that field is empty.

Pathname expansion turns a field whose unquoted text holds `*`, `?` or a bracket expression into
the sorted names of the files it matches, component by component; a name starting with `.` is
matched only by a component that starts with `.`. A field that matches nothing stays as it is.
-/

namespace Conch.Sh

/-- A piece of an expanded word. -/
inductive Cell
  /-- A byte written in the word, quoted or not; never split. -/
  | lit (b : UInt8) (quoted : Bool)
  /-- A byte an unquoted expansion produced, in the region numbered `region`. -/
  | loose (b : UInt8) (region : Nat)
  /-- A byte of a parameter of `"$@"`, in the region numbered `region`. -/
  | held (b : UInt8) (region : Nat)
  /-- The boundary between two parameters of `"$@"`. -/
  | sep (region : Nat)
  /-- The boundary between two parameters of an unquoted `$@` or `$*`: it splits as white space
  of `IFS` does, whatever `IFS` holds. -/
  | gap (region : Nat)
  /-- A quote: keeps an empty field. -/
  | mark
  deriving DecidableEq, Repr

namespace Cell

/-- The region of a cell, and whether it is a region of `"$@"`. -/
def region? : Cell → Option (Nat × Bool)
  | loose _ r => some (r, false)
  | held _ r => some (r, true)
  | sep r => some (r, true)
  | gap r => some (r, false)
  | _ => none

/-- The byte of a cell with whether it is quoted; nothing for quotes and boundaries. -/
def marked : Cell → Option (UInt8 × Bool)
  | lit b q => some (b, q)
  | loose b _ => some (b, false)
  | held b _ => some (b, true)
  | _ => none

end Cell

/-- The bytes of cells with their quoting. -/
def markedText (cs : List Cell) : List (UInt8 × Bool) := cs.filterMap Cell.marked

/-- The bytes of cells. -/
def cellBytes (cs : List Cell) : Bytes := (markedText cs).map (·.1)

/-- White space among the `IFS` characters. -/
def isIfsSpace (b : UInt8) : Bool := b == 32 || b == 9 || b == 10

/-- The state of field splitting. -/
structure Splitter where
  /-- The fields made, last first, each with its cells last first. -/
  done : List (List Cell)
  /-- The field being made, last first. -/
  cur : List Cell
  /-- The region of the last cell that had one. -/
  region : Option Nat
  /-- Whether the last field ended at white space. -/
  space : Bool
  /-- Whether the delimiter after a field is still being skipped. -/
  skipping : Bool
  /-- Whether the last region was one of `"$@"`. -/
  lastHeld : Bool

namespace Splitter

/-- Ends the current field. -/
def cut (st : Splitter) : Splitter := { st with done := st.cur :: st.done, cur := [] }

/-- Takes a byte of an unquoted expansion that is not being skipped. -/
def loose (ifs : Bytes) (st : Splitter) (c : Cell) (b : UInt8) : Splitter :=
  if ifs.contains b then
    let space := isIfsSpace b
    if st.cur.isEmpty && space then { st with space := true }
    else { st.cut with space := space, skipping := true }
  else { st with cur := c :: st.cur }

/-- Takes one cell. -/
def step (ifs : Bytes) (st : Splitter) (c : Cell) : Splitter :=
  match c.region? with
  | none => { st with cur := c :: st.cur, skipping := false }
  | some (r, held) =>
    let st := if st.region == some r then st
      else { st with region := some r, space := false, skipping := false, lastHeld := held }
    match c with
    | .loose b _ =>
      if st.skipping then
        if ifs.contains b && isIfsSpace b then st
        else if ifs.contains b && st.space then { st with space := false }
        else loose ifs { st with skipping := false } c b
      else loose ifs st c b
    | .sep _ => st.cut
    | .gap _ =>
      if st.skipping then st
      else if st.cur.isEmpty then { st with space := true }
      else { st.cut with space := true, skipping := true }
    | _ => { st with cur := c :: st.cur }

end Splitter

/-- Splits an expanded word into fields at the characters of `ifs`. -/
def splitFields (ifs : Bytes) (cells : List Cell) : List (List Cell) :=
  let st := cells.foldl (Splitter.step ifs) ⟨[], [], none, false, false, false⟩
  let st := if !st.cur.isEmpty || st.lastHeld then st.cut else st
  (st.done.map List.reverse).reverse

/-- The word an expanded word makes when it is not split: the cells as one field, which is
dropped when it is empty and unquoted. -/
def wholeField (cells : List Cell) : List (List Cell) :=
  if cells.isEmpty then [] else [cells]

/-! ## Reading fields from a line -/

/-- Drops `IFS` white space from the front of marked text; escaped bytes are never `IFS`. -/
def dropIfsSpace (ifs : Bytes) (cs : List (UInt8 × Bool)) : List (UInt8 × Bool) :=
  cs.dropWhile fun (b, esc) => !esc && ifs.contains b && isIfsSpace b

/-- Whether a marked byte is an `IFS` character. -/
def isIfsByte (ifs : Bytes) (c : UInt8 × Bool) : Bool := !c.2 && ifs.contains c.1

/-- Reads one field from the front of a line and the delimiter after it: white space, at most
one other `IFS` character, and white space again. -/
def takeField (ifs : Bytes) (cs : List (UInt8 × Bool)) : Bytes × List (UInt8 × Bool) :=
  let field := cs.takeWhile fun c => !isIfsByte ifs c
  let rest := cs.drop field.length
  let rest := dropIfsSpace ifs rest
  let rest := match rest with
    | c :: more => if isIfsByte ifs c && !isIfsSpace c.1 then dropIfsSpace ifs more else rest
    | [] => []
  (field.map (·.1), rest)

/-- The values `read` gives its `n` variables from a line: one field each, the last variable
taking the rest of the line. The rest loses its trailing `IFS` white space, and when it holds a
single field, the delimiter after that field too. -/
def readFields (ifs : Bytes) (line : List (UInt8 × Bool)) (n : Nat) : List Bytes :=
  go n (dropIfsSpace ifs line)
where
  go : Nat → List (UInt8 × Bool) → List Bytes
    | 0, _ => []
    | 1, rest =>
      let (field, after) := takeField ifs rest
      if after.isEmpty then [field]
      else
        let trimmed := (rest.reverse.dropWhile fun (b, esc) =>
          !esc && ifs.contains b && isIfsSpace b).reverse
        [trimmed.map (·.1)]
    | k + 2, rest =>
      let (field, after) := takeField ifs rest
      field :: go (k + 1) after

/-! ## Pathname expansion -/

/-- Splits marked text at its slashes. -/
def splitSlashes : List (UInt8 × Bool) → List (List (UInt8 × Bool))
  | [] => [[]]
  | c :: rest =>
    let parts := splitSlashes rest
    if c.1 == 47 then [] :: parts
    else match parts with
      | p :: ps => (c :: p) :: ps
      | [] => [[c]]

/-- Whether a byte string comes before another in byte order. -/
def bytesLt : Bytes → Bytes → Bool
  | [], [] => false
  | [], _ :: _ => true
  | _ :: _, [] => false
  | a :: as, b :: bs => a < b || (a == b && bytesLt as bs)

/-- Sorts byte strings in byte order. -/
def sortBytes (xs : List Bytes) : List Bytes := xs.mergeSort fun a b => !bytesLt b a

/-- Whether a component of a pattern holds a wildcard. -/
def isWild (part : List (UInt8 × Bool)) : Bool :=
  (Pattern.ofMarked part).any fun i => match i with
    | .lit _ => false
    | _ => true

/-- The names a directory lists for a pattern component: its entries, and `.` and `..` when
the component starts with `.`. -/
def listFor (t : Fs.Tree) (cwd : Fs.Path) (dir : Bytes) (part : List (UInt8 × Bool)) :
    List Bytes :=
  let dirText := if dir.isEmpty then "." else pathText dir
  match t.listDir cwd dirText with
  | .ok names =>
    let dot := part.head?.map (·.1) == some 46
    let names := names.map utf8
    let names := if dot then [utf8 ".", utf8 ".."] ++ names else names.filter (·.head? != some 46)
    names.filter (Pattern.accepts (Pattern.ofMarked part))
  | .error _ => []

/-- Expands the components `parts` of a pattern after the text `base` already matched. -/
def globParts (t : Fs.Tree) (cwd : Fs.Path) : List (List (UInt8 × Bool)) → Bytes → List Bytes
  | [], base => [base]
  | part :: rest, base =>
    if !(part :: rest).any isWild then
      let text := base ++ List.intercalate [47] ((part :: rest).map fun p => p.map (·.1))
      match t.resolve cwd (pathText text) false with
      | .ok (.node _ _) => [text]
      | _ => []
    else if !isWild part then
      globParts t cwd rest (base ++ part.map (·.1) ++ [47])
    else
      (listFor t cwd base part).flatMap fun name =>
        if rest.isEmpty then [base ++ name] else globParts t cwd rest (base ++ name ++ [47])

/-- The files a field names as a pattern, sorted; nothing when it has no wildcard or matches no
file. -/
def glob (t : Fs.Tree) (cwd : Fs.Path) (field : List (UInt8 × Bool)) : List Bytes :=
  let parts := splitSlashes field
  if !parts.any isWild then []
  else
    let found := match parts with
      | [] :: more@(_ :: _) => globParts t cwd more [47]
      | _ => globParts t cwd parts []
    sortBytes found

/-! ## Removing a pattern from a value -/

/-- The value without its shortest or longest prefix the pattern matches. -/
def removePrefix (pat : Pattern) (longest : Bool) (v : Bytes) : Bytes :=
  let ks := List.range (v.length + 1)
  match (if longest then ks.reverse else ks).find? fun k => Pattern.accepts pat (v.take k) with
  | some k => v.drop k
  | none => v

/-- The value without its shortest or longest suffix the pattern matches. -/
def removeSuffix (pat : Pattern) (longest : Bool) (v : Bytes) : Bytes :=
  let ks := List.range (v.length + 1)
  match (if longest then ks else ks.reverse).find? fun k => Pattern.accepts pat (v.drop k) with
  | some k => v.take k
  | none => v

end Conch.Sh

/-!
Paths.

A resolved path is the list of names from the root of the tree down to a node. A path text is
what users write: names separated by slashes, absolute when it starts with a slash. The text
operations here (`join`, `dirname`, `basename`) work on texts alone and never look at the tree:
`join` keeps an absolute second part as it is, `dirname` is everything before the last slash
with trailing slashes removed unless only slashes are left, and `basename` is everything after
the last slash.
-/

namespace Conch.Fs

/-- A resolved path: the names from the root down. -/
abbrev Path := List String

/-- The text of a resolved path. -/
def Path.text (p : Path) : String :=
  match p with
  | [] => "/"
  | _ => String.join (p.map ("/" ++ ·))

/-- The names of a path text, without the empty ones that doubled slashes leave. -/
def names (s : String) : List String :=
  ((s.toList.splitOn '/').map String.ofList).filter (· ≠ "")

/-- Whether a path text starts at the root. -/
def isAbsolute (s : String) : Bool := s.startsWith "/"

/-- The path text of `b` inside the directory text `a`. -/
def join (a b : String) : String :=
  if isAbsolute b then b
  else if a.isEmpty || a.endsWith "/" then a ++ b
  else a ++ "/" ++ b

/-- Splits a text at its last slash into what comes before it (slash included) and after it. -/
def splitLast (s : String) : List Char × List Char :=
  let cs := s.toList
  let tail := (cs.reverse.takeWhile (· ≠ '/')).reverse
  (cs.take (cs.length - tail.length), tail)

/-- The directory part of a path text. -/
def dirname (s : String) : String :=
  let head := (splitLast s).1
  if head.all (· = '/') then String.ofList head
  else String.ofList (head.reverse.dropWhile (· = '/')).reverse

/-- The last name of a path text. -/
def basename (s : String) : String := String.ofList (splitLast s).2

example : join "a" "b" = "a/b" ∧ join "a/" "b" = "a/b" ∧ join "a" "/b" = "/b" := by decide +kernel
example : dirname "a/b" = "a" ∧ dirname "/x" = "/" ∧ dirname "x" = "" ∧ dirname "a//b" = "a" := by
  decide +kernel
example : basename "a/b" = "b" ∧ basename "d/" = "" := by decide +kernel

end Conch.Fs

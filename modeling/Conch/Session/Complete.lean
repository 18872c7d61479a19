import Conch.Session.Builtin
/-!
Tab completion.

At the start of a line the candidates are command names: the shell's own commands and the
executable files of the directories of `PATH`, each name once, sorted. Elsewhere they are paths:
the text's directory part (the working directory when there is none) is listed, and every entry
that starts with the text's last name gives the directory part joined with the entry; an empty
text stands for `.`, so it offers the hidden entries. Candidates are sorted by code point, and a
candidate that names a directory gets a trailing `/`.
-/

namespace Conch

namespace Complete

/-- The command names that start with `text`. -/
def commands (s : Shell) (w : World) (text : String) : List String :=
  let dirs := ((s.env.get? "PATH").getD "").splitOn ":"
  let found := dirs.flatMap fun d =>
    if w.tree.isDir s.cwd d then
      match w.tree.listDir s.cwd d with
      | .ok names =>
        names.filter fun f =>
          w.tree.isFile s.cwd (Fs.join d f) && w.tree.isExecutableFile s.cwd (Fs.join d f)
      | .error _ => []
    else []
  Builtin.sortTexts ((builtinNames ++ found).eraseDups.filter (·.startsWith text))

/-- The directory path completion lists: the text's directory part, or `.` when it has none. -/
def listedDir (text : String) : String :=
  match Fs.dirname text with
  | "" => "."
  | d => d

/-- The paths that extend the last name of `text`. -/
def paths (s : Shell) (w : World) (text : String) : List String :=
  let text := if text.isEmpty then "." else text
  let dir := listedDir text
  let base := Fs.basename text
  match w.tree.listDir s.cwd dir with
  | .ok names => Builtin.sortTexts ((names.filter (·.startsWith base)).map (Fs.join dir))
  | .error _ => []

/-- The candidates for `text`; `begin` is where the text starts on the line, if known. -/
def candidates (s : Shell) (w : World) (text : String) (begin : Option Nat) : List String :=
  let ms := if begin.getD 0 = 0 then commands s w text else paths s w text
  ms.map fun m => if w.tree.isDir s.cwd m && !m.endsWith "/" then m ++ "/" else m

end Complete

end Conch

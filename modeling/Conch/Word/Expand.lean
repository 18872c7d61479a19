import Conch.Env
import Conch.Text.Alnum
/-!
Expanding variables inside words.

A word that holds a dollar sign is read left to right in units: `$?` gives the text of the last
status; a dollar sign followed by the longest run of name characters (letters, numbers and the
underscore, in the sense of Unicode) gives the value of the variable of that name, or the empty
text when it is not set, so a dollar sign followed by no name character gives the empty text;
every other character stands for itself. Values are inserted as they are and are never read
again.
-/

namespace Conch.Word

/-- The characters a variable name is made of. -/
def isNameChar (c : Char) : Bool := Text.isAlnum c || c = '_'

theorem length_dropWhile_le (p : Char → Bool) : ∀ cs : List Char, (cs.dropWhile p).length ≤ cs.length
  | [] => Nat.le_refl _
  | c :: cs => by
    rw [List.dropWhile_cons]
    split
    · exact Nat.le_succ_of_le (length_dropWhile_le p cs)
    · exact Nat.le_refl _

/-- The characters of a word after expansion, given the text of the last status. -/
def expandChars (env : Env) (status : String) : List Char → List Char
  | [] => []
  | '$' :: '?' :: rest => status.toList ++ expandChars env status rest
  | '$' :: rest =>
    (env.find (String.ofList (rest.takeWhile isNameChar))).toList ++
      expandChars env status (rest.dropWhile isNameChar)
  | c :: rest => c :: expandChars env status rest
termination_by cs => cs.length
decreasing_by
  all_goals simp only [List.length_cons]
  · omega
  · have := length_dropWhile_le isNameChar rest
    omega
  · omega

/-- A word after expansion. Words without a dollar sign are left as they are. -/
def expandWord (env : Env) (status : String) (w : String) : String :=
  if w.contains '$' then String.ofList (expandChars env status w.toList) else w

/-- The words after expansion, one for one. -/
def expand (env : Env) (status : String) (ws : List String) : List String :=
  ws.map (expandWord env status)

example : expand (Env.ofList [("A", "alpha")]) "3" ["$$A", "x$?y", "$", "$B-"] =
    ["alpha", "x3y", "", "-"] := by cbv

end Conch.Word

/-!
Sorted tables of closed code point ranges, the form in which the character classes of this
library are stored. Membership stops at the first range that starts above the code point, so a
lookup reads only the ranges below it.
-/

namespace Conch.Text

/-- A closed range `lo ≤ n ≤ hi` of code points. -/
abbrev CodeRange := Nat × Nat

/-- Whether `n` lies in one of the ranges of a table sorted by lower end. -/
def inRanges (n : Nat) : List CodeRange → Bool
  | [] => false
  | (lo, hi) :: rest => if n < lo then false else n ≤ hi || inRanges n rest

theorem inRanges_nil (n : Nat) : inRanges n [] = false := rfl

/-- A code point at a range's ends is in the table that starts with the range. -/
theorem inRanges_cons_of_le {n lo hi : Nat} (rest : List CodeRange) (h₁ : lo ≤ n) (h₂ : n ≤ hi) :
    inRanges n ((lo, hi) :: rest) = true := by
  simp [inRanges, Nat.not_lt.2 h₁, h₂]

end Conch.Text

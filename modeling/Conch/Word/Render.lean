import Conch.Word.Split
/-!
Writing words so that the splitter reads them back.

A word is written as a juxtaposition of pieces. A bare piece puts a backslash before every
space, tab, quote and backslash; a quoted piece stands between two quote characters of one kind
and puts a backslash before that quote character and before every backslash. A line is a list of
written words joined by runs of separators, with optional runs before the first word and after
the last.
-/

namespace Conch.Word

/-- One piece of a written word and the form it is written in. -/
inductive Piece
  | bare (text : String)
  | quoted (q : Quote) (text : String)
  deriving DecidableEq, Repr

/-- Puts a backslash before every character that `special` selects. -/
def escapeWith (special : Char → Bool) : List Char → List Char
  | [] => []
  | c :: cs => if special c then '\\' :: c :: escapeWith special cs else c :: escapeWith special cs

/-- The characters a bare piece escapes. -/
def isBareSpecial (c : Char) : Bool :=
  isSeparator c || c = '"' || c = '\'' || c = '\\'

/-- The characters a piece quoted by `q` escapes. -/
def isQuotedSpecial (q : Quote) (c : Char) : Bool := c = q.char || c = '\\'

/-- The characters of a written piece. -/
def Piece.render : Piece → List Char
  | bare t => escapeWith isBareSpecial t.toList
  | quoted q t => q.char :: escapeWith (isQuotedSpecial q) t.toList ++ [q.char]

/-- The text of a piece. -/
def Piece.text : Piece → String
  | bare t => t
  | quoted _ t => t

/-- The characters of a word written as the given pieces. -/
def renderPieces (ps : List Piece) : List Char := (ps.map Piece.render).flatten

/-- Whether a list of characters is a non-empty run of separators. -/
def IsSeparatorRun (cs : List Char) : Prop := cs ≠ [] ∧ ∀ c ∈ cs, isSeparator c = true

instance : DecidablePred IsSeparatorRun
  | [] => isFalse fun h => h.1 rfl
  | c :: cs =>
    if ha : (c :: cs).all isSeparator = true then
      isTrue ⟨List.cons_ne_nil c cs, List.all_eq_true.mp ha⟩
    else isFalse fun h => ha (List.all_eq_true.mpr h.2)

/-- The characters of a line made of written words, with `gaps` between them. -/
def renderLine : List (List Char) → List (List Char) → List Char
  | [], _ => []
  | [w], _ => w
  | w :: ws, [] => w ++ ' ' :: renderLine ws []
  | w :: ws, g :: gs => w ++ g ++ renderLine ws gs

/-- The plainest written form of a list of words: bare pieces joined by single spaces. -/
def renderWords (ws : List String) : String :=
  String.ofList (renderLine (ws.map fun w => Piece.render (Piece.bare w)) [])

example : split (renderWords ["a b", "c'd", "e\\"]) = ["a b", "c'd", "e\\"] := by decide +kernel

end Conch.Word

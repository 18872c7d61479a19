/-!
Redirections in a word list.

The words `<`, `>`, `>>` and `2>` are operators; each takes the word after it, whatever that word
is, as its target. Reading left to right, the operator pairs are removed and the other words are
kept in order. The last `<` names the input, the last `>` or `>>` the output, appending exactly
when that last one is `>>`, and the last `2>` the error output. An operator with no word after it
makes the whole list a syntax error.
-/

namespace Conch.Word

/-- The four redirection operators. -/
inductive RedirectOp
  | input
  | output
  | append
  | errorOutput
  deriving DecidableEq, Repr

namespace RedirectOp

/-- The word that writes the operator. -/
def text : RedirectOp → String
  | input => "<"
  | output => ">"
  | append => ">>"
  | errorOutput => "2>"

/-- The operator a word writes, if it writes one. -/
def ofWord? (w : String) : Option RedirectOp :=
  if w = "<" then some input
  else if w = ">" then some output
  else if w = ">>" then some append
  else if w = "2>" then some errorOutput
  else none

end RedirectOp

/-- Where a command's streams go, by the names of the files given. -/
structure Redirections where
  stdin : Option String := none
  stdout : Option String := none
  stderr : Option String := none
  /-- Whether the output is added at the end of its file instead of replacing it. -/
  append : Bool := false
  deriving DecidableEq, Repr

/-- Records one operator and its target; a later operator of a stream replaces an earlier one. -/
def Redirections.add (r : Redirections) : RedirectOp → String → Redirections
  | .input, t => { r with stdin := some t }
  | .output, t => { r with stdout := some t, append := false }
  | .append, t => { r with stdout := some t, append := true }
  | .errorOutput, t => { r with stderr := some t }

/-- The words of a command with its redirections taken out. -/
structure Command where
  words : List String
  redirections : Redirections
  deriving DecidableEq, Repr

/-- An operator was the last word, so it has no target. -/
structure MissingTarget where
  op : RedirectOp
  deriving DecidableEq, Repr

/-- The line printed for a missing target. -/
def MissingTarget.message (e : MissingTarget) : String :=
  "Syntax error: expected filename after '" ++ e.op.text ++ "'"

/-- Takes the operator pairs out of `ws`, adding the kept words after `kept` (last first). -/
def collect (r : Redirections) (kept : List String) :
    List String → Except MissingTarget Command
  | [] => .ok ⟨kept.reverse, r⟩
  | w :: rest =>
    match RedirectOp.ofWord? w with
    | none => collect r (w :: kept) rest
    | some op =>
      match rest with
      | [] => .error ⟨op⟩
      | t :: rest' => collect (r.add op t) kept rest'

/-- The command a word list describes. -/
def Command.ofWords (ws : List String) : Except MissingTarget Command := collect {} [] ws

example : Command.ofWords ["a", ">", "f", "b", ">>", "g", "<", ">"] =
    .ok ⟨["a", "b"], { stdin := some ">", stdout := some "g", append := true }⟩ := rfl
example : Command.ofWords ["a", "2>"] = .error ⟨.errorOutput⟩ := rfl

end Conch.Word

/-!
The syntax of the shell command language.

A word is a list of segments: literal text, either open or quoted (quoted text is never split
into fields nor read as a pattern), double-quoted regions, parameter expansions, command
substitutions and arithmetic expansions. Commands are simple commands (assignments, words and
redirections, with the line they start on), pipelines, `&&` and `||` lists, sequences,
background commands, negations, subshells, brace groups, `if`, `while` and `until`, `for`,
`case` and function definitions. A redirection names its descriptor, what it opens and the word
that names the target; a here-document carries its body.
-/

namespace Conch.Sh

/-- A string of bytes, as the shell handles text. -/
abbrev Bytes := List UInt8

/-- What a parameter expansion makes of the parameter. The flag of the first four says whether a
parameter that is set but empty counts as unset (the forms with a colon); the flag of the
removals says whether the longest match is removed. -/
inductive ParamOp
  /-- `$name` and `${name}`. -/
  | plain
  /-- `${#name}`. -/
  | length
  /-- `${name-word}`. -/
  | useDefault (colon : Bool)
  /-- `${name=word}`. -/
  | assignDefault (colon : Bool)
  /-- `${name?word}`. -/
  | failUnset (colon : Bool)
  /-- `${name+word}`. -/
  | useAlternative (colon : Bool)
  /-- `${name%word}` and `${name%%word}`. -/
  | removeSuffix (longest : Bool)
  /-- `${name#word}` and `${name##word}`. -/
  | removePrefix (longest : Bool)
  /-- A malformed expansion, refused when it is expanded. -/
  | bad
  deriving DecidableEq, Repr

/-- The operators of file redirections. -/
inductive FileOp
  /-- `<` -/
  | input
  /-- `>` -/
  | output
  /-- `>|` -/
  | clobber
  /-- `>>` -/
  | append
  /-- `<>` -/
  | readWrite
  deriving DecidableEq, Repr

mutual

/-- A segment of a word. -/
inductive Seg where
  /-- Open text: split into fields after expansions and read as a pattern. -/
  | lit (bs : Bytes)
  /-- Quoted text. -/
  | quoted (bs : Bytes)
  /-- A double-quoted region; everything in it is quoted. -/
  | dq (inner : List Seg)
  /-- A parameter expansion with its operator and word. -/
  | param (name : String) (op : ParamOp) (word : List Seg)
  /-- A command substitution. -/
  | subst (body : Cmd)
  /-- An arithmetic expansion. -/
  | arith (expr : List Seg)

/-- A redirection. -/
inductive Redir where
  /-- Opens the file the word names on descriptor `fd`. -/
  | file (fd : Nat) (op : FileOp) (target : List Seg)
  /-- Makes `fd` a copy of the descriptor the word names, or closes it for `-` (`input` for
  `<&`). -/
  | dup (fd : Nat) (input : Bool) (target : List Seg)
  /-- A here-document on `fd`; its body is expanded unless the delimiter was quoted. -/
  | here (fd : Nat) (body : List Seg) (expand : Bool)

/-- A command. -/
inductive Cmd where
  /-- A simple command. -/
  | simple (line : Nat) (assigns args : List (List Seg)) (redirs : List Redir)
  /-- A pipeline of two or more commands. -/
  | pipe (stages : List Cmd)
  /-- `a && b` -/
  | andThen (a b : Cmd)
  /-- `a || b` -/
  | orElse (a b : Cmd)
  /-- `a; b` -/
  | seq (a b : Cmd)
  /-- `c &` -/
  | background (line : Nat) (c : Cmd)
  /-- `! c` -/
  | negate (c : Cmd)
  /-- `( body ) redirs` -/
  | subshell (line : Nat) (body : Cmd) (redirs : List Redir)
  /-- A compound command with redirections of its own. -/
  | redirected (line : Nat) (body : Cmd) (redirs : List Redir)
  /-- `if cond; then yes; else no; fi` -/
  | ifThen (cond yes : Cmd) (no : Option Cmd)
  /-- `while` loops, and `until` loops when the flag holds. -/
  | loop (isUntil : Bool) (cond body : Cmd)
  /-- `for name in items; do body; done`; without `in`, the positional parameters. -/
  | forIn (line : Nat) (name : String) (items : List (List Seg)) (body : Cmd)
  /-- `case subject in arms esac` -/
  | caseOf (line : Nat) (subject : List Seg) (arms : List CaseArm)
  /-- `name() body` -/
  | defun (line : Nat) (name : String) (body : Cmd)
  /-- A command that does nothing: an empty body. -/
  | empty

/-- An arm of a `case` command: its patterns and its body. -/
inductive CaseArm where
  | arm (patterns : List (List Seg)) (body : Option Cmd)

end

/-- A word: the segments it is made of. -/
abbrev Word := List Seg

end Conch.Sh

import Conch.Text.Quoted
/-!
Why an operation on the file tree or on a program failed.

Each fault but one has an error number and a standard text; its message is
`[Errno N] text: 'name'`, with the name quoted as `Conch.Text.quote` writes it, or without the
name when there is none. A name holding the character NUL is refused before the tree is asked,
with the message `embedded null byte`.
-/

namespace Conch.Fs

/-- The ways a file operation can fail. -/
inductive Fault
  | noEntry
  | notDirectory
  | isDirectory
  | linkLoop
  | nameTooLong
  | execFormat
  | permissionDenied
  | invalidArgument
  | directoryNotEmpty
  | nulByte
  deriving DecidableEq, Repr

namespace Fault

/-- The error number of a fault, if it has one. -/
def errno? : Fault → Option Nat
  | noEntry => some 2
  | notDirectory => some 20
  | isDirectory => some 21
  | linkLoop => some 40
  | nameTooLong => some 36
  | execFormat => some 8
  | permissionDenied => some 13
  | invalidArgument => some 22
  | directoryNotEmpty => some 39
  | nulByte => none

/-- The standard text of a fault. -/
def text : Fault → String
  | noEntry => "No such file or directory"
  | notDirectory => "Not a directory"
  | isDirectory => "Is a directory"
  | linkLoop => "Too many levels of symbolic links"
  | nameTooLong => "File name too long"
  | execFormat => "Exec format error"
  | permissionDenied => "Permission denied"
  | invalidArgument => "Invalid argument"
  | directoryNotEmpty => "Directory not empty"
  | nulByte => "embedded null byte"

/-- The message of a fault met on the named file. -/
def message (f : Fault) (name : Option String) : String :=
  match f.errno?, name with
  | some n, some s => "[Errno " ++ toString n ++ "] " ++ f.text ++ ": " ++ Text.quote s
  | some n, none => "[Errno " ++ toString n ++ "] " ++ f.text
  | none, _ => f.text

end Fault

end Conch.Fs

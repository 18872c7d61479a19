import Conch.Text.Blank
import Conch.Text.Decimal
import Conch.Text.Quoted
/-!
Reading a decimal integer from a text.

Blank characters other than the information separators may stand around the number. It has an optional sign and then digits of any
script, with single underscores allowed between two digits. A number of more than 4300 digits is
refused for its size, before anything after its digits is looked at; everything else that does not
have this form is an invalid literal, and the message quotes the text.
-/

namespace Conch.Text

/-- The most digits a number may have. -/
def maxDigits : Nat := 4300

/-- Why a text is not a decimal integer. -/
inductive IntegerFault
  | invalid
  | tooManyDigits (count : Nat)
  deriving DecidableEq, Repr

/-- The message for a text `s` that could not be read. -/
def IntegerFault.message (s : String) : IntegerFault → String
  | invalid => "invalid literal for int() with base 10: " ++ String.ofList ((quote s).toList.take 200)
  | tooManyDigits n =>
    "Exceeds the limit (" ++ toString maxDigits ++
      " digits) for integer string conversion: value has " ++ toString n ++
      " digits; use sys.set_int_max_str_digits() to increase the limit"

/-- A character of the text as the reader sees it: a blank, a digit with its value, or any other
character. -/
inductive Sym
  | blank
  | digit (d : Nat)
  | other (c : Char)
  deriving DecidableEq

/-- Classifies a character. -/
def Sym.of (c : Char) : Sym :=
  if isNumberBlank c then blank
  else match decimalValue? c with
    | some d => digit d
    | none => other c

/-- Reads the digits and underscores of a number: the value so far, the digit count, and whether
the previous symbol was an underscore. Returns the value, the count and the rest. -/
def readDigits (value count : Nat) (afterUnderscore : Bool) :
    List Sym → Option (Nat × Nat × List Sym)
  | .digit d :: rest => readDigits (value * 10 + d) (count + 1) false rest
  | .other '_' :: rest => if afterUnderscore then none else readDigits value count true rest
  | rest => if afterUnderscore then none else some (value, count, rest)

/-- Whether the symbols are all blanks. -/
def allBlank (syms : List Sym) : Bool := syms.all (· == .blank)

/-- Reads an unsigned number followed only by blanks. -/
def readMagnitude (syms : List Sym) : Except IntegerFault Nat :=
  match syms with
  | .other '_' :: _ => .error .invalid
  | _ =>
    match readDigits 0 0 true syms with
    | none => .error .invalid
    | some (value, count, rest) =>
      if count = 0 then .error .invalid
      else if maxDigits < count then .error (.tooManyDigits count)
      else if allBlank rest then .ok value
      else .error .invalid

/-- The integer a text writes. -/
def readInteger (s : String) : Except IntegerFault Int :=
  match (s.toList.map Sym.of).dropWhile (· == .blank) with
  | .other '-' :: rest => (readMagnitude rest).map fun n => -(n : Int)
  | .other '+' :: rest => (readMagnitude rest).map fun n => (n : Int)
  | syms => (readMagnitude syms).map fun n => (n : Int)

end Conch.Text

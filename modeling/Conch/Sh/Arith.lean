import Conch.Sh.State
/-!
Arithmetic expansion: `$((expression))` on 64-bit signed integers.

The expression is read as tokens: numbers (decimal, octal after a leading `0`, hexadecimal after
`0x`, binary after `0b`; a number too large for 64 bits stands for the largest or smallest value), names, and the
operators of C without `++`, `--` and the comma. Operators bind as in C: `* / %`, then `+ -`,
then the shifts, the comparisons, `== !=`, `&`, `^`, `|`, `&&`, `||`, `?:` and the assignments
`= op=`, the binary ones from the left and the last two from the right. `&&`, `||` and `?:`
evaluate the operands they do not need only to read them: there they neither assign nor fail on a
division by zero. Results wrap around at 64 bits, and a shift counts only the low six bits of
its count.

A name stands for the value of its variable, read as a number the way a literal is (an unset or
empty variable is 0); a variable whose value is not a number is an error. Assignments take effect
at once and are also handed back in order, for the shell to keep.
-/

namespace Conch.Sh.Arith

/-- The binary operators. -/
inductive Op
  | mul | div | rem | add | sub | shl | shr | lt | le | gt | ge | eq | ne | band | bxor | bor
  deriving DecidableEq, Repr

/-- How tightly an operator binds: lower binds tighter. -/
def Op.prec : Op → Nat
  | mul | div | rem => 0
  | add | sub => 1
  | shl | shr => 2
  | lt | le | gt | ge => 3
  | eq | ne => 4
  | band => 5
  | bxor => 6
  | bor => 7

/-- The tokens of an expression. -/
inductive Tok
  | eof | bad
  | num (v : Int)
  | var (name : String)
  /-- `=`, or an operator followed by `=`. -/
  | assign (op : Option Op)
  | bin (op : Op)
  | andAnd | orOr | not | bnot | lparen | rparen | qmark | colon
  deriving DecidableEq, Repr

/-- The least 64-bit value. -/
def minValue : Int := -9223372036854775808

/-- The greatest 64-bit value. -/
def maxValue : Int := 9223372036854775807

/-- A number brought into the 64-bit range by wrapping around. -/
def wrap (n : Int) : Int := n.bmod 18446744073709551616

/-- A number brought into the 64-bit range by taking the nearest end. -/
def clamp (n : Int) : Int := if n < minValue then minValue else if maxValue < n then maxValue else n

/-- The value of a digit in a base, if it is one. -/
def digitValue (base : Nat) (c : Char) : Option Nat :=
  let v := if '0' ≤ c && c ≤ '9' then some (c.toNat - 48)
    else if 'a' ≤ c && c ≤ 'z' then some (c.toNat - 87)
    else if 'A' ≤ c && c ≤ 'Z' then some (c.toNat - 55)
    else none
  v.bind fun d => if d < base then some d else none

/-- Reads digits of a base; returns the value and the text after them. -/
def readDigits (base : Nat) : List Char → Nat → Nat × List Char
  | c :: rest, acc =>
    match digitValue base c with
    | some d => readDigits base rest (acc * base + d)
    | none => (acc, c :: rest)
  | [], acc => (acc, [])

/-- Reads an unsigned number the way C's `strtoimax` does with base 0: hexadecimal after `0x`
when a hexadecimal digit follows, binary after `0b` when a binary digit follows, octal after `0`,
decimal otherwise. Returns the value, not yet
brought into range, and the text after it; nothing when no digit starts the text. -/
def readNumber (cs : List Char) : Option (Nat × List Char) :=
  match cs with
  | '0' :: x :: rest =>
    if (x == 'x' || x == 'X') && (digitValue 16 (rest.headD ' ')).isSome then
      some (readDigits 16 rest 0)
    else if (x == 'b' || x == 'B') && (digitValue 2 (rest.headD ' ')).isSome then
      some (readDigits 2 rest 0)
    else some (readDigits 8 (x :: rest) 0)
  | c :: _ => if '0' ≤ c && c ≤ '9' then some (readDigits 10 cs 0) else none
  | [] => none

/-- Whether a character may be part of a name. -/
def isNameChar (c : Char) : Bool :=
  ('a' ≤ c && c ≤ 'z') || ('A' ≤ c && c ≤ 'Z') || ('0' ≤ c && c ≤ '9') || c == '_'

/-- An operator optionally followed by `=`. -/
def withAssign (op : Op) (rest : List Char) : Tok × List Char :=
  match rest with
  | '=' :: rest => (.assign (some op), rest)
  | _ => (.bin op, rest)

/-- Reads the next token of an expression. -/
def nextTok (cs : List Char) : Tok × List Char :=
  match cs with
  | [] => (.eof, [])
  | c :: rest =>
    if '0' ≤ c && c ≤ '9' then
      match readNumber cs with
      | some (n, rest) => (.num (clamp n), rest)
      | none => (.bad, cs)
    else if ('a' ≤ c && c ≤ 'z') || ('A' ≤ c && c ≤ 'Z') || c == '_' then
      let name := rest.takeWhile isNameChar
      (.var (String.ofList (c :: name)), rest.drop name.length)
    else match c, rest with
      | '=', '=' :: rest => (.bin .eq, rest)
      | '=', rest => (.assign none, rest)
      | '>', '=' :: rest => (.bin .ge, rest)
      | '>', '>' :: rest => withAssign .shr rest
      | '>', rest => (.bin .gt, rest)
      | '<', '=' :: rest => (.bin .le, rest)
      | '<', '<' :: rest => withAssign .shl rest
      | '<', rest => (.bin .lt, rest)
      | '|', '|' :: rest => (.orOr, rest)
      | '|', rest => withAssign .bor rest
      | '&', '&' :: rest => (.andAnd, rest)
      | '&', rest => withAssign .band rest
      | '!', '=' :: rest => (.bin .ne, rest)
      | '!', rest => (.not, rest)
      | '(', rest => (.lparen, rest)
      | ')', rest => (.rparen, rest)
      | '*', rest => withAssign .mul rest
      | '/', rest => withAssign .div rest
      | '%', rest => withAssign .rem rest
      | '+', rest => withAssign .add rest
      | '-', rest => withAssign .sub rest
      | '~', rest => (.bnot, rest)
      | '^', rest => withAssign .bxor rest
      | '?', rest => (.qmark, rest)
      | ':', rest => (.colon, rest)
      | _, _ => (.bad, cs)

/-- Drops the blanks an expression may hold between tokens. -/
def dropBlanks (cs : List Char) : List Char := cs.dropWhile fun c => c == ' ' || c == '\t' || c == '\n'

/-- The tokens of an expression, ending with `eof`, or with `bad` at a character that starts no
token. -/
def tokens (cs : List Char) : List Tok :=
  go (cs.length + 1) cs
where
  go : Nat → List Char → List Tok
    | 0, _ => [.eof]
    | n + 1, cs =>
      match nextTok (dropBlanks cs) with
      | (.eof, _) => [.eof]
      | (.bad, _) => [.bad]
      | (t, rest) => t :: go n rest

/-- The 64 bits of a number in two's complement, as a natural number. -/
def bits (n : Int) : Nat := (n % 18446744073709551616).toNat

/-- Applies a binary operator. -/
def apply (op : Op) (a b : Int) : Except String Int :=
  let bit (x : Bool) : Int := if x then 1 else 0
  match op with
  | .mul => .ok (wrap (a * b))
  | .div => if b == 0 then .error "division by zero" else .ok (wrap (a.tdiv b))
  | .rem => if b == 0 then .error "division by zero" else .ok (wrap (a.tmod b))
  | .add => .ok (wrap (a + b))
  | .sub => .ok (wrap (a - b))
  | .shl => .ok (wrap (a * Int.pow 2 (b % 64).toNat))
  | .shr => .ok (a / Int.pow 2 (b % 64).toNat)
  | .lt => .ok (bit (a < b))
  | .le => .ok (bit (a ≤ b))
  | .gt => .ok (bit (a > b))
  | .ge => .ok (bit (a ≥ b))
  | .eq => .ok (bit (a == b))
  | .ne => .ok (bit (a != b))
  | .band => .ok (wrap (Nat.land (bits a) (bits b)))
  | .bxor => .ok (wrap (Nat.xor (bits a) (bits b)))
  | .bor => .ok (wrap (Nat.lor (bits a) (bits b)))

/-- The variables an expression reads and writes: the values before it, whether a variable is
read-only, and the assignments made so far, last first. -/
structure Vars where
  lookup : String → Option Bytes
  readonly : String → Bool
  assigned : List (String × Int)

/-- Reads a variable's value as a number: blanks around it are allowed, an empty or unset value
is 0, and anything else that is not a number is an error. -/
def Vars.read (vs : Vars) (name : String) : Except String Int :=
  match vs.assigned.lookup name with
  | some v => .ok v
  | none =>
    let text := (vs.lookup name).getD []
    let cs := text.map fun b => Char.ofNat b.toNat
    let isSpace (c : Char) : Bool := c == ' ' || ('\t' ≤ c && c ≤ '\r')
    let body := cs.dropWhile isSpace
    let (neg, digits) := match body with
      | '-' :: rest => (true, rest)
      | '+' :: rest => (false, rest)
      | _ => (false, body)
    let bad : Except String Int := .error ("Illegal number: " ++ textOf text)
    match readNumber digits with
    | none => if body.isEmpty then .ok 0 else bad
    | some (n, rest) =>
      let v : Int := if neg then -(n : Int) else n
      if v < minValue || maxValue < v then bad
      else if (rest.dropWhile isSpace).isEmpty then .ok v else bad

/-- The state of reading an expression: the current token, the tokens after it, and the
variables. -/
structure Parse where
  cur : Tok
  rest : List Tok
  vars : Vars

/-- The state after the current token. -/
def Parse.advance (p : Parse) : Parse :=
  match p.rest with
  | t :: rest => { p with cur := t, rest := rest }
  | [] => { p with cur := .eof }

/-- The token after the current one. -/
def Parse.peek (p : Parse) : Tok := p.rest.headD .eof

/-- The binary operator of a token, if it is one. -/
def binOf : Tok → Option Op
  | .bin op => some op
  | _ => none

mutual

/-- An expression at the level of assignments. With `skip`, nothing is assigned and no
division fails. -/
def assignment : Nat → Bool → Parse → Except String (Int × Parse)
  | 0, _, _ => .error "expression too deep"
  | f + 1, skip, p =>
    match p.cur, p.peek with
    | .var name, .assign op =>
      match assignment f skip p.advance.advance with
      | .error e => .error e
      | .ok (rhs, p) =>
        if skip then .ok (rhs, p) else
        let value : Except String Int := match op with
          | none => .ok rhs
          | some op => match p.vars.read name with
            | .error e => .error e
            | .ok old => apply op old rhs
        match value with
        | .error e => .error e
        | .ok v =>
          if p.vars.readonly name then .error (name ++ ": is read only")
          else .ok (v, { p with vars := { p.vars with assigned := (name, v) :: p.vars.assigned } })
    | _, _ => conditional f skip p

/-- `a ? b : c`. -/
def conditional : Nat → Bool → Parse → Except String (Int × Parse)
  | 0, _, _ => .error "expression too deep"
  | f + 1, skip, p =>
    match logicalOr f skip p with
    | .error e => .error e
    | .ok (a, p) =>
      match p.cur with
      | .qmark =>
        match assignment f (skip || a == 0) p.advance with
        | .error e => .error e
        | .ok (b, p) =>
          match p.cur with
          | .colon =>
            match conditional f (skip || a != 0) p.advance with
            | .error e => .error e
            | .ok (c, p) => .ok (if a != 0 then b else c, p)
          | _ => .error "expecting ':'"
      | _ => .ok (a, p)

/-- `a || b`. -/
def logicalOr : Nat → Bool → Parse → Except String (Int × Parse)
  | 0, _, _ => .error "expression too deep"
  | f + 1, skip, p =>
    match logicalAnd f skip p with
    | .error e => .error e
    | .ok (a, p) =>
      match p.cur with
      | .orOr =>
        match logicalOr f (skip || a != 0) p.advance with
        | .error e => .error e
        | .ok (b, p) => .ok (if a != 0 || b != 0 then 1 else 0, p)
      | _ => .ok (a, p)

/-- `a && b`. -/
def logicalAnd : Nat → Bool → Parse → Except String (Int × Parse)
  | 0, _, _ => .error "expression too deep"
  | f + 1, skip, p =>
    match primary f skip p with
    | .error e => .error e
    | .ok (a, p) =>
      match (match binOf p.cur with
        | some op => climb f skip a op 8 p.advance
        | none => .ok (a, p)) with
      | .error e => .error e
      | .ok (a, p) =>
        match p.cur with
        | .andAnd =>
          match logicalAnd f (skip || a == 0) p.advance with
          | .error e => .error e
          | .ok (b, p) => .ok (if a != 0 && b != 0 then 1 else 0, p)
        | _ => .ok (a, p)

/-- Binary operators from the left: `a` has been read and then `op`; operators that bind at
least as loosely as `limit` are left to the caller. -/
def climb : Nat → Bool → Int → Op → Nat → Parse → Except String (Int × Parse)
  | 0, _, _, _, _, _ => .error "expression too deep"
  | f + 1, skip, a, op, limit, p =>
    match primary f skip p with
    | .error e => .error e
    | .ok (b, p) =>
      let right : Except String (Int × Parse) := match binOf p.cur with
        | some op2 => if op2.prec < op.prec then climb f skip b op2 op.prec p.advance
            else .ok (b, p)
        | none => .ok (b, p)
      match right with
      | .error e => .error e
      | .ok (b, p) =>
        match (if skip then .ok b else apply op a b) with
        | .error e => .error e
        | .ok a =>
          match binOf p.cur with
          | some op2 => if op2.prec < limit then climb f skip a op2 limit p.advance else .ok (a, p)
          | none => .ok (a, p)

/-- A number, a variable, a parenthesised expression, or a unary operator and its operand. -/
def primary : Nat → Bool → Parse → Except String (Int × Parse)
  | 0, _, _ => .error "expression too deep"
  | f + 1, skip, p =>
    match p.cur with
    | .lparen =>
      match assignment f skip p.advance with
      | .error e => .error e
      | .ok (v, p) =>
        match p.cur with
        | .rparen => .ok (v, p.advance)
        | _ => .error "expecting ')'"
    | .num v => .ok (v, p.advance)
    | .var name =>
      if skip then .ok (0, p.advance)
      else match p.vars.read name with
        | .error e => .error e
        | .ok v => .ok (v, p.advance)
    | .bin .add => primary f skip p.advance
    | .bin .sub =>
      match primary f skip p.advance with
      | .error e => .error e
      | .ok (v, p) => .ok (wrap (-v), p)
    | .not =>
      match primary f skip p.advance with
      | .error e => .error e
      | .ok (v, p) => .ok (if v == 0 then 1 else 0, p)
    | .bnot =>
      match primary f skip p.advance with
      | .error e => .error e
      | .ok (v, p) => .ok (-v - 1, p)
    | _ => .error "expecting primary"

end

/-- Whether a message is one the expression itself is to blame for. -/
def isSyntaxFault (msg : String) : Bool :=
  msg.startsWith "expecting" || msg == "division by zero" || msg == "expression too deep"

/-- Evaluates an expression. Returns its value and the assignments it made, in order, or the
message of the error. -/
def eval (text : Bytes) (lookup : String → Option Bytes) (readonly : String → Bool) :
    Except String (Int × List (String × Int)) :=
  let cs := text.map fun b => Char.ofNat b.toNat
  let toks := tokens cs
  let p : Parse := ⟨toks.headD .eof, toks.drop 1, ⟨lookup, readonly, []⟩⟩
  let quoted := "\"" ++ textOf text ++ "\""
  let fault (msg : String) : String :=
    if isSyntaxFault msg then "arithmetic expression: " ++ msg ++ ": " ++ quoted else msg
  match assignment (8 * toks.length + 16) false p with
  | .error e => .error (fault e)
  | .ok (v, p) =>
    match p.cur with
    | .eof => .ok (v, p.vars.assigned.reverse)
    | _ => .error (fault "expecting EOF")

end Conch.Sh.Arith

import Conch.Sh.State
/-!
The `test` command, also spelled `[`: conditions on strings, numbers and files.

The arguments form an expression: `-o` joins alternatives, `-a` joins conditions, `!` negates,
parentheses group, a unary operator such as `-n` or `-f` takes the next argument, a binary
operator such as `=` or `-lt` stands between two arguments, and a lone argument is true when it
is not empty. An operator counts as an operand where the grammar needs one: a unary operator
followed by a binary operator and a third argument is a string, `(` as the last argument is a
string. Before parsing, three arguments with a binary operator in the middle are always a
comparison, and a leading `!` or a pair of surrounding parentheses is removed when three or four
arguments remain. An argument left over after the expression is refused.

Numbers are decimal, with blanks and a sign allowed; anything else is an illegal number. Files
are looked up in the file tree; the shell runs as the superuser, so every file may be read and
written, and executed when it has an execute bit or is a directory.
-/

namespace Conch.Sh.Test

/-- The kind of an operator. -/
inductive OpKind
  | unary
  | binary
  deriving DecidableEq, Repr

/-- The operators taking one argument. -/
def unaryOps : List String :=
  ["-r", "-w", "-x", "-e", "-f", "-d", "-c", "-b", "-p", "-u", "-g", "-k", "-s", "-t", "-z",
    "-n", "-h", "-O", "-G", "-L", "-S"]

/-- The operators between two arguments. -/
def binaryOps : List String :=
  ["=", "!=", "<", ">", "-eq", "-ne", "-ge", "-gt", "-le", "-lt", "-nt", "-ot", "-ef"]

/-- A token of an expression. -/
inductive Tok
  | eoi
  | operand
  | negation
  | conj
  | disj
  | lparen
  | rparen
  | unary (op : String)
  | binary (op : String)
  deriving DecidableEq, Repr

/-- The operator an argument spells, if any. -/
def opOf (s : Bytes) : Option Tok :=
  let t := textOf s
  if unaryOps.contains t then some (.unary t)
  else if binaryOps.contains t then some (.binary t)
  else if t == "!" then some .negation
  else if t == "-a" then some .conj
  else if t == "-o" then some .disj
  else if t == "(" then some .lparen
  else if t == ")" then some .rparen
  else none

/-- Whether the argument at `i` is a binary operator. -/
def isBinaryAt (args : Array Bytes) (i : Nat) : Bool :=
  match args[i]? with
  | some s => match opOf s with
    | some (.binary _) => true
    | _ => false
  | none => false

/-- Whether a unary operator at `i` stands where an operand is meant: it is last, or a binary
operator and a third argument follow it. -/
def isOperandAt (args : Array Bytes) (i : Nat) : Bool :=
  match args[i + 1]?, args[i + 2]? with
  | none, _ => true
  | some _, none => false
  | some _, some _ => isBinaryAt args (i + 1)

/-- The token of the argument at `i`. -/
def lexAt (args : Array Bytes) (i : Nat) : Tok :=
  match args[i]? with
  | none => .eoi
  | some s =>
    match opOf s with
    | some (.unary op) => if isOperandAt args i then .operand else .unary op
    | some .lparen => if (args[i + 1]?).isNone then .operand else .lparen
    | some t => t
    | none => .operand

/-- Reads a number as `test` does: blanks before and after, an optional sign, decimal digits,
within the range of 64-bit integers. -/
def number (s : Bytes) : Except String Int :=
  let isSpace (b : UInt8) : Bool := b == 32 || (9 ≤ b && b ≤ 13)
  let body := s.dropWhile isSpace
  let (neg, rest) := match body with
    | 45 :: r => (true, r)
    | 43 :: r => (false, r)
    | _ => (false, body)
  let digits := rest.takeWhile fun b => 48 ≤ b && b ≤ 57
  let after := rest.drop digits.length
  let mag : Nat := digits.foldl (fun a d => a * 10 + (d.toNat - 48)) 0
  let v : Int := if neg then -(mag : Int) else mag
  if digits.isEmpty || !(after.all isSpace) || v < -9223372036854775808 ||
      9223372036854775807 < v then
    .error ("Illegal number: " ++ textOf s)
  else .ok v

/-- Whether a byte string comes before another, byte by byte. -/
def bytesBefore : Bytes → Bytes → Bool
  | [], [] => false
  | [], _ :: _ => true
  | _ :: _, [] => false
  | a :: as, b :: bs => a < b || (a == b && bytesBefore as bs)

/-- The node a path text names, following links or not. -/
def nodeOf (t : Fs.Tree) (cwd : Fs.Path) (s : Bytes) (follow : Bool) :
    Option (Fs.Path × Fs.Inode) :=
  match t.resolve cwd (pathText s) follow with
  | .ok (.node p n) => some (p, n)
  | _ => none

/-- A condition on a file. -/
def fileTest (t : Fs.Tree) (cwd : Fs.Path) (op : String) (s : Bytes) : Bool :=
  let link := op == "-h" || op == "-L"
  match nodeOf t cwd s (!link) with
  | none => false
  | some (_, n) =>
    match op, n with
    | "-e", _ => true
    | "-f", .file _ _ => true
    | "-d", .dir => true
    | "-c", .sink => true
    | "-h", .link _ => true
    | "-L", .link _ => true
    | "-r", _ => true
    | "-w", _ => true
    | "-O", _ => true
    | "-G", _ => true
    | "-x", .file _ x => x
    | "-x", .dir => true
    | "-s", n => 0 < n.size
    | _, _ => false

/-- Applies a binary operator. -/
def compare (t : Fs.Tree) (cwd : Fs.Path) (op : String) (a b : Bytes) : Except String Bool :=
  match op with
  | "=" => .ok (a == b)
  | "!=" => .ok (a != b)
  | "<" => .ok (bytesBefore a b)
  | ">" => .ok (bytesBefore b a)
  | "-nt" => .ok ((nodeOf t cwd a true).isSome && (nodeOf t cwd b true).isNone)
  | "-ot" => .ok ((nodeOf t cwd a true).isNone && (nodeOf t cwd b true).isSome)
  | "-ef" =>
    match nodeOf t cwd a true, nodeOf t cwd b true with
    | some (p, _), some (q, _) => .ok (p == q)
    | _, _ => .ok false
  | _ => do
    let x ← number a
    let y ← number b
    match op with
    | "-eq" => .ok (x == y)
    | "-ne" => .ok (x != y)
    | "-ge" => .ok (x ≥ y)
    | "-gt" => .ok (x > y)
    | "-le" => .ok (x ≤ y)
    | _ => .ok (x < y)

/-- The error of a malformed expression, about an argument or not. -/
def malformed (arg : Option Bytes) (msg : String) : String :=
  match arg with
  | some a => if a.isEmpty then msg else textOf a ++ ": " ++ msg
  | none => msg

mutual

/-- `-o` lists: the value and the index of the last argument read. -/
def disjunction (t : Fs.Tree) (cwd : Fs.Path) (args : Array Bytes) :
    Nat → Tok → Nat → Except String (Bool × Nat)
  | 0, _, i => .ok (false, i)
  | fuel + 1, n, i => do
    let (a, i) ← conjunction t cwd args fuel n i
    if lexAt args (i + 1) == .disj then
      let (b, i) ← disjunction t cwd args fuel (lexAt args (i + 2)) (i + 2)
      return (a || b, i)
    else return (a, i)

/-- `-a` lists. -/
def conjunction (t : Fs.Tree) (cwd : Fs.Path) (args : Array Bytes) :
    Nat → Tok → Nat → Except String (Bool × Nat)
  | 0, _, i => .ok (false, i)
  | fuel + 1, n, i => do
    let (a, i) ← negation t cwd args fuel n i
    if lexAt args (i + 1) == .conj then
      let (b, i) ← conjunction t cwd args fuel (lexAt args (i + 2)) (i + 2)
      return (a && b, i)
    else return (a, i)

/-- Negations. -/
def negation (t : Fs.Tree) (cwd : Fs.Path) (args : Array Bytes) :
    Nat → Tok → Nat → Except String (Bool × Nat)
  | 0, _, i => .ok (false, i)
  | fuel + 1, .negation, i => do
    let (a, i) ← negation t cwd args fuel (lexAt args (i + 1)) (i + 1)
    return (!a, i)
  | fuel + 1, n, i => primary t cwd args fuel n i

/-- Primaries: a parenthesized expression, a unary or binary test, or a lone string. -/
def primary (t : Fs.Tree) (cwd : Fs.Path) (args : Array Bytes) :
    Nat → Tok → Nat → Except String (Bool × Nat)
  | 0, _, i => .ok (false, i)
  | _, .eoi, i => .ok (false, i)
  | fuel + 1, .lparen, i =>
    let nn := lexAt args (i + 1)
    if nn == .rparen then .ok (false, i + 1)
    else do
      let (a, i) ← disjunction t cwd args fuel nn (i + 1)
      if lexAt args (i + 1) == .rparen then return (a, i + 1)
      else .error (malformed none "closing paren expected")
  | _ + 1, .unary op, i =>
    match args[i + 1]? with
    | none => .error (malformed (some (utf8 op)) "argument expected")
    | some s =>
      if op == "-z" then .ok (s.isEmpty, i + 1)
      else if op == "-n" then .ok (!s.isEmpty, i + 1)
      else if op == "-t" then do
        let _ ← number s
        return (false, i + 1)
      else .ok (fileTest t cwd op s, i + 1)
  | _ + 1, _, i =>
    let cur := args[i]?.getD []
    match lexAt args (i + 1) with
    | .binary op =>
      match args[i + 2]? with
      | none => .error (malformed (some (utf8 op)) "argument expected")
      | some b => do
        let r ← compare t cwd op cur b
        return (r, i + 2)
    | _ => .ok (!cur.isEmpty, i)

end

/-- Evaluates the arguments from index `i` on, with the status to flip. Returns the status:
0 when the expression holds, 1 when it does not. -/
def evalFrom (t : Fs.Tree) (cwd : Fs.Path) (args : Array Bytes) (start : Tok) (i : Nat)
    (flip : Bool) : Except String Nat := do
  let (r, j) ← disjunction t cwd args (4 * args.size + 8) start i
  match args[j]?, args[j + 1]? with
  | some a, some _ => .error (malformed (some a) "unexpected operator")
  | _, _ => return (if r != flip then 1 else 0)

/-- Runs `test` on its arguments, the command name left out; `bracket` says it was called as
`[`. Returns the status, or the message of an error. -/
def run (t : Fs.Tree) (cwd : Fs.Path) (args : List Bytes) (bracket : Bool) : Except String Nat :=
  let args := if bracket then
      match args.getLast? with
      | some l => if l.head? == some 93 then some args.dropLast else none
      | none => none
    else some args
  match args with
  | none => .error "missing ]"
  | some args => go t cwd args true 3
where
  /-- Applies the rules for three and four arguments; `flip` is false once a `!` was
  removed. -/
  go (t : Fs.Tree) (cwd : Fs.Path) (args : List Bytes) (flip : Bool) : Nat → Except String Nat
    | 0 => .ok 1
    | k + 1 =>
      let a := args.toArray
      if args.isEmpty then .ok (if flip then 1 else 0)
      else if args.length == 3 && isBinaryAt a 1 then evalFrom t cwd a .operand 0 flip
      else if (args.length == 3 || args.length == 4) && args.head? == some [40] &&
          args.getLast? == some [41] then
        let inner := (args.drop 1).dropLast.toArray
        evalFrom t cwd inner (lexAt inner 0) 0 flip
      else if (args.length == 3 || args.length == 4) && args.head? == some [33] then
        go t cwd (args.drop 1) false k
      else evalFrom t cwd a (lexAt a 0) 0 flip

end Conch.Sh.Test

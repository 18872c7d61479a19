import Conch.Sh.State
import Conch.Sh.Double
/-!
The output of `echo` and `printf`.

`echo` writes its arguments separated by spaces and ends with a line feed; a first argument
`-n` drops the line feed. Backslash sequences in the arguments stand for characters: `\a \b \e
\f \n \r \t \v \\`, `\0` followed by up to three octal digits, and up to three octal digits after
a backslash; `\c` ends the output there, line feed included. Any other backslash stays.

`printf` writes its format, in which the same sequences (but for `\c` and the leading `0`) stand
for characters and `%` starts a conversion: flags among `#-+ 0`, a width, a precision, and one of
`d i o u x X c s b %` or the floating conversions `e E f F g G a A`. The format is used again
while arguments remain. A missing argument counts as empty or zero. An integer may be written in
decimal, octal, hexadecimal or binary, a floating number as the text of a `Double`, and either as a quote
and a character, which stands for the character's code; text that is not a number counts as what
of it was read and makes the status 1, with a message.
-/

namespace Conch.Sh

/-- Whether a byte is an octal digit. -/
def isOctal (b : UInt8) : Bool := 48 ≤ b && b ≤ 55

/-- Reads up to `n` octal digits. -/
def readOctal : Nat → Bytes → Nat → Nat × Bytes
  | 0, bs, acc => (acc, bs)
  | n + 1, b :: bs, acc => if isOctal b then readOctal n bs (acc * 8 + (b.toNat - 48)) else (acc, b :: bs)
  | _ + 1, [], acc => (acc, [])

/-- The character a backslash sequence stands for, given the text after the backslash: the
byte and the text after the sequence. An unknown sequence stands for the backslash itself. -/
def escapeAt (bs : Bytes) : UInt8 × Bytes :=
  match bs with
  | b :: rest =>
    if isOctal b then
      let (v, rest) := readOctal 3 bs 0
      (v.toUInt8, rest)
    else if b == 92 then (92, rest)
    else if b == 97 then (7, rest)
    else if b == 98 then (8, rest)
    else if b == 101 then (27, rest)
    else if b == 102 then (12, rest)
    else if b == 110 then (10, rest)
    else if b == 114 then (13, rest)
    else if b == 116 then (9, rest)
    else if b == 118 then (11, rest)
    else (92, bs)
  | [] => (92, [])

/-- Expands the backslash sequences of an argument of `echo` or of `%b`. Returns the bytes and
whether `\c` ended the output. -/
def unescapeArg : Nat → Bytes → Bytes × Bool
  | 0, _ => ([], false)
  | _ + 1, [] => ([], false)
  | _ + 1, 92 :: 99 :: _ => ([], true)
  | n + 1, 92 :: rest =>
    let rest := match rest with
      | 48 :: more@(d :: _) => if isOctal d then more else rest
      | _ => rest
    let (c, rest) := escapeAt rest
    let (out, stop) := unescapeArg n rest
    (c :: out, stop)
  | n + 1, b :: rest =>
    let (out, stop) := unescapeArg n rest
    (b :: out, stop)

/-- The output of `echo`. -/
def echoOutput (args : List Bytes) : Bytes :=
  let (args, ending) : List Bytes × Bytes := match args with
    | [45, 110] :: rest => (rest, [])
    | _ => (args, [10])
  go args ending
where
  go : List Bytes → Bytes → Bytes
    | [], ending => ending
    | [a], ending =>
      let (out, stop) := unescapeArg (a.length + 1) a
      if stop then out else out ++ ending
    | a :: more, ending =>
      let (out, stop) := unescapeArg (a.length + 1) a
      if stop then out else out ++ [32] ++ go more ending

/-! ## printf -/

/-- What `printf` has done so far: its output, its messages, and its status. -/
structure Printed where
  out : Bytes
  notes : List Bytes
  status : Nat

/-- A conversion of a `printf` format. -/
structure Spec where
  flags : List UInt8
  width : Option Nat
  precision : Option Nat
  conv : UInt8
  /-- The text of the conversion as written, from `%` to its letter. -/
  text : Bytes

/-- Pads text to a width, on the left unless the `-` flag is given. -/
def pad (flags : List UInt8) (width : Option Nat) (body : Bytes) : Bytes :=
  let w := width.getD 0
  if body.length ≥ w then body
  else if flags.contains 45 then body ++ List.replicate (w - body.length) 32
  else List.replicate (w - body.length) 32 ++ body

/-- The digits of a natural number in a base, lower or upper case. -/
def digitsIn (base : Nat) (upper : Bool) (n : Nat) : Bytes :=
  (Nat.toDigits base n).map fun c =>
    let c := if upper then c.toUpper else c
    c.toNat.toUInt8

/-- Formats a number under a conversion: `neg` and `mag` are its sign and magnitude, `prefix`
what the `#` flag puts before the digits. -/
def formatNumber (spec : Spec) (neg : Bool) (digits : Bytes) (lead : Bytes) : Bytes :=
  let digits := match spec.precision with
    | some 0 => if digits == [48] then [] else digits
    | some p => List.replicate (p - digits.length) 48 ++ digits
    | none => digits
  let sign : Bytes := if neg then [45] else if spec.flags.contains 43 then [43]
    else if spec.flags.contains 32 then [32] else []
  let head := sign ++ lead
  let w := spec.width.getD 0
  let len := head.length + digits.length
  if spec.flags.contains 45 then head ++ digits ++ List.replicate (w - len) 32
  else if spec.flags.contains 48 && spec.precision.isNone then
    head ++ List.replicate (w - len) 48 ++ digits
  else List.replicate (w - len) 32 ++ head ++ digits

/-- Reads a number argument the way `printf` does. Returns the value and the message for text
that is not wholly a number. -/
def numberArg (arg : Bytes) (unsigned : Bool) : Int × Option Bytes :=
  match arg with
  | q :: rest =>
    if q == 34 || q == 39 then ((rest.headD 0).toNat, none)
    else
      let cs := arg.map fun b => Char.ofNat b.toNat
      let isSpace (c : Char) : Bool := c == ' ' || ('\t' ≤ c && c ≤ '\r')
      let body := cs.dropWhile isSpace
      let (neg, digits) := match body with
        | '-' :: r => (true, r)
        | '+' :: r => (false, r)
        | _ => (false, body)
      let parsed : Option (Nat × List Char) := match digits with
        | '0' :: x :: r =>
          if (x == 'x' || x == 'X') && r.head?.any (fun c => c.isDigit || ('a' ≤ c.toLower && c.toLower ≤ 'f')) then
            let ds := r.takeWhile fun c => c.isDigit || ('a' ≤ c.toLower && c.toLower ≤ 'f')
            some (ds.foldl (fun a c => a * 16 + (if c.isDigit then c.toNat - 48 else c.toLower.toNat - 87)) 0,
              r.drop ds.length)
          else if (x == 'b' || x == 'B') && r.head?.any (fun c => c == '0' || c == '1') then
            let ds := r.takeWhile fun c => c == '0' || c == '1'
            some (ds.foldl (fun a c => a * 2 + (c.toNat - 48)) 0, r.drop ds.length)
          else
            let ds := (x :: r).takeWhile fun c => '0' ≤ c && c ≤ '7'
            some (ds.foldl (fun a c => a * 8 + (c.toNat - 48)) 0, (x :: r).drop ds.length)
        | c :: _ =>
          if c.isDigit then
            let ds := digits.takeWhile Char.isDigit
            some (ds.foldl (fun a c => a * 10 + (c.toNat - 48)) 0, digits.drop ds.length)
          else none
        | [] => none
      match parsed with
      | none => (0, some (arg ++ utf8 ": expected numeric value"))
      | some (mag, rest) =>
        let v : Int := if neg then -(mag : Int) else mag
        let lo : Int := if unsigned then -18446744073709551615 else -9223372036854775808
        let hi : Int := if unsigned then 18446744073709551615 else 9223372036854775807
        let (v, range) := if v < lo then (lo, true) else if hi < v then (hi, true) else (v, false)
        if !rest.isEmpty then (v, some (arg ++ utf8 ": not completely converted"))
        else if range then (v, some (arg ++ utf8 ": Numerical result out of range"))
        else (v, none)
  | [] => (0, none)

/-- Reads a number argument of a floating conversion the way `printf` does. Returns the value and
the message for text that is not wholly a number or is out of range. -/
def doubleArg (arg : Bytes) : Double × Option Bytes :=
  match arg with
  | q :: rest =>
    if q == 34 || q == 39 then (Double.ofSmall (rest.headD 0).toNat, none)
    else
      match Double.readPrefix (arg.map fun b => Char.ofNat b.toNat) with
      | none => (Double.zero, some (arg ++ utf8 ": expected numeric value"))
      | some (v, range, after) =>
        if !after.isEmpty then (v, some (arg ++ utf8 ": not completely converted"))
        else if range then (v, some (arg ++ utf8 ": Numerical result out of range"))
        else (v, none)
  | [] => (Double.zero, none)

/-- Reads the flags, width and precision of a conversion after its `%`, taking `*` values from
the arguments. Returns the conversion, the arguments left and the text after it, or nothing when
the format ends first. -/
def readSpec (fmt : Bytes) (args : List Bytes) (pr : Printed) :
    Option (Spec × List Bytes × Bytes × Printed) :=
  let flags := fmt.takeWhile fun b => [35, 45, 43, 32, 48].contains b
  let rest := fmt.drop flags.length
  let starArg (args : List Bytes) (pr : Printed) : Nat × List Bytes × Printed :=
    match args with
    | a :: more =>
      let (v, note) := numberArg a false
      let pr := match note with
        | some n => { pr with notes := pr.notes ++ [n], status := 1 }
        | none => pr
      (v.toNat, more, pr)
    | [] => (0, [], pr)
  let (width, rest, args, pr) : Option Nat × Bytes × List Bytes × Printed := match rest with
    | 42 :: more => let (v, args, pr) := starArg args pr; (some v, more, args, pr)
    | _ =>
      let ds := rest.takeWhile fun b => 48 ≤ b && b ≤ 57
      (if ds.isEmpty then none else some (ds.foldl (fun a d => a * 10 + (d.toNat - 48)) 0),
        rest.drop ds.length, args, pr)
  let (precision, rest, args, pr) : Option Nat × Bytes × List Bytes × Printed := match rest with
    | 46 :: 42 :: more => let (v, args, pr) := starArg args pr; (some v, more, args, pr)
    | 46 :: more =>
      let ds := more.takeWhile fun b => 48 ≤ b && b ≤ 57
      (some (ds.foldl (fun a d => a * 10 + (d.toNat - 48)) 0), more.drop ds.length, args, pr)
    | _ => (none, rest, args, pr)
  match rest with
  | c :: after =>
    let text := [37] ++ fmt.take (fmt.length - after.length)
    some (⟨flags, width, precision, c, text⟩, args, after, pr)
  | [] => none

/-- The result of one conversion: the printed state, or the message of an error that stops
`printf`, and whether `\c` stopped the output. -/
inductive Converted
  | ok (pr : Printed) (args : List Bytes)
  | stop (pr : Printed)
  | error (pr : Printed) (msg : Bytes)

/-- Applies one conversion. -/
def convert (spec : Spec) (args : List Bytes) (pr : Printed) : Converted :=
  let (arg, more) : Option Bytes × List Bytes := match args with
    | a :: more => (some a, more)
    | [] => (none, [])
  let number (unsigned : Bool) : Int × Printed :=
    match arg with
    | some a =>
      let (v, note) := numberArg a unsigned
      match note with
      | some n => (v, { pr with notes := pr.notes ++ [n], status := 1 })
      | none => (v, pr)
    | none => (0, pr)
  let c := spec.conv
  if c == 115 then
    let s := arg.getD []
    let s := match spec.precision with
      | some p => s.take p
      | none => s
    .ok { pr with out := pr.out ++ pad spec.flags spec.width s } more
  else if c == 98 then
    let (s, stop) := unescapeArg ((arg.getD []).length + 1) (arg.getD [])
    let s := match spec.precision with
      | some p => s.take p
      | none => s
    let pr := { pr with out := pr.out ++ pad spec.flags spec.width s }
    if stop then .stop pr else .ok pr more
  else if c == 99 then
    let s : Bytes := [(arg.getD []).headD 0]
    .ok { pr with out := pr.out ++ pad spec.flags spec.width s } more
  else if c == 100 || c == 105 then
    let (v, pr) := number false
    .ok { pr with out := pr.out ++ formatNumber spec (v < 0) (digitsIn 10 false v.natAbs) [] } more
  else if c == 111 || c == 117 || c == 120 || c == 88 then
    let (v, pr) := number true
    let u := (v % 18446744073709551616).toNat
    let base := if c == 111 then 8 else if c == 117 then 10 else 16
    let digits := digitsIn base (c == 88) u
    let lead : Bytes :=
      if !spec.flags.contains 35 then []
      else if c == 111 then (if digits.headD 48 == 48 then [] else [48])
      else if c == 120 then (if u == 0 then [] else [48, 120])
      else if c == 88 then (if u == 0 then [] else [48, 88])
      else []
    .ok { pr with out := pr.out ++ formatNumber { spec with flags := spec.flags.filter (· != 43) |>.filter (· != 32) } false digits lead } more
  else if [101, 69, 102, 70, 103, 71, 97, 65].contains c then
    let (v, pr) := match arg with
      | some a =>
        let (v, note) := doubleArg a
        match note with
        | some n => (v, { pr with notes := pr.notes ++ [n], status := 1 })
        | none => (v, pr)
      | none => (Double.zero, pr)
    let text := Double.format v (Char.ofNat c.toNat) (spec.flags.map fun b => Char.ofNat b.toNat)
      spec.width spec.precision
    .ok { pr with out := pr.out ++ text.map fun ch => ch.toNat.toUInt8 } more
  else .error pr (spec.text ++ utf8 ": invalid directive")

/-- Runs through a format once. Returns the printed state and the arguments left, or why it
stopped. -/
def formatOnce : Nat → Bytes → List Bytes → Printed → Converted
  | 0, _, args, pr => .ok pr args
  | _ + 1, [], args, pr => .ok pr args
  | n + 1, 92 :: rest, args, pr =>
    let (c, rest) := escapeAt rest
    formatOnce n rest args { pr with out := pr.out ++ [c] }
  | n + 1, 37 :: 37 :: rest, args, pr => formatOnce n rest args { pr with out := pr.out ++ [37] }
  | n + 1, 37 :: rest, args, pr =>
    match readSpec rest args pr with
    | none => .error pr (utf8 "missing format character")
    | some (spec, args, after, pr) =>
      match convert spec args pr with
      | .ok pr args => formatOnce n after args pr
      | other => other
  | n + 1, b :: rest, args, pr => formatOnce n rest args { pr with out := pr.out ++ [b] }

/-- Runs `printf` with a format and arguments: the format is used again while arguments remain
and the last pass used some. -/
def printfRun : Nat → Bytes → List Bytes → Printed → Converted
  | 0, _, args, pr => .ok pr args
  | k + 1, fmt, args, pr =>
    match formatOnce (fmt.length + 1) fmt args pr with
    | .ok pr left =>
      if left.isEmpty || left.length == args.length then .ok pr left
      else printfRun k fmt left pr
    | other => other

end Conch.Sh
